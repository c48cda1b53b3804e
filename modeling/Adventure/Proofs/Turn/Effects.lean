import Adventure.Proofs.Turn.Stages
import Adventure.Proofs.World.Rest

/-!
# What actions do to things

The actions of an event are done one after the other. An action destroys an item, moves one, does
both, or lets everything stay where it is.
-/

namespace Adventure

/-- The items that an action moves. -/
def Action.moved : Action → List ItemKey
  | destroyItem item | moveItem item _ | giveItem item => [item]
  | replaceItem outgoing incoming => [outgoing, incoming]
  | _ => []

namespace World

/-- How an action that is done changes a world. -/
inductive Effects (world : World) : Action → World → Prop
  /-- An item is destroyed. -/
  | destroy {item : ItemKey} {changed : World} (h : world.destroy item = .ok changed) :
      Effects world (.destroyItem item) changed
  /-- An item is moved. -/
  | move {item : ItemKey} {place : Holder} {changed : World}
      (h : world.insert place item = .ok changed) : Effects world (.moveItem item place) changed
  /-- An item is given to the player. -/
  | give {item : ItemKey} {inventory : InventoryId} {changed : World}
      (hserves : world.currentInventory? = some inventory)
      (h : world.insert (.inventory inventory) item = .ok changed) :
      Effects world (.giveItem item) changed
  /-- An item is not given to a player without an inventory. -/
  | keep {item : ItemKey} (hserves : world.currentInventory? = none) :
      Effects world (.giveItem item) world
  /-- An item that is somewhere is destroyed, and another one takes its place. -/
  | replace {outgoing incoming : ItemKey} {place : Holder} {destroyed changed : World}
      (hplace : world.holder? outgoing = some place)
      (hdestroy : world.destroy outgoing = .ok destroyed)
      (hinsert : destroyed.insert place incoming = .ok changed) :
      Effects world (.replaceItem outgoing incoming) changed
  /-- An item that is nowhere is destroyed, and no other one takes its place. -/
  | vanish {outgoing incoming : ItemKey} {changed : World} (hplace : world.holder? outgoing = none)
      (h : world.destroy outgoing = .ok changed) :
      Effects world (.replaceItem outgoing incoming) changed
  /-- Things stay where they are. -/
  | rest {action : Action} {changed : World} (hmoved : action.moved = [])
      (h : world.Rests changed) : Effects world action changed

variable {world changed : World} {action : Action} {actions : List Action}

/-- Every action that is done has one of these effects. -/
theorem effects_apply (h : world.apply action = (changed, .ok ())) :
    world.Effects action changed := by
  cases action with
  | destroyItem item => exact .destroy (map_accepted_eq_ok_iff.mpr h)
  | moveItem item place => exact .move (map_accepted_eq_ok_iff.mpr h)
  | giveItem item =>
    simp only [apply] at h
    split at h
    · rename_i hserves
      exact .give hserves (map_accepted_eq_ok_iff.mpr h)
    · rename_i hserves
      cases h
      exact .keep hserves
  | replaceItem outgoing incoming =>
    simp only [apply] at h
    split at h
    · cases h
    · rename_i hdestroy
      split at h
      · rename_i hplace
        exact .replace hplace (map_accepted_eq_ok_iff.mpr hdestroy) (map_accepted_eq_ok_iff.mpr h)
      · rename_i hplace
        cases h
        exact .vanish hplace (map_accepted_eq_ok_iff.mpr hdestroy)
  | setPlayerAttribute flag on =>
    cases h
    exact .rest rfl (rests_modifyPlayer rfl rfl)
  | setLocationAttribute location flag on =>
    simp only [apply] at h
    split at h <;> cases h
    exact .rest rfl (world.rests_setTarget on _)
  | setItemAttribute item flag on =>
    simp only [apply] at h
    split at h <;> cases h
    exact .rest rfl (world.rests_setTarget on _)
  | linkDirection location direction destination =>
    have hrelink := attempt_ok h
    unfold relink at hrelink
    split at hrelink <;> cases hrelink
    exact .rest rfl (rests_modifyLocation (fun old => old.items_relink _ _)
      fun old => by simp [Location.pristine, Location.relink])
  | describeLocation location extension =>
    simp only [apply] at h
    split at h <;> cases h
    exact .rest rfl (rests_modifyLocation (fun _ => rfl) fun _ => rfl)
  | movePlayer location =>
    simp only [apply] at h
    split at h <;> cases h
    exact .rest rfl (rests_modifyPlayer rfl rfl)

/-- Every effect keeps items nested. -/
theorem Effects.nested (h : world.Effects action changed) (hnested : world.Nested) :
    changed.Nested := by
  cases h with
  | destroy h => exact hnested.move (.destroy h)
  | move h => exact hnested.move (.insert h)
  | give _ h => exact hnested.move (.insert h)
  | keep => exact hnested
  | replace _ hdestroy hinsert => exact (hnested.move (.destroy hdestroy)).move (.insert hinsert)
  | vanish _ h => exact hnested.move (.destroy h)
  | rest _ h => exact (relocates_of_holder hnested h.holder).after

/-- Actions that are all done keep items nested. -/
theorem nested_applyAll (h : world.applyAll actions = .ok changed) (hnested : world.Nested) :
    changed.Nested := by
  induction actions generalizing world with
  | nil =>
    cases h
    exact hnested
  | cons action rest ih =>
    obtain ⟨between, happly, hrest⟩ := applyAll_cons h
    exact ih hrest ((effects_apply happly).nested hnested)

/-! ## Effects and the ledger -/

/-- An action that is done leaves the ledger alone. -/
theorem Effects.ledger (h : world.Effects action changed) : changed.ledger = world.ledger := by
  cases h with
  | destroy h => exact ledger_destroy h
  | move h => exact ledger_insert h
  | give _ h => exact ledger_insert h
  | keep => rfl
  | replace _ hdestroy hinsert => exact (ledger_insert hinsert).trans (ledger_destroy hdestroy)
  | vanish _ h => exact ledger_destroy h
  | rest _ h => exact h.ledger

/-- Actions that are all done leave the ledger alone. -/
theorem ledger_applyAll (h : world.applyAll actions = .ok changed) :
    changed.ledger = world.ledger := by
  induction actions generalizing world with
  | nil =>
    cases h
    rfl
  | cons action rest ih =>
    obtain ⟨between, happly, hrest⟩ := applyAll_cons h
    exact (ih hrest).trans (effects_apply happly).ledger

end World

end Adventure
