import Adventure.Proofs.Turn.Course
import Adventure.Proofs.Turn.Effects
import Adventure.Proofs.World.Origins

/-!
# Copies in a turn

A turn adds at most one copy, when its command puts one somewhere. Events and death may move things
after that, but events move only what was declared and death only lays things down, so a copy that
was somewhere still is as the turn ends.
-/

namespace Adventure

namespace World

variable {world between changed : World} {key : ItemKey} {action : Action} {actions : List Action}

/-! ## What changes keep -/

theorem ItemChange.origin_eq {f : Item → Item} (h : ItemChange f) (item : Item) :
    (f item).origin = item.origin := by
  cases h <;> rfl

/-- No change concerns where items come from. -/
theorem Change.origins (h : Change world changed) : changed.origins = world.origins := by
  cases h with
  | insert h => exact origins_insert h
  | destroy h => exact origins_destroy h
  | item h => exact origins_modifyItem fun item _ => h.origin_eq item
  | player h => rfl
  | location h => rfl
  | fire id => rfl

theorem Evolves.origins (h : world.Evolves changed) : changed.origins = world.origins :=
  h.keeps (P := fun later => later.origins = world.origins)
    (fun _ _ hchange hbefore => hchange.origins.trans hbefore) rfl

/-- A command that is carried out adds at most one copy. -/
theorem Carries.copies {model : Option ItemKey} (hfaithful : world.Faithful)
    (h : world.Carries model changed) : world.Copies changed := by
  rcases h.cases with hevolves | ⟨holder, key, copy, copied, hcopy, hinsert⟩
  · exact .same hevolves.origins
  · exact copies_insert hfaithful hcopy hinsert

/-! ## Events -/

/-- An action moves nothing but the items that it names. -/
theorem Effects.holder?_eq (h : world.Effects action changed) (hkey : key ∉ action.moved) :
    changed.holder? key = world.holder? key := by
  cases h with
  | destroy h => rw [holder?_destroy h, if_neg (List.ne_of_not_mem_cons hkey)]
  | move h => rw [holder?_insert h, if_neg (List.ne_of_not_mem_cons hkey)]
  | give _ h => rw [holder?_insert h, if_neg (List.ne_of_not_mem_cons hkey)]
  | keep => rfl
  | replace _ hdestroy hinsert =>
    rw [holder?_insert hinsert, if_neg fun heq => hkey (by simp [Action.moved, heq]),
      holder?_destroy hdestroy, if_neg (List.ne_of_not_mem_cons hkey)]
  | vanish _ h => rw [holder?_destroy h, if_neg (List.ne_of_not_mem_cons hkey)]
  | rest _ h => exact h.holder key

/-- Actions that are all done move nothing but the items that they name. -/
theorem holder?_applyAll (h : world.applyAll actions = .ok changed)
    (hkey : ∀ action ∈ actions, key ∉ action.moved) :
    changed.holder? key = world.holder? key := by
  induction actions generalizing world with
  | nil =>
    cases h
    rfl
  | cons action rest ih =>
    obtain ⟨hfirst, hlater⟩ := List.forall_mem_cons.mp hkey
    obtain ⟨between, happly, hrest⟩ := applyAll_cons h
    exact (ih hrest hlater).trans ((effects_apply happly).holder?_eq hfirst)

/-- No event moves copies. -/
def Spares (world : World) : Prop :=
  ∀ id event, world.event? id = some event → ∀ action ∈ event.outcome.actions,
    ∀ key ∈ action.moved, ∃ number, world.origins[key.slot]? = some (number, none)

/-- While the setting stays and items are only added, no event comes to move copies. -/
theorem Spares.of_extends (hspares : world.Spares) (hsetting : changed.setting = world.setting)
    (hextends : world.origins <+: changed.origins) : changed.Spares := by
  intro id event hevent action haction key hkey
  have hsame := event?_of_setting hsetting id
  rw [hevent, Option.map_some, eq_comm, Option.map_eq_some_iff] at hsame
  obtain ⟨before, hbefore, hpristine⟩ := hsame
  have houtcome : before.pristine.outcome = event.pristine.outcome := by rw [hpristine]
  obtain ⟨number, hnumber⟩ := hspares id before hbefore action (houtcome ▸ haction) key hkey
  exact ⟨number, getElem?_of_extends hextends hnumber⟩

/-- An event that answers a command leaves copies where they are. -/
theorem Answers.holder?_eq {fired : Option EventId} (h : world.Answers fired changed)
    (hspares : world.Spares) {number : DataId} {model : ItemKey}
    (hcopy : world.origins[key.slot]? = some (number, some model)) :
    changed.holder? key = world.holder? key := by
  cases fired with
  | none => rw [show changed = world from h]
  | some id =>
    obtain ⟨event, done, hevent, hdone, hstays⟩ := Fires.stays h
    rw [hstays.holder]
    refine holder?_applyAll hdone fun action haction hkey => ?_
    obtain ⟨other, hother⟩ := hspares id event hevent action haction key hkey
    cases hcopy.symm.trans hother

/-! ## Death -/

/-- Laying an item down takes nothing out of the world. -/
theorem holder?_layDown_ne_none (location : LocationId) (laid : ItemKey)
    (h : world.holder? key ≠ none) : (layDown location world laid).holder? key ≠ none := by
  refine layDown_keeps (P := fun changed => changed.holder? key ≠ none) ?_ fun changed hinsert => ?_
  · rwa [holder?_modifyItem_withWorn]
  · rw [holder?_insert hinsert, holder?_modifyItem_withWorn]
    split
    · exact Option.some_ne_none _
    · exact h

/-- Death takes nothing out of the world. -/
theorem holder?_mourned_ne_none (h : world.holder? key ≠ none) :
    world.mourned.holder? key ≠ none := by
  unfold mourned
  split
  · exact h
  · exact List.foldlRecOn world.carried (layDown world.player.location)
      (motive := fun laid => laid.holder? key ≠ none) h
      fun _ hbefore item _ => holder?_layDown_ne_none _ item hbefore

end World

/-- A turn adds at most one copy, and no copy of the same item is nowhere then. -/
theorem Turn.Course.copies {turn : Turn} {command : Command} {args : List Arg} {final : World}
    (h : turn.Course command args final) (hfaithful : turn.world.Faithful)
    (hspares : turn.world.Spares) : turn.world.Copies final := by
  cases h with
  | refused pending hfinal => exact .same (hfinal ▸ rfl)
  | @completed deed acted reckoned watched hdeed hacted hwatched hreckoned hdoes hcarries hrests
      hwatches hanswers hevolves hfinal =>
    have hforgotten : (turn.world.modifyPlayer (·.forget)).Faithful := hfaithful
    have hcopies : turn.world.Copies acted := (hcarries.copies hforgotten).of_origins rfl
    have hstill : watched.1.world.Spares := by
      refine hspares.of_extends ?_ (hwatches.origins ▸ hcopies.origins_extend)
      exact hwatches.setting.trans (hcarries.setting.trans (World.setting_modifyPlayer rfl))
    have hends := hevolves.trans reckoned.evolves_mourned
    rw [hfinal]
    refine hcopies.after (hends.origins.trans hwatches.origins)
      fun slot number model hcopy hsomewhere => ?_
    refine World.holder?_mourned_ne_none ?_
    rw [hanswers.holder?_eq hstill (hwatches.origins ▸ hcopy), hrests.holder]
    exact hsomewhere

end Adventure
