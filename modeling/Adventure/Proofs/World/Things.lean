import Adventure.Proofs.World.Ledger
import Adventure.Proofs.World.Operations
import Adventure.World.Listing

/-!
# Changes of things alone

Most of what happens in a game happens to things and places: things are moved, copied, worn and
switched, and places are seen and linked. The player and the events have no part in that.
-/

namespace Adventure.World

/-- Nothing has changed but things and places: the player and the events are as before. -/
structure ThingsOnly (world changed : World) : Prop where
  /-- The player is as before. -/
  player : changed.player = world.player
  /-- The events are as before. -/
  events : changed.events = world.events

variable {world between changed : World} {holder : Holder} {key : ItemKey}

theorem ThingsOnly.refl (world : World) : world.ThingsOnly world := ⟨rfl, rfl⟩

theorem ThingsOnly.trans (h : world.ThingsOnly between) (h' : between.ThingsOnly changed) :
    world.ThingsOnly changed :=
  ⟨h'.player.trans h.player, h'.events.trans h.events⟩

theorem thingsOnly_insert (h : world.insert holder key = .ok changed) : world.ThingsOnly changed :=
  ⟨player_insert h, congrArg Prod.snd (ledger_insert h)⟩

theorem thingsOnly_destroy (h : world.destroy key = .ok changed) : world.ThingsOnly changed :=
  ⟨player_destroy h, congrArg Prod.snd (ledger_destroy h)⟩

theorem thingsOnly_copyItem {copy : ItemKey} (h : world.copyItem key = .ok (changed, copy)) :
    world.ThingsOnly changed :=
  ⟨player_copyItem h, congrArg Prod.snd (ledger_copyItem h)⟩

theorem thingsOnly_copyInto (world : World) (holder : Holder) (key : ItemKey) :
    world.ThingsOnly (world.copyInto holder key).1 := by
  rcases world.copyInto_cases holder key with hsame | ⟨copied, copy, hcopy, hcopied | hfilled⟩
  · rw [hsame]
    exact .refl world
  · rw [hcopied]
    exact thingsOnly_copyItem hcopy
  · exact (thingsOnly_copyItem hcopy).trans (thingsOnly_insert hfilled)

theorem thingsOnly_modifyItem (world : World) (key : ItemKey) (f : Item → Item) :
    world.ThingsOnly (world.modifyItem key f) := ⟨rfl, rfl⟩

theorem thingsOnly_modifyLocation (world : World) (id : LocationId) (f : Location → Location) :
    world.ThingsOnly (world.modifyLocation id f) := ⟨rfl, rfl⟩

theorem thingsOnly_setTarget (world : World) (on : Bool) (target : SwitchTarget) :
    world.ThingsOnly (world.setTarget on target) := by
  cases target with
  | item key flag => exact thingsOnly_modifyItem _ _ _
  | location id flag => exact thingsOnly_modifyLocation _ _ _

theorem thingsOnly_relink {id : LocationId} {direction : Direction}
    {destination : Option LocationId} (h : world.relink id direction destination = .ok changed) :
    world.ThingsOnly changed := by
  unfold relink at h
  split at h <;> cases h
  exact thingsOnly_modifyLocation _ _ _

/-- Looking around only leaves the place seen. -/
theorem thingsOnly_lookAround (world : World) (full : Bool) :
    world.ThingsOnly (world.lookAround full).1 := by
  unfold lookAround
  dsimp only
  split
  · exact thingsOnly_modifyLocation _ _ _
  · exact .refl world

end Adventure.World
