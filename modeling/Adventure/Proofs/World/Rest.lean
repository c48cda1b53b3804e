import Adventure.Proofs.World.Bodies
import Adventure.Proofs.World.Ledger
import Adventure.Proofs.World.Whereabouts
import Adventure.World.Listing

/-!
# Changes that move nothing

The player, what has been seen and the attributes of things change all the time while everything
stays where it is. What is true of things in their places stays true then.
-/

namespace Adventure.World

/-- Things stay where they are, apart from their attributes. -/
structure Stays (world changed : World) : Prop where
  /-- Items name the holders that they named before. -/
  holder : ∀ key, changed.holder? key = world.holder? key
  /-- Holders list what they listed before. -/
  contents : ∀ holder, changed.contents holder = world.contents holder
  /-- Nothing is put on or taken off. -/
  worn : ∀ key, changed.isWorn key = world.isWorn key
  /-- Items are as large as before. -/
  size : ∀ key, changed.size key = world.size key
  /-- The setting is as before. -/
  setting : changed.setting = world.setting

/-- Things stay where they are, and no event fires and no points are awarded. -/
structure Rests (world changed : World) : Prop extends Stays world changed where
  /-- The ledger is as before. -/
  ledger : changed.ledger = world.ledger

variable {world between changed : World} {holder : Holder} {key : ItemKey}

theorem Stays.refl (world : World) : world.Stays world :=
  ⟨fun _ => rfl, fun _ => rfl, fun _ => rfl, fun _ => rfl, rfl⟩

theorem Stays.trans (h : world.Stays between) (h' : between.Stays changed) : world.Stays changed :=
  ⟨fun key => (h'.holder key).trans (h.holder key),
    fun holder => (h'.contents holder).trans (h.contents holder),
    fun key => (h'.worn key).trans (h.worn key), fun key => (h'.size key).trans (h.size key),
    h'.setting.trans h.setting⟩

theorem Rests.refl (world : World) : world.Rests world := ⟨.refl world, rfl⟩

theorem Rests.trans (h : world.Rests between) (h' : between.Rests changed) : world.Rests changed :=
  ⟨h.toStays.trans h'.toStays, h'.ledger.trans h.ledger⟩

/-! ## Where things are -/

/-- What does not move any item is a move of none. -/
theorem relocates_of_holder (hnested : world.Nested)
    (h : ∀ key, changed.holder? key = world.holder? key) : Relocates [] none world changed := by
  refine ⟨hnested, hnested.of_inside fun inner outer hinside => ?_, fun key => by simp [h]⟩
  unfold Inside at hinside
  rwa [h] at hinside

/-- What does not touch the views of a world leaves things packed properly. -/
theorem Packed.of_views (hpacked : world.Packed)
    (hnames : ∀ key, changed.holder? key = world.holder? key)
    (hlists : ∀ holder, changed.contents holder = world.contents holder) : changed.Packed :=
  ⟨hpacked.exclusive.of_views hnames hlists, (relocates_of_holder hpacked.nested hnames).after⟩

/-- No change of the player touches how things are packed. -/
theorem Packed.modifyPlayer (hpacked : world.Packed) (f : Player → Player) :
    (world.modifyPlayer f).Packed :=
  hpacked.of_views (fun _ => rfl) fun holder => by cases holder <;> rfl

/-- Putting an item on or taking it off leaves things packed properly. -/
theorem Packed.withWorn (hpacked : world.Packed) (key : ItemKey) (worn : Bool) :
    (world.modifyItem key (·.withWorn worn)).Packed :=
  hpacked.of_views (world.holder?_modifyItem_withWorn key worn)
    (world.contents_modifyItem_withWorn key worn)

/-- Putting an item on or taking it off is a move of none. -/
theorem relocates_withWorn (hnested : world.Nested) (key : ItemKey) (worn : Bool) :
    Relocates [] none world (world.modifyItem key (·.withWorn worn)) :=
  relocates_of_holder hnested (world.holder?_modifyItem_withWorn key worn)

/-- Taking an item off before it is moved makes no difference to where it gets. -/
theorem relocates_insert_withWorn (hnested : world.Nested) {worn : Bool}
    (h : (world.modifyItem key (·.withWorn worn)).insert holder key = .ok changed) :
    Relocates [key] (some holder) world changed := by
  have hoff := relocates_withWorn hnested key worn
  refine ⟨hnested, hoff.after.move (.insert h), fun other => ?_⟩
  rw [holder?_insert h, holder?_modifyItem_withWorn]
  simp

/-- While things stay, they are in the same locations and inventories. -/
theorem Stays.outermost? (h : world.Stays changed) (hnested : world.Nested) (key : ItemKey) :
    changed.outermost? key = world.outermost? key := by
  rw [(relocates_of_holder hnested h.holder).outermost?]
  exact if_neg Bool.noConfusion

/-! ## Changes of one thing -/

/-- Things stay while the player changes. -/
theorem stays_modifyPlayer {f : Player → Player}
    (hstart : (f world.player).start = world.player.start) : world.Stays (world.modifyPlayer f) :=
  ⟨fun _ => rfl, fun holder => by cases holder <;> rfl, fun _ => rfl, fun _ => rfl,
    setting_modifyPlayer hstart⟩

/-- Things stay while it is noted that an event has fired. -/
theorem stays_markFired (world : World) (id : EventId) : world.Stays (world.markFired id) :=
  ⟨fun _ => rfl, fun holder => by cases holder <;> rfl, fun _ => rfl, fun _ => rfl,
    setting_modifyEvent fun _ => rfl⟩

/-- Things stay where they are while the player changes, and the ledger does unless points are
awarded. -/
theorem rests_modifyPlayer {f : Player → Player}
    (hstart : (f world.player).start = world.player.start)
    (hscore : (f world.player).score = world.player.score) : world.Rests (world.modifyPlayer f) :=
  ⟨stays_modifyPlayer hstart, Prod.ext hscore rfl⟩

/-- Nothing is moved by a change of a location that leaves its things alone. -/
theorem rests_modifyLocation {id : LocationId} {f : Location → Location}
    (hitems : ∀ location, (f location).items = location.items)
    (hpristine : ∀ location, (f location).pristine = location.pristine) :
    world.Rests (world.modifyLocation id f) :=
  ⟨⟨fun _ => rfl, contents_modifyLocation_of_items _ hitems, fun _ => rfl, fun _ => rfl,
    setting_modifyLocation hpristine⟩, rfl⟩

theorem rests_lookAround (world : World) (full : Bool) :
    world.Rests (world.lookAround full).1 := by
  unfold lookAround
  split
  · exact rests_modifyLocation (fun _ => rfl) fun _ => rfl
  · exact .refl world

/-- Setting or clearing an attribute of an item or a location moves nothing. -/
theorem rests_setTarget (world : World) (on : Bool) (target : SwitchTarget) :
    world.Rests (world.setTarget on target) := by
  cases target with
  | location id flag => exact rests_modifyLocation (fun _ => rfl) fun _ => rfl
  | item key flag =>
    refine ⟨⟨holder?_modifyItem_of_holder _ fun _ => by rfl,
      contents_modifyItem_of_contents _ fun _ => by rfl, fun other => ?_, fun other => ?_,
      setting_modifyItem _ _⟩, rfl⟩
    · unfold isWorn setTarget
      rw [item?_modifyItem]
      by_cases h : other = key
      · subst h
        cases world.item? other <;> simp [Item.isWorn]
      · rw [if_neg h]
    · unfold size setTarget
      rw [item?_modifyItem]
      by_cases h : other = key
      · subst h
        cases world.item? other <;> simp
      · rw [if_neg h]

end Adventure.World
