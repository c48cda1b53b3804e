import Adventure.Proofs.World.Copies
import Adventure.Proofs.World.Insertion
import Adventure.Proofs.World.Operations
import Adventure.Proofs.World.Whereabouts

/-!
# Copies left behind

Whether a copy may be put somewhere is asked about the item that is to be copied, and the copy is
made before anything is asked about the copy itself. A container that already holds the item lets
the item in but not a copy of it, and one that is inside the slot of an earlier copy does not let
the next copy in, which takes that slot. In both cases the copy is left behind, nowhere.
-/

namespace Adventure.World

variable {world copied : World} {holder : Holder} {key copy : ItemKey}

/-! ## The next copy of an item -/

/-- The slot that the next copy of an item takes: that of an earlier copy that is nowhere by now, or
a new one. -/
def copySlot (world : World) (key : ItemKey) : ItemKey :=
  match world.keyedItems.find? fun (_, i) => i.copyOf == some key && i.isSpent with
  | some (spent, _) => spent
  | none => world.nextKey

/-- A copy of an item as it is when it has just been made: empty and nowhere. -/
def freshCopy? (world : World) (key : ItemKey) : Option Item :=
  (world.item? key).map fun item =>
    { item.withContents none with holder := none, copyOf := some key }

/-- Whatever exists can be copied, into the slot for the next copy. -/
theorem exists_copyItem (h : (world.item? key).isSome = true) :
    ∃ copied, world.copyItem key = .ok (copied, world.copySlot key) := by
  obtain ⟨item, hitem⟩ := Option.isSome_iff_exists.mp h
  unfold copyItem tryCopyItem copySlot
  simp only [hitem]
  cases world.keyedItems.find? fun (_, i) => i.copyOf == some key && i.isSpent with
  | none => exact ⟨_, rfl⟩
  | some entry => exact ⟨_, rfl⟩

theorem item?_copy (h : world.copyItem key = .ok (copied, copy)) :
    copied.item? copy = world.freshCopy? key := by
  obtain ⟨item, hitem, ⟨⟨spent, hspent, -⟩, rfl⟩ | ⟨-, rfl, rfl⟩⟩ := copyItem_cases h
  · rw [item?_modifyItem, if_pos rfl, hspent, freshCopy?, hitem]
    rfl
  · rw [item?_append, if_pos rfl, freshCopy?, hitem]
    rfl

/-- Making a copy changes nothing exactly if the slot that it takes is what the copy will be. -/
theorem eq_of_copyItem_iff (h : world.copyItem key = .ok (copied, copy)) :
    copied = world ↔ world.item? copy = world.freshCopy? key := by
  constructor
  · rintro rfl
    exact item?_copy h
  · intro hfresh
    have hitems : copied.items = world.items := by
      refine List.ext_getElem? fun slot => ?_
      change copied.item? ⟨slot⟩ = world.item? ⟨slot⟩
      by_cases heq : ⟨slot⟩ = copy
      · rw [heq, item?_copy h, hfresh]
      · exact item?_copyItem h heq
    have hrest : copied = { world with items := copied.items } := by
      obtain ⟨item, -, ⟨-, rfl⟩ | ⟨-, -, rfl⟩⟩ := copyItem_cases h <;> rfl
    rw [hrest, hitems]

/-! ## Copies that are refused -/

/-- When a holder lets an item in, it lets a copy of it in as well, unless it is a container which
holds something by now, or which is itself in the slot of the copy or inside that. -/
theorem admits_copy_iff (hnested : world.Nested) (hadmits : world.Admits holder key)
    (h : world.copyItem key = .ok (copied, copy)) :
    copied.Admits holder copy ↔ ∀ container, holder = .item container →
      (∀ occupant ∈ world.contents holder, occupant = copy) ∧
        world.within copy container = false := by
  have hencloses (container : ItemKey) :
      copied.encloses copy container = world.encloses copy container :=
    (relocates_copyItem hnested h).encloses_of_apart (by simp)
  constructor
  · rintro hcopy container rfl
    obtain ⟨hne, houtside⟩ := hcopy.outside container rfl
    refine ⟨fun occupant hoccupant => hcopy.free container rfl occupant ?_, ?_⟩
    · rwa [contents_copyItem h, if_neg (mt Holder.item.inj hne)]
    · rw [within, ← hencloses, houtside, Bool.or_false]
      exact beq_false_of_ne hne
  · intro hfree
    refine ⟨isSome_item?_copy h, ?_, ?_, ?_⟩
    · have hlist := hadmits.canList
      cases holder with
      | location id =>
        obtain ⟨item, -, ⟨-, rfl⟩ | ⟨-, -, rfl⟩⟩ := copyItem_cases h <;> exact hlist
      | inventory id =>
        obtain ⟨item, -, ⟨-, rfl⟩ | ⟨-, -, rfl⟩⟩ := copyItem_cases h <;> exact hlist
      | item container =>
        have hne : container ≠ copy := by
          rintro rfl
          have houtside := (hfree container rfl).2
          rw [within_self] at houtside
          cases houtside
        simp only [CanList] at hlist ⊢
        rwa [item?_copyItem h hne]
    · rintro container rfl occupant hoccupant
      rw [contents_copyItem h] at hoccupant
      split at hoccupant
      · cases hoccupant
      · exact (hfree container rfl).1 occupant hoccupant
    · rintro container rfl
      have houtside := (hfree container rfl).2
      rw [within, Bool.or_eq_false_iff, beq_eq_false_iff_ne] at houtside
      rw [hencloses]
      exact houtside

/-- Putting a copy into a holder that lets the item in succeeds if the holder lets the copy in as
well; otherwise it is refused, and the copy has been made. -/
theorem copyInto_of_admits (hadmits : world.Admits holder key)
    (hcopy : world.copyItem key = .ok (copied, copy)) :
    (copied.Admits holder copy ∧ ∃ filled, world.copyInto holder key = (filled, .ok copy)) ∨
      (¬ copied.Admits holder copy ∧
        ∃ refusal, world.copyInto holder key = (copied, .error refusal)) := by
  rw [copyInto_eq hadmits hcopy]
  cases hinsert : copied.insert holder copy with
  | ok filled => exact .inl ⟨(insert_cases hinsert).1, filled, rfl⟩
  | error refusal =>
    refine .inr ⟨fun hcopied => ?_, refusal, rfl⟩
    obtain ⟨filled, hfilled⟩ := exists_insert hcopied
    rw [hinsert] at hfilled
    cases hfilled

/-- A copy of the item for the container is made in vain and leaves a trace: the container takes the
item, but it holds something by now or is in the slot of the copy or inside that. -/
structure Strands (world : World) (container key : ItemKey) : Prop where
  /-- The container takes the item. -/
  takes : world.Takes (.item container) key
  /-- The container does not take the copy. -/
  refused : (∃ occupant ∈ world.contents (.item container), occupant ≠ world.copySlot key) ∨
    world.within (world.copySlot key) container = true
  /-- The slot of the copy was not there yet, or was not what the copy is. -/
  trace : world.item? (world.copySlot key) ≠ world.freshCopy? key

/-- A copy that is made in vain is all that has changed. -/
theorem Strands.copyInto (hnested : world.Nested) {container : ItemKey}
    (h : world.Strands container key) :
    ∃ copied refusal, world.copyItem key = .ok (copied, world.copySlot key) ∧
      world.copyInto (.item container) key = (copied, .error refusal) ∧ copied ≠ world := by
  have hadmits := (takes_iff_admits hnested).mp h.takes
  obtain ⟨copied, hcopy⟩ := exists_copyItem hadmits.known
  rcases copyInto_of_admits hadmits hcopy with ⟨hcopied, -⟩ | ⟨-, refusal, hinto⟩
  · obtain ⟨hfree, houtside⟩ := (admits_copy_iff hnested hadmits hcopy).mp hcopied container rfl
    rcases h.refused with ⟨occupant, hoccupant, hne⟩ | hwithin
    · exact absurd (hfree occupant hoccupant) hne
    · rw [houtside] at hwithin
      cases hwithin
  · exact ⟨copied, refusal, hcopy, hinto, mt (eq_of_copyItem_iff hcopy).mp h.trace⟩

/-- Whatever is refused and yet leaves a trace is a copy that is made in vain. -/
theorem exists_strands (hnested : world.Nested) {refusal : WorldError}
    (hrefused : (world.copyInto holder key).2 = .error refusal)
    (htrace : (world.copyInto holder key).1 ≠ world) :
    ∃ container, holder = .item container ∧ world.Strands container key := by
  cases hrefusal : world.refusal? holder key with
  | some refusal => simp [copyInto, hrefusal] at htrace
  | none =>
    have hadmits := refusal?_eq_none_iff.mp hrefusal
    obtain ⟨copied, hcopy⟩ := exists_copyItem hadmits.known
    rcases copyInto_of_admits hadmits hcopy with ⟨-, filled, hinto⟩ | ⟨hnot, refusal, hinto⟩
    · rw [hinto] at hrefused
      cases hrefused
    · rw [hinto] at htrace
      rw [admits_copy_iff hnested hadmits hcopy] at hnot
      push Not at hnot
      obtain ⟨container, rfl, hbarred⟩ := hnot
      refine ⟨container, rfl, (takes_iff_admits hnested).mpr hadmits, ?_,
        mt (eq_of_copyItem_iff hcopy).mpr htrace⟩
      by_cases hfree : ∀ occupant ∈ world.contents (.item container), occupant = world.copySlot key
      · exact .inr (by simpa using hbarred hfree)
      · push Not at hfree
        exact .inl hfree

/-- **When refused copies leave no trace.** After any operations on a new world, successful or
refused, putting a copy of an item into a holder leaves the world as it was when it is refused,
exactly if the holder is no container for which the copy is made in vain. For such a container the
refused copy is left behind, and nothing else changes. -/
theorem refused_copy_traceless_iff (name : String) (start : LocationId)
    (operations : List Operation) (holder : Holder) (key : ItemKey) :
    let world := (new name start).after operations
    ((∀ refusal, (world.copyInto holder key).2 = .error refusal →
        (world.copyInto holder key).1 = world) ↔
      ∀ container, holder = .item container → ¬ world.Strands container key) ∧
      ∀ container, world.Strands container key → ∃ copied refusal,
        world.copyItem key = .ok (copied, world.copySlot key) ∧
          world.copyInto (.item container) key = (copied, .error refusal) ∧ copied ≠ world := by
  intro world
  have hnested : world.Nested := (nested_new name start).after
  refine ⟨⟨?_, fun hnot refusal hrefused => ?_⟩, fun container => Strands.copyInto hnested⟩
  · rintro htraceless container rfl hstrands
    obtain ⟨copied, refusal, -, hinto, hne⟩ := hstrands.copyInto hnested
    have hsame := htraceless refusal (by rw [hinto])
    rw [hinto] at hsame
    exact hne hsame
  · by_contra htrace
    obtain ⟨container, rfl, hstrands⟩ := exists_strands hnested hrefused htrace
    exact hnot container rfl hstrands

/-- There is water in a flask, and a box in a copy of a mug, which is nowhere. -/
def pouring : List Operation :=
  let hall : Location := { id := ⟨1⟩, labels := ⟨"hall", "hall", "", [], none⟩ }
  let thing (number : Nat) (flags : ItemFlags) (name : String) : Operation :=
    .addItem (.ofAttributes ⟨number⟩ flags ⟨name, name, "", [], none⟩ 1)
  [.addLocation hall, .addInventory { id := ⟨1⟩, capacity := 9, isDefault := true },
    thing 1 (ItemFlags.liquid.set ItemFlags.copyable) "water",
    thing 2 (ItemFlags.container.set ItemFlags.holdsLiquids) "flask",
    thing 3 (ItemFlags.container.set ItemFlags.copyable) "mug",
    thing 4 (ItemFlags.container.set ItemFlags.holdsSolids) "box",
    .insert (.inventory ⟨1⟩) ⟨1⟩, .insert (.item ⟨1⟩) ⟨0⟩, .copyItem ⟨2⟩,
    .insert (.item ⟨4⟩) ⟨3⟩]

/-- The flask refuses a second water, but only after a copy of the water has been made; and the box
refuses a second copy of the mug, but only after the first one has been emptied to become that. The
copy of the water that was left behind is what another refused one would be. -/
theorem refused_copy_traceless_iff_pouring :
    let world := (new "pouring" ⟨1⟩).after pouring
    (world.Strands ⟨1⟩ ⟨0⟩ ∧
      (world.copyInto (.item ⟨1⟩) ⟨0⟩).1.items.length = world.items.length + 1) ∧
    (world.Strands ⟨3⟩ ⟨2⟩ ∧ world.contents (.item ⟨4⟩) = [⟨3⟩] ∧
      (world.copyInto (.item ⟨3⟩) ⟨2⟩).1.contents (.item ⟨4⟩) = []) ∧
    ¬ (world.perform (.copyInto (.item ⟨1⟩) ⟨0⟩)).Strands ⟨1⟩ ⟨0⟩ := by
  intro world
  have hstrands {container key : ItemKey} (refusal : WorldError)
      (hrefused : (world.copyInto (.item container) key).2 = .error refusal)
      (htrace : (world.copyInto (.item container) key).1 ≠ world) :
      world.Strands container key := by
    by_contra hnot
    have hsame := refused_copy_traceless_iff "pouring" ⟨1⟩ pouring (.item container) key
    exact htrace (hsame.1.mpr (fun _ heq => by cases heq; exact hnot) refusal hrefused)
  have hlength : (world.copyInto (.item ⟨1⟩) ⟨0⟩).1.items.length = world.items.length + 1 := by
    decide
  have hbefore : world.contents (.item ⟨4⟩) = [⟨3⟩] := by decide
  have hafter : (world.copyInto (.item ⟨3⟩) ⟨2⟩).1.contents (.item ⟨4⟩) = [] := by decide
  refine ⟨⟨hstrands (.containerOccupied ⟨1⟩ ⟨0⟩) rfl fun hsame => ?_, hlength⟩,
    ⟨hstrands (.selfContainment ⟨4⟩) rfl fun hsame => ?_, hbefore, hafter⟩,
    fun hagain => hagain.trace rfl⟩
  · rw [hsame] at hlength
    omega
  · rw [hsame, hbefore] at hafter
    cases hafter

end Adventure.World
