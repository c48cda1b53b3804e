import Adventure.Proofs.World.Copies
import Adventure.Proofs.World.Insertion
import Adventure.World.Weight

/-!
# Room in containers

A container has room for an item if it is free, holds things of its kind and is larger. Such a
container lets the item in unless it is inside the item, and then it holds just the item, or just
the copy that was made of it.
-/

namespace Adventure.World

variable {world changed : World} {key container : ItemKey}

/-! ## Which containers have room -/

/-- A container has room for an item exactly if it is a free one and not the item, holds things of
its kind and is larger. -/
theorem containerFits_iff {target item : Item} (htarget : world.item? container = some target)
    (hitem : world.item? key = some item) :
    world.containerFits container key = true ↔
      (∃ compartment, target.compartment = some compartment ∧ compartment.contents = none) ∧
        key ≠ container ∧ world.acceptsKind container key = true ∧ item.size < target.size := by
  unfold containerFits
  simp only [htarget, hitem, Bool.and_eq_true, bne_iff_ne, ne_eq, decide_eq_true_eq,
    Option.isNone_iff_eq_none, eq_comm (a := container)]
  cases hroom : target.compartment with
  | none => simp
  | some compartment => simp [Item.contents, hroom, and_assoc]

/-- Only items that exist have room for each other. -/
theorem exists_of_fits (h : world.containerFits container key = true) :
    ∃ target item, world.item? container = some target ∧ world.item? key = some item := by
  unfold containerFits at h
  split at h
  · rename_i target item htarget hitem
    exact ⟨target, item, htarget, hitem⟩
  · cases h

/-- A container with room for an item holds nothing. -/
theorem contents_of_fits (h : world.containerFits container key = true) :
    world.contents (.item container) = [] := by
  obtain ⟨target, item, htarget, hitem⟩ := exists_of_fits h
  obtain ⟨⟨compartment, hroom, hfree⟩, -⟩ := (containerFits_iff htarget hitem).mp h
  rw [contents_of_compartment htarget hroom, hfree]
  rfl

/-- A container with room for an item lets it in unless it is inside the item. -/
theorem admits_iff_of_fits (h : world.containerFits container key = true) :
    world.Admits (.item container) key ↔ world.encloses key container = false := by
  obtain ⟨target, item, htarget, hitem⟩ := exists_of_fits h
  obtain ⟨⟨compartment, hroom, -⟩, hne, -⟩ := (containerFits_iff htarget hitem).mp h
  refine ⟨fun hadmits => (hadmits.outside container rfl).2, fun houtside => ⟨?_, ?_, ?_, ?_⟩⟩
  · rw [hitem]
    rfl
  · simp [CanList, htarget, hroom]
  · rintro outer _ occupant hoccupant
    rw [contents_of_fits h] at hoccupant
    cases hoccupant
  · rintro _ ⟨⟩
    exact ⟨hne.symm, houtside⟩

/-! ## What containers hold then -/

/-- An item that is put into a free container is what that holds. -/
theorem contents_insert_free (hempty : world.contents (.item container) = [])
    (h : world.insert (.item container) key = .ok changed) :
    changed.contents (.item container) = [key] := by
  have hown : world.ListsOwn (.item container) := by
    intro listed hlisted
    rw [hempty] at hlisted
    cases hlisted
  rw [contents_insert h hown, hempty, if_pos rfl]
  rfl

/-- When a copy of an item is put into a free container, the item stays where it is, and the
container holds the copy, which is another item. -/
theorem copyInto_free (hempty : world.contents (.item container) = [])
    (hplace : (world.outermost? key).isSome = true) {copy : ItemKey}
    (h : world.copyInto (.item container) key = (changed, .ok copy)) :
    changed.holder? key = world.holder? key ∧ copy ≠ key ∧
      changed.contents (.item container) = [copy] ∧
        (changed.item? copy).bind Item.copyOf = some key := by
  obtain ⟨copied, hcopy, hinsert⟩ := copyInto_ok h
  have hne : copy ≠ key := by
    rintro rfl
    exact holder?_ne_none_of_outermost? hplace (holder?_copy hcopy)
  refine ⟨?_, hne, contents_insert_free ?_ hinsert, ?_⟩
  · rw [holder?_insert hinsert, if_neg hne.symm, holder?_copyItem hcopy]
  · rw [contents_copyItem hcopy, hempty, ite_self]
  · obtain ⟨item, hitem, -⟩ := copyItem_cases hcopy
    have hbody : changed.body? copy = (world.body? key).map fun body =>
        { body with copyOf := some key } := by
      rw [body?_insert hinsert, body?_copyItem hcopy, if_pos rfl]
    rw [body?, body?, hitem] at hbody
    obtain ⟨made, hmade, hsame⟩ := Option.map_eq_some_iff.mp hbody
    rw [hmade]
    exact congrArg Item.copyOf hsame

end Adventure.World
