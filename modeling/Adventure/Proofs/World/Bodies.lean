import Adventure.Proofs.World.Moves

/-!
# Items apart from their places

Moving an item changes where items are and what they hold, and nothing else about them. An item
without its place and its contents is called its body here. Whether an item is worn and how large it
is can be told from its body.
-/

namespace Adventure

namespace Item

/-- The item apart from where it is and what it holds. -/
def body (item : Item) : Item :=
  { item with holder := none, compartment := item.compartment.map fun _ => {} }

@[simp] theorem size_body (item : Item) : item.body.size = item.size := rfl

@[simp] theorem body_withContents (item : Item) (contents : Option ItemKey) :
    (item.withContents contents).body = item.body := by
  unfold withContents body
  cases item.compartment <;> rfl

@[simp] theorem isWorn_withWorn_false (item : Item) : (item.withWorn false).isWorn = false := by
  unfold withWorn isWorn
  cases item.garment <;> rfl

/-- A garment that is worn stays so when it is put on again. -/
theorem isWorn_withWorn_true {item : Item} (h : item.isWorn = true) :
    (item.withWorn true).isWorn = true := by
  unfold withWorn isWorn at *
  cases hgarment : item.garment with
  | none => simp [hgarment] at h
  | some garment => rfl

/-- To take a garment off twice is to take it off. -/
@[simp] theorem withWorn_withWorn (item : Item) (first last : Bool) :
    (item.withWorn first).withWorn last = item.withWorn last := by
  unfold withWorn
  cases item.garment <;> rfl

end Item

namespace World

/-- The body of an item. -/
def body? (world : World) (key : ItemKey) : Option Item := (world.item? key).map Item.body

/-- Whether an item is a garment that is being worn. -/
def isWorn (world : World) (key : ItemKey) : Bool := (world.item? key).any (·.isWorn)

/-- The size of an item. -/
def size (world : World) (key : ItemKey) : Nat := ((world.item? key).map (·.size)).getD 0

variable {world changed : World} {holder : Holder} {key : ItemKey}

theorem isWorn_eq_body? (world : World) (key : ItemKey) :
    world.isWorn key = (world.body? key).any (·.isWorn) := by
  unfold isWorn body?
  cases world.item? key <;> rfl

/-- Items with the same bodies are worn alike. -/
theorem isWorn_congr {other : ItemKey} (h : changed.body? other = world.body? key) :
    changed.isWorn other = world.isWorn key := by
  rw [isWorn_eq_body?, h, isWorn_eq_body?]

/-- Items with the same bodies are equally large. -/
theorem size_congr {other : ItemKey} (h : changed.body? other = world.body? key) :
    changed.size other = world.size key := by
  have hsizes := congrArg (Option.map Item.size) h
  simp only [body?, Option.map_map, Function.comp_def, Item.size_body] at hsizes
  rw [size, hsizes, size]

/-- An item exists if it has a body. -/
theorem isSome_item?_congr {other : ItemKey} (h : changed.body? other = world.body? key) :
    (changed.item? other).isSome = (world.item? key).isSome := by
  have hbodies := congrArg Option.isSome h
  rwa [body?, Option.isSome_map, body?, Option.isSome_map] at hbodies

/-- A container has one as its body. -/
theorem canList_item_congr {other : ItemKey} (h : changed.body? other = world.body? key) :
    changed.CanList (.item other) ↔ world.CanList (.item key) := by
  have hroom (world : World) (key : ItemKey) : ((world.body? key).bind (·.compartment)).isSome =
      ((world.item? key).bind (·.compartment)).isSome := by
    cases hitem : world.item? key <;> simp [body?, hitem, Item.body]
  simp only [CanList]
  rw [← hroom, h, hroom]

/-- What is worn exists. -/
theorem exists_item?_of_isWorn (h : world.isWorn key = true) :
    ∃ item, world.item? key = some item ∧ item.isWorn = true := by
  unfold isWorn at h
  cases hitem : world.item? key with
  | none => simp [hitem] at h
  | some item => exact ⟨item, rfl, by simpa [hitem] using h⟩

/-! ## What moves do to bodies -/

/-- What only changes where an item is and what it holds leaves all bodies as they are. -/
theorem body?_modifyItem_of_body {f : Item → Item} (hf : ∀ item, (f item).body = item.body)
    (other : ItemKey) : (world.modifyItem key f).body? other = world.body? other := by
  unfold body?
  rw [item?_modifyItem]
  by_cases h : other = key
  · subst h
    cases world.item? other <;> simp [hf]
  · rw [if_neg h]

/-- A garment that is put on or taken off has its body changed, and no other item has. -/
theorem body?_modifyItem_withWorn (worn : Bool) (other : ItemKey) :
    (world.modifyItem key (·.withWorn worn)).body? other =
      if other = key then (world.body? key).map (·.withWorn worn) else world.body? other := by
  unfold body?
  rw [item?_modifyItem]
  by_cases h : other = key
  · rw [if_pos h, if_pos h]
    cases world.item? key <;> rfl
  · rw [if_neg h, if_neg h]

theorem body?_unlist (other : ItemKey) :
    (world.unlist key holder).body? other = world.body? other := by
  cases holder with
  | location id => rfl
  | inventory id => rfl
  | item outer =>
    refine body?_modifyItem_of_body (fun item => ?_) other
    split
    · exact item.body_withContents none
    · rfl

theorem body?_list (other : ItemKey) : (world.list key holder).body? other = world.body? other := by
  cases holder with
  | location id => rfl
  | inventory id => rfl
  | item outer => exact body?_modifyItem_of_body (fun item => item.body_withContents _) other

theorem body?_remove {previous : Option Holder} (h : world.remove key = .ok (changed, previous))
    (other : ItemKey) : changed.body? other = world.body? other := by
  obtain ⟨-, -, ⟨-, rfl⟩ | ⟨holder, -, rfl⟩⟩ := remove_cases h
  · exact body?_modifyItem_of_body (fun _ => by rfl) other
  · rw [body?_unlist]
    exact body?_modifyItem_of_body (fun _ => by rfl) other

/-- Putting an item somewhere leaves all bodies as they are. -/
theorem body?_insert (h : world.insert holder key = .ok changed) (other : ItemKey) :
    changed.body? other = world.body? other := by
  obtain ⟨-, removed, hremove, rfl⟩ := insert_cases h
  rw [body?_modifyItem_of_body (fun _ => by rfl), body?_list, body?_remove hremove]

/-- An item that is taken out for good is no longer worn; all other bodies are as they were. -/
theorem body?_destroy (h : world.destroy key = .ok changed) (other : ItemKey) :
    changed.body? other =
      if other = key then (world.body? key).map (·.withWorn false) else world.body? other := by
  obtain ⟨previous, hremove⟩ := destroy_cases h
  rw [body?_remove hremove, body?_modifyItem_withWorn]

/-- A copy has the body of its model; all other bodies are as they were. -/
theorem body?_copyItem {copy : ItemKey} (h : world.copyItem key = .ok (changed, copy))
    (other : ItemKey) :
    changed.body? other =
      if other = copy then (world.body? key).map fun body => { body with copyOf := some key }
      else world.body? other := by
  have hmade (item : Item) :
      Item.body { item.withContents none with holder := none, copyOf := some key } =
        { item.body with copyOf := some key } := by
    unfold Item.withContents Item.body
    cases item.compartment <;> rfl
  obtain ⟨item, hitem, ⟨⟨spent, hspent, -⟩, rfl⟩ | ⟨-, rfl, rfl⟩⟩ := copyItem_cases h
  · unfold body?
    rw [item?_modifyItem, hspent, hitem]
    by_cases heq : other = copy
    · rw [if_pos heq, if_pos heq]
      exact congrArg some (hmade item)
    · rw [if_neg heq, if_neg heq]
  · unfold body?
    rw [item?_append, hitem]
    by_cases heq : other = world.nextKey
    · rw [if_pos heq, if_pos heq]
      exact congrArg some (hmade item)
    · rw [if_neg heq, if_neg heq]

/-- Putting an item on or taking it off leaves all sizes as they are. -/
theorem size_modifyItem_withWorn (key : ItemKey) (worn : Bool) (other : ItemKey) :
    (world.modifyItem key (·.withWorn worn)).size other = world.size other := by
  unfold size
  rw [item?_modifyItem]
  by_cases h : other = key
  · rw [if_pos h, h, Option.map_map]
    rfl
  · rw [if_neg h]

/-! ## What moves do to worn things -/

theorem isWorn_modifyItem_withWorn_false (key other : ItemKey) :
    (world.modifyItem key (·.withWorn false)).isWorn other =
      (other != key && world.isWorn other) := by
  rw [isWorn_eq_body?, body?_modifyItem_withWorn, isWorn_eq_body?]
  by_cases h : other = key
  · subst h
    rw [if_pos rfl]
    cases world.body? other <;> simp
  · rw [if_neg h]
    simp [h]

theorem isWorn_insert (h : world.insert holder key = .ok changed) (other : ItemKey) :
    changed.isWorn other = world.isWorn other := isWorn_congr (body?_insert h other)

theorem isWorn_destroy (h : world.destroy key = .ok changed) (other : ItemKey) :
    changed.isWorn other = (other != key && world.isWorn other) := by
  obtain ⟨previous, hremove⟩ := destroy_cases h
  rw [isWorn_congr (body?_remove hremove other), isWorn_modifyItem_withWorn_false]

/-- A copy is as large as its model. -/
theorem size_copyItem {copy : ItemKey} (h : world.copyItem key = .ok (changed, copy)) :
    changed.size copy = world.size key := by
  have hbody := body?_copyItem h copy
  rw [if_pos rfl] at hbody
  have hsizes := congrArg (Option.map Item.size) hbody
  simp only [body?, Option.map_map, Function.comp_def, Item.size_body] at hsizes
  rw [size, hsizes, size]

/-- A copy is worn if its model is. -/
theorem isWorn_copyItem {copy : ItemKey} (h : world.copyItem key = .ok (changed, copy))
    (other : ItemKey) :
    changed.isWorn other = if other = copy then world.isWorn key else world.isWorn other := by
  rw [isWorn_eq_body?, body?_copyItem h]
  by_cases heq : other = copy
  · rw [if_pos heq, if_pos heq, isWorn_eq_body?]
    cases world.body? key <;> rfl
  · rw [if_neg heq, if_neg heq, isWorn_eq_body?]

end World

end Adventure
