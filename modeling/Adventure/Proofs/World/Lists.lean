import Adventure.Proofs.World.Views

/-!
# Lists of holders

A holder lets an item in when it is there to list it, has room for it and is not inside it. This
file says when that is so, and what entering an item in a list and striking it off do.
-/

namespace Adventure.World

variable {world : World} {holder : Holder} {key : ItemKey}

/-- A holder is there to list an item: the location or inventory exists, or the item is a
container. -/
def CanList (world : World) : Holder → Prop
  | .location id => world.locations.contains id = true
  | .inventory id => world.inventories.contains id = true
  | .item outer => ((world.item? outer).bind (·.compartment)).isSome = true

/-- A holder lets an item in. -/
structure Admits (world : World) (holder : Holder) (key : ItemKey) : Prop where
  /-- The item exists. -/
  known : (world.item? key).isSome = true
  /-- The holder is there to list it. -/
  canList : world.CanList holder
  /-- A container holds no other item. -/
  free : ∀ outer, holder = .item outer → ∀ other ∈ world.contents holder, other = key
  /-- A container is neither the item nor inside it. -/
  outside : ∀ outer, holder = .item outer → outer ≠ key ∧ world.encloses key outer = false

/-! ## Refusals -/

/-- An item may be put into a holder exactly if the holder lets it in. -/
theorem refusal?_eq_none_iff : world.refusal? holder key = none ↔ world.Admits holder key := by
  constructor
  · intro h
    unfold refusal? at h
    by_cases hkey : (world.item? key).isNone = true
    · rw [if_pos hkey] at h
      cases h
    · rw [if_neg hkey] at h
      have hknown : (world.item? key).isSome = true :=
        Option.isNone_eq_false_iff.mp (Bool.eq_false_iff.mpr hkey)
      cases holder with
      | location id =>
        have hid : world.locations.contains id = true := by
          by_contra hno
          simp [hno] at h
        exact ⟨hknown, hid, by rintro _ ⟨⟩, by rintro _ ⟨⟩⟩
      | inventory id =>
        have hid : world.inventories.contains id = true := by
          by_contra hno
          simp [hno] at h
        exact ⟨hknown, hid, by rintro _ ⟨⟩, by rintro _ ⟨⟩⟩
      | item outer =>
        by_cases hself : outer = key ∨ world.encloses key outer = true
        · simp [hself] at h
        · simp only [if_neg hself] at h
          have houtside : outer ≠ key ∧ world.encloses key outer = false := by
            simpa using hself
          cases hitem : world.item? outer with
          | none => simp [hitem] at h
          | some container =>
            simp only [hitem] at h
            cases hroom : container.compartment with
            | none => simp [hroom] at h
            | some compartment =>
              obtain ⟨contents⟩ := compartment
              refine ⟨hknown, by simp [CanList, hitem, hroom], ?_, ?_⟩
              · rintro _ ⟨⟩ other hother
                cases contents with
                | none => simp [contents_item, hitem, Item.contents, hroom] at hother
                | some occupant =>
                  have hocc : occupant = key := by
                    by_contra hno
                    simp [hroom, hno] at h
                  simpa [contents_item, hitem, Item.contents, hroom, hocc, eq_comm] using hother
              · rintro _ ⟨⟩
                exact houtside
  · rintro ⟨hknown, hlist, hfree, houtside⟩
    have hkey : ¬ (world.item? key).isNone = true :=
      Bool.eq_false_iff.mp (Option.isNone_eq_false_iff.mpr hknown)
    unfold refusal?
    rw [if_neg hkey]
    cases holder with
    | location id => exact if_pos hlist
    | inventory id => exact if_pos hlist
    | item outer =>
      have hself : ¬ (outer = key ∨ world.encloses key outer = true) := by
        simpa using houtside outer rfl
      simp only [if_neg hself]
      obtain ⟨compartment, hroom⟩ := Option.isSome_iff_exists.mp hlist
      obtain ⟨container, hitem, hroom⟩ := Option.bind_eq_some_iff.mp hroom
      simp only [hitem, hroom]
      obtain ⟨contents⟩ := compartment
      cases contents with
      | none => rfl
      | some occupant =>
        have hocc : occupant = key :=
          hfree outer rfl occupant (by simp [contents_item, hitem, Item.contents, hroom])
        exact if_pos hocc

/-! ## Lists -/

@[simp] theorem player_unlist : (world.unlist key holder).player = world.player := by
  cases holder <;> rfl

@[simp] theorem player_list : (world.list key holder).player = world.player := by
  cases holder <;> rfl

theorem holder?_unlist (other : ItemKey) :
    (world.unlist key holder).holder? other = world.holder? other := by
  cases holder with
  | location id => rfl
  | inventory id => rfl
  | item outer =>
    refine holder?_modifyItem_of_holder _ (fun item => ?_) other
    split <;> rfl

theorem holder?_list (other : ItemKey) :
    (world.list key holder).holder? other = world.holder? other := by
  cases holder with
  | location id => rfl
  | inventory id => rfl
  | item outer =>
    exact holder?_modifyItem_of_holder _ (fun item => item.holder_withContents _) other

/-- Striking an item off a list is seen in that list only. -/
theorem contents_unlist (other : Holder) :
    (world.unlist key holder).contents other =
      if other = holder then (world.contents other).filter (· ≠ key)
      else world.contents other := by
  cases holder with
  | location id =>
    cases other with
    | location id' =>
      simp only [unlist, contents, location?_modifyLocation, Holder.location.injEq]
      by_cases h : id' = id
      · subst h
        cases world.location? id' <;> simp
      · rw [if_neg h, if_neg h]
    | inventory id' => rfl
    | item outer => rfl
  | inventory id =>
    cases other with
    | location id' => rfl
    | inventory id' =>
      simp only [unlist, contents, inventory?_modifyInventory, Holder.inventory.injEq]
      by_cases h : id' = id
      · subst h
        cases world.inventory? id' <;> simp
      · rw [if_neg h, if_neg h]
    | item outer => rfl
  | item outer =>
    cases other with
    | location id' => rfl
    | inventory id' => rfl
    | item outer' =>
      simp only [unlist, contents_item, item?_modifyItem, Holder.item.injEq]
      by_cases h : outer' = outer
      · subst h
        cases world.item? outer' with
        | none => simp
        | some item =>
          by_cases hin : item.contents = some key
          · simp [hin]
          · cases hother : item.contents with
            | none => simp [hother]
            | some other =>
              have hne : other ≠ key := fun heq => hin (heq ▸ hother)
              simp [hother, hne]
      · rw [if_neg h, if_neg h]

/-- Entering an item in a list is seen in that list only. A container lists nothing else then. -/
theorem contents_list (hlist : world.CanList holder) (other : Holder) :
    (world.list key holder).contents other =
      if other = holder then
        match holder with
        | .item _ => [key]
        | _ => world.contents other ++ [key]
      else world.contents other := by
  cases holder with
  | location id =>
    cases other with
    | location id' =>
      simp only [list, contents, location?_modifyLocation, Holder.location.injEq]
      by_cases h : id' = id
      · subst h
        obtain ⟨location, hlocation⟩ := Option.isSome_iff_exists.mp hlist
        have hfound : world.location? id' = some location := hlocation
        simp [hfound]
      · rw [if_neg h, if_neg h]
    | inventory id' => rfl
    | item outer => rfl
  | inventory id =>
    cases other with
    | location id' => rfl
    | inventory id' =>
      simp only [list, contents, inventory?_modifyInventory, Holder.inventory.injEq]
      by_cases h : id' = id
      · subst h
        obtain ⟨inventory, hinventory⟩ := Option.isSome_iff_exists.mp hlist
        have hfound : world.inventory? id' = some inventory := hinventory
        simp [hfound]
      · rw [if_neg h, if_neg h]
    | item outer => rfl
  | item outer =>
    cases other with
    | location id' => rfl
    | inventory id' => rfl
    | item outer' =>
      simp only [list, contents_item, item?_modifyItem, Holder.item.injEq]
      by_cases h : outer' = outer
      · subst h
        obtain ⟨compartment, hroom⟩ := Option.isSome_iff_exists.mp hlist
        obtain ⟨item, hitem, hroom⟩ := Option.bind_eq_some_iff.mp hroom
        simp [hitem, hroom]
      · rw [if_neg h, if_neg h]

@[simp] theorem length_items_unlist :
    (world.unlist key holder).items.length = world.items.length := by
  cases holder <;> simp [unlist, modifyLocation, modifyInventory]

@[simp] theorem length_items_list :
    (world.list key holder).items.length = world.items.length := by
  cases holder <;> simp [list, modifyLocation, modifyInventory]

theorem isSome_compartment_modifyItem {f : Item → Item}
    (hf : ∀ item, (f item).compartment.isSome = item.compartment.isSome) (other : ItemKey) :
    (((world.modifyItem key f).item? other).bind (·.compartment)).isSome =
      ((world.item? other).bind (·.compartment)).isSome := by
  rw [item?_modifyItem]
  by_cases h : other = key
  · subst h
    cases world.item? other <;> simp [hf]
  · rw [if_neg h]

/-- A holder that was there to list items still is after a change of an item. -/
theorem canList_modifyItem {f : Item → Item}
    (hf : ∀ item, (f item).compartment.isSome = item.compartment.isSome) (other : Holder) :
    (world.modifyItem key f).CanList other ↔ world.CanList other := by
  cases other with
  | location id => rfl
  | inventory id => rfl
  | item outer => simp only [CanList, isSome_compartment_modifyItem hf]

theorem canList_unlist (other : Holder) :
    (world.unlist key holder).CanList other ↔ world.CanList other := by
  cases holder with
  | location id =>
    cases other with
    | location id' => simp [CanList, unlist, modifyLocation]
    | inventory id' => rfl
    | item outer => rfl
  | inventory id =>
    cases other with
    | location id' => rfl
    | inventory id' => simp [CanList, unlist, modifyInventory]
    | item outer => rfl
  | item outer =>
    refine canList_modifyItem (fun item => ?_) other
    split <;> simp

end Adventure.World
