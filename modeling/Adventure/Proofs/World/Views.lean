import Adventure.Proofs.Table
import Adventure.World.Switching
import Adventure.World.Containment

/-!
# What can be seen of a world

Proofs about worlds look at them through a few views: what a key or a number finds, which holder an
item names, and what a holder lists. Each way of changing a world is described once by what it does
to these views.
-/

namespace Adventure

namespace Item

@[simp] theorem holder_withContents (item : Item) (contents : Option ItemKey) :
    (item.withContents contents).holder = item.holder := rfl

@[simp] theorem contents_withContents (item : Item) (contents : Option ItemKey) :
    (item.withContents contents).contents = item.compartment.bind fun _ => contents := by
  unfold withContents Item.contents
  cases item.compartment <;> rfl

@[simp] theorem contents_withContents_none (item : Item) :
    (item.withContents none).contents = none := by
  simp

@[simp] theorem isSome_compartment_withContents (item : Item) (contents : Option ItemKey) :
    (item.withContents contents).compartment.isSome = item.compartment.isSome := by
  unfold withContents
  simp

@[simp] theorem holder_withWorn (item : Item) (worn : Bool) :
    (item.withWorn worn).holder = item.holder := rfl

@[simp] theorem contents_withWorn (item : Item) (worn : Bool) :
    (item.withWorn worn).contents = item.contents := rfl

end Item

namespace World

variable (world : World)

/-! ## Things -/

/-- A changed item is seen under its own key only. -/
theorem item?_modifyItem (key other : ItemKey) (f : Item → Item) :
    (world.modifyItem key f).item? other =
      if other = key then (world.item? key).map f else world.item? other := by
  obtain ⟨slot⟩ := key
  obtain ⟨slot'⟩ := other
  simp only [item?, modifyItem, List.getElem?_modify, ItemKey.mk.injEq]
  by_cases h : slot' = slot
  · subst h
    simp
  · rw [if_neg h]
    have hne : ¬ slot = slot' := fun heq => h heq.symm
    simp [hne]

/-- Changing an item that does not exist changes nothing. -/
theorem modifyItem_of_missing {key : ItemKey} (h : world.item? key = none) (f : Item → Item) :
    world.modifyItem key f = world := by
  have hitems : world.items.modify key.slot f = world.items := by
    refine List.ext_getElem? fun slot => ?_
    rw [List.getElem?_modify]
    by_cases heq : key.slot = slot
    · have hnone : world.items[slot]? = none := heq ▸ h
      rw [hnone]
      rfl
    · simp [heq]
  rw [modifyItem, hitems]

@[simp] theorem item?_modifyLocation (id : LocationId) (f : Location → Location) (key : ItemKey) :
    (world.modifyLocation id f).item? key = world.item? key := rfl

@[simp] theorem item?_modifyInventory (id : InventoryId) (f : Inventory → Inventory)
    (key : ItemKey) : (world.modifyInventory id f).item? key = world.item? key := rfl

theorem location?_modifyLocation (id other : LocationId) (f : Location → Location) :
    (world.modifyLocation id f).location? other =
      if other = id then (world.location? id).map f else world.location? other :=
  world.locations.get?_modify id other f

@[simp] theorem location?_modifyItem (key : ItemKey) (f : Item → Item) (id : LocationId) :
    (world.modifyItem key f).location? id = world.location? id := rfl

@[simp] theorem location?_modifyInventory (id : InventoryId) (f : Inventory → Inventory)
    (other : LocationId) : (world.modifyInventory id f).location? other = world.location? other :=
  rfl

theorem inventory?_modifyInventory (id other : InventoryId) (f : Inventory → Inventory) :
    (world.modifyInventory id f).inventory? other =
      if other = id then (world.inventory? id).map f else world.inventory? other :=
  world.inventories.get?_modify id other f

@[simp] theorem inventory?_modifyItem (key : ItemKey) (f : Item → Item) (id : InventoryId) :
    (world.modifyItem key f).inventory? id = world.inventory? id := rfl

@[simp] theorem inventory?_modifyLocation (id : LocationId) (f : Location → Location)
    (other : InventoryId) :
    (world.modifyLocation id f).inventory? other = world.inventory? other := rfl

@[simp] theorem length_items_modifyItem (key : ItemKey) (f : Item → Item) :
    (world.modifyItem key f).items.length = world.items.length := List.length_modify _ _ _

/-- A key finds an item exactly if its slot is one of those in use. -/
theorem isSome_item?_iff (key : ItemKey) :
    (world.item? key).isSome = true ↔ key.slot < world.items.length := by
  simp [item?]

theorem isSome_item?_modifyItem (key other : ItemKey) (f : Item → Item) :
    ((world.modifyItem key f).item? other).isSome = (world.item? other).isSome := by
  rw [Bool.eq_iff_iff, isSome_item?_iff, isSome_item?_iff, length_items_modifyItem]

@[simp] theorem item?_nextKey : world.item? world.nextKey = none := by
  simp [item?, nextKey]

/-- A new item is found under the next key. -/
theorem item?_append (new : Item) (key : ItemKey) :
    ({ world with items := world.items ++ [new] } : World).item? key =
      if key = world.nextKey then some new else world.item? key := by
  obtain ⟨slot⟩ := key
  simp only [item?, nextKey, ItemKey.mk.injEq]
  by_cases h : slot = world.items.length
  · subst h
    simp
  · rw [if_neg h]
    by_cases hlt : slot < world.items.length
    · rw [List.getElem?_append_left hlt]
    · rw [List.getElem?_eq_none (by simp; omega), List.getElem?_eq_none (by omega)]

/-- The items with their keys are what the keys find. -/
theorem mem_keyedItems {world : World} {key : ItemKey} {item : Item} :
    (key, item) ∈ world.keyedItems ↔ world.item? key = some item := by
  obtain ⟨slot⟩ := key
  simp [keyedItems, item?, List.mem_zipIdx_iff_getElem?]

/-! ## Holders and contents -/

/-- An item that names a holder exists. -/
theorem isSome_item?_of_holder? {key : ItemKey} {holder : Holder}
    (h : world.holder? key = some holder) : (world.item? key).isSome = true := by
  obtain ⟨item, hitem, -⟩ := Option.bind_eq_some_iff.mp h
  simp [hitem]

/-- The way outward from an item is known from the holders that items name. -/
theorem holdersWithin_congr {changed : World}
    (h : ∀ key, changed.holder? key = world.holder? key) (steps : Nat) (key : ItemKey) :
    changed.holdersWithin steps key = world.holdersWithin steps key := by
  induction steps generalizing key with
  | zero => rfl
  | succ steps ih =>
    rw [holdersWithin, holdersWithin, h]
    cases world.holder? key with
    | none => rfl
    | some holder => cases holder <;> simp only [ih]

/-- Where an item is depends on nothing but the items. -/
theorem outermost?_of_items {changed : World} (h : changed.items = world.items) (key : ItemKey) :
    changed.outermost? key = world.outermost? key := by
  have hnames (other : ItemKey) : changed.holder? other = world.holder? other := by
    unfold holder? item?
    rw [h]
  have hsame : changed.holders key = world.holders key := by
    unfold holders
    rw [holdersWithin_congr world hnames, h]
  unfold outermost?
  rw [hsame]

/-- An item inside a compartment is what its container lists. -/
theorem contents_item (key : ItemKey) :
    world.contents (.item key) = ((world.item? key).bind (·.contents)).toList := rfl

/-- What only changes other parts of an item leaves the holders as they are. -/
theorem holder?_modifyItem_of_holder {key : ItemKey} {f : Item → Item}
    (hf : ∀ item, (f item).holder = item.holder) (other : ItemKey) :
    (world.modifyItem key f).holder? other = world.holder? other := by
  unfold holder?
  rw [item?_modifyItem]
  by_cases h : other = key
  · subst h
    cases world.item? other <;> simp [hf]
  · rw [if_neg h]

/-- Putting an item on or taking it off moves nothing. -/
@[simp] theorem holder?_modifyItem_withWorn (key : ItemKey) (worn : Bool) (other : ItemKey) :
    (world.modifyItem key (·.withWorn worn)).holder? other = world.holder? other :=
  world.holder?_modifyItem_of_holder (fun item => item.holder_withWorn worn) other

/-- A change of the holder of an item is seen under its own key only. -/
theorem holder?_modifyItem_holder (key other : ItemKey) (holder : Option Holder) :
    (world.modifyItem key fun item => { item with holder }).holder? other =
      if other = key then (world.item? key).bind fun _ => holder else world.holder? other := by
  unfold holder?
  rw [item?_modifyItem]
  by_cases h : other = key
  · rw [if_pos h, if_pos h]
    cases world.item? key <;> rfl
  · rw [if_neg h, if_neg h]

/-- What only changes other parts of an item leaves the contents as they are. -/
theorem contents_modifyItem_of_contents {key : ItemKey} {f : Item → Item}
    (hf : ∀ item, (f item).contents = item.contents) (holder : Holder) :
    (world.modifyItem key f).contents holder = world.contents holder := by
  cases holder with
  | location id => rfl
  | inventory id => rfl
  | item outer =>
    rw [contents_item, contents_item, item?_modifyItem]
    by_cases h : outer = key
    · subst h
      cases world.item? outer <;> simp [hf]
    · rw [if_neg h]

@[simp] theorem contents_modifyItem_withWorn (key : ItemKey) (worn : Bool) (holder : Holder) :
    (world.modifyItem key (·.withWorn worn)).contents holder = world.contents holder :=
  world.contents_modifyItem_of_contents (fun item => item.contents_withWorn worn) holder

/-- What only changes other parts of a location leaves the contents as they are. -/
theorem contents_modifyLocation_of_items {id : LocationId} {f : Location → Location}
    (hf : ∀ location, (f location).items = location.items) (holder : Holder) :
    (world.modifyLocation id f).contents holder = world.contents holder := by
  cases holder with
  | inventory id => rfl
  | item outer => rfl
  | location other =>
    simp only [contents, location?_modifyLocation]
    by_cases h : other = id
    · subst h
      cases world.location? other <;> simp [hf]
    · rw [if_neg h]

end World

end Adventure
