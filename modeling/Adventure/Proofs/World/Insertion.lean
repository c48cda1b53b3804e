import Adventure.Proofs.World.Bodies
import Adventure.Proofs.World.Exclusive
import Adventure.Proofs.World.Nesting
import Adventure.Proofs.World.Setting

/-!
# The law of putting something somewhere

Putting an item into a holder succeeds exactly if both exist and, where the holder is an item, that
one is a container with room for it which is not inside it. The item then stands last in the list of
its new holder and no longer in that of the old one. A world is known from the holders that its
items name, from what its holders list and from all the rest, so that the law leaves no other
outcome.
-/

namespace Adventure

open Relation

/-- The location with nothing lying there. -/
def Location.emptied (location : Location) : Location := { location with items := [] }

/-- An item is known from its body, from where it is and from what it holds. -/
theorem Item.eq_of_body {first second : Item} (hbody : first.body = second.body)
    (hholder : first.holder = second.holder) (hcontents : first.contents = second.contents) :
    first = second := by
  obtain ⟨_, _, _, _, _, room, _, _, _, _⟩ := first
  obtain ⟨_, _, _, _, _, room', _, _, _, _⟩ := second
  simp only [body, mk.injEq] at hbody
  cases room <;> cases room' <;> simp_all [Item.contents]
  rename_i compartment compartment'
  cases compartment
  cases compartment'
  simp_all

namespace World

variable {world changed other : World} {holder : Holder} {key : ItemKey}

/-! ## Worlds apart from the places of their items -/

/-- The world apart from where its items are. -/
def unplaced (world : World) : World :=
  { world with
    locations := world.locations.mapValues fun _ => Location.emptied
    items := world.items.map Item.body
    inventories := world.inventories.mapValues fun _ => Inventory.pristine }

theorem unplaced_modifyItem {f : Item → Item} (hf : ∀ item, (f item).body = item.body) :
    (world.modifyItem key f).unplaced = world.unplaced := by
  have hbodies : (world.modifyItem key f).items.map Item.body = world.items.map Item.body := by
    refine List.ext_getElem? fun slot => ?_
    rw [List.getElem?_map, List.getElem?_map]
    exact body?_modifyItem_of_body hf ⟨slot⟩
  simp only [unplaced, hbodies]
  rfl

theorem unplaced_modifyLocation {id : LocationId} {f : Location → Location}
    (hf : ∀ location, (f location).emptied = location.emptied) :
    (world.modifyLocation id f).unplaced = world.unplaced := by
  simp only [unplaced, modifyLocation, Table.mapValues_modify _ _ hf]

theorem unplaced_modifyInventory {id : InventoryId} {f : Inventory → Inventory}
    (hf : ∀ inventory, (f inventory).pristine = inventory.pristine) :
    (world.modifyInventory id f).unplaced = world.unplaced := by
  simp only [unplaced, modifyInventory, Table.mapValues_modify _ _ hf]

theorem unplaced_unlist : (world.unlist key holder).unplaced = world.unplaced := by
  cases holder with
  | location id => exact unplaced_modifyLocation fun _ => rfl
  | inventory id => exact unplaced_modifyInventory fun _ => rfl
  | item outer =>
    refine unplaced_modifyItem fun item => ?_
    split
    · exact item.body_withContents none
    · rfl

theorem unplaced_list : (world.list key holder).unplaced = world.unplaced := by
  cases holder with
  | location id => exact unplaced_modifyLocation fun _ => rfl
  | inventory id => exact unplaced_modifyInventory fun _ => rfl
  | item outer => exact unplaced_modifyItem fun item => item.body_withContents _

theorem unplaced_remove {previous : Option Holder}
    (h : world.remove key = .ok (changed, previous)) : changed.unplaced = world.unplaced := by
  obtain ⟨-, -, ⟨-, rfl⟩ | ⟨holder, -, rfl⟩⟩ := remove_cases h
  · exact unplaced_modifyItem fun _ => rfl
  · exact unplaced_unlist.trans (unplaced_modifyItem fun _ => rfl)

/-- Putting an item somewhere changes nothing but places. -/
theorem unplaced_insert (h : world.insert holder key = .ok changed) :
    changed.unplaced = world.unplaced := by
  obtain ⟨-, removed, hremove, rfl⟩ := insert_cases h
  have hheld : ∀ item : Item, Item.body { item with holder := some holder } = item.body :=
    fun _ => rfl
  exact (unplaced_modifyItem hheld).trans (unplaced_list.trans (unplaced_remove hremove))

section Places

variable (hrest : changed.unplaced = world.unplaced)
include hrest

theorem locations_eq_of_unplaced
    (hcontents : ∀ holder, changed.contents holder = world.contents holder) :
    changed.locations = world.locations := by
  have hemptied : changed.locations.mapValues (fun _ => Location.emptied) =
      world.locations.mapValues fun _ => Location.emptied := congrArg World.locations hrest
  refine Table.eq_of_mapValues hemptied fun id first second hfirst hsecond hsame => ?_
  have hlists := hcontents (.location id)
  have hfirst' : changed.location? id = some first := hfirst
  have hsecond' : world.location? id = some second := hsecond
  simp only [contents, hfirst', hsecond', Option.map_some, Option.getD_some] at hlists
  cases first
  cases second
  simp_all [Location.emptied]

theorem inventories_eq_of_unplaced
    (hcontents : ∀ holder, changed.contents holder = world.contents holder) :
    changed.inventories = world.inventories := by
  have hpristine : changed.inventories.mapValues (fun _ => Inventory.pristine) =
      world.inventories.mapValues fun _ => Inventory.pristine := congrArg World.inventories hrest
  refine Table.eq_of_mapValues hpristine fun id first second hfirst hsecond hsame => ?_
  have hlists := hcontents (.inventory id)
  have hfirst' : changed.inventory? id = some first := hfirst
  have hsecond' : world.inventory? id = some second := hsecond
  simp only [contents, hfirst', hsecond', Option.map_some, Option.getD_some] at hlists
  cases first
  cases second
  simp_all [Inventory.pristine]

theorem items_eq_of_unplaced (hholder : ∀ key, changed.holder? key = world.holder? key)
    (hcontents : ∀ holder, changed.contents holder = world.contents holder) :
    changed.items = world.items := by
  have hbodies : changed.items.map Item.body = world.items.map Item.body :=
    congrArg World.items hrest
  refine List.ext_getElem? fun slot => ?_
  have hbody : (changed.items[slot]?).map Item.body = (world.items[slot]?).map Item.body := by
    rw [← List.getElem?_map, hbodies, List.getElem?_map]
  have hheld := hholder ⟨slot⟩
  have hlists := hcontents (.item ⟨slot⟩)
  simp only [holder?, contents_item, item?] at hheld hlists
  cases hfirst : changed.items[slot]? with
  | none => cases hsecond : world.items[slot]? <;> simp_all
  | some first =>
    cases hsecond : world.items[slot]? with
    | none => simp_all
    | some second =>
      simp only [hfirst, hsecond, Option.map_some, Option.some.injEq, Option.bind_some] at *
      refine Item.eq_of_body hbody hheld ?_
      cases hin : first.contents <;> cases hin' : second.contents <;> simp_all

/-- A world is known from the places of its items and from all the rest. -/
theorem eq_of_places (hholder : ∀ key, changed.holder? key = world.holder? key)
    (hcontents : ∀ holder, changed.contents holder = world.contents holder) : changed = world := by
  have hlocations := locations_eq_of_unplaced hrest hcontents
  have hitems := items_eq_of_unplaced hrest hholder hcontents
  have hinventories := inventories_eq_of_unplaced hrest hcontents
  cases changed
  cases world
  simp_all [unplaced]

end Places

/-! ## Which holders take an item -/

/-- A holder takes an item: the item and the holder exist, and if the holder is an item, then it is
a container that is free or already holds the item, and it is neither the item nor inside it at any
depth. -/
structure Takes (world : World) (holder : Holder) (key : ItemKey) : Prop where
  /-- The item exists. -/
  item : ∃ item, world.item? key = some item
  /-- The location exists. -/
  location : ∀ id, holder = .location id → ∃ location, world.location? id = some location
  /-- The inventory exists. -/
  inventory : ∀ id, holder = .inventory id → ∃ inventory, world.inventory? id = some inventory
  /-- The container exists and has room for the item. -/
  room : ∀ outer, holder = .item outer → ∃ container compartment,
    world.item? outer = some container ∧ container.compartment = some compartment ∧
      (compartment.contents = none ∨ compartment.contents = some key)
  /-- The container is neither the item nor inside it. -/
  outside : ∀ outer, holder = .item outer → outer ≠ key ∧ ¬ TransGen world.Inside outer key

/-- What a container lists is what its compartment holds. -/
theorem contents_of_compartment {outer : ItemKey} {container : Item} {compartment : Compartment}
    (hitem : world.item? outer = some container)
    (hroom : container.compartment = some compartment) :
    world.contents (.item outer) = compartment.contents.toList := by
  simp [contents_item, hitem, Item.contents, hroom]

/-- A holder that takes an item lets it in, and no other does. -/
theorem takes_iff_admits (hnested : world.Nested) :
    world.Takes holder key ↔ world.Admits holder key := by
  have houtside (outer : ItemKey) : outer ≠ key ∧ ¬ TransGen world.Inside outer key ↔
      outer ≠ key ∧ world.encloses key outer = false := by
    rw [← hnested.encloses_iff, Bool.not_eq_true]
  constructor
  · intro h
    refine ⟨Option.isSome_iff_exists.mpr h.item, ?_, ?_, fun outer heq =>
      (houtside outer).mp (h.outside outer heq)⟩
    · cases holder with
      | location id => exact Option.isSome_iff_exists.mpr (h.location id rfl)
      | inventory id => exact Option.isSome_iff_exists.mpr (h.inventory id rfl)
      | item outer =>
        obtain ⟨container, compartment, hitem, hroom, -⟩ := h.room outer rfl
        simp [CanList, hitem, hroom]
    · rintro outer rfl listed hlisted
      obtain ⟨container, compartment, hitem, hroom, hfree⟩ := h.room outer rfl
      rw [contents_of_compartment hitem hroom, Option.mem_toList] at hlisted
      rcases hfree with hnone | hsame
      · rw [hnone] at hlisted
        cases hlisted
      · exact Option.some.inj (hlisted.symm.trans hsame)
  · intro h
    refine ⟨Option.isSome_iff_exists.mp h.known, ?_, ?_, ?_, fun outer heq =>
      (houtside outer).mpr (h.outside outer heq)⟩
    · rintro id rfl
      exact Option.isSome_iff_exists.mp h.canList
    · rintro id rfl
      exact Option.isSome_iff_exists.mp h.canList
    · rintro outer rfl
      obtain ⟨compartment, hlist⟩ := Option.isSome_iff_exists.mp h.canList
      obtain ⟨container, hitem, hroom⟩ := Option.bind_eq_some_iff.mp hlist
      refine ⟨container, compartment, hitem, hroom, ?_⟩
      cases hheld : compartment.contents with
      | none => exact .inl rfl
      | some occupant =>
        have hlisted : occupant ∈ world.contents (.item outer) := by
          simp [contents_of_compartment hitem hroom, hheld]
        exact .inr (congrArg some (h.free outer rfl occupant hlisted))

/-! ## What becomes of the world -/

/-- An item was put last into a holder, and nothing but that has changed. -/
structure PutsLast (world : World) (holder : Holder) (key : ItemKey) (changed : World) : Prop where
  /-- The item names the holder. -/
  named : changed.holder? key = some holder
  /-- The holder lists what it listed apart from the item, and the item after that. -/
  listed : changed.contents holder = (world.contents holder).filter (· ≠ key) ++ [key]
  /-- The previous holder lists what it listed apart from the item. -/
  struck : ∀ previous, world.holder? key = some previous → previous ≠ holder →
    changed.contents previous = (world.contents previous).filter (· ≠ key)
  /-- All other items name the holders that they named before. -/
  others : ∀ other, other ≠ key → changed.holder? other = world.holder? other
  /-- All other holders list what they listed before. -/
  lists : ∀ other, other ≠ holder → world.holder? key ≠ some other →
    changed.contents other = world.contents other
  /-- Apart from the places of items, the world is as before. -/
  rest : changed.unplaced = world.unplaced

/-- There is one world only that an item put last into a holder can leave. -/
theorem PutsLast.unique (h : world.PutsLast holder key changed)
    (h' : world.PutsLast holder key other) : changed = other := by
  refine eq_of_places (h.rest.trans h'.rest.symm) (fun inner => ?_) fun outer => ?_
  · by_cases heq : inner = key
    · rw [heq, h.named, h'.named]
    · rw [h.others inner heq, h'.others inner heq]
  · by_cases heq : outer = holder
    · rw [heq, h.listed, h'.listed]
    · by_cases hprevious : world.holder? key = some outer
      · rw [h.struck outer hprevious heq, h'.struck outer hprevious heq]
      · rw [h.lists outer heq hprevious, h'.lists outer heq hprevious]

/-- An item that is put into a holder is put last into it. -/
theorem putsLast_insert (hown : world.OwnLists) (h : world.insert holder key = .ok changed) :
    world.PutsLast holder key changed := by
  refine ⟨?_, ?_, fun previous _ hne => ?_, fun other hne => ?_, fun other hne hprevious => ?_,
    unplaced_insert h⟩
  · rw [holder?_insert h, if_pos rfl]
  · rw [contents_insert h (hown holder), if_pos rfl]
  · rw [contents_insert h (hown previous), if_neg hne, List.append_nil]
  · rw [holder?_insert h, if_neg hne]
  · exact contents_insert_of_apart h (hown other) hne ((hown other).notMem hprevious)

/-- If no item is inside itself, the way outward from every item ends: each step of it leaves fewer
items to come to. -/
theorem nested_of_acyclic (hacyclic : ∀ key, ¬ TransGen world.Inside key key) : world.Nested :=
  Subrelation.wf (fun {_ _} hinside => reach_lt slot_lt_of_inside hacyclic hinside)
    (measure (reach world.Inside world.items.length)).wf

/-- **Putting something somewhere.** If every item is listed by the holder that it names alone, and
no item is inside itself, then an item can be put into a holder exactly if the holder takes it. The
item is then put last into the holder, and in the world nothing else changes; otherwise it is
refused, and the world that is left is the one that was. -/
theorem insert_law (hexclusive : world.Exclusive)
    (hacyclic : ∀ key, ¬ TransGen world.Inside key key) (holder : Holder) (key : ItemKey) :
    ((∃ changed, world.insert holder key = .ok changed) ↔ world.Takes holder key) ∧
      (∀ changed, world.insert holder key = .ok changed ↔
        world.Takes holder key ∧ world.PutsLast holder key changed) ∧
      (¬ world.Takes holder key →
        (∃ refusal, world.tryInsert holder key = (world, .error refusal)) ∧
          world.perform (.insert holder key) = world) := by
  have hnested := nested_of_acyclic hacyclic
  have hexists : (∃ changed, world.insert holder key = .ok changed) ↔ world.Takes holder key := by
    rw [takes_iff_admits hnested]
    exact ⟨fun ⟨changed, h⟩ => (insert_cases h).1, exists_insert⟩
  refine ⟨hexists, fun changed => ⟨fun h => ?_, fun ⟨htakes, hputs⟩ => ?_⟩, fun hnot => ?_⟩
  · exact ⟨hexists.mp ⟨changed, h⟩, putsLast_insert hexclusive.own h⟩
  · obtain ⟨found, hfound⟩ := hexists.mpr htakes
    rw [hfound, (putsLast_insert hexclusive.own hfound).unique hputs]
  · obtain ⟨refusal, hrefused⟩ :
        ∃ refusal, world.tryInsert holder key = (world, .error refusal) := by
      rw [tryInsert_eq]
      cases hinsert : world.insert holder key with
      | ok changed => exact absurd (hexists.mp ⟨changed, hinsert⟩) hnot
      | error refusal => exact ⟨refusal, rfl⟩
    exact ⟨⟨refusal, hrefused⟩, congrArg Prod.fst hrefused⟩

/-- A crate holds a box with a pea in it, and a bag and a coin lie beside the crate. -/
def stacking : List Operation :=
  let hall : Location := { id := ⟨1⟩, labels := ⟨"hall", "hall", "", [], none⟩ }
  let thing (number : Nat) (name : String) (size : Nat) : Operation :=
    .addItem (.ofAttributes ⟨number⟩ (ItemFlags.container.set ItemFlags.holdsSolids)
      ⟨name, name, "", [], none⟩ size)
  [.addLocation hall, .addInventory { id := ⟨1⟩, capacity := 9, isDefault := true },
    thing 1 "crate" 9, thing 2 "box" 5, thing 3 "pea" 1, thing 4 "bag" 7, thing 5 "coin" 1,
    .insert (.item ⟨0⟩) ⟨1⟩, .insert (.item ⟨1⟩) ⟨2⟩, .insert (.location ⟨1⟩) ⟨0⟩,
    .insert (.location ⟨1⟩) ⟨3⟩, .insert (.location ⟨1⟩) ⟨4⟩]

/-- The crate goes last when it is laid down once more, and the box goes out of the crate into the
bag; but the crate cannot be put into the box, nor the coin next to the pea. -/
theorem insert_law_stacking :
    let world := (new "stacking" ⟨1⟩).after stacking
    world.Exclusive ∧ (∀ key, ¬ TransGen world.Inside key key) ∧
      (∃ changed, world.insert (.location ⟨1⟩) ⟨0⟩ = .ok changed ∧
        changed.contents (.location ⟨1⟩) = [⟨3⟩, ⟨4⟩, ⟨0⟩]) ∧
      (∃ changed, world.insert (.item ⟨3⟩) ⟨1⟩ = .ok changed ∧
        world.PutsLast (.item ⟨3⟩) ⟨1⟩ changed) ∧
      ¬ world.Takes (.item ⟨1⟩) ⟨0⟩ ∧ ¬ world.Takes (.item ⟨1⟩) ⟨4⟩ ∧
        world.perform (.insert (.item ⟨1⟩) ⟨0⟩) = world := by
  intro world
  have hexclusive : world.Exclusive := (exclusive_new "stacking" ⟨1⟩).after (by decide)
  have hacyclic : ∀ key, ¬ TransGen world.Inside key key :=
    (nested_new "stacking" ⟨1⟩).after.acyclic
  have hlaw := insert_law hexclusive hacyclic
  have hrefused (holder : Holder) (key : ItemKey)
      (h : (world.insert holder key).toOption.isSome = false) : ¬ world.Takes holder key := by
    rw [← (hlaw holder key).1]
    rintro ⟨changed, hok⟩
    rw [hok] at h
    cases h
  have htaken (holder : Holder) (key : ItemKey)
      (h : (world.insert holder key).toOption.isSome = true) :
      ∃ changed, world.insert holder key = .ok changed := by
    cases hinsert : world.insert holder key with
    | ok changed => exact ⟨changed, rfl⟩
    | error refusal =>
      rw [hinsert] at h
      cases h
  refine ⟨hexclusive, hacyclic, ?_, ?_, ?_, ?_, ?_⟩
  · obtain ⟨changed, hok⟩ := htaken (.location ⟨1⟩) ⟨0⟩ (by decide)
    exact ⟨changed, hok, ((hlaw _ _).2.1 changed |>.mp hok).2.listed⟩
  · obtain ⟨changed, hok⟩ := htaken (.item ⟨3⟩) ⟨1⟩ (by decide)
    exact ⟨changed, hok, ((hlaw _ _).2.1 changed |>.mp hok).2⟩
  · exact hrefused _ _ (by decide)
  · exact hrefused _ _ (by decide)
  · exact ((hlaw _ _).2.2 (hrefused _ _ (by decide))).2

end World

end Adventure
