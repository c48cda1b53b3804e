import Adventure.Proofs.Loading.Yields
import Adventure.Proofs.World.References

/-!
# The parts of a loaded world

What is built from a declaration refers only to what is declared, and new locations, inventories and
items list nothing. What refers to anything else is left out while it is built.
-/

namespace Adventure

open Loading

/-! ## Registries -/

namespace Registry

variable {kind : Kind} {α : Type}

/-- What is found under a number is entered with it. -/
theorem mem_entries {registry : Registry kind α} {id : Id kind} {declared : α} :
    (id, declared) ∈ registry.entries ↔ registry.get? id = some declared := by
  constructor
  · intro h
    obtain ⟨other, -, hfound⟩ := List.mem_filterMap.mp h
    obtain ⟨found, hget, heq⟩ := Option.map_eq_some_iff.mp hfound
    cases heq
    exact hget
  · intro h
    have hmem : id ∈ registry.order := (registry.mem_order id).mpr (Table.contains_of_get? h)
    exact List.mem_filterMap.mpr ⟨id, hmem, by rw [h, Option.map_some]⟩

/-- The entries have the numbers in their order. -/
theorem map_fst_entries (registry : Registry kind α) :
    registry.entries.map Prod.fst = registry.order := by
  have hid : ∀ id ∈ registry.order,
      ((registry.get? id).map fun declared => (id, declared)).map Prod.fst = some id := by
    intro id hmem
    obtain ⟨declared, hfound⟩ :=
      Option.isSome_iff_exists.mp ((registry.mem_order id).mp hmem)
    rw [get?, hfound, Option.map_some, Option.map_some]
  rw [entries, List.map_filterMap, List.filterMap_congr hid, List.filterMap_some]

/-- Each number has one entry. -/
theorem nodup_entries (registry : Registry kind α) : (registry.entries.map Prod.fst).Nodup := by
  rw [map_fst_entries]
  exact registry.order_nodup

/-- A number is declared exactly if it has an entry. -/
theorem contains_iff {registry : Registry kind α} {id : Id kind} :
    registry.contains id = true ↔ id ∈ registry.entries.map Prod.fst := by
  rw [map_fst_entries]
  exact (registry.mem_order id).symm

/-- A declared number has an entry. -/
theorem exists_entry {registry : Registry kind α} {id : Id kind}
    (h : registry.contains id = true) : ∃ entry ∈ registry.entries, entry.1 = id :=
  List.mem_map.mp (contains_iff.mp h)

theorem contains_of_mem {registry : Registry kind α} {entry : Id kind × α}
    (h : entry ∈ registry.entries) : registry.contains entry.1 = true :=
  contains_iff.mpr (List.mem_map_of_mem h)

end Registry

namespace Directory

variable (directory : Directory)

/-- What a description declares can be referred to. -/
def scope : Scope where
  location id := directory.locations.contains id = true
  item key := key.slot < directory.items.entries.length
  inventory id := directory.inventories.contains id = true
  command id := directory.commands.contains id = true
  extension id index := index < directory.extensionCount id

/-! ## References -/

theorem finds_locationRef (id : LocationId) (context : String) :
    Finds (directory.locationRef id context) directory.scope.location := by
  unfold locationRef
  by_cases h : directory.locations.contains id = true
  · rw [if_pos h]
    exact .some h
  · rw [if_neg h]
    exact .after fun _ => Finds.none

theorem finds_itemRef (id : DataId) (context : String) :
    Finds (directory.itemRef id context) directory.scope.item := by
  unfold itemRef
  split
  · rename_i key hkey
    obtain ⟨slot, hslot, rfl⟩ := Option.map_eq_some_iff.mp hkey
    exact .some (List.findIdx?_eq_some_iff_getElem.mp hslot).1
  · exact .after fun _ => Finds.none

theorem finds_inventoryRef (id : InventoryId) (context : String) :
    Finds (directory.inventoryRef id context) directory.scope.inventory := by
  unfold inventoryRef
  by_cases h : directory.inventories.contains id = true
  · rw [if_pos h]
    exact .some h
  · rw [if_neg h]
    exact .after fun _ => Finds.none

theorem finds_holderRef (holder : HolderDecl) (context : String) :
    Finds (directory.holderRef holder context) (Holder.In directory.scope) := by
  unfold holderRef
  cases holder with
  | location id => exact (directory.finds_locationRef id context).map fun _ h => h
  | item id => exact (directory.finds_itemRef id context).map fun _ h => h
  | inventory id => exact (directory.finds_inventoryRef id context).map fun _ h => h

/-! ## Locations and inventories -/

/-- A location as it is built: it has its number, is empty, refers only to what is declared, and has
as many further descriptions as its declaration. -/
structure BuiltLocation (id : LocationId) (location : Location) : Prop where
  /-- It has its number. -/
  id_eq : location.id = id
  /-- Nothing lies there. -/
  items_eq : location.items = []
  /-- Its exits lead to declared locations, and no further description is attached. -/
  location_in : location.In directory.scope
  /-- Its further descriptions are those that are declared. -/
  count_eq : location.labels.extendedDescriptions.length = directory.extensionCount id

theorem yields_addExit {id : LocationId} {location : Location}
    (hlocation : directory.BuiltLocation id location) (link : String × LocationId) :
    Yields (directory.addExit location link) (directory.BuiltLocation id) := by
  unfold addExit
  refine .after fun direction => ?_
  refine (directory.finds_locationRef _ _).bind (.pure hlocation) fun destination hdestination => ?_
  refine .pure ⟨hlocation.id_eq, hlocation.items_eq, ⟨fun way leadsTo hleads => ?_,
    hlocation.location_in.attached⟩, hlocation.count_eq⟩
  have hlookup : (location.exits.insert direction destination).get? way = some leadsTo := hleads
  rw [Table.get?_insert] at hlookup
  by_cases heq : way = direction
  · rw [if_pos heq] at hlookup
    cases hlookup
    exact hdestination
  · rw [if_neg heq] at hlookup
    exact hlocation.location_in.exits way leadsTo hlookup

theorem yields_buildLocation {id : LocationId} {declared : LocationDecl}
    (hdeclared : directory.locations.get? id = some declared) :
    Yields (directory.buildLocation id declared) (directory.BuiltLocation id) := by
  unfold buildLocation
  refine .after fun attributes => ?_
  refine Yields.bind (P := directory.BuiltLocation id) (.foldlM ?_ ?_) fun location hlocation => ?_
  · refine ⟨rfl, rfl, ⟨?_, ?_⟩, ?_⟩
    · rintro direction destination ⟨⟩
    · rintro index ⟨⟩
    · simp [extensionCount, hdeclared, LabelsDecl.labels]
  · exact fun location link _ hlocation => directory.yields_addExit hlocation link
  · refine .pure ⟨?_, ?_, ⟨fun direction destination h => ?_, ?_⟩, ?_⟩
    · rw [Location.id_deriveOut, hlocation.id_eq]
    · rw [Location.items_deriveOut, hlocation.items_eq]
    · obtain ⟨other, hother⟩ := Location.destination_deriveOut h
      exact hlocation.location_in.exits other destination hother
    · rw [Labels.Attached, Location.labels_deriveOut]
      exact hlocation.location_in.attached
    · rw [Location.labels_deriveOut, hlocation.count_eq]

/-- An inventory as it is built has its number, is empty and serves at declared locations only. -/
structure BuiltInventory (id : InventoryId) (inventory : Inventory) : Prop where
  /-- It has its number. -/
  id_eq : inventory.id = id
  /-- Nothing is in it. -/
  items_eq : inventory.items = []
  /-- It serves at declared locations. -/
  inventory_in : inventory.In directory.scope

theorem yields_buildInventory (id : InventoryId) (declared : InventoryDecl) :
    Yields (directory.buildInventory id declared) (directory.BuiltInventory id) := by
  unfold buildInventory
  split
  · exact .pure ⟨rfl, rfl, fun _ h => absurd h List.not_mem_nil⟩
  · refine (Yields.filterMapM fun location _ => directory.finds_locationRef location _).bind ?_
    exact fun locations hlocations => .pure ⟨rfl, rfl, hlocations⟩

/-! ## Commands and events -/

/-- A command as it is built has its number and takes the player from and to declared locations
only. -/
structure BuiltCommand (id : CommandId) (command : Command) : Prop where
  /-- It has its number. -/
  id_eq : command.id = id
  /-- Its ways begin and end at declared locations. -/
  command_in : command.In directory.scope

theorem yields_addTeleport {id : CommandId} {command : Command}
    (hcommand : directory.BuiltCommand id command) (way : TeleportDecl) :
    Yields (directory.addTeleport command way) (directory.BuiltCommand id) := by
  unfold addTeleport
  refine (directory.finds_locationRef _ _).bind (.after fun _ => .pure hcommand)
    fun origin horigin => ?_
  refine (directory.finds_locationRef _ _).bind (.pure hcommand) fun destination hdestination => ?_
  refine .pure ⟨hcommand.id_eq, fun other leadsTo hleads => ?_⟩
  rw [Table.get?_insert] at hleads
  by_cases heq : other = origin
  · rw [if_pos heq] at hleads
    cases hleads
    exact ⟨heq ▸ horigin, hdestination⟩
  · rw [if_neg heq] at hleads
    exact hcommand.command_in other leadsTo hleads

theorem yields_buildCommand (id : CommandId) (declared : CommandDecl) :
    Yields (directory.buildCommand id declared) (directory.BuiltCommand id) := by
  have hways (command : Command) (hcommand : directory.BuiltCommand id command) :
      Yields (declared.teleport.foldlM directory.addTeleport command)
        (directory.BuiltCommand id) :=
    .foldlM hcommand fun command way _ hbuilt => directory.yields_addTeleport hbuilt way
  unfold buildCommand
  refine .after fun attributes => ?_
  simp only []
  split
  · exact .after fun switch => hways _ ⟨rfl, by rintro _ _ ⟨⟩⟩
  · exact .after fun flag => .after fun switch => hways _ ⟨rfl, by rintro _ _ ⟨⟩⟩

theorem finds_buildPrerequisite (event : EventId) (declared : PrerequisiteDecl) :
    Finds (directory.buildPrerequisite event declared) (Prerequisite.In directory.scope) := by
  unfold buildPrerequisite
  cases declared with
  | itemIn item holder =>
    refine (directory.finds_itemRef item _).bind Finds.none fun key hkey => ?_
    exact (directory.finds_holderRef holder _).map fun _ hholder => ⟨hkey, hholder⟩
  | itemHeld item => exact (directory.finds_itemRef item _).map fun _ h => h
  | playerAt location => exact (directory.finds_locationRef location _).map fun _ h => h
  | eventFired other => exact (Finds.unknown (directory.eventRef other _)).map fun _ _ => trivial
  | eventNotFired other => exact (Finds.unknown (directory.eventRef other _)).map fun _ _ => trivial

theorem finds_buildDescription (event : EventId) {location : LocationId}
    (hlocation : directory.scope.location location) (extension : Option Nat) :
    Finds (directory.buildDescription event location extension) (Action.In directory.scope) := by
  unfold buildDescription
  cases extension with
  | none => exact .some ⟨hlocation, by rintro _ ⟨⟩⟩
  | some index =>
    by_cases hbound : index < directory.extensionCount location
    · simp only [if_pos hbound]
      refine .some ⟨hlocation, ?_⟩
      rintro _ ⟨⟩
      exact hbound
    · simp only [if_neg hbound]
      exact .after fun _ => Finds.none

theorem finds_buildAction (event : EventId) (declared : ActionDecl) :
    Finds (directory.buildAction event declared) (Action.In directory.scope) := by
  unfold buildAction
  cases declared with
  | destroyItem item => exact (directory.finds_itemRef item _).map fun _ h => h
  | moveItem item holder =>
    refine (directory.finds_itemRef item _).bind (.after fun _ => Finds.none) fun key hkey => ?_
    exact (directory.finds_holderRef holder _).map fun _ hholder => ⟨hkey, hholder⟩
  | giveItem item => exact (directory.finds_itemRef item _).map fun _ h => h
  | replaceItem outgoing incoming =>
    refine (directory.finds_itemRef outgoing _).bind (.after fun _ => Finds.none) fun old hold => ?_
    exact (directory.finds_itemRef incoming _).map fun _ hnew => ⟨hold, hnew⟩
  | setPlayerAttribute text on => exact .after fun flag => Finds.some trivial
  | setLocationAttribute location text on =>
    exact .after fun flag => (directory.finds_locationRef location _).map fun _ h => h
  | setItemAttribute item text on =>
    exact .after fun flag => (directory.finds_itemRef item _).map fun _ h => h
  | linkDirection location word destination =>
    refine .after fun direction => ?_
    cases destination with
    | none =>
      refine (directory.finds_locationRef location _).map fun _ h => ⟨h, ?_⟩
      rintro _ ⟨⟩
    | some destination =>
      refine (directory.finds_locationRef location _).bind (.after fun _ => Finds.none)
        fun origin horigin => ?_
      refine (directory.finds_locationRef destination _).map fun _ h => ⟨horigin, ?_⟩
      rintro _ ⟨⟩
      exact h
  | describeLocation location extension =>
    refine (directory.finds_locationRef location _).bind Finds.none fun place hplace => ?_
    exact directory.finds_buildDescription event hplace extension
  | movePlayer location => exact (directory.finds_locationRef location _).map fun _ h => h

/-- What an event refers to is declared, or left out; an event without a command is dropped. -/
theorem finds_buildEvent (id : EventId) (declared : EventDecl) :
    Finds (directory.buildEvent id declared) (Event.In directory.scope) := by
  unfold buildEvent
  refine .after fun attributes => ?_
  split
  · exact .after fun _ => Finds.none
  · rename_i hcommand
    have hknown : directory.scope.command declared.command := by
      simpa [scope] using hcommand
    split
    · exact .after fun _ => Finds.none
    · refine (Yields.filterMapM fun prerequisite _ =>
        directory.finds_buildPrerequisite id prerequisite).bind fun prerequisites hneeds => ?_
      refine (Yields.filterMapM fun action _ =>
        directory.finds_buildAction id action).bind fun actions hactions => ?_
      exact Finds.some ⟨hknown, hneeds, hactions⟩

/-! ## Items -/

/-- An item as it is built is empty and refers to nothing yet. -/
structure BuiltItem (scope : Scope) (item : Item) : Prop where
  /-- Nothing is in it. -/
  contents_eq : item.contents = none
  /-- It refers to nothing. -/
  item_in : item.In scope

theorem builtItem_ofAttributes (scope : Scope) (dataId : DataId) (attributes : ItemFlags)
    (declared : ItemDecl) :
    BuiltItem scope (.ofAttributes dataId attributes declared.labels.labels declared.size) := by
  refine ⟨?_, ?_, ?_, ?_, ?_⟩
  · unfold Item.ofAttributes Item.contents
    simp only []
    split <;> rfl
  · rintro _ ⟨⟩
  · intro target htarget
    unfold Item.ofAttributes at htarget
    simp only [] at htarget
    split at htarget <;> cases htarget
  · rintro _ ⟨⟩
  · rintro _ ⟨⟩

theorem yields_buildItem (id : DataId) (declared : ItemDecl) :
    Yields (buildItem id declared) (BuiltItem directory.scope) := by
  unfold buildItem
  refine .after fun attributes => ?_
  have hbuilt := builtItem_ofAttributes directory.scope id attributes declared
  have hin := hbuilt.item_in
  split
  · exact .pure ⟨hbuilt.contents_eq, hin.holder, hin.target, hin.model, hin.attached⟩
  · refine .after fun activated => .pure ?_
    exact ⟨hbuilt.contents_eq, hin.holder, hin.target, hin.model, hin.attached⟩

end Directory

end Adventure
