import Adventure.Proofs.World.Moves
import Adventure.World.Surroundings

/-!
# The setting of a game

A game changes where the player and the items are, what has been seen and what has happened. The
rest of a world stays from beginning to end: which locations, inventories, commands and events there
are, what each of them is like, and where the player began. This is the setting; whatever can be
told from it, such as which inventory serves where, never changes.
-/

namespace Adventure

/-- A location as it would be without anything that may change there. -/
def Location.pristine (location : Location) : Location :=
  { id := location.id, labels := { location.labels with extension := none } }

/-- An inventory as it would be without anything in it. -/
def Inventory.pristine (inventory : Inventory) : Inventory := { inventory with items := [] }

/-- An event as it would be before it has ever fired. -/
def Event.pristine (event : Event) : Event := { event with fired := false }

namespace World

/-- The world without anything that may change in a game. -/
def setting (world : World) : World :=
  { world with
    player := .beginningAt world.player.start
    locations := world.locations.mapValues fun _ => Location.pristine
    items := []
    inventories := world.inventories.mapValues fun _ => Inventory.pristine
    events := world.events.mapValues fun _ => Event.pristine }

variable {world changed : World} {holder : Holder} {key : ItemKey}

/-! ## What leaves the setting alone -/

theorem setting_modifyPlayer {f : Player → Player}
    (h : (f world.player).start = world.player.start) :
    (world.modifyPlayer f).setting = world.setting := by
  simp only [setting, modifyPlayer, h]

@[simp] theorem setting_modifyItem (key : ItemKey) (f : Item → Item) :
    (world.modifyItem key f).setting = world.setting := rfl

theorem setting_modifyLocation {id : LocationId} {f : Location → Location}
    (h : ∀ location, (f location).pristine = location.pristine) :
    (world.modifyLocation id f).setting = world.setting := by
  simp only [setting, modifyLocation, Table.mapValues_modify _ _ h]

theorem setting_modifyInventory {id : InventoryId} {f : Inventory → Inventory}
    (h : ∀ inventory, (f inventory).pristine = inventory.pristine) :
    (world.modifyInventory id f).setting = world.setting := by
  simp only [setting, modifyInventory, Table.mapValues_modify _ _ h]

theorem setting_modifyEvent {id : EventId} {f : Event → Event}
    (h : ∀ event, (f event).pristine = event.pristine) :
    (world.modifyEvent id f).setting = world.setting := by
  simp only [setting, modifyEvent, Table.mapValues_modify _ _ h]

@[simp] theorem setting_unlist : (world.unlist key holder).setting = world.setting := by
  cases holder with
  | location id => exact setting_modifyLocation fun _ => rfl
  | inventory id => exact setting_modifyInventory fun _ => rfl
  | item outer => rfl

@[simp] theorem setting_list : (world.list key holder).setting = world.setting := by
  cases holder with
  | location id => exact setting_modifyLocation fun _ => rfl
  | inventory id => exact setting_modifyInventory fun _ => rfl
  | item outer => rfl

theorem setting_remove {previous : Option Holder}
    (h : world.remove key = .ok (changed, previous)) : changed.setting = world.setting := by
  obtain ⟨-, -, ⟨-, rfl⟩ | ⟨holder, -, rfl⟩⟩ := remove_cases h
  · rfl
  · exact setting_unlist

theorem setting_insert (h : world.insert holder key = .ok changed) :
    changed.setting = world.setting := by
  obtain ⟨-, removed, hremove, rfl⟩ := insert_cases h
  calc
    ((removed.list key holder).modifyItem key _).setting = (removed.list key holder).setting := rfl
    _ = removed.setting := setting_list
    _ = world.setting := setting_remove hremove

theorem setting_destroy (h : world.destroy key = .ok changed) :
    changed.setting = world.setting := by
  obtain ⟨previous, hremove⟩ := destroy_cases h
  exact (setting_remove hremove).trans (setting_modifyItem key _)

theorem setting_copyItem {copy : ItemKey} (h : world.copyItem key = .ok (changed, copy)) :
    changed.setting = world.setting := by
  obtain ⟨item, -, ⟨-, rfl⟩ | ⟨-, -, rfl⟩⟩ := copyItem_cases h <;> rfl

/-! ## What can be told from the setting -/

theorem location?_setting (id : LocationId) :
    world.setting.location? id = (world.location? id).map Location.pristine :=
  world.locations.get?_mapValues id _

theorem inventory?_setting (id : InventoryId) :
    world.setting.inventory? id = (world.inventory? id).map Inventory.pristine :=
  world.inventories.get?_mapValues id _

theorem event?_setting (id : EventId) :
    world.setting.event? id = (world.event? id).map Event.pristine :=
  world.events.get?_mapValues id _

/-- Which inventory serves at a location can be told from the setting. -/
theorem inventoryAt?_setting (location : LocationId) :
    world.setting.inventoryAt? location = world.inventoryAt? location := by
  have hvalues : world.setting.inventories.values =
      world.inventories.values.map Inventory.pristine := Table.values_mapValues _ _
  unfold inventoryAt?
  simp only [hvalues, List.find?_map]
  have hbound : ((fun i : Inventory => !i.isDefault && i.servesAt location) ∘ Inventory.pristine) =
      fun i => !i.isDefault && i.servesAt location := rfl
  have hdefault : ((fun i : Inventory => i.isDefault) ∘ Inventory.pristine) =
      fun i => i.isDefault := rfl
  rw [hbound, hdefault]
  cases world.inventories.values.find? fun i => !i.isDefault && i.servesAt location with
  | some inventory => rfl
  | none => cases world.inventories.values.find? fun i => i.isDefault <;> rfl

variable (h : changed.setting = world.setting)

include h

theorem inventoryAt?_of_setting (location : LocationId) :
    changed.inventoryAt? location = world.inventoryAt? location := by
  rw [← inventoryAt?_setting, h, inventoryAt?_setting]

theorem commands_of_setting : changed.commands = world.commands :=
  show changed.setting.commands = world.setting.commands from congrArg World.commands h

/-- Events are the same in every world of the same setting, save for the note whether they have
fired. -/
theorem event?_of_setting (id : EventId) :
    (changed.event? id).map Event.pristine = (world.event? id).map Event.pristine := by
  rw [← event?_setting, h, event?_setting]

/-- Every location is there in every world of the same setting, and can be told of in the same
ways. -/
theorem exists_location?_of_setting {id : LocationId} {location : Location}
    (hlocation : world.location? id = some location) :
    ∃ other, changed.location? id = some other ∧ other.pristine = location.pristine := by
  have hviews : (changed.location? id).map Location.pristine = some location.pristine := by
    rw [← location?_setting, h, location?_setting, hlocation]
    rfl
  exact Option.map_eq_some_iff.mp hviews

theorem exists_inventory?_of_setting {id : InventoryId} {inventory : Inventory}
    (hinventory : world.inventory? id = some inventory) :
    ∃ other, changed.inventory? id = some other ∧ other.pristine = inventory.pristine := by
  have hviews : (changed.inventory? id).map Inventory.pristine = some inventory.pristine := by
    rw [← inventory?_setting, h, inventory?_setting, hinventory]
    rfl
  exact Option.map_eq_some_iff.mp hviews

end World

end Adventure
