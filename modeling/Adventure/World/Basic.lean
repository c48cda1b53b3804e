import Adventure.Event
import Adventure.Inventory
import Adventure.Location
import Adventure.Player
import Adventure.Text.Responses
import Adventure.Text.Vocabulary

/-!
# Worlds

A world is everything that a game consists of: the player, the locations, items, inventories,
commands and events, and the texts. This file builds worlds up and looks things up in them.

Items are never taken out of a world; one that is destroyed is only nowhere. So the key of an item
stays good, and events can bring it back.
-/

namespace Adventure

/-- The texts of a world. -/
structure Texts where
  /-- What the game says. -/
  responses : Text.Responses := {}
  /-- Hints by their topics. -/
  hints : Table String String := ∅
  /-- Explanations by their topics. -/
  explanations : Table String String := ∅
  /-- The words with a meaning of their own. -/
  vocabulary : Text.Vocabulary := .standard

/-- A game in one of its states. -/
structure World where
  /-- The name of the world. -/
  name : String
  /-- The player. -/
  player : Player
  /-- The texts. -/
  texts : Texts := {}
  /-- The locations. -/
  locations : Table LocationId Location := ∅
  /-- All items and copies, in the order in which they came about. -/
  items : List Item := []
  /-- The inventories. -/
  inventories : Table InventoryId Inventory := ∅
  /-- The commands. -/
  commands : Table CommandId Command := ∅
  /-- Which command each lowercase name means. -/
  commandNames : Table String CommandId := ∅
  /-- The events. -/
  events : Table EventId Event := ∅
  /-- The events in the order in which they were last added. -/
  eventOrder : List EventId := []

/-- Why a change of a world is refused. -/
inductive WorldError
  | itemNotFound (key : ItemKey)
  | locationNotFound (id : LocationId)
  | inventoryNotFound (id : InventoryId)
  | notAContainer (key : ItemKey)
  | containerOccupied (container occupant : ItemKey)
  | selfContainment (key : ItemKey)
  | notSwitchable (key : ItemKey)
  deriving DecidableEq

namespace WorldError

/-- The wording of a refusal. -/
def message : WorldError → String
  | itemNotFound key => s!"item not found: {key}"
  | locationNotFound id => s!"location not found: {id}"
  | inventoryNotFound id => s!"inventory not found: {id}"
  | notAContainer key => s!"item {key} is not a container"
  | containerOccupied container occupant => s!"container {container} already holds {occupant}"
  | selfContainment key => s!"item {key} cannot contain itself"
  | notSwitchable key => s!"item {key} is not switchable"

end WorldError

namespace World

/-- A world with nothing but a player at `start`. -/
def new (name : String) (start : LocationId) : World := { name, player := .beginningAt start }

/-! ## Building -/

/-- Add a location, in place of one with the same number. -/
def addLocation (world : World) (location : Location) : World :=
  { world with locations := world.locations.insert location.id location }

/-- Add an item, which is nowhere at first. -/
def addItem (world : World) (item : Item) : World :=
  { world with items := world.items ++ [{ item with holder := none }] }

/-- The key that the next added item will have. -/
def nextKey (world : World) : ItemKey := ⟨world.items.length⟩

/-- Add an inventory, in place of one with the same number. -/
def addInventory (world : World) (inventory : Inventory) : World :=
  { world with inventories := world.inventories.insert inventory.id inventory }

/-- Let each of `names` mean the command `id`, and list the names that meant a command before. -/
def claimNames (id : CommandId) (claimed : Table String CommandId) :
    List String → Table String CommandId × List (String × CommandId)
  | [] => (claimed, [])
  | name :: rest =>
    let key := Text.lower name
    let (result, displaced) := claimNames id (claimed.insert key id) rest
    match claimed.get? key with
    | some previous => (result, (name, previous) :: displaced)
    | none => (result, displaced)

/-- Add a command, in place of one with the same number. Its names mean it from now on; the result
lists those that meant a command before, and which. -/
def addCommand (world : World) (command : Command) : World × List (String × CommandId) :=
  let (commandNames, displaced) := claimNames command.id world.commandNames command.names
  ({ world with commandNames, commands := world.commands.insert command.id command }, displaced)

/-- Add an event after all others, in place of one with the same number. -/
def addEvent (world : World) (event : Event) : World :=
  { world with
    events := world.events.insert event.id event
    eventOrder := world.eventOrder.filter (· ≠ event.id) ++ [event.id] }

/-! ## Looking up -/

/-- The location with a number. -/
def location? (world : World) (id : LocationId) : Option Location := world.locations.get? id

/-- The item with a key. -/
def item? (world : World) (key : ItemKey) : Option Item := world.items[key.slot]?

/-- The inventory with a number. -/
def inventory? (world : World) (id : InventoryId) : Option Inventory := world.inventories.get? id

/-- The command with a number. -/
def command? (world : World) (id : CommandId) : Option Command := world.commands.get? id

/-- The event with a number. -/
def event? (world : World) (id : EventId) : Option Event := world.events.get? id

/-- All items with their keys, in the order in which they came about. -/
def keyedItems (world : World) : List (ItemKey × Item) :=
  world.items.zipIdx.map fun (item, slot) => (⟨slot⟩, item)

/-- The item declared with a number: of several, the one added last. Copies do not count. -/
def declaredItem? (world : World) (dataId : DataId) : Option ItemKey :=
  (world.keyedItems.reverse.find? fun (_, item) => item.dataId == dataId && item.copyOf.isNone).map
    Prod.fst

/-- The items with a name, in any case. Copies that are nowhere are left out. -/
def itemsNamed (world : World) (name : String) : List ItemKey :=
  (world.keyedItems.filter fun (_, item) =>
    !item.isSpent && Text.alike item.labels.shortname name).map Prod.fst

/-- The name of an item. -/
def itemName (world : World) (key : ItemKey) : String :=
  match world.item? key with
  | some item => item.labels.shortname
  | none => s!"item {key}"

/-- The command that a name means, in any case. -/
def commandNamed? (world : World) (name : String) : Option Command :=
  (world.commandNames.get? (Text.lower name)).bind world.command?

/-- The events found by a key, in the order in which they were last added. -/
def eventsFor (world : World) (key : EventKey) : List EventId :=
  world.eventOrder.filter fun id => (world.event? id).any fun event => event.key = key

/-- The template of a response. -/
def response (world : World) (key : String) : String := world.texts.responses.get key

/-! ## Changing one thing -/

/-- Change the location with a number, if there is one. -/
def modifyLocation (world : World) (id : LocationId) (f : Location → Location) : World :=
  { world with locations := world.locations.modify id f }

/-- Change the item with a key, if there is one. -/
def modifyItem (world : World) (key : ItemKey) (f : Item → Item) : World :=
  { world with items := world.items.modify key.slot f }

/-- Change the inventory with a number, if there is one. -/
def modifyInventory (world : World) (id : InventoryId) (f : Inventory → Inventory) : World :=
  { world with inventories := world.inventories.modify id f }

/-- Change the event with a number, if there is one. -/
def modifyEvent (world : World) (id : EventId) (f : Event → Event) : World :=
  { world with events := world.events.modify id f }

/-- Change the player. -/
def modifyPlayer (world : World) (f : Player → Player) : World :=
  { world with player := f world.player }

/-- Open, redirect or close an exit of a location. -/
def relink (world : World) (id : LocationId) (direction : Direction)
    (destination : Option LocationId) : Except WorldError World :=
  match world.location? id with
  | some _ => .ok (world.modifyLocation id (·.relink direction destination))
  | none => .error (.locationNotFound id)

end World

end Adventure
