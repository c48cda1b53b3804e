import Adventure.Diagnostic
import Adventure.Turn.Handler

/-!
# Auditing worlds

Some mistakes show only in a world as a whole: commands whose data do not fit their attributes, a
missing or second default inventory, switches without a target, commands without a handler.
-/

namespace Adventure

namespace Command

/-- A command in a diagnostic. -/
def title (command : Command) : String := s!"command {command.id} ({command.name})"

/-- What is wrong with the data of a command. -/
def faults (command : Command) : List Diagnostic :=
  let teleports := command.attributes.has CommandFlags.teleport
  let switchable := command.attributes.has CommandFlags.switchable
  let title := command.title
  let found (wrong : Bool) (diagnostic : Diagnostic) : List Diagnostic :=
    if wrong then [diagnostic] else []
  found (teleports && command.teleport.size == 0)
      (.error s!"teleport {title} has no teleport entries") ++
    found (!teleports && command.teleport.size != 0)
      (.error s!"{title} has teleport entries but is not a teleport command") ++
    found (switchable && command.switch.isNone)
      (.error s!"switchable {title} has no switch info") ++
    found (!switchable && command.switch.isSome)
      (.error s!"{title} has switch info but is not switchable") ++
    found (command.attributes.has CommandFlags.switching && !command.slots.head?.any (·.isItem))
      (.warning s!"switching {title} does not take an item") ++
    found (command.attributes.has CommandFlags.movement && command.direction?.isNone &&
        command.slots.isEmpty)
      (.warning s!"movement {title} has no direction")

end Command

namespace World

/-- Bind an inventory to locations, and note those that another one is bound to. -/
def bindAll (inventory : InventoryId) (bound : Table LocationId InventoryId) :
    List LocationId → Table LocationId InventoryId × List Diagnostic
  | [] => (bound, [])
  | location :: rest =>
    let (result, noted) := bindAll inventory (bound.insert location inventory) rest
    match bound.get? location with
    | none => (result, noted)
    | some other =>
      (result,
        .warning s!"location {location} is bound to inventory {other} and inventory {inventory}" ::
          noted)

/-- What is wrong with the bindings of inventories that are not default ones. -/
def bindingFaults (bound : Table LocationId InventoryId) : List Inventory → List Diagnostic
  | [] => []
  | inventory :: rest =>
    let (result, noted) := bindAll inventory.id bound inventory.locations
    let unbound := if inventory.locations.isEmpty then
        [.error s!"inventory {inventory.id} is not the default and has no locations"]
      else []
    unbound ++ noted ++ bindingFaults result rest

/-- What is wrong with the inventories of a world. -/
def inventoryFaults (world : World) : List Diagnostic :=
  let inventories := world.inventories.values
  let count := inventories.countP (·.isDefault)
  let miscounted := if count = 1 then []
    else [.error s!"expected exactly one default inventory, found {count}"]
  miscounted ++ bindingFaults ∅ (inventories.filter (!·.isDefault))

/-- What is wrong with the items of a world. -/
def itemFaults (world : World) : List Diagnostic :=
  (world.items.filter fun item =>
    item.attributes.has ItemFlags.switchable && (item.switch.bind (·.target)).isNone).map
      fun item =>
        .error s!"switchable item {item.dataId} ({item.labels.shortname}) has no switch target"

/-- Everything that is wrong with a world. -/
def faults (world : World) : List Diagnostic :=
  world.commands.values.flatMap Command.faults ++ world.inventoryFaults ++ world.itemFaults

/-- The commands that have no handler of their own. -/
def handlerFaults (world : World) : List Diagnostic :=
  (world.commands.values.filter (!·.hasHandler)).map fun command =>
    .warning s!"{command.title} uses unknown handler \"{command.handler}\""

end World

end Adventure
