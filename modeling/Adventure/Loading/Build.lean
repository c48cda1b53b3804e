import Adventure.Loading.Registry
import Adventure.World.Containment

/-!
# Building worlds

Declarations become the things of a world, and numbers become references. What refers to nothing is
left out with a note. Attributes that are no masks, words that are no directions and a player
without a place to begin make the description unusable.
-/

namespace Adventure

/-- Why a world cannot be loaded at all. -/
inductive LoadError
  /-- The file cannot be read. -/
  | unreadable (path reason : String)
  /-- The text is not a world description. -/
  | malformed
  /-- There is not exactly one player. -/
  | playerCount (count : Nat)
  /-- A text for attributes is no mask. -/
  | invalidAttributes (entity value : String)
  /-- A word for a direction is none. -/
  | unknownDirection (location : LocationId) (word : String)
  /-- The player begins nowhere. -/
  | unknownStart (location : LocationId)
  deriving DecidableEq

namespace LoadError

/-- The wording of the cause. -/
def message : LoadError → String
  | unreadable path reason => s!"cannot read {path}: {reason}"
  | malformed => "malformed world description: the text is not one"
  | playerCount count => s!"expected exactly one player, found {count}"
  | invalidAttributes entity value => s!"invalid attributes \"{value}\" on {entity}"
  | unknownDirection location word => s!"unknown direction \"{word}\" on location {location}"
  | unknownStart location => s!"player starts at unknown location {location}"

end LoadError

/-- Loading notes problems one after the other and may stop with an error. -/
abbrev Loading := StateT (List Diagnostic) (Except LoadError)

namespace Loading

/-- Note a problem. -/
def note (diagnostic : Diagnostic) : Loading Unit := modify (· ++ [diagnostic])

/-- Note that something refers to what is not declared. -/
def dangling {α : Type} (context noun : String) (num : Nat) : Loading (Option α) := do
  note (.error s!"{context} refers to unknown {noun} {num}")
  return none

/-- The attributes that a text of an entity denotes. -/
def flags {bearer : Bearer} (text entity : String) : Loading (Flags bearer) :=
  match Flags.parse text with
  | .ok flags => return flags
  | .error _ => throw (.invalidAttributes entity text)

/-- The direction that a word of a location means. -/
def direction (word : String) (location : LocationId) : Loading Direction :=
  match Direction.parse? word with
  | some direction => return direction
  | none => throw (.unknownDirection location word)

end Loading

open Loading

/-- The names and descriptions that are declared. -/
def LabelsDecl.labels (declared : LabelsDecl) : Labels where
  shortname := declared.shortname
  longname := declared.longname.getD declared.shortname
  description := declared.description.getD ""
  extendedDescriptions := declared.extendedDescriptions

/-- Words for the states of a switch, where those left out are the usual ones. -/
def switchWords (on off : Option String) : SwitchWords :=
  { on := on.getD "on", off := off.getD "off" }

/-- The slot that is declared. A slot for a text has no say about places. -/
def SlotDecl.slot (declared : SlotDecl) : Slot where
  mandatory := declared.mandatory
  isItem := declared.isItem
  source := if declared.isItem then declared.source else .either
  linkers := declared.linkers

namespace Directory

/-! ## References -/

/-- Refer to a location. -/
def locationRef (directory : Directory) (id : LocationId) (context : String) :
    Loading (Option LocationId) :=
  if directory.locations.contains id then return some id
  else dangling context "location" id.num

/-- Refer to an item. -/
def itemRef (directory : Directory) (id : DataId) (context : String) : Loading (Option ItemKey) :=
  match directory.itemKey? id with
  | some key => return some key
  | none => dangling context "item" id.num

/-- Refer to an inventory. -/
def inventoryRef (directory : Directory) (id : InventoryId) (context : String) :
    Loading (Option InventoryId) :=
  if directory.inventories.contains id then return some id
  else dangling context "inventory" id.num

/-- Refer to a holder. -/
def holderRef (directory : Directory) (holder : HolderDecl) (context : String) :
    Loading (Option Holder) := do
  match holder with
  | .location id => return (← directory.locationRef id context).map .location
  | .item id => return (← directory.itemRef id context).map .item
  | .inventory id => return (← directory.inventoryRef id context).map .inventory

/-- Refer to an event, of which it is enough that it is declared. -/
def eventRef (directory : Directory) (id : EventId) (context : String) :
    Loading (Option EventId) :=
  if directory.events.contains id then return some id
  else dangling context "event" id.num

/-! ## Locations and inventories -/

/-- Give a location an exit, unless it leads nowhere. -/
def addExit (directory : Directory) (location : Location) (link : String × LocationId) :
    Loading Location := do
  let direction ← direction link.1 location.id
  match ← directory.locationRef link.2 s!"location {location.id} ({link.1})" with
  | some destination => return location.withExit direction destination
  | none => return location

/-- Build a location. -/
def buildLocation (directory : Directory) (id : LocationId) (declared : LocationDecl) :
    Loading Location := do
  let attributes ← flags declared.attributes s!"location {id}"
  let bare : Location := { id, attributes, labels := declared.labels.labels }
  let location ← declared.directions.entries.foldlM directory.addExit bare
  return location.deriveOut

/-- Build an inventory. The default one is bound to no locations. -/
def buildInventory (directory : Directory) (id : InventoryId) (declared : InventoryDecl) :
    Loading Inventory := do
  if declared.isDefault then
    return { id, capacity := declared.capacity, isDefault := true }
  else
    let locations ← declared.locations.filterMapM fun location =>
      directory.locationRef location s!"inventory {id}"
    return { id, capacity := declared.capacity, isDefault := false, locations }

/-! ## Items -/

/-- Build an item that is nowhere yet and switches nothing. -/
def buildItem (id : DataId) (declared : ItemDecl) : Loading Item := do
  let attributes ← flags declared.attributes s!"item {id}"
  let item := Item.ofAttributes id attributes declared.labels.labels declared.size
  let item := { item with writing := declared.writing }
  match declared.activated with
  | none => return item
  | some activated => return item.withActivated (← flags activated s!"item {id}")

/-- Find what a switch acts on. -/
def switchTarget (directory : Directory) (declared : SwitchDecl) (context : String) :
    Loading (Option SwitchTarget) := do
  match declared.target with
  | .item id =>
    let flag ← flags declared.flag context
    return (← directory.itemRef id context).map fun key => .item key flag
  | .location id =>
    let flag ← flags declared.flag context
    return (← directory.locationRef id context).map fun id => .location id flag

/-- Set up the switch of an item. -/
def addSwitch (directory : Directory) (world : World) (id : DataId) (key : ItemKey)
    (declared : SwitchDecl) : Loading World := do
  let target ← directory.switchTarget declared s!"switch of item {id}"
  if ((world.item? key).bind (·.switch)).isSome then
    return world.modifyItem key (·.withSwitch target (switchWords declared.on declared.off))
  else
    note (.warning s!"item {id} declares a switch but is not switchable")
    return world

/-- Put an item where it is declared to be. -/
def place (directory : Directory) (world : World) (id : DataId) (key : ItemKey)
    (declared : HolderDecl) : Loading World := do
  match ← directory.holderRef declared s!"placement of item {id}" with
  | none => return world
  | some holder =>
    let (world, outcome) := world.tryInsert holder key
    match outcome with
    | .ok () => return world
    | .error refusal =>
      note (.error s!"item {id} could not be placed: {refusal.message}")
      return world

/-- Set up the switch of an item and put the item where it is declared to be. -/
def settleItem (directory : Directory) (world : World) (entry : DataId × ItemDecl) :
    Loading World := do
  let (id, declared) := entry
  match directory.itemKey? id with
  | none => return world
  | some key =>
    let world ← match declared.switch with
      | none => pure world
      | some switch => directory.addSwitch world id key switch
    match declared.placement with
    | none => return world
    | some holder => directory.place world id key holder

/-! ## Commands -/

/-- Enter a way of a teleport table, unless one of its ends is nowhere. -/
def addTeleport (directory : Directory) (command : Command) (way : TeleportDecl) :
    Loading Command := do
  let context := s!"teleport of command {command.id}"
  let origin ← directory.locationRef way.origin context
  let destination ← directory.locationRef way.destination context
  match origin, destination with
  | some origin, some destination =>
    return { command with teleport := command.teleport.insert origin destination }
  | _, _ => return command

/-- Build a command. Its names are in lowercase. -/
def buildCommand (directory : Directory) (id : CommandId) (declared : CommandDecl) :
    Loading Command := do
  let attributes ← flags declared.attributes s!"command {id}"
  let name := Text.lower declared.name
  let switch ← match declared.switch with
    | none => pure none
    | some switch =>
      let flag ← flags switch.flag s!"command {id}"
      pure (some { words := switchWords switch.on switch.off, flag })
  let command : Command := {
    id, attributes, name, switch
    aliases := declared.aliases.map Text.lower
    handler := declared.handler.getD name
    slots := declared.slots.map SlotDecl.slot }
  declared.teleport.foldlM directory.addTeleport command

/-! ## Events -/

/-- What an event asks of an argument, if it is something declared. -/
def buildMatch (directory : Directory) : MatchDecl → Except DataId Match
  | .text text => .ok (.ofText text)
  | .item id => if directory.items.contains id then .ok (.item id) else .error id

/-- Build a prerequisite, unless it refers to nothing. -/
def buildPrerequisite (directory : Directory) (event : EventId) (declared : PrerequisiteDecl) :
    Loading (Option Prerequisite) := do
  let context := s!"prerequisite of event {event}"
  match declared with
  | .itemIn item holder =>
    match ← directory.itemRef item context with
    | none => return none
    | some item => return (← directory.holderRef holder context).map (.itemIn item)
  | .itemHeld item => return (← directory.itemRef item context).map .itemHeld
  | .playerAt location => return (← directory.locationRef location context).map .playerAt
  | .eventFired other => return (← directory.eventRef other s!"event {event}").map .eventFired
  | .eventNotFired other =>
    return (← directory.eventRef other s!"event {event}").map .eventNotFired

/-- The number of further descriptions that a location has. -/
def extensionCount (directory : Directory) (location : LocationId) : Nat :=
  match directory.locations.get? location with
  | some declared => declared.labels.extendedDescriptions.length
  | none => 0

/-- Build the attachment of a further description, which the location has to have. -/
def buildDescription (directory : Directory) (event : EventId) (location : LocationId)
    (extension : Option Nat) : Loading (Option Action) := do
  let count := directory.extensionCount location
  match extension with
  | none => return some (.describeLocation location none)
  | some index =>
    if index < count then return some (.describeLocation location (some index))
    else
      note (.error
        s!"event {event} attaches description {index} but location {location} has {count}")
      return none

/-- Build an action, unless it refers to nothing. -/
def buildAction (directory : Directory) (event : EventId) (declared : ActionDecl) :
    Loading (Option Action) := do
  let context := s!"action of event {event}"
  match declared with
  | .destroyItem item => return (← directory.itemRef item context).map .destroyItem
  | .moveItem item holder =>
    let item ← directory.itemRef item context
    let holder ← directory.holderRef holder context
    return item.bind fun item => holder.map (.moveItem item)
  | .giveItem item => return (← directory.itemRef item context).map .giveItem
  | .replaceItem outgoing incoming =>
    let outgoing ← directory.itemRef outgoing context
    let incoming ← directory.itemRef incoming context
    return outgoing.bind fun outgoing => incoming.map (.replaceItem outgoing)
  | .setPlayerAttribute text on =>
    return some (.setPlayerAttribute (← flags text context) on)
  | .setLocationAttribute location text on =>
    let flag ← flags text context
    return (← directory.locationRef location context).map (.setLocationAttribute · flag on)
  | .setItemAttribute item text on =>
    let flag ← flags text context
    return (← directory.itemRef item context).map (.setItemAttribute · flag on)
  | .linkDirection location word destination =>
    let direction ← direction word location
    let location ← directory.locationRef location context
    match destination with
    | none => return location.map (.linkDirection · direction none)
    | some destination =>
      let destination ← directory.locationRef destination context
      return location.bind fun location =>
        destination.map fun destination => .linkDirection location direction (some destination)
  | .describeLocation location extension =>
    match ← directory.locationRef location context with
    | none => return none
    | some location => directory.buildDescription event location extension
  | .movePlayer location => return (← directory.locationRef location context).map .movePlayer

/-- Build an event. It is dropped if its command or an item that it asks for is not declared. -/
def buildEvent (directory : Directory) (id : EventId) (declared : EventDecl) :
    Loading (Option Event) := do
  let attributes ← flags declared.attributes s!"event {id}"
  if !directory.commands.contains declared.command then
    note (.error s!"event {id} refers to unknown command {declared.command}; event dropped")
    return none
  else match declared.pattern.mapM directory.buildMatch with
    | .error item =>
      note (.error s!"event {id} matches unknown item {item}; event dropped")
      return none
    | .ok pattern =>
      let prerequisites ← declared.prerequisites.filterMapM (directory.buildPrerequisite id)
      let actions ← declared.actions.filterMapM (directory.buildAction id)
      let outcome : Outcome :=
        { text := Text.templateOf declared.text, score := declared.score, actions }
      return some { id, attributes, command := declared.command, pattern, prerequisites, outcome }

end Directory

/-! ## Worlds -/

namespace Document

/-- Topics with their templates. Topics are in lowercase. -/
def topics (declared : Table String String) : Table String String :=
  .ofList (declared.entries.map fun (topic, text) => (Text.lower topic, Text.templateOf text))

/-- The texts of a world. -/
def texts (document : Document) : Texts where
  responses := ⟨document.responses.mapValues fun _ text => Text.templateOf text⟩
  hints := topics document.hints
  explanations := topics document.explanations
  vocabulary := document.inputs.entries.foldl (fun vocabulary (name, words) =>
    vocabulary.set name words) .standard

/-- The only player that is declared. -/
def onlyPlayer (document : Document) : Loading PlayerDecl :=
  match document.players with
  | [player] => return player
  | players => throw (.playerCount players.length)

end Document

namespace Directory

/-- Build the world of a description. -/
def buildWorld (directory : Directory) (document : Document) : Loading World := do
  let player ← document.onlyPlayer
  if !directory.locations.contains player.location then throw (.unknownStart player.location)
  let attributes ← flags player.attributes "the player"
  let empty := (World.new document.name player.location).modifyPlayer fun p =>
    { p with attributes }
  let locations ← directory.locations.entries.mapM fun (id, declared) =>
    directory.buildLocation id declared
  let world := locations.foldl World.addLocation empty
  let inventories ← directory.inventories.entries.mapM fun (id, declared) =>
    directory.buildInventory id declared
  let world := inventories.foldl World.addInventory world
  let items ← directory.items.entries.mapM fun (id, declared) => buildItem id declared
  let world := items.foldl World.addItem world
  let world ← directory.items.entries.foldlM directory.settleItem world
  let commands ← directory.commands.entries.mapM fun (id, declared) =>
    directory.buildCommand id declared
  let world := commands.foldl (fun world command => (world.addCommand command).1) world
  let events ← directory.events.entries.filterMapM fun (id, declared) =>
    directory.buildEvent id declared
  let world := events.foldl World.addEvent world
  return { world with texts := document.texts }

end Directory

end Adventure
