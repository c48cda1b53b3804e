import Adventure.Json.Decode
import Adventure.Command

/-!
# World descriptions

A world description declares everything in a world. Here declarations are read as they are written:
numbers are not yet looked up, attributes are texts, and what is left out is marked as such or has
the value that it means.
-/

namespace Adventure

/-- Names and descriptions as declared. -/
structure LabelsDecl where
  /-- The word that a player types. -/
  shortname : String
  /-- The name in listings; the short name where it is left out. -/
  longname : Option String
  /-- The description; empty where it is left out. -/
  description : Option String
  /-- Further descriptions. -/
  extendedDescriptions : List String

/-- A location as declared. -/
structure LocationDecl where
  /-- Its number. -/
  id : LocationId
  /-- Its attributes. -/
  attributes : String
  /-- Its names and descriptions. -/
  labels : LabelsDecl
  /-- Where its exits lead, by words for directions. -/
  directions : Table String LocationId

/-- A holder as declared. -/
inductive HolderDecl
  | location (id : LocationId)
  | item (id : DataId)
  | inventory (id : InventoryId)

/-- What a switch acts on, as declared. -/
inductive SwitchTargetDecl
  | item (id : DataId)
  | location (id : LocationId)

/-- A switch of an item as declared. -/
structure SwitchDecl where
  /-- What it acts on. -/
  target : SwitchTargetDecl
  /-- The attribute that means on. -/
  flag : String
  /-- The word for being on. -/
  on : Option String
  /-- The word for being off. -/
  off : Option String

/-- An item as declared. -/
structure ItemDecl where
  /-- Its number. -/
  id : DataId
  /-- Its attributes. -/
  attributes : String
  /-- Its names and descriptions. -/
  labels : LabelsDecl
  /-- Its size. -/
  size : Nat
  /-- What is written on it. -/
  writing : Option String
  /-- Where it is at first, if anywhere. -/
  placement : Option HolderDecl
  /-- Its switch. -/
  switch : Option SwitchDecl
  /-- The attributes that it gains by being worn. -/
  activated : Option String

/-- A slot of a command as declared. -/
structure SlotDecl where
  /-- Whether the player is asked for a missing argument. -/
  mandatory : Bool
  /-- Whether the argument is an item. -/
  isItem : Bool
  /-- Where the item has to be. -/
  source : Source
  /-- Words that may connect the argument. -/
  linkers : List String

/-- A switch of a command as declared. -/
structure CommandSwitchDecl where
  /-- The word for being on. -/
  on : Option String
  /-- The word for being off. -/
  off : Option String
  /-- The attribute of the player. -/
  flag : String

/-- An entry of a teleport table as declared. -/
structure TeleportDecl where
  /-- Where the player is. -/
  origin : LocationId
  /-- Where the player gets. -/
  destination : LocationId

/-- A command as declared. -/
structure CommandDecl where
  /-- Its number. -/
  id : CommandId
  /-- Its attributes. -/
  attributes : String
  /-- Its first name. -/
  name : String
  /-- Its further names. -/
  aliases : List String
  /-- The name of its handler; its own name where it is left out. -/
  handler : Option String
  /-- Its slots. -/
  slots : List SlotDecl
  /-- Its switch. -/
  switch : Option CommandSwitchDecl
  /-- Its teleport table. -/
  teleport : List TeleportDecl

/-- What an event asks of an argument, as declared. -/
inductive MatchDecl
  | text (text : String)
  | item (id : DataId)

/-- A prerequisite as declared. -/
inductive PrerequisiteDecl
  | itemIn (item : DataId) (holder : HolderDecl)
  | itemHeld (item : DataId)
  | playerAt (location : LocationId)
  | eventFired (event : EventId)
  | eventNotFired (event : EventId)

/-- An action as declared. -/
inductive ActionDecl
  | destroyItem (item : DataId)
  | moveItem (item : DataId) (destination : HolderDecl)
  | giveItem (item : DataId)
  | replaceItem (outgoing incoming : DataId)
  | setPlayerAttribute (flag : String) (on : Bool)
  | setLocationAttribute (location : LocationId) (flag : String) (on : Bool)
  | setItemAttribute (item : DataId) (flag : String) (on : Bool)
  | linkDirection (location : LocationId) (direction : String) (destination : Option LocationId)
  | describeLocation (location : LocationId) (extension : Option Nat)
  | movePlayer (location : LocationId)

/-- An event as declared. -/
structure EventDecl where
  /-- Its number. -/
  id : EventId
  /-- Its attributes. -/
  attributes : String
  /-- The command that it answers. -/
  command : CommandId
  /-- What it asks of the arguments. -/
  pattern : List MatchDecl
  /-- Its prerequisites. -/
  prerequisites : List PrerequisiteDecl
  /-- Its text. -/
  text : String
  /-- The points that it awards. -/
  score : Nat
  /-- Its actions. -/
  actions : List ActionDecl

/-- An inventory as declared. -/
structure InventoryDecl where
  /-- Its number. -/
  id : InventoryId
  /-- The largest weight that it holds. -/
  capacity : Nat
  /-- Whether it is the default one. -/
  isDefault : Bool
  /-- The locations that it is bound to. -/
  locations : List LocationId

/-- A player as declared. -/
structure PlayerDecl where
  /-- Where the player begins. -/
  location : LocationId
  /-- The attributes of the player. -/
  attributes : String

/-- A world description. -/
structure Document where
  /-- The name of the world. -/
  name : String
  /-- The commands. -/
  commands : List CommandDecl
  /-- The items. -/
  items : List ItemDecl
  /-- The locations. -/
  locations : List LocationDecl
  /-- The events. -/
  events : List EventDecl
  /-- The inventories. -/
  inventories : List InventoryDecl
  /-- The players, of which there has to be one. -/
  players : List PlayerDecl
  /-- Words with a meaning of their own, by the name of the meaning. -/
  inputs : Table String (List String)
  /-- Hints by their topics. -/
  hints : Table String String
  /-- Explanations by their topics. -/
  explanations : Table String String
  /-- Response templates by their keys. -/
  responses : Table String String

end Adventure
