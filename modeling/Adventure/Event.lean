import Adventure.Item
import Adventure.Direction
import Adventure.Text.Case

/-!
# Events

An event answers a command with certain arguments. It fires when its prerequisites hold, changes
the world by its actions, awards points and may kill the player.
-/

namespace Adventure

/-- What an event asks of an argument. A copy of an item counts as the item itself. -/
inductive Match
  | text (text : String)
  | item (id : DataId)
  deriving DecidableEq

namespace Match

/-- Ask for a text in any case: it is compared in lowercase. -/
def ofText (text : String) : Match := .text (Text.lower text)

end Match

/-- What events are found by: a command and what its arguments are. -/
structure EventKey where
  /-- The command. -/
  command : CommandId
  /-- Its arguments in order. -/
  args : List Match
  deriving DecidableEq

/-- A condition for an event. -/
inductive Prerequisite
  | itemIn (item : ItemKey) (holder : Holder)
  | itemHeld (item : ItemKey)
  | playerAt (location : LocationId)
  | eventFired (event : EventId)
  | eventNotFired (event : EventId)
  deriving DecidableEq

/-- A change that an event makes. -/
inductive Action
  | destroyItem (item : ItemKey)
  | moveItem (item : ItemKey) (destination : Holder)
  | giveItem (item : ItemKey)
  | replaceItem (outgoing incoming : ItemKey)
  | setPlayerAttribute (flag : PlayerFlags) (on : Bool)
  | setLocationAttribute (location : LocationId) (flag : LocationFlags) (on : Bool)
  | setItemAttribute (item : ItemKey) (flag : ItemFlags) (on : Bool)
  | linkDirection (location : LocationId) (direction : Direction) (destination : Option LocationId)
  | describeLocation (location : LocationId) (extension : Option Nat)
  | movePlayer (location : LocationId)
  deriving DecidableEq

/-- What comes of an event. -/
structure Outcome where
  /-- The template that replaces what the turn has said so far, unless it is empty. -/
  text : String := ""
  /-- The points awarded. -/
  score : Nat := 0
  /-- The changes, in order. -/
  actions : List Action := []
  deriving DecidableEq

/-- A scripted outcome of a command. -/
structure Event where
  /-- The number of the event. -/
  id : EventId
  /-- Its attributes. -/
  attributes : EventFlags := .none
  /-- The command that it answers. -/
  command : CommandId
  /-- What it asks of the arguments. -/
  pattern : List Match := []
  /-- The conditions that must all hold. -/
  prerequisites : List Prerequisite := []
  /-- What comes of it. -/
  outcome : Outcome := {}
  /-- Whether it has fired. -/
  fired : Bool := false
  deriving DecidableEq

namespace Event

/-- What the event is found by. -/
def key (event : Event) : EventKey := ⟨event.command, event.pattern⟩

/-- Whether the event may still fire. -/
def isArmed (event : Event) : Bool := !event.fired || event.attributes.has EventFlags.repeatable

end Event

end Adventure
