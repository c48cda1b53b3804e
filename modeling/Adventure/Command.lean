import Adventure.Attributes
import Adventure.Direction
import Adventure.Id
import Adventure.Switch

/-!
# Commands

A command is a verb with further names, slots for what it is applied to, and the data that some
kinds of commands need: a switch of a player attribute, or a table of teleport destinations.
-/

namespace Adventure

/-- Where the item of a slot has to be. -/
inductive Source
  | inventory
  | location
  | either
  deriving DecidableEq

/-- A place for an argument of a command. -/
structure Slot where
  /-- Whether the player is asked for a missing argument. -/
  mandatory : Bool := true
  /-- Whether the argument is an item rather than any word. -/
  isItem : Bool := true
  /-- Where the item has to be. -/
  source : Source := .either
  /-- Words that may connect the argument to what stands before it. -/
  linkers : List String := []
  deriving DecidableEq

namespace Slot

/-- Whether a word connects the argument to what stands before it. -/
def isLinker (slot : Slot) (token : String) : Bool :=
  slot.linkers.any fun linker => Text.alike linker token

/-- The connecting word with which the game asks for the argument. -/
def firstLinker (slot : Slot) : Option String := slot.linkers.head?

/-- The tokens without a connecting word at their start. -/
def skipLinker (slot : Slot) : List String → List String
  | [] => []
  | token :: rest => if slot.isLinker token then rest else token :: rest

end Slot

/-- The switch of a command that switches an attribute of the player. -/
structure CommandSwitch where
  /-- The words for its states. -/
  words : SwitchWords
  /-- The attribute that is switched. -/
  flag : PlayerFlags
  deriving DecidableEq

/-- A verb that the player can type. -/
structure Command where
  /-- The number of the command. -/
  id : CommandId
  /-- Its attributes. -/
  attributes : CommandFlags := .none
  /-- Its first name. -/
  name : String
  /-- Its further names. -/
  aliases : List String := []
  /-- The name of the handler that carries it out. -/
  handler : String
  /-- The slots for its arguments. -/
  slots : List Slot := []
  /-- What it switches on the player. -/
  switch : Option CommandSwitch := none
  /-- Where it takes the player from each location. -/
  teleport : Table LocationId LocationId := ∅

namespace Command

/-- All names, the first one first. -/
def names (command : Command) : List String := command.name :: command.aliases

/-- Whether a word is one of the names. -/
def answersTo (command : Command) (token : String) : Bool :=
  command.names.any fun name => Text.alike name token

/-- The direction that the first name means. -/
def direction? (command : Command) : Option Direction := Direction.parse? command.name

/-- Whether the command is neither listed nor suggested. -/
def isSecret (command : Command) : Bool := command.attributes.has CommandFlags.secret

end Command

/-- What a command is applied to. -/
inductive Arg
  | item (key : ItemKey)
  | text (text : String)
  | location (id : LocationId)
  | direction (direction : Direction)
  | transition (transition : Transition)
  deriving DecidableEq

namespace Arg

/-- The item, if it is one. -/
def item? : Arg → Option ItemKey
  | item key => some key
  | _ => none

/-- The text, if it is one. -/
def text? : Arg → Option String
  | text word => some word
  | _ => none

/-- The location, if it is one. -/
def location? : Arg → Option LocationId
  | location id => some id
  | _ => none

/-- The transition, if it is one. -/
def transition? : Arg → Option Transition
  | transition asked => some asked
  | _ => none

end Arg

end Adventure
