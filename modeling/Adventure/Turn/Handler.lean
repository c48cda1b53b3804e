import Adventure.Turn.Handler.Moving
import Adventure.Turn.Handler.Switching
import Adventure.Turn.Handler.Telling

/-!
# Handlers

A handler carries a command out. A command names its handler; if the name is not known, the
attributes of the command choose one, and a command without such attributes has one that does
nothing and leaves the answer to events.
-/

namespace Adventure

/-- What a command can do. -/
inductive Handler
  | go
  | teleport
  | take
  | drop
  | insert
  | wear
  | remove
  | consume
  | pour
  | switch
  | setPlayer
  | look
  | describe
  | read
  | inventory
  | score
  | help
  | hint
  | explain
  | commands
  | quit
  | interact
  deriving DecidableEq

namespace Handler

/-- The name by which commands ask for a handler. -/
def name : Handler → String
  | go => "go"
  | teleport => "teleport"
  | take => "take"
  | drop => "drop"
  | insert => "insert"
  | wear => "wear"
  | remove => "remove"
  | consume => "consume"
  | pour => "pour"
  | switch => "switch"
  | setPlayer => "set_player"
  | look => "look"
  | describe => "describe"
  | read => "read"
  | inventory => "inventory"
  | score => "score"
  | help => "help"
  | hint => "hint"
  | explain => "explain"
  | commands => "commands"
  | quit => "quit"
  | interact => "interact"

/-- Every handler. -/
def all : List Handler :=
  [go, teleport, take, drop, insert, wear, remove, consume, pour, switch, setPlayer, look, describe,
    read, inventory, score, help, hint, explain, commands, quit, interact]

/-- The handler with a name, in any case. -/
def named? (text : String) : Option Handler := all.find? fun handler => Text.alike handler.name text

/-- What a handler does. -/
def stage : Handler → Stage
  | go => Stage.go
  | teleport => Stage.teleport
  | take => Stage.take
  | drop => Stage.drop
  | insert => Stage.insert
  | wear => Stage.wear
  | remove => Stage.remove
  | consume => Stage.consume
  | pour => Stage.pour
  | switch => Stage.switch
  | setPlayer => Stage.setPlayer
  | look => Stage.look
  | describe => Stage.describe
  | read => Stage.read
  | inventory => Stage.inventory
  | score => Stage.score
  | help => Stage.help
  | hint => Stage.hint
  | explain => Stage.explain
  | commands => Stage.commands
  | quit => Stage.quit
  | interact => fun turn _ args => (turn, .silent args)

end Handler

namespace Command

/-- The handler that carries a command out. -/
def chosenHandler (command : Command) : Handler :=
  match Handler.named? command.handler with
  | some handler => handler
  | none =>
    if command.attributes.has CommandFlags.movement then .go
    else if command.attributes.has CommandFlags.teleport then .teleport
    else if command.attributes.has CommandFlags.switching then .switch
    else if command.attributes.has CommandFlags.switchable then .setPlayer
    else .interact

/-- Whether a command is carried out by a handler that it asked for, by name or by attributes. -/
def hasHandler (command : Command) : Bool :=
  Text.alike command.handler Handler.interact.name || command.chosenHandler != .interact

end Command

end Adventure
