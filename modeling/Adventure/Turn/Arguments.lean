import Adventure.Turn.Stage

/-!
# Arguments

The words after a verb become the arguments of its command. Most commands fill their slots one
after the other; when a mandatory argument is missing, the command waits, the player is asked, and
the next line goes on where this one ended. Commands that move the player or switch something read
their words in ways of their own.
-/

namespace Adventure

/-- Why an item does not suit a slot. -/
inductive Misfit
  | notHeld
  | alreadyHeld
  | notHere
  deriving DecidableEq

namespace Misfit

/-- The key of the response. -/
def responseKey : Misfit → String
  | notHeld => "reject_not_holding"
  | alreadyHeld => "reject_carrying"
  | notHere => "reject_not_here"

end Misfit

/-- Why an item is not where a slot wants it, if it is not. -/
def World.misfit? (world : World) (slot : Slot) (key : ItemKey) : Option Misfit :=
  let held := world.holds key
  let here := world.isHere key
  match slot.source with
  | .inventory => if held then none else some .notHeld
  | .location => if held then some .alreadyHeld else if here then none else some .notHere
  | .either => if held || here then none else some .notHere

/-- What comes of filling slots with words. -/
inductive Filling
  /-- Every slot that needs an argument has one; some words are left. -/
  | complete (args : List Arg) (rest : List String)
  /-- The words have run out before a mandatory slot. -/
  | lacking (args : List Arg)
  /-- A word names no item. -/
  | unknown (word : String)
  /-- A word names an item that does not suit its slot. -/
  | unsuited (misfit : Misfit) (key : ItemKey)
  deriving DecidableEq

/-- Fill slots with words, after the arguments already there. A word that connects an argument is
passed over. The first optional slot without a word ends the filling. -/
def World.fillSlots (world : World) : List Slot → List Arg → List String → Filling
  | [], args, tokens => .complete args tokens
  | slot :: slots, args, tokens =>
    match slot.skipLinker tokens with
    | [] => if slot.mandatory then .lacking args else .complete args []
    | token :: rest =>
      if slot.isItem then
        match world.itemMeant? token with
        | none => .unknown token
        | some key =>
          match world.misfit? slot key with
          | some misfit => .unsuited misfit key
          | none => world.fillSlots slots (args ++ [.item key]) rest
      else world.fillSlots slots (args ++ [.text token]) rest

/-- The question for the argument after `args`: the verb, and each argument with the word that
connects the next one. -/
def World.promptPhrase (world : World) (verb : String) (command : Command) (args : List Arg) :
    String :=
  let parts := args.zipIdx.flatMap fun (arg, index) =>
    world.argText arg :: ((command.slots[index + 1]?).bind (·.firstLinker)).toList
  " ".intercalate (verb :: parts)

namespace Turn

/-- Fill the slots of a command that `args` leaves open with the words of the turn. The command
waits if a mandatory argument is missing, and is forgotten in every other case. -/
def resolveSlots (turn : Turn) (command : Command) (args : List Arg) :
    Turn × Except Report (List Arg) :=
  let world := turn.world
  let drained := { turn with tokens := [] }
  match world.fillSlots (command.slots.drop args.length) args turn.tokens with
  | .complete args rest => ({ turn with tokens := rest }.modifyPlayer (·.forget), .ok args)
  | .lacking args =>
    (drained.modifyPlayer (·.suspend command.id turn.verb args),
      .error (turn.refuse "request_argument" [world.promptPhrase turn.verb command args]))
  | .unknown word =>
    (drained.modifyPlayer (·.forget), .error (turn.refuse "reject_unknown_item" [word]))
  | .unsuited misfit key =>
    (drained.modifyPlayer (·.forget),
      .error (turn.refuse misfit.responseKey [world.itemName key]))

end Turn

namespace Stage

/-- Fill the slots of a command. -/
def resolvePlain : Stage := fun turn command args =>
  match turn.resolveSlots command args with
  | (turn, .error refusal) => (turn, refusal)
  | (turn, .ok args) =>
    let verbFirst := command.attributes.has CommandFlags.verbFirst
    (turn, .silent (if verbFirst then .text turn.verb :: args else args))

/-- Find where a movement leads. The direction is what the command is called, or else the first
word. -/
def resolveMovement : Stage := fun turn command _ =>
  let turn := turn.modifyPlayer (·.forget)
  match command.direction? <|> turn.tokens.head?.bind Direction.parse? with
  | none => (turn, turn.refuse "reject_no_direction" [])
  | some direction =>
    match (turn.world.location? turn.world.player.location).bind (·.destination direction) with
    | some destination => (turn, .silent [.location destination, .direction direction])
    | none => (turn, turn.refuse "reject_no_direction" [direction.name])

/-- Find where a teleport leads. -/
def resolveTeleport : Stage := fun turn command _ =>
  let turn := turn.modifyPlayer (·.forget)
  match command.teleport.get? turn.world.player.location with
  | some destination => (turn, .silent [.location destination])
  | none => (turn, turn.refuse "reject_teleport" [])

/-- Find how the player is to be switched. Without a word the state is flipped. -/
def resolveSwitchable : Stage := fun turn command _ =>
  let turn := turn.modifyPlayer (·.forget)
  match command.switch with
  | none => (turn, turn.refuse "reject_not_switchable" [command.name])
  | some switch =>
    match turn.tokens.head? with
    | none => (turn, .silent [.transition .toggle])
    | some token =>
      match switch.words.transition? token with
      | some transition => (turn, .silent [.transition transition])
      | none =>
        (turn, turn.refuse "reject_switch_vocabulary"
          [command.name, switch.words.on, switch.words.off])

/-- Fill the slots of a command and find how its item is to be switched: by the text of the second
slot, else by the next word. Without either the state is flipped. -/
def resolveSwitching : Stage := fun turn command args =>
  match turn.resolveSlots command args with
  | (turn, .error refusal) => (turn, refusal)
  | (turn, .ok args) =>
    match args.head?.bind (·.item?) with
    | none => (turn, turn.refuse "reject_not_switchable" [turn.verb])
    | some key =>
      let name := turn.world.itemName key
      match (turn.world.item? key).bind (·.switch) with
      | none => (turn, turn.refuse "reject_not_switchable" [name])
      | some switch =>
        match (args[1]?).bind (·.text?) <|> turn.tokens.head? with
        | none => (turn, .silent [.item key, .transition .toggle])
        | some word =>
          match switch.words.transition? word with
          | some transition => (turn, .silent [.item key, .transition transition])
          | none =>
            (turn, turn.refuse "reject_switch_vocabulary"
              [name, switch.words.on, switch.words.off])

/-- The stage that finds the arguments of a command, chosen by its attributes. -/
def resolverOf (command : Command) : Stage :=
  if command.attributes.has CommandFlags.movement then resolveMovement
  else if command.attributes.has CommandFlags.teleport then resolveTeleport
  else if command.attributes.has CommandFlags.switchable then resolveSwitchable
  else if command.attributes.has CommandFlags.switching then resolveSwitching
  else resolvePlain

end Stage

end Adventure
