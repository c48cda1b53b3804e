import Adventure.Suggestion
import Adventure.Turn.Plan

/-!
# Sessions

A session is a game being played: a world and the settings. It answers one line of the player after
the other. A line begins a command, or goes on with one that waits for arguments; a dead player is
asked about reincarnation first.
-/

namespace Adventure

/-- A game being played. -/
structure Session where
  /-- The world in its current state. -/
  world : World
  /-- The settings. -/
  config : Config

namespace Session

/-- The world as a session begins: the settings may make the player verbose or immune. -/
def prepare (world : World) (config : Config) : World :=
  let assign (on : Bool) (flag : PlayerFlags) (attributes : PlayerFlags) : PlayerFlags :=
    if on then attributes.set flag else attributes
  world.modifyPlayer fun player =>
    { player with
      attributes := assign config.immune PlayerFlags.immune
        (assign config.verbose PlayerFlags.verbose player.attributes) }

/-- Begin a session. It needs an inventory that serves where the player begins; otherwise the
result is that location. -/
def start (world : World) (config : Config) : Except LocationId Session :=
  let world := prepare world config
  match world.currentInventory? with
  | some _ => .ok { world, config }
  | none => .error world.player.location

/-- Whether the game goes on. -/
def isRunning (session : Session) : Bool := session.world.player.playing

/-- The session with its world changed. -/
def withWorld (session : Session) (world : World) : Session := { session with world }

/-- A response, and after it the surroundings in full. -/
def tellSurroundings (session : Session) (key : String) : Session × String :=
  let (world, text) := session.world.lookAround true
  (session.withWorld world,
    session.config.separator.intercalate [session.world.response key, text])

/-- Welcome the player. -/
def welcome (session : Session) : Session × String := session.tellSurroundings "start"

/-- The command that waits, with its verb and the arguments known, unless the word `first` begins
another command. A word that names an item too does not. -/
def continued? (session : Session) (first : String) : Option (Command × String × List Arg) :=
  match session.world.player.pending with
  | .idle => none
  | .awaiting id verb args =>
    let begins := (session.world.commandNamed? first).isSome &&
      (session.world.itemsNamed first).isEmpty
    if begins then none
    else (session.world.command? id).map fun command => (command, verb, args)

/-- The name to suggest for a verb by the settings of the session. -/
def suggest? (session : Session) (verb : String) : Option String :=
  session.world.suggestBy session.config.similarity session.config.threshold verb

/-- The answer to a verb that means nothing. -/
def unknownVerb (session : Session) (verb : String) : String :=
  let responses := session.world.texts.responses
  match session.suggest? verb with
  | some name => responses.format "unknown_command_suggest" [verb, name]
  | none => responses.format "unknown_command" [verb]

/-- Run a command as one move. An empty answer says that nothing happens. -/
def runCommand (session : Session) (command : Command) (verb : String) (tokens : List String)
    (args : List Arg) : Session × String :=
  let world := session.world.modifyPlayer fun player => { player with moves := player.moves + 1 }
  let (turn, text) :=
    (Turn.begin world session.config verb tokens).run command command.stages args
  (session.withWorld turn.world,
    if text.isEmpty then turn.world.response "nothing_happens" else text)

/-- Answer a dead player, who is asked about reincarnation. -/
def answerDead (session : Session) (tokens : List String) : Session × String :=
  let vocabulary := session.world.texts.vocabulary
  let word := tokens.head?.getD ""
  if vocabulary.contains Text.Vocabulary.yes word then
    let world := session.world.modifyPlayer (·.reincarnate session.config.penalty)
    (session.withWorld world).tellSurroundings "reincarnation_yes"
  else if vocabulary.contains Text.Vocabulary.no word then
    (session.withWorld (session.world.modifyPlayer fun player => { player with playing := false }),
      session.world.response "reincarnation_no")
  else (session, session.world.response "reincarnation_unclear")

/-- Answer a living player. -/
def answerLiving (session : Session) : List String → Session × String
  | [] => (session, session.world.response "nothing_happens")
  | first :: rest =>
    match session.continued? first with
    | some (command, verb, args) => session.runCommand command verb (first :: rest) args
    | none =>
      let session := session.withWorld (session.world.modifyPlayer (·.forget))
      match session.world.commandNamed? first with
      | some command => session.runCommand command first rest []
      | none => (session, session.unknownVerb first)

/-- Answer one line of the player. -/
def answer (session : Session) (line : String) : Session × String :=
  if !session.isRunning then (session, session.world.response "game_over")
  else
    let tokens := session.world.texts.vocabulary.tokens line
    if session.world.player.alive then session.answerLiving tokens
    else session.answerDead tokens

/-- The session after some lines of the player. -/
def play (session : Session) (lines : List String) : Session :=
  lines.foldl (fun session line => (session.answer line).1) session

end Session

end Adventure
