import Adventure.Config
import Adventure.World.Listing

/-!
# Stages of a turn

A command runs through stages. Each stage may change the world, reports a fragment of the answer,
and hands arguments on to the next one. A stage that fails ends the turn, and a stage may discard
what was said before it.
-/

namespace Adventure

/-- A turn under way. -/
structure Turn where
  /-- The world. -/
  world : World
  /-- The settings. -/
  config : Config
  /-- The verb as the player typed it. -/
  verb : String
  /-- The words after the verb that no stage has used. -/
  tokens : List String
  /-- Whether the player could see when light was last reported. -/
  couldSee : Bool
  /-- Whether the death of the player has been told. -/
  deathNarrated : Bool

/-- What a stage reports. -/
structure Report where
  /-- Whether the turn goes on. -/
  success : Bool
  /-- The template of the fragment, which may be empty. -/
  template : String
  /-- The values of the template. -/
  values : List String
  /-- The arguments for the next stage. -/
  next : List Arg
  /-- Whether the fragments of earlier stages are discarded. -/
  overrides : Bool
  deriving DecidableEq

namespace Report

/-- Go on without a word. -/
def silent (next : List Arg) : Report := ⟨true, "", [], next, false⟩

/-- Go on with a fragment. -/
def say (template : String) (values : List String) (next : List Arg) : Report :=
  ⟨true, template, values, next, false⟩

/-- Go on with a finished text. -/
def tell (text : String) (next : List Arg) : Report := say "\x7b0\x7d" [text] next

/-- End the turn with a fragment. -/
def refuse (template : String) (values : List String) : Report :=
  ⟨false, template, values, [], false⟩

/-- The fragment. -/
def text (report : Report) : String := Text.format report.template report.values

/-- The fragments of a turn after a report. Empty ones are left out. -/
def addTo (report : Report) (said : List String) : List String :=
  (if report.overrides then [] else said) ++ (if report.text.isEmpty then [] else [report.text])

end Report

namespace Turn

/-- A turn at its beginning. -/
def begin (world : World) (config : Config) (verb : String) (tokens : List String) : Turn :=
  { world, config, verb, tokens, couldSee := world.canSee, deathNarrated := false }

/-- Go on with the response of a key. -/
def say (turn : Turn) (key : String) (values : List String) (next : List Arg) : Report :=
  .say (turn.world.response key) values next

/-- End the turn with the response of a key. -/
def refuse (turn : Turn) (key : String) (values : List String) : Report :=
  .refuse (turn.world.response key) values

/-- The turn with its world changed. -/
def withWorld (turn : Turn) (world : World) : Turn := { turn with world }

/-- The turn with its player changed. -/
def modifyPlayer (turn : Turn) (f : Player → Player) : Turn :=
  turn.withWorld (turn.world.modifyPlayer f)

end Turn

/-- One step of a turn. -/
abbrev Stage := Turn → Command → List Arg → Turn × Report

/-- Run stages after each other, up to the first that fails, and collect the fragments after those
already said. -/
def runStages (command : Command) : List Stage → Turn → List Arg → List String →
    Turn × List String
  | [], turn, _, said => (turn, said)
  | stage :: rest, turn, args, said =>
    let (turn, report) := stage turn command args
    if report.success then runStages command rest turn report.next (report.addTo said)
    else (turn, report.addTo said)

/-- Run a turn through its stages. The answer is made of the fragments. -/
def Turn.run (turn : Turn) (command : Command) (stages : List Stage) (args : List Arg) :
    Turn × String :=
  let (final, said) := runStages command stages turn args []
  (final, final.config.separator.intercalate said)

end Adventure
