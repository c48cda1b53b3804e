import Adventure.Console.Grid
import Adventure.Console.Request
import Adventure.Loading
import Adventure.Session

/-!
# The console

What the program prints when it checks a world or lets it be played, as texts. Reading files and
typed lines, and printing, are left to the caller.
-/

namespace Adventure

/-- The name that the program suggests for a word, if one is similar enough by the measure that it
plays with. -/
def World.suggest? (world : World) (threshold : Float) (word : String) : Option String :=
  world.suggestBy Text.similarity threshold word

end Adventure

namespace Adventure.Console

/-- What a run of the program comes to. -/
structure Outcome where
  /-- The exit code. -/
  code : Nat
  /-- What is printed as output. -/
  output : String
  /-- What is printed as errors. -/
  errors : String

/-- A count with its noun, in the plural unless the count is one. -/
def counted (count : Nat) (noun : String) : String :=
  s!"{count} {noun}" ++ (if count = 1 then "" else "s")

/-- How many errors and warnings were noted; without errors only the warnings. -/
def tally (diagnostics : List Diagnostic) : String :=
  let errors := Diagnostic.errorCount diagnostics
  let warnings := counted (Diagnostic.warningCount diagnostics) "warning"
  if errors = 0 then warnings else counted errors "error" ++ ", " ++ warnings

/-- Everything that was noted, one line each, and how much it is. -/
def diagnosticLines (diagnostics : List Diagnostic) : String :=
  if diagnostics.isEmpty then ""
  else
    String.join ((diagnostics.map (·.text) ++ [tally diagnostics]).map fun line =>
      "  " ++ line ++ "\n")

/-- The line that tells why the program gives up. -/
def failure (message : String) : String := "error: " ++ message ++ "\n"

/-- Load the world in a file, of which either the contents or the reason why it cannot be read is
given. The result is what is printed as errors, and the world if it had none. -/
def openWorld (path : String) (contents : Except String String) : String × Option Loaded :=
  let loaded := match contents with
    | .ok source => loadToPlay source
    | .error reason => .error (.unreadable path reason)
  match loaded with
  | .error cause => (failure (path ++ ": " ++ cause.message), none)
  | .ok loaded =>
    let noted := diagnosticLines loaded.diagnostics
    if loaded.hasErrors then
      let count := counted (Diagnostic.errorCount loaded.diagnostics) "error"
      (noted ++ failure ("'" ++ path ++ "' has " ++ count), none)
    else (noted, some loaded)

/-- The report on a world without errors. -/
def report (world : World) : String :=
  let grid : Grid := {
    header := ("Kind", "Count")
    rows := [
      ("locations", toString world.locations.size),
      ("items", toString world.items.length),
      ("commands", toString world.commands.size),
      ("events", toString world.events.size),
      ("inventories", toString world.inventories.size)] }
  s!"  All checks passed for '{world.name}'.\n\n" ++ grid.render ++ "\n"

/-- The message for a world in which nothing serves as inventory where the player begins. -/
def noInventory (location : LocationId) : String :=
  s!"no inventory applies at the start location {location}"

/-- What is printed before a line is typed. -/
def prompt : String := "> "

/-- An answer as it is printed, with an empty line after it. -/
def paragraph (text : String) : String := text ++ "\n\n"

/-- What is printed when a game is over. -/
def closing (session : Session) : String :=
  let player := session.world.player
  s!"  Final score: {player.score} points in {player.moves} moves.\n"

/-- Answer one typed line. -/
def reply (session : Session) (line : String) : Session × String :=
  let (session, text) := session.answer (Text.trim line)
  (session, paragraph text)

/-- What is printed while the lines are typed one after the other. The game goes on until it is
over or no line is left. -/
def exchange (session : Session) : List String → String
  | [] => (if session.isRunning then prompt else "") ++ closing session
  | line :: rest =>
    if session.isRunning then
      let (session, text) := reply session line
      prompt ++ text ++ exchange session rest
    else closing session

/-- The lines of an input. An empty line at its end is none. -/
def lines (input : String) : List String :=
  match input.splitOn "\n" |>.reverse with
  | "" :: before => before.reverse
  | all => all.reverse

/-- Run the program on a file, of which either the contents or the reason why it cannot be read is
given, and on what is typed. -/
def run (request : Request) (contents : Except String String) (input : String) : Outcome :=
  match openWorld request.path contents with
  | (errors, none) => ⟨1, "", errors⟩
  | (errors, some loaded) =>
    match request with
    | .check _ => ⟨0, report loaded.world, errors⟩
    | .play _ config =>
      match Session.start loaded.world config with
      | .error location =>
        ⟨1, "", errors ++ failure ("failed to start session: " ++ noInventory location)⟩
      | .ok session =>
        let (session, text) := session.welcome
        ⟨0, paragraph text ++ exchange session (lines input), errors⟩

end Adventure.Console
