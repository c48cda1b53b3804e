import Adventure.Config
import Adventure.Text.Template

/-!
# Requests

What the program is asked to do on its command line: to check a world description, or to play it.
-/

namespace Adventure.Console

/-- What the program is asked to do. -/
inductive Request
  /-- Report on the world in a file. -/
  | check (path : String)
  /-- Play the world in a file. -/
  | play (path : String) (config : Config)

/-- The options of a command line. -/
structure Options where
  /-- The file with the world. -/
  path : Option String := none
  /-- Whether full descriptions are wanted on every visit. -/
  verbose : Bool := false
  /-- Whether the player cannot die. -/
  immune : Bool := false
  /-- The points that a reincarnation costs. -/
  penalty : Option Nat := none

/-- Why a command line is not understood. -/
inductive UsageError
  | missingCommand
  | missingWorld
  | missingValue (option : String)
  | invalidValue (option value : String)
  | unexpected (argument : String)

namespace UsageError

/-- The wording of the cause. -/
def message : UsageError → String
  | missingCommand => "a command is required: check or play"
  | missingWorld => "the option --world is required"
  | missingValue option => s!"the option {option} needs a value"
  | invalidValue option value => s!"invalid value '{value}' for {option}"
  | unexpected argument => s!"unexpected argument '{argument}'"

end UsageError

/-- Cut an option from a value that is written with it. -/
def splitOption (argument : String) : List String :=
  let cs := argument.toList
  match cs with
  | '-' :: 'w' :: c :: rest => ["-w", String.ofList (if c = '=' then rest else c :: rest)]
  | '-' :: '-' :: _ =>
    if cs.contains '=' then
      [String.ofList (cs.takeWhile (· != '=')), String.ofList ((cs.dropWhile (· != '=')).drop 1)]
    else [argument]
  | _ => [argument]

/-- A number of points. -/
def points? (value : String) : Option Nat :=
  let digits := match value.toList with
    | '+' :: rest => rest
    | all => all
  if !digits.isEmpty && digits.all Char.isDigit && Text.decimal digits ≤ 0xFFFFFFFF then
    some (Text.decimal digits)
  else none

/-- Read the options of a command, after those already read. -/
def readOptions (options : Options) : List String → Except UsageError Options
  | [] => .ok options
  | "--verbose" :: rest => readOptions { options with verbose := true } rest
  | "--immune" :: rest => readOptions { options with immune := true } rest
  | [option] =>
    if ["-w", "--world", "--penalty", "--log-level"].contains option then
      .error (.missingValue option)
    else .error (.unexpected option)
  | option :: value :: rest =>
    if option = "-w" ∨ option = "--world" then
      readOptions { options with path := some value } rest
    else if option = "--log-level" then readOptions options rest
    else if option = "--penalty" then
      match points? value with
      | some points => readOptions { options with penalty := some points } rest
      | none => .error (.invalidValue option value)
    else .error (.unexpected option)

/-- The settings that options ask for. Similarity is the Jaro–Winkler measure. -/
def Options.config (options : Options) : Config :=
  let plain : Config := {}
  { plain with
    verbose := options.verbose
    immune := options.immune
    penalty := options.penalty.getD plain.penalty
    similarity := Text.similarity }

/-- Read a command line whose options are cut from their values. Before the command only the
verbosity of the log may be given; there is no log. -/
def readRequest : List String → Except UsageError Request
  | "--log-level" :: _ :: rest => readRequest rest
  | "check" :: rest => do
    let options ← readOptions {} rest
    match options.path with
    | some path => .ok (.check path)
    | none => .error .missingWorld
  | "play" :: rest => do
    let options ← readOptions {} rest
    match options.path with
    | some path => .ok (.play path options.config)
    | none => .error .missingWorld
  | argument :: _ => .error (.unexpected argument)
  | [] => .error .missingCommand

/-- Read a command line. -/
def Request.parse (arguments : List String) : Except UsageError Request :=
  readRequest (arguments.flatMap splitOption)

/-- The file that a request is about. -/
def Request.path : Request → String
  | check path => path
  | play path _ => path

end Adventure.Console
