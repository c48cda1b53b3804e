import Adventure.Document.Reading
import Adventure.Loading.Audit
import Adventure.Loading.Build

/-!
# Loading worlds

A world description is read, indexed, built and audited. The result is a world together with
everything that was noted on the way.
-/

namespace Adventure

/-- A world that was loaded. -/
structure Loaded where
  /-- The world. -/
  world : World
  /-- What was noted, in order. -/
  diagnostics : List Diagnostic

namespace Loaded

/-- Whether an error was noted. -/
def hasErrors (loaded : Loaded) : Bool := loaded.diagnostics.any (·.isError)

/-- The world with a warning for every command that has no handler of its own. -/
def withHandlerFaults (loaded : Loaded) : Loaded :=
  { loaded with diagnostics := loaded.diagnostics ++ loaded.world.handlerFaults }

end Loaded

/-- Load the world of a description. -/
def Document.load (document : Document) : Except LoadError Loaded := do
  let (directory, noted) := Directory.ofDocument document
  let (world, noted) ← (directory.buildWorld document).run noted
  return { world, diagnostics := noted ++ world.faults }

/-- Load the world that a text describes. -/
def load (source : String) : Except LoadError Loaded :=
  match Document.parse? source with
  | some document => document.load
  | none => .error .malformed

/-- Load the world that a text describes, to be played. -/
def loadToPlay (source : String) : Except LoadError Loaded :=
  (load source).map Loaded.withHandlerFaults

end Adventure
