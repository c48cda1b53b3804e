/-!
# Diagnostics

Whatever is wrong with a world description is noted and the rest of the world is loaded all the
same. An error makes the world inconsistent; a warning leaves it playable.
-/

namespace Adventure

/-- How bad a problem is. -/
inductive Severity
  | error
  | warning
  deriving DecidableEq

/-- A problem that was found while a world was loaded. -/
structure Diagnostic where
  /-- How bad it is. -/
  severity : Severity
  /-- What is wrong, and where. -/
  message : String
  deriving DecidableEq

namespace Diagnostic

/-- An error. -/
def error (message : String) : Diagnostic := ⟨.error, message⟩

/-- A warning. -/
def warning (message : String) : Diagnostic := ⟨.warning, message⟩

/-- Whether a problem is an error. -/
def isError (diagnostic : Diagnostic) : Bool := diagnostic.severity = .error

/-- A problem as it is shown. -/
def text (diagnostic : Diagnostic) : String :=
  match diagnostic.severity with
  | .error => s!"ERROR: {diagnostic.message}"
  | .warning => s!"WARN: {diagnostic.message}"

/-- The number of errors. -/
def errorCount (diagnostics : List Diagnostic) : Nat := diagnostics.countP isError

/-- The number of warnings. -/
def warningCount (diagnostics : List Diagnostic) : Nat := diagnostics.countP (!·.isError)

end Diagnostic

end Adventure
