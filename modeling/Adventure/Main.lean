import Adventure.Console

/-!
# The program

Reads files and typed lines and prints; what is printed is decided elsewhere.
-/

namespace Adventure.Console

/-- Why a file cannot be read. -/
def readReason : IO.Error → String
  | .noFileOrDirectory .. => "No such file or directory (os error 2)"
  | .permissionDenied .. => "Permission denied (os error 13)"
  | .inappropriateType .. => "Is a directory (os error 21)"
  | failure => toString failure

/-- The contents of a file, or the reason why it cannot be read. -/
def readContents (path : String) : IO (Except String String) := do
  try
    return .ok (← IO.FS.readFile path)
  catch failure =>
    return .error (readReason failure)

/-- Play a game on the terminal. -/
def playOnTerminal (session : Session) : IO Unit := do
  let input ← IO.getStdin
  let output ← IO.getStdout
  let (begun, text) := session.welcome
  output.putStr (paragraph text)
  let mut current := begun
  let mut waiting := true
  while waiting && current.isRunning do
    output.putStr prompt
    output.flush
    let line ← input.getLine
    if line.isEmpty then
      waiting := false
    else
      let (next, text) := reply current line
      output.putStr text
      current := next
  output.putStr (closing current)

/-- Carry out a request. The result is the exit code. -/
def perform (request : Request) : IO UInt32 := do
  let (errors, loaded?) := openWorld request.path (← readContents request.path)
  IO.eprint errors
  match loaded? with
  | none => return 1
  | some loaded =>
    match request with
    | .check _ =>
      IO.print (report loaded.world)
      return 0
    | .play _ config =>
      match Session.start loaded.world config with
      | .error location =>
        IO.eprint (failure ("failed to start session: " ++ noInventory location))
        return 1
      | .ok session =>
        playOnTerminal session
        return 0

end Adventure.Console

/-- Carry out what the command line asks for. -/
def main (arguments : List String) : IO UInt32 := do
  match Adventure.Console.Request.parse arguments with
  | .ok request => Adventure.Console.perform request
  | .error fault =>
    IO.eprint (Adventure.Console.failure fault.message)
    return 2
