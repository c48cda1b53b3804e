import Adventure.Command

/-!
# The player

The player is somewhere, alive or dead, and may have begun a command that still lacks arguments.
-/

namespace Adventure

/-- A command that waits for arguments. -/
inductive Pending
  /-- No command waits. -/
  | idle
  /-- A command waits, typed as `verb`, whose first arguments are known. -/
  | awaiting (command : CommandId) (verb : String) (resolved : List Arg)
  deriving DecidableEq

/-- The state of the player. -/
structure Player where
  /-- Where the player is. -/
  location : LocationId
  /-- Where the player was before the last move. -/
  previous : Option LocationId := none
  /-- Where the player began and is reincarnated. -/
  start : LocationId
  /-- The attributes of the player. -/
  attributes : PlayerFlags := .none
  /-- Whether the player lives. -/
  alive : Bool := true
  /-- Whether the player has not given up. -/
  playing : Bool := true
  /-- The number of commands run. -/
  moves : Nat := 0
  /-- The points scored. -/
  score : Nat := 0
  /-- The command that waits for arguments. -/
  pending : Pending := .idle
  deriving DecidableEq

namespace Player

/-- A living player who begins at `start`. -/
def beginningAt (start : LocationId) : Player := { location := start, start }

/-- Move somewhere and remember from where. -/
def moveTo (player : Player) (destination : LocationId) : Player :=
  { player with previous := some player.location, location := destination }

/-- Whether the player cannot die. -/
def isImmune (player : Player) : Bool := player.attributes.has PlayerFlags.immune

/-- Whether the player sees full descriptions on every visit. -/
def isVerbose (player : Player) : Bool := player.attributes.has PlayerFlags.verbose

/-- Die, unless immune. -/
def die (player : Player) : Player :=
  if player.isImmune then player else { player with alive := false }

/-- Forget the command that waits. -/
def forget (player : Player) : Player := { player with pending := .idle }

/-- Let a command wait for arguments. -/
def suspend (player : Player) (command : CommandId) (verb : String) (resolved : List Arg) :
    Player :=
  { player with pending := .awaiting command verb resolved }

/-- Come back to life at the start, for some points. -/
def reincarnate (player : Player) (penalty : Nat) : Player :=
  { player with
    alive := true
    previous := none
    location := player.start
    score := player.score - penalty
    pending := .idle }

end Player

end Adventure
