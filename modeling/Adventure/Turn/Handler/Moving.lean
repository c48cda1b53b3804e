import Adventure.Turn.Stage

/-!
# Moving

Walking along an exit and jumping by a teleport table end alike: the player arrives somewhere, and
may drown there or fall in the dark.
-/

namespace Adventure

namespace Turn

/-- Move the player somewhere and tell what is found. Without air the player drowns. In the dark
the player falls, unless an exit leads straight back. -/
def arrive (turn : Turn) (destination : LocationId) (args : List Arg) : Turn × Report :=
  let origin := turn.world.player.location
  let moved := turn.modifyPlayer (·.moveTo destination)
  let mortal := !moved.world.player.isImmune
  let dead := { moved.modifyPlayer (·.die) with deathNarrated := true }
  let place := moved.world.location? destination
  if !moved.world.hasAirAt destination && mortal then
    (dead, moved.say "death_drowning" [] args)
  else if moved.world.canSee then
    let full := moved.world.player.isVerbose || place.any (!·.visited)
    let (world, text) := moved.world.lookAround full
    ({ moved with world, couldSee := true }, .tell text args)
  else if !place.any (·.hasExitTo origin) && mortal then
    (dead, moved.say "death_darkness" [] args)
  else ({ moved with couldSee := false }, moved.say "describe_dark" [] args)

end Turn

namespace Stage

/-- Walk to the place found. What bars the way lets the player only back. -/
def go : Stage := fun turn _ args =>
  match args.head?.bind (·.location?) with
  | none => (turn, turn.refuse "reject_no_direction" [])
  | some destination =>
    match turn.world.obstruction? with
    | some key =>
      if turn.world.player.previous = some destination then turn.arrive destination args
      else (turn, turn.refuse "reject_obstruction" [turn.world.itemName key])
    | none => turn.arrive destination args

/-- Jump to the place found. -/
def teleport : Stage := fun turn _ args =>
  match args.head?.bind (·.location?) with
  | none => (turn, turn.refuse "reject_teleport" [])
  | some destination => turn.arrive destination args

end Stage

end Adventure
