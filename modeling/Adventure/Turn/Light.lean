import Adventure.Turn.Stage

/-!
# Light

Some commands are refused in the dark, and some report afterwards that light came or went.
-/

namespace Adventure.Stage

/-- Refuse the command in the dark. -/
def requireVision : Stage := fun turn _ args =>
  if turn.world.canSee then (turn, .silent args) else (turn, turn.refuse "reject_too_dark" [])

/-- Report a change of light: the surroundings, or the darkness. -/
def postVision : Stage := fun turn _ args =>
  let sees := turn.world.canSee
  if sees = turn.couldSee then (turn, .silent args)
  else
    let (world, text) := turn.world.lookAround true
    ({ turn with world, couldSee := sees }, .tell text args)

end Adventure.Stage
