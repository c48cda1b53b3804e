import Adventure.Turn.Arguments
import Adventure.Turn.Events
import Adventure.Turn.Handler
import Adventure.Turn.Life
import Adventure.Turn.Light

/-!
# The stages of a command

Every turn finds the arguments of its command, carries the command out, lets events fire and looks
whether the player lives. The attributes of the command add stages that mind the light.
-/

namespace Adventure.Command

/-- The stages that a turn of the command runs through. -/
def stages (command : Command) : List Stage :=
  (if command.attributes.has CommandFlags.requiresVision then [Stage.requireVision] else []) ++
    [Stage.resolverOf command, command.chosenHandler.stage] ++
    (if command.attributes.has CommandFlags.postVision then [Stage.postVision] else []) ++
    [Stage.events, Stage.life]

end Adventure.Command
