import Adventure.Turn.Handler.Things

/-!
# Switching

Switching an item acts on the target of its switch; switching the player acts on an attribute of
the player.
-/

namespace Adventure.Stage

/-- Switch an item. A switch that already is as asked is left alone. -/
def switch : Stage := fun turn _ args =>
  match itemAt args 0 with
  | none => nothingHappens turn
  | some key =>
    let world := turn.world
    let name := world.itemName key
    let transition := ((args[1]?).bind (·.transition?)).getD .toggle
    match (world.item? key).bind (·.switch), world.isSwitchedOn key with
    | some part, .ok current =>
      if transition.apply current = current then
        (turn, turn.refuse "reject_already_switched" [name, part.words.wordFor current])
      else match world.switch key transition with
        | .ok (changed, state) =>
          (turn.withWorld changed,
            turn.say "confirm_switched" [name, part.words.wordFor state] args)
        | .error _ => (turn, turn.refuse "reject_not_switchable" [name])
    | _, _ => (turn, turn.refuse "reject_not_switchable" [name])

/-- Switch the attribute of the player that the command names. -/
def setPlayer : Stage := fun turn command args =>
  match command.switch with
  | none => (turn, turn.refuse "reject_not_switchable" [command.name])
  | some part =>
    let transition := (args.head?.bind (·.transition?)).getD .toggle
    let state := transition.apply (turn.world.player.attributes.has part.flag)
    (turn.modifyPlayer fun p => { p with attributes := p.attributes.assign part.flag state },
      turn.say "confirm_player_switched"
        [Text.capitalize command.name, part.words.wordFor state] args)

end Adventure.Stage
