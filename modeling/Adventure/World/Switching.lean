import Adventure.World.Basic

/-!
# Switches in a world

A switch acts on an attribute of an item, which may be the switch itself, or of a location. It is
on when its target has the attribute.
-/

namespace Adventure.World

/-- What the switch of an item acts on. -/
def switchTarget (world : World) (key : ItemKey) : Except WorldError SwitchTarget :=
  match world.item? key with
  | none => .error (.itemNotFound key)
  | some item =>
    match item.switch.bind (·.target) with
    | some target => .ok target
    | none => .error (.notSwitchable key)

/-- Whether a target has the attribute that means on. -/
def targetState (world : World) : SwitchTarget → Except WorldError Bool
  | .item key flag =>
    match world.item? key with
    | some item => .ok (item.attributes.has flag)
    | none => .error (.itemNotFound key)
  | .location id flag =>
    match world.location? id with
    | some location => .ok (location.attributes.has flag)
    | none => .error (.locationNotFound id)

/-- Set or clear the attribute of a target. -/
def setTarget (world : World) (on : Bool) : SwitchTarget → World
  | .item key flag =>
    world.modifyItem key fun i => { i with attributes := i.attributes.assign flag on }
  | .location id flag =>
    world.modifyLocation id fun l => { l with attributes := l.attributes.assign flag on }

/-- Whether the switch of an item is on. -/
def isSwitchedOn (world : World) (key : ItemKey) : Except WorldError Bool := do
  world.targetState (← world.switchTarget key)

/-- Use the switch of an item. The result tells the new state. -/
def switch (world : World) (key : ItemKey) (transition : Transition) :
    Except WorldError (World × Bool) := do
  let target ← world.switchTarget key
  let state := transition.apply (← world.targetState target)
  return (world.setTarget state target, state)

end Adventure.World
