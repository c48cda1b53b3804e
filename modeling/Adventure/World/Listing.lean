import Adventure.World.Surroundings
import Adventure.World.Switching

/-!
# Listings

How items and locations are told to the player.
-/

namespace Adventure.World

/-- The name of an item in listings, with its state and what it holds down to `depth` items. -/
def listNameWithin (world : World) : Nat → ItemKey → String
  | 0, key => world.itemName key
  | depth + 1, key =>
    match world.item? key with
    | none => world.itemName key
    | some item =>
      let state := match item.switch, world.isSwitchedOn key with
        | some switch, .ok on => " (" ++ switch.words.wordFor on ++ ")"
        | _, _ => ""
      let worn := if item.isWorn then " (worn)" else ""
      let inside := match item.contents with
        | some inner => " containing " ++ world.listNameWithin depth inner
        | none => ""
      item.labels.longname ++ state ++ worn ++ inside

/-- The name of an item in listings, with its state and what it holds. -/
def listName (world : World) (key : ItemKey) : String :=
  world.listNameWithin (world.items.length + 1) key

/-- The surroundings of the player. In the dark only the darkness is told; a full description adds
the exits and tells more than the name of the location. -/
def surroundings (world : World) (full : Bool) : String :=
  if !world.canSee then world.response "describe_dark"
  else match world.location? world.player.location with
    | none => ""
    | some location =>
      let responses := world.texts.responses
      let description := location.labels.fullDescription
      let place :=
        if full && !description.isEmpty then description else location.labels.longname
      let things := (world.contents (.location world.player.location)).map fun key =>
        responses.format "describe_item_here" [world.listName key]
      let exits :=
        if full && !location.exitNames.isEmpty then
          [responses.format "describe_exits" [", ".intercalate location.exitNames]]
        else []
      "\n".intercalate (place :: things ++ exits)

/-- Look around: tell the surroundings, and remember them as visited when there is light. -/
def lookAround (world : World) (full : Bool) : World × String :=
  let seen := if world.canSee then
      world.modifyLocation world.player.location fun l => { l with visited := true }
    else world
  (seen, world.surroundings full)

/-- An argument of a command as the player is told of it. -/
def argText (world : World) : Arg → String
  | .item key => world.itemName key
  | .text text => text
  | .location id =>
    match world.location? id with
    | some location => location.labels.shortname
    | none => toString id
  | .direction direction => direction.name
  | .transition transition => transition.word

end Adventure.World
