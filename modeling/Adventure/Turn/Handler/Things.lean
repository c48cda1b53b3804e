import Adventure.Turn.Stage
import Adventure.World.Weight

/-!
# Handling things

Taking, dropping, filling, wearing, consuming and pouring. Each handler refuses what it does not
allow before it changes anything.
-/

namespace Adventure.Stage

/-- The refusal of a command that lacks an argument or that the world does not allow. -/
def nothingHappens (turn : Turn) : Turn × Report := (turn, turn.refuse "nothing_happens" [])

/-- The item that the argument at a position names. -/
def itemAt (args : List Arg) (index : Nat) : Option ItemKey := (args[index]?).bind (·.item?)

/-- Go on in the world that a change leaves, or refuse if the change was refused. -/
def settle (turn : Turn) (change : World × Except WorldError Unit) (key : String)
    (values : List String) (args : List Arg) : Turn × Report :=
  (turn.withWorld change.1, match change.2 with
    | .ok () => turn.say key values args
    | .error _ => turn.refuse "nothing_happens" [])

/-- Take an item. -/
def take : Stage := fun turn _ args =>
  match itemAt args 0 with
  | none => nothingHappens turn
  | some key =>
    let world := turn.world
    let name := world.itemName key
    if world.holds key then (turn, turn.refuse "reject_carrying" [name])
    else match world.owner? key with
      | some owner => (turn, turn.refuse "reject_owned" [name, world.itemName owner])
      | none =>
        match world.item? key with
        | none => nothingHappens turn
        | some item =>
          if item.isLiquid then (turn, turn.refuse "reject_liquid" [name])
          else if !item.attributes.has ItemFlags.portable then
            (turn, turn.refuse "reject_not_portable" [name])
          else match world.currentInventory?.filter fun id => world.inventoryFits id key with
            | none => (turn, turn.refuse "reject_too_heavy" [name])
            | some inventory =>
              settle turn (world.tryInsert (.inventory inventory) key) "confirm_taken" [name] args

/-- Drop a held item, which is then no longer worn. A liquid drains away. -/
def drop : Stage := fun turn _ args =>
  match itemAt args 0 with
  | none => nothingHappens turn
  | some key =>
    let name := turn.world.itemName key
    if !turn.world.holds key then (turn, turn.refuse "reject_not_holding" [name])
    else
      let turn := turn.withWorld (turn.world.modifyItem key (·.withWorn false))
      let world := turn.world
      if (world.item? key).any (·.isLiquid) then
        settle turn (world.tryDestroy key) "confirm_poured" [name] args
      else
        settle turn (world.tryInsert (.location world.player.location) key) "confirm_dropped"
          [name] args

/-- Put an item into a container: a copy, if the item is one that is copied. -/
def insert : Stage := fun turn _ args =>
  match itemAt args 0, itemAt args 1 with
  | some key, some container =>
    let world := turn.world
    let name := world.itemName key
    let containerName := world.itemName container
    match world.item? key, world.item? container with
    | some item, some target =>
      match target.compartment with
      | none => (turn, turn.refuse "reject_not_container" [containerName])
      | some compartment =>
        if key = container then (turn, turn.refuse "reject_insert_self" [name])
        else match compartment.contents with
          | some occupant =>
            (turn, turn.refuse "reject_container_full" [containerName, world.itemName occupant])
          | none =>
            let gains := world.holds container && !world.holds key
            let fits := world.currentInventory?.any fun id => world.inventoryFits id key
            if !world.acceptsKind container key then
              (turn, turn.refuse "reject_wrong_contents" [containerName, name])
            else if target.size ≤ item.size then
              (turn, turn.refuse "reject_too_big" [name, containerName])
            else if gains && !fits then (turn, turn.refuse "reject_too_heavy" [name])
            else
              let (changed, outcome) :=
                if item.attributes.has ItemFlags.copyable then
                  let (changed, outcome) := world.copyInto (.item container) key
                  (changed, outcome.map fun _ => ())
                else world.tryInsert (.item container) key
              let turn := turn.withWorld changed
              match outcome with
              | .ok () => (turn, turn.say "confirm_inserted" [name, containerName] args)
              | .error (.selfContainment _) => (turn, turn.refuse "reject_insert_self" [name])
              | .error _ => nothingHappens turn
    | _, _ => nothingHappens turn
  | _, _ => nothingHappens turn

/-- Put on a held garment. -/
def wear : Stage := fun turn _ args =>
  match itemAt args 0 with
  | none => nothingHappens turn
  | some key =>
    let name := turn.world.itemName key
    if !turn.world.holds key then (turn, turn.refuse "reject_not_holding" [name])
    else match (turn.world.item? key).bind (·.garment) with
      | none => (turn, turn.refuse "reject_not_wearable" [name])
      | some garment =>
        if garment.worn then (turn, turn.refuse "reject_already_worn" [name])
        else
          (turn.withWorld (turn.world.modifyItem key (·.withWorn true)),
            turn.say "confirm_worn" [name] args)

/-- Take off a worn garment. -/
def remove : Stage := fun turn _ args =>
  match itemAt args 0 with
  | none => nothingHappens turn
  | some key =>
    let name := turn.world.itemName key
    if (turn.world.item? key).any (·.isWorn) then
      (turn.withWorld (turn.world.modifyItem key (·.withWorn false)),
        turn.say "confirm_removed" [name] args)
    else (turn, turn.refuse "reject_not_worn" [name])

/-- Eat or drink an item. -/
def consume : Stage := fun turn _ args =>
  match itemAt args 0 with
  | none => nothingHappens turn
  | some key =>
    let name := turn.world.itemName key
    if (turn.world.item? key).any fun i => i.attributes.has ItemFlags.edible || i.isLiquid then
      settle turn (turn.world.tryDestroy key) "confirm_consumed" [name] args
    else (turn, turn.refuse "reject_not_consumable" [name])

/-- The liquid that pouring an item means: the item, or else what it holds. -/
def poured? (world : World) (key : ItemKey) : Option ItemKey :=
  (world.item? key).bind fun item =>
    if item.isLiquid then some key
    else item.contents.filter fun inner => (world.item? inner).any (·.isLiquid)

/-- Pour out a liquid, or the liquid in a container. -/
def pour : Stage := fun turn _ args =>
  match itemAt args 0 with
  | none => nothingHappens turn
  | some key =>
    match poured? turn.world key with
    | none => (turn, turn.refuse "reject_not_liquid" [turn.world.itemName key])
    | some liquid =>
      settle turn (turn.world.tryDestroy liquid) "confirm_poured" [turn.world.itemName liquid]
        args

end Adventure.Stage
