import Adventure.World.Basic

/-!
# Containment

Where an item is stands in two places: the item names its holder, and the holder lists its items.
Moving an item writes both. A container holds one item at most, and no item may end up inside
itself; whether a move is allowed otherwise is for the commands to decide.
-/

namespace Adventure.World

/-! ## Who holds what -/

/-- The items that a holder lists. -/
def contents (world : World) : Holder → List ItemKey
  | .location id => ((world.location? id).map (·.items)).getD []
  | .inventory id => ((world.inventory? id).map (·.items)).getD []
  | .item key => ((world.item? key).bind (·.contents)).toList

/-- The holder that an item names. -/
def holder? (world : World) (key : ItemKey) : Option Holder :=
  (world.item? key).bind (·.holder)

/-- Whether an item is directly in a holder. -/
def isIn (world : World) (holder : Holder) (key : ItemKey) : Bool :=
  world.holder? key == some holder

/-- The holder of an item, the holder of that, and so on upward, for at most `steps` steps. -/
def holdersWithin (world : World) : Nat → ItemKey → List Holder
  | 0, _ => []
  | steps + 1, key =>
    match world.holder? key with
    | none => []
    | some (.item outer) => .item outer :: world.holdersWithin steps outer
    | some holder => [holder]

/-- Everything that an item is inside of, the nearest first. Only items hold items in turn, so
there are no more holders than items. -/
def holders (world : World) (key : ItemKey) : List Holder :=
  world.holdersWithin world.items.length key

/-- Whether `outer` holds `inner` at any depth. -/
def encloses (world : World) (outer inner : ItemKey) : Bool :=
  (world.holders inner).contains (.item outer)

/-- The location or inventory that an item is in at any depth. -/
def outermost? (world : World) (key : ItemKey) : Option Holder :=
  match (world.holders key).getLast? with
  | none => none
  | some (.item _) => none
  | some holder => some holder

/-- The creature that directly holds an item. -/
def owner? (world : World) (key : ItemKey) : Option ItemKey :=
  match world.holder? key with
  | some (.item outer) =>
    if (world.item? outer).any (·.attributes.has ItemFlags.sentient) then some outer else none
  | _ => none

/-! ## Moving items

A change may be refused. What is tried comes with the world that it leaves, whatever its outcome is;
the other form gives the changed world, if the change is not refused.
-/

/-- What is left of a change that is not refused. -/
def accepted {α : Type} : World × Except WorldError α → Except WorldError (World × α)
  | (changed, .ok result) => .ok (changed, result)
  | (_, .error refusal) => .error refusal

/-- A change that does nothing when it is refused. -/
def attempt (world : World) : Except WorldError World → World × Except WorldError Unit
  | .ok changed => (changed, .ok ())
  | .error refusal => (world, .error refusal)

/-- Strike an item off the list of a holder. -/
def unlist (world : World) (key : ItemKey) : Holder → World
  | .location id =>
    world.modifyLocation id fun l => { l with items := l.items.filter (· ≠ key) }
  | .inventory id =>
    world.modifyInventory id fun i => { i with items := i.items.filter (· ≠ key) }
  | .item outer =>
    world.modifyItem outer fun i =>
      if i.contents = some key then i.withContents none else i

/-- Enter an item last in the list of a holder. -/
def list (world : World) (key : ItemKey) : Holder → World
  | .location id => world.modifyLocation id fun l => { l with items := l.items ++ [key] }
  | .inventory id => world.modifyInventory id fun i => { i with items := i.items ++ [key] }
  | .item outer => world.modifyItem outer (·.withContents (some key))

/-- Take an item out of whatever holds it. The outcome names the old holder. -/
def tryRemove (world : World) (key : ItemKey) : World × Except WorldError (Option Holder) :=
  match world.item? key with
  | none => (world, .error (.itemNotFound key))
  | some item =>
    let world := world.modifyItem key fun i => { i with holder := none }
    match item.holder with
    | none => (world, .ok none)
    | some holder => (world.unlist key holder, .ok (some holder))

/-- The world without an item in whatever held it, and the old holder. -/
def remove (world : World) (key : ItemKey) : Except WorldError (World × Option Holder) :=
  accepted (world.tryRemove key)

/-- Why an item cannot be put into a holder, if it cannot: the item and the holder must exist, and
an item as a holder must be a container that is free or already holds the item, and not lie inside
the item. -/
def refusal? (world : World) (holder : Holder) (key : ItemKey) : Option WorldError :=
  if (world.item? key).isNone then some (.itemNotFound key)
  else match holder with
    | .location id =>
      if world.locations.contains id then none else some (.locationNotFound id)
    | .inventory id =>
      if world.inventories.contains id then none else some (.inventoryNotFound id)
    | .item outer =>
      if outer = key ∨ world.encloses key outer then some (.selfContainment key)
      else match world.item? outer with
        | none => some (.itemNotFound outer)
        | some container =>
          match container.compartment with
          | none => some (.notAContainer outer)
          | some { contents := none } => none
          | some { contents := some occupant } =>
            if occupant = key then none else some (.containerOccupied outer occupant)

/-- Put an item into a holder, out of the one that it was in. -/
def tryInsert (world : World) (holder : Holder) (key : ItemKey) : World × Except WorldError Unit :=
  match world.refusal? holder key with
  | some refusal => (world, .error refusal)
  | none =>
    match world.tryRemove key with
    | (removed, .error refusal) => (removed, .error refusal)
    | (removed, .ok _) =>
      ((removed.list key holder).modifyItem key fun i => { i with holder := some holder }, .ok ())

/-- The world with an item put into a holder. -/
def insert (world : World) (holder : Holder) (key : ItemKey) : Except WorldError World :=
  (accepted (world.tryInsert holder key)).map Prod.fst

/-- Take an item, which is then no longer worn, out of the world. -/
def tryDestroy (world : World) (key : ItemKey) : World × Except WorldError Unit :=
  let (destroyed, outcome) := (world.modifyItem key (·.withWorn false)).tryRemove key
  (destroyed, outcome.map fun _ => ())

/-- The world with an item taken out of it. -/
def destroy (world : World) (key : ItemKey) : Except WorldError World :=
  (accepted (world.tryDestroy key)).map Prod.fst

/-! ## Copies -/

/-- Make a copy of an item, empty and nowhere. It takes the place of an earlier copy of the item
that is nowhere by now. -/
def tryCopyItem (world : World) (key : ItemKey) : World × Except WorldError ItemKey :=
  match world.item? key with
  | none => (world, .error (.itemNotFound key))
  | some item =>
    let copy := { item.withContents none with holder := none, copyOf := some key }
    match world.keyedItems.find? fun (_, i) => i.copyOf == some key && i.isSpent with
    | some (spent, _) => (world.modifyItem spent fun _ => copy, .ok spent)
    | none => ({ world with items := world.items ++ [copy] }, .ok world.nextKey)

/-- The world with a copy of an item, and the copy. -/
def copyItem (world : World) (key : ItemKey) : Except WorldError (World × ItemKey) :=
  accepted (world.tryCopyItem key)

/-- Put a new copy of an item into a holder, unless the holder would refuse the item. A copy may
have come about that the holder refuses. -/
def copyInto (world : World) (holder : Holder) (key : ItemKey) :
    World × Except WorldError ItemKey :=
  match world.refusal? holder key with
  | some refusal => (world, .error refusal)
  | none =>
    match world.tryCopyItem key with
    | (copied, .error refusal) => (copied, .error refusal)
    | (copied, .ok copy) =>
      match copied.tryInsert holder copy with
      | (filled, .error refusal) => (filled, .error refusal)
      | (filled, .ok ()) => (filled, .ok copy)

end Adventure.World
