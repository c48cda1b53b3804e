import Adventure.World.Basic

/-!
# Weight and room

An item weighs its size and what it holds; while it is worn it weighs nothing. An inventory takes
items up to its capacity. A container takes one item of its kind that is smaller than itself.
-/

namespace Adventure.World

/-- The weight of an item with what it holds down to `depth` items. -/
def weightWithin (world : World) : Nat → ItemKey → Nat
  | 0, _ => 0
  | depth + 1, key =>
    match world.item? key with
    | none => 0
    | some item =>
      if item.isWorn then 0
      else match item.contents with
        | none => item.size
        | some inner => Count.add item.size (world.weightWithin depth inner)

/-- The weight of an item. It cannot hold more items than there are. -/
def weight (world : World) (key : ItemKey) : Nat := world.weightWithin world.items.length key

/-- The weight of everything in an inventory, which is summed without watching for the limit. -/
def carriedWeight (world : World) (id : InventoryId) : Nat :=
  match world.inventory? id with
  | none => 0
  | some inventory => Count.total (inventory.items.map world.weight)

/-- Whether an item fits into an inventory next to what is in it. -/
def inventoryFits (world : World) (id : InventoryId) (key : ItemKey) : Bool :=
  (world.inventory? id).any fun inventory =>
    inventory.fits (world.carriedWeight id) (world.weight key)

/-- Whether a container holds things of an item's kind, liquid or solid. -/
def acceptsKind (world : World) (container key : ItemKey) : Bool :=
  match world.item? container, world.item? key with
  | some outer, some item =>
    outer.attributes.has (if item.isLiquid then ItemFlags.holdsLiquids else ItemFlags.holdsSolids)
  | _, _ => false

/-- Whether a container has room for an item: it is free, another item, holds things of its kind
and is larger. -/
def containerFits (world : World) (container key : ItemKey) : Bool :=
  match world.item? container, world.item? key with
  | some outer, some item =>
    outer.compartment.isSome && outer.contents.isNone && container != key &&
      world.acceptsKind container key && item.size < outer.size
  | _, _ => false

end Adventure.World
