import Adventure.Count
import Adventure.Id

/-!
# Inventories

What a player carries is in an inventory of limited capacity. One inventory is the default one;
others take its place at certain locations.
-/

namespace Adventure

/-- A set of carried items. -/
structure Inventory where
  /-- The number of the inventory. -/
  id : InventoryId
  /-- The largest weight that it holds. -/
  capacity : Nat
  /-- Whether it serves wherever no other inventory does. -/
  isDefault : Bool
  /-- The locations where it serves. -/
  locations : List LocationId := []
  /-- The items in it, in the order of their arrival. -/
  items : List ItemKey := []
  deriving DecidableEq

namespace Inventory

/-- Whether the inventory is bound to a location. -/
def servesAt (inventory : Inventory) (location : LocationId) : Bool :=
  inventory.locations.contains location

/-- Whether `weight` fits next to the weight `carried`. -/
def fits (inventory : Inventory) (carried weight : Nat) : Bool :=
  Count.add carried weight ≤ inventory.capacity

end Inventory

end Adventure
