import Adventure.World.Containment

/-!
# The player's surroundings

What the player holds, what is at hand, and whether there is light and air. Only things that are
not inside others give light or air.
-/

namespace Adventure.World

/-- The inventory that serves at a location: one bound to it, else the default one. -/
def inventoryAt? (world : World) (location : LocationId) : Option InventoryId :=
  let inventories := world.inventories.values
  let bound := inventories.find? fun i => !i.isDefault && i.servesAt location
  (bound <|> inventories.find? (·.isDefault)).map (·.id)

/-- The inventory that serves where the player is. -/
def currentInventory? (world : World) : Option InventoryId :=
  world.inventoryAt? world.player.location

/-- The items directly in the inventory that serves at a location. -/
def carriedAt (world : World) (location : LocationId) : List ItemKey :=
  match world.inventoryAt? location with
  | some id => world.contents (.inventory id)
  | none => []

/-- The items directly in the inventory that serves where the player is. -/
def carried (world : World) : List ItemKey := world.carriedAt world.player.location

/-- Whether the player holds an item, at any depth. -/
def holds (world : World) (key : ItemKey) : Bool :=
  match world.outermost? key, world.currentInventory? with
  | some (.inventory id), some current => id == current
  | _, _ => false

/-- Whether an item is where the player is, at any depth, without being held. -/
def isHere (world : World) (key : ItemKey) : Bool :=
  world.outermost? key == some (.location world.player.location)

/-- Whether an item has an attribute of itself or by being worn. -/
def hasEffective (world : World) (flag : ItemFlags) (key : ItemKey) : Bool :=
  (world.item? key).any fun item => item.effectiveAttributes.has flag

/-- Whether an item gives light. -/
def givesLight (world : World) (key : ItemKey) : Bool :=
  world.hasEffective ItemFlags.givesLight key

/-- Whether the player would see at a location: it is lit, or something carried or lying there
gives light. -/
def canSeeAt (world : World) (location : LocationId) : Bool :=
  (world.location? location).any (·.givesLight) ||
    (world.carriedAt location ++ world.contents (.location location)).any world.givesLight

/-- Whether the player sees. -/
def canSee (world : World) : Bool := world.canSeeAt world.player.location

/-- Whether the player would breathe at a location: it has air, or something carried gives air. -/
def hasAirAt (world : World) (location : LocationId) : Bool :=
  (world.location? location).any (·.givesAir) ||
    (world.carriedAt location).any (world.hasEffective ItemFlags.givesAir)

/-- The first thing where the player is that bars the way. -/
def obstruction? (world : World) : Option ItemKey :=
  (world.contents (.location world.player.location)).find? fun key =>
    (world.item? key).any (·.attributes.has ItemFlags.obstruction)

/-- The item that a word means: of all items with that name, one that the player holds, else one
that is here, else the first. -/
def itemMeant? (world : World) (name : String) : Option ItemKey :=
  let candidates := world.itemsNamed name
  candidates.find? world.holds <|> candidates.find? world.isHere <|> candidates.head?

end Adventure.World
