import Adventure.Attributes
import Adventure.Id
import Adventure.Labels
import Adventure.Switch

/-!
# Items

An item is something that lies at a location, is carried in an inventory or sits inside another
item. What can be done with it follows from its attributes and from its parts: a compartment, a
switch, or being a garment. One item can have several of these.
-/

namespace Adventure

/-- Where an item is. -/
inductive Holder
  | location (id : LocationId)
  | item (key : ItemKey)
  | inventory (id : InventoryId)
  deriving DecidableEq

/-- The room inside a container, which holds at most one item. -/
structure Compartment where
  /-- The item inside. -/
  contents : Option ItemKey := none
  deriving DecidableEq

/-- The attribute whose presence means that a switch is on. -/
inductive SwitchTarget
  | item (key : ItemKey) (flag : ItemFlags)
  | location (id : LocationId) (flag : LocationFlags)
  deriving DecidableEq

/-- A switch. Its state is an attribute of what it switches, not of the switch. -/
structure Switch where
  /-- What is switched. -/
  target : Option SwitchTarget := none
  /-- The words for its states. -/
  words : SwitchWords := {}
  deriving DecidableEq

/-- What makes an item a garment. -/
structure Garment where
  /-- Whether it is being worn. -/
  worn : Bool := false
  /-- The attributes that it gains while it is worn. -/
  activated : ItemFlags := .none
  deriving DecidableEq

/-- A thing in a world. -/
structure Item where
  /-- The number under which it, or the item it is a copy of, is declared. -/
  dataId : DataId
  /-- Its attributes, whether it is worn or not. -/
  attributes : ItemFlags
  /-- Its names and descriptions. -/
  labels : Labels
  /-- Its size, which is also its weight. -/
  size : Nat
  /-- What is written on it. -/
  writing : Option String := none
  /-- The room inside, if it is a container. -/
  compartment : Option Compartment := none
  /-- Its switch, if it has one. -/
  switch : Option Switch := none
  /-- What makes it a garment, if it can be worn. -/
  garment : Option Garment := none
  /-- The item that it was copied from. -/
  copyOf : Option ItemKey := none
  /-- Where it is, if it is anywhere. -/
  holder : Option Holder := none
  deriving DecidableEq

namespace Item

/-- An item with the parts that its attributes ask for. It is nowhere yet. -/
def ofAttributes (dataId : DataId) (attributes : ItemFlags) (labels : Labels) (size : Nat) :
    Item where
  dataId
  attributes
  labels
  size
  compartment := if attributes.has ItemFlags.container then some {} else none
  switch := if attributes.has ItemFlags.switchable then some {} else none
  garment := if attributes.has ItemFlags.wearable then some {} else none

/-- Give a garment the attributes that it gains while it is worn. -/
def withActivated (item : Item) (activated : ItemFlags) : Item :=
  { item with garment := item.garment.map fun garment => { garment with activated } }

/-- Set up the switch of an item that has one. -/
def withSwitch (item : Item) (target : Option SwitchTarget) (words : SwitchWords) : Item :=
  { item with switch := item.switch.map fun _ => { target, words } }

/-- Put a garment on or take it off. -/
def withWorn (item : Item) (worn : Bool) : Item :=
  { item with garment := item.garment.map fun garment => { garment with worn } }

/-- Fill or empty the compartment of a container. -/
def withContents (item : Item) (contents : Option ItemKey) : Item :=
  { item with compartment := item.compartment.map fun _ => { contents } }

/-- Whether the item is a copy that is no longer anywhere. -/
def isSpent (item : Item) : Bool := item.copyOf.isSome && item.holder.isNone

/-- Whether the item is a garment that is being worn. -/
def isWorn (item : Item) : Bool := item.garment.any (·.worn)

/-- The attributes with those gained by being worn. -/
def effectiveAttributes (item : Item) : ItemFlags :=
  match item.garment with
  | some garment => if garment.worn then item.attributes.set garment.activated else item.attributes
  | none => item.attributes

/-- Whether the item is liquid. -/
def isLiquid (item : Item) : Bool := item.attributes.has ItemFlags.liquid

/-- The item inside. -/
def contents (item : Item) : Option ItemKey := item.compartment.bind (·.contents)

end Item

end Adventure
