import Adventure.Table

/-!
# Identifiers

A world description numbers its locations, items, inventories, commands and events, each kind on
its own. The kind is part of an identifier's type, so that the number of a location cannot stand
where an inventory is meant. A copied item shares the number of its model and is told apart by the
slot it occupies.
-/

namespace Adventure

/-- What an identifier of a world description names. -/
inductive Kind
  | location
  | item
  | inventory
  | command
  | event

/-- The number that a world description gives to one thing of a kind. -/
structure Id (kind : Kind) where
  /-- The number itself. -/
  num : Nat
  deriving DecidableEq

/-- Identifiers are sorted by their numbers. -/
instance {kind : Kind} : Key (Id kind) :=
  Key.ofRank Id.num (fun a b h => by cases a; cases b; simpa using h)

/-- An identifier is shown as its number. -/
instance {kind : Kind} : ToString (Id kind) := ⟨fun id => toString id.num⟩

/-- The number of a location. -/
abbrev LocationId := Id .location

/-- The number under which an item is declared; its copies share it. -/
abbrev DataId := Id .item

/-- The number of an inventory. -/
abbrev InventoryId := Id .inventory

/-- The number of a command. -/
abbrev CommandId := Id .command

/-- The number of an event. -/
abbrev EventId := Id .event

/-- The place of one item among all items of a world. Every copy has a place of its own. -/
structure ItemKey where
  /-- The position, counted from zero. -/
  slot : Nat
  deriving DecidableEq

/-- An item key is shown as a number after a hash sign. -/
instance : ToString ItemKey := ⟨fun key => "#" ++ toString key.slot⟩

end Adventure
