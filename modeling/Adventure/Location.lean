import Adventure.Attributes
import Adventure.Direction
import Adventure.Id
import Adventure.Labels

/-!
# Locations

A location has exits, each of which leads one way. Where all declared exits lead to one and the
same place, going out leads there too; this derived exit is kept among the others but not listed.
-/

namespace Adventure

/-- A place where the player can be. -/
structure Location where
  /-- The number of the location. -/
  id : LocationId
  /-- Its attributes. -/
  attributes : LocationFlags := .none
  /-- Its names and descriptions. -/
  labels : Labels
  /-- Where its exits lead. -/
  exits : Table Direction LocationId := ∅
  /-- Whether the exit `out` was declared rather than derived. -/
  outDeclared : Bool := false
  /-- Whether the player has seen it. -/
  visited : Bool := false
  /-- The items lying here, in the order of their arrival. -/
  items : List ItemKey := []

namespace Location

/-- Declare an exit. -/
def withExit (location : Location) (direction : Direction) (destination : LocationId) :
    Location :=
  { location with
    exits := location.exits.insert direction destination
    outDeclared := location.outDeclared || direction == .out }

/-- Whether the location is lit by itself. -/
def givesLight (location : Location) : Bool := location.attributes.has LocationFlags.givesLight

/-- Whether the location has air of its own. -/
def givesAir (location : Location) : Bool := location.attributes.has LocationFlags.givesAir

/-- Where the exit in a direction leads. -/
def destination (location : Location) (direction : Direction) : Option LocationId :=
  location.exits.get? direction

/-- Whether some exit leads to `destination`. -/
def hasExitTo (location : Location) (destination : LocationId) : Bool :=
  location.exits.values.contains destination

/-- The only member of a list, however often it occurs. -/
def onlyMember? (ids : List LocationId) : Option LocationId :=
  match ids with
  | [] => none
  | first :: rest => if rest.all (· == first) then some first else none

/-- Derive the exit `out` anew, unless it is declared: it leads where all other exits lead, if
that is one place. -/
def deriveOut (location : Location) : Location :=
  if location.outDeclared then location
  else
    let declared := location.exits.erase .out
    match onlyMember? declared.values with
    | some only => { location with exits := declared.insert .out only }
    | none => { location with exits := declared }

/-- Open, redirect or close an exit. -/
def relink (location : Location) (direction : Direction) (destination : Option LocationId) :
    Location :=
  let exits := match destination with
    | some id => location.exits.insert direction id
    | none => location.exits.erase direction
  let outDeclared := if direction = .out then destination.isSome else location.outDeclared
  { location with exits, outDeclared }.deriveOut

/-- The names of the listed exits: a derived one is left out. -/
def exitNames (location : Location) : List String :=
  (location.exits.keys.filter fun direction => direction != .out || location.outDeclared).map
    Direction.name

end Location

end Adventure
