import Adventure.Table
import Adventure.Text.Case

/-!
# Directions

An exit leads in one of ten directions, or simply out.
-/

namespace Adventure

/-- A direction in which a location can be left. -/
inductive Direction
  | north
  | south
  | east
  | west
  | northeast
  | northwest
  | southeast
  | southwest
  | up
  | down
  | out
  deriving DecidableEq

namespace Direction

/-- The place of a direction in listings. -/
def rank : Direction → Nat
  | north => 0
  | south => 1
  | east => 2
  | west => 3
  | northeast => 4
  | northwest => 5
  | southeast => 6
  | southwest => 7
  | up => 8
  | down => 9
  | out => 10

/-- The name of a direction. -/
def name : Direction → String
  | north => "north"
  | south => "south"
  | east => "east"
  | west => "west"
  | northeast => "northeast"
  | northwest => "northwest"
  | southeast => "southeast"
  | southwest => "southwest"
  | up => "up"
  | down => "down"
  | out => "out"

/-- The short form of a direction's name. -/
def abbreviation : Direction → String
  | north => "n"
  | south => "s"
  | east => "e"
  | west => "w"
  | northeast => "ne"
  | northwest => "nw"
  | southeast => "se"
  | southwest => "sw"
  | up => "u"
  | down => "d"
  | out => "o"

/-- Every direction in the order of listings. -/
def all : List Direction :=
  [north, south, east, west, northeast, northwest, southeast, southwest, up, down, out]

/-- The direction that a word means: its name or its short form, in any case. -/
def parse? (word : String) : Option Direction :=
  let word := Text.lower word
  all.find? fun direction => direction.name == word || direction.abbreviation == word

/-- Directions are sorted as they are listed. -/
instance : Key Direction :=
  Key.ofRank rank (fun a b h => by cases a <;> cases b <;> simp_all [rank])

end Direction

end Adventure
