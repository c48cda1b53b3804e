/-!
# Grids

A grid of two columns drawn with plain characters: a frame, a double line under the header, and a
line between rows.
-/

namespace Adventure.Console

/-- A grid of two columns. -/
structure Grid where
  /-- The heads of the columns. -/
  header : String × String
  /-- The rows. -/
  rows : List (String × String)

namespace Grid

/-- The larger of the head and the cells of a column, counted in characters. -/
def width (cells : List String) : Nat := (cells.map String.length).foldl max 0

/-- A cell filled up with spaces. -/
def pad (width : Nat) (cell : String) : String :=
  cell ++ String.ofList (List.replicate (width - cell.length) ' ')

/-- The grid as text, without a line end after it. -/
def render (grid : Grid) : String :=
  let lines := grid.header :: grid.rows
  let left := width (lines.map Prod.fst)
  let right := width (lines.map Prod.snd)
  let rule (outer : String) (stroke : Char) (cross : String) : String :=
    let run (n : Nat) : String := String.ofList (List.replicate (n + 2) stroke)
    outer ++ run left ++ cross ++ run right ++ outer
  let row (cells : String × String) : String :=
    "| " ++ pad left cells.1 ++ " | " ++ pad right cells.2 ++ " |"
  let frame := rule "+" '-' "+"
  "\n".intercalate
    ([frame, row grid.header, rule "+" '=' "="] ++
      (grid.rows.map row).intersperse (rule "|" '-' "+") ++ [frame])

end Grid

end Adventure.Console
