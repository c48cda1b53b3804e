/-!
# Blank characters

Lines that a player types are cut into words at blank characters, and attribute texts may have
blanks around them. Blank are the characters with the Unicode property White_Space.
-/

namespace Adventure.Text

/-- Whether a character separates words. -/
def isBlank (c : Char) : Bool :=
  let n := c.toNat
  (0x09 ≤ n && n ≤ 0x0D) || n == 0x20 || n == 0x85 || n == 0xA0 || n == 0x1680 ||
    (0x2000 ≤ n && n ≤ 0x200A) || n == 0x2028 || n == 0x2029 || n == 0x202F || n == 0x205F ||
    n == 0x3000

/-- The characters without the blanks at both ends. -/
def trimBlanks (s : List Char) : List Char :=
  ((s.dropWhile isBlank).reverse.dropWhile isBlank).reverse

/-- The words of a line: its longest runs of characters that are not blank. -/
def words : List Char → List (List Char)
  | [] => []
  | c :: rest =>
    if isBlank c then words rest
    else match rest, words rest with
      | d :: _, word :: later => if isBlank d then [c] :: word :: later else (c :: word) :: later
      | _, later => [c] :: later

/-- A text without the blanks at both ends. -/
def trim (text : String) : String := String.ofList (trimBlanks text.toList)

end Adventure.Text
