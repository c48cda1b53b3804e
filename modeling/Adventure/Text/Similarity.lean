/-!
# Similarity of words

The Jaro–Winkler measure compares two words by the characters they share at nearby places, by how
many of those are out of order, and by how many characters they begin alike. It lies between zero
for nothing shared and one for the same word.
-/

namespace Adventure.Text

/-- Mark the first character equal to `c` that is not yet marked and stands at a place from `lo`
up to but not including `hi`. Places are counted from `place`. -/
def markFirst (c : Char) (lo hi : Nat) : Nat → List (Char × Bool) → Option (List (Char × Bool))
  | _, [] => none
  | place, (d, marked) :: rest =>
    if lo ≤ place ∧ place < hi ∧ c = d ∧ marked = false then some ((d, true) :: rest)
    else (markFirst c lo hi (place + 1) rest).map ((d, marked) :: ·)

/-- Match the characters of a word, the first of them standing at `place`, from left to right with
nearby characters of another word. The result holds the characters that found a partner, and the
other word with the partners marked. -/
def matchChars (range : Nat) : Nat → List Char → List (Char × Bool) → List Char × List (Char × Bool)
  | _, [], other => ([], other)
  | place, c :: rest, other =>
    match markFirst c (place - range) (place + range + 1) 0 other with
    | some other =>
      let (found, other) := matchChars range (place + 1) rest other
      (c :: found, other)
    | none => matchChars range (place + 1) rest other

/-- How many places of two lists differ. -/
def differences (a b : List Char) : Nat := (a.zip b).countP fun (c, d) => c ≠ d

/-- The Jaro similarity: the mean of the shares of matched characters in both words and of the
matched characters that are in order. -/
def jaro (a b : List Char) : Float :=
  if a.isEmpty && b.isEmpty then 1.0
  else if a.isEmpty || b.isEmpty then 0.0
  else
    let range := max a.length b.length / 2 - 1
    let (found, other) := matchChars range 0 a (b.map fun c => (c, false))
    let partners := (other.filter (·.2)).map (·.1)
    let count := found.length
    let transposed := differences found partners / 2
    if count = 0 then 0.0
    else
      let share (n : Nat) (whole : Nat) : Float := Float.ofNat n / Float.ofNat whole
      (share count a.length + share count b.length + share (count - transposed) count) / 3.0

/-- The number of characters, at most four, that two words begin alike. -/
def commonStart (a b : List Char) : Nat :=
  (((a.take 4).zip b).takeWhile fun (c, d) => c == d).length

/-- The Jaro–Winkler similarity: above 0.7, a common start raises the Jaro similarity. -/
def similarity (a b : String) : Float :=
  let base := jaro a.toList b.toList
  if base > 0.7 then
    base + 0.1 * Float.ofNat (commonStart a.toList b.toList) * (1.0 - base)
  else base

end Adventure.Text
