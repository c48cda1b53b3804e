import Adventure.Text.CaseTable

/-!
# Upper and lower case

Names in a world are compared without regard to case. Command names, topics and typed words are
lowered by the rules of Unicode; item names, switch words and connecting words are compared with
only the twenty-six Latin letters folded.
-/

namespace Adventure.Text

/-- Whether a run of one of the character tables holds `c`. -/
def inRuns (runs : List (Nat × Nat)) (c : Char) : Bool :=
  runs.any (fun run => run.1 ≤ c.toNat && c.toNat ≤ run.2)

/-- Whether `c` is a letter with case. -/
def isCased (c : Char) : Bool := inRuns casedRuns c

/-- Whether `c` is passed over when looking for a letter with case. -/
def isPassedOver (c : Char) : Bool := inRuns passedOverRuns c

/-- What becomes of `c` under the tables `expansions` and `ranges`. -/
def convertChar (expansions : List (Nat × List Nat)) (ranges : List CaseRange) (c : Char) :
    List Char :=
  match expansions.lookup c.toNat with
  | some points => points.map Char.ofNat
  | none =>
    match ranges.findSome? (·.convert? c.toNat) with
    | some point => [Char.ofNat point]
    | none => [c]

/-- The lowercase of one character, apart from its place in a word. -/
def lowerChar (c : Char) : List Char :=
  if c.toNat < 0x80 then [c.toLower] else convertChar lowerExpansions lowerRanges c

/-- The uppercase of one character. -/
def upperChar (c : Char) : List Char :=
  if c.toNat < 0x80 then [c.toUpper] else convertChar upperExpansions upperRanges c

/-- Whether the first character that is not passed over is a letter with case. -/
def startsCased (s : List Char) : Bool := (s.dropWhile isPassedOver).head?.any isCased

/-- The lowercase of a capital sigma between the characters `before`, nearest first, and `after`:
it has a form of its own where it ends a word. -/
def lowerSigma (before after : List Char) : Char :=
  if startsCased before && !startsCased after then 'ς' else 'σ'

/-- The lowercase of characters that follow `before`, which is given nearest first. -/
def lowerAfter (before : List Char) : List Char → List Char
  | [] => []
  | c :: rest =>
    (if c = 'Σ' then [lowerSigma before rest] else lowerChar c) ++ lowerAfter (c :: before) rest

/-- The lowercase of a text. -/
def lower (text : String) : String := String.ofList (lowerAfter [] text.toList)

/-- The text with its first character in uppercase. -/
def capitalize (text : String) : String :=
  match text.toList with
  | [] => ""
  | c :: rest => String.ofList (upperChar c ++ rest)

/-- Whether two texts differ at most in the case of the letters A to Z. -/
def alike (a b : String) : Bool := a.toList.map Char.toLower == b.toList.map Char.toLower

end Adventure.Text
