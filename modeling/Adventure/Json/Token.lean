import Adventure.Attributes

/-!
# Tokens of JSON

World descriptions are JSON texts. A text is first cut into tokens: marks, strings, and the bare
spellings of numbers and of the three names. A number keeps its spelling, since what it is good for
depends on how it is written. A string may escape half of a surrogate pair; such a string is no
text, but does no harm where nobody reads it.
-/

namespace Adventure.Json

/-- One part of a JSON text. -/
inductive Token
  | openObject
  | closeObject
  | openArray
  | closeArray
  | colon
  | comma
  /-- A string, unless it is no text. -/
  | string (text : Option String)
  /-- The spelling of a number. -/
  | number (spelling : List Char)
  | true
  | false
  | null
  deriving DecidableEq

/-! ## Strings -/

/-- A part of a string: a character, or the number of a code unit that is escaped. -/
inductive Piece
  | char (c : Char)
  | unit (n : Nat)

/-- Whether a code unit is the first half of a surrogate pair. -/
def isLeading (n : Nat) : Bool := 0xD800 ≤ n && n ≤ 0xDBFF

/-- Whether a code unit is the second half of a surrogate pair. -/
def isTrailing (n : Nat) : Bool := 0xDC00 ≤ n && n ≤ 0xDFFF

/-- The character of a surrogate pair. -/
def pairChar (leading trailing : Nat) : Char :=
  Char.ofNat (0x10000 + (leading - 0xD800) * 0x400 + (trailing - 0xDC00))

/-- The characters that the parts of a string make up, unless half of a surrogate pair stands
alone. -/
def joinPieces : List Piece → Option (List Char)
  | [] => some []
  | .char c :: rest => (joinPieces rest).map (c :: ·)
  | .unit n :: rest =>
    if isLeading n then
      match rest with
      | .unit m :: rest =>
        if isTrailing m then (joinPieces rest).map (pairChar n m :: ·) else none
      | _ => none
    else if isTrailing n then none
    else (joinPieces rest).map (Char.ofNat n :: ·)

/-- The character that a backslash and a letter stand for. -/
def escaped? : Char → Option Char
  | '"' => some '"'
  | '\\' => some '\\'
  | '/' => some '/'
  | 'b' => some '\x08'
  | 'f' => some '\x0c'
  | 'n' => some '\n'
  | 'r' => some '\r'
  | 't' => some '\t'
  | _ => none

/-- The code unit that four hexadecimal digits denote. -/
def unit? (digits : List Char) : Option Nat :=
  if digits.length = 4 then
    (digits.mapM hexDigit?).map fun values => values.foldl (fun n d => 16 * n + d) 0
  else none

/-! ## Numbers -/

/-- What follows one or more digits. -/
def skipDigits? (s : List Char) : Option (List Char) :=
  match s with
  | c :: rest => if c.isDigit then some (rest.dropWhile Char.isDigit) else none
  | [] => none

/-- What follows the whole part of a number: a single zero, or digits that do not begin with one. -/
def skipWhole? : List Char → Option (List Char)
  | '0' :: rest => some rest
  | s => skipDigits? s

/-- What follows the fraction of a number, if there is one. -/
def skipFraction? : List Char → Option (List Char)
  | '.' :: rest => skipDigits? rest
  | s => some s

/-- What follows the sign of an exponent, if there is one. -/
def skipSign : List Char → List Char
  | '+' :: rest => rest
  | '-' :: rest => rest
  | s => s

/-- What follows the exponent of a number, if there is one. -/
def skipExponent? : List Char → Option (List Char)
  | 'e' :: rest => skipDigits? (skipSign rest)
  | 'E' :: rest => skipDigits? (skipSign rest)
  | s => some s

/-- The spelling without a minus sign. -/
def withoutMinus : List Char → List Char
  | '-' :: rest => rest
  | s => s

/-- Whether a spelling is that of a number. -/
def isNumber (spelling : List Char) : Bool :=
  (do skipExponent? (← skipFraction? (← skipWhole? (withoutMinus spelling)))) == some []

/-- The token of a bare spelling. -/
def bareToken? (spelling : List Char) : Option Token :=
  if spelling = "true".toList then some .true
  else if spelling = "false".toList then some .false
  else if spelling = "null".toList then some .null
  else if isNumber spelling then some (.number spelling)
  else none

/-! ## Texts -/

/-- What the reader of tokens is in the middle of. What has been read is kept in reverse. -/
inductive Position
  /-- Between tokens. -/
  | between
  /-- In a bare spelling. -/
  | bare (spelling : List Char)
  /-- In a string. -/
  | string (pieces : List Piece)
  /-- After a backslash in a string. -/
  | escape (pieces : List Piece)
  /-- In the digits of an escaped code unit. -/
  | unit (pieces : List Piece) (digits : List Char)

/-- Whether JSON allows a character between tokens. -/
def isSpace (c : Char) : Bool := c == ' ' || c == '\n' || c == '\r' || c == '\t'

/-- The token of a mark. -/
def mark? : Char → Option Token
  | '{' => some .openObject
  | '}' => some .closeObject
  | '[' => some .openArray
  | ']' => some .closeArray
  | ':' => some .colon
  | ',' => some .comma
  | _ => none

/-- Read a character between tokens. -/
def readBetween (c : Char) : List Token × Position :=
  if isSpace c then ([], .between)
  else if c = '"' then ([], .string [])
  else match mark? c with
    | some token => ([token], .between)
    | none => ([], .bare [c])

/-- Read one character: the tokens that it completes, and the position after it. -/
def readChar : Position → Char → Option (List Token × Position)
  | .between, c => some (readBetween c)
  | .bare spelling, c =>
    if isSpace c || c == '"' || (mark? c).isSome then do
      let token ← bareToken? spelling.reverse
      let (tokens, position) := readBetween c
      some (token :: tokens, position)
    else some ([], .bare (c :: spelling))
  | .string pieces, c =>
    if c = '"' then
      some ([.string ((joinPieces pieces.reverse).map String.ofList)], .between)
    else if c = '\\' then some ([], .escape pieces)
    else if c < ' ' then none
    else some ([], .string (.char c :: pieces))
  | .escape pieces, c =>
    if c = 'u' then some ([], .unit pieces [])
    else (escaped? c).map fun c => ([], .string (.char c :: pieces))
  | .unit pieces digits, c =>
    if digits.length < 3 then some ([], .unit pieces (c :: digits))
    else (unit? (c :: digits).reverse).map fun n => ([], .string (.unit n :: pieces))

/-- The tokens of a text from a position on. -/
def tokensFrom : Position → List Char → Option (List Token)
  | .between, [] => some []
  | .bare spelling, [] => (bareToken? spelling.reverse).map ([·])
  | _, [] => none
  | position, c :: rest => do
    let (tokens, position) ← readChar position c
    (tokensFrom position rest).map (tokens ++ ·)

/-- The tokens of a text, if it consists of tokens. -/
def tokens? (text : List Char) : Option (List Token) := tokensFrom .between text

end Adventure.Json
