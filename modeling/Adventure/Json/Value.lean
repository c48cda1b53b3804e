import Adventure.Json.Token

/-!
# JSON values

Tokens make up values. A value keeps what is written in the text, in the order of the text: members
of an object may share a key, and what that means is left to the reader of the value.
-/

namespace Adventure.Json

/-- A JSON value. Strings, and among them keys, may be no texts. -/
inductive Value
  | null
  | bool (value : Bool)
  | number (spelling : List Char)
  | string (text : Option String)
  | array (items : List Value)
  | object (members : List (Option String × Value))

/-- An array or object that is not yet complete. What has been read is kept in reverse. -/
inductive Frame
  /-- An array. -/
  | array (items : List Value)
  /-- An object between members. -/
  | object (members : List (Option String × Value))
  /-- An object that lacks the value of a key. -/
  | member (members : List (Option String × Value)) (key : Option String)

/-- What has to come next. -/
inductive Need
  /-- A value. -/
  | value
  /-- A value or the end of the array. -/
  | firstItem
  /-- A key or the end of the object. -/
  | firstKey
  /-- A key. -/
  | key
  /-- The colon after a key. -/
  | colon
  /-- A comma or the end of the array or object. -/
  | more
  /-- Nothing: the text is this value. -/
  | nothing (value : Value)

/-- The reader of values: the arrays and objects that it is in, the innermost first, and what has
to come next. -/
structure Reader where
  /-- The incomplete arrays and objects. -/
  frames : List Frame
  /-- What has to come next. -/
  need : Need

namespace Reader

/-- The reader before the first token. -/
def initial : Reader := ⟨[], .value⟩

/-- Enter a complete value where one is needed. -/
def complete (frames : List Frame) (value : Value) : Option Reader :=
  match frames with
  | [] => some ⟨[], .nothing value⟩
  | .array items :: outer => some ⟨.array (value :: items) :: outer, .more⟩
  | .member members key :: outer => some ⟨.object ((key, value) :: members) :: outer, .more⟩
  | .object _ :: _ => none

/-- Read a token where a value has to begin. -/
def beginValue (frames : List Frame) : Token → Option Reader
  | .openArray => some ⟨.array [] :: frames, .firstItem⟩
  | .openObject => some ⟨.object [] :: frames, .firstKey⟩
  | .string text => complete frames (.string text)
  | .number spelling => complete frames (.number spelling)
  | .true => complete frames (.bool true)
  | .false => complete frames (.bool false)
  | .null => complete frames .null
  | _ => none

/-- Read a token. -/
def read (reader : Reader) (token : Token) : Option Reader :=
  match reader.need, token, reader.frames with
  | .firstItem, .closeArray, .array items :: outer
  | .more, .closeArray, .array items :: outer => complete outer (.array items.reverse)
  | .firstKey, .closeObject, .object members :: outer
  | .more, .closeObject, .object members :: outer => complete outer (.object members.reverse)
  | .more, .comma, .array items :: outer => some ⟨.array items :: outer, .value⟩
  | .more, .comma, .object members :: outer => some ⟨.object members :: outer, .key⟩
  | .firstKey, .string key, .object members :: outer
  | .key, .string key, .object members :: outer => some ⟨.member members key :: outer, .colon⟩
  | .colon, .colon, frames => some ⟨frames, .value⟩
  | .value, token, frames
  | .firstItem, token, frames => beginValue frames token
  | _, _, _ => none

end Reader

/-- The value that a text denotes, if it is a JSON text. -/
def parse? (text : String) : Option Value := do
  let reader ← (← tokens? text.toList).foldlM Reader.read .initial
  match reader.need with
  | .nothing value => some value
  | _ => none

end Adventure.Json
