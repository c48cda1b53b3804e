import Adventure.Json.Value
import Adventure.Table
import Adventure.Text.Template

/-!
# Decoding JSON values

A record is written as an object of its fields, or as an array of them in the order of their
declaration in which fields at the end may be missing. A field may not occur twice, and fields that
nobody knows are passed over. A choice is an object with one member, whose key names the choice; a
tagged record has a field that names its kind and is read more strictly than others.
-/

namespace Adventure.Json

/-- A way to read a value, which fails where the value is none of the kind. -/
abbrev Decoder (α : Type) := Value → Option α

/-! ## Simple values -/

/-- Read a text. -/
def string : Decoder String
  | .string text => text
  | _ => none

/-- Read a truth value. -/
def bool : Decoder Bool
  | .bool value => some value
  | _ => none

/-- Read a whole number up to `limit`, written in digits only. -/
def natUpTo (limit : Nat) : Decoder Nat
  | .number spelling =>
    if spelling.all Char.isDigit && Text.decimal spelling ≤ limit then
      some (Text.decimal spelling)
    else none
  | _ => none

/-- Read a number of 32 bits. -/
def nat32 : Decoder Nat := natUpTo 0xFFFFFFFF

/-- Read a position, a number of 64 bits. -/
def nat64 : Decoder Nat := natUpTo 0xFFFFFFFFFFFFFFFF

/-- Read a value that may be null. -/
def nullable {α : Type} (decode : Decoder α) : Decoder (Option α)
  | .null => some none
  | value => (decode value).map some

/-- Read an array of values of one kind. -/
def list {α : Type} (decode : Decoder α) : Decoder (List α)
  | .array items => items.mapM decode
  | _ => none

/-- Read an object as a table from its keys to values of one kind. Of members with the same key the
last one counts, but all have to be of the kind. -/
def table {α : Type} (decode : Decoder α) : Decoder (Table String α)
  | .object members => do
    let entries ← members.mapM fun (key, value) => do return (← key, ← decode value)
    return .ofList entries
  | _ => none

/-! ## Records -/

/-- The fields of a record that are written. -/
abbrev Fields := List (String × Value)

namespace Fields

/-- Read a field, if it is written. -/
def optional {α : Type} (fields : Fields) (name : String) (decode : Decoder α) :
    Option (Option α) :=
  match fields.lookup name with
  | none => some none
  | some value => (decode value).map some

/-- Read a field that has to be written. -/
def required {α : Type} (fields : Fields) (name : String) (decode : Decoder α) : Option α :=
  (fields.lookup name).bind decode

/-- Read a field that means `default` where it is not written. -/
def orElse {α : Type} (fields : Fields) (name : String) (default : α) (decode : Decoder α) :
    Option α :=
  (fields.optional name decode).map (·.getD default)

/-- Read a field that may be null and means null where it is not written. -/
def orNull {α : Type} (fields : Fields) (name : String) (decode : Decoder α) :
    Option (Option α) :=
  fields.orElse name none (nullable decode)

end Fields

/-- Whether no key occurs twice. -/
def keysDistinct : Fields → Bool
  | [] => true
  | (key, _) :: rest => !(rest.any fun field => field.1 == key) && keysDistinct rest

/-- The written fields of an object or array as a record with the fields `names`. With `closed` an
object may have no other members. -/
def fields (names : List String) (closed : Bool) : Value → Option Fields
  | .object members => do
    let all ← members.mapM fun (key, value) => do return (← key, value)
    let known := all.filter fun field => names.contains field.1
    if keysDistinct known && (!closed || known.length == all.length) then some known else none
  | .array items => if items.length ≤ names.length then some (names.zip items) else none
  | _ => none

/-- Read a record with the fields `names`; other members are passed over. -/
def record {α : Type} (names : List String) (decode : Fields → Option α) : Decoder α :=
  fun value => (fields names false value).bind decode

/-- Read a choice: an object whose only key names one of the alternatives. -/
def choice {α : Type} (alternatives : List (String × Decoder α)) : Decoder α
  | .object [(some key, value)] => (alternatives.lookup key).bind (· value)
  | _ => none

/-- Read one of several names, written as a string or as the key of a null. -/
def oneOf {α : Type} (names : List (String × α)) : Decoder α
  | .string (some name) => names.lookup name
  | .object [(some name, .null)] => names.lookup name
  | _ => none

/-! ## Tagged records -/

/-- The digits of a number before its exponent, the digits among them after the point, and its
exponent. -/
def scientific (spelling : List Char) : List Char × Nat × Int :=
  let isExponentMark (c : Char) : Bool := c == 'e' || c == 'E'
  let significand := withoutMinus (spelling.takeWhile fun c => !isExponentMark c)
  let power := (spelling.dropWhile fun c => !isExponentMark c).drop 1
  let magnitude : Int := Text.decimal (skipSign power)
  let fraction := (significand.dropWhile (· != '.')).drop 1
  (significand.filter Char.isDigit, fraction.length,
    if power.head? == some '-' then -magnitude else magnitude)

/-- Whether a number is too large for a floating-point number of 64 bits: it lies at or beyond the
middle between the largest one and the next power of two. -/
def isHuge (spelling : List Char) : Bool :=
  let (digits, fraction, power) := scientific spelling
  let significand := Text.decimal digits
  let exponent := power - fraction
  let bound := Nat.pow 2 1024 - Nat.pow 2 970
  if significand = 0 then false
  else if exponent + digits.length < 300 then false
  else if 400 < exponent then true
  else if 0 ≤ exponent then bound ≤ significand * Nat.pow 10 exponent.toNat
  else bound * Nat.pow 10 (-exponent).toNat ≤ significand

/-- Whether a value can be kept for later reading: all strings are texts, no number is too large,
and arrays and objects are not nested more than `depth` deep. -/
def isKept : Nat → Value → Bool
  | _, .null => true
  | _, .bool _ => true
  | _, .number spelling => !isHuge spelling
  | _, .string text => text.isSome
  | 0, .array _ => false
  | 0, .object _ => false
  | depth + 1, .array items => items.all (isKept depth)
  | depth + 1, .object members =>
    members.all fun member => member.1.isSome && isKept depth member.2

/-- How deep a tagged record and what is in it may be nested. A text may be nested up to 127 deep,
and tagged records stand in four arrays and objects. -/
def taggedDepth : Nat := 123

/-- The name of the kind of a tagged record, which is the member `tag` of an object or the first
item of an array, and what else is in it. -/
def splitTag (tag : String) : Value → Option (String × Value)
  | .object members =>
    match members.partition fun member => member.1 == some tag with
    | ([(_, .string (some kind))], rest) => some (kind, .object rest)
    | _ => none
  | .array (.string (some kind) :: rest) => some (kind, .array rest)
  | _ => none

/-- Read a tagged record, whose tag names one of the kinds. -/
def tagged {α : Type} (tag : String) (kinds : List (String × Decoder α)) : Decoder α :=
  fun value =>
    if isKept taggedDepth value then do
      let (kind, rest) ← splitTag tag value
      (← kinds.lookup kind) rest
    else none

end Adventure.Json
