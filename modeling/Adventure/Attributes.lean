import Adventure.Text.Blank

/-!
# Attributes

Commands, items, locations, players and events carry sets of attributes, written as hexadecimal
bit masks of 32 bits. Bits without a meaning of their own are kept. An attribute may be a mask of
several bits; something has it when all of its bits are set.
-/

namespace Adventure

/-- What carries attributes. -/
inductive Bearer
  | command
  | item
  | location
  | player
  | event

/-- A set of attributes of a bearer, one bit each. -/
structure Flags (bearer : Bearer) where
  /-- The bits that are set. -/
  bits : UInt32
  deriving DecidableEq

namespace Flags

variable {bearer : Bearer}

/-- No attribute. -/
def none : Flags bearer := ⟨0⟩

/-- Whether every bit of `flag` is set. -/
def has (flags flag : Flags bearer) : Bool := flags.bits &&& flag.bits == flag.bits

/-- Set every bit of `flag`. -/
def set (flags flag : Flags bearer) : Flags bearer := ⟨flags.bits ||| flag.bits⟩

/-- Clear every bit of `flag`. -/
def unset (flags flag : Flags bearer) : Flags bearer := ⟨flags.bits &&& ~~~flag.bits⟩

/-- Flip every bit of `flag`. -/
def toggle (flags flag : Flags bearer) : Flags bearer := ⟨flags.bits ^^^ flag.bits⟩

/-- Set or clear every bit of `flag`. -/
def assign (flags flag : Flags bearer) (on : Bool) : Flags bearer :=
  if on then flags.set flag else flags.unset flag

end Flags

/-- Attributes of a command: they decide which stages a turn of the command runs through. -/
abbrev CommandFlags := Flags .command

namespace CommandFlags

/-- Moves the player along an exit. -/
def movement : CommandFlags := ⟨0x001⟩

/-- Moves the player by the teleport table of the command. -/
def teleport : CommandFlags := ⟨0x002⟩

/-- Switches an attribute of the player. -/
def switchable : CommandFlags := ⟨0x004⟩

/-- Switches an item. -/
def switching : CommandFlags := ⟨0x008⟩

/-- Is refused when the player cannot see. -/
def requiresVision : CommandFlags := ⟨0x010⟩

/-- Reports a change of light afterwards. -/
def postVision : CommandFlags := ⟨0x020⟩

/-- Is neither listed nor suggested. -/
def secret : CommandFlags := ⟨0x040⟩

/-- Takes the typed verb as its first argument. -/
def verbFirst : CommandFlags := ⟨0x080⟩

end CommandFlags

/-- Attributes of an item. -/
abbrev ItemFlags := Flags .item

namespace ItemFlags

/-- Can hold another item. -/
def container : ItemFlags := ⟨0x0001⟩

/-- Holds what is not liquid. -/
def holdsSolids : ItemFlags := ⟨0x0002⟩

/-- Holds liquids. -/
def holdsLiquids : ItemFlags := ⟨0x0004⟩

/-- Can be taken. -/
def portable : ItemFlags := ⟨0x0008⟩

/-- Is liquid: it cannot be taken and drains away when dropped. -/
def liquid : ItemFlags := ⟨0x0010⟩

/-- Has a switch. -/
def switchable : ItemFlags := ⟨0x0020⟩

/-- Can be worn. -/
def wearable : ItemFlags := ⟨0x0040⟩

/-- Gives light. -/
def givesLight : ItemFlags := ⟨0x0080⟩

/-- Gives air to whoever holds it. -/
def givesAir : ItemFlags := ⟨0x0100⟩

/-- Is a creature, which owns what it holds. -/
def sentient : ItemFlags := ⟨0x0200⟩

/-- Bars every way but the one the player came by. -/
def obstruction : ItemFlags := ⟨0x0400⟩

/-- Is copied, not moved, when put into a container. -/
def copyable : ItemFlags := ⟨0x0800⟩

/-- Can be eaten or drunk. -/
def edible : ItemFlags := ⟨0x1000⟩

end ItemFlags

/-- Attributes of a location. -/
abbrev LocationFlags := Flags .location

namespace LocationFlags

/-- Is lit. -/
def givesLight : LocationFlags := ⟨0x01⟩

/-- Has air to breathe. -/
def givesAir : LocationFlags := ⟨0x02⟩

end LocationFlags

/-- Attributes of a player. -/
abbrev PlayerFlags := Flags .player

namespace PlayerFlags

/-- Sees full descriptions on every visit. -/
def verbose : PlayerFlags := ⟨0x01⟩

/-- Cannot die. -/
def immune : PlayerFlags := ⟨0x02⟩

end PlayerFlags

/-- Attributes of an event. -/
abbrev EventFlags := Flags .event

namespace EventFlags

/-- Kills the player. -/
def killsPlayer : EventFlags := ⟨0x01⟩

/-- May fire again. -/
def repeatable : EventFlags := ⟨0x02⟩

end EventFlags

/-- Why a text is not the mask of some attributes. -/
inductive MaskError
  | invalidDigit
  | tooLarge
  deriving DecidableEq

namespace MaskError

/-- The wording of the cause. -/
def message : MaskError → String
  | invalidDigit => "invalid digit found in string"
  | tooLarge => "number too large to fit in target type"

end MaskError

/-- The value of a hexadecimal digit. -/
def hexDigit? (c : Char) : Option Nat :=
  if '0' ≤ c ∧ c ≤ '9' then some (c.toNat - '0'.toNat)
  else if 'a' ≤ c ∧ c ≤ 'f' then some (c.toNat - 'a'.toNat + 10)
  else if 'A' ≤ c ∧ c ≤ 'F' then some (c.toNat - 'A'.toNat + 10)
  else none

/-- Read hexadecimal digits after those of `value`, up to a mask of 32 bits. The first fault from
the left counts. -/
def hexMask (value : Nat) : List Char → Except MaskError Nat
  | [] => .ok value
  | c :: rest =>
    match hexDigit? c with
    | none => .error .invalidDigit
    | some digit =>
      if 16 * value + digit < UInt32.size then hexMask (16 * value + digit) rest
      else .error .tooLarge

/-- A mask without the sign that may stand before it. -/
def unsigned : List Char → List Char
  | '+' :: digits => digits
  | digits => digits

/-- A mask without the mark that may show it as hexadecimal. -/
def unmarked : List Char → List Char
  | '0' :: 'x' :: digits => digits
  | '0' :: 'X' :: digits => digits
  | digits => digits

/-- The attributes that a text denotes: a hexadecimal mask, with blanks around it ignored, an
optional mark `0x` and then an optional plus sign. No digits at all mean no attributes, but a sign
needs digits. -/
def Flags.parse {bearer : Bearer} (text : String) : Except MaskError (Flags bearer) :=
  match unmarked (Text.trimBlanks text.toList) with
  | [] => .ok .none
  | mask =>
    match unsigned mask with
    | [] => .error .invalidDigit
    | digits => (hexMask 0 digits).map fun value => ⟨UInt32.ofNat value⟩

end Adventure
