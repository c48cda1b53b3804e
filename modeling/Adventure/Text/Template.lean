/-!
# Templates

A response is a template with numbered places: an opening brace, digits and a closing brace stand
for the value of that number. World descriptions write a dollar sign before the digits instead.
A place without a value is left as it stands, so that a missing value shows in play.
-/

namespace Adventure.Text

/-- The number that decimal digits denote. -/
def decimal (digits : List Char) : Nat :=
  digits.foldl (fun n d => 10 * n + (d.toNat - '0'.toNat)) 0

/-- The number of the place that begins after an opening brace, and what follows the place. -/
def place? (s : List Char) : Option (Nat × List Char) :=
  match s.takeWhile Char.isDigit, s.dropWhile Char.isDigit with
  | d :: digits, '}' :: after => some (decimal (d :: digits), after)
  | _, _ => none

theorem length_dropWhile_le {α : Type} (p : α → Bool) (s : List α) :
    (s.dropWhile p).length ≤ s.length :=
  (List.dropWhile_suffix p).length_le

/-- A place ends before the text does. -/
theorem length_lt_of_place? {s after : List Char} {n : Nat} (h : place? s = some (n, after)) :
    after.length < s.length := by
  unfold place? at h
  split at h
  · rename_i hdrop
    obtain ⟨-, rfl⟩ : _ ∧ _ = after := by simpa using h
    have := length_dropWhile_le Char.isDigit s
    rw [hdrop] at this
    exact Nat.lt_of_succ_le (by simpa using this)
  · simp at h

/-- Put values into the places of a template. A value is not read as a template again. -/
def fill (values : List String) : List Char → List Char
  | [] => []
  | c :: rest =>
    if c = '{' then
      match _h : place? rest with
      | some (n, after) =>
        match values[n]? with
        | some value => value.toList ++ fill values after
        | none => c :: fill values rest
      | none => c :: fill values rest
    else c :: fill values rest
  termination_by s => s.length
  decreasing_by
    · simpa using Nat.lt_succ_of_lt (length_lt_of_place? _h)
    all_goals simp

/-- Write the places of a world description, a dollar sign and digits, as places of a template. -/
def bracePlaces : List Char → List Char
  | [] => []
  | c :: rest =>
    if c = '$' ∧ rest.head?.any Char.isDigit = true then
      '{' :: rest.takeWhile Char.isDigit ++ '}' :: bracePlaces (rest.dropWhile Char.isDigit)
    else c :: bracePlaces rest
  termination_by s => s.length
  decreasing_by
    · simpa using Nat.lt_succ_of_le (length_dropWhile_le Char.isDigit rest)
    · simp

/-- Put values into the places of a template. -/
def format (template : String) (values : List String) : String :=
  String.ofList (fill values template.toList)

/-- The template that a text of a world description means. -/
def templateOf (text : String) : String := String.ofList (bracePlaces text.toList)

end Adventure.Text
