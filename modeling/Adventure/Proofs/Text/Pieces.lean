import Adventure.Proofs.Text.Template
import Mathlib.Data.List.Induction
import Mathlib.Data.List.TakeWhile
import Mathlib.Data.Nat.Digits.Defs

/-!
# Texts in pieces

A text of a world description can be read in one way only as places and as characters that stand for
themselves, if a place is to have all the digits that follow its dollar sign. The template that the
text means is made of the same pieces. Filling it puts a value into each place that has one, and
neither the characters around the places nor those of the values are looked at again.
-/

namespace Adventure.Text

/-- A piece of a text of a world description. -/
inductive Piece
  /-- A character that stands for itself. -/
  | plain (c : Char)
  /-- A dollar sign and the digits after it. -/
  | place (digits : List Char)
  deriving DecidableEq

namespace Piece

/-- The number of a place: its digits in positional notation. -/
def number (digits : List Char) : ℕ :=
  Nat.ofDigits 10 (digits.reverse.map fun d => d.toNat - '0'.toNat)

/-- The piece as it is written in a world description. -/
def written : Piece → List Char
  | plain c => [c]
  | place digits => '$' :: digits

/-- What becomes of the piece: a place becomes its value, or shows in braces if it has none. -/
def filled (values : List String) : Piece → List Char
  | plain c => [c]
  | place digits =>
    match values[number digits]? with
    | some value => value.toList
    | none => '{' :: digits ++ ['}']

end Piece

/-- Whether a text begins with a digit. -/
def beginsWithDigit (s : List Char) : Bool := s.head?.any Char.isDigit

/-- The text that pieces make up. -/
def writtenOut (pieces : List Piece) : List Char := pieces.flatMap Piece.written

/-- The pieces of a text as it is read from the left. A dollar sign before a digit begins a place,
and a place has all the digits that follow. -/
inductive Reading : List Piece → Prop
  /-- Nothing is left. -/
  | nil : Reading []
  /-- A character stands for itself, and does not begin a place. -/
  | plain {c : Char} {rest : List Piece}
      (hdollar : c = '$' → beginsWithDigit (writtenOut rest) = false) (hrest : Reading rest) :
      Reading (.plain c :: rest)
  /-- A place has digits, and no other digit follows them. -/
  | place {digits : List Char} {rest : List Piece} (hsome : digits ≠ [])
      (hdigits : ∀ d ∈ digits, d.isDigit = true)
      (hend : beginsWithDigit (writtenOut rest) = false) (hrest : Reading rest) :
      Reading (.place digits :: rest)

/-! ## Digits -/

/-- Reading digits one by one gives their number in positional notation. -/
theorem decimal_eq_number (digits : List Char) : decimal digits = Piece.number digits := by
  induction digits using List.reverseRecOn with
  | nil => rfl
  | append_singleton digits d ih =>
    rw [decimal, List.foldl_append, List.foldl_cons, List.foldl_nil, ← decimal, ih, Piece.number,
      Piece.number, List.reverse_append, List.reverse_singleton, List.singleton_append,
      List.map_cons, Nat.ofDigits_cons]
    exact Nat.add_comm _ _

/-- Digits that no other digit follows are all that is read as digits. -/
theorem span_digits {digits rest : List Char} (hdigits : ∀ d ∈ digits, d.isDigit = true)
    (hend : beginsWithDigit rest = false) :
    (digits ++ rest).takeWhile Char.isDigit = digits ∧
      (digits ++ rest).dropWhile Char.isDigit = rest := by
  rw [List.takeWhile_append_of_pos hdigits, List.dropWhile_append_of_pos hdigits]
  cases rest with
  | nil => simp
  | cons c rest =>
    have hc : c.isDigit = false := hend
    simp [hc]

theorem beginsWithDigit_append {digits : List Char} (hsome : digits ≠ [])
    (hdigits : ∀ d ∈ digits, d.isDigit = true) (rest : List Char) :
    beginsWithDigit (digits ++ rest) = true := by
  cases digits with
  | nil => exact absurd rfl hsome
  | cons d digits => exact hdigits d List.mem_cons_self

/-- What is left after all digits begins with none. -/
theorem beginsWithDigit_dropWhile (s : List Char) :
    beginsWithDigit (s.dropWhile Char.isDigit) = false := by
  have hnot := List.head?_dropWhile_not Char.isDigit s
  unfold beginsWithDigit
  cases hhead : (s.dropWhile Char.isDigit).head? with
  | none => rfl
  | some c => simpa [hhead] using hnot

/-- Digits between braces are a place. -/
theorem place?_digits {digits : List Char} (hsome : digits ≠ [])
    (hdigits : ∀ d ∈ digits, d.isDigit = true) (rest : List Char) :
    place? (digits ++ '}' :: rest) = some (decimal digits, rest) := by
  have hend : beginsWithDigit ('}' :: rest) = false := rfl
  obtain ⟨htake, hdrop⟩ := span_digits hdigits hend
  unfold place?
  rw [htake, hdrop]
  cases digits with
  | nil => exact absurd rfl hsome
  | cons d digits => rfl

/-! ## How a text is read -/

theorem bracePlaces_plain {c : Char} {rest : List Char}
    (hdollar : c = '$' → beginsWithDigit rest = false) :
    bracePlaces (c :: rest) = c :: bracePlaces rest := by
  rw [bracePlaces, if_neg]
  rintro ⟨hc, hdigit⟩
  exact Bool.noConfusion ((hdollar hc).symm.trans hdigit)

theorem bracePlaces_place {digits rest : List Char} (hsome : digits ≠ [])
    (hdigits : ∀ d ∈ digits, d.isDigit = true) (hend : beginsWithDigit rest = false) :
    bracePlaces ('$' :: digits ++ rest) = '{' :: digits ++ '}' :: bracePlaces rest := by
  obtain ⟨htake, hdrop⟩ := span_digits hdigits hend
  rw [List.cons_append, bracePlaces, if_pos ⟨rfl, beginsWithDigit_append hsome hdigits rest⟩, htake,
    hdrop]

/-- Every text can be read in pieces. -/
theorem exists_reading (s : List Char) : ∃ pieces, Reading pieces ∧ writtenOut pieces = s := by
  induction s using bracePlaces.induct with
  | case1 => exact ⟨[], .nil, rfl⟩
  | case2 c rest hplace ih =>
    obtain ⟨rfl, hdigit⟩ := hplace
    obtain ⟨pieces, hreading, hpieces⟩ := ih
    refine ⟨.place (rest.takeWhile Char.isDigit) :: pieces, .place ?_ ?_ ?_ hreading, ?_⟩
    · cases rest with
      | nil => cases hdigit
      | cons d rest =>
        have hd : d.isDigit = true := hdigit
        simp [hd]
    · exact fun d hd => List.mem_takeWhile_imp hd
    · rw [hpieces]
      exact beginsWithDigit_dropWhile rest
    · rw [writtenOut, List.flatMap_cons, ← writtenOut, hpieces, Piece.written, List.cons_append,
        List.takeWhile_append_dropWhile]
  | case3 c rest hplain ih =>
    obtain ⟨pieces, hreading, hpieces⟩ := ih
    refine ⟨.plain c :: pieces, .plain (fun hc => ?_) hreading, ?_⟩
    · rw [hpieces]
      exact Bool.eq_false_iff.mpr fun hdigit => hplain ⟨hc, hdigit⟩
    · rw [writtenOut, List.flatMap_cons, ← writtenOut, hpieces]
      rfl

/-- Pieces that are read and make up the same text are the same. -/
theorem Reading.unique {pieces others : List Piece} (h : Reading pieces) (hothers : Reading others)
    (hsame : writtenOut pieces = writtenOut others) : pieces = others := by
  induction h generalizing others with
  | nil =>
    cases hothers with
    | nil => rfl
    | plain => cases hsame
    | place => cases hsame
  | @plain c rest hdollar hrest ih =>
    cases hothers with
    | nil => cases hsame
    | plain hdollar' hrest' =>
      obtain ⟨rfl, hafter⟩ := List.cons.inj hsame
      rw [ih hrest' hafter]
    | @place digits after hsome hdigits hend hafter =>
      -- A dollar sign that stands for itself is not followed by the digits of a place.
      obtain ⟨hc, htext⟩ := List.cons.inj hsame
      have hdigit := beginsWithDigit_append hsome hdigits (writtenOut after)
      have hplain := (congrArg beginsWithDigit htext).trans hdigit
      exact Bool.noConfusion ((hdollar hc).symm.trans hplain)
  | @place digits rest hsome hdigits hend hrest ih =>
    cases hothers with
    | nil => cases hsame
    | @plain c after hdollar hafter =>
      obtain ⟨hc, htext⟩ := List.cons.inj hsame
      have hdigit := beginsWithDigit_append hsome hdigits (writtenOut rest)
      exact Bool.noConfusion
        ((hdollar hc.symm).symm.trans ((congrArg beginsWithDigit htext.symm).trans hdigit))
    | @place digits' after hsome' hdigits' hend' hafter =>
      have htext : digits ++ writtenOut rest = digits' ++ writtenOut after :=
        (List.cons.inj hsame).2
      obtain ⟨htake, hdrop⟩ := span_digits hdigits hend
      obtain ⟨htake', hdrop'⟩ := span_digits hdigits' hend'
      have hdigits : digits = digits' := by rw [← htake, htext, htake']
      have hrest : writtenOut rest = writtenOut after := by rw [← hdrop, htext, hdrop']
      rw [hdigits, ih hafter hrest]

/-! ## Filling what is read -/

/-- The template that a text means has the pieces of the text, with braces around the digits. -/
theorem bracePlaces_writtenOut {pieces : List Piece} (h : Reading pieces) :
    bracePlaces (writtenOut pieces) = pieces.flatMap (Piece.filled []) := by
  induction h with
  | nil => rw [writtenOut, List.flatMap_nil, bracePlaces, List.flatMap_nil]
  | @plain c rest hdollar hrest ih =>
    rw [List.flatMap_cons, ← ih]
    exact bracePlaces_plain hdollar
  | @place digits rest hsome hdigits hend hrest ih =>
    rw [List.flatMap_cons, ← ih]
    refine (bracePlaces_place hsome hdigits hend).trans ?_
    simp [Piece.filled]

variable {values : List String}

theorem fill_plain {c : Char} (hc : c ≠ '{') (rest : List Char) :
    fill values (c :: rest) = c :: fill values rest := by
  rw [fill, if_neg hc]

/-- What has no opening brace stays. -/
theorem fill_append {s : List Char} (hs : '{' ∉ s) (rest : List Char) :
    fill values (s ++ rest) = s ++ fill values rest := by
  induction s with
  | nil => rfl
  | cons c s ih =>
    obtain ⟨hc, hs⟩ : '{' ≠ c ∧ '{' ∉ s := by simpa using hs
    rw [List.cons_append, fill_plain (Ne.symm hc), ih hs, List.cons_append]

/-- A place gets its value, if it has one, and stays otherwise. -/
theorem fill_place {digits : List Char} (hsome : digits ≠ [])
    (hdigits : ∀ d ∈ digits, d.isDigit = true) (rest : List Char) :
    fill values ('{' :: digits ++ '}' :: rest) =
      Piece.filled values (.place digits) ++ fill values rest := by
  have hplace := place?_digits hsome hdigits rest
  rw [List.cons_append, fill, if_pos rfl, Piece.filled, ← decimal_eq_number]
  split
  · rename_i number after hfound
    obtain ⟨rfl, rfl⟩ : decimal digits = number ∧ rest = after := by simpa [hplace] using hfound
    cases hvalue : values[decimal digits]? with
    | some value => rfl
    | none =>
      have hplain : '{' ∉ digits ++ ['}'] := by
        rw [List.mem_append, not_or]
        exact ⟨fun hmem => Bool.noConfusion (hdigits _ hmem), by decide⟩
      dsimp only
      rw [show digits ++ '}' :: rest = digits ++ ['}'] ++ rest by simp, fill_append hplain]
      rfl
  · rename_i hnone
    rw [hplace] at hnone
    cases hnone

/-- The pieces of a template get their values, each for itself. -/
theorem fill_flatMap {pieces : List Piece} (h : Reading pieces) (hplain : '{' ∉ writtenOut pieces) :
    fill values (pieces.flatMap (Piece.filled [])) = pieces.flatMap (Piece.filled values) := by
  induction h with
  | nil => rw [List.flatMap_nil, fill, List.flatMap_nil]
  | @plain c rest hdollar hrest ih =>
    obtain ⟨hc, hrest⟩ : '{' ≠ c ∧ '{' ∉ writtenOut rest := by
      simpa [writtenOut, Piece.written] using hplain
    rw [List.flatMap_cons, List.flatMap_cons, ← ih hrest]
    exact fill_plain (Ne.symm hc) _
  | @place digits rest hsome hdigits hend hrest ih =>
    have hrest : '{' ∉ writtenOut rest := fun hmem => hplain (List.mem_append_right _ hmem)
    rw [List.flatMap_cons, List.flatMap_cons, ← ih hrest, ← fill_place hsome hdigits]
    simp [Piece.filled]

/-- **What a text comes to.** A text without opening braces can be read in pieces in one way only.
The template that it means, filled with values, is the text with every place replaced by its value,
whatever that looks like, or shown in braces if there is none; all else stands as it is. Without
values, every template stands as it is. -/
theorem format_templateOf (text : String) (values : List String) (hplain : '{' ∉ text.toList) :
    (∃ pieces, Reading pieces ∧ writtenOut pieces = text.toList ∧
      (∀ others, Reading others → writtenOut others = text.toList → others = pieces) ∧
      (format (templateOf text) values).toList = pieces.flatMap (Piece.filled values)) ∧
    ∀ template, format template [] = template := by
  obtain ⟨pieces, hreading, hwritten⟩ := exists_reading text.toList
  refine ⟨⟨pieces, hreading, hwritten, fun others hothers hsame => ?_, ?_⟩, format_nil⟩
  · exact hothers.unique hreading (hsame.trans hwritten.symm)
  · rw [← hwritten] at hplain
    rw [format, templateOf, String.toList_ofList, String.toList_ofList, ← hwritten,
      bracePlaces_writtenOut hreading, fill_flatMap hreading hplain]

/-- A place with a leading zero, a place after which another one follows at once, a place without a
value, and dollar signs that begin no place. The values look like places themselves and stay so. -/
theorem format_templateOf_bargain :
    let pieces : List Piece := [.place ['0', '1'], .place ['0'], .plain '$', .plain 'ß',
      .place ['7'], .plain '}', .plain '$']
    let values := ["\x7b0\x7d", "$1"]
    '{' ∉ "$01$0$ß$7\x7d$".toList ∧ Reading pieces ∧ writtenOut pieces = "$01$0$ß$7\x7d$".toList ∧
      (format (templateOf "$01$0$ß$7\x7d$") values).toList = pieces.flatMap (Piece.filled values) ∧
      pieces.flatMap (Piece.filled values) = "$1\x7b0\x7d$ß\x7b7\x7d\x7d$".toList ∧
      format "\x7b0\x7d" [] = "\x7b0\x7d" := by
  intro pieces values
  have hplain : '{' ∉ "$01$0$ß$7\x7d$".toList := by decide
  have hreading : Reading pieces := by
    refine .place (by simp) (by simp [Char.isDigit]) rfl ?_
    refine .place (by simp) (by simp [Char.isDigit]) rfl ?_
    refine .plain (fun _ => rfl) (.plain (fun _ => by contradiction) ?_)
    refine .place (by simp) (by simp [Char.isDigit]) rfl ?_
    exact .plain (fun _ => rfl) (.plain (fun _ => rfl) .nil)
  have hwritten : writtenOut pieces = "$01$0$ß$7\x7d$".toList := by decide
  obtain ⟨⟨found, -, -, honly, hfilled⟩, hbare⟩ := format_templateOf "$01$0$ß$7\x7d$" values hplain
  rw [← honly pieces hreading hwritten] at hfilled
  exact ⟨hplain, hreading, hwritten, hfilled, by decide, hbare _⟩

end Adventure.Text
