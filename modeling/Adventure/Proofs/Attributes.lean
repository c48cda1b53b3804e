import Adventure.Attributes
import Adventure.Proofs.Text.Case
import Mathlib.Data.List.Forall2
import Mathlib.Data.List.TakeWhile
import Mathlib.Data.Nat.Digits.Lemmas

/-!
# Which texts are attribute masks

A text denotes a mask if, without the blanks around it and a mark in front, it is empty or a
hexadecimal number of 32 bits, which a plus sign may precede. The grammar does not say how a text is
to be taken apart, and need not: neither a digit nor a sign is blank, and no digit stands for the
second character of a mark. Exactly the texts of the grammar are read, as the masks they denote.
-/

namespace Adventure

/-! ## The grammar -/

/-- A character is the hexadecimal digit of a value, in lowercase or uppercase. -/
def IsHexDigit (c : Char) (value : ℕ) : Prop :=
  value < 16 ∧ (c = Nat.digitChar value ∨ c = (Nat.digitChar value).toUpper)

/-- Characters are the hexadecimal digits of a number in positional notation. -/
def IsHexNumber (digits : List Char) (number : ℕ) : Prop :=
  ∃ values, List.Forall₂ IsHexDigit digits values ∧ number = Nat.ofDigits 16 values.reverse

/-- What may stand in front of a mask to show it as hexadecimal. -/
def hexMarks : List (List Char) := [[], ['0', 'x'], ['0', 'X']]

/-- A mask without blanks and mark. -/
inductive BareMask : List Char → ℕ → Prop
  /-- Nothing at all denotes no attribute. -/
  | nothing : BareMask [] 0
  /-- Digits denote their number, if it has no more than 32 bits. A plus sign may precede them. -/
  | number {sign digits : List Char} {number : ℕ} (hsign : sign = [] ∨ sign = ['+'])
      (hsome : digits ≠ []) (hdigits : IsHexNumber digits number) (hfits : number < 2 ^ 32) :
      BareMask (sign ++ digits) number

/-- A text denotes a mask: blanks, a mark, the mask itself, and blanks. -/
def DenotesMask (text : List Char) (number : ℕ) : Prop :=
  ∃ before mark mask after, text = before ++ (mark ++ mask) ++ after ∧
    (∀ c ∈ before, Text.isBlank c = true) ∧ mark ∈ hexMarks ∧ BareMask mask number ∧
    ∀ c ∈ after, Text.isBlank c = true

/-! ## Blanks -/

namespace Text

/-- Only blanks are trimmed. -/
theorem exists_trimBlanks (s : List Char) : ∃ before after, s = before ++ trimBlanks s ++ after ∧
    (∀ c ∈ before, isBlank c = true) ∧ ∀ c ∈ after, isBlank c = true := by
  let rest := s.dropWhile isBlank
  refine ⟨s.takeWhile isBlank, (rest.reverse.takeWhile isBlank).reverse, ?_,
    fun c hc => List.mem_takeWhile_imp hc,
    fun c hc => List.mem_takeWhile_imp (List.mem_reverse.mp hc)⟩
  have hrest : trimBlanks s ++ (rest.reverse.takeWhile isBlank).reverse = rest := by
    rw [trimBlanks, ← List.reverse_append, List.takeWhile_append_dropWhile, List.reverse_reverse]
  rw [List.append_assoc, hrest, List.takeWhile_append_dropWhile]

theorem dropWhile_isBlank_of_unbroken {s : List Char} (h : ∀ c ∈ s, isBlank c = false) :
    s.dropWhile isBlank = s := by
  cases s with
  | nil => rfl
  | cons c rest => exact List.dropWhile_cons_of_neg (by simp [h c List.mem_cons_self])

/-- Text without blanks is left when the blanks around it are trimmed. -/
theorem trimBlanks_append {before core after : List Char}
    (hbefore : ∀ c ∈ before, isBlank c = true) (hcore : ∀ c ∈ core, isBlank c = false)
    (hafter : ∀ c ∈ after, isBlank c = true) : trimBlanks (before ++ core ++ after) = core := by
  -- If nothing is between them, the blanks on the right are trimmed from the left, too.
  have hend : (core ++ after).dropWhile isBlank = if core = [] then [] else core ++ after := by
    cases core with
    | nil => exact List.dropWhile_eq_nil_iff.mpr hafter
    | cons c rest => exact List.dropWhile_cons_of_neg (by simp [hcore c List.mem_cons_self])
  unfold trimBlanks
  rw [List.append_assoc, List.dropWhile_append_of_pos hbefore, hend]
  split
  · rename_i hnone
    rw [hnone]
    rfl
  · rw [List.reverse_append, List.dropWhile_append_of_pos, dropWhile_isBlank_of_unbroken,
      List.reverse_reverse]
    · exact fun c hc => hcore c (List.mem_reverse.mp hc)
    · exact fun c hc => hafter c (List.mem_reverse.mp hc)

end Text

/-! ## Digits -/

/-- The digits as code points: 0 to 9, a to f and A to F. -/
theorem isHexDigit_iff {c : Char} {value : ℕ} : IsHexDigit c value ↔
    value < 10 ∧ c.toNat = 48 + value ∨
      10 ≤ value ∧ value < 16 ∧ (c.toNat = 87 + value ∨ c.toNat = 55 + value) := by
  have hdecimal : ∀ d < 10, (Nat.digitChar d).toNat = 48 + d ∧
      (Nat.digitChar d).toUpper.toNat = 48 + d := by decide
  have hletter : ∀ d < 16, 10 ≤ d → (Nat.digitChar d).toNat = 87 + d ∧
      (Nat.digitChar d).toUpper.toNat = 55 + d := by decide
  rw [IsHexDigit, ← Char.toNat_inj, ← Char.toNat_inj]
  by_cases hsmall : value < 10
  · rw [(hdecimal value hsmall).1, (hdecimal value hsmall).2]
    omega
  · by_cases hlarge : value < 16
    · rw [(hletter value hlarge (by omega)).1, (hletter value hlarge (by omega)).2]
      omega
    · omega

theorem hexDigit?_eq_some_iff {c : Char} {value : ℕ} :
    hexDigit? c = some value ↔ IsHexDigit c value := by
  rw [isHexDigit_iff]
  simp only [hexDigit?, Char.le_def, UInt32.le_iff_toNat_le, Char.toNat_val, Char.reduceToNat]
  split
  · rw [Option.some.injEq]
    omega
  · split
    · rw [Option.some.injEq]
      omega
    · split
      · rw [Option.some.injEq]
        omega
      · simp only [reduceCtorEq, false_iff]
        omega

/-- A character that is a digit in lowercase is a digit. -/
theorem isHexDigit_of_toLower {c : Char} {value : ℕ} (hvalue : value < 16)
    (h : c.toLower = Nat.digitChar value) : IsHexDigit c value := by
  have hlower := isHexDigit_iff.mp ⟨hvalue, .inl h⟩
  rw [Text.toNat_toLower] at hlower
  rw [isHexDigit_iff]
  split at hlower <;> omega

/-- No digit is blank. -/
theorem IsHexDigit.isBlank_eq {c : Char} {value : ℕ} (h : IsHexDigit c value) :
    Text.isBlank c = false := by
  have hnone : ∀ d < 16, Text.isBlank (Nat.digitChar d) = false ∧
      Text.isBlank (Nat.digitChar d).toUpper = false := by decide
  obtain ⟨hvalue, rfl | rfl⟩ := h
  · exact (hnone value hvalue).1
  · exact (hnone value hvalue).2

/-! ## Numbers -/

/-- A digit that is read is the next of the number. -/
theorem ofDigits_concat (values : List ℕ) (digit value : ℕ) :
    Nat.ofDigits 16 ((digit :: values).reverse ++ [value]) =
      Nat.ofDigits 16 (values.reverse ++ [16 * value + digit]) := by
  rw [List.reverse_cons, List.append_assoc, Nat.ofDigits_append, Nat.ofDigits_append,
    Nat.ofDigits_append, Nat.ofDigits_singleton, Nat.ofDigits_singleton, Nat.ofDigits_singleton,
    List.length_singleton, pow_one, Nat.add_comm digit]

theorem le_ofDigits_concat (values : List ℕ) (value : ℕ) :
    value ≤ Nat.ofDigits 16 (values ++ [value]) := by
  rw [Nat.ofDigits_append, Nat.ofDigits_singleton]
  exact Nat.le_add_left_of_le (Nat.le_mul_of_pos_left value (Nat.pow_pos (by decide)))

/-- Digits after those of a number below the bound are read as long as the number stays below it. -/
theorem hexMask_eq_ok_iff {digits : List Char} {value number : ℕ} (hvalue : value < UInt32.size) :
    hexMask value digits = .ok number ↔ number < UInt32.size ∧
      ∃ values, List.Forall₂ IsHexDigit digits values ∧
        number = Nat.ofDigits 16 (values.reverse ++ [value]) := by
  induction digits generalizing value with
  | nil =>
    simp only [hexMask, List.forall₂_nil_left_iff, exists_eq_left, List.reverse_nil,
      List.nil_append, Nat.ofDigits_singleton, Except.ok.injEq]
    constructor
    · rintro rfl
      exact ⟨hvalue, rfl⟩
    · exact fun h => h.2.symm
  | cons c rest ih =>
    simp only [List.forall₂_cons_left_iff, ← hexDigit?_eq_some_iff, hexMask]
    cases hdigit : hexDigit? c with
    | none => simp
    | some digit =>
      dsimp only
      split
      · rename_i hfits
        rw [ih hfits]
        refine and_congr_right fun _ => ⟨?_, ?_⟩
        · rintro ⟨values, hvalues, rfl⟩
          exact ⟨digit :: values, ⟨digit, values, rfl, hvalues, rfl⟩,
            (ofDigits_concat values digit value).symm⟩
        · rintro ⟨-, ⟨digit', values, hsame, hvalues, rfl⟩, rfl⟩
          cases hsame
          exact ⟨values, hvalues, ofDigits_concat values digit value⟩
      · rename_i hlarge
        refine ⟨fun h => (by cases h), ?_⟩
        rintro ⟨hsmall, -, ⟨digit', values, hsame, hvalues, rfl⟩, rfl⟩
        cases hsame
        -- Further digits do not make the number smaller again.
        rw [ofDigits_concat] at hsmall
        have hreached := le_ofDigits_concat values.reverse (16 * value + digit)
        omega

theorem hexMask_zero_eq_ok_iff {digits : List Char} {number : ℕ} :
    hexMask 0 digits = .ok number ↔ number < 2 ^ 32 ∧ IsHexNumber digits number := by
  rw [hexMask_eq_ok_iff (by decide)]
  simp only [Nat.ofDigits_append_zero]
  rfl

theorem isHexNumber_zeros (zeros : ℕ) : IsHexNumber (List.replicate zeros '0') 0 := by
  refine ⟨List.replicate zeros 0, ?_, ?_⟩
  · exact List.forall₂_iff_get.mpr ⟨by simp, fun i _ _ => by simp [IsHexDigit]⟩
  · rw [List.reverse_replicate]
    exact (Nat.ofDigits_append_replicate_zero []).symm

/-- A digit after those of a number. -/
theorem IsHexNumber.concat {digits : List Char} {number value : ℕ} {c : Char}
    (h : IsHexNumber digits number) (hc : IsHexDigit c value) :
    IsHexNumber (digits ++ [c]) (16 * number + value) := by
  obtain ⟨values, hvalues, rfl⟩ := h
  refine ⟨values ++ [value], List.rel_append hvalues (.cons hc .nil), ?_⟩
  rw [List.reverse_append, List.reverse_singleton, List.singleton_append, Nat.ofDigits_cons]
  exact Nat.add_comm _ _

/-- The digits that a number is shown with denote it, in either case and with zeros before them. -/
theorem isHexNumber_toDigits (zeros : ℕ) {number : ℕ} {digits : List Char}
    (h : digits.map Char.toLower = Nat.toDigits 16 number) :
    IsHexNumber (List.replicate zeros '0' ++ digits) number := by
  induction number using Nat.strongRecOn generalizing digits with
  | ind number ih =>
    by_cases hsmall : number < 16
    · rw [Nat.toDigits_of_lt_base hsmall] at h
      obtain ⟨c, rfl, hc⟩ := List.map_eq_singleton_iff.mp h
      have hnumber := (isHexNumber_zeros zeros).concat (isHexDigit_of_toLower hsmall hc)
      rwa [Nat.mul_zero, Nat.zero_add] at hnumber
    · -- The digits before the last one are those of the quotient.
      rw [Nat.toDigits_of_base_le (by decide) (by omega)] at h
      obtain ⟨before, last, rfl, hbefore, hlast⟩ := List.map_eq_append_iff.mp h
      obtain ⟨c, rfl, hc⟩ := List.map_eq_singleton_iff.mp hlast
      have hnumber := (ih (number / 16) (by omega) hbefore).concat
        (isHexDigit_of_toLower (by omega) hc)
      rwa [Nat.div_add_mod, List.append_assoc] at hnumber

/-! ## Marks and signs -/

theorem exists_hexMark (s : List Char) : ∃ mark ∈ hexMarks, s = mark ++ unmarked s := by
  unfold unmarked
  split
  · exact ⟨['0', 'x'], by decide, rfl⟩
  · exact ⟨['0', 'X'], by decide, rfl⟩
  · exact ⟨[], by decide, rfl⟩

theorem exists_sign (s : List Char) :
    ∃ sign, (sign = [] ∨ sign = ['+']) ∧ s = sign ++ unsigned s := by
  unfold unsigned
  split
  · exact ⟨['+'], .inr rfl, rfl⟩
  · exact ⟨[], .inl rfl, rfl⟩

/-- Each character of a number is a digit. -/
theorem IsHexNumber.exists_value {digits : List Char} {number : ℕ} (h : IsHexNumber digits number)
    {c : Char} (hc : c ∈ digits) : ∃ value, IsHexDigit c value := by
  obtain ⟨values, hvalues, -⟩ := h
  clear number
  induction hvalues with
  | nil => cases hc
  | cons hdigit _ ih =>
    rcases List.mem_cons.mp hc with rfl | hc
    · exact ⟨_, hdigit⟩
    · exact ih hc

/-- A character that is no digit is not among those of a number. -/
theorem IsHexNumber.notMem {digits : List Char} {number : ℕ} (h : IsHexNumber digits number)
    {c : Char} (hc : hexDigit? c = none) : c ∉ digits := fun hmem => by
  obtain ⟨value, hvalue⟩ := h.exists_value hmem
  cases hc.symm.trans (hexDigit?_eq_some_iff.mpr hvalue)

/-- A sign before digits is taken off, and no digit is taken for a sign. -/
theorem unsigned_append {sign digits : List Char} {number : ℕ} (hsign : sign = [] ∨ sign = ['+'])
    (hdigits : IsHexNumber digits number) : unsigned (sign ++ digits) = digits := by
  rcases hsign with rfl | rfl
  · rw [List.nil_append]
    unfold unsigned
    split
    · exact absurd List.mem_cons_self (hdigits.notMem (by decide))
    · rfl
  · rfl

namespace BareMask

variable {mask : List Char} {number : ℕ}

theorem eq_plus_or_digit (h : BareMask mask number) {c : Char} (hc : c ∈ mask) :
    c = '+' ∨ ∃ value, IsHexDigit c value := by
  cases h with
  | nothing => cases hc
  | number hsign _ hdigits _ =>
    rcases List.mem_append.mp hc with hc | hc
    · rcases hsign with rfl | rfl
      · cases hc
      · exact .inl (List.mem_singleton.mp hc)
    · exact .inr (hdigits.exists_value hc)

/-- A mark before a bare mask is taken off, and nothing of the mask is taken for one. -/
theorem unmarked_append (h : BareMask mask number) {mark : List Char} (hmark : mark ∈ hexMarks) :
    unmarked (mark ++ mask) = mask := by
  have hnone {c : Char} (hc : c = 'x' ∨ c = 'X') : c ∉ mask := by
    intro hmem
    rcases h.eq_plus_or_digit hmem with rfl | ⟨value, hvalue⟩
    · simp at hc
    · have hread := hexDigit?_eq_some_iff.mpr hvalue
      rcases hc with rfl | rfl <;> cases hread
  have hbare : unmarked mask = mask := by
    unfold unmarked
    split
    · exact absurd (by simp) (hnone (.inl rfl))
    · exact absurd (by simp) (hnone (.inr rfl))
    · rfl
  simp only [hexMarks, List.mem_cons, List.not_mem_nil, or_false] at hmark
  rcases hmark with rfl | rfl | rfl
  · exact hbare
  · rfl
  · rfl

/-- Neither a bare mask nor a mark before it has blanks. -/
theorem isBlank_eq (h : BareMask mask number) {mark : List Char} (hmark : mark ∈ hexMarks) :
    ∀ c ∈ mark ++ mask, Text.isBlank c = false := by
  have hmarks : hexMarks.flatten.all (!Text.isBlank ·) = true := by decide
  intro c hc
  rcases List.mem_append.mp hc with hc | hc
  · simpa using List.all_eq_true.mp hmarks c (List.mem_flatten.mpr ⟨mark, hmark, hc⟩)
  · rcases h.eq_plus_or_digit hc with rfl | ⟨value, hvalue⟩
    · decide
    · exact hvalue.isBlank_eq

theorem lt (h : BareMask mask number) : number < 2 ^ 32 := by
  cases h with
  | nothing => decide
  | number _ _ _ hfits => exact hfits

theorem nil_iff : BareMask [] number ↔ number = 0 := by
  constructor
  · intro h
    generalize hmask : ([] : List Char) = mask at h
    cases h with
    | nothing => rfl
    | number _ hsome _ _ => exact absurd (List.append_eq_nil_iff.mp hmask.symm).2 hsome
  · rintro rfl
    exact .nothing

/-- A bare mask with characters has digits after its sign. -/
theorem iff_of_ne_nil (hsome : mask ≠ []) : BareMask mask number ↔
    unsigned mask ≠ [] ∧ number < 2 ^ 32 ∧ IsHexNumber (unsigned mask) number := by
  constructor
  · intro h
    cases h with
    | nothing => exact absurd rfl hsome
    | number hsign hdigit hdigits hfits =>
      rw [unsigned_append hsign hdigits]
      exact ⟨hdigit, hfits, hdigits⟩
  · rintro ⟨hsome, hfits, hdigits⟩
    obtain ⟨sign, hsign, heq⟩ := exists_sign mask
    rw [heq]
    exact .number hsign hsome hdigits hfits

end BareMask

/-! ## Masks -/

/-- What is left without blanks and mark is read as the mask that it denotes. -/
theorem Flags.parse_eq_ok_iff {bearer : Bearer} {text : String} {flags : Flags bearer} :
    Flags.parse text = .ok flags ↔
      BareMask (unmarked (Text.trimBlanks text.toList)) flags.bits.toNat := by
  unfold Flags.parse
  split
  · rename_i hnothing
    rw [hnothing, BareMask.nil_iff, ← UInt32.toNat_zero, UInt32.toNat_inj, Except.ok.injEq]
    constructor
    · rintro rfl
      rfl
    · rintro hzero
      cases flags
      cases hzero
      rfl
  · rename_i hsome
    rw [BareMask.iff_of_ne_nil hsome]
    split
    · rename_i hnone
      simp [hnone]
    · rename_i hdigits
      generalize unsigned (unmarked (Text.trimBlanks text.toList)) = digits at hdigits
      rw [← hexMask_zero_eq_ok_iff]
      constructor
      · intro h
        cases hread : hexMask 0 digits with
        | error cause =>
          rw [hread] at h
          cases h
        | ok number =>
          rw [hread] at h
          cases h
          rw [UInt32.toNat_ofNat_of_lt' (hexMask_zero_eq_ok_iff.mp hread).1]
          exact ⟨hdigits, rfl⟩
      · rintro ⟨-, hread⟩
        rw [hread, Except.map, UInt32.ofNat_toNat]

theorem denotesMask_iff {text : List Char} {number : ℕ} :
    DenotesMask text number ↔ BareMask (unmarked (Text.trimBlanks text)) number := by
  constructor
  · rintro ⟨before, mark, mask, after, rfl, hbefore, hmark, hmask, hafter⟩
    rwa [Text.trimBlanks_append hbefore (hmask.isBlank_eq hmark) hafter,
      hmask.unmarked_append hmark]
  · intro hmask
    obtain ⟨before, after, htext, hbefore, hafter⟩ := Text.exists_trimBlanks text
    obtain ⟨mark, hmark, hcore⟩ := exists_hexMark (Text.trimBlanks text)
    refine ⟨before, mark, _, after, ?_, hbefore, hmark, hmask, hafter⟩
    rw [← hcore, ← htext]

/-- A text is read as a mask exactly if it denotes it, and else it is an error. However a mask of 32
bits is written in hexadecimal, all of its bits are read. -/
theorem Flags.parse_reads_masks {bearer : Bearer} :
    (∀ (text : String) (flags : Flags bearer),
      Flags.parse text = .ok flags ↔ DenotesMask text.toList flags.bits.toNat) ∧
    (∀ text : String, (∃ cause, @Flags.parse bearer text = .error cause) ↔
      ¬ ∃ number, DenotesMask text.toList number) ∧
    ∀ (bits : UInt32) (zeros : ℕ), ∀ mark ∈ hexMarks, ∀ digits : List Char,
      digits.map Char.toLower = Nat.toDigits 16 bits.toNat →
        Flags.parse (String.ofList (mark ++ (List.replicate zeros '0' ++ digits))) =
          .ok (⟨bits⟩ : Flags bearer) := by
  have hread (text : String) (flags : Flags bearer) :
      Flags.parse text = .ok flags ↔ DenotesMask text.toList flags.bits.toNat :=
    parse_eq_ok_iff.trans denotesMask_iff.symm
  refine ⟨hread, fun text => ⟨?_, ?_⟩, ?_⟩
  · rintro ⟨cause, herror⟩ ⟨number, hnumber⟩
    have hfits := (denotesMask_iff.mp hnumber).lt
    have hok := (hread text ⟨UInt32.ofNat number⟩).mpr
      (by rwa [UInt32.toNat_ofNat_of_lt' hfits])
    cases herror.symm.trans hok
  · intro hnone
    cases hparse : @Flags.parse bearer text with
    | error cause => exact ⟨cause, rfl⟩
    | ok flags => exact absurd ⟨_, (hread text flags).mp hparse⟩ hnone
  · intro bits zeros mark hmark digits hdigits
    have hsome : List.replicate zeros '0' ++ digits ≠ [] := by
      intro hnone
      rw [(List.append_eq_nil_iff.mp hnone).2] at hdigits
      exact Nat.toDigits_ne_nil hdigits.symm
    rw [hread, String.toList_ofList]
    refine ⟨[], mark, [] ++ (List.replicate zeros '0' ++ digits), [], by simp, by simp, hmark,
      ?_, by simp⟩
    exact .number (.inl rfl) hsome (isHexNumber_toDigits zeros hdigits) bits.toNat_lt

/-- A mask with bits that mean nothing is read with its letters in both cases. -/
theorem Flags.parse_reads_masks_mixed :
    ['0', 'X'] ∈ hexMarks ∧
      "dEaDBeEf".toList.map Char.toLower = Nat.toDigits 16 (0xDEADBEEF : UInt32).toNat ∧
      Flags.parse "0X00dEaDBeEf" = .ok (⟨0xDEADBEEF⟩ : PlayerFlags) :=
  ⟨by decide, by decide,
    Flags.parse_reads_masks.2.2 0xDEADBEEF 2 ['0', 'X'] (by decide) "dEaDBeEf".toList (by decide)⟩

example : Flags.parse " 0x+01f\n" = .ok (⟨0x1F⟩ : ItemFlags) ∧
    Flags.parse "0x0ffffffff" = .ok (⟨0xFFFFFFFF⟩ : ItemFlags) ∧
    @Flags.parse .item "0x100000000" = .error .tooLarge ∧
    @Flags.parse .item "0x0x1" = .error .invalidDigit := by
  decide

end Adventure
