import Adventure.Text.Case
import Mathlib.Data.List.Basic

/-!
# Lowering and folding

Typed words are lowered by the rules of Unicode, while names of items are compared with only the
letters A to Z folded. Lowering a text a second time changes nothing. A text is like its lowercase
exactly if lowering does no more to any of its characters than folding does.
-/

namespace Adventure.Text

/-! ## The tables -/

namespace CaseRange

/-- Whether no character of another range is the other case of one of these: all of them lie before
or behind that range, or always between two of its characters. -/
def misses (r other : CaseRange) : Bool :=
  let first := ((r.first : Int) + r.shift).toNat
  let last := ((r.last : Int) + r.shift).toNat
  last.blt other.first || other.last.blt first ||
    (r.stride % other.stride == 0 || r.first == r.last) && (first - other.first) % other.stride != 0

/-- What a range converts has no other case by a range that it misses. -/
theorem convert?_of_misses {r other : CaseRange} (h : r.misses other = true) {c d : Nat}
    (hconvert : r.convert? c = some d) : other.convert? d = none := by
  unfold convert? at hconvert
  split at hconvert
  · rename_i hholds
    obtain ⟨hfirst, hlast, hstride⟩ := hholds
    cases hconvert
    refine if_neg fun hother => ?_
    obtain ⟨hfrom, hto, hmeets⟩ := hother
    simp only [misses, Bool.or_eq_true, Bool.and_eq_true, Nat.blt_eq, beq_iff_eq, bne_iff_ne] at h
    rcases h with (hbefore | hbehind) | ⟨hstrides, hapart⟩
    · omega
    · omega
    · -- Whole strides of the other range lie between the first character and this one.
      obtain ⟨steps, hsteps⟩ : other.stride ∣ c - r.first := by
        rcases hstrides with hstrides | hsingle
        · exact Nat.dvd_trans (Nat.dvd_of_mod_eq_zero hstrides) (Nat.dvd_of_mod_eq_zero hstride)
        · exact ⟨0, by omega⟩
      have hshift : ((c : Int) + r.shift).toNat - other.first =
          ((r.first : Int) + r.shift).toNat - other.first + other.stride * steps := by
        have hpositive : ((r.first : Int) + r.shift).toNat - other.first ≠ 0 := by
          intro hzero
          rw [hzero, Nat.zero_mod] at hapart
          exact hapart rfl
        omega
      rw [hshift, Nat.add_mul_mod_self_left] at hmeets
      exact hapart hmeets
  · cases hconvert

end CaseRange

/-- A character whose code point has no lowercase in the tables. -/
def Lowered (point : Nat) : Prop :=
  lowerExpansions.lookup point = none ∧ lowerRanges.findSome? (·.convert? point) = none

/-- The lowercase of a character is never in one of the ranges of those that have a lowercase, nor
is it the one that becomes two characters. -/
theorem misses_lowerRanges {r : CaseRange} (hr : r ∈ lowerRanges) :
    r.misses ⟨0x0130, 0x0130, 1, 0⟩ = true ∧ ∀ other ∈ lowerRanges, r.misses other = true := by
  have hall : (lowerRanges.all fun r => r.misses ⟨0x0130, 0x0130, 1, 0⟩ &&
      lowerRanges.all r.misses) = true := by decide +kernel
  simpa only [Bool.and_eq_true, List.all_eq_true] using List.all_eq_true.mp hall r hr

theorem lowered_of_convert? {c point : Nat}
    (h : lowerRanges.findSome? (·.convert? c) = some point) : Lowered point := by
  obtain ⟨r, hr, hconvert⟩ := List.exists_of_findSome?_eq_some h
  obtain ⟨hexpansion, hranges⟩ := misses_lowerRanges hr
  refine ⟨?_, List.findSome?_eq_none_iff.mpr fun other hother =>
    CaseRange.convert?_of_misses (hranges other hother) hconvert⟩
  have hsingle := CaseRange.convert?_of_misses hexpansion hconvert
  unfold CaseRange.convert? at hsingle
  simp only [lowerExpansions, List.lookup_cons, List.lookup_nil]
  split
  · rename_i heq
    simp [eq_of_beq heq] at hsingle
  · rfl

/-! ## Characters -/

/-- Folding moves the letters A to Z and no other characters. -/
theorem toNat_toLower (c : Char) : c.toLower.toNat =
    if 0x41 ≤ c.toNat ∧ c.toNat ≤ 0x5A then c.toNat + 32 else c.toNat := by
  have hletter : (c.val ≥ 'A'.val ∧ c.val ≤ 'Z'.val) ↔ 0x41 ≤ c.toNat ∧ c.toNat ≤ 0x5A := by
    simp only [ge_iff_le, UInt32.le_iff_toNat_le]
    rfl
  unfold Char.toLower
  split
  · rename_i hupper
    have hbounds := hletter.mp hupper
    have hsum : (c.val + ('a'.val - 'A'.val)).toNat = (c.toNat + 32) % 2 ^ 32 :=
      UInt32.toNat_add _ _
    rw [if_pos hbounds]
    exact hsum.trans (Nat.mod_eq_of_lt (by omega))
  · rename_i hother
    rw [if_neg (mt hletter.mpr hother)]

theorem toLower_of_not_letter {c : Char} (h : ¬ (0x41 ≤ c.toNat ∧ c.toNat ≤ 0x5A)) :
    c.toLower = c := by
  rw [← Char.toNat_inj, toNat_toLower, if_neg h]

theorem toLower_of_le {c : Char} (h : 0x80 ≤ c.toNat) : c.toLower = c :=
  toLower_of_not_letter (by omega)

/-- Folding twice is folding once. -/
theorem toLower_toLower (c : Char) : c.toLower.toLower = c.toLower := by
  refine toLower_of_not_letter ?_
  rw [toNat_toLower]
  split <;> omega

theorem toNat_toLower_lt {c : Char} (h : c.toNat < 0x80) : c.toLower.toNat < 0x80 := by
  rw [toNat_toLower]
  split <;> omega

/-- Folding leads to a character beyond ASCII from no other one. -/
theorem eq_of_toLower_eq {c d : Char} (h : 0x80 ≤ c.toNat) (heq : d.toLower = c) : d = c := by
  by_cases hd : d.toNat < 0x80
  · have hlt := toNat_toLower_lt hd
    rw [heq] at hlt
    omega
  · rwa [toLower_of_le (Nat.le_of_not_lt hd)] at heq

theorem lowerChar_of_lt {c : Char} (h : c.toNat < 0x80) : lowerChar c = [c.toLower] := if_pos h

theorem lowerChar_of_lowered {c : Char} (h : Lowered c.toNat) : lowerChar c = [c] := by
  obtain ⟨hexpansions, hranges⟩ := h
  by_cases hlt : c.toNat < 0x80
  · have hnot : ¬ (0x41 ≤ c.toNat ∧ c.toNat ≤ 0x5A) := by
      rintro ⟨hfirst, hlast⟩
      have hletters := List.findSome?_eq_none_iff.mp hranges ⟨0x0041, 0x005A, 1, 32⟩
        List.mem_cons_self
      simp [CaseRange.convert?, hfirst, hlast, Nat.mod_one] at hletters
    rw [lowerChar_of_lt hlt, toLower_of_not_letter hnot]
  · rw [lowerChar, if_neg hlt]
    unfold convertChar
    simp only [hexpansions, hranges]

theorem lowerChar_ne_nil (c : Char) : lowerChar c ≠ [] := by
  unfold lowerChar
  split
  · exact List.cons_ne_nil _ _
  · unfold convertChar
    split
    · rename_i points hpoints
      simp only [lowerExpansions, List.lookup_cons, List.lookup_nil] at hpoints
      split at hpoints <;> cases hpoints
      exact List.cons_ne_nil _ _
    · split <;> exact List.cons_ne_nil _ _

/-- What a character is lowered to is its own lowercase. -/
theorem lowerChar_of_mem {c d : Char} (h : d ∈ lowerChar c) : lowerChar d = [d] := by
  by_cases hlt : c.toNat < 0x80
  · rw [lowerChar_of_lt hlt, List.mem_singleton] at h
    rw [h, lowerChar_of_lt (toNat_toLower_lt hlt), toLower_toLower]
  · rw [lowerChar, if_neg hlt] at h
    cases hexpansion : lowerExpansions.lookup c.toNat with
    | some points =>
      simp only [convertChar, hexpansion] at h
      simp only [lowerExpansions, List.lookup_cons, List.lookup_nil] at hexpansion
      split at hexpansion <;> cases hexpansion
      simp only [List.map_cons, List.map_nil, List.mem_cons, List.not_mem_nil, or_false] at h
      rcases h with rfl | rfl
      · decide +kernel
      · decide +kernel
    | none =>
      cases hconvert : lowerRanges.findSome? (·.convert? c.toNat) with
      | some point =>
        simp only [convertChar, hexpansion, hconvert, List.mem_singleton] at h
        subst h
        by_cases hvalid : point.isValidChar
        · have hpoint : (Char.ofNat point).toNat = point := by
            rw [Char.ofNat, dif_pos hvalid]
            rfl
          exact lowerChar_of_lowered (hpoint.symm ▸ lowered_of_convert? hconvert)
        · rw [Char.ofNat, dif_neg hvalid]
          decide +kernel
      | none =>
        simp only [convertChar, hexpansion, hconvert, List.mem_singleton] at h
        rw [h]
        exact lowerChar_of_lowered ⟨hexpansion, hconvert⟩

/-! ## Texts -/

/-- Lowering leaves characters alone that are their own lowercase. -/
theorem lowerAfter_of_forall {s : List Char} (h : ∀ c ∈ s, lowerChar c = [c])
    (before : List Char) : lowerAfter before s = s := by
  induction s generalizing before with
  | nil => rfl
  | cons c rest ih =>
    obtain ⟨hfirst, hrest⟩ := List.forall_mem_cons.mp h
    have hsigma : c ≠ 'Σ' := by
      rintro rfl
      revert hfirst
      decide +kernel
    rw [lowerAfter, if_neg hsigma, hfirst, ih hrest, List.singleton_append]

/-- Every character of a lowercase is its own lowercase. -/
theorem lowerChar_of_mem_lowerAfter {s before : List Char} {d : Char}
    (h : d ∈ lowerAfter before s) : lowerChar d = [d] := by
  induction s generalizing before with
  | nil => cases h
  | cons c rest ih =>
    rw [lowerAfter, List.mem_append] at h
    rcases h with hfirst | hrest
    · split at hfirst
      · rw [List.mem_singleton.mp hfirst]
        unfold lowerSigma
        split <;> decide +kernel
      · exact lowerChar_of_mem hfirst
    · exact ih hrest

/-- Lowering a lowercase changes nothing. -/
@[simp] theorem lower_lower (text : String) : lower (lower text) = lower text := by
  unfold lower
  rw [String.toList_ofList, lowerAfter_of_forall fun c hc => lowerChar_of_mem_lowerAfter hc]

theorem length_le_lowerAfter (before s : List Char) :
    s.length ≤ (lowerAfter before s).length := by
  induction s generalizing before with
  | nil => exact Nat.zero_le _
  | cons c rest ih =>
    have hfirst : 0 < (lowerChar c).length := List.length_pos_of_ne_nil (lowerChar_ne_nil c)
    have hrest := ih (c :: before)
    rw [lowerAfter, List.length_append, List.length_cons]
    split
    · simp only [List.length_singleton]
      omega
    · omega

/-- Lowering does no more than folding does if that is so for each character. -/
theorem lowerAfter_eq_map {s : List Char} (h : ∀ c ∈ s, lowerChar c = [c.toLower])
    (before : List Char) : lowerAfter before s = s.map Char.toLower := by
  induction s generalizing before with
  | nil => rfl
  | cons c rest ih =>
    obtain ⟨hfirst, hrest⟩ := List.forall_mem_cons.mp h
    have hsigma : c ≠ 'Σ' := by
      rintro rfl
      revert hfirst
      decide +kernel
    rw [lowerAfter, if_neg hsigma, hfirst, ih hrest, List.map_cons, List.singleton_append]

/-- If folding makes a text and its lowercase equal, then lowering does to each character just what
folding does. None can have become several, for then the lowercase would be longer. -/
theorem lowerChar_of_map_eq {s before : List Char}
    (h : (lowerAfter before s).map Char.toLower = s.map Char.toLower) :
    ∀ c ∈ s, lowerChar c = [c.toLower] := by
  induction s generalizing before with
  | nil => exact fun c hc => absurd hc List.not_mem_nil
  | cons c rest ih =>
    rw [lowerAfter, List.map_append, List.map_cons] at h
    split at h
    · rename_i hsigma
      rw [List.map_singleton, List.singleton_append] at h
      obtain ⟨hfirst, -⟩ := List.cons.inj h
      rw [hsigma, lowerSigma] at hfirst
      split at hfirst <;> exact absurd hfirst (by decide)
    · obtain ⟨d, more, hlowered⟩ := List.exists_cons_of_ne_nil (lowerChar_ne_nil c)
      rw [hlowered, List.map_cons, List.cons_append] at h
      obtain ⟨hfirst, hlater⟩ := List.cons.inj h
      have hlength := congrArg List.length hlater
      simp only [List.length_append, List.length_map] at hlength
      have hlonger := length_le_lowerAfter (c :: before) rest
      obtain rfl : more = [] := List.length_eq_zero_iff.mp (by omega)
      refine List.forall_mem_cons.mpr ⟨?_, ih hlater⟩
      by_cases hlt : c.toNat < 0x80
      · exact lowerChar_of_lt hlt
      · have hle := Nat.le_of_not_lt hlt
        rw [toLower_of_le hle] at hfirst
        rw [hlowered, eq_of_toLower_eq hle hfirst, toLower_of_le hle]

/-- A text is like its lowercase exactly if lowering does to each of its characters what folding
does. -/
theorem alike_lower_iff (text : String) :
    alike text (lower text) = true ↔ ∀ c ∈ text.toList, lowerChar c = [c.toLower] := by
  rw [alike, beq_iff_eq, lower, String.toList_ofList]
  constructor
  · exact fun h => lowerChar_of_map_eq h.symm
  · intro h
    rw [lowerAfter_eq_map h, List.map_map]
    refine List.map_congr_left fun c _ => ?_
    exact (toLower_toLower c).symm

end Adventure.Text
