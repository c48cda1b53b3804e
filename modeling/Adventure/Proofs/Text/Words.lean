import Adventure.Proofs.Text.Case
import Adventure.Text.Vocabulary

/-!
# The words of lines

A blank between two lines keeps their words apart, so that the words of both in one line are those
of the first and then those of the second. A text without blanks is one word, and is one token in
lowercase unless it is a filler word.
-/

namespace Adventure.Text

theorem words_cons (c : Char) (s : List Char) :
    words (c :: s) =
      if isBlank c then words s
      else match s, words s with
        | d :: _, word :: later => if isBlank d then [c] :: word :: later else (c :: word) :: later
        | _, later => [c] :: later := rfl

theorem words_cons_blank {c : Char} (h : isBlank c = true) (s : List Char) :
    words (c :: s) = words s := by
  rw [words_cons, if_pos h]

/-- Only blanks have no words. -/
theorem isBlank_of_words_nil {c : Char} {s : List Char} (h : words (c :: s) = []) :
    isBlank c = true := by
  refine Decidable.byContradiction fun hword => ?_
  rw [words_cons, if_neg hword] at h
  split at h
  · split at h <;> cases h
  · cases h

/-- A blank keeps the words before it and those after it apart. -/
theorem words_append_blank {blank : Char} (hblank : isBlank blank = true) (s t : List Char) :
    words (s ++ blank :: t) = words s ++ words t := by
  induction s with
  | nil => exact words_cons_blank hblank t
  | cons c rest ih =>
    by_cases hc : isBlank c = true
    · rw [List.cons_append, words_cons_blank hc, words_cons_blank hc, ih]
    rw [List.cons_append, words_cons, words_cons, if_neg hc, if_neg hc, ih]
    cases rest with
    | nil =>
      have hnone : words [] = [] := rfl
      rw [hnone, List.nil_append, List.nil_append]
      cases words t with
      | nil => rfl
      | cons word later =>
        dsimp only
        rw [if_pos hblank]
        rfl
    | cons d rest =>
      rw [List.cons_append]
      cases hwords : words (d :: rest) with
      | nil =>
        have hd := isBlank_of_words_nil hwords
        cases words t with
        | nil => rfl
        | cons word later =>
          rw [List.nil_append]
          dsimp only
          rw [if_pos hd]
          rfl
      | cons word later =>
        rw [List.cons_append]
        dsimp only
        split <;> rfl

/-- A text without blanks is one word. -/
theorem words_of_unbroken {s : List Char} (hsome : s ≠ [])
    (hunbroken : ∀ c ∈ s, isBlank c = false) : words s = [s] := by
  induction s with
  | nil => exact absurd rfl hsome
  | cons c rest ih =>
    obtain ⟨hfirst, hrest⟩ := List.forall_mem_cons.mp hunbroken
    rw [words_cons, if_neg (ne_true_of_eq_false hfirst)]
    cases rest with
    | nil => rfl
    | cons d later =>
      rw [ih (List.cons_ne_nil d later) hrest]
      exact if_neg (ne_true_of_eq_false (hrest d List.mem_cons_self))

/-- The words of two lines with a blank between them. -/
theorem Vocabulary.tokens_append (vocabulary : Vocabulary) (line more : String) :
    vocabulary.tokens (line ++ " " ++ more) = vocabulary.tokens line ++ vocabulary.tokens more := by
  have hline : (line ++ " " ++ more).toList = line.toList ++ ' ' :: more.toList := by
    simp [String.toList_append]
  unfold tokens
  rw [hline, words_append_blank (by decide), List.map_append, List.filter_append]

/-- A single word that means something: a text with characters and without blanks that is no filler
word. -/
structure Vocabulary.IsWord (vocabulary : Vocabulary) (text : String) : Prop where
  /-- It has characters. -/
  nonempty : text ≠ ""
  /-- None of them is blank. -/
  unbroken : ∀ c ∈ text.toList, isBlank c = false
  /-- It is not dropped. -/
  meaningful : vocabulary.contains filler text = false

/-- Whether a text is such a word can be found out. -/
theorem Vocabulary.isWord_of_checks {vocabulary : Vocabulary} {text : String}
    (hnonempty : text ≠ "") (hunbroken : text.toList.any isBlank = false)
    (hmeaningful : vocabulary.contains filler text = false) : vocabulary.IsWord text :=
  ⟨hnonempty, fun c hc => Bool.eq_false_iff.mpr (List.any_eq_false.mp hunbroken c hc), hmeaningful⟩

/-- Such a word is one token when it is typed, in lowercase. -/
theorem Vocabulary.IsWord.tokens_eq {vocabulary : Vocabulary} {text : String}
    (h : vocabulary.IsWord text) : vocabulary.tokens text = [lower text] := by
  have hsome : text.toList ≠ [] := fun hnone => h.nonempty (String.toList_eq_nil_iff.mp hnone)
  have hkept : vocabulary.contains filler (lower text) = false := by
    unfold contains
    rw [lower_lower]
    exact h.meaningful
  rw [tokens, words_of_unbroken hsome h.unbroken, List.map_singleton, String.ofList_toList]
  simp [hkept]

end Adventure.Text
