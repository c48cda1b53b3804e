import Adventure.Loading.Build
import Mathlib.Data.List.Forall2

/-!
# What loading yields

Loading may stop with an error. What is proved of it is what holds of its result whenever there is
one; the rules below follow the way in which the steps of loading are put together.
-/

namespace Adventure.Loading

variable {α β : Type} {P : α → Prop} {Q : β → Prop}

/-- Whatever a step of loading yields has a property. -/
def Yields (step : Loading α) (P : α → Prop) : Prop :=
  ∀ noted result after, step.run noted = .ok (result, after) → P result

/-- A step may always be taken without knowing anything of its result. -/
theorem Yields.unknown (step : Loading α) : Yields step fun _ => True :=
  fun _ _ _ _ => trivial

theorem Yields.pure {a : α} (h : P a) : Yields (Pure.pure a) P := by
  intro noted result after hrun
  cases hrun
  exact h

/-- A step that stops yields nothing. -/
theorem Yields.throw (cause : LoadError) : Yields (MonadExcept.throw cause : Loading α) P := by
  intro noted result after hrun
  cases hrun

/-- What follows a step may rely on what the step yields. -/
theorem Yields.bind {step : Loading α} {next : α → Loading β} (h : Yields step P)
    (hnext : ∀ a, P a → Yields (next a) Q) : Yields (step >>= next) Q := by
  intro noted result after hrun
  rw [StateT.run_bind] at hrun
  cases hstep : step.run noted with
  | error cause =>
    rw [hstep] at hrun
    cases hrun
  | ok outcome =>
    rw [hstep] at hrun
    exact hnext outcome.1 (h noted outcome.1 outcome.2 hstep) outcome.2 result after hrun

/-- A step whose result is not looked at. -/
theorem Yields.after {step : Loading α} {next : α → Loading β} (hnext : ∀ a, Yields (next a) Q) :
    Yields (step >>= next) Q :=
  (Yields.unknown step).bind fun a _ => hnext a

/-- What every step of a fold keeps is yielded by the fold. -/
theorem Yields.foldlM {f : β → α → Loading β} {entries : List α} {first : β} (hfirst : Q first)
    (hstep : ∀ b, ∀ a ∈ entries, Q b → Yields (f b a) Q) :
    Yields (entries.foldlM f first) Q := by
  induction entries generalizing first with
  | nil => exact .pure hfirst
  | cons entry rest ih =>
    rw [List.foldlM_cons]
    refine (hstep first entry List.mem_cons_self hfirst).bind fun b hb => ?_
    exact ih hb fun b a ha => hstep b a (List.mem_cons_of_mem _ ha)

/-! ## Lists -/

/-- Mapping a step over a list yields one result for each entry, in their order. -/
theorem Yields.mapM {R : α → β → Prop} {f : α → Loading β} {entries : List α}
    (h : ∀ a ∈ entries, Yields (f a) (R a)) :
    Yields (entries.mapM f) fun results => List.Forall₂ R entries results := by
  induction entries with
  | nil => exact .pure .nil
  | cons entry rest ih =>
    rw [List.mapM_cons]
    refine (h entry List.mem_cons_self).bind fun b hb => ?_
    refine (ih fun a ha => h a (List.mem_cons_of_mem _ ha)).bind fun results hrest => ?_
    exact .pure (.cons hb hrest)

theorem exists_entry {R : α → β → Prop} {entries : List α} {results : List β}
    (h : List.Forall₂ R entries results) {b : β} (hb : b ∈ results) : ∃ a ∈ entries, R a b := by
  induction h with
  | nil => cases hb
  | cons hrelated _ ih =>
    rcases List.mem_cons.mp hb with rfl | hb
    · exact ⟨_, List.mem_cons_self, hrelated⟩
    · obtain ⟨a, ha, hab⟩ := ih hb
      exact ⟨a, List.mem_cons_of_mem _ ha, hab⟩

theorem exists_result {R : α → β → Prop} {entries : List α} {results : List β}
    (h : List.Forall₂ R entries results) {a : α} (ha : a ∈ entries) : ∃ b ∈ results, R a b := by
  induction h with
  | nil => cases ha
  | cons hrelated _ ih =>
    rcases List.mem_cons.mp ha with rfl | ha
    · exact ⟨_, List.mem_cons_self, hrelated⟩
    · obtain ⟨b, hb, hab⟩ := ih ha
      exact ⟨b, List.mem_cons_of_mem _ hb, hab⟩

/-- Where there is an entry, there is its result. -/
theorem exists_result_at {R : α → β → Prop} {entries : List α} {results : List β}
    (h : List.Forall₂ R entries results) {slot : Nat} {a : α} (ha : entries[slot]? = some a) :
    ∃ b, results[slot]? = some b ∧ R a b := by
  obtain ⟨hlt, rfl⟩ := List.getElem?_eq_some_iff.mp ha
  have hresult : slot < results.length := h.length_eq ▸ hlt
  exact ⟨results[slot], List.getElem?_eq_getElem hresult, h.get hlt hresult⟩

/-! ## Steps that may find nothing -/

/-- Whatever a step finds has a property; it may find nothing. -/
def Finds (step : Loading (Option α)) (P : α → Prop) : Prop := Yields step fun found? =>
  ∀ a ∈ found?, P a

/-- A step may always be taken without knowing anything of what it finds. -/
theorem Finds.unknown (step : Loading (Option α)) : Finds step fun _ => True :=
  fun _ _ _ _ _ _ => trivial

theorem Finds.some {a : α} (h : P a) : Finds (Pure.pure (some a)) P := by
  refine Yields.pure ?_
  rintro _ ⟨⟩
  exact h

theorem Finds.none : Finds (Pure.pure none) P := by
  refine Yields.pure ?_
  rintro _ ⟨⟩

/-- What is made of something found is found. -/
theorem Finds.map {step : Loading (Option α)} {f : α → β} (h : Finds step P)
    (hf : ∀ a, P a → Q (f a)) : Finds (step >>= fun found? => Pure.pure (found?.map f)) Q := by
  refine Yields.bind h fun found? hfound => .pure fun b hb => ?_
  obtain ⟨a, ha, rfl⟩ := Option.map_eq_some_iff.mp hb
  exact hf a (hfound a ha)

/-- What follows may rely on what was found, if anything was. -/
theorem Finds.bind {step : Loading (Option α)} {next : Option α → Loading β} (h : Finds step P)
    (hnone : Yields (next Option.none) Q) (hsome : ∀ a, P a → Yields (next (Option.some a)) Q) :
    Yields (step >>= next) Q := by
  refine Yields.bind h fun found? hfound => ?_
  cases found? with
  | none => exact hnone
  | some a => exact hsome a (hfound a rfl)

/-- What each result that is kept has, all results of a filtering map have. -/
theorem Yields.filterMapM {f : α → Loading (Option β)} {entries : List α}
    (h : ∀ a ∈ entries, Finds (f a) Q) :
    Yields (entries.filterMapM f) fun kept => ∀ b ∈ kept, Q b := by
  suffices hloop : ∀ (kept : List β), (∀ b ∈ kept, Q b) →
      Yields (List.filterMapM.loop f entries kept) fun kept => ∀ b ∈ kept, Q b from
    hloop [] fun _ hb => absurd hb List.not_mem_nil
  induction entries with
  | nil =>
    intro kept hkept
    exact .pure fun b hb => hkept b (List.mem_reverse.mp hb)
  | cons entry rest ih =>
    intro kept hkept
    have hrest := ih fun a ha => h a (List.mem_cons_of_mem _ ha)
    refine Finds.bind (h entry List.mem_cons_self) (hrest kept hkept) fun b hb => ?_
    exact hrest (b :: kept) (List.forall_mem_cons.mpr ⟨hb, hkept⟩)

end Adventure.Loading
