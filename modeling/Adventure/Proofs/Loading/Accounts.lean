import Adventure.Proofs.Loading.Yields
import Mathlib.Data.List.ReduceOption

/-!
# What loading notes

Loading only ever adds to the problems noted so far. The rules below relate what a step of loading
yields to the problems that the step itself adds, so that it can be proved that whatever is left out
is told.
-/

namespace Adventure.Loading

variable {α β : Type} {R : List Diagnostic → α → Prop} {S : List Diagnostic → β → Prop}

/-- Whatever a step of loading yields stands in a relation to the problems that the step adds to
those noted before. -/
def Tells (step : Loading α) (R : List Diagnostic → α → Prop) : Prop :=
  ∀ noted result after, step.run noted = .ok (result, after) →
    ∃ added, after = noted ++ added ∧ R added result

theorem Tells.pure {a : α} (h : R [] a) : Tells (Pure.pure a) R := by
  intro noted result after hrun
  cases hrun
  exact ⟨[], (List.append_nil _).symm, h⟩

/-- A step that stops tells nothing. -/
theorem Tells.throw (cause : LoadError) : Tells (MonadExcept.throw cause : Loading α) R := by
  intro noted result after hrun
  cases hrun

theorem Tells.note {R : List Diagnostic → Unit → Prop} {diagnostic : Diagnostic}
    (h : R [diagnostic] ()) : Tells (note diagnostic) R := by
  intro noted result after hrun
  cases hrun
  exact ⟨[diagnostic], rfl, h⟩

theorem Tells.mono {T : List Diagnostic → α → Prop} {step : Loading α} (h : Tells step R)
    (himp : ∀ added a, R added a → T added a) : Tells step T := by
  intro noted result after hrun
  obtain ⟨added, hadded, hrelated⟩ := h noted result after hrun
  exact ⟨added, hadded, himp added result hrelated⟩

/-- What a step and the one that follows add together is related to what the latter yields. -/
theorem Tells.bind {step : Loading α} {next : α → Loading β} (h : Tells step R)
    (hnext : ∀ added a, R added a → Tells (next a) fun more b => S (added ++ more) b) :
    Tells (step >>= next) S := by
  intro noted result after hrun
  rw [StateT.run_bind] at hrun
  cases hstep : step.run noted with
  | error cause =>
    rw [hstep] at hrun
    cases hrun
  | ok outcome =>
    obtain ⟨a, between⟩ := outcome
    rw [hstep] at hrun
    obtain ⟨added, rfl, hrelated⟩ := h noted a between hstep
    obtain ⟨more, rfl, hresult⟩ := hnext added a hrelated _ result after hrun
    exact ⟨added ++ more, List.append_assoc _ _ _, hresult⟩

/-- What is made of the result of a step at once adds nothing. -/
theorem Tells.map {step : Loading α} {f : α → β} (h : Tells step R)
    (hf : ∀ added a, R added a → S added (f a)) : Tells (step >>= fun a => Pure.pure (f a)) S := by
  refine h.bind fun added a hrelated => .pure ?_
  rw [List.append_nil]
  exact hf added a hrelated

/-- A problem is noted and something is yielded all the same. -/
theorem Tells.noting {diagnostic : Diagnostic} {a : α} (h : R [diagnostic] a) :
    Tells (do Loading.note diagnostic; return a) R := by
  refine Tells.bind (Tells.note (R := fun added _ => added = [diagnostic]) rfl) ?_
  rintro _ _ rfl
  exact .pure h

/-- Two things that are told of a step are told of the same problems. -/
theorem Tells.and {T : List Diagnostic → α → Prop} {step : Loading α} (h : Tells step R)
    (h' : Tells step T) : Tells step fun added a => R added a ∧ T added a := by
  intro noted result after hrun
  obtain ⟨added, rfl, hrelated⟩ := h noted result after hrun
  obtain ⟨more, heq, hrelated'⟩ := h' noted result _ hrun
  rw [List.append_cancel_left heq] at hrelated ⊢
  exact ⟨more, rfl, hrelated, hrelated'⟩

/-- What a step yields follows from what it tells. -/
theorem Tells.yields {P : α → Prop} {step : Loading α} (h : Tells step R)
    (himp : ∀ added a, R added a → P a) : Yields step P := by
  intro noted result after hrun
  obtain ⟨added, -, hrelated⟩ := h noted result after hrun
  exact himp added result hrelated

/-- What a step tells and what it yields hold of the same result. -/
theorem Tells.and_yields {P : α → Prop} {step : Loading α} (h : Tells step R)
    (hyields : Yields step P) : Tells step fun added a => R added a ∧ P a := by
  intro noted result after hrun
  obtain ⟨added, rfl, hrelated⟩ := h noted result after hrun
  exact ⟨added, rfl, hrelated, hyields noted result _ hrun⟩

/-! ## Lists -/

/-- Something is related to some of the problems that were added. -/
def Within (R : List Diagnostic → α → Prop) (added : List Diagnostic) (a : α) : Prop :=
  ∃ part, part ⊆ added ∧ R part a

theorem Within.mono {added more : List Diagnostic} {a : α} (h : Within R added a)
    (hsub : added ⊆ more) : Within R more a := by
  obtain ⟨part, hpart, hrelated⟩ := h
  exact ⟨part, List.Subset.trans hpart hsub, hrelated⟩

/-- Mapping a step over a list yields one result for each entry, in their order, each related to
some of what was added. -/
theorem Tells.mapM {R : α → List Diagnostic → β → Prop} {f : α → Loading β} {entries : List α}
    (h : ∀ a ∈ entries, Tells (f a) (R a)) : Tells (entries.mapM f) fun added results =>
      List.Forall₂ (fun a => Within (R a) added) entries results := by
  induction entries with
  | nil => exact .pure .nil
  | cons entry rest ih =>
    rw [List.mapM_cons]
    refine (h entry List.mem_cons_self).bind fun added b hb => ?_
    refine (ih fun a ha => h a (List.mem_cons_of_mem _ ha)).bind fun more results hrest => .pure ?_
    rw [List.append_nil]
    refine .cons ⟨added, List.subset_append_left _ _, hb⟩ ?_
    exact hrest.imp fun _ _ hrelated => hrelated.mono (List.subset_append_right _ _)

/-- A filtering map keeps what is found for the entries, in their order. -/
theorem Tells.filterMapM {R : α → List Diagnostic → Option β → Prop} {f : α → Loading (Option β)}
    {entries : List α} (h : ∀ a ∈ entries, Tells (f a) (R a)) :
    Tells (entries.filterMapM f) fun added kept => ∃ found : List (Option β),
      kept = found.reduceOption ∧ List.Forall₂ (fun a => Within (R a) added) entries found := by
  induction entries with
  | nil => exact .pure ⟨[], rfl, .nil⟩
  | cons entry rest ih =>
    rw [List.filterMapM_cons]
    have hrest := ih fun a ha => h a (List.mem_cons_of_mem _ ha)
    refine (h entry List.mem_cons_self).bind fun added found? hfound => ?_
    have hmore (more : List Diagnostic) (found : List (Option β))
        (hrelated : List.Forall₂ (fun a => Within (R a) more) rest found) :
        List.Forall₂ (fun a => Within (R a) (added ++ more)) (entry :: rest) (found? :: found) :=
      .cons ⟨added, List.subset_append_left _ _, hfound⟩
        (hrelated.imp fun _ _ hwithin => hwithin.mono (List.subset_append_right _ _))
    cases found? with
    | none =>
      refine hrest.mono ?_
      rintro more _ ⟨found, rfl, hrelated⟩
      exact ⟨none :: found, (List.reduceOption_cons_of_none _).symm, hmore more found hrelated⟩
    | some b =>
      refine hrest.map ?_
      rintro more _ ⟨found, rfl, hrelated⟩
      exact ⟨some b :: found, (List.reduceOption_cons_of_some _ _).symm, hmore more found hrelated⟩

/-- What every step of a fold keeps, told by the entries gone through so far and the problems added
so far, is told of the fold by all entries. -/
theorem Tells.foldlM {Q : List α → List Diagnostic → β → Prop} {f : β → α → Loading β}
    {entries : List α} {first : β} (hfirst : Q [] [] first)
    (hstep : ∀ before a added b, before ++ [a] <+: entries → Q before added b →
      Tells (f b a) fun more => Q (before ++ [a]) (added ++ more)) :
    Tells (entries.foldlM f first) (Q entries) := by
  suffices hloop : ∀ (later before : List α) (added : List Diagnostic) (b : β),
      before ++ later = entries → Q before added b →
        Tells (later.foldlM f b) fun more => Q entries (added ++ more) from
    hloop entries [] [] first rfl hfirst
  intro later
  induction later with
  | nil =>
    rintro before added b rfl hb
    exact .pure (by rwa [List.append_nil, List.append_nil])
  | cons a rest ih =>
    intro before added b hall hb
    rw [List.append_cons] at hall
    rw [List.foldlM_cons]
    refine (hstep before a added b ⟨rest, hall⟩ hb).bind fun more c hc => ?_
    refine (ih (before ++ [a]) (added ++ more) c hall hc).mono fun last d hd => ?_
    rwa [List.append_assoc] at hd

/-! ## All that is noted -/

/-- Whatever a step yields stands in a relation to every list of problems that has all those in it
that the step adds. -/
def Shows (step : Loading α) (P : List Diagnostic → α → Prop) : Prop :=
  Tells step fun added a => ∀ all, added ⊆ all → P all a

theorem Shows.pure {P : List Diagnostic → α → Prop} {a : α} (h : ∀ all, P all a) :
    Shows (Pure.pure a) P := Tells.pure fun all _ => h all

/-- What a step yields can be shown of whatever was noted. -/
theorem Shows.of_tells {P : α → Prop} {step : Loading α} (h : Tells step fun _ => P) :
    Shows step fun _ => P := h.mono fun _ _ ha _ _ => ha

/-- What a step shows is at hand for what follows. -/
theorem Shows.bind {P : List Diagnostic → α → Prop} {Q : List Diagnostic → β → Prop}
    {step : Loading α} {next : α → Loading β} (h : Shows step P)
    (hnext : ∀ a, Shows (next a) fun all b => P all a → Q all b) : Shows (step >>= next) Q := by
  refine Tells.bind h fun added a ha => (hnext a).mono fun more b hb all hall => ?_
  obtain ⟨hadded, hmore⟩ := List.append_subset.mp hall
  exact hb all hmore (ha all hadded)

/-- What is told of one step of a list is shown of all of them. -/
theorem Shows.mapM {P : α → List Diagnostic → β → Prop} {f : α → Loading β} {entries : List α}
    (h : ∀ a ∈ entries, Shows (f a) (P a)) :
    Shows (entries.mapM f) fun all results => List.Forall₂ (fun a => P a all) entries results :=
  (Tells.mapM h).mono fun _ _ hrelated _ hall => hrelated.imp fun _ _ ⟨_, hpart, hshown⟩ =>
    hshown _ (List.Subset.trans hpart hall)

theorem Shows.filterMapM {P : α → List Diagnostic → Option β → Prop} {f : α → Loading (Option β)}
    {entries : List α} (h : ∀ a ∈ entries, Shows (f a) (P a)) :
    Shows (entries.filterMapM f) fun all kept => ∃ found : List (Option β),
      kept = found.reduceOption ∧ List.Forall₂ (fun a => P a all) entries found := by
  refine (Tells.filterMapM h).mono ?_
  rintro added kept ⟨found, hkept, hrelated⟩ all hall
  exact ⟨found, hkept, hrelated.imp fun _ _ ⟨_, hpart, hshown⟩ =>
    hshown all (List.Subset.trans hpart hall)⟩

/-! ## Steps that were taken -/

/-- A step was taken and yielded something, and what it noted is among some problems. -/
def Taken (step : Loading α) (all : List Diagnostic) (a : α) : Prop :=
  ∃ noted added, step.run noted = .ok (a, noted ++ added) ∧ added ⊆ all

/-- A step that only adds to the problems is shown to have been taken. -/
theorem Tells.taken {step : Loading α} (h : Tells step R) : Shows step (Taken step) := by
  intro noted result after hrun
  obtain ⟨added, rfl, -⟩ := h noted result after hrun
  exact ⟨added, rfl, fun _ hall => ⟨noted, added, hrun, hall⟩⟩

theorem Taken.yields {step : Loading α} {all : List Diagnostic} {a : α} {P : α → Prop}
    (h : Taken step all a) (hyields : Yields step P) : P a := by
  obtain ⟨noted, added, hrun, -⟩ := h
  exact hyields noted a _ hrun

theorem Taken.tells {step : Loading α} {all : List Diagnostic} {a : α} (h : Taken step all a)
    (htells : Tells step R) : Within R all a := by
  obtain ⟨noted, added, hrun, hall⟩ := h
  obtain ⟨more, heq, hrelated⟩ := htells noted a _ hrun
  exact ⟨more, List.append_cancel_left heq ▸ hall, hrelated⟩

theorem Taken.shows {step : Loading α} {all : List Diagnostic} {a : α}
    {P : List Diagnostic → α → Prop} (h : Taken step all a) (hshows : Shows step P) : P all a := by
  obtain ⟨part, hpart, hshown⟩ := h.tells hshows
  exact hshown all hpart

/-! ## What is left out is told -/

/-- An error was noted. -/
def Failed (added : List Diagnostic) : Prop := ∃ diagnostic ∈ added, diagnostic.isError = true

theorem Failed.mono {added more : List Diagnostic} (h : Failed added) (hsub : added ⊆ more) :
    Failed more := by
  obtain ⟨diagnostic, hmem, herror⟩ := h
  exact ⟨diagnostic, hsub hmem, herror⟩

theorem Failed.append_right {added : List Diagnostic} (h : Failed added)
    (more : List Diagnostic) : Failed (added ++ more) := h.mono (List.subset_append_left _ _)

theorem Failed.append_left {more : List Diagnostic} (h : Failed more) (added : List Diagnostic) :
    Failed (added ++ more) := h.mono (List.subset_append_right _ _)

/-- A step finds what is meant, unless it notes an error. -/
def Answers (step : Loading (Option α)) (meant : Option α) : Prop :=
  Tells step fun added found? => found? = meant ∧ meant.isSome = true ∨ Failed added

variable {step : Loading (Option α)} {meant : Option α}

theorem Answers.found (a : α) : Answers (Pure.pure (some a)) (some a) := .pure (.inl ⟨rfl, rfl⟩)

/-- Whatever is meant, an error may be noted in its place. -/
theorem Answers.error (message : String) :
    Answers (do note (.error message); return none) meant :=
  Tells.noting (.inr ⟨_, List.mem_singleton_self _, rfl⟩)

theorem Answers.map {f : α → β} (h : Answers step meant) :
    Answers (do return (← step).map f) (meant.map f) := by
  refine Tells.map h ?_
  rintro added found? (⟨rfl, hsome⟩ | hfailed)
  · exact .inl ⟨rfl, by rwa [Option.isSome_map]⟩
  · exact .inr hfailed

/-- What follows a step finds what is meant if what the step was to find was found. -/
theorem Answers.bind {next : Option α → Loading (Option β)} {result : Option β}
    (h : Answers step meant) (hnext : ∀ a, meant = some a → Answers (next (some a)) result)
    (hlost : ∀ found?, Tells (next found?) fun _ _ => True) : Answers (step >>= next) result := by
  refine Tells.bind h ?_
  rintro added found? (⟨rfl, hsome⟩ | hfailed)
  · obtain ⟨a, rfl⟩ := Option.isSome_iff_exists.mp hsome
    refine (hnext a rfl).mono fun more found? hfound => ?_
    exact hfound.imp id fun hfailed => hfailed.append_left added
  · exact (hlost found?).mono fun more _ _ => .inr (hfailed.append_right more)

/-- Two steps of which both have to find what is meant. -/
theorem Answers.both {γ : Type} {other : Loading (Option β)} {meant' : Option β} {f : α → β → γ}
    (h : Answers step meant) (h' : Answers other meant') :
    Answers (do
      let found? ← step
      let other? ← other
      return found?.bind fun a => other?.map (f a)) (meant.bind fun a => meant'.map (f a)) := by
  refine h.bind (fun a ha => ?_) fun found? => Tells.map h' fun _ _ _ => trivial
  rw [ha, Option.bind_some]
  exact h'.map

/-- A step before that notes nothing. -/
theorem Answers.after {before : Loading β} {next : β → Loading (Option α)} {P : β → Prop}
    (h : Tells before fun added b => added = [] ∧ P b)
    (hnext : ∀ b, P b → Answers (next b) meant) : Answers (before >>= next) meant := by
  refine Tells.bind h ?_
  rintro added b ⟨rfl, hb⟩
  exact hnext b hb

/-- All that is meant is kept by a filtering map, in order, unless an error is noted. -/
theorem Answers.filterMapM {f : α → Loading (Option β)} {meaning : α → Option β} {entries : List α}
    (h : ∀ a ∈ entries, Answers (f a) (meaning a)) : Tells (entries.filterMapM f) fun added kept =>
      kept.map some = entries.map meaning ∨ Failed added := by
  refine (Tells.filterMapM h).mono ?_
  rintro added kept ⟨found, rfl, hfound⟩
  by_cases hfailed : Failed added
  · exact .inr hfailed
  refine .inl ?_
  clear h
  induction hfound with
  | nil => rfl
  | cons hfirst _ ih =>
    obtain ⟨part, hpart, ⟨rfl, hsome⟩ | hbad⟩ := hfirst
    · obtain ⟨b, hb⟩ := Option.isSome_iff_exists.mp hsome
      rw [List.map_cons, hb, List.reduceOption_cons_of_some, List.map_cons, ih]
    · exact absurd (hbad.mono hpart) hfailed

end Adventure.Loading
