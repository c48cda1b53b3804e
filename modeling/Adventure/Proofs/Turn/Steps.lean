import Adventure.Proofs.Turn.Narration
import Mathlib.Data.List.Chain

/-!
# The steps of a turn

A turn goes through its stages one step after the other. Each step takes the turn that the step
before it left and the arguments that this one handed on. The first refusal is the last step, and
without one every stage is taken. What is said in the end are the fragments of the steps, less those
that a later step discarded.
-/

namespace Adventure

/-! ## The fragments that remain -/

namespace Report

/-- The reports from the last that discards what was said before it. If none does, these are all. -/
def lasting : List Report → List Report
  | [] => []
  | report :: rest => if rest.any (·.overrides) then lasting rest else report :: rest

theorem lasting_of_keeps {reports : List Report} (h : reports.any (·.overrides) = false) :
    lasting reports = reports := by
  cases reports with
  | nil => rfl
  | cons report rest =>
    rw [List.any_cons, Bool.or_eq_false_iff] at h
    simp [lasting, h.2]

/-- Report after report, what is said are the fragments of those that remain. -/
theorem foldl_addTo (reports : List Report) (said : List String) :
    reports.foldl (fun said report => report.addTo said) said =
      (if reports.any (·.overrides) then [] else said) ++ (lasting reports).flatMap fragment := by
  induction reports generalizing said with
  | nil => simp [lasting]
  | cons report rest ih =>
    rw [List.foldl_cons, ih, List.any_cons]
    cases hrest : rest.any (·.overrides) with
    | true => simp [lasting, hrest]
    | false =>
      rw [lasting_of_keeps hrest]
      cases hoverrides : report.overrides with
      | true => simp [lasting, hrest, addTo_of_overrides hoverrides]
      | false => simp [lasting, hrest, addTo_of_keeps hoverrides]

theorem flatMap_fragment (reports : List Report) :
    reports.flatMap fragment = (reports.map text).filter (!·.isEmpty) := by
  induction reports with
  | nil => rfl
  | cons report rest ih =>
    rw [List.flatMap_cons, ih, fragment_eq, ← List.filter_append, List.map_cons,
      List.singleton_append]

end Report

/-! ## Steps -/

/-- A step of a turn. -/
structure Step where
  /-- The turn before the step. -/
  before : Turn
  /-- The arguments that the step is given. -/
  args : List Arg
  /-- The turn after the step. -/
  after : Turn
  /-- What the step reports. -/
  report : Report

namespace Stage

/-- The stage takes the step. -/
def Takes (command : Command) (stage : Stage) (step : Step) : Prop :=
  stage step.before command step.args = (step.after, step.report)

/-- The step that a stage takes. -/
def step (stage : Stage) (command : Command) (turn : Turn) (args : List Arg) : Step :=
  ⟨turn, args, (stage turn command args).1, (stage turn command args).2⟩

theorem takes_from_iff {stage : Stage} {command : Command} {turn : Turn} {args : List Arg}
    {taken : Step} : stage.Takes command taken ∧ taken.before = turn ∧ taken.args = args ↔
      taken = stage.step command turn args := by
  constructor
  · rintro ⟨htakes, rfl, rfl⟩
    rw [step, htakes]
  · rintro rfl
    exact ⟨rfl, rfl, rfl⟩

end Stage

/-- The last of the steps is refused. -/
def Step.EndRefused (steps : List Step) : Prop :=
  ∃ step ∈ steps.getLast?, step.report.success = false

theorem Step.endRefused_cons {step : Step} (h : step.report.success = true) (steps : List Step) :
    EndRefused (step :: steps) ↔ EndRefused steps := by
  cases steps with
  | nil => simp [EndRefused, h]
  | cons next others => simp [EndRefused, List.getLast?_cons_cons]

/-- The steps take a turn through the stages. -/
structure Turn.Runs (turn : Turn) (command : Command) (args : List Arg) (stages : List Stage)
    (steps : List Step) : Prop where
  /-- The steps are taken by the first stages, in their order. -/
  taken : List.Forall₂ (Stage.Takes command) (stages.take steps.length) steps
  /-- The first step begins with the turn and the arguments. -/
  first : ∀ step ∈ steps.head?, step.before = turn ∧ step.args = args
  /-- Every other step begins with what the step before it left and handed on. -/
  handed : steps.IsChain fun step next => next.before = step.after ∧ next.args = step.report.next
  /-- No step is refused but the last. -/
  passed : ∀ step ∈ steps.dropLast, step.report.success = true
  /-- If there are stages left, the last step was refused. -/
  ended : steps.length < stages.length → Step.EndRefused steps

/-- The turn that steps leave behind. -/
def Turn.afterSteps (turn : Turn) (steps : List Step) : Turn :=
  (steps.getLast?.map Step.after).getD turn

/-- The steps that a turn goes through, up to the first that is refused. -/
def stageSteps (command : Command) : List Stage → Turn → List Arg → List Step
  | [], _, _ => []
  | stage :: rest, turn, args =>
    let step := stage.step command turn args
    step :: if step.report.success then stageSteps command rest step.after step.report.next else []

section Steps

variable {command : Command} {stage : Stage} {rest : List Stage} {turn : Turn} {args : List Arg}
  {steps : List Step}

theorem map_report_stageSteps (stages : List Stage) (turn : Turn) (args : List Arg) :
    (stageSteps command stages turn args).map Step.report =
      stageReports command stages turn args := by
  induction stages generalizing turn args with
  | nil => rfl
  | cons stage rest ih =>
    simp only [stageSteps, stageReports, List.map_cons, apply_ite (List.map Step.report), ih]
    rfl

theorem Turn.afterSteps_cons (step : Step) (steps : List Step) :
    turn.afterSteps (step :: steps) = step.after.afterSteps steps := by
  cases steps with
  | nil => rfl
  | cons next others => simp [afterSteps, List.getLast?_cons]

/-- The turn that is left in the end is the one that the steps leave. -/
theorem runStages_turn (stages : List Stage) (turn : Turn) (args : List Arg)
    (said : List String) :
    (runStages command stages turn args said).1 =
      turn.afterSteps (stageSteps command stages turn args) := by
  induction stages generalizing turn args said with
  | nil => rfl
  | cons stage rest ih =>
    rw [runStages, stageSteps, Turn.afterSteps_cons]
    cases hsuccess : (stage.step command turn args).report.success with
    | false => exact congrArg Prod.fst (if_neg (ne_true_of_eq_false hsuccess))
    | true => exact (congrArg Prod.fst (if_pos hsuccess)).trans (ih _ _ _)

/-! ## Runs along the list of stages -/

theorem Turn.runs_nil_iff : turn.Runs command args [] steps ↔ steps = [] := by
  constructor
  · intro h
    simpa using h.taken
  · rintro rfl
    exact ⟨by simp, by simp, .nil, by simp, by simp⟩

/-- A turn that has a stage before it does not end without a step. -/
theorem Turn.not_runs_nil : ¬ turn.Runs command args (stage :: rest) [] := by
  intro h
  obtain ⟨_, hnone, _⟩ := h.ended (Nat.succ_pos _)
  cases hnone

/-- A step that is refused is the last one. -/
theorem Turn.runs_cons_of_refused {step : Step} (hrefused : step.report.success = false) :
    turn.Runs command args (stage :: rest) (step :: steps) ↔
      step = stage.step command turn args ∧ steps = [] := by
  rw [← Stage.takes_from_iff]
  constructor
  · intro h
    -- A step that is followed by another one was not refused.
    have hnone : steps = [] := by
      by_contra hsteps
      have hpassed := h.passed step (by rw [List.dropLast_cons_of_ne_nil hsteps]; simp)
      exact Bool.noConfusion (hrefused.symm.trans hpassed)
    subst hnone
    exact ⟨⟨by simpa using h.taken, h.first step rfl⟩, rfl⟩
  · rintro ⟨⟨htakes, hfirst⟩, rfl⟩
    exact ⟨by simpa using htakes, by simpa using hfirst, .singleton step, by simp,
      fun _ => ⟨step, rfl, hrefused⟩⟩

/-- A step that is not refused is followed by the steps of the turn that it leaves. -/
theorem Turn.runs_cons_of_passed {step : Step} (hpassed : step.report.success = true) :
    turn.Runs command args (stage :: rest) (step :: steps) ↔
      step = stage.step command turn args ∧
        step.after.Runs command step.report.next rest steps := by
  rw [← Stage.takes_from_iff]
  constructor
  · intro h
    have htaken : stage.Takes command step ∧
        List.Forall₂ (Stage.Takes command) (rest.take steps.length) steps := by
      simpa using h.taken
    have hhanded := List.isChain_cons.mp h.handed
    refine ⟨⟨htaken.1, h.first step rfl⟩, htaken.2, hhanded.1, hhanded.2, fun later hlater => ?_,
      fun hleft => (Step.endRefused_cons hpassed steps).mp (h.ended (Nat.succ_lt_succ hleft))⟩
    cases steps with
    | nil => cases hlater
    | cons next others => exact h.passed later (List.mem_cons_of_mem step hlater)
  · rintro ⟨⟨htakes, hfirst⟩, h⟩
    refine ⟨by simpa using ⟨htakes, h.taken⟩, by simpa using hfirst,
      List.isChain_cons.mpr ⟨h.first, h.handed⟩, fun earlier hearlier => ?_, fun hleft =>
        (Step.endRefused_cons hpassed steps).mpr (h.ended (Nat.lt_of_succ_lt_succ hleft))⟩
    cases steps with
    | nil => cases hearlier
    | cons next others =>
      rcases List.mem_cons.mp hearlier with rfl | hlater
      · exact hpassed
      · exact h.passed earlier hlater

/-- The steps that take a turn through stages are those that it goes through, and no others. -/
theorem Turn.runs_iff {stages : List Stage} :
    turn.Runs command args stages steps ↔ steps = stageSteps command stages turn args := by
  induction stages generalizing turn args steps with
  | nil => exact Turn.runs_nil_iff
  | cons stage rest ih =>
    cases steps with
    | nil => simp [Turn.not_runs_nil, stageSteps]
    | cons step steps =>
      rw [stageSteps, List.cons.injEq]
      cases hsuccess : step.report.success with
      | false =>
        rw [Turn.runs_cons_of_refused hsuccess]
        refine and_congr_right fun hstep => ?_
        rw [← hstep, hsuccess, if_neg Bool.noConfusion]
      | true =>
        rw [Turn.runs_cons_of_passed hsuccess, ih]
        refine and_congr_right fun hstep => ?_
        rw [← hstep, hsuccess, if_pos rfl]

/-! ## What a run comes to -/

/-- A turn that ends with a refusal does not pass the stages that it has gone through. -/
theorem passStages?_of_endRefused {stages : List Stage}
    (h : Step.EndRefused (stageSteps command stages turn args)) :
    passStages? command (stages.take (stageSteps command stages turn args).length) turn args =
      none := by
  induction stages generalizing turn args with
  | nil =>
    obtain ⟨_, hnone, _⟩ := h
    cases hnone
  | cons stage rest ih =>
    rw [stageSteps] at h ⊢
    rw [List.length_cons, List.take_succ_cons, passStages?]
    cases hsuccess : (stage.step command turn args).report.success with
    | false => exact if_neg (ne_true_of_eq_false hsuccess)
    | true =>
      simp only [hsuccess, if_true] at h ⊢
      exact (if_pos hsuccess).trans (ih ((Step.endRefused_cons hsuccess _).mp h))

/-- The stages that a turn with a refusal at its end does not come to make no difference. -/
theorem runStages_of_endRefused {stages : List Stage}
    (h : Step.EndRefused (stageSteps command stages turn args)) (others : List Stage)
    (said : List String) :
    runStages command (stages.take (stageSteps command stages turn args).length ++ others) turn
      args said = runStages command stages turn args said := by
  have hstops := passStages?_of_endRefused h
  have hall := runStages_append_of_stops hstops
    (stages.drop (stageSteps command stages turn args).length) said
  rw [List.take_append_drop] at hall
  rw [runStages_append_of_stops hstops, hall]

end Steps

/-- **What a turn comes to.** Whatever its stages do, the steps of a turn are fixed: the stages are
taken in their order up to the first refusal, and each is given the turn that the one before it left
and the arguments that this one handed on. The answer is made of the fragments of the steps, from
the last that discards what was said before it: the template of each with its own values in the
places, without those that come out empty. The stages after a refusal make no difference. -/
theorem Turn.run_by_steps (turn : Turn) (command : Command) (stages : List Stage)
    (args : List Arg) :
    ∃ steps, turn.Runs command args stages steps ∧
      (∀ others, turn.Runs command args stages others → others = steps) ∧
      turn.run command stages args =
        (turn.afterSteps steps, (turn.afterSteps steps).config.separator.intercalate
          (((Report.lasting (steps.map Step.report)).map fun report =>
            Text.format report.template report.values).filter (!·.isEmpty))) ∧
      (Step.EndRefused steps → ∀ others,
        turn.run command (stages.take steps.length ++ others) args =
          turn.run command stages args) := by
  refine ⟨stageSteps command stages turn args, Turn.runs_iff.mpr rfl,
    fun others => Turn.runs_iff.mp, ?_, fun hrefused others => ?_⟩
  · simp only [Turn.run, runStages_turn, runStages_said, Report.foldl_addTo,
      Report.flatMap_fragment, map_report_stageSteps, ite_self, List.nil_append]
    rfl
  · simp only [Turn.run, runStages_of_endRefused hrefused]

namespace Stage

/-- Score a point, tell the score and how many arguments there are, and hand on one more. -/
def tally : Stage := fun turn _ args =>
  let scored := turn.modifyPlayer fun player => { player with score := Count.add player.score 1 }
  (scored, .say "\x7b0\x7d for \x7b1\x7d" [toString scored.world.player.score, toString args.length]
    (args ++ [.text "more"]))

/-- Discard what was said, and tell the score. -/
def restart : Stage := fun turn _ args =>
  let report := Report.say "again from \x7b0\x7d" [toString turn.world.player.score] args
  (turn, { report with overrides := true })

/-- Go on without a word. -/
def pause : Stage := fun turn _ args => (turn, .silent args)

/-- Refuse to go on. -/
def giveUp : Stage := fun turn _ args =>
  (turn, .refuse "given up after \x7b0\x7d" [toString args.length])

end Stage

/-- A turn of six stages. The second discards what the first said, the third says nothing, and the
fifth refuses to go on, so that the last is not come to. -/
theorem Turn.run_by_steps_rehearsal :
    let turn := Turn.begin (World.new "theatre" ⟨1⟩) {} "rehearse" []
    let command : Command := { id := ⟨1⟩, name := "rehearse", handler := "help" }
    let stages := [Stage.tally, Stage.restart, Stage.pause, Stage.tally, Stage.giveUp, Stage.tally]
    ∃ steps, turn.Runs command [] stages steps ∧ Step.EndRefused steps ∧
      (steps.map fun step => (step.args.length, step.report.overrides, step.report.text)) =
        [(0, false, "1 for 0"), (1, true, "again from 1"), (1, false, ""), (1, false, "2 for 1"),
          (2, false, "given up after 2")] ∧
      (turn.afterSteps steps).world.player.score = 2 ∧
      turn.run command stages [] =
        (turn.afterSteps steps, "again from 1\n2 for 1\ngiven up after 2") ∧
      ∀ others, turn.run command (stages.take 5 ++ others) [] = turn.run command stages [] := by
  intro turn command stages
  obtain ⟨steps, hruns, -, hanswer, hends⟩ := turn.run_by_steps command stages []
  obtain rfl := Turn.runs_iff.mp hruns
  have hrefused : Step.EndRefused (stageSteps command stages turn []) := ⟨_, rfl, rfl⟩
  refine ⟨_, hruns, hrefused, by decide +kernel, by decide +kernel, ?_, hends hrefused⟩
  rw [hanswer]
  exact congrArg (Prod.mk _) (by decide +kernel)

end Adventure
