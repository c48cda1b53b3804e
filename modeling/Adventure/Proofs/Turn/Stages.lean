import Adventure.Proofs.Turn.Handlers
import Adventure.Turn.Plan

/-!
# How a turn ends

The stages before the handler change nothing but the command that waits, and the stages after it are
never refused. So a turn in which some stage is refused has changed nothing else, and any other turn
has made a copy at most before what it changed.
-/

namespace Adventure

namespace World

variable {world changed : World}

/-! ## Events -/

theorem attempt_ok {change : Except WorldError World}
    (h : world.attempt change = (changed, .ok ())) : change = .ok changed := by
  cases change with
  | ok result => cases h; rfl
  | error refusal => cases h

/-- Actions are done to a copy of the world, so that the world stays as it is if one is refused. -/
theorem tryApplyAll_eq (world : World) (actions : List Action) :
    world.tryApplyAll actions = world.attempt (world.applyAll actions) := by
  unfold applyAll tryApplyAll
  obtain ⟨left, refusal | done⟩ := world.applyEach actions <;> rfl

theorem applyAll_cons_eq (world : World) (action : Action) (rest : List Action) :
    world.applyAll (action :: rest) =
      match world.apply action with
      | (_, .error refusal) => .error refusal
      | (changed, .ok ()) => changed.applyAll rest := by
  unfold applyAll tryApplyAll
  rw [applyEach]
  obtain ⟨changed, refusal | done⟩ := world.apply action
  · rfl
  · dsimp only
    obtain ⟨left, refusal | done⟩ := changed.applyEach rest <;> rfl

/-- Actions that are all done: the first one is done, and then the others. -/
theorem applyAll_cons {action : Action} {rest : List Action}
    (h : world.applyAll (action :: rest) = .ok changed) :
    ∃ between, world.apply action = (between, .ok ()) ∧ between.applyAll rest = .ok changed := by
  rw [applyAll_cons_eq] at h
  split at h
  · cases h
  · rename_i between happly
    exact ⟨between, happly, h⟩

/-- An action that is done is a number of changes. -/
theorem evolves_apply {action : Action} (hin : action.In world.scope)
    (h : world.apply action = (changed, .ok ())) : world.Evolves changed := by
  cases action with
  | destroyItem item => exact .single (.destroy (map_accepted_eq_ok_iff.mpr h))
  | moveItem item destination => exact .single (.insert (map_accepted_eq_ok_iff.mpr h))
  | giveItem item =>
    simp only [apply] at h
    split at h
    · exact .single (.insert (map_accepted_eq_ok_iff.mpr h))
    · cases h
      exact .refl world
  | replaceItem outgoing incoming =>
    simp only [apply] at h
    split at h
    · cases h
    · rename_i destroyed hdestroy
      have hfirst : world.Evolves destroyed :=
        .single (.destroy (map_accepted_eq_ok_iff.mpr hdestroy))
      split at h
      · exact hfirst.step (.insert (map_accepted_eq_ok_iff.mpr h))
      · cases h
        exact hfirst
  | setPlayerAttribute flag on =>
    cases h
    exact .single (.player (.assign flag on))
  | setLocationAttribute location flag on =>
    simp only [apply] at h
    split at h <;> cases h
    exact .single (.setTarget on (.location location flag))
  | setItemAttribute item flag on =>
    simp only [apply] at h
    split at h <;> cases h
    exact .single (.setTarget on (.item item flag))
  | linkDirection location direction destination =>
    have hrelink := attempt_ok h
    unfold relink at hrelink
    split at hrelink <;> cases hrelink
    exact .single (.location (.relink hin.2))
  | describeLocation location extension =>
    simp only [apply] at h
    split at h <;> cases h
    exact .single (.location (.describe hin.2))
  | movePlayer location =>
    simp only [apply] at h
    split at h <;> cases h
    exact .single (.moveTo hin)

/-- Actions that are all done are a number of changes. -/
theorem evolves_applyAll {actions : List Action} (hin : ∀ action ∈ actions, action.In world.scope)
    (h : world.applyAll actions = .ok changed) : world.Evolves changed := by
  induction actions generalizing world with
  | nil =>
    cases h
    exact .refl _
  | cons action rest ih =>
    obtain ⟨hfirst, hlater⟩ := List.forall_mem_cons.mp hin
    obtain ⟨between, happly, hrest⟩ := applyAll_cons h
    have hevolves := evolves_apply hfirst happly
    refine hevolves.trans (ih (fun later hmem => ?_) hrest)
    exact (hlater later hmem).mono hevolves.scope_sub

/-! ## Death -/

/-- An item that is laid down is taken off and put into the location, unless that refuses it. -/
theorem layDown_keeps {P : World → Prop} {location : LocationId} {key : ItemKey}
    (hoff : P (world.modifyItem key (·.withWorn false)))
    (hput : ∀ laid, (world.modifyItem key (·.withWorn false)).insert (.location location) key =
      .ok laid → P laid) : P (layDown location world key) := by
  rw [layDown, tryInsert_eq]
  exact attempt_keeps hoff hput

/-- Laying an item down is a number of changes, even if the location refuses it. -/
theorem evolves_layDown (location : LocationId) (world : World) (key : ItemKey) :
    world.Evolves (layDown location world key) := by
  have hoff : world.Change (world.modifyItem key (·.withWorn false)) := .wear key false
  exact layDown_keeps (.single hoff) fun laid hinsert =>
    (Evolves.single hoff).step (.insert hinsert)

/-- Laying everything down that is carried is a number of changes. -/
theorem evolves_scatter (world : World) : world.Evolves world.scatter := by
  unfold scatter
  exact List.foldlRecOn world.carried _ (Evolves.refl world)
    fun laid hlaid key _ => hlaid.trans (evolves_layDown _ laid key)

/-- The world after it was looked whether the player lives. If not, everything that was carried is
laid down and no command waits. -/
def mourned (world : World) : World :=
  if world.player.alive then world else world.scatter.modifyPlayer (·.forget)

theorem evolves_mourned (world : World) : world.Evolves world.mourned := by
  unfold mourned
  split
  · exact .refl _
  · exact world.evolves_scatter.step (.player .forget)

end World

/-! ## Stages after the handler -/

/-- What an event reports that has fired. -/
def Event.report (event : Event) (world : World) (args : List Arg) : Report :=
  { success := true
    template := event.outcome.text
    values := if event.outcome.text.isEmpty then [] else args.map world.argText
    next := args
    overrides := !event.outcome.text.isEmpty }

namespace Stage

/-- A stage that is never refused and does no more than a turn may do. -/
def Closes (stage : Stage) : Prop :=
  ∀ turn command args, turn.world.Closed →
    (stage turn command args).2.success = true ∧
      turn.world.Evolves (stage turn command args).1.world

theorem closes_postVision : Closes postVision := by
  intro turn command args hclosed
  unfold postVision
  simp only []
  split
  · exact ⟨rfl, .refl _⟩
  · exact ⟨rfl, turn.world.evolves_lookAround true⟩

/-- The stage that looks for events does nothing if no event is ready, or if the one that is cannot
be done as a whole. Otherwise that event fires: its actions are done, its points are awarded, it is
noted, and the player dies if it kills. -/
theorem events_cases (turn : Turn) (command : Command) (args : List Arg) :
    let world := turn.world
    let ready := world.readyEvent? (world.eventKey command.id args)
    events turn command args = (turn, .silent args) ∧
        (∀ id event, ready = some id → world.event? id = some event →
          ∀ done, world.applyAll event.outcome.actions ≠ .ok done) ∨
      ∃ id event done, ready = some id ∧ world.event? id = some event ∧
        world.applyAll event.outcome.actions = .ok done ∧
        let fired := (done.award event.outcome.score).markFired id
        let dies := event.attributes.has EventFlags.killsPlayer && !fired.player.isImmune
        let final := if dies then fired.modifyPlayer (·.die) else fired
        events turn command args =
          ({ turn with
              world := final
              deathNarrated := turn.deathNarrated || dies && !event.outcome.text.isEmpty },
            event.report final args) := by
  unfold events
  dsimp only
  cases hready : turn.world.readyEvent? (turn.world.eventKey command.id args) with
  | none => exact .inl ⟨rfl, by rintro _ _ ⟨⟩⟩
  | some id =>
    cases hevent : turn.world.event? id with
    | none =>
      refine .inl ⟨by simp only [hevent], ?_⟩
      rintro _ _ ⟨⟩ hother
      cases hevent.symm.trans hother
    | some event =>
      simp only [hevent, World.tryApplyAll_eq]
      cases happly : turn.world.applyAll event.outcome.actions with
      | error refusal =>
        refine .inl ⟨rfl, ?_⟩
        rintro _ _ ⟨⟩ hother done hdone
        cases hevent.symm.trans hother
        cases happly.symm.trans hdone
      | ok done =>
        refine .inr ⟨id, event, done, rfl, hevent, happly, ?_⟩
        unfold Event.report
        dsimp only [World.attempt]
        cases htext : event.outcome.text.isEmpty with
        | true =>
          rw [String.isEmpty_iff.mp htext]
          rfl
        | false => rfl

theorem closes_events : Closes events := by
  intro turn command args hclosed
  rcases events_cases turn command args with
    ⟨hsilent, -⟩ | ⟨id, event, done, -, hevent, hdone, hfires⟩
  · rw [hsilent]
    exact ⟨rfl, .refl _⟩
  · rw [hfires]
    have hactions := World.evolves_applyAll (hclosed.events id event hevent).actions hdone
    have hfired : turn.world.Evolves ((done.award event.outcome.score).markFired id) :=
      (hactions.step (.player (.award _))).step (.fire id)
    refine ⟨rfl, ?_⟩
    dsimp only
    split
    · exact hfired.step .die
    · exact hfired

/-- The last stage is never refused, and mourns a player who died. -/
theorem life_eq (turn : Turn) (command : Command) (args : List Arg) :
    (life turn command args).2.success = true ∧
      (life turn command args).1.world = turn.world.mourned := by
  unfold life World.mourned
  split <;> exact ⟨rfl, rfl⟩

end Stage

/-! ## Whole turns -/

/-- What the stages of a turn report, up to the first that is refused. -/
def stageReports (command : Command) : List Stage → Turn → List Arg → List Report
  | [], _, _ => []
  | stage :: rest, turn, args =>
    let (turn, report) := stage turn command args
    report :: if report.success then stageReports command rest turn report.next else []

/-- The answer of a turn is made of these reports. -/
theorem runStages_said (command : Command) (stages : List Stage) (turn : Turn) (args : List Arg)
    (said : List String) :
    (runStages command stages turn args said).2 =
      (stageReports command stages turn args).foldl
        (fun said report => report.addTo said) said := by
  induction stages generalizing turn args said with
  | nil => rfl
  | cons stage rest ih =>
    simp only [runStages, stageReports, List.foldl_cons]
    split
    · exact ih _ _ _
    · rfl

/-- The turn and the arguments that stages hand on, unless one of them is refused. -/
def passStages? (command : Command) : List Stage → Turn → List Arg → Option (Turn × List Arg)
  | [], turn, args => some (turn, args)
  | stage :: rest, turn, args =>
    let (turn, report) := stage turn command args
    if report.success then passStages? command rest turn report.next else none

section Passing

variable {command : Command} {first : List Stage} {turn passed : Turn} {args next : List Arg}

/-- Stages that are refused end the turn. -/
theorem runStages_append_of_stops (h : passStages? command first turn args = none)
    (rest : List Stage) (said : List String) :
    runStages command (first ++ rest) turn args said = runStages command first turn args said := by
  induction first generalizing turn args said with
  | nil => cases h
  | cons stage others ih =>
    simp only [passStages?] at h
    simp only [List.cons_append, runStages]
    split
    · rename_i hsuccess
      rw [if_pos hsuccess] at h
      exact ih h _
    · rfl

/-- Stages that are not refused hand on to those that follow. -/
theorem runStages_append_of_passes (h : passStages? command first turn args = some (passed, next))
    (rest : List Stage) (said : List String) :
    ∃ later, runStages command (first ++ rest) turn args said =
      runStages command rest passed next later := by
  induction first generalizing turn args said with
  | nil =>
    cases h
    exact ⟨said, rfl⟩
  | cons stage others ih =>
    simp only [passStages?] at h
    split at h
    · rename_i hsuccess
      simp only [List.cons_append, runStages, hsuccess, if_true]
      exact ih h _
    · cases h

/-- Stages that follow others are passed after these. -/
theorem passStages?_append (first rest : List Stage) (turn : Turn) (args : List Arg) :
    passStages? command (first ++ rest) turn args =
      (passStages? command first turn args).bind fun (turn, args) =>
        passStages? command rest turn args := by
  induction first generalizing turn args with
  | nil => rfl
  | cons stage others ih =>
    simp only [List.cons_append, passStages?]
    split
    · exact ih _ _
    · rfl

/-- If neither they nor those that follow are refused, no stage is. -/
theorem success_append_of_passes {rest : List Stage}
    (h : passStages? command first turn args = some (passed, next))
    (hrest : ∀ report ∈ stageReports command rest passed next, report.success = true) :
    ∀ report ∈ stageReports command (first ++ rest) turn args, report.success = true := by
  induction first generalizing turn args with
  | nil =>
    cases h
    exact hrest
  | cons stage others ih =>
    simp only [passStages?] at h
    split at h
    · rename_i hsuccess
      simp only [List.cons_append, stageReports, hsuccess, if_true]
      exact List.forall_mem_cons.mpr ⟨hsuccess, ih h⟩
    · cases h

end Passing

namespace Command

/-- The stages before the handler. -/
def preparing (command : Command) : List Stage :=
  (if command.attributes.has CommandFlags.requiresVision then [Stage.requireVision] else []) ++
    [Stage.resolverOf command]

/-- The stages between the handler and the last one. -/
def closing (command : Command) : List Stage :=
  (if command.attributes.has CommandFlags.postVision then [Stage.postVision] else []) ++
    [Stage.events]

theorem stages_eq (command : Command) : command.stages =
    (command.preparing ++ command.chosenHandler.stage :: command.closing) ++ [Stage.life] := by
  simp [stages, preparing, closing]

/-- All stages but the last. -/
theorem dropLast_stages (command : Command) : command.stages.dropLast =
    command.preparing ++ command.chosenHandler.stage :: command.closing := by
  rw [stages_eq, List.dropLast_concat]

theorem closes_of_mem_closing (command : Command) :
    ∀ stage ∈ command.closing, stage.Closes := by
  intro stage hstage
  rcases List.mem_append.mp hstage with hpost | hevents
  · split at hpost
    · rw [List.mem_singleton.mp hpost]
      exact Stage.closes_postVision
    · cases hpost
  · rw [List.mem_singleton.mp hevents]
    exact Stage.closes_events

end Command

namespace Turn

variable (turn : Turn) (command : Command) (args : List Arg)

/-- The turn and the arguments as they get to the handler, if they do. -/
def prepared? : Option (Turn × List Arg) := passStages? command command.preparing turn args

/-- The world right after the handler has carried the command out, if it does. -/
def acted? : Option World :=
  (turn.prepared? command args).bind fun (turn, args) =>
    let (turn, report) := command.chosenHandler.stage turn command args
    if report.success then some turn.world else none

/-- The world as it gets to the last stage, which looks whether the player lives. -/
def reckoned? : Option World :=
  (passStages? command command.stages.dropLast turn args).map fun (turn, _) => turn.world

/-- The item of which the handler makes a copy, if it makes one. -/
def model? : Option ItemKey :=
  (turn.prepared? command args).bind fun (turn, args) =>
    command.chosenHandler.model? turn command args

/-- What stages do that come before the handler. -/
inductive Readies (stages : List Stage) (said : List String) : Prop
  /-- One of them is refused, and nothing has changed but the command that waits. -/
  | stops (pending : Pending) (hstops : passStages? command stages turn args = none)
      (hworld : (runStages command stages turn args said).1.world =
        turn.world.modifyPlayer fun p => { p with pending })
      (hpending : turn.Leaves command args pending) : Readies stages said
  /-- No command waits any longer, and the arguments that are handed on can be acted on. -/
  | passes {passed : Turn} {next : List Arg}
      (hpasses : passStages? command stages turn args = some (passed, next))
      (hforget : passed.world = turn.world.modifyPlayer (·.forget))
      (hfit : turn.world.ArgsFit next) : Readies stages said

/-- How a turn may leave the world. -/
inductive Ends (final : World) : Prop
  /-- Some stage is refused, and nothing has changed but the command that waits. -/
  | refused (pending : Pending)
      (hfinal : final = turn.world.modifyPlayer fun p => { p with pending })
      (hpending : turn.Leaves command args pending) (hacted : turn.acted? command args = none)
      (hmodel : turn.model? command args = none) : Ends final
  /-- No stage is refused, and the command is carried out with no other one waiting. -/
  | completed {acted : World}
      (hreports : ∀ report ∈ stageReports command command.stages turn args, report.success = true)
      (hacted : turn.acted? command args = some acted)
      (hcarries : (turn.world.modifyPlayer (·.forget)).Carries (turn.model? command args) acted)
      (hevolves : acted.Evolves final)
      (hreckons : ∃ reckoned, turn.reckoned? command args = some reckoned ∧
        acted.Evolves reckoned ∧ final = reckoned.mourned) : Ends final

end Turn

namespace World

variable {world changed : World} {model : Option ItemKey}

/-- A copy that was put somewhere was made first and inserted then. -/
theorem Carries.cases (h : world.Carries model changed) :
    world.Evolves changed ∨ ∃ holder key copy copied, world.copyItem key = .ok (copied, copy) ∧
      copied.insert holder copy = .ok changed := by
  cases model with
  | none => exact .inl h
  | some key =>
    obtain ⟨holder, copy, hmade⟩ := h
    obtain ⟨copied, hcopy, hinsert⟩ := copyInto_ok hmade
    exact .inr ⟨holder, key, copy, copied, hcopy, hinsert⟩

theorem Carries.setting (h : world.Carries model changed) : changed.setting = world.setting := by
  rcases h.cases with hevolves | ⟨holder, key, copy, copied, hcopy, hinsert⟩
  · exact hevolves.setting
  · exact (setting_insert hinsert).trans (setting_copyItem hcopy)

theorem Carries.closed (h : world.Carries model changed) (hclosed : world.Closed) :
    changed.Closed := by
  rcases h.cases with hevolves | ⟨holder, key, copy, copied, hcopy, hinsert⟩
  · exact hevolves.closed hclosed
  · exact (hclosed.copyItem hcopy).insert hinsert

theorem Carries.exclusive (h : world.Carries model changed) (hexclusive : world.Exclusive) :
    changed.Exclusive := by
  rcases h.cases with hevolves | ⟨holder, key, copy, copied, hcopy, hinsert⟩
  · exact hevolves.exclusive hexclusive
  · exact (hexclusive.move (.copy hcopy)).move (.insert hinsert)

theorem Carries.own (h : world.Carries model changed) (hown : world.OwnLists) :
    changed.OwnLists := by
  rcases h.cases with hevolves | ⟨holder, key, copy, copied, hcopy, hinsert⟩
  · exact (hevolves.listed hown).1
  · exact (hown.move (.copy hcopy)).move (.insert hinsert)

theorem Carries.idle (h : world.Carries model changed) (hidle : world.player.pending = .idle) :
    changed.player.pending = .idle := by
  rcases h.cases with hevolves | ⟨holder, key, copy, copied, hcopy, hinsert⟩
  · exact hevolves.idle hidle
  · rw [player_insert hinsert, player_copyItem hcopy, hidle]

end World

variable {turn : Turn} (command : Command) (args : List Arg) (said : List String)

/-- Stages after the handler are never refused. -/
theorem closing_passes {stages : List Stage} (hcloses : ∀ stage ∈ stages, Stage.Closes stage)
    (hclosed : turn.world.Closed) :
    ∃ passed next, passStages? command stages turn args = some (passed, next) ∧
      turn.world.Evolves passed.world := by
  induction stages generalizing turn args with
  | nil => exact ⟨turn, args, rfl, .refl _⟩
  | cons stage rest ih =>
    obtain ⟨hsuccess, hevolves⟩ := hcloses stage List.mem_cons_self turn command args hclosed
    obtain ⟨passed, next, hpasses, hlater⟩ := ih (stage turn command args).2.next
      (fun stage hstage => hcloses stage (List.mem_cons_of_mem _ hstage))
      (hevolves.closed hclosed)
    refine ⟨passed, next, ?_, hevolves.trans hlater⟩
    simp only [passStages?, hsuccess, if_true, hpasses]

/-- The stage that finds the arguments ends the turn with nothing changed but the command that
waits, or hands on arguments that can be acted on. -/
theorem readies_resolverOf (hclosed : turn.world.Closed) {id : CommandId}
    (hcommand : turn.world.command? id = some command)
    (hargs : turn.world.FillsFirst command.slots args) :
    turn.Readies command args [Stage.resolverOf command] said := by
  have hprepares := Stage.prepares_resolverOf hclosed hcommand hargs
  cases hsuccess : (Stage.resolverOf command turn command args).2.success with
  | false =>
    obtain ⟨pending, hleaves, hworld⟩ := hprepares.refused hsuccess
    refine .stops pending ?_ ?_ hleaves
    · simp [passStages?, hsuccess]
    · simpa [runStages, hsuccess] using hworld
  | true =>
    obtain ⟨hforget, hfit⟩ := hprepares.passed hsuccess
    exact .passes (by simp [passStages?, hsuccess]) hforget hfit

/-- The stages before the handler end the turn with nothing changed but the command that waits, or
hand on arguments that can be acted on. In the dark, some commands are refused before anything
else. -/
theorem readies_preparing (hclosed : turn.world.Closed) {id : CommandId}
    (hcommand : turn.world.command? id = some command)
    (hargs : turn.world.FillsFirst command.slots args) :
    turn.Readies command args command.preparing said := by
  have hresolves := fun said => readies_resolverOf command args said hclosed hcommand hargs
  unfold Command.preparing
  by_cases hvision : command.attributes.has CommandFlags.requiresVision = true
  · rw [if_pos hvision, List.singleton_append]
    by_cases hsees : turn.world.canSee = true
    · have hguard : Stage.requireVision turn command args = (turn, .silent args) := if_pos hsees
      cases hresolves (Report.addTo (.silent args) said) with
      | stops pending hstops hworld hpending =>
        refine .stops pending ?_ ?_ hpending
        · rwa [passStages?, hguard]
        · rwa [runStages, hguard]
      | passes hpasses hforget hfit =>
        refine .passes ?_ hforget hfit
        rwa [passStages?, hguard]
    · have hguard : Stage.requireVision turn command args =
          (turn, turn.refuse "reject_too_dark" []) := if_neg hsees
      refine .stops turn.world.player.pending ?_ ?_ .dark
      · rw [passStages?, hguard]
        rfl
      · rw [runStages, hguard]
        rfl
  · rw [if_neg hvision, List.nil_append]
    exact hresolves said

/-- A turn either ends with nothing changed but the command that waits, or no stage is refused and
the command is carried out. -/
theorem ends_turn (hclosed : turn.world.Closed) {id : CommandId}
    (hcommand : turn.world.command? id = some command)
    (hargs : turn.world.FillsFirst command.slots args) :
    turn.Ends command args (runStages command command.stages turn args said).1.world := by
  cases readies_preparing command args said hclosed hcommand hargs with
  | stops pending hstops hworld hpending =>
    have hprepared : turn.prepared? command args = none := hstops
    rw [command.stages_eq, List.append_assoc, runStages_append_of_stops hstops]
    exact .refused pending hworld hpending (by simp [Turn.acted?, hprepared])
      (by simp [Turn.model?, hprepared])
  | @passes passed next hpasses hforget hfit =>
    have hprepared : turn.prepared? command args = some (passed, next) := hpasses
    have hready : passed.world.Closed ∧ passed.world.ArgsFit next := by
      rw [hforget]
      exact ⟨World.Change.closed (.player .forget) hclosed, hfit.modifyPlayer _⟩
    have hacts : passed.Acts (command.chosenHandler.model? passed command next)
        (command.chosenHandler.stage passed command next) :=
      command.chosenHandler.acts_stage hready.1 hready.2
    cases hsuccess : (command.chosenHandler.stage passed command next).2.success with
    | false =>
      obtain ⟨later, hrun⟩ := runStages_append_of_passes hpasses
        (command.chosenHandler.stage :: (command.closing ++ [Stage.life])) said
      rw [command.stages_eq, List.append_assoc, List.cons_append, hrun, runStages]
      simp only [hsuccess, Bool.false_eq_true, if_false]
      have hsame := (hacts.refused hsuccess).trans hforget
      have hmodel := command.chosenHandler.model?_of_refused hsuccess
      exact .refused .idle hsame .forgotten (by simp [Turn.acted?, hprepared, hsuccess])
        (by simp [Turn.model?, hprepared, hmodel])
    | true =>
      obtain ⟨closed, last, hcloses, hevolves⟩ := closing_passes command
        (command.chosenHandler.stage passed command next).2.next command.closes_of_mem_closing
        (hacts.carries.closed hready.1)
      have hreaches : passStages? command command.stages.dropLast turn args =
          some (closed, last) := by
        rw [command.dropLast_stages, passStages?_append, hpasses]
        simp only [Option.bind_some, passStages?, hsuccess, if_true, hcloses]
      obtain ⟨hlives, hmourned⟩ := Stage.life_eq closed command last
      obtain ⟨later, hrun⟩ := runStages_append_of_passes hreaches [Stage.life] said
      have hfinal : (runStages command command.stages turn args said).1.world =
          closed.world.mourned := by
        rw [command.stages_eq, ← command.dropLast_stages, hrun]
        simpa only [runStages, hlives, if_true] using hmourned
      rw [hfinal]
      refine .completed ?_ (by simp [Turn.acted?, hprepared, hsuccess]) ?_
        (hevolves.trans closed.world.evolves_mourned)
        ⟨closed.world, by simp [Turn.reckoned?, hreaches], hevolves, rfl⟩
      · rw [command.stages_eq, ← command.dropLast_stages]
        refine success_append_of_passes hreaches ?_
        simpa [stageReports] using hlives
      · have hcarries := hacts.carries
        rw [hforget] at hcarries
        simpa [Turn.model?, hprepared] using hcarries

end Adventure
