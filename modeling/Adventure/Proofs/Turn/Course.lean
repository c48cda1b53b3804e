import Adventure.Proofs.Turn.Deeds
import Adventure.Proofs.Turn.Stages
import Adventure.Proofs.World.Nesting

/-!
# The course of a turn

A turn that is not refused goes through four phases. The handler does its deed, nothing is moved
while the light is reported, at most one event answers the command, and a player who died is
mourned. What a turn comes to is told here phase by phase, with names for the deed that is done and
for the event that fires.
-/

namespace Adventure

namespace World

/-- The event that fires for a key: the one that is ready, if all its actions can be done. -/
def fires? (world : World) (key : EventKey) : Option EventId :=
  (world.readyEvent? key).filter fun id =>
    (world.event? id).any fun event => (world.applyAll event.outcome.actions).toOption.isSome

/-- What an event that is ready makes of a world: its actions are done, its points are awarded, it
is noted, and the player may die. -/
inductive Fires (world : World) (id : EventId) (final : World) : Prop
  | intro {event : Event} {changed : World} (hevent : world.event? id = some event)
      (hready : world.isReady event = true)
      (hdone : world.applyAll event.outcome.actions = .ok changed)
      (hfinal : let fired := (changed.award event.outcome.score).markFired id
        final = fired ∨ final = fired.modifyPlayer (·.die)) : Fires world id final

/-- What becomes of a world while one event fires, or none. -/
def Answers (world : World) : Option EventId → World → Prop
  | none, final => final = world
  | some id, final => world.Fires id final

variable {world changed : World}

/-- An event fires if it is ready and all its actions can be done. -/
theorem fires?_eq_some_iff {key : EventKey} {id : EventId} : world.fires? key = some id ↔
    world.readyEvent? key = some id ∧ ∃ event done, world.event? id = some event ∧
      world.applyAll event.outcome.actions = .ok done := by
  rw [fires?, Option.filter_eq_some_iff]
  refine and_congr_right fun _ => ?_
  cases hevent : world.event? id with
  | none => simp
  | some event =>
    cases hdone : world.applyAll event.outcome.actions with
    | ok done => simp [hdone, Except.toOption]
    | error refusal => simp [hdone, Except.toOption]

/-! ## Nesting -/

/-- Every change keeps items nested. -/
theorem Change.nested (h : Change world changed) (hnested : world.Nested) : changed.Nested := by
  rcases h.moves_or_rests with ⟨holder, key, h⟩ | ⟨key, h⟩ | ⟨hnames, -⟩
  · exact hnested.move (.insert h)
  · exact hnested.move (.destroy h)
  · refine hnested.of_inside fun inner outer hinside => ?_
    unfold Inside at hinside
    rwa [hnames] at hinside

theorem Evolves.nested (h : world.Evolves changed) (hnested : world.Nested) : changed.Nested :=
  h.keeps (fun _ _ hchange hbefore => hchange.nested hbefore) hnested

theorem Carries.nested {model : Option ItemKey} (h : world.Carries model changed)
    (hnested : world.Nested) : changed.Nested := by
  rcases h.cases with hevolves | ⟨holder, key, copy, copied, hcopy, hinsert⟩
  · exact hevolves.nested hnested
  · exact (hnested.move (.copy hcopy)).move (.insert hinsert)

/-- What an event that fires does to things is done by its actions. -/
theorem Fires.stays {id : EventId} (h : world.Fires id changed) :
    ∃ event done, world.event? id = some event ∧ world.applyAll event.outcome.actions = .ok done ∧
      done.Stays changed := by
  obtain ⟨hevent, -, hdone, hfinal⟩ := h
  rename_i event done
  have hawarded : done.Stays (done.award event.outcome.score) := stays_modifyPlayer rfl
  have hfired := hawarded.trans ((done.award event.outcome.score).stays_markFired id)
  refine ⟨event, done, hevent, hdone, ?_⟩
  rcases hfinal with rfl | rfl
  · exact hfired
  · exact hfired.trans (rests_die _).toStays

/-- Everything in a world refers to things in it, and things are packed properly. -/
structure Sound (world : World) : Prop extends Packed world where
  /-- All references lead to something. -/
  closed : world.Closed

theorem Sound.evolves (hsound : world.Sound) (h : world.Evolves changed) : changed.Sound :=
  ⟨⟨h.exclusive hsound.exclusive, h.nested hsound.nested⟩, h.closed hsound.closed⟩

theorem Sound.carries {model : Option ItemKey} (hsound : world.Sound)
    (h : world.Carries model changed) : changed.Sound :=
  ⟨⟨h.exclusive hsound.exclusive, h.nested hsound.nested⟩, h.closed hsound.closed⟩

end World

namespace Stage

/-- At most one event fires while events are looked for, and it is the one that was foreseen. -/
theorem answers_events (turn : Turn) (command : Command) (args : List Arg) :
    turn.world.Answers (turn.world.fires? (turn.world.eventKey command.id args))
      (events turn command args).1.world := by
  rcases events_cases turn command args with
    ⟨hsilent, hquiet⟩ | ⟨id, event, done, hready, hevent, hdone, hfires⟩
  · have hnone : turn.world.fires? (turn.world.eventKey command.id args) = none := by
      refine Option.eq_none_iff_forall_ne_some.mpr fun id hfires => ?_
      obtain ⟨hready, event, done, hevent, hdone⟩ := World.fires?_eq_some_iff.mp hfires
      exact hquiet id event hready hevent done hdone
    rw [hsilent, hnone]
    rfl
  · have hfound := List.find?_some hready
    rw [hevent, Option.any_some] at hfound
    rw [World.fires?_eq_some_iff.mpr ⟨hready, event, done, hevent, hdone⟩, hfires]
    refine .intro hevent hfound hdone ?_
    dsimp only
    split
    · exact .inr rfl
    · exact .inl rfl

end Stage

namespace Command

/-- The stages between the handler and the events. -/
def watching (command : Command) : List Stage :=
  if command.attributes.has CommandFlags.postVision then [Stage.postVision] else []

/-- The stages before the events. -/
def foregoing (command : Command) : List Stage :=
  command.preparing ++ command.chosenHandler.stage :: command.watching

theorem dropLast_stages_eq (command : Command) :
    command.stages.dropLast = command.foregoing ++ [Stage.events] := by
  simp [dropLast_stages, foregoing, watching, closing]

end Command

/-- Reporting the light is never refused, and moves nothing. -/
theorem passes_watching (turn : Turn) (command : Command) (args : List Arg) :
    ∃ passed next, passStages? command command.watching turn args = some (passed, next) ∧
      turn.world.Rests passed.world ∧ turn.world.Evolves passed.world := by
  unfold Command.watching
  split
  · by_cases hsame : turn.world.canSee = turn.couldSee
    · have hstage : Stage.postVision turn command args = (turn, .silent args) := if_pos hsame
      refine ⟨turn, args, ?_, .refl _, .refl _⟩
      simp only [passStages?, hstage]
      rfl
    · obtain ⟨result, hresult⟩ : ∃ result, Stage.postVision turn command args = result := ⟨_, rfl⟩
      have hstage := hresult
      unfold Stage.postVision at hstage
      simp only [if_neg hsame] at hstage
      subst hstage
      exact ⟨_, _, by simp only [passStages?, hresult]; rfl, turn.world.rests_lookAround true,
        turn.world.evolves_lookAround true⟩
  · exact ⟨turn, args, rfl, .refl _, .refl _⟩

namespace Turn

variable (turn : Turn) (command : Command) (args : List Arg)

/-- The deed that the handler does, if it does one. -/
def deed? : Option Deed :=
  (turn.prepared? command args).bind fun (turn, args) =>
    if (command.chosenHandler.stage turn command args).2.success then
      some (command.chosenHandler.deed turn.world args)
    else none

/-- The turn and the arguments as they get to the events, if they do. -/
def watched? : Option (Turn × List Arg) := passStages? command command.foregoing turn args

/-- The event that fires in the turn, if one does. -/
def fires? : Option EventId :=
  (turn.watched? command args).bind fun (turn, args) =>
    turn.world.fires? (turn.world.eventKey command.id args)

/-- The phases of a turn. -/
inductive Course (final : World) : Prop
  /-- Some stage is refused, and nothing has changed but the command that waits. -/
  | refused (pending : Pending)
      (hfinal : final = turn.world.modifyPlayer fun p => { p with pending })
      (hdeed : turn.deed? command args = none) (hacted : turn.acted? command args = none)
      (hwatched : turn.watched? command args = none)
      (hreckoned : turn.reckoned? command args = none) : Course final
  /-- The deed is done, the light is reported, an event answers, and it is looked whether the player
  lives. -/
  | completed {deed : Deed} {acted reckoned : World} {watched : Turn × List Arg}
      (hdeed : turn.deed? command args = some deed) (hacted : turn.acted? command args = some acted)
      (hwatched : turn.watched? command args = some watched)
      (hreckoned : turn.reckoned? command args = some reckoned)
      (hdoes : (turn.world.modifyPlayer (·.forget)).Does deed acted)
      (hcarries : (turn.world.modifyPlayer (·.forget)).Carries (turn.model? command args) acted)
      (hrests : acted.Rests watched.1.world) (hwatches : acted.Evolves watched.1.world)
      (hanswers : watched.1.world.Answers (turn.fires? command args) reckoned)
      (hevolves : watched.1.world.Evolves reckoned)
      (hfinal : final = reckoned.mourned) : Course final

end Turn

variable {turn : Turn} (command : Command) (args : List Arg) (said : List String)

section Phases

variable {command args}

/-- A command has been carried out if it got to its handler and was not refused there. -/
theorem prepared_of_acted {acted : World} (h : turn.acted? command args = some acted) :
    ∃ passed next, turn.prepared? command args = some (passed, next) ∧
      (command.chosenHandler.stage passed command next).2.success = true ∧
      (command.chosenHandler.stage passed command next).1.world = acted := by
  unfold Turn.acted? at h
  cases hprepared : turn.prepared? command args with
  | none => simp [hprepared] at h
  | some prepared =>
    obtain ⟨passed, next⟩ := prepared
    cases hsuccess : (command.chosenHandler.stage passed command next).2.success with
    | false => simp [hprepared, hsuccess] at h
    | true => exact ⟨passed, next, rfl, hsuccess, by simpa [hprepared, hsuccess] using h⟩

/-- Unless the command is carried out, no deed is done, and nothing gets to the events. -/
theorem unwatched_of_not_acted (h : turn.acted? command args = none) :
    turn.deed? command args = none ∧ turn.watched? command args = none := by
  unfold Turn.acted? at h
  unfold Turn.deed? Turn.watched? Command.foregoing
  rw [passStages?_append, ← Turn.prepared?]
  cases hprepared : turn.prepared? command args with
  | none => exact ⟨rfl, rfl⟩
  | some prepared =>
    obtain ⟨passed, next⟩ := prepared
    cases hsuccess : (command.chosenHandler.stage passed command next).2.success with
    | false => simp [passStages?, hsuccess]
    | true => simp [hprepared, hsuccess] at h

/-- A command that has been carried out did its deed. -/
theorem does_deed (hclosed : turn.world.Closed) {id : CommandId}
    (hcommand : turn.world.command? id = some command)
    (hargs : turn.world.FillsFirst command.slots args) {acted : World}
    (h : turn.acted? command args = some acted) :
    ∃ deed, turn.deed? command args = some deed ∧
      (turn.world.modifyPlayer (·.forget)).Does deed acted := by
  obtain ⟨passed, next, hprepared, hsuccess, hacted⟩ := prepared_of_acted h
  refine ⟨command.chosenHandler.deed passed.world next,
    by simp [Turn.deed?, hprepared, hsuccess], ?_⟩
  cases readies_preparing command args [] hclosed hcommand hargs with
  | stops pending hstops hworld hpending => cases hstops.symm.trans hprepared
  | passes hpasses hforget hfit =>
    cases hpasses.symm.trans hprepared
    have hready : passed.world.ArgsFit next := hforget ▸ hfit.modifyPlayer _
    rw [← hforget, ← hacted]
    exact command.chosenHandler.does_stage hready hsuccess

/-- What has been carried out gets to the events, with nothing moved. -/
theorem watched_of_acted {acted : World} (h : turn.acted? command args = some acted) :
    ∃ watched, turn.watched? command args = some watched ∧
      acted.Rests watched.1.world ∧ acted.Evolves watched.1.world := by
  obtain ⟨passed, next, hprepared, hsuccess, rfl⟩ := prepared_of_acted h
  obtain ⟨watched, last, hwatches, hrests, hevolves⟩ := passes_watching
    (command.chosenHandler.stage passed command next).1 command
    (command.chosenHandler.stage passed command next).2.next
  refine ⟨(watched, last), ?_, hrests, hevolves⟩
  rw [Turn.watched?, Command.foregoing, passStages?_append, ← Turn.prepared?, hprepared]
  simp only [Option.bind_some, passStages?, hsuccess, if_true, hwatches]

/-- What gets to the events gets past them to the last stage. -/
theorem reckoned_of_watched {watched : Turn × List Arg}
    (h : turn.watched? command args = some watched) (hclosed : watched.1.world.Closed) :
    turn.reckoned? command args = some (Stage.events watched.1 command watched.2).1.world ∧
      watched.1.world.Evolves (Stage.events watched.1 command watched.2).1.world := by
  obtain ⟨hpass, hevolves⟩ := Stage.closes_events watched.1 command watched.2 hclosed
  refine ⟨?_, hevolves⟩
  rw [Turn.reckoned?, command.dropLast_stages_eq, passStages?_append, ← Turn.watched?, h]
  simp only [Option.bind_some, passStages?, hpass, if_true, Option.map_some]

/-- What does not get to the events does not get to the last stage either. -/
theorem unreckoned_of_unwatched (h : turn.watched? command args = none) :
    turn.reckoned? command args = none := by
  rw [Turn.reckoned?, command.dropLast_stages_eq, passStages?_append, ← Turn.watched?, h]
  rfl

end Phases

/-- Every turn takes its course: it is refused with nothing changed but the command that waits, or
goes through all its phases. -/
theorem course_turn (hclosed : turn.world.Closed) {id : CommandId}
    (hcommand : turn.world.command? id = some command)
    (hargs : turn.world.FillsFirst command.slots args) :
    turn.Course command args (runStages command command.stages turn args said).1.world := by
  have hends := ends_turn command args said hclosed hcommand hargs
  generalize (runStages command command.stages turn args said).1.world = final at hends ⊢
  cases hends with
  | refused pending hfinal hpending hacted hmodel =>
    obtain ⟨hdeed, hwatched⟩ := unwatched_of_not_acted hacted
    exact .refused pending hfinal hdeed hacted hwatched (unreckoned_of_unwatched hwatched)
  | @completed acted hreports hacted hcarries hevolves hreckons =>
    obtain ⟨deed, hdeed, hdoes⟩ := does_deed hclosed hcommand hargs hacted
    obtain ⟨watched, hwatched, hrests, hwatches⟩ := watched_of_acted hacted
    have hforgotten : (turn.world.modifyPlayer (·.forget)).Closed :=
      World.Change.closed (.player .forget) hclosed
    have hstill : watched.1.world.Closed := hwatches.closed (hcarries.closed hforgotten)
    obtain ⟨hreckoned, hanswered⟩ := reckoned_of_watched hwatched hstill
    obtain ⟨reckoned, hfound, -, hfinal⟩ := hreckons
    cases hfound.symm.trans hreckoned
    refine .completed hdeed hacted hwatched hreckoned hdoes hcarries hrests hwatches ?_ hanswered
      hfinal
    simpa [Turn.fires?, hwatched] using Stage.answers_events watched.1 command watched.2

end Adventure
