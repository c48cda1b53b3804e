import Adventure.Proofs.Turn.Steps
import Adventure.Proofs.Turn.Survival

/-!
# Immunity

Death does nothing to a player who is immune, and immunity is an attribute like others: a command
may switch it and an event may clear it. Where no command and no event does so, a player who lives
and is immune is so after every stage of a turn, whatever the stage does otherwise.
-/

namespace Adventure

/-! ## The attribute -/

namespace PlayerFlags

theorem bit_immune (i : Nat) : immune.bit i = decide (i = 1) := by
  have hpower : immune.bits.toBitVec.toNat = 2 ^ 1 := rfl
  rw [Flags.bit, BitVec.getLsbD, hpower, Nat.testBit_two_pow]
  exact decide_eq_decide.mpr eq_comm

/-- Immunity is one bit. -/
theorem has_immune (flags : PlayerFlags) : flags.has immune = flags.bit 1 := by
  rw [Bool.eq_iff_iff, Flags.has_iff]
  simp [bit_immune]

/-- Setting or clearing attributes decides about immunity if it is among them. -/
theorem has_immune_assign (flags flag : PlayerFlags) (on : Bool) :
    (flags.assign flag on).has immune = if flag.has immune then on else flags.has immune := by
  simp only [has_immune, Flags.bit_assign]

end PlayerFlags

/-- The command switches immunity, perhaps among other attributes of the player. -/
def Command.switchesImmunity (command : Command) : Bool :=
  command.switch.any (·.flag.has PlayerFlags.immune)

/-- The action clears immunity, perhaps among other attributes of the player. -/
def Action.clearsImmunity : Action → Bool
  | setPlayerAttribute flag on => !on && flag.has PlayerFlags.immune
  | _ => false

/-- Some action of the event clears immunity. -/
def Event.clearsImmunity (event : Event) : Bool := event.outcome.actions.any (·.clearsImmunity)

namespace World

/-- The player lives and is immune, and no event can change that. -/
structure Guarded (world : World) : Prop where
  /-- The player lives. -/
  alive : world.player.alive = true
  /-- The player is immune. -/
  immune : world.player.isImmune = true
  /-- No event clears immunity. -/
  events : ∀ id event, world.event? id = some event → event.clearsImmunity = false

namespace Guarded

variable {world changed : World}

theorem thingsOnly (h : world.Guarded) (hthings : world.ThingsOnly changed) : changed.Guarded := by
  refine ⟨?_, ?_, fun id event hevent => h.events id event ?_⟩
  · rw [hthings.player, h.alive]
  · rw [hthings.player, h.immune]
  · rwa [event?, hthings.events] at hevent

theorem modifyPlayer (h : world.Guarded) {f : Player → Player}
    (halive : (f world.player).alive = true) (himmune : (f world.player).isImmune = true) :
    (world.modifyPlayer f).Guarded := ⟨halive, himmune, h.events⟩

/-- Attributes may be set or cleared as long as immunity is not cleared. -/
theorem assign (h : world.Guarded) {flag : PlayerFlags} {on : Bool}
    (hkeeps : (!on && flag.has PlayerFlags.immune) = false) :
    (world.modifyPlayer fun p => { p with attributes := p.attributes.assign flag on }).Guarded := by
  refine h.modifyPlayer h.alive ((world.player.attributes.has_immune_assign flag on).trans ?_)
  cases hflag : flag.has PlayerFlags.immune with
  | false => exact h.immune
  | true => simpa [hflag] using hkeeps

/-- Death does nothing to the player. -/
theorem die (h : world.Guarded) : (world.modifyPlayer (·.die)).Guarded := by
  have hsame : world.player.die = world.player := if_pos h.immune
  exact h.modifyPlayer (hsame.symm ▸ h.alive) (hsame.symm ▸ h.immune)

/-! ## Events -/

theorem apply (h : world.Guarded) {action : Action} (hkeeps : action.clearsImmunity = false) :
    (world.apply action).1.Guarded := by
  rcases world.apply_cases action with hthings | ⟨flag, on, rfl, happly⟩ | ⟨place, rfl, happly⟩
  · exact h.thingsOnly hthings
  · rw [happly]
    exact h.assign hkeeps
  · rw [happly]
    exact h.modifyPlayer h.alive h.immune

theorem actOut (h : world.Guarded) {actions : List Action}
    (hkeeps : ∀ action ∈ actions, action.clearsImmunity = false) :
    (world.actOut actions).Guarded :=
  List.foldlRecOn actions _ h fun _ hdone action hmem => hdone.apply (hkeeps action hmem)

theorem markFired (h : world.Guarded) (id : EventId) : (world.markFired id).Guarded := by
  refine ⟨h.alive, h.immune, fun other event hevent => ?_⟩
  rw [World.markFired, modifyEvent, event?, Table.get?_modify] at hevent
  split at hevent
  · obtain ⟨before, hbefore, rfl⟩ := Option.map_eq_some_iff.mp hevent
    exact h.events id before hbefore
  · exact h.events other event hevent

/-- An event that fires can neither kill the player nor clear immunity. -/
theorem fires (h : world.Guarded) {id : EventId} (hfires : world.Fires id changed) :
    changed.Guarded := by
  obtain ⟨hevent, -, hdone, hfinal⟩ := hfires
  rename_i event done
  have hkeeps : ∀ action ∈ event.outcome.actions, action.clearsImmunity = false := by
    simpa [Event.clearsImmunity] using h.events id event hevent
  have hdone : done.Guarded := (applyAll_eq_ok_iff.mp hdone).2 ▸ h.actOut hkeeps
  have hfired : ((done.award event.outcome.score).markFired id).Guarded :=
    markFired (hdone.modifyPlayer hdone.alive hdone.immune) id
  rcases hfinal with rfl | rfl
  · exact hfired
  · exact hfired.die

end Guarded

end World

/-! ## Stages -/

/-- In turns of the command, the stage leaves a guarded player guarded. -/
def Stage.Guards (stage : Stage) (command : Command) : Prop :=
  ∀ turn args, turn.world.Guarded → (stage turn command args).1.world.Guarded

namespace Stage

variable (command : Command)

theorem guards_requireVision : requireVision.Guards command := by
  intro turn args h
  unfold requireVision
  split <;> exact h

theorem guards_resolverOf : (resolverOf command).Guards command := by
  intro turn args h
  obtain ⟨pending, tokens, hleft⟩ := turn.exists_left_resolverOf command args
  rw [hleft]
  exact h.modifyPlayer (f := fun p => { p with pending }) h.alive h.immune

/-- Immune players arrive safely. -/
theorem guarded_arrive {turn : Turn} (h : turn.world.Guarded) (destination : LocationId)
    (args : List Arg) : (turn.arrive destination args).1.world.Guarded := by
  have hsafe : turn.world.mishap? destination = none := by
    rw [Option.eq_none_iff_forall_not_mem]
    intro mishap hmishap
    exact Bool.noConfusion (h.immune.symm.trans (World.not_immune_of_mishap hmishap))
  rw [Turn.arrive_eq, hsafe]
  have hmoved : (turn.world.movedTo destination).Guarded := h.modifyPlayer h.alive h.immune
  exact hmoved.thingsOnly (turn.keepsToThings_arrived destination args).things

theorem guards_go : go.Guards command := by
  intro turn args h
  rcases go_outcome command with ⟨report, -, hstage⟩ | ⟨destination, -, hstage⟩
  · rw [hstage]
    exact h
  · rw [hstage]
    exact guarded_arrive h destination args

theorem guards_teleport : teleport.Guards command := by
  intro turn args h
  rcases teleport_outcome command with ⟨report, -, hstage⟩ | ⟨destination, -, hstage⟩
  · rw [hstage]
    exact h
  · rw [hstage]
    exact guarded_arrive h destination args

variable {command} in
theorem guards_setPlayer (hkeeps : command.switchesImmunity = false) :
    setPlayer.Guards command := by
  intro turn args h
  unfold setPlayer
  split
  · exact h
  · rename_i part hpart
    refine h.assign ?_
    have hflag : part.flag.has PlayerFlags.immune = false := by
      simpa [Command.switchesImmunity, hpart] using hkeeps
    rw [hflag, Bool.and_false]

theorem guards_quit : quit.Guards command := fun _ _ h =>
  h.modifyPlayer (f := fun p => { p with playing := false, pending := .idle }) h.alive h.immune

theorem guards_postVision : postVision.Guards command := fun turn args h =>
  h.thingsOnly (keepsToThings_postVision turn command args).1.things

theorem guards_events : events.Guards command := by
  intro turn args h
  have hanswers := answers_events turn command args
  cases hfires : turn.world.fires? (turn.world.eventKey command.id args) with
  | none =>
    rw [hfires] at hanswers
    exact hanswers.symm ▸ h
  | some id =>
    rw [hfires] at hanswers
    exact h.fires hanswers

/-- The last stage says nothing and does nothing while the player lives. -/
theorem life_of_alive {turn : Turn} (halive : turn.world.player.alive = true) (args : List Arg) :
    life turn command args = (turn, .silent args) := if_pos halive

theorem guards_life : life.Guards command := by
  intro turn args h
  rw [life_of_alive command h.alive]
  exact h

end Stage

variable {command : Command}

theorem Handler.guards (hkeeps : command.switchesImmunity = false) (handler : Handler) :
    handler.stage.Guards command := by
  by_cases hconcerns : handler.concernsPlayer = false
  · exact fun turn args h => h.thingsOnly (keepsToThings hconcerns turn command args).things
  · cases handler with
    | go => exact Stage.guards_go command
    | teleport => exact Stage.guards_teleport command
    | setPlayer => exact Stage.guards_setPlayer hkeeps
    | quit => exact Stage.guards_quit command
    | _ => exact absurd rfl hconcerns

/-- No stage of a command that does not switch immunity harms a guarded player. -/
theorem Command.guards_of_mem_stages (hkeeps : command.switchesImmunity = false) :
    ∀ stage ∈ command.stages, stage.Guards command := by
  intro stage hstage
  unfold stages at hstage
  simp only [List.mem_append, List.mem_ite_nil_right, List.mem_cons, List.not_mem_nil,
    or_false] at hstage
  rcases hstage with ((⟨-, rfl⟩ | rfl | rfl) | ⟨-, rfl⟩) | rfl | rfl
  · exact Stage.guards_requireVision command
  · exact Stage.guards_resolverOf command
  · exact Handler.guards hkeeps _
  · exact Stage.guards_postVision command
  · exact Stage.guards_events command
  · exact Stage.guards_life command

/-! ## Turns -/

/-- Stages that leave a guarded player guarded do so one after the other. -/
theorem guarded_stageSteps {stages : List Stage} (hguards : ∀ stage ∈ stages, stage.Guards command)
    {turn : Turn} (h : turn.world.Guarded) (args : List Arg) :
    ∀ step ∈ stageSteps command stages turn args,
      step.before.world.Guarded ∧ step.after.world.Guarded := by
  induction stages generalizing turn args with
  | nil => exact fun step hstep => absurd hstep List.not_mem_nil
  | cons stage rest ih =>
    obtain ⟨hfirst, hlater⟩ := List.forall_mem_cons.mp hguards
    have hafter : (stage.step command turn args).after.world.Guarded := hfirst turn args h
    rw [stageSteps]
    refine List.forall_mem_cons.mpr ⟨⟨h, hafter⟩, ?_⟩
    split
    · exact ih hlater hafter _
    · exact fun step hstep => absurd hstep List.not_mem_nil

/-- So they do as a whole. -/
theorem guarded_afterSteps {turn : Turn} {steps : List Step} (h : turn.world.Guarded)
    (hsteps : ∀ step ∈ steps, step.after.world.Guarded) :
    (turn.afterSteps steps).world.Guarded := by
  unfold Turn.afterSteps
  cases hlast : steps.getLast? with
  | none => exact h
  | some step => exact hsteps step (List.mem_of_getLast? hlast)

end Adventure
