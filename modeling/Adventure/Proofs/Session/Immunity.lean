import Adventure.Proofs.Session.Death
import Adventure.Proofs.Turn.Immunity

/-!
# Immunity in a game

A player who begins immune, by the description or by the settings, never dies where no command
switches immunity and no event clears it. Then no line is ever taken for an answer about
reincarnation, and nothing is ever asked about it.
-/

namespace Adventure

namespace Session

variable {session first later : Session} {line : String} {turn : Turn} {command : Command}
  {args : List Arg}

/-- The player begins immune by the settings or by the description. -/
theorem isImmune_prepare (world : World) (config : Config) :
    (prepare world config).player.isImmune = (config.immune || world.player.isImmune) := by
  unfold prepare Player.isImmune World.modifyPlayer
  have hverbose : PlayerFlags.verbose.bit 1 = false := rfl
  simp only [PlayerFlags.has_immune]
  cases config.immune <;> cases config.verbose <;>
    simp [Flags.bit_set, PlayerFlags.bit_immune, hverbose]

/-! ## One line -/

/-- Death is no matter when the line is answered. -/
structure Unharmed (session : Session) (line : String) : Prop where
  /-- The line is not taken for an answer about reincarnation. -/
  unasked : session.answer line =
    if session.isRunning then
      session.answerLiving (session.world.texts.vocabulary.tokens line)
    else (session, session.world.response "game_over")
  /-- The player lives before and after every step of the turn that the line begins. -/
  alive : ∀ turn command args steps, session.turn? line = some (turn, command, args) →
    turn.Runs command args command.stages steps →
      ∀ step ∈ steps, step.before.world.player.alive = true ∧
        step.after.world.player.alive = true
  /-- The last stage of the turn says nothing, asks nothing and changes nothing. -/
  unmourned : ∀ turn command args steps, session.turn? line = some (turn, command, args) →
    turn.Runs command args command.stages steps →
      ∀ step ∈ steps, Stage.life.Takes command step →
        step.after = step.before ∧ step.report = .silent step.args

/-- The player of the session is guarded, and no command of it switches immunity. -/
structure Sheltered (session : Session) : Prop where
  /-- The player is guarded. -/
  guarded : session.world.Guarded
  /-- No command switches immunity. -/
  commands : ∀ id command, session.world.command? id = some command →
    command.switchesImmunity = false

/-- A turn of a sheltered session begins with a guarded player and a command that does not switch
immunity. -/
theorem Sheltered.turn? (h : session.Sheltered) (hkept : session.world.Kept)
    (hturn : session.turn? line = some (turn, command, args)) :
    turn.world.Guarded ∧ command.switchesImmunity = false := by
  obtain ⟨⟨pending, hbegins⟩, -, hstarts, -⟩ := turn?_cases hkept hturn
  have hknown := hstarts.known
  rw [hbegins] at hknown ⊢
  exact ⟨h.guarded.modifyPlayer
      (f := fun p => { p with moves := p.moves + 1, pending }) h.guarded.alive h.guarded.immune,
    h.commands _ _ hknown⟩

theorem Sheltered.unharmed (h : session.Sheltered) (hkept : session.world.Kept) (line : String) :
    session.Unharmed line := by
  have hlives (turn : Turn) (command : Command) (args : List Arg) (steps : List Step)
      (hturn : session.turn? line = some (turn, command, args))
      (hruns : turn.Runs command args command.stages steps) :
      ∀ step ∈ steps, step.before.world.Guarded ∧ step.after.world.Guarded := by
    obtain ⟨hguarded, hkeeps⟩ := h.turn? hkept hturn
    rw [Turn.runs_iff.mp hruns]
    exact guarded_stageSteps (Command.guards_of_mem_stages hkeeps) hguarded args
  refine ⟨?_, fun turn command args steps hturn hruns step hstep => ?_,
    fun turn command args steps hturn hruns step hstep htakes => ?_⟩
  · unfold answer
    rw [h.guarded.alive]
    cases session.isRunning <;> rfl
  · obtain ⟨hbefore, hafter⟩ := hlives turn command args steps hturn hruns step hstep
    exact ⟨hbefore.alive, hafter.alive⟩
  · obtain ⟨hbefore, -⟩ := hlives turn command args steps hturn hruns step hstep
    obtain ⟨hsame, hsilent⟩ := Prod.mk.inj
      ((Stage.life_of_alive command hbefore.alive step.args).symm.trans htakes)
    exact ⟨hsame.symm, hsilent.symm⟩

/-- A guarded player is so after every line. -/
theorem Sheltered.guarded_answer (h : session.Sheltered) (hkept : session.world.Kept)
    (line : String) : (session.answer line).1.world.Guarded := by
  cases hturn : session.turn? line with
  | none =>
    have hquiet := quiet_answer hturn
    generalize (session.answer line).1 = later at hquiet ⊢
    have hguarded := h.guarded
    cases hquiet with
    | stays => exact hguarded
    | forgets => exact hguarded.modifyPlayer (f := (·.forget)) hguarded.alive hguarded.immune
    | returns hdead => exact Bool.noConfusion (hdead.symm.trans hguarded.alive)
    | leaves hdead => exact Bool.noConfusion (hdead.symm.trans hguarded.alive)
  | some begun =>
    obtain ⟨turn, command, args⟩ := begun
    obtain ⟨hguarded, hkeeps⟩ := h.turn? hkept hturn
    rw [answer_of_turn? hturn]
    show (turn.run command command.stages args).1.world.Guarded
    rw [Turn.run, runStages_turn]
    exact guarded_afterSteps hguarded fun step hstep =>
      (guarded_stageSteps (Command.guards_of_mem_stages hkeeps) hguarded args step hstep).2

/-! ## Whole games -/

/-- Commands are the same throughout a game. -/
theorem Sheltered.of_setting (h : session.Sheltered)
    (hsetting : later.world.setting = session.world.setting) (hguarded : later.world.Guarded) :
    later.Sheltered := by
  refine ⟨hguarded, fun id command hcommand => h.commands id command ?_⟩
  rwa [World.command?, World.commands_of_setting hsetting] at hcommand

/-- A session stays sheltered, whatever the player types. -/
theorem Follows.sheltered (hfollows : Follows first later) (hfirst : Reached first)
    (h : first.Sheltered) : later.Sheltered := by
  induction hfollows with
  | refl => exact h
  | @welcome session _ ih =>
    exact ih.of_setting (session.world.evolves_lookAround true).setting
      (ih.guarded.thingsOnly (session.world.thingsOnly_lookAround true))
  | answer hfollows line ih =>
    have hreached := hfollows.reached hfirst
    exact ih.of_setting (setting_answer hreached line) (ih.guarded_answer hreached.kept line)

/-- **Immunity lasts.** Let a session begin over a loaded world with a player who is immune, by the
description or by the settings. If no command of the world switches immunity and no event clears it,
then the player lives and is immune in all sessions that follow, no line there is taken for an
answer about reincarnation, and no turn comes to the question. -/
theorem immunity_lasts {document : Document} {loaded : Loaded} {config : Config}
    (hload : document.load = .ok loaded) (hstart : Session.start loaded.world config = .ok first)
    (himmune : loaded.world.player.isImmune = true ∨ config.immune = true)
    (hcommands : ∀ command ∈ loaded.world.commands.values, command.switchesImmunity = false)
    (hevents : ∀ event ∈ loaded.world.events.values, event.clearsImmunity = false)
    (hfollows : Follows first later) :
    later.world.player.alive = true ∧ later.world.player.isImmune = true ∧
      ∀ line, later.Unharmed line := by
  have hfirst : Reached first := .begin hload hstart
  have halive := (Document.ready_load hload).alive
  have hbegun : (prepare loaded.world config).player.isImmune = true := by
    rw [isImmune_prepare, Bool.or_eq_true]
    exact himmune.symm
  have hsheltered : first.Sheltered := by
    rw [(start_ok hstart).1]
    exact ⟨⟨halive, hbegun, fun id event hevent =>
        hevents event (Table.mem_values.mpr ⟨id, hevent⟩)⟩,
      fun id command hcommand => hcommands command (Table.mem_values.mpr ⟨id, hcommand⟩)⟩
  have hlater := hfollows.sheltered hfirst hsheltered
  exact ⟨hlater.guarded.alive, hlater.guarded.immune,
    hlater.unharmed (hfollows.reached hfirst).kept⟩

/-- The session that begins over the cellar with an immune player. -/
def undying : Session := (Document.cellar.begin? { immune := true }).get (by decide +kernel)

/-- An immune player goes down into the dark cellar, from where no exit leads back, and lives there
ever after. One who is not immune dies of it. -/
theorem immunity_lasts_cellar :
    ∃ loaded, Document.cellar.load = .ok loaded ∧
      Session.start loaded.world { immune := true } = .ok undying ∧
      (let below := undying.play ["pull lever", "down"]
      below.world.player.location = ⟨2⟩ ∧ below.world.player.alive = true ∧
        ∀ line, below.Unharmed line) ∧
      (cellar.play ["pull lever", "down"]).world.player.alive = false := by
  have hbegins : Document.cellar.begin? { immune := true } = some undying :=
    (Option.some_get _).symm
  obtain ⟨loaded, hload, hstart⟩ := begins_of_begin? hbegins
  have hworld := congrArg Session.world (start_ok hstart).1
  have hcommands : ∀ command ∈ undying.world.commands.values,
      command.switchesImmunity = false := by decide +kernel
  have hevents : ∀ event ∈ undying.world.events.values, event.clearsImmunity = false := by
    decide +kernel
  rw [hworld] at hcommands hevents
  obtain ⟨halive, -, hunharmed⟩ := immunity_lasts hload hstart (.inr rfl) hcommands hevents
    (Follows.refl.play ["pull lever", "down"])
  exact ⟨loaded, hload, hstart, ⟨by decide +kernel, halive, hunharmed⟩, by decide +kernel⟩

end Session

end Adventure
