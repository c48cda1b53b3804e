import Adventure.Proofs.Loading.Worlds
import Adventure.Proofs.Turn.Stages
import Adventure.Session

/-!
# Sessions that can be reached

A session begins over a loaded world and goes on line by line. What is needed of its world later is
gathered here and shown to hold however the player has played: all references are to things that
exist, holders list only their own items, and a command that waits can go on. A line either begins a
turn or does one of four small things; what both keep, a session keeps.
-/

namespace Adventure

namespace Document

/-- The session that begins over the world of a description, if there is one. -/
def begin? (document : Document) (config : Config) : Option Session :=
  document.load.toOption.bind fun loaded => (Session.start loaded.world config).toOption

end Document

namespace Session

/-- The sessions that can be reached over loaded worlds. The player may be welcomed and may type any
lines. -/
inductive Reached : Session → Prop
  /-- A session begins over a loaded world. -/
  | begin {document : Document} {loaded : Loaded} {config : Config} {session : Session}
      (hload : document.load = .ok loaded)
      (hstart : Session.start loaded.world config = .ok session) : Reached session
  /-- The player is welcomed. -/
  | welcome {session : Session} (h : Reached session) : Reached session.welcome.1
  /-- The player types a line. -/
  | answer {session : Session} (h : Reached session) (line : String) :
      Reached (session.answer line).1

/-- The sessions that follow on a session while the player is welcomed and types any lines. -/
inductive Follows (first : Session) : Session → Prop
  /-- Nothing has been typed yet. -/
  | refl : Follows first first
  /-- The player is welcomed. -/
  | welcome {session : Session} (h : Follows first session) : Follows first session.welcome.1
  /-- The player types a line. -/
  | answer {session : Session} (h : Follows first session) (line : String) :
      Follows first (session.answer line).1

variable {session : Session}

theorem Follows.reached {first : Session} (h : Follows first session) (hfirst : Reached first) :
    Reached session := by
  induction h with
  | refl => exact hfirst
  | welcome _ ih => exact ih.welcome
  | answer _ line ih => exact ih.answer line

/-- Playing on leads to sessions that follow. -/
theorem Follows.play {first : Session} (h : Follows first session) (lines : List String) :
    Follows first (session.play lines) :=
  List.foldlRecOn lines _ h fun _ hplayed line _ => hplayed.answer line

/-- A session that begins has the world prepared for it, with an inventory that serves. -/
theorem start_ok {world : World} {config : Config}
    (h : Session.start world config = .ok session) :
    session = ⟨Session.prepare world config, config⟩ ∧
      session.world.currentInventory?.isSome = true := by
  unfold Session.start at h
  simp only [] at h
  split at h
  · rename_i id hid
    cases h
    exact ⟨rfl, Option.isSome_of_eq_some hid⟩
  · cases h

/-- Sessions over worlds that are read from texts are among them. -/
theorem Reached.of_source {source : String} {loaded : Loaded} {config : Config}
    (hload : loadToPlay source = .ok loaded)
    (hstart : Session.start loaded.world config = .ok session) : Reached session := by
  unfold loadToPlay load at hload
  split at hload
  · rename_i document hparse
    cases hbuilt : document.load with
    | error cause => simp [hbuilt, Except.map] at hload
    | ok built =>
      simp only [hbuilt, Except.map, Except.ok.injEq] at hload
      subst hload
      exact .begin hbuilt hstart
  · simp [Except.map] at hload

/-- A session that begins over a description begins over its world. -/
theorem begins_of_begin? {document : Document} {config : Config}
    (h : document.begin? config = some session) :
    ∃ loaded, document.load = .ok loaded ∧ Session.start loaded.world config = .ok session := by
  obtain ⟨loaded, hload, hstart⟩ := Option.bind_eq_some_iff.mp h
  refine ⟨loaded, ?_, ?_⟩
  · cases hdocument : document.load with
    | error cause => simp [hdocument, Except.toOption] at hload
    | ok built =>
      simp only [hdocument, Except.toOption, Option.some.injEq] at hload
      rw [hload]
  · cases hsession : Session.start loaded.world config with
    | error location => simp [hsession, Except.toOption] at hstart
    | ok begun =>
      simp only [hsession, Except.toOption, Option.some.injEq] at hstart
      rw [hstart]

theorem Reached.of_begin? {document : Document} {config : Config}
    (h : document.begin? config = some session) : Reached session := by
  obtain ⟨loaded, hload, hstart⟩ := begins_of_begin? h
  exact .begin hload hstart

/-- Playing on leads to reached sessions only. -/
theorem Reached.play (h : Reached session) (lines : List String) : Reached (session.play lines) :=
  List.foldlRecOn lines _ h fun _ hplayed line _ => hplayed.answer line

/-! ## Turns -/

/-- A turn that counts as one more move. -/
def countedTurn (session : Session) (verb : String) (tokens : List String) : Turn :=
  Turn.begin (session.world.modifyPlayer fun player => { player with moves := player.moves + 1 })
    session.config verb tokens

/-- The session without a command that waits. -/
def forgetful (session : Session) : Session :=
  session.withWorld (session.world.modifyPlayer (·.forget))

/-- The turn that a line begins, with its command and the arguments that are known already. A line
begins none when the game is over, the player is dead, or it has no word that means a command. -/
def turn? (session : Session) (line : String) : Option (Turn × Command × List Arg) :=
  if session.isRunning && session.world.player.alive then
    match session.world.texts.vocabulary.tokens line with
    | [] => none
    | first :: rest =>
      match session.continued? first with
      | some (command, verb, args) =>
        some (session.countedTurn verb (first :: rest), command, args)
      | none =>
        (session.forgetful.world.commandNamed? first).map fun command =>
          (session.forgetful.countedTurn first rest, command, [])
  else none

variable {line : String} {turn : Turn} {command : Command} {args : List Arg}

/-- The answer to a line that begins a turn is the answer of the turn. -/
theorem answer_of_turn? (h : session.turn? line = some (turn, command, args)) :
    session.answer line =
      let (final, text) := turn.run command command.stages args
      (session.withWorld final.world,
        if text.isEmpty then final.world.response "nothing_happens" else text) := by
  unfold turn? at h
  by_cases hlives : (session.isRunning && session.world.player.alive) = true
  · rw [if_pos hlives] at h
    obtain ⟨hrunning, halive⟩ := Bool.and_eq_true_iff.mp hlives
    unfold answer
    simp only [hrunning, halive, Bool.not_true, Bool.false_eq_true, if_false, if_true]
    unfold answerLiving
    cases htokens : session.world.texts.vocabulary.tokens line with
    | nil => simp only [htokens, reduceCtorEq] at h
    | cons first rest =>
      simp only [htokens] at h
      cases hcontinued : session.continued? first with
      | some waiting =>
        obtain ⟨waiting, verb, known⟩ := waiting
        simp only [hcontinued] at h
        cases h
        dsimp only
        rw [hcontinued]
        rfl
      | none =>
        simp only [hcontinued] at h
        obtain ⟨found, hfound, heq⟩ := Option.map_eq_some_iff.mp h
        cases heq
        unfold forgetful at hfound
        dsimp only
        rw [hcontinued]
        dsimp only
        rw [hfound]
        rfl
  · rw [if_neg hlives] at h
    cases h

/-- What a line comes to that begins no turn. -/
inductive Quiet (session : Session) : Session → Prop
  /-- Nothing happens. -/
  | stays : Quiet session session
  /-- The word means nothing, and the command that waited is forgotten. -/
  | forgets : Quiet session session.forgetful
  /-- A dead player comes back to life and looks around. -/
  | returns (hdead : session.world.player.alive = false) : Quiet session (session.withWorld
      ((session.world.modifyPlayer (·.reincarnate session.config.penalty)).lookAround true).1)
  /-- A dead player gives up. -/
  | leaves (hdead : session.world.player.alive = false) : Quiet session (session.withWorld
      (session.world.modifyPlayer fun player => { player with playing := false }))

/-- Every line that begins no turn comes to one of these. -/
theorem quiet_answer (h : session.turn? line = none) : session.Quiet (session.answer line).1 := by
  unfold answer
  by_cases hrunning : session.isRunning = true
  · simp only [hrunning, Bool.not_true, Bool.false_eq_true, if_false]
    by_cases halive : session.world.player.alive = true
    · simp only [halive, if_true]
      unfold turn? at h
      simp only [hrunning, halive, Bool.and_self, if_true] at h
      unfold answerLiving
      cases htokens : session.world.texts.vocabulary.tokens line with
      | nil => exact .stays
      | cons first rest =>
        simp only [htokens] at h
        cases hcontinued : session.continued? first with
        | some waiting => simp only [hcontinued, reduceCtorEq] at h
        | none =>
          simp only [hcontinued] at h
          have hunknown := Option.map_eq_none_iff.mp h
          unfold forgetful at hunknown
          dsimp only
          rw [hcontinued]
          dsimp only
          rw [hunknown]
          exact .forgets
    · have hdead : session.world.player.alive = false := Bool.eq_false_iff.mpr halive
      simp only [halive, Bool.false_eq_true, if_false]
      unfold answerDead
      simp only []
      split
      · exact .returns hdead
      · split
        · exact .leaves hdead
        · exact .stays
  · simp only [hrunning, Bool.not_false, if_true]
    exact .stays

end Session

/-! ## What holds in every session -/

namespace World

/-- What every world of a session that can be reached has. -/
structure Kept (world : World) : Prop where
  /-- All its parts refer to things in it. -/
  closed : world.Closed
  /-- Holders list only items that name them, and each once. -/
  exclusive : world.Exclusive
  /-- Commands stand under their own numbers. -/
  numbered : world.Numbered
  /-- A command that waits can go on. -/
  waits : world.WaitsRightly

variable {world changed : World}

theorem Kept.own (hkept : world.Kept) : world.OwnLists := hkept.exclusive.own

/-- What a turn comes to keeps what has to be kept, as long as no command waits. -/
theorem Kept.evolves (hkept : world.Kept) (hevolves : world.Evolves changed)
    (hidle : world.player.pending = .idle) : changed.Kept :=
  ⟨hevolves.closed hkept.closed, hevolves.exclusive hkept.exclusive,
    hkept.numbered.of_setting hevolves.setting, waitsRightly_of_idle (hevolves.idle hidle)⟩

/-- So does what carrying out a command comes to. -/
theorem Kept.carries {model : Option ItemKey} (hkept : world.Kept)
    (hcarries : world.Carries model changed) (hidle : world.player.pending = .idle) :
    changed.Kept :=
  ⟨hcarries.closed hkept.closed, hcarries.exclusive hkept.exclusive,
    hkept.numbered.of_setting hcarries.setting, waitsRightly_of_idle (hcarries.idle hidle)⟩

/-- So do changes of the player alone that leave no command waiting. -/
theorem Kept.modifyPlayer (hkept : world.Kept) {f : Player → Player}
    (hin : (f world.player).In world.scope) (hstart : (f world.player).start = world.player.start)
    (hidle : (f world.player).pending = .idle) : (world.modifyPlayer f).Kept := by
  have hsetting := setting_modifyPlayer hstart
  exact ⟨.of_in (In.modifyPlayer hkept.closed hin) hsetting (Nat.le_refl _),
    ⟨hkept.exclusive.own, hkept.exclusive.nodup⟩, hkept.numbered.of_setting hsetting,
    waitsRightly_of_idle hidle⟩

/-- Forgetting the command that waits keeps what has to be kept. -/
theorem Kept.forget (hkept : world.Kept) : (world.modifyPlayer (·.forget)).Kept := by
  have hplayer := hkept.closed.player
  exact hkept.modifyPlayer ⟨hplayer.here, hplayer.start, hplayer.previous⟩ rfl rfl

/-- A change of the player's counts is no matter of what has to be kept. -/
theorem Kept.count (hkept : world.Kept) :
    (world.modifyPlayer fun player => { player with moves := player.moves + 1 }).Kept := by
  have hplayer := hkept.closed.player
  refine ⟨.of_in (In.modifyPlayer hkept.closed ⟨hplayer.here, hplayer.start, hplayer.previous⟩)
    (setting_modifyPlayer rfl) (Nat.le_refl _), ⟨hkept.exclusive.own, hkept.exclusive.nodup⟩,
    hkept.numbered, fun id verb args hpending => ?_⟩
  exact (hkept.waits id verb args hpending).of_items rfl rfl rfl rfl rfl rfl rfl

/-- No command of a dead player waits. -/
theorem Kept.idle_of_dead (hkept : world.Kept) (hdead : world.player.alive = false) :
    world.player.pending = .idle := by
  cases hpending : world.player.pending with
  | idle => rfl
  | awaiting id verb args =>
    have halive := (hkept.waits id verb args hpending).alive
    rw [hdead] at halive
    cases halive

/-- What no change of a turn and no copy ends, and no change of the player either unless it moves
the start. -/
structure Enduring (P : World → Prop) : Prop where
  /-- The player changes. -/
  player : ∀ {world : World} {f : Player → Player},
    (f world.player).start = world.player.start → P world → P (world.modifyPlayer f)
  /-- Something changes during a turn. -/
  change : ∀ world changed, Change world changed → P world → P changed
  /-- A copy is made. -/
  copy : ∀ {world copied : World} {key copy : ItemKey},
    world.copyItem key = .ok (copied, copy) → P world → P copied

theorem enduring_setting (setting : World) :
    Enduring fun world => world.setting = setting where
  player hstart hbefore := (setting_modifyPlayer hstart).trans hbefore
  change _ _ hchange hbefore := hchange.setting.trans hbefore
  copy hcopy hbefore := (setting_copyItem hcopy).trans hbefore

/-- Looking around keeps what has to be kept. -/
theorem Kept.lookAround (hkept : world.Kept) (full : Bool) : (world.lookAround full).1.Kept := by
  have hevolves := world.evolves_lookAround full
  refine ⟨hevolves.closed hkept.closed, hevolves.exclusive hkept.exclusive,
    hkept.numbered.of_setting hevolves.setting, fun id verb args hpending => ?_⟩
  unfold World.lookAround at hpending ⊢
  split at hpending
  · rename_i hsees
    rw [if_pos hsees]
    exact (hkept.waits id verb args hpending).of_items rfl rfl rfl rfl rfl rfl rfl
  · rename_i hdark
    rw [if_neg hdark]
    exact hkept.waits id verb args hpending

end World

namespace Session

variable {session later : Session} {line : String} {turn : Turn} {command : Command}
  {args : List Arg}

/-! ## Lines that begin a turn -/

/-- A turn begins with a living player and with a command that its verb means. -/
structure Starts (turn : Turn) (command : Command) : Prop where
  /-- The player lives. -/
  alive : turn.world.player.alive = true
  /-- The player has not given up. -/
  playing : turn.world.player.playing = true
  /-- The command is one of the world. -/
  known : turn.world.command? command.id = some command
  /-- The verb means the command. -/
  named : turn.world.commandNamed? turn.verb = some command

/-- A turn begins in the world before the line, with one more move and perhaps without the command
that waited; its command is one of the world, and its arguments fill their slots. -/
theorem turn?_cases (hkept : session.world.Kept)
    (h : session.turn? line = some (turn, command, args)) :
    (∃ pending, turn.world =
        session.world.modifyPlayer fun p => { p with moves := p.moves + 1, pending }) ∧
      turn.world.Kept ∧ Starts turn command ∧ turn.world.FillsFirst command.slots args := by
  unfold turn? at h
  split at h
  · rename_i hlives
    obtain ⟨hplaying, halive⟩ := Bool.and_eq_true_iff.mp hlives
    split at h
    · cases h
    · split at h
      · rename_i first rest htokens waiting verb known hcontinued
        cases h
        unfold continued? at hcontinued
        split at hcontinued
        · cases hcontinued
        · rename_i id verb' args' hpending
          simp only [] at hcontinued
          split at hcontinued
          · cases hcontinued
          · obtain ⟨found, hfound, heq⟩ := Option.map_eq_some_iff.mp hcontinued
            cases heq
            obtain ⟨named, hcommand, hnamed, -, hfills⟩ :=
              (hkept.waits id _ _ hpending).command
            have hsame : named = command := Option.some.inj (hcommand.symm.trans hfound)
            subst hsame
            have hid := hkept.numbered id named hfound
            exact ⟨⟨session.world.player.pending, rfl⟩, hkept.count,
              ⟨halive, hplaying, hid ▸ hfound, hnamed⟩, hfills.of_items rfl rfl rfl⟩
      · rename_i first rest htokens hnone
        obtain ⟨found, hfound, heq⟩ := Option.map_eq_some_iff.mp h
        cases heq
        obtain ⟨id, hname, hcommand⟩ := Option.bind_eq_some_iff.mp hfound
        have hid := hkept.numbered id _ hcommand
        exact ⟨⟨.idle, rfl⟩, hkept.forget.count, ⟨halive, hplaying, hid ▸ hcommand, hfound⟩,
          World.fillsFirst_nil⟩
  · cases h

/-- A line that begins a turn leaves the world as the turn ends. -/
theorem ends_answer (hkept : session.world.Kept)
    (h : session.turn? line = some (turn, command, args)) :
    turn.Ends command args (session.answer line).1.world := by
  obtain ⟨-, hturn, hstarts, hfills⟩ := turn?_cases hkept h
  rw [answer_of_turn? h]
  exact ends_turn command args [] hturn.closed hstarts.known hfills

/-- A turn keeps what has to be kept, however it ends. If its command lacks an argument, the ones
that were found fill their slots, and the next slot is mandatory. -/
theorem kept_of_ends {final : World} (hturn : turn.world.Kept) (hstarts : Starts turn command)
    (hfills : turn.world.FillsFirst command.slots args) (hends : turn.Ends command args final) :
    final.Kept := by
  cases hends with
  | refused pending hfinal hpending hacted hmodel =>
    cases hpending with
    | forgotten => exact hfinal ▸ hturn.forget
    | dark =>
      have hsame : final = turn.world := hfinal
      exact hsame ▸ hturn
    | @lacking found hlacking =>
      have hplayer := hturn.closed.player
      have hfound := World.fillsFirst_fillSlots turn.tokens hfills rfl
      rw [hlacking] at hfound
      rw [hfinal]
      refine ⟨.of_in (World.In.modifyPlayer hturn.closed
          ⟨hplayer.here, hplayer.start, hplayer.previous⟩) (World.setting_modifyPlayer rfl)
          (Nat.le_refl _),
        ⟨hturn.exclusive.own, hturn.exclusive.nodup⟩, hturn.numbered, ?_⟩
      rintro id verb args' ⟨⟩
      have hawaits : turn.world.Awaits command.id turn.verb found :=
        ⟨hstarts.alive, hstarts.playing, command, hstarts.known, hstarts.named,
          World.mandatory_of_lacking rfl hlacking, hfound⟩
      exact hawaits.of_items rfl rfl rfl rfl rfl rfl rfl
  | completed hreports hacted hcarries hevolves =>
    exact (hturn.forget.carries hcarries rfl).evolves hevolves (hcarries.idle rfl)

/-! ## Lines that begin none -/

/-- A line that begins no turn changes the player at most, who then may look around. -/
theorem Quiet.evolves (h : session.Quiet later) :
    ∃ f : Player → Player, (f session.world.player).start = session.world.player.start ∧
      (session.world.modifyPlayer f).Evolves later.world := by
  cases h with
  | stays => exact ⟨id, rfl, .refl _⟩
  | forgets => exact ⟨(·.forget), rfl, .refl _⟩
  | returns hdead =>
    exact ⟨(·.reincarnate session.config.penalty), rfl, World.evolves_lookAround _ true⟩
  | leaves hdead => exact ⟨fun player => { player with playing := false }, rfl, .refl _⟩

theorem Quiet.kept (h : session.Quiet later) (hkept : session.world.Kept) :
    later.world.Kept := by
  have hplayer := hkept.closed.player
  cases h with
  | stays => exact hkept
  | forgets => exact hkept.forget
  | returns hdead =>
    have hin : Player.In session.world.scope
        (session.world.player.reincarnate session.config.penalty) :=
      ⟨hplayer.start, hplayer.start, by rintro _ ⟨⟩⟩
    exact World.Kept.lookAround (hkept.modifyPlayer hin rfl rfl) true
  | leaves hdead =>
    have hin : Player.In session.world.scope { session.world.player with playing := false } :=
      ⟨hplayer.here, hplayer.start, hplayer.previous⟩
    exact World.Kept.modifyPlayer (f := fun player => { player with playing := false }) hkept hin
      rfl (hkept.idle_of_dead hdead)

/-! ## Whole sessions -/

/-- However a session is reached, its world has what has to be kept. -/
theorem Reached.kept (h : Reached session) : session.world.Kept := by
  induction h with
  | @begin document loaded config session hload hstart =>
    have hready := Document.ready_load hload
    have hloaded : loaded.world.Kept :=
      ⟨hready.closed, hready.exclusive, hready.numbered, World.waitsRightly_of_idle hready.idle⟩
    have hplayer := hready.closed.player
    have hprepared : (Session.prepare loaded.world config).Kept := by
      unfold Session.prepare
      refine hloaded.modifyPlayer ⟨hplayer.here, hplayer.start, hplayer.previous⟩ rfl ?_
      exact hready.idle
    rw [(start_ok hstart).1]
    exact hprepared
  | welcome h ih => exact ih.lookAround true
  | answer h line ih =>
    rename_i session
    cases hturn : session.turn? line with
    | none => exact (quiet_answer hturn).kept ih
    | some begun =>
      obtain ⟨turn, command, args⟩ := begun
      obtain ⟨-, hkept, hstarts, hfills⟩ := turn?_cases ih hturn
      exact kept_of_ends hkept hstarts hfills (ends_answer ih hturn)

/-- What endures is kept by every line. -/
theorem answer_keeps {P : World → Prop} (henduring : World.Enduring P)
    (hkept : session.world.Kept) (h : P session.world) (line : String) :
    P (session.answer line).1.world := by
  cases hturn : session.turn? line with
  | none =>
    obtain ⟨f, hstart, hevolves⟩ := (quiet_answer hturn).evolves
    exact hevolves.keeps henduring.change (henduring.player hstart h)
  | some begun =>
    obtain ⟨turn, command, args⟩ := begun
    obtain ⟨⟨pending, hbegins⟩, -, -, -⟩ := turn?_cases hkept hturn
    have hstarted : P turn.world := hbegins ▸ henduring.player rfl h
    have hends := ends_answer hkept hturn
    generalize (session.answer line).1.world = final at hends ⊢
    cases hends with
    | refused pending hfinal hpending hacted hmodel => exact hfinal ▸ henduring.player rfl hstarted
    | completed hreports hacted hcarries hevolves =>
      refine hevolves.keeps henduring.change ?_
      have hforgot := henduring.player (f := (·.forget)) rfl hstarted
      rcases hcarries.cases with hcarried | ⟨holder, key, copy, copied, hmade, hinsert⟩
      · exact hcarried.keeps henduring.change hforgot
      · exact henduring.change _ _ (.insert hinsert) (henduring.copy hmade hforgot)

/-- What endures is kept in all sessions that follow. -/
theorem Follows.keeps {P : World → Prop} (henduring : World.Enduring P) {first : Session}
    (h : Follows first session) (hfirst : Reached first) (hbegin : P first.world) :
    P session.world := by
  induction h with
  | refl => exact hbegin
  | welcome _ ih => exact (World.evolves_lookAround _ true).keeps henduring.change ih
  | answer hfollows line ih =>
    exact answer_keeps henduring (hfollows.reached hfirst).kept ih line

/-- No line changes the setting of a game. -/
theorem setting_answer (h : Reached session) (line : String) :
    (session.answer line).1.world.setting = session.world.setting :=
  answer_keeps (World.enduring_setting _) h.kept rfl line

/-- The setting of a game stays as it was in the beginning. -/
theorem Follows.setting {first : Session} (h : Follows first session) (hfirst : Reached first) :
    session.world.setting = first.world.setting := by
  induction h with
  | refl => rfl
  | welcome _ ih => exact (World.evolves_lookAround _ true).setting.trans ih
  | answer hfollows line ih => exact (setting_answer (hfollows.reached hfirst) line).trans ih

end Session

/-- A description with a mug that is copied when it is put somewhere, a box and a pea. -/
def Document.larder : Document :=
  let labels (name : String) : LabelsDecl := ⟨name, none, none, []⟩
  let item (num : Nat) (attributes name : String) (size : Nat) (place : HolderDecl) : ItemDecl :=
    ⟨⟨num⟩, attributes, labels name, size, none, some place, none, none⟩
  let slot : SlotDecl := ⟨true, true, .either, []⟩
  { name := "larder"
    commands := [⟨⟨1⟩, "", "insert", [], none, [slot, slot], none, []⟩,
      ⟨⟨2⟩, "", "eat", [], some "consume", [slot], none, []⟩]
    items := [item 1 "1803" "mug" 2 (.location ⟨1⟩), item 2 "b" "box" 5 (.inventory ⟨1⟩),
      item 3 "8" "pea" 1 (.inventory ⟨1⟩)]
    locations := [⟨⟨1⟩, "3", labels "hall", ∅⟩]
    events := []
    inventories := [⟨⟨1⟩, 50, true, []⟩]
    players := [⟨⟨1⟩, ""⟩]
    inputs := ∅
    hints := ∅
    explanations := ∅
    responses := ∅ }

/-- The session that begins over it. -/
def Session.larder : Session := (Document.larder.begin? {}).get (by decide +kernel)

theorem Session.begin?_larder : Document.larder.begin? {} = some Session.larder :=
  (Option.some_get _).symm

/-- A description with a cellar below the hall. Pulling the lever opens the way down; it is dark
there, and no exit leads back. -/
def Document.cellar : Document :=
  let labels (name : String) : LabelsDecl := ⟨name, none, none, []⟩
  let item (num : Nat) (attributes name : String) (size : Nat) (place : HolderDecl) : ItemDecl :=
    ⟨⟨num⟩, attributes, labels name, size, none, some place, none, none⟩
  let slot (linkers : List String) : SlotDecl := ⟨true, true, .either, linkers⟩
  { name := "cellar"
    commands := [⟨⟨1⟩, "", "put", [], some "insert", [slot [], slot ["in", "into"]], none, []⟩,
      ⟨⟨2⟩, "1", "down", [], none, [], none, []⟩,
      ⟨⟨3⟩, "", "pull", [], some "interact", [slot []], none, []⟩,
      ⟨⟨4⟩, "", "wear", [], none, [slot []], none, []⟩]
    items := [item 1 "8" "pea" 1 (.inventory ⟨1⟩), item 2 "b" "box" 5 (.inventory ⟨1⟩),
      item 3 "48" "hat" 2 (.inventory ⟨1⟩), item 4 "0" "lever" 9 (.location ⟨1⟩)]
    locations := [⟨⟨1⟩, "3", ⟨"hall", none, none, ["A trap door stands open."]⟩, ∅⟩,
      ⟨⟨2⟩, "2", labels "cellar", ∅⟩]
    events := [⟨⟨1⟩, "", ⟨3⟩, [.item ⟨4⟩], [.playerAt ⟨1⟩], "Click.", 5,
      [.linkDirection ⟨1⟩ "down" (some ⟨2⟩), .describeLocation ⟨1⟩ (some 0)]⟩]
    inventories := [⟨⟨1⟩, 50, true, []⟩]
    players := [⟨⟨1⟩, ""⟩]
    inputs := ∅
    hints := ∅
    explanations := ∅
    responses := ∅ }

/-- The session that begins over it. -/
def Session.cellar : Session := (Document.cellar.begin? {}).get (by decide +kernel)

theorem Session.begin?_cellar : Document.cellar.begin? {} = some Session.cellar :=
  (Option.some_get _).symm

end Adventure
