import Adventure.Proofs.Turn.Arrival
import Adventure.Proofs.Turn.Firing
import Adventure.Proofs.Turn.Resuming

/-!
# What the player dies of

In a turn the player dies of a mishap on arriving somewhere, or of the event that fires, and of
nothing else. Each of the two tells the death itself or leaves it to the last stage, which is known
from a mark on the turn: a mishap always sets it, and an event does if it has a text. Here the
stages between the beginning and the end of a turn are gone through for whether the player lives
and for the mark.
-/

namespace Adventure

namespace Turn

/-- The settings of a turn, whether it has told a death, and whether the player lives. -/
def condition (turn : Turn) : Config × Bool × Bool :=
  (turn.config, turn.deathNarrated, turn.world.player.alive)

/-- What a stage does that neither kills the player nor tells a death. -/
structure Spares (turn : Turn) (result : Turn × Report) : Prop where
  /-- The settings, what was told of a death and whether the player lives are as before. -/
  condition : result.1.condition = turn.condition

variable {turn : Turn} {args : List Arg}

/-- What a stage does that only concerns things and places: the settings, what was told of a death,
the player and the events are as before. -/
structure KeepsToThings (turn : Turn) (result : Turn × Report) : Prop where
  /-- The settings are as before. -/
  config : result.1.config = turn.config
  /-- What was told of a death is as before. -/
  told : result.1.deathNarrated = turn.deathNarrated
  /-- Nothing has changed but things and places. -/
  things : turn.world.ThingsOnly result.1.world

theorem KeepsToThings.spares {result : Turn × Report} (h : turn.KeepsToThings result) :
    turn.Spares result :=
  ⟨Prod.ext h.config (Prod.ext h.told (congrArg Player.alive h.things.player))⟩

theorem KeepsToThings.stay (turn : Turn) (report : Report) : turn.KeepsToThings (turn, report) :=
  ⟨rfl, rfl, .refl _⟩

theorem KeepsToThings.change {world : World} (h : turn.world.ThingsOnly world) (report : Report) :
    turn.KeepsToThings (turn.withWorld world, report) := ⟨rfl, rfl, h⟩

theorem KeepsToThings.settle {outcome : World × Except WorldError Unit}
    {change : Except WorldError World} {key : String} {values : List String}
    (houtcome : outcome = turn.world.attempt change)
    (h : ∀ world, change = .ok world → turn.world.ThingsOnly world) :
    turn.KeepsToThings (Stage.settle turn outcome key values args) := by
  subst houtcome
  cases change with
  | ok world => exact .change (h world rfl) _
  | error refusal => exact .stay _ _

theorem Settles.keepsToThings {deed : Deed} {result : Turn × Report}
    (h : turn.Settles deed result) : turn.KeepsToThings result := by
  cases h with
  | refused _ => exact .stay _ _
  | done _ hdeed hdoes => exact .change (hdoes.thingsOnly hdeed) _

theorem OnlyTells.keepsToThings {result : Turn × Report} (h : turn.OnlyTells result) :
    turn.KeepsToThings result := by
  cases h with
  | stays report => exact .stay _ _
  | looks _ => exact .change (turn.world.thingsOnly_lookAround true) _

/-- What keeps to things after a change of things does so as a whole. -/
theorem KeepsToThings.after {world : World} {result : Turn × Report}
    (hfirst : turn.world.ThingsOnly world) (h : (turn.withWorld world).KeepsToThings result) :
    turn.KeepsToThings result := ⟨h.config, h.told, hfirst.trans h.things⟩

end Turn

namespace Stage

variable {turn : Turn} (command : Command) {args : List Arg}

theorem keepsToThings_drop : turn.KeepsToThings (drop turn command args) := by
  rcases drop_outcome command with ⟨report, -, hstage⟩ | ⟨key, -, -, hstage⟩
  · rw [hstage]
    exact .stay _ _
  · rw [hstage]
    refine .after (turn.world.thingsOnly_modifyItem key (·.withWorn false)) ?_
    split
    · exact .settle (World.tryDestroy_eq _ _) fun world h => World.thingsOnly_destroy h
    · exact .settle (World.tryInsert_eq _ _ _) fun world h => World.thingsOnly_insert h

theorem keepsToThings_insert : turn.KeepsToThings (insert turn command args) := by
  unfold insert
  split
  · rename_i key container hkey hcontainer
    simp only []
    split
    · rename_i item target hitem htarget
      split
      · exact .stay _ _
      · split
        · exact .stay _ _
        · split
          · exact .stay _ _
          · split
            · exact .stay _ _
            · split
              · exact .stay _ _
              · split
                · exact .stay _ _
                · by_cases hcopied : item.attributes.has ItemFlags.copyable = true
                  · simp only [hcopied, if_true]
                    have hcopies := turn.world.thingsOnly_copyInto (.item container) key
                    split <;> exact .change hcopies _
                  · simp only [hcopied, Bool.false_eq_true, if_false, World.tryInsert_eq]
                    cases hinsert : turn.world.insert (.item container) key with
                    | ok changed => exact .change (World.thingsOnly_insert hinsert) _
                    | error refusal => cases refusal <;> exact .stay _ _
    · exact .stay _ _
  · exact .stay _ _

theorem keepsToThings_switch : turn.KeepsToThings (switch turn command args) := by
  rcases switch_outcome command with ⟨report, -, hstage⟩ | ⟨target, on, report, -, hstage⟩
  · rw [hstage]
    exact .stay _ _
  · rw [hstage]
    exact .change (turn.world.thingsOnly_setTarget on target) _

theorem spares_setPlayer : turn.Spares (setPlayer turn command args) := by
  unfold setPlayer
  split
  · exact (Turn.KeepsToThings.stay _ _).spares
  · exact ⟨rfl⟩

end Stage

namespace Handler

/-- Whether the handler concerns the player: it moves the player, switches an attribute of the
player or gives up. -/
def concernsPlayer : Handler → Bool
  | go | teleport | setPlayer | quit => true
  | _ => false

/-- Every other handler keeps to things and places. -/
theorem keepsToThings {handler : Handler} (h : handler.concernsPlayer = false) (turn : Turn)
    (command : Command) (args : List Arg) :
    turn.KeepsToThings (handler.stage turn command args) := by
  cases handler with
  | go | teleport | setPlayer | quit => cases h
  | drop => exact Stage.keepsToThings_drop command
  | insert => exact Stage.keepsToThings_insert command
  | switch => exact Stage.keepsToThings_switch command
  | take | wear | remove | consume | pour => exact (settles rfl turn command args).keepsToThings
  | _ => exact (onlyTells rfl turn command args).keepsToThings

/-- A handler that does not move the player neither kills nor tells a death. -/
theorem spares {handler : Handler} (hstays : handler.moves = false) (turn : Turn)
    (command : Command) (args : List Arg) : turn.Spares (handler.stage turn command args) := by
  by_cases hconcerns : handler.concernsPlayer = false
  · exact (keepsToThings hconcerns turn command args).spares
  · cases handler with
    | go => cases hstays
    | teleport => cases hstays
    | setPlayer => exact Stage.spares_setPlayer command
    | quit => exact ⟨rfl⟩
    | _ => exact absurd rfl hconcerns

end Handler

/-! ## Arrivals -/

namespace Turn

variable {turn : Turn} {destination : LocationId}

/-- After the move, a safe arrival only concerns things and places. -/
theorem keepsToThings_arrived (turn : Turn) (destination : LocationId) (args : List Arg) :
    (turn.withWorld (turn.world.movedTo destination)).KeepsToThings
      (turn.arrived destination args) := by
  unfold arrived
  dsimp only
  split
  · -- What is told of the place does not matter for what becomes of it.
    exact ⟨rfl, rfl, (turn.world.movedTo destination).thingsOnly_lookAround true⟩
  · exact ⟨rfl, rfl, .refl _⟩

theorem spares_arrived (turn : Turn) (destination : LocationId) (args : List Arg) :
    turn.Spares (turn.arrived destination args) :=
  ⟨(turn.keepsToThings_arrived destination args).spares.condition⟩

/-- A mishap kills, and it is marked that the death has been told. -/
theorem condition_perished {mishap : Mishap} (h : turn.world.mishap? destination = some mishap) :
    (turn.perished destination).condition = (turn.config, true, false) := by
  have hmortal : turn.world.player.isImmune = false := World.not_immune_of_mishap h
  have hdies : (turn.world.movedTo destination).player.die =
      { (turn.world.movedTo destination).player with alive := false } :=
    if_neg (ne_true_of_eq_false hmortal)
  exact congrArg (fun player : Player => (turn.config, true, player.alive)) hdies

/-- The mishap that befalls the player in a turn, if there is one. -/
def mishap? (turn : Turn) (command : Command) (args : List Arg) : Option Mishap :=
  (turn.prepared? command args).bind fun (turn, args) =>
    if command.chosenHandler.moves && (command.chosenHandler.stage turn command args).2.success
    then (args.head?.bind (·.location?)).bind turn.world.mishap?
    else none

variable {command : Command} {args next : List Arg} {passed : Turn}

/-- A handler that is not refused lets the player live, or the player has met with the mishap of the
turn. -/
theorem spares_or_mishap (hprepared : turn.prepared? command args = some (passed, next))
    (hsuccess : (command.chosenHandler.stage passed command next).2.success = true) :
    (turn.mishap? command args = none ∧
        passed.Spares (command.chosenHandler.stage passed command next)) ∨
      ∃ mishap destination, turn.mishap? command args = some mishap ∧
        passed.world.mishap? destination = some mishap ∧
          command.chosenHandler.stage passed command next =
            (passed.perished destination, passed.say mishap.responseKey [] next) := by
  have hforeseen : turn.mishap? command args = if command.chosenHandler.moves then
      (next.head?.bind (·.location?)).bind passed.world.mishap? else none := by
    simp only [mishap?, hprepared, Option.bind_some, hsuccess, Bool.and_true]
  rw [hforeseen]
  cases hmoves : command.chosenHandler.moves with
  | false => exact .inl ⟨rfl, Handler.spares hmoves passed command next⟩
  | true =>
    obtain ⟨destination, hgoal, hstage⟩ := Handler.arrives command hmoves hsuccess
    rw [hstage, arrive_eq, hgoal, if_pos rfl, Option.bind_some]
    cases hmishap : passed.world.mishap? destination with
    | none => exact .inl ⟨rfl, passed.spares_arrived destination next⟩
    | some mishap => exact .inr ⟨mishap, destination, rfl, hmishap, rfl⟩

end Turn

/-! ## Light -/

/-- Reporting the light only concerns things and places, is never refused and takes back nothing
that was said. -/
theorem Stage.keepsToThings_postVision (turn : Turn) (command : Command) (args : List Arg) :
    turn.KeepsToThings (postVision turn command args) ∧
      (postVision turn command args).2.success = true ∧
        (postVision turn command args).2.overrides = false := by
  by_cases hsame : turn.couldSee = turn.world.canSee
  · rw [postVision_of_eq command args hsame]
    exact ⟨.stay _ _, rfl, rfl⟩
  · rw [postVision_of_ne command args hsame]
    exact ⟨⟨rfl, rfl, turn.world.thingsOnly_lookAround true⟩, rfl, rfl⟩

/-- The text of a report, if it is not empty. -/
def Report.fragment (report : Report) : List String :=
  if report.text.isEmpty then [] else [report.text]

/-- A report that takes back nothing adds its text to what was said. -/
theorem Report.addTo_of_keeps {report : Report} (h : report.overrides = false)
    (said : List String) : report.addTo said = said ++ report.fragment := by
  rw [addTo, h, if_neg Bool.noConfusion, fragment]

/-- After a report that takes back everything, its text is all that is said. -/
theorem Report.addTo_of_overrides {report : Report} (h : report.overrides = true)
    (said : List String) : report.addTo said = report.fragment := by
  rw [addTo, h, if_pos rfl, List.nil_append, fragment]

/-- So it goes for the stages between the handler and the events. -/
theorem spares_watching (turn : Turn) (command : Command) (args : List Arg) (rest : List Stage)
    (said : List String) :
    ∃ watched next more, passStages? command command.watching turn args = some (watched, next) ∧
      watched.condition = turn.condition ∧
      runStages command (command.watching ++ rest) turn args said =
        runStages command rest watched next (said ++ more) := by
  unfold Command.watching
  split
  · obtain ⟨hthings, hsuccess, hkeeps⟩ := Stage.keepsToThings_postVision turn command args
    rw [List.singleton_append]
    simp only [passStages?, runStages]
    generalize Stage.postVision turn command args = result at hthings hsuccess hkeeps ⊢
    obtain ⟨watched, report⟩ := result
    rw [if_pos hsuccess, if_pos hsuccess]
    refine ⟨watched, report.next, report.fragment, rfl, hthings.spares.condition, ?_⟩
    rw [Report.addTo_of_keeps hkeeps]
  · exact ⟨turn, args, [], rfl, rfl, by rw [List.append_nil, List.nil_append]⟩

/-! ## Events -/

namespace Stage

variable {turn : Turn} {command : Command} {args : List Arg}

/-- If no event fires, nothing happens. -/
theorem events_of_unanswered
    (h : turn.world.fires? (turn.world.eventKey command.id args) = none) :
    events turn command args = (turn, .silent args) := by
  rcases events_cases turn command args with
    ⟨hsilent, -⟩ | ⟨id, event, done, hready, hevent, hdone, -⟩
  · exact hsilent
  · rw [World.fires?_eq_some_iff.mpr ⟨hready, event, done, hevent, hdone⟩] at h
    cases h

/-- An event that fires may kill the player, and marks the death as told if it has a text. -/
theorem events_of_fires {id : EventId}
    (h : turn.world.fires? (turn.world.eventKey command.id args) = some id) :
    ∃ event final dies, turn.world.event? id = some event ∧
      (dies = true → event.attributes.has EventFlags.killsPlayer = true) ∧
      final.player.alive = (turn.world.player.alive && !dies) ∧
      events turn command args =
        ({ turn with
            world := final
            deathNarrated := turn.deathNarrated || dies && !event.outcome.text.isEmpty },
          event.report final args) := by
  obtain ⟨hready, event, done, hevent, hdone⟩ := World.fires?_eq_some_iff.mp h
  rcases events_cases turn command args with
    ⟨-, hquiet⟩ | ⟨other, found, changed, hother, hfound, hchanged, hstage⟩
  · exact absurd hdone (hquiet id event hready hevent done)
  cases hready.symm.trans hother
  have halive : changed.player.alive = turn.world.player.alive := by
    rw [(World.applyAll_eq_ok_iff.mp hchanged).2]
    exact turn.world.alive_actOut found.outcome.actions
  let fired := (changed.award found.outcome.score).markFired id
  let dies := found.attributes.has EventFlags.killsPlayer && !fired.player.isImmune
  refine ⟨found, if dies then fired.modifyPlayer (·.die) else fired, dies, hfound,
    fun hdies => (Bool.and_eq_true_iff.mp hdies).1, ?_, hstage⟩
  cases hdies : dies with
  | false => rw [if_neg Bool.noConfusion, Bool.not_false, Bool.and_true, ← halive]; rfl
  | true =>
    have hmortal : fired.player.isImmune = false :=
      (Bool.not_eq_true' _).mp (Bool.and_eq_true_iff.mp hdies).2
    have hdead : fired.player.die = { fired.player with alive := false } :=
      if_neg (ne_true_of_eq_false hmortal)
    rw [if_pos rfl, World.modifyPlayer, hdead, Bool.not_true, Bool.and_false]

/-- Whatever fires, the settings stay, a death that is marked as told stays so, and the turn goes
on. -/
theorem keeps_events (turn : Turn) (command : Command) (args : List Arg) :
    (events turn command args).1.config = turn.config ∧
      (turn.deathNarrated = true → (events turn command args).1.deathNarrated = true) ∧
        (events turn command args).2.success = true := by
  cases hfires : turn.world.fires? (turn.world.eventKey command.id args) with
  | none =>
    rw [events_of_unanswered hfires]
    exact ⟨rfl, id, rfl⟩
  | some id =>
    obtain ⟨event, final, dies, -, -, -, hstage⟩ := events_of_fires hfires
    rw [hstage]
    exact ⟨rfl, fun hmarked => Bool.or_eq_true_iff.mpr (.inl hmarked), rfl⟩

/-- If the player dies while events are looked for, the event that fires has killed the player. -/
theorem exists_killer (halive : turn.world.player.alive = true)
    (hdead : (events turn command args).1.world.player.alive = false) :
    ∃ id event final reckoned, turn.world.fires? (turn.world.eventKey command.id args) = some id ∧
      turn.world.event? id = some event ∧
      event.attributes.has EventFlags.killsPlayer = true ∧
      events turn command args = (reckoned, event.report final args) ∧
      reckoned.deathNarrated = (turn.deathNarrated || !event.outcome.text.isEmpty) := by
  cases hfires : turn.world.fires? (turn.world.eventKey command.id args) with
  | none =>
    rw [events_of_unanswered hfires, halive] at hdead
    cases hdead
  | some id =>
    obtain ⟨event, final, dies, hevent, hkills, hlives, hstage⟩ := events_of_fires hfires
    have hdies : dies = true := by
      rw [hstage] at hdead
      have hlost : final.player.alive = false := hdead
      simpa [hlives, halive] using hlost
    subst hdies
    exact ⟨id, event, final, _, rfl, hevent, hkills rfl, hstage, rfl⟩

end Stage

end Adventure
