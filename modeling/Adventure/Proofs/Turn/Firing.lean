import Adventure.Proofs.Session.Reached
import Adventure.Proofs.Turn.Effects
import Adventure.Proofs.World.Things

/-!
# Events fire as a whole

Which event answers a command is settled before anything is done: it is the first in the list that
may still fire and has all its prerequisites. Its actions are done one after the other. If one of
them is refused, what the others have done is undone, and it is as if there were no such event; if
not, the points, the note and the death of the player follow from what the actions have left.
-/

namespace Adventure

namespace World

/-- An event is the next to answer a key: of the events found by the key, it is the first that may
still fire and has all its prerequisites. -/
structure Next (world : World) (key : EventKey) (id : EventId) (event : Event) : Prop where
  /-- It is an event of the world. -/
  event_eq : world.event? id = some event
  /-- It may still fire. -/
  armed : event.isArmed = true
  /-- All its prerequisites hold. -/
  met : ∀ prerequisite ∈ event.prerequisites, world.meets prerequisite = true
  /-- None before it may still fire and has all its prerequisites. -/
  first : ∃ before after, world.eventsFor key = before ++ id :: after ∧
    ∀ other ∈ before, ∀ earlier, world.event? other = some earlier → earlier.isArmed = true →
      ∃ prerequisite ∈ earlier.prerequisites, world.meets prerequisite = false

/-- What actions make of a world that are done one after the other. -/
def actOut (world : World) (actions : List Action) : World :=
  actions.foldl (fun world action => (world.apply action).1) world

/-- Some action is refused when its turn comes. -/
def Refuses (world : World) (actions : List Action) : Prop :=
  ∃ before action after refusal, actions = before ++ action :: after ∧
    ((world.actOut before).apply action).2 = .error refusal

variable {world changed : World} {key : EventKey} {id : EventId} {action : Action}
  {actions : List Action}

/-! ## The event that is next -/

/-- An event is ready if it may still fire and has all its prerequisites. -/
theorem isReady_eq_true_iff {event : Event} : world.isReady event = true ↔
    event.isArmed = true ∧
      ∀ prerequisite ∈ event.prerequisites, world.meets prerequisite = true := by
  rw [isReady, Bool.and_eq_true, List.all_eq_true]

/-- The event that would fire is the next one. -/
theorem readyEvent?_eq_some_iff :
    world.readyEvent? key = some id ↔ ∃ event, world.Next key id event := by
  have hready (other : EventId) : (world.event? other).any world.isReady = true ↔
      ∃ event, world.event? other = some event ∧ world.isReady event = true :=
    Option.any_eq_true _ _
  rw [readyEvent?, List.find?_eq_some_iff_append]
  constructor
  · rintro ⟨hid, before, after, hlist, hbefore⟩
    obtain ⟨event, hevent, hevent_ready⟩ := (hready id).mp hid
    obtain ⟨harmed, hmet⟩ := isReady_eq_true_iff.mp hevent_ready
    refine ⟨event, hevent, harmed, hmet, before, after, hlist,
      fun other hmem earlier hearlier => ?_⟩
    intro hstill
    have hnot := hbefore other hmem
    simpa [hearlier, isReady, hstill] using hnot
  · rintro ⟨event, hevent, harmed, hmet, before, after, hlist, hbefore⟩
    refine ⟨(hready id).mpr ⟨event, hevent, isReady_eq_true_iff.mpr ⟨harmed, hmet⟩⟩, before, after,
      hlist, fun other hmem => ?_⟩
    rw [Bool.not_eq_true', Bool.eq_false_iff]
    intro hother
    obtain ⟨earlier, hearlier, hearlier_ready⟩ := (hready other).mp hother
    obtain ⟨hstill, hall⟩ := isReady_eq_true_iff.mp hearlier_ready
    obtain ⟨prerequisite, hprerequisite, hunmet⟩ := hbefore other hmem earlier hearlier hstill
    rw [hall prerequisite hprerequisite] at hunmet
    cases hunmet

/-! ## Actions one after the other -/

/-- Of some actions one is refused if the first is, or one of the others after it. -/
theorem refuses_cons : world.Refuses (action :: actions) ↔
    (∃ refusal, (world.apply action).2 = .error refusal) ∨
      (world.apply action).1.Refuses actions := by
  constructor
  · rintro ⟨before, found, after, refusal, hlist, hrefused⟩
    cases before with
    | nil =>
      obtain ⟨rfl, rfl⟩ := List.cons.inj hlist
      exact .inl ⟨refusal, hrefused⟩
    | cons first rest =>
      obtain ⟨rfl, rfl⟩ := List.cons.inj hlist
      exact .inr ⟨rest, found, after, refusal, rfl, hrefused⟩
  · rintro (⟨refusal, hrefused⟩ | ⟨before, found, after, refusal, rfl, hrefused⟩)
    · exact ⟨[], action, actions, refusal, rfl, hrefused⟩
    · exact ⟨action :: before, found, after, refusal, rfl, hrefused⟩

/-- Actions are all done exactly if none is refused, and then they are done one after the other. -/
theorem applyAll_eq_ok_iff : world.applyAll actions = .ok changed ↔
    ¬ world.Refuses actions ∧ changed = world.actOut actions := by
  induction actions generalizing world with
  | nil =>
    have hnone : ¬ world.Refuses [] := by
      rintro ⟨before, action, after, refusal, hlist, -⟩
      cases before <;> cases hlist
    have hall : world.applyAll [] = .ok world := rfl
    rw [hall, Except.ok.injEq, and_iff_right hnone, eq_comm]
    rfl
  | cons action rest ih =>
    have hout : world.actOut (action :: rest) = (world.apply action).1.actOut rest := rfl
    rw [applyAll_cons_eq, refuses_cons, hout]
    obtain ⟨between, outcome⟩ := world.apply action
    cases outcome with
    | error refusal => simp
    | ok _ => simpa using ih

/-- Whether some action is refused can be found out by trying them all. -/
theorem refuses_iff : world.Refuses actions ↔ (world.applyAll actions).isOk = false := by
  cases happly : world.applyAll actions with
  | ok changed => simp [Except.isOk, Except.toBool, (applyAll_eq_ok_iff.mp happly).1]
  | error refusal =>
    refine iff_of_true (by_contra fun hdone => ?_) rfl
    rw [applyAll_eq_ok_iff.mpr ⟨hdone, rfl⟩] at happly
    cases happly

/-- An action that changes more than things and places sets or clears an attribute of the player, or
moves the player. -/
theorem apply_cases (world : World) (action : Action) :
    world.ThingsOnly (world.apply action).1 ∨
      (∃ flag on, action = .setPlayerAttribute flag on ∧ (world.apply action).1 =
        world.modifyPlayer fun p => { p with attributes := p.attributes.assign flag on }) ∨
      ∃ destination, action = .movePlayer destination ∧
        (world.apply action).1 = world.modifyPlayer (·.moveTo destination) := by
  have hdestroys (world : World) (item : ItemKey) : world.ThingsOnly (world.tryDestroy item).1 := by
    rw [tryDestroy_eq]
    exact attempt_keeps (.refl world) fun _ h => thingsOnly_destroy h
  have hinserts (world : World) (place : Holder) (item : ItemKey) :
      world.ThingsOnly (world.tryInsert place item).1 := by
    rw [tryInsert_eq]
    exact attempt_keeps (.refl world) fun _ h => thingsOnly_insert h
  cases action with
  | destroyItem item => exact .inl (hdestroys world item)
  | moveItem item place => exact .inl (hinserts world place item)
  | giveItem item =>
    simp only [apply]
    split
    · exact .inl (hinserts world _ item)
    · exact .inl (.refl world)
  | replaceItem outgoing incoming =>
    have hdestroyed := hdestroys world outgoing
    simp only [apply]
    split
    · rename_i destroyed refusal hdestroy
      exact .inl (hdestroy ▸ hdestroyed)
    · rename_i destroyed hdestroy
      rw [hdestroy] at hdestroyed
      split
      · exact .inl (hdestroyed.trans (hinserts destroyed _ incoming))
      · exact .inl hdestroyed
  | setPlayerAttribute flag on => exact .inr (.inl ⟨flag, on, rfl, rfl⟩)
  | setLocationAttribute location flag on =>
    simp only [apply]
    split
    · exact .inl (world.thingsOnly_setTarget on (.location location flag))
    · exact .inl (.refl world)
  | setItemAttribute item flag on =>
    simp only [apply]
    split
    · exact .inl (world.thingsOnly_setTarget on (.item item flag))
    · exact .inl (.refl world)
  | linkDirection location direction destination =>
    exact .inl (attempt_keeps (.refl world) fun _ h => thingsOnly_relink h)
  | describeLocation location extension =>
    simp only [apply]
    split
    · exact .inl (thingsOnly_modifyLocation _ _ _)
    · exact .inl (.refl world)
  | movePlayer location =>
    simp only [apply]
    split
    · exact .inr (.inr ⟨location, rfl, rfl⟩)
    · exact .inl (.refl world)

/-- Actions do not kill the player, nor bring a dead one back to life. -/
theorem alive_apply (world : World) (action : Action) :
    (world.apply action).1.player.alive = world.player.alive := by
  rcases world.apply_cases action with hthings | ⟨flag, on, -, happly⟩ | ⟨destination, -, happly⟩
  · rw [hthings.player]
  · rw [happly]
    rfl
  · rw [happly]
    rfl

theorem alive_actOut (world : World) (actions : List Action) :
    (world.actOut actions).player.alive = world.player.alive :=
  List.foldlRecOn actions _ (motive := fun later : World => later.player.alive = world.player.alive)
    rfl fun later hlater action _ => (later.alive_apply action).trans hlater

/-- The score and the note that an event leaves, and the death that comes last. Neither of the
others decides whether the player is immune. -/
theorem settled_eq {done : World} (hledger : done.ledger = world.ledger)
    (halive : done.player.alive = world.player.alive) (id : EventId) (event : Event) :
    let fired := (done.award event.outcome.score).markFired id
    let dies := event.attributes.has EventFlags.killsPlayer && !done.player.isImmune
    (if dies then fired.modifyPlayer (·.die) else fired) = { done with
      player := { done.player with
        score := min Count.limit (world.player.score + event.outcome.score)
        alive := world.player.alive && !dies }
      events := world.events.modify id fun e => { e with fired := true } } := by
  intro fired dies
  have hscore : min Count.limit (world.player.score + event.outcome.score) =
      Count.add done.player.score event.outcome.score := by
    rw [score_of_ledger hledger, Count.add, Nat.min_comm]
  have hevents : world.events = done.events := (congrArg Prod.snd hledger).symm
  rw [hscore, hevents, ← halive]
  cases hdies : dies with
  | false => simp only [Bool.false_eq_true, if_false, Bool.not_false, Bool.and_true]; rfl
  | true =>
    have hmortal : fired.player.isImmune = false :=
      (Bool.not_eq_true' done.player.isImmune).mp (Bool.and_eq_true_iff.mp hdies).2
    have hdead : fired.player.die = { fired.player with alive := false } := by
      rw [Player.die, hmortal]
      rfl
    rw [if_pos rfl, modifyPlayer, hdead, Bool.not_true, Bool.and_false]
    rfl

end World

namespace Stage

/-- If no event is next, or one of its actions is refused, nothing happens. -/
theorem events_eq_silent {turn : Turn} {command : Command} {args : List Arg}
    (hrefuses : ∀ id event, turn.world.Next (turn.world.eventKey command.id args) id event →
      turn.world.Refuses event.outcome.actions) :
    events turn command args = (turn, .silent args) := by
  rcases events_cases turn command args with
    ⟨hsilent, -⟩ | ⟨id, event, done, hready, hevent, hdone, -⟩
  · exact hsilent
  · obtain ⟨found, hnext⟩ := World.readyEvent?_eq_some_iff.mp hready
    cases hevent.symm.trans hnext.event_eq
    exact absurd (hrefuses id event hnext) (World.applyAll_eq_ok_iff.mp hdone).1

/-- **Events fire as a whole or not at all.** If no event is next to answer a command, or one of the
actions of the one that is gets refused, the turn goes on as it was, without a word. Otherwise all
actions of the next event are done one after the other; its points are awarded on top of the old
score, up to the limit of counting; it is noted, and no other event is; and the player dies if the
event kills and the player is not immune by then. The arguments are handed on, and what was said
before is discarded exactly if the event has a text. -/
theorem events_all_or_nothing (turn : Turn) (command : Command) (args : List Arg) :
    let world := turn.world
    let key := world.eventKey command.id args
    ((∀ id event, world.Next key id event → world.Refuses event.outcome.actions) →
        events turn command args = (turn, .silent args)) ∧
      ∀ id event, world.Next key id event → ¬ world.Refuses event.outcome.actions →
        let outcome := event.outcome
        let done := world.actOut outcome.actions
        let dies := event.attributes.has EventFlags.killsPlayer && !done.player.isImmune
        let final : World := { done with
          player := { done.player with
            score := min Count.limit (world.player.score + outcome.score)
            alive := world.player.alive && !dies }
          events := world.events.modify id fun e => { e with fired := true } }
        events turn command args =
            ({ turn with
                world := final
                deathNarrated := turn.deathNarrated || dies && !outcome.text.isEmpty },
              { success := true
                template := outcome.text
                values := if outcome.text.isEmpty then [] else args.map final.argText
                next := args
                overrides := !outcome.text.isEmpty }) ∧
          ∀ other, final.hasFired other = (other == id || world.hasFired other) := by
  intro world key
  refine ⟨events_eq_silent, fun id event hnext hdone => ?_⟩
  intro outcome done dies final
  have hready : turn.world.readyEvent? (turn.world.eventKey command.id args) = some id :=
    World.readyEvent?_eq_some_iff.mpr ⟨event, hnext⟩
  have hevent : turn.world.event? id = some event := hnext.event_eq
  have happly : turn.world.applyAll event.outcome.actions = .ok done :=
    World.applyAll_eq_ok_iff.mpr ⟨hdone, rfl⟩
  have hfinal : (if dies then ((done.award outcome.score).markFired id).modifyPlayer (·.die)
      else (done.award outcome.score).markFired id) = final :=
    World.settled_eq (World.ledger_applyAll happly) (world.alive_actOut outcome.actions) id event
  refine ⟨?_, World.hasFired_of_paid hevent (congrArg (·, _) (Nat.min_comm _ _))⟩
  rw [← hfinal]
  rcases events_cases turn command args with
    ⟨-, hquiet⟩ | ⟨other, found, changed, hother, hfound, hchanged, hstage⟩
  · exact absurd happly (hquiet id event hready hevent done)
  · cases hready.symm.trans hother
    cases hevent.symm.trans hfound
    cases happly.symm.trans hchanged
    exact hstage

/-- Pulling the lever opens the trap door and pays. If the lever were to crush the pea and then put
the box into the hat, which holds nothing, the pea would stay whole. -/
theorem events_all_or_nothing_cellar :
    let turn := Session.cellar.countedTurn "pull" []
    let pull : Command := { id := ⟨3⟩, name := "pull", handler := "interact" }
    let lever := [Arg.item ⟨3⟩]
    let stuck := turn.withWorld (turn.world.modifyEvent ⟨1⟩ fun event =>
      { event with outcome := { event.outcome with
        actions := [.destroyItem ⟨0⟩, .moveItem ⟨1⟩ (.item ⟨2⟩)] } })
    (∃ event, turn.world.Next (turn.world.eventKey pull.id lever) ⟨1⟩ event ∧
        ¬ turn.world.Refuses event.outcome.actions) ∧
      (events turn pull lever).1.world.hasFired ⟨1⟩ = true ∧
      (events turn pull lever).1.world.player.score = 5 ∧
      (∀ id event, stuck.world.Next (stuck.world.eventKey pull.id lever) id event →
        stuck.world.Refuses event.outcome.actions) ∧
      events stuck pull lever = (stuck, .silent lever) := by
  intro turn pull lever stuck
  have hready : turn.world.readyEvent? (turn.world.eventKey pull.id lever) = some ⟨1⟩ := by
    decide +kernel
  obtain ⟨event, hnext⟩ := World.readyEvent?_eq_some_iff.mp hready
  have hwhole : ((turn.world.event? ⟨1⟩).map (·.outcome.score) = some 5 ∧
      (turn.world.event? ⟨1⟩).any fun event =>
        (turn.world.applyAll event.outcome.actions).isOk) := by decide +kernel
  rw [hnext.event_eq] at hwhole
  have hdone : ¬ turn.world.Refuses event.outcome.actions := fun hrefuses =>
    Bool.noConfusion ((World.refuses_iff.mp hrefuses).symm.trans hwhole.2)
  have hrefuses : ∀ id event, stuck.world.Next (stuck.world.eventKey pull.id lever) id event →
      stuck.world.Refuses event.outcome.actions := by
    intro id event hstuck
    have hid : some ⟨1⟩ = some id := Eq.trans
      (show some ⟨1⟩ = stuck.world.readyEvent? (stuck.world.eventKey pull.id lever) by
        decide +kernel) (World.readyEvent?_eq_some_iff.mpr ⟨event, hstuck⟩)
    have hfails : (stuck.world.event? ⟨1⟩).all fun event =>
        !(stuck.world.applyAll event.outcome.actions).isOk := by decide +kernel
    cases hid
    rw [hstuck.event_eq] at hfails
    exact World.refuses_iff.mpr ((Bool.not_eq_true' _).mp hfails)
  obtain ⟨hfires, hfired⟩ := (events_all_or_nothing turn pull lever).2 ⟨1⟩ event hnext hdone
  refine ⟨⟨event, hnext, hdone⟩, ?_, ?_, hrefuses,
    (events_all_or_nothing stuck pull lever).1 hrefuses⟩
  · rw [hfires]
    exact hfired ⟨1⟩
  · rw [hfires]
    have hscore : event.outcome.score = 5 := Option.some.inj hwhole.1
    have hnone : turn.world.player.score = 0 := by decide +kernel
    simp only [hscore, hnone]
    rfl

end Stage

end Adventure
