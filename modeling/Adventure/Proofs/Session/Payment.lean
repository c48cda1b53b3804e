import Adventure.Proofs.Session.Course
import Adventure.Proofs.Turn.Payment

/-!
# Events pay once

An event that has fired is noted, and nothing ever takes the note back, not even death. An event
that may not be repeated fires only without such a note, hence once at most. As long as no event may
be repeated and the player is not reincarnated, the score is the sum of the points of all events
that have fired, up to the limit of counting.
-/

namespace Adventure.Session

variable {session first : Session} {line : String} {lines : List String} {id : EventId}

/-- The events that fire while lines are played, in their order. -/
def firings (session : Session) : List String → List EventId
  | [] => []
  | line :: rest => (session.fires? line).toList ++ (session.answer line).1.firings rest

/-- Whether a dead player comes back to life in answer to a line. -/
def revives (session : Session) (line : String) : Bool :=
  !session.world.player.alive && (session.answer line).1.world.player.alive

/-- Whether the player comes back to life while lines are played. -/
def revivesAny (session : Session) : List String → Bool
  | [] => false
  | line :: rest => session.revives line || (session.answer line).1.revivesAny rest

/-! ## One line -/

/-- A line in answer to which no event fires leaves the events alone, and the score unless the
player comes back to life. -/
theorem ledger_answer (h : Reached session) (hnone : session.fires? line = none) :
    (session.answer line).1.world.events = session.world.events ∧
      (session.revives line = false →
        (session.answer line).1.world.ledger = session.world.ledger) := by
  cases hturn : session.turn? line with
  | none =>
    have hquiet := quiet_answer hturn
    unfold revives
    generalize (session.answer line).1 = later at hquiet ⊢
    cases hquiet with
    | stays => exact ⟨rfl, fun _ => rfl⟩
    | forgets => exact ⟨rfl, fun _ => rfl⟩
    | leaves hdead => exact ⟨rfl, fun _ => rfl⟩
    | returns hdead =>
      have hlooks := ((session.world.modifyPlayer
        (·.reincarnate session.config.penalty)).rests_lookAround true).ledger
      refine ⟨congrArg Prod.snd hlooks, fun hstays => ?_⟩
      rw [hdead] at hstays
      unfold World.lookAround at hstays
      simp only [withWorld] at hstays
      split at hstays <;> cases hstays
  | some begun =>
    obtain ⟨turn, command, args⟩ := begun
    obtain ⟨⟨pending, hbegins⟩, -, -, -⟩ := turn?_cases h.kept hturn
    have hquiet : turn.fires? command args = none := by
      simpa [fires?, hturn] using hnone
    have hledger : (session.answer line).1.world.ledger = session.world.ledger := by
      rw [(course_answer h.kept hturn).ledger_eq hquiet, hbegins]
      rfl
    exact ⟨congrArg Prod.snd hledger, fun _ => hledger⟩

/-- A line in answer to which an event fires pays for it. -/
theorem paid_answer (h : Reached session) (hsome : session.fires? line = some id) :
    ∃ event, session.world.event? id = some event ∧ event.isArmed = true ∧
      (session.answer line).1.world.ledger = session.world.paid id event := by
  obtain ⟨⟨turn, command, args⟩, hturn, hfires⟩ := Option.bind_eq_some_iff.mp hsome
  obtain ⟨⟨pending, hbegins⟩, -, -, -⟩ := turn?_cases h.kept hturn
  have hpaid := (course_answer h.kept hturn).paid hfires
  rwa [hbegins] at hpaid

/-- After a line, those events have fired that had before, and the one that fires in answer. -/
theorem hasFired_answer (h : Reached session) (line : String) (id : EventId) :
    (session.answer line).1.world.hasFired id =
      (session.fires? line == some id || session.world.hasFired id) := by
  cases hfires : session.fires? line with
  | none =>
    unfold World.hasFired World.event?
    rw [(ledger_answer h hfires).1]
    rfl
  | some other =>
    obtain ⟨event, hevent, -, hpaid⟩ := paid_answer h hfires
    rw [World.hasFired_of_paid hevent hpaid, Option.some_beq_some, BEq.comm]

/-- An event that fires may be repeated, or has not fired before. -/
theorem repeats_or_new (h : Reached session) (hsome : session.fires? line = some id) :
    session.world.repeats id = true ∨ session.world.hasFired id = false := by
  obtain ⟨event, hevent, harmed, -⟩ := paid_answer h hsome
  simp only [Event.isArmed, Bool.or_eq_true, Bool.not_eq_eq_eq_not, Bool.not_true] at harmed
  exact harmed.symm.imp (fun hrepeats => by simp [World.repeats, hevent, hrepeats])
    fun hnew => by simp [World.hasFired, hevent, hnew]

/-! ## Many lines -/

/-- After some lines, those events have fired that had before, and those that fired meanwhile. -/
theorem hasFired_play (h : Reached session) (lines : List String) (id : EventId) :
    (session.play lines).world.hasFired id = true ↔
      id ∈ session.firings lines ∨ session.world.hasFired id = true := by
  induction lines generalizing session with
  | nil => simp [play, firings]
  | cons line rest ih =>
    have hrest := ih (h.answer line)
    change ((session.answer line).1.play rest).world.hasFired id = true ↔ _
    rw [hrest, hasFired_answer h, firings, List.mem_append, Option.mem_toList, Bool.or_eq_true,
      beq_iff_eq, or_assoc, or_left_comm]

/-- An event that may not be repeated fires once at most, and not at all if it has fired before. -/
theorem count_firings_le (h : Reached session) (hsingle : session.world.repeats id = false)
    (lines : List String) :
    (session.firings lines).count id + (if session.world.hasFired id then 1 else 0) ≤ 1 := by
  induction lines generalizing session with
  | nil =>
    rw [firings, List.count_nil]
    split <;> omega
  | cons line rest ih =>
    have hrest := ih (h.answer line)
      ((World.repeats_of_setting (setting_answer h line) id).trans hsingle)
    rw [firings, List.count_append]
    rw [hasFired_answer h] at hrest
    cases hfires : session.fires? line with
    | none => simpa [hfires] using hrest
    | some other =>
      by_cases heq : other = id
      · subst heq
        have hnew := (repeats_or_new h hfires).resolve_left (by simp [hsingle])
        simp only [hfires, hnew, beq_self_eq_true, Bool.true_or, if_true] at hrest
        simp only [hnew, Option.toList_some, List.count_singleton_self, Bool.false_eq_true,
          if_false]
        omega
      · simpa [hfires, heq] using hrest

/-- What a player has earned who scored nothing else is the score. -/
theorem score_play (h : Reached session) (hsingle : ∀ id, session.world.repeats id = false)
    (hscore : session.world.player.score = min session.world.earned Count.limit)
    (halive : session.revivesAny lines = false) :
    (session.play lines).world.player.score =
      min (session.play lines).world.earned Count.limit := by
  induction lines generalizing session with
  | nil => exact hscore
  | cons line rest ih =>
    obtain ⟨hline, hrest⟩ := Bool.or_eq_false_iff.mp halive
    refine ih (h.answer line) (fun id => ?_) ?_ hrest
    · exact (World.repeats_of_setting (setting_answer h line) id).trans (hsingle id)
    · cases hfires : session.fires? line with
      | none =>
        have hledger := (ledger_answer h hfires).2 hline
        rw [World.score_of_ledger hledger, World.earned_of_ledger hledger, hscore]
      | some id =>
        obtain ⟨event, hevent, -, hpaid⟩ := paid_answer h hfires
        have hnew := (repeats_or_new h hfires).resolve_left
          (by rw [hsingle]; exact Bool.noConfusion)
        have hfresh : event.fired = false := by simpa [World.hasFired, hevent] using hnew
        have hawarded : (session.answer line).1.world.player.score =
            Count.add session.world.player.score event.outcome.score := congrArg Prod.fst hpaid
        rw [World.earned_of_paid hevent hfresh hpaid, hawarded, hscore, Count.add]
        omega

/-! ## Whole games -/

/-- As a game begins, no event has fired and nobody has scored, whether the player has been welcomed
or not. -/
theorem ledger_opening {document : Document} {config : Config}
    (hbegins : document.begin? config = some session)
    (hfirst : first = session ∨ first = session.welcome.1) :
    Reached first ∧ (∀ id, first.world.hasFired id = false) ∧ first.world.player.score = 0 ∧
      first.world.earned = 0 := by
  have hreached := Reached.of_begin? hbegins
  have hfresh := fresh_begin? hbegins
  have hledger : Reached first ∧ first.world.ledger = session.world.ledger := by
    rcases hfirst with rfl | rfl
    · exact ⟨hreached, rfl⟩
    · exact ⟨hreached.welcome, (session.world.rests_lookAround true).ledger⟩
  refine ⟨hledger.1, fun id => ?_, ?_, ?_⟩
  · rw [World.hasFired_of_ledger hledger.2, World.hasFired]
    cases hevent : session.world.event? id with
    | none => rfl
    | some event => exact hfresh.unfired id event hevent
  · rw [World.score_of_ledger hledger.2, hfresh.score]
  · rw [World.earned_of_ledger hledger.2, World.earned]
    have hnone : session.world.events.values.filter (·.fired) = [] := by
      refine List.filter_eq_nil_iff.mpr fun event hevent => ?_
      obtain ⟨id, hid⟩ := Table.mem_values.mp hevent
      simp [hfresh.unfired id event hid]
    rw [hnone]
    rfl

/-- **Events pay once.** Whatever lines are played from the beginning of a game, the events that
have fired at the end are those that fired on the way, and they stay so whatever lines follow; an
event that may not be repeated fires once at most; and if no event may be repeated and the player
never comes back to life, the score is the sum of the points of the events that have fired, up to
the limit of counting. -/
theorem events_pay_once {document : Document} {config : Config}
    (hbegins : document.begin? config = some session)
    (hfirst : first = session ∨ first = session.welcome.1) (lines : List String) :
    (∀ id, (first.play lines).world.hasFired id = true ↔ id ∈ first.firings lines) ∧
      (∀ id more, (first.play lines).world.hasFired id = true →
        (first.play (lines ++ more)).world.hasFired id = true) ∧
      (∀ id, first.world.repeats id = false → (first.firings lines).count id ≤ 1) ∧
      ((∀ id, first.world.repeats id = false) → first.revivesAny lines = false →
        (first.play lines).world.player.score =
          min Count.limit (first.play lines).world.earned) := by
  obtain ⟨hreached, hunfired, hscore, hearned⟩ := ledger_opening hbegins hfirst
  refine ⟨fun id => ?_, fun id more hfired => ?_, fun id hsingle => ?_, fun hsingle halive => ?_⟩
  · simpa [hunfired] using hasFired_play hreached lines id
  · have happend : first.play (lines ++ more) = (first.play lines).play more :=
      List.foldl_append
    rw [happend, hasFired_play (hreached.play lines)]
    exact .inr hfired
  · exact (Nat.le_add_right _ _).trans (count_firings_le hreached hsingle lines)
  · rw [min_comm]
    exact score_play hreached hsingle (by rw [hscore, hearned]; rfl) halive

/-- The lever is pulled twice and pays once, also when the player dies in the cellar later and comes
back. -/
theorem events_pay_once_cellar :
    let lines := ["pull lever", "wear hat", "pull lever"]
    let more := ["down", "yes", "pull lever"]
    Document.cellar.begin? {} = some cellar ∧ cellar.world.repeats ⟨1⟩ = false ∧
      cellar.revivesAny lines = false ∧ cellar.revivesAny (lines ++ more) = true ∧
      cellar.firings lines = [⟨1⟩] ∧ (cellar.firings (lines ++ more)).count ⟨1⟩ ≤ 1 ∧
      (cellar.play (lines ++ more)).world.hasFired ⟨1⟩ = true ∧
      (cellar.play lines).world.player.score =
        min Count.limit (cellar.play lines).world.earned := by
  intro lines more
  have hsingle : ∀ id, cellar.world.repeats id = false :=
    World.repeats_eq_false (by decide +kernel)
  have halive : cellar.revivesAny lines = false := by decide +kernel
  have hfirings : cellar.firings lines = [⟨1⟩] := by decide +kernel
  obtain ⟨hfired, hstays, -, hscore⟩ := events_pay_once begin?_cellar (.inl rfl) lines
  obtain ⟨-, -, hcount, -⟩ := events_pay_once begin?_cellar (.inl rfl) (lines ++ more)
  refine ⟨begin?_cellar, hsingle ⟨1⟩, halive, by decide +kernel, hfirings,
    hcount ⟨1⟩ (hsingle ⟨1⟩), hstays ⟨1⟩ more ?_, hscore hsingle halive⟩
  rw [hfired, hfirings]
  exact List.mem_singleton_self _

end Adventure.Session
