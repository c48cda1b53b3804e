import Adventure.Proofs.Session.Reached
import Adventure.Proofs.Text.Words
import Adventure.Proofs.Turn.Resuming

/-!
# Commands that wait

A command that lacks an argument waits for the next line. However long it waits, it can go on: the
arguments that it has are not looked at again, but nothing has moved meanwhile. And when it goes on,
the two lines come to what one line with all their words would have come to, save that they count as
two moves.
-/

namespace Adventure.Session

variable {session waiting : Session} {line more : String} {turn : Turn} {command : Command}
  {id : CommandId} {verb : String} {args : List Arg}

/-- **A command that waits can go on.** However a session is reached: if a command waits, the player
lives and plays, the verb still means the command, the next slot is there and mandatory, and each
argument that is known fills its slot as the world is now. -/
theorem awaits_of_pending (h : Reached session)
    (hpending : session.world.player.pending = .awaiting id verb args) :
    session.world.player.alive = true ∧ session.world.player.playing = true ∧
      ∃ command, session.world.command? id = some command ∧
        session.world.commandNamed? verb = some command ∧
        args.length < command.slots.length ∧
        (∃ slot, command.slots[args.length]? = some slot ∧ slot.mandatory = true) ∧
        session.world.FillsFirst command.slots args := by
  have hawaits := h.kept.waits id verb args hpending
  obtain ⟨command, hcommand, hnamed, ⟨slot, hslot, hmandatory⟩, hfills⟩ := hawaits.command
  have hlength : args.length < command.slots.length := (List.getElem?_eq_some_iff.mp hslot).1
  exact ⟨hawaits.alive, hawaits.playing, command, hcommand, hnamed, hlength,
    ⟨slot, hslot, hmandatory⟩, hfills⟩

/-- Something is to be put somewhere, and a line without words does not change that. -/
theorem awaits_of_pending_cellar :
    let session := cellar.play ["put pea", "the"]
    Reached session ∧ session.world.player.pending = .awaiting ⟨1⟩ "put" [.item ⟨0⟩] ∧
      session.world.player.alive = true ∧ session.world.player.playing = true ∧
      ∃ command, session.world.command? ⟨1⟩ = some command ∧
        session.world.commandNamed? "put" = some command ∧
        [Arg.item ⟨0⟩].length < command.slots.length ∧
        (∃ slot, command.slots[[Arg.item ⟨0⟩].length]? = some slot ∧ slot.mandatory = true) ∧
        session.world.FillsFirst command.slots [.item ⟨0⟩] := by
  intro session
  have hreached : Reached session := (Reached.of_begin? begin?_cellar).play _
  have hpending : session.world.player.pending = .awaiting ⟨1⟩ "put" [.item ⟨0⟩] := by
    decide +kernel
  exact ⟨hreached, hpending, awaits_of_pending hreached hpending⟩

/-! ## Two lines and one -/

theorem Quiet.idle (h : session.Quiet waiting) (hidle : session.world.player.pending = .idle) :
    waiting.world.player.pending = .idle := by
  cases h with
  | stays => exact hidle
  | forgets => rfl
  | returns hdead =>
    exact (World.evolves_lookAround _ true).idle rfl
  | leaves hdead => exact hidle

theorem continued?_of_idle (hidle : session.world.player.pending = .idle) (first : String) :
    session.continued? first = none := by
  unfold continued?
  rw [hidle]

/-- Where no command waits, a turn begins with the words of the line alone. -/
theorem turn?_of_idle (hidle : session.world.player.pending = .idle)
    (h : session.turn? line = some (turn, command, args)) :
    ∃ first rest, session.world.texts.vocabulary.tokens line = first :: rest ∧
      session.forgetful.world.commandNamed? first = some command ∧ args = [] ∧
      turn = session.forgetful.countedTurn first rest := by
  unfold turn? at h
  split at h
  · split at h
    · cases h
    · rename_i first rest htokens
      rw [continued?_of_idle hidle] at h
      obtain ⟨found, hfound, heq⟩ := Option.map_eq_some_iff.mp h
      cases heq
      exact ⟨first, rest, htokens, hfound, rfl, rfl⟩
  · cases h

/-- More words on a line come after those that are there. -/
theorem turn?_append (hidle : session.world.player.pending = .idle)
    (h : session.turn? line = some (turn, command, args)) (more : String) :
    session.turn? (line ++ " " ++ more) = some
      ({ turn with tokens := turn.tokens ++ session.world.texts.vocabulary.tokens more }, command,
        args) := by
  obtain ⟨first, rest, htokens, hnamed, rfl, rfl⟩ := turn?_of_idle hidle h
  unfold turn? at h ⊢
  split at h
  · rename_i hlives
    rw [if_pos hlives, Text.Vocabulary.tokens_append, htokens, List.cons_append]
    dsimp only
    rw [continued?_of_idle hidle, hnamed]
    rfl
  · cases h

/-- A line after which a command waits, when none did before, has stopped at a missing argument. -/
theorem stopped_of_answer (hidle : session.world.player.pending = .idle)
    (hwaits : (session.answer line).1.world.player.pending = .awaiting id verb args) :
    ∃ turn command, session.turn? line = some (turn, command, []) ∧
      (command.attributes.has CommandFlags.requiresVision = true → turn.world.canSee = true) ∧
      (Stage.resolverOf command).FillsSlots ∧
      turn.world.fillSlots command.slots [] turn.tokens = .lacking args ∧
      (session.answer line).1 = session.withWorld (Stage.stopped turn command args).world := by
  cases hturn : session.turn? line with
  | none =>
    rw [(quiet_answer hturn).idle hidle] at hwaits
    cases hwaits
  | some begun =>
    obtain ⟨turn, command, known⟩ := begun
    obtain ⟨first, rest, -, -, rfl, hbegins⟩ := turn?_of_idle hidle hturn
    have hnone : turn.world.player.pending = .idle := by
      rw [hbegins]
      rfl
    have hanswer := answer_of_turn? hturn
    rw [hanswer] at hwaits
    obtain ⟨hsees, hfills, hlacking, hstopped⟩ := stopped_of_awaiting hnone hwaits
    refine ⟨turn, command, rfl, hsees, hfills, hlacking, ?_⟩
    rw [hanswer, ← hstopped]
    rfl

/-- The command of a turn is found under its number. -/
theorem command?_of_turn? (hnumbered : session.world.Numbered)
    (hidle : session.world.player.pending = .idle)
    (h : session.turn? line = some (turn, command, args)) :
    session.world.command? command.id = some command := by
  obtain ⟨first, rest, -, hnamed, -, -⟩ := turn?_of_idle hidle h
  obtain ⟨id, -, hfound⟩ := Option.bind_eq_some_iff.mp hnamed
  have hid := hnumbered id command hfound
  exact hid ▸ hfound

/-- The next line goes on with the command, unless its first word begins another one. -/
theorem turn?_of_stopped (args : List Arg) {first : String} {later : List String}
    (hnumbered : session.world.Numbered) (hidle : session.world.player.pending = .idle)
    (hturn : session.turn? line = some (turn, command, []))
    (hwords : session.world.texts.vocabulary.tokens more = first :: later)
    (hgoes : session.world.commandNamed? first = none ∨ session.world.itemsNamed first ≠ []) :
    (session.withWorld (Stage.stopped turn command args).world).turn? more = some
      ({ turn with tokens := first :: later }.noting (· + 1)
        (fun _ => .awaiting command.id turn.verb args), command, args) := by
  have hcommand := command?_of_turn? hnumbered hidle hturn
  obtain ⟨verb, rest, -, -, -, rfl⟩ := turn?_of_idle hidle hturn
  have hlives : (session.isRunning && session.world.player.alive) = true := by
    unfold turn? at hturn
    split at hturn
    · assumption
    · cases hturn
  have hgoes : ((session.world.commandNamed? first).isSome &&
      (session.world.itemsNamed first).isEmpty) = false := by
    rcases hgoes with hnone | hitems
    · rw [hnone]
      rfl
    · rw [List.isEmpty_eq_false_iff.mpr hitems, Bool.and_false]
  generalize hwaiting : session.withWorld (Stage.stopped (session.forgetful.countedTurn verb rest)
    command args).world = waiting
  have hcontinued : waiting.continued? first = some (command, verb, args) := by
    rw [← hwaiting]
    change (if ((session.world.commandNamed? first).isSome &&
      (session.world.itemsNamed first).isEmpty) = true then none
      else (session.world.command? command.id).map fun command => (command, verb, args)) = _
    rw [hgoes, hcommand]
    rfl
  have halive : (waiting.isRunning && waiting.world.player.alive) = true := by
    rw [← hwaiting]
    exact hlives
  have htokens : waiting.world.texts.vocabulary.tokens more = first :: later := by
    rw [← hwaiting]
    exact hwords
  unfold turn?
  rw [if_pos halive, htokens]
  dsimp only
  rw [hcontinued, ← hwaiting]
  rfl

/-- A line ends with a word that only connects the argument that is asked for, and the next line
begins with such a word again. -/
def connectsTwice (session : Session) (line more : String) : Bool :=
  (session.turn? line).any fun (turn, command, args) =>
    (Slot.openAfter? (command.slots.drop args.length) turn.tokens).any fun (slot, left) =>
      !left.isEmpty && (session.world.texts.vocabulary.tokens more).head?.any slot.isLinker

/-- **Two lines and one.** Let commands be under their own numbers, as each that is added is. Let no
command wait before a line, and let one wait after it that the next line does not abandon. Unless
the two lines connect the same argument twice, they leave the session as one line with the words of
both would, but for one more move; and the answer to the second line is the answer to the one line,
unless the command tells the number of moves. -/
theorem answer_in_two_lines {first : String} {later : List String}
    (hnumbered : session.world.Numbered) (hidle : session.world.player.pending = .idle)
    (hline : (session.answer line).1 = waiting)
    (hwaits : waiting.world.player.pending = .awaiting id verb args)
    (hwords : waiting.world.texts.vocabulary.tokens more = first :: later)
    (hgoes : waiting.world.commandNamed? first = none ∨ waiting.world.itemsNamed first ≠ [])
    (honce : session.connectsTwice line more = false) :
    let whole := session.answer (line ++ " " ++ more)
    (waiting.answer more).1 =
        whole.1.withWorld (whole.1.world.modifyPlayer fun p => { p with moves := p.moves + 1 }) ∧
      ∀ command, waiting.world.command? id = some command →
        command.chosenHandler ≠ .score → command.chosenHandler ≠ .quit →
          (waiting.answer more).2 = whole.2 := by
  rw [← hline] at hwaits
  obtain ⟨turn, command, hturn, hsees, hfills, hlacking, hstopped⟩ := stopped_of_answer hidle hwaits
  rw [hline] at hstopped hwaits
  obtain ⟨f, rfl⟩ : ∃ f, waiting = session.withWorld (session.world.modifyPlayer f) := by
    obtain ⟨verb, rest, -, -, -, rfl⟩ := turn?_of_idle hidle hturn
    exact ⟨fun p => { p with
      moves := p.moves + 1, pending := .awaiting command.id verb args }, hstopped⟩
  have hwords : session.world.texts.vocabulary.tokens more = first :: later := hwords
  have hsecond := turn?_of_stopped args hnumbered hidle hturn hwords hgoes
  have hwhole := turn?_append hidle hturn more
  have honce : ∀ slot left, Slot.openAfter? command.slots turn.tokens = some (slot, left) →
      left ≠ [] → ∀ token ∈ (first :: later).head?, slot.isLinker token = false := by
    rintro slot left hopen hleft token ⟨⟩
    have hnot : (!left.isEmpty && slot.isLinker first) = false := by
      simpa [connectsTwice, hturn, hopen, hwords] using honce
    rwa [List.isEmpty_eq_false_iff.mpr hleft] at hnot
  obtain ⟨hresumed, hspeaks⟩ := Turn.run_resumed [] hsees hfills hlacking honce (· + 1)
    (fun _ => .awaiting command.id turn.verb args)
  rw [← hstopped] at hsecond
  rw [hwords] at hwhole
  intro whole
  have hanswers : whole = _ := answer_of_turn? hwhole
  rw [hanswers, answer_of_turn? hsecond]
  dsimp only
  rw [hresumed]
  refine ⟨rfl, fun other hother hscore hquit => ?_⟩
  have hsame : other = command := by
    have hcommand := command?_of_turn? hnumbered hidle hturn
    have hid : id = command.id := by
      rw [hstopped] at hwaits
      cases hwaits
      rfl
    rw [← hid] at hcommand
    exact Option.some.inj (hother.symm.trans hcommand)
  subst hsame
  rw [hspeaks hscore hquit]
  rfl

/-- The pea is put into the box by one line, or by two of which the first ends with the word that
connects the box. -/
theorem answer_in_two_lines_cellar :
    let waiting := (cellar.answer "put pea in").1
    let whole := cellar.answer "put pea in the box"
    cellar.world.Numbered ∧ cellar.world.player.pending = .idle ∧
      waiting.world.player.pending = .awaiting ⟨1⟩ "put" [.item ⟨0⟩] ∧
      waiting.world.texts.vocabulary.tokens "the box" = ["box"] ∧
      waiting.world.commandNamed? "box" = none ∧
      cellar.connectsTwice "put pea in" "the box" = false ∧
      (waiting.answer "the box").1 =
        whole.1.withWorld (whole.1.world.modifyPlayer fun p => { p with moves := p.moves + 1 }) ∧
      (waiting.answer "the box").2 = whole.2 := by
  intro waiting whole
  have hnumbered : cellar.world.Numbered := (Reached.of_begin? begin?_cellar).kept.numbered
  have hidle : cellar.world.player.pending = .idle := by decide +kernel
  have hwaits : waiting.world.player.pending = .awaiting ⟨1⟩ "put" [.item ⟨0⟩] := by decide +kernel
  have hwords : waiting.world.texts.vocabulary.tokens "the box" = ["box"] := by decide +kernel
  have hgoes : waiting.world.commandNamed? "box" = none :=
    Option.isNone_iff_eq_none.mp (by decide +kernel)
  have honce : cellar.connectsTwice "put pea in" "the box" = false := by decide +kernel
  obtain ⟨hsession, hspeaks⟩ :=
    answer_in_two_lines hnumbered hidle rfl hwaits hwords (.inl hgoes) honce
  have hinserts : (waiting.world.command? ⟨1⟩).map (·.chosenHandler) = some .insert := by
    decide +kernel
  obtain ⟨command, hcommand, hhandler⟩ := Option.map_eq_some_iff.mp hinserts
  have hanswer : (waiting.answer "the box").2 = whole.2 :=
    hspeaks command hcommand (by simp [hhandler]) (by simp [hhandler])
  exact ⟨hnumbered, hidle, hwaits, hwords, hgoes, honce, hsession, hanswer⟩

end Adventure.Session
