import Adventure.Proofs.Loading.Beginnings
import Adventure.Proofs.Session.Listing
import Adventure.Proofs.Turn.Course

/-!
# The course of a line

A line that begins a turn takes the course of the turn. So it can be told from a session and a line
which deed is done and which event fires, and in which worlds that happens.
-/

namespace Adventure

/-- That no item is inside itself endures. -/
theorem World.enduring_nested : World.Enduring World.Nested where
  player _ hnested := hnested
  change _ _ hchange := hchange.nested
  copy hcopy hnested := hnested.move (.copy hcopy)

namespace Session

variable {session : Session} {line : String} {turn : Turn} {command : Command} {args : List Arg}

/-- The deed that a line does, if it does one. -/
def deed? (session : Session) (line : String) : Option Deed :=
  (session.turn? line).bind fun (turn, command, args) => turn.deed? command args

/-- The event that fires in answer to a line, if one does. -/
def fires? (session : Session) (line : String) : Option EventId :=
  (session.turn? line).bind fun (turn, command, args) => turn.fires? command args

/-- The world in which it is looked whether the player lives, if the line gets there. -/
def reckoned? (session : Session) (line : String) : Option World :=
  (session.turn? line).bind fun (turn, command, args) => turn.reckoned? command args

/-- A line that begins a turn leaves the world as the course of the turn does. -/
theorem course_answer (hkept : session.world.Kept)
    (h : session.turn? line = some (turn, command, args)) :
    turn.Course command args (session.answer line).1.world := by
  obtain ⟨-, hturn, hstarts, hfills⟩ := turn?_cases hkept h
  rw [answer_of_turn? h]
  exact course_turn command args [] hturn.closed hstarts.known hfills

/-- A line does no deed and its command changes nothing, or its command does the deed of the line,
in the world before the line as far as things and the place of the player are concerned. -/
theorem deed_cases (hkept : session.world.Kept) (line : String) :
    session.deed? line = none ∧ session.acted line = session.world ∨
      ∃ f deed, (f session.world.player).location = session.world.player.location ∧
        session.deed? line = some deed ∧
        (session.world.modifyPlayer f).Does deed (session.acted line) := by
  unfold deed? acted
  cases hturn : session.turn? line with
  | none => exact .inl ⟨rfl, rfl⟩
  | some begun =>
    obtain ⟨turn, command, args⟩ := begun
    obtain ⟨⟨pending, hbegins⟩, -, -, -⟩ := turn?_cases hkept hturn
    simp only [Option.bind_some]
    cases course_answer hkept hturn with
    | refused pending hfinal hdeed hacted =>
      rw [hdeed, hacted]
      exact .inl ⟨rfl, rfl⟩
    | completed hdeed hacted hwatched hreckoned hdoes =>
      rw [hdeed, hacted]
      rw [hbegins] at hdoes
      exact .inr ⟨fun p => { p with moves := p.moves + 1, pending := .idle }, _, rfl, rfl, hdoes⟩

/-- As a session begins, nobody has done anything yet. -/
theorem fresh_begin? {document : Document} {config : Config}
    (h : document.begin? config = some session) : session.world.Fresh := by
  obtain ⟨loaded, hload, hstart⟩ := begins_of_begin? h
  have hfresh := Document.fresh_load hload
  rw [(start_ok hstart).1]
  exact ⟨hfresh.score, hfresh.unfired, hfresh.unworn, hfresh.nested⟩

/-- However a session is reached, no item is inside itself. -/
theorem Reached.nested (h : Reached session) : session.world.Nested := by
  induction h with
  | @begin document loaded config session hload hstart =>
    rw [(start_ok hstart).1]
    exact (Document.fresh_load hload).nested
  | welcome _ ih => exact (World.evolves_lookAround _ true).nested ih
  | answer h line ih => exact answer_keeps World.enduring_nested h.kept ih line

end Session

end Adventure
