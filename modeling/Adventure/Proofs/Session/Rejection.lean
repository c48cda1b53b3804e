import Adventure.Proofs.Session.Reached

/-!
# Rejected commands

A command is rejected when some stage of its turn is refused: it is too dark, an argument is missing
or not there, or the handler does not allow it. The player is told why and has used up a move;
nothing in the world gives away that the command was tried.
-/

namespace Adventure.Session

variable {session : Session} {line : String}

/-- What the stages report that a line makes run. -/
def reports (session : Session) (line : String) : List Report :=
  match session.turn? line with
  | some (turn, command, args) => stageReports command command.stages turn args
  | none => []

/-- Whether some stage is refused that a line makes run. -/
def rejects (session : Session) (line : String) : Bool :=
  (session.reports line).any fun report => !report.success

/-- **A rejected command changes nothing.** However a session was reached and whatever line comes
next: if some stage of its turn is refused, the session after the line is the one before it, with
one more move and perhaps another command that waits. -/
theorem answer_rejected (h : Reached session) (hrejects : session.rejects line = true) :
    ∃ pending, (session.answer line).1 = session.withWorld
      (session.world.modifyPlayer fun p => { p with moves := p.moves + 1, pending }) := by
  have hkept := h.kept
  unfold rejects reports at hrejects
  split at hrejects
  · rename_i turn command args hturn
    obtain ⟨⟨before, hbegins⟩, -, -, -⟩ := turn?_cases hkept hturn
    have hworld := ends_answer hkept hturn
    have hsession : (session.answer line).1 = session.withWorld (session.answer line).1.world := by
      rw [answer_of_turn? hturn]
      rfl
    rw [hsession]
    generalize (session.answer line).1.world = final at hworld
    cases hworld with
    | refused pending hfinal hpending hacted hmodel =>
      refine ⟨pending, ?_⟩
      rw [hfinal, hbegins]
      rfl
    | completed hreports hacted hcarries hevolves =>
      obtain ⟨report, hmem, hrefused⟩ := List.any_eq_true.mp hrejects
      rw [hreports report hmem] at hrefused
      cases hrefused
  · cases hrejects

/-- The box is full after the first copy of the mug, so a second one is not put in. -/
theorem answer_rejected_larder :
    let session := larder.play ["insert mug box"]
    Reached session ∧ session.rejects "insert mug box" = true ∧
      ∃ pending, (session.answer "insert mug box").1 = session.withWorld
        (session.world.modifyPlayer fun p => { p with moves := p.moves + 1, pending }) := by
  intro session
  have hreached : Reached session := (Reached.of_begin? begin?_larder).play ["insert mug box"]
  have hrejects : session.rejects "insert mug box" = true := by decide +kernel
  exact ⟨hreached, hrejects, answer_rejected hreached hrejects⟩

end Adventure.Session
