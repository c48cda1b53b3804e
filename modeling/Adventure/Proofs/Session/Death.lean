import Adventure.Proofs.Session.Reached
import Adventure.Proofs.Turn.Death

/-!
# Death in a game

However the player dies in a turn, the turn still gets to its last stage, which lays everything down
that is carried and forgets the command that waits. From then on nothing happens until the player is
reincarnated or gives up.
-/

namespace Adventure

namespace World

variable {world : World}

/-- If the player is dead, no command waits and nothing is carried. -/
def Settled (world : World) : Prop :=
  world.player.alive = false → world.player.pending = .idle ∧ world.carried = []

theorem settled_of_alive (h : world.player.alive = true) : world.Settled := by
  intro hdead
  rw [h] at hdead
  cases hdead

/-- Looking around changes neither the player nor what is carried. -/
theorem Settled.lookAround (h : world.Settled) (full : Bool) :
    (world.lookAround full).1.Settled := by
  unfold World.lookAround
  split <;> exact h

end World

namespace Session

variable {session later : Session} {line : String} {turn : Turn} {command : Command}
  {args : List Arg}

/-! ## The turn of death -/

/-- A turn after which the player is dead has got to its last stage, and comes to laying everything
down that was carried then. -/
theorem exists_reckoned (hkept : session.world.Kept)
    (hturn : session.turn? line = some (turn, command, args))
    (hdead : (session.answer line).1.world.player.alive = false) :
    ∃ reckoned, turn.reckoned? command args = some reckoned ∧ reckoned.Closed ∧
      reckoned.Exclusive ∧ reckoned.player.alive = false ∧
      (session.answer line).1.world = reckoned.scatter.modifyPlayer (·.forget) := by
  obtain ⟨-, hstarted, hstarts, -⟩ := turn?_cases hkept hturn
  have hends := ends_answer hkept hturn
  generalize (session.answer line).1.world = final at hends hdead
  cases hends with
  | refused pending hfinal hpending hacted hmodel =>
    have halive : final.player.alive = true := by
      rw [hfinal]
      exact hstarts.alive
    rw [halive] at hdead
    cases hdead
  | completed hreports hacted hcarries hevolves hreckons =>
    obtain ⟨reckoned, hreckoned, hlater, rfl⟩ := hreckons
    have hclosed := hlater.closed (hcarries.closed hstarted.forget.closed)
    have hexclusive := hlater.exclusive (hcarries.exclusive hstarted.forget.exclusive)
    unfold World.mourned at hdead ⊢
    split at hdead
    · rename_i halive
      rw [halive] at hdead
      cases hdead
    · rename_i hlost
      rw [if_neg hlost]
      exact ⟨reckoned, hreckoned, hclosed, hexclusive, Bool.eq_false_iff.mpr hlost, rfl⟩

/-- After a turn, a dead player is without a command that waits and without things. -/
theorem settled_of_turn? (hkept : session.world.Kept)
    (hturn : session.turn? line = some (turn, command, args)) :
    (session.answer line).1.world.Settled := by
  intro hdead
  obtain ⟨reckoned, -, hclosed, hexclusive, -, hfinal⟩ := exists_reckoned hkept hturn hdead
  rw [hfinal]
  exact ⟨rfl, World.carried_scatter hclosed hexclusive⟩

/-! ## Being dead -/

/-- A line that begins no turn lets a dead player have nothing either. -/
theorem Quiet.settled (h : session.Quiet later) (hsettled : session.world.Settled) :
    later.world.Settled := by
  cases h with
  | stays => exact hsettled
  | forgets => exact fun hdead => ⟨rfl, (hsettled hdead).2⟩
  | returns hdead =>
    exact World.Settled.lookAround (World.settled_of_alive rfl) true
  | leaves hdead => exact fun hdead => hsettled hdead

/-- A living player does not die of a line that begins no turn. -/
theorem Quiet.alive (h : session.Quiet later) (halive : session.world.player.alive = true) :
    later.world.player.alive = true := by
  cases h with
  | stays => exact halive
  | forgets => exact halive
  | returns hdead => exact absurd hdead (ne_false_of_eq_true halive)
  | leaves hdead => exact halive

/-- However a session is reached, a dead player has nothing. -/
theorem Reached.settled (h : Reached session) : session.world.Settled := by
  induction h with
  | @begin document loaded config session hload hstart =>
    have halive := (Document.ready_load hload).alive
    rw [(start_ok hstart).1]
    exact World.settled_of_alive halive
  | welcome h ih => exact ih.lookAround true
  | @answer session h line ih =>
    cases hturn : session.turn? line with
    | none => exact (quiet_answer hturn).settled ih
    | some begun => exact settled_of_turn? h.kept hturn

/-- A dead player runs no command. -/
theorem turn?_of_dead (hdead : session.world.player.alive = false) (line : String) :
    session.turn? line = none := by
  unfold turn?
  rw [hdead, Bool.and_false]
  rfl

/-- The first word of a line says neither yes nor no. A line without words counts as an empty
word. -/
structure Unclear (session : Session) (line : String) : Prop where
  /-- It is not among the words for yes. -/
  notYes : session.world.texts.vocabulary.contains Text.Vocabulary.yes
    ((session.world.texts.vocabulary.tokens line).head?.getD "") = false
  /-- It is not among the words for no. -/
  notNo : session.world.texts.vocabulary.contains Text.Vocabulary.no
    ((session.world.texts.vocabulary.tokens line).head?.getD "") = false

/-- A dead player who says neither yes nor no is asked again. -/
theorem answer_of_unclear (hdead : session.world.player.alive = false)
    (hunclear : session.Unclear line) : (session.answer line).1 = session := by
  obtain ⟨hyes, hno⟩ := hunclear
  unfold answer
  split
  · rfl
  · simp only [hdead, Bool.false_eq_true, if_false, answerDead, hyes, hno]

/-- **What death comes to.** However a session is reached: a dead player has no command that waits
and carries nothing. If a line makes the player die, its turn gets to the last stage, and what is
carried then is laid down, in order and no longer worn, where the player is, and nothing else is
done. And a dead player who says neither yes nor no changes nothing and runs no command. -/
theorem death_settles (h : Reached session) :
    (session.world.player.alive = false →
      session.world.player.pending = .idle ∧ session.world.carried = []) ∧
    (∀ line, session.world.player.alive = true →
      (session.answer line).1.world.player.alive = false →
        ∃ turn command args reckoned, session.turn? line = some (turn, command, args) ∧
          turn.reckoned? command args = some reckoned ∧
          (session.answer line).1.world.player.location = reckoned.player.location ∧
          World.LaidDown reckoned.player.location reckoned.carried reckoned
            (session.answer line).1.world) ∧
    ∀ line, session.world.player.alive = false → session.Unclear line →
      (session.answer line).1 = session ∧ session.turn? line = none := by
  refine ⟨h.settled, fun line halive hdead => ?_, fun line hdead hunclear => ?_⟩
  · cases hturn : session.turn? line with
    | none =>
      have hstill := (quiet_answer hturn).alive halive
      rw [hdead] at hstill
      cases hstill
    | some begun =>
      obtain ⟨turn, command, args⟩ := begun
      obtain ⟨reckoned, hreckoned, hclosed, hexclusive, -, hfinal⟩ :=
        exists_reckoned h.kept hturn hdead
      refine ⟨turn, command, args, reckoned, rfl, hreckoned, ?_, ?_⟩
      · rw [hfinal]
        have hsame := congrArg Player.location reckoned.player_scatter
        exact hsame
      · rw [hfinal]
        have hlaid := World.laidDown_scatter hclosed hexclusive
        exact ⟨hlaid.there, hlaid.elsewhere, hlaid.items, hlaid.others⟩
  · exact ⟨answer_of_unclear hdead hunclear, turn?_of_dead hdead line⟩

/-- The player goes down into the dark with a pea and a box, wearing a hat, and falls. All three lie
in the cellar then, and no command is run any longer. -/
theorem death_settles_cellar :
    let session := cellar.play ["pull lever", "wear hat"]
    let fallen := (session.answer "down").1
    Reached session ∧ session.world.player.alive = true ∧ fallen.world.player.alive = false ∧
      (∃ turn command args reckoned, session.turn? "down" = some (turn, command, args) ∧
        turn.reckoned? command args = some reckoned ∧
        fallen.world.player.location = reckoned.player.location ∧
        World.LaidDown reckoned.player.location reckoned.carried reckoned fallen.world) ∧
      fallen.world.contents (.location ⟨2⟩) = [⟨0⟩, ⟨1⟩, ⟨2⟩] ∧
      fallen.world.player.pending = .idle ∧ fallen.world.carried = [] ∧
      (fallen.answer "pull lever").1 = fallen ∧ fallen.turn? "pull lever" = none := by
  intro session fallen
  have hreached : Reached session := (Reached.of_begin? begin?_cellar).play _
  have halive : session.world.player.alive = true := by decide +kernel
  have hdead : fallen.world.player.alive = false := by decide +kernel
  have hunclear : fallen.Unclear "pull lever" := ⟨by decide +kernel, by decide +kernel⟩
  obtain ⟨-, hdies, -⟩ := death_settles hreached
  obtain ⟨hsettled, -, hwaits⟩ := death_settles (hreached.answer "down")
  obtain ⟨hpending, hcarried⟩ := hsettled hdead
  obtain ⟨hsame, hnone⟩ := hwaits "pull lever" hdead hunclear
  exact ⟨hreached, halive, hdead, hdies "down" halive hdead, by decide +kernel, hpending, hcarried,
    hsame, hnone⟩

end Session

end Adventure
