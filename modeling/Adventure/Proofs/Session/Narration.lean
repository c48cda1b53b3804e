import Adventure.Proofs.Session.Course
import Adventure.Proofs.Session.Death
import Adventure.Proofs.Turn.Narration

/-!
# Deaths in a game and what is said of them

Whoever dies in a game is asked about reincarnation, and is told of the death before that, unless an
event talks over the arrival that was fatal. Then its text and the question are all that is said,
and nothing in the answer says that there was a death. A text may also come out empty, if nothing
but a place stands in it and the value is empty, and then nothing is told either.
-/

namespace Adventure

namespace Session

variable {session : Session} {line : String} {turn : Turn} {command : Command} {args : List Arg}

/-- A turn begins with the settings of the session, and no death has been told in it. -/
theorem unmarked_of_turn? (h : session.turn? line = some (turn, command, args)) :
    turn.config = session.config ∧ turn.deathNarrated = false := by
  unfold turn? at h
  split at h
  · split at h
    · cases h
    · split at h
      · cases h
        exact ⟨rfl, rfl⟩
      · obtain ⟨found, -, heq⟩ := Option.map_eq_some_iff.mp h
        cases heq
        exact ⟨rfl, rfl⟩
  · cases h

/-- No line changes the texts of a game. -/
theorem texts_answer (h : Reached session) (line : String) :
    (session.answer line).1.world.texts = session.world.texts :=
  show (session.answer line).1.world.setting.texts = session.world.setting.texts from
    congrArg World.texts (setting_answer h line)

/-- A line that kills begins a turn whose command is carried out. -/
theorem exists_acted (h : Reached session) (halive : session.world.player.alive = true)
    (hdead : (session.answer line).1.world.player.alive = false) :
    ∃ turn command args world, session.turn? line = some (turn, command, args) ∧
      turn.acted? command args = some world := by
  cases hturn : session.turn? line with
  | none =>
    have hstill := (quiet_answer hturn).alive halive
    rw [hdead] at hstill
    cases hstill
  | some begun =>
    obtain ⟨turn, command, args⟩ := begun
    obtain ⟨-, -, hstarts, -⟩ := turn?_cases h.kept hturn
    refine ⟨turn, command, args, ?_⟩
    have hcourse := course_answer h.kept hturn
    generalize (session.answer line).1.world = final at hdead hcourse
    cases hcourse with
    | refused pending hfinal =>
      have hstill : final.player.alive = true := hfinal ▸ hstarts.alive
      rw [hdead] at hstill
      cases hstill
    | completed hdeed hacted => exact ⟨_, rfl, hacted⟩

/-- The answer to a line that begins a turn is made of the fragments of the turn. If there are none,
it is that nothing happens. -/
theorem answer_of_runStages (h : session.turn? line = some (turn, command, args))
    {final : Turn × List String} (hruns : runStages command command.stages turn args [] = final) :
    session.answer line = (session.withWorld final.1.world,
      if (final.1.config.separator.intercalate final.2).isEmpty then
        final.1.world.response "nothing_happens"
      else final.1.config.separator.intercalate final.2) := by
  rw [answer_of_turn? h]
  simp only [Turn.run, hruns]

/-- An answer that says nothing is replaced, but what is to be found in it can be found in any. -/
theorem exists_split_or {said narration prompt : String} (fallback : String)
    (h : ∃ before between, said = before ++ narration ++ between ++ prompt) :
    ∃ before between, (if said.isEmpty then fallback else said) =
      before ++ narration ++ between ++ prompt := by
  split
  · rename_i hempty
    obtain ⟨before, between, hsaid⟩ := h
    rw [String.isEmpty_iff.mp hempty] at hsaid
    obtain ⟨hfront, hprompt⟩ := String.append_eq_empty_iff.mp hsaid.symm
    obtain ⟨hfront, -⟩ := String.append_eq_empty_iff.mp hfront
    obtain ⟨-, hnarration⟩ := String.append_eq_empty_iff.mp hfront
    exact ⟨fallback, "", by simp [hnarration, hprompt]⟩
  · exact h

/-- **A death is told, unless an event talks over the arrival that was fatal.** However a session is
reached, a line that kills begins a turn in which the player meets with a mishap or is killed by the
event that fires. Unless there is a mishap and an event says something after it, the text that tells
the death stands in the answer, before the question about reincarnation. Whenever an event says
something, the answer is made of that and of the question: a mishap is then not told at all. The
text that tells the death may be empty, so that it stands in every answer and tells nothing. That is
so only if one of the responses on death is empty, or if the text of the event that kills comes out
empty; the question is then all that is said. -/
theorem death_told_or_talked_over (h : Reached session)
    (halive : session.world.player.alive = true)
    (hdead : (session.answer line).1.world.player.alive = false) :
    let prompt := session.world.response "reincarnation_prompt"
    ∃ turn command args narration, session.turn? line = some (turn, command, args) ∧
      turn.Dies command args narration ∧
      (turn.mishap? command args = none ∨ turn.retort? command args = none →
        ∃ before between,
          (session.answer line).2 = before ++ narration ++ between ++ prompt) ∧
      (∀ retort, turn.retort? command args = some retort →
        let said := session.config.separator.intercalate ([retort, prompt].filter (!·.isEmpty))
        (session.answer line).2 =
          if said.isEmpty then session.world.response "nothing_happens" else said) ∧
      (narration = "" →
        (∃ key ∈ ["death_drowning", "death_darkness", "death_generic"],
          session.world.response key = "") ∨
        turn.retort? command args = some "" ∧ (session.answer line).2 =
          if prompt.isEmpty then session.world.response "nothing_happens" else prompt) := by
  obtain ⟨turn, command, args, world, hturn, hacted⟩ := exists_acted h halive hdead
  obtain ⟨⟨pending, hbegins⟩, -, hstarts, -⟩ := turn?_cases h.kept hturn
  obtain ⟨hconfig, hunmarked⟩ := unmarked_of_turn? hturn
  have hbegun : session.world.texts = turn.world.texts := by
    rw [hbegins]
    rfl
  have htexts := texts_answer h line
  obtain ⟨final, hruns⟩ : ∃ final, runStages command command.stages turn args [] = final :=
    ⟨_, rfl⟩
  rw [answer_of_runStages hturn hruns] at hdead htexts ⊢
  obtain ⟨hsettings, narration, htells⟩ :=
    tells_of_death hacted hstarts.alive hunmarked hruns hdead (htexts.trans hbegun)
  have hresponse (key : String) : session.world.response key = turn.world.response key := by
    unfold World.response
    rw [hbegun]
  have hfallback : final.1.world.response "nothing_happens" =
      session.world.response "nothing_happens" := by
    unfold World.response
    rw [show final.1.world.texts = session.world.texts from htexts]
  dsimp only
  rw [hresponse "reincarnation_prompt", hfallback, hsettings, ← hconfig]
  refine ⟨turn, command, args, narration, hturn, htells.dies, fun hquiet => ?_,
    fun retort hretort => ?_, fun hempty => ?_⟩
  · exact exists_split_or _ (htells.told hquiet)
  · rw [htells.talkedOver retort hretort]
  · simp only [hresponse]
    refine (htells.dies.empty hempty).symm.imp_right fun hretort => ⟨hretort, ?_⟩
    rw [htells.talkedOver "" hretort]
    cases hprompt : (turn.world.response "reincarnation_prompt").isEmpty with
    | true => simp [hprompt]
    | false => simp [hprompt]

end Session

/-- The description of the cellar, where the trap door falls shut behind whoever goes down. -/
def Document.shaft : Document :=
  { Document.cellar with
    events := Document.cellar.events ++
      [⟨⟨2⟩, "", ⟨2⟩, [], [], "Something snaps shut above you.", 0, []⟩] }

/-- The description of the cellar, where a nameless pit kills whoever goes down and its name is all
that the event says. -/
def Document.pit : Document :=
  { Document.cellar with
    locations := [⟨⟨1⟩, "3", ⟨"hall", none, none, []⟩, .ofList [("down", ⟨2⟩)]⟩,
      ⟨⟨2⟩, "3", ⟨"", none, none, []⟩, ∅⟩]
    events := [⟨⟨1⟩, "1", ⟨2⟩, [], [], "$0", 0, []⟩] }

namespace Session

/-- The session that begins over it. -/
def pit : Session := (Document.pit.begin? {}).get (by decide +kernel)

theorem begin?_pit : Document.pit.begin? {} = some pit := (Option.some_get _).symm

/-- The session that begins where the trap door falls shut. -/
def shaft : Session := (Document.shaft.begin? {}).get (by decide +kernel)

theorem begin?_shaft : Document.shaft.begin? {} = some shaft := (Option.some_get _).symm

/-- Whoever goes down into the dark cellar falls and is told so. If the trap door falls shut
behind, that is told and nothing of the fall. Whoever goes down into the pit is asked the question
and told nothing. -/
theorem death_told_or_talked_over_shaft :
    let told := cellar.play ["pull lever"]
    let talkedOver := shaft.play ["pull lever"]
    Reached told ∧ told.world.player.alive = true ∧
      (told.answer "down").1.world.player.alive = false ∧
      (∃ before between, (told.answer "down").2 = before ++
        "You stumble around in the dark and fall into a pit. You are dead." ++ between ++
          "Do you want to be reincarnated?") ∧
      Reached talkedOver ∧ talkedOver.world.player.alive = true ∧
      (talkedOver.answer "down").1.world.player.alive = false ∧
      (talkedOver.answer "down").2 =
        "Something snaps shut above you.\nDo you want to be reincarnated?" ∧
      pit.world.player.alive = true ∧ (pit.answer "down").1.world.player.alive = false ∧
      (pit.answer "down").2 = "Do you want to be reincarnated?" := by
  intro told talkedOver
  have htold : Reached told := (Reached.of_begin? begin?_cellar).play _
  have htalked : Reached talkedOver := (Reached.of_begin? begin?_shaft).play _
  have hlives : told.world.player.alive = true := by decide +kernel
  have hdies : (told.answer "down").1.world.player.alive = false := by decide +kernel
  have hstill : talkedOver.world.player.alive = true := by decide +kernel
  have hlost : (talkedOver.answer "down").1.world.player.alive = false := by decide +kernel
  have hwell : pit.world.player.alive = true := by decide +kernel
  have hkilled : (pit.answer "down").1.world.player.alive = false := by decide +kernel
  refine ⟨htold, hlives, hdies, ?_, htalked, hstill, hlost, ?_, hwell, hkilled, ?_⟩
  · obtain ⟨turn, command, args, narration, hturn, hdeath, hheard, -⟩ :=
      death_told_or_talked_over htold hlives hdies
    have hseen : ((told.turn? "down").map fun read =>
        (read.1.mishap? read.2.1 read.2.2, read.1.retort? read.2.1 read.2.2,
          read.1.world.response "death_darkness")) = some (some .fall, none,
            "You stumble around in the dark and fall into a pit. You are dead.") := by
      decide +kernel
    simp only [hturn, Option.map_some, Option.some.injEq, Prod.mk.injEq] at hseen
    obtain ⟨hfall, hquiet, htext⟩ := hseen
    have hnarration : narration = turn.world.response "death_darkness" := by
      cases hdeath with
      | mishap hmishap =>
        cases hmishap.symm.trans hfall
        rfl
      | struck hsafe => cases hsafe.symm.trans hfall
      | unheard hsafe => cases hsafe.symm.trans hfall
    obtain ⟨before, between, hanswer⟩ := hheard (.inr hquiet)
    refine ⟨before, between, ?_⟩
    rw [hanswer, hnarration, htext]
    have hprompt : told.world.response "reincarnation_prompt" =
        "Do you want to be reincarnated?" := by decide +kernel
    rw [hprompt]
  · obtain ⟨turn, command, args, narration, hturn, -, -, htalks, -⟩ :=
      death_told_or_talked_over htalked hstill hlost
    have hseen : ((talkedOver.turn? "down").map fun read =>
        (read.1.mishap? read.2.1 read.2.2, read.1.retort? read.2.1 read.2.2)) =
          some (some .fall, some "Something snaps shut above you.") := by decide +kernel
    simp only [hturn, Option.map_some, Option.some.injEq, Prod.mk.injEq] at hseen
    obtain ⟨hfall, hretort⟩ := hseen
    rw [htalks _ hretort]
    decide +kernel
  · obtain ⟨turn, command, args, narration, hturn, hdeath, -, -, hsilent⟩ :=
      death_told_or_talked_over (.of_begin? begin?_pit) hwell hkilled
    have hseen : ((pit.turn? "down").map fun read =>
        (read.1.mishap? read.2.1 read.2.2, read.1.retort? read.2.1 read.2.2,
          (read.1.reply? read.2.1 read.2.2).map (·.outcome.text.isEmpty))) =
            some (none, some "", some false) := by decide +kernel
    simp only [hturn, Option.map_some, Option.some.injEq, Prod.mk.injEq] at hseen
    obtain ⟨hsafe, hretort, hreply⟩ := hseen
    have hempty : narration = "" := by
      cases hdeath with
      | mishap hmishap => cases hmishap.symm.trans hsafe
      | struck _ _ _ _ hsaid => exact Option.some.inj (hsaid.symm.trans hretort)
      | unheard _ hevent _ htext => simp [hevent, htext] at hreply
    have hresponses : ∀ key ∈ ["death_drowning", "death_darkness", "death_generic"],
        pit.world.response key ≠ "" := by decide +kernel
    rcases hsilent hempty with ⟨key, hkey, hblank⟩ | ⟨-, hanswer⟩
    · exact absurd hblank (hresponses key hkey)
    · rw [hanswer]
      decide +kernel

end Session

end Adventure
