import Adventure.Proofs.Text.Template
import Adventure.Proofs.Turn.Death
import Adventure.Proofs.Turn.Survival

/-!
# How a death is told

The answer of a turn in which the player dies ends with the question about reincarnation. The death
itself is told before it, by the arrival, by the event or by the last stage. Only one order of
things keeps it from being told: an event that fires after a fatal arrival and has a text takes back
what the arrival told, while the mark that the death was told stays, so that the last stage does not
tell it either.
-/

namespace Adventure

/-! ## What gets into an answer -/

/-- A text is among the fragments of an answer, unless it is empty. -/
def Heard (said : List String) (text : String) : Prop := text = "" ∨ text ∈ said

section Fragments

variable {said : List String} {text : String}

theorem Report.heard_fragment (report : Report) : Heard report.fragment report.text := by
  unfold fragment
  split
  · rename_i hempty
    exact .inl (String.isEmpty_iff.mp hempty)
  · exact .inr (List.mem_singleton.mpr rfl)

theorem Report.fragment_eq (report : Report) :
    report.fragment = [report.text].filter (!·.isEmpty) := by
  unfold fragment
  cases htext : report.text.isEmpty <;> simp [htext]

/-- What is said is heard. -/
theorem Report.heard_addTo (report : Report) (said : List String) :
    Heard (report.addTo said) report.text := by
  cases hoverrides : report.overrides with
  | true =>
    rw [addTo_of_overrides hoverrides]
    exact report.heard_fragment
  | false =>
    rw [addTo_of_keeps hoverrides]
    exact report.heard_fragment.imp_right (List.mem_append_right said)

theorem Heard.append (h : Heard said text) (more : List String) : Heard (said ++ more) text :=
  h.imp_right (List.mem_append_left more)

/-- What is heard is part of the answer. -/
theorem Heard.exists_join (h : Heard said text) (separator : String) :
    ∃ before after, separator.intercalate said = before ++ text ++ after := by
  rcases h with rfl | hmem
  · exact ⟨separator.intercalate said, "", by simp⟩
  · induction said with
    | nil => cases hmem
    | cons first rest ih =>
      rcases List.mem_cons.mp hmem with rfl | hlater
      · by_cases hrest : rest = []
        · exact ⟨"", "", by simp [hrest]⟩
        · rw [String.intercalate_cons_of_ne_nil hrest]
          exact ⟨"", separator ++ separator.intercalate rest, by simp [String.append_assoc]⟩
      · obtain ⟨before, after, hjoin⟩ := ih hlater
        rw [String.intercalate_cons_of_ne_nil (List.ne_nil_of_mem hlater), hjoin]
        exact ⟨first ++ separator ++ before, after, by simp [String.append_assoc]⟩

/-- What is said last is the end of the answer. -/
theorem Report.exists_join_fragment (report : Report) (said : List String) (separator : String) :
    ∃ between, separator.intercalate (said ++ report.fragment) =
      separator.intercalate said ++ between ++ report.text := by
  unfold fragment
  split
  · rename_i hempty
    exact ⟨"", by simp [String.isEmpty_iff.mp hempty]⟩
  · by_cases hsaid : said = []
    · exact ⟨"", by simp [hsaid]⟩
    · rw [String.intercalate_append_of_ne_nil hsaid (List.cons_ne_nil _ _)]
      exact ⟨separator, by simp⟩

@[simp] theorem Report.text_tell (text : String) (next : List Arg) :
    (tell text next).text = text := Text.format_place text

/-- What is heard comes before what is told last. -/
theorem Heard.exists_join_tell (h : Heard said text) (last separator : String) :
    ∃ before between, separator.intercalate (said ++ (Report.tell last []).fragment) =
      before ++ text ++ between ++ last := by
  obtain ⟨before, after, hjoin⟩ := h.exists_join separator
  obtain ⟨between, hlast⟩ := (Report.tell last []).exists_join_fragment said separator
  refine ⟨before, after ++ between, ?_⟩
  rw [hlast, hjoin, Report.text_tell]
  simp only [String.append_assoc]

/-- Of two texts that are told last together, one comes before the other. -/
theorem exists_join_pair (said : List String) (first last separator : String) :
    ∃ before between, separator.intercalate
        (said ++ (Report.tell (separator.intercalate [first, last]) []).fragment) =
      before ++ first ++ between ++ last := by
  obtain ⟨between, hjoin⟩ := (Report.tell (separator.intercalate [first, last])
    []).exists_join_fragment said separator
  refine ⟨separator.intercalate said ++ between, separator, ?_⟩
  rw [hjoin, Report.text_tell, String.intercalate_cons_cons, String.intercalate_singleton]
  simp only [String.append_assoc]

end Fragments

/-! ## The end of a turn -/

namespace Turn

variable (turn : Turn) (command : Command) (args : List Arg)

/-- The event that fires in the turn, if one does. -/
def reply? : Option Event :=
  (turn.watched? command args).bind fun (turn, args) =>
    (turn.world.fires? (turn.world.eventKey command.id args)).bind turn.world.event?

/-- What an event that fires in the turn says in place of all that was said before, if it says
anything. -/
def retort? : Option String :=
  (turn.watched? command args).bind fun (turn, args) =>
    let (_, report) := Stage.events turn command args
    if report.overrides then some report.text else none

/-- How the player dies in the turn, and by which text that is to be told. -/
inductive Dies : String → Prop
  /-- A mishap befalls the player on arrival. -/
  | mishap {mishap : Mishap} (h : turn.mishap? command args = some mishap) :
      Dies (turn.world.response mishap.responseKey)
  /-- An event kills the player and has a text. -/
  | struck {event : Event} {values : List String} (hsafe : turn.mishap? command args = none)
      (hreply : turn.reply? command args = some event)
      (hkills : event.attributes.has EventFlags.killsPlayer = true)
      (htext : event.outcome.text ≠ "")
      (hretort : turn.retort? command args = some (Text.format event.outcome.text values)) :
      Dies (Text.format event.outcome.text values)
  /-- An event kills the player without a word. -/
  | unheard {event : Event} (hsafe : turn.mishap? command args = none)
      (hreply : turn.reply? command args = some event)
      (hkills : event.attributes.has EventFlags.killsPlayer = true)
      (htext : event.outcome.text = "") : Dies (turn.world.response "death_generic")

/-- The texts of the last stage for a player who has died: the question about reincarnation, and
before it that the player is dead, unless it is marked that the death was told. -/
def lastWords (world : World) : List String :=
  if turn.deathNarrated then [world.response "reincarnation_prompt"]
  else [world.response "death_generic", world.response "reincarnation_prompt"]

theorem lastWords_of_marked {turn : Turn} (h : turn.deathNarrated = true) (world : World) :
    turn.lastWords world = [world.response "reincarnation_prompt"] := if_pos h

theorem lastWords_of_texts (turn : Turn) {world other : World} (h : world.texts = other.texts) :
    turn.lastWords world = turn.lastWords other := by
  unfold lastWords World.response
  rw [h]

theorem lastWords_of_unmarked {turn : Turn} (h : turn.deathNarrated = false) (world : World) :
    turn.lastWords world =
      [world.response "death_generic", world.response "reincarnation_prompt"] :=
  if_neg (ne_true_of_eq_false h)

end Turn

/-- What is to be told of a death is empty only if the text of an event comes out empty, or one of
the responses is. -/
theorem Turn.Dies.empty {turn : Turn} {command : Command} {args : List Arg} {narration : String}
    (h : turn.Dies command args narration) (hempty : narration = "") :
    turn.retort? command args = some "" ∨
      ∃ key ∈ ["death_drowning", "death_darkness", "death_generic"],
        turn.world.response key = "" := by
  cases h with
  | @mishap mishap h =>
    refine .inr ⟨mishap.responseKey, ?_, hempty⟩
    cases mishap <;> simp [Mishap.responseKey]
  | struck _ _ _ _ hretort => exact .inl (hempty ▸ hretort)
  | unheard => exact .inr ⟨_, by simp, hempty⟩

/-- A player who has died leaves everything behind and hears the last words. -/
theorem Stage.life_of_dead {turn : Turn} (hdead : turn.world.player.alive = false)
    (command : Command) (args : List Arg) :
    life turn command args =
      let final := (turn.withWorld turn.world.scatter).modifyPlayer (·.forget)
      (final, .tell (turn.config.separator.intercalate (turn.lastWords final.world)) args) :=
  if_neg (ne_true_of_eq_false hdead)

section Ending

variable {turn passed acted watched reckoned : Turn} {command : Command}
  {args next last : List Arg} {report reply : Report}

/-- A turn that is carried out says what the handler reports, perhaps the light, and then what the
last two stages say. -/
theorem runStages_to_events (hprepared : turn.prepared? command args = some (passed, next))
    (hstage : command.chosenHandler.stage passed command next = (acted, report))
    (hsuccess : report.success = true) (said : List String) :
    ∃ watched last before more, turn.watched? command args = some (watched, last) ∧
      watched.condition = acted.condition ∧
      runStages command command.stages turn args said =
        runStages command [Stage.events, Stage.life] watched last
          (report.addTo before ++ more) := by
  have hstages : command.stages = command.preparing ++
      command.chosenHandler.stage :: (command.watching ++ [Stage.events, Stage.life]) := by
    simp [Command.stages, Command.preparing, Command.watching]
  obtain ⟨before, hbefore⟩ := runStages_append_of_passes hprepared
    (command.chosenHandler.stage :: (command.watching ++ [Stage.events, Stage.life])) said
  obtain ⟨watched, last, more, hpasses, hcondition, hruns⟩ := spares_watching acted command
    report.next [Stage.events, Stage.life] (report.addTo before)
  refine ⟨watched, last, before, more, ?_, hcondition, ?_⟩
  · rw [Turn.watched?, Command.foregoing, passStages?_append, ← Turn.prepared?, hprepared]
    simp only [Option.bind_some, passStages?, hstage, hsuccess, if_true, hpasses]
  · rw [hstages, hbefore, ← hruns]
    simp only [runStages, hstage, hsuccess, if_true]

/-- The last two stages of a turn in which the player dies say what the event says, and the last
words. -/
theorem runStages_to_end (hevents : Stage.events watched command last = (reckoned, reply))
    {said : List String} {final : Turn × List String}
    (hruns : runStages command [Stage.events, Stage.life] watched last said = final)
    (hdead : final.1.world.player.alive = false) :
    reckoned.world.player.alive = false ∧ final.1.config = watched.config ∧
      final.2 = reply.addTo said ++ (Report.tell
        (watched.config.separator.intercalate (reckoned.lastWords final.1.world)) []).fragment := by
  obtain ⟨hconfig, -, hsuccess⟩ := Stage.keeps_events watched command last
  rw [hevents] at hconfig hsuccess
  dsimp only at hconfig hsuccess
  simp only [runStages, hevents, hsuccess, if_true] at hruns
  cases halive : reckoned.world.player.alive with
  | true =>
    have hlives : Stage.life reckoned command reply.next = (reckoned, .silent reply.next) :=
      if_pos halive
    rw [hlives] at hruns
    subst hruns
    have hstill : reckoned.world.player.alive = false := hdead
    rw [halive] at hstill
    cases hstill
  | false =>
    rw [Stage.life_of_dead halive] at hruns
    subst hruns
    refine ⟨rfl, hconfig, ?_⟩
    rw [← hconfig]
    exact Report.addTo_of_keeps rfl _

/-- What a turn says in which the player dies, if that is to be told by `narration`. -/
structure Turn.Tells (turn : Turn) (command : Command) (args : List Arg) (said : List String)
    (narration : String) : Prop where
  /-- The player dies of what is told. -/
  dies : turn.Dies command args narration
  /-- It is told before the question about reincarnation, unless an event says something after a
  mishap. -/
  told : turn.mishap? command args = none ∨ turn.retort? command args = none →
    ∃ before between, turn.config.separator.intercalate said =
      before ++ narration ++ between ++ turn.world.response "reincarnation_prompt"
  /-- If an event says something, that and the question are all that is said. -/
  talkedOver : ∀ retort, turn.retort? command args = some retort →
    said = [retort, turn.world.response "reincarnation_prompt"].filter (!·.isEmpty)

/-- What an event reports that fires is what it says in place of all else, if it has a text. -/
theorem Turn.retort?_eq (hwatched : turn.watched? command args = some (watched, last))
    (hevents : Stage.events watched command last = (reckoned, reply)) :
    turn.retort? command args = if reply.overrides then some reply.text else none := by
  simp only [retort?, hwatched, Option.bind_some, hevents]

/-- Of a report that takes back what was said and of a text after it nothing is left out but what is
empty. -/
theorem Report.addTo_append_tell {report : Report} (h : report.overrides = true)
    (said : List String) (last : String) :
    report.addTo said ++ (Report.tell last []).fragment =
      [report.text, last].filter (!·.isEmpty) := by
  rw [addTo_of_overrides h, fragment_eq, fragment_eq, text_tell, ← List.filter_append]
  rfl

/-- An event that kills tells it by its text or leaves it to the last words. -/
theorem tells_of_event (hwatched : turn.watched? command args = some (watched, last))
    (hevents : Stage.events watched command last = (reckoned, reply))
    (hsafe : turn.mishap? command args = none)
    (hcondition : watched.condition = (turn.config, false, true))
    (hdead : reckoned.world.player.alive = false) (said : List String) :
    ∃ narration, turn.Tells command args (reply.addTo said ++ (Report.tell
      (turn.config.separator.intercalate (reckoned.lastWords turn.world)) []).fragment)
        narration := by
  have hunmarked : watched.deathNarrated = false := congrArg (·.2.1) hcondition
  have halive : watched.world.player.alive = true := congrArg (·.2.2) hcondition
  have hlost : (Stage.events watched command last).1.world.player.alive = false := by
    rwa [hevents]
  obtain ⟨id, event, final, marked, hfires, hevent, hkills, hstage, hmark⟩ :=
    Stage.exists_killer halive hlost
  cases hevents.symm.trans hstage
  rw [hunmarked, Bool.false_or] at hmark
  have hreply : turn.reply? command args = some event := by
    simp only [Turn.reply?, hwatched, Option.bind_some, hfires, hevent]
  have hretort := Turn.retort?_eq hwatched hevents
  cases htext : event.outcome.text.isEmpty with
  | true =>
    rw [htext] at hmark
    rw [Turn.lastWords_of_unmarked hmark]
    have hempty : event.outcome.text = "" := String.isEmpty_iff.mp htext
    have hquiet : turn.retort? command args = none := by
      rw [hretort, Event.report, htext]
      rfl
    refine ⟨_, .unheard hsafe hreply hkills hempty, fun _ => exists_join_pair _ _ _ _,
      fun retort h => ?_⟩
    rw [hquiet] at h
    cases h
  | false =>
    rw [htext] at hmark
    have hreport : event.report final last = { Report.say event.outcome.text
        (last.map final.argText) last with overrides := true } := by
      rw [Event.report, htext]
      rfl
    rw [hreport, if_pos rfl] at hretort
    rw [Turn.lastWords_of_marked hmark, String.intercalate_singleton, hreport]
    have hnonempty : event.outcome.text ≠ "" := fun hempty =>
      Bool.noConfusion (htext.symm.trans (String.isEmpty_iff.mpr hempty))
    refine ⟨_, .struck hsafe hreply hkills hnonempty hretort,
      fun _ => (Report.heard_addTo _ said).exists_join_tell _ _, fun retort h => ?_⟩
    cases hretort.symm.trans h
    exact Report.addTo_append_tell rfl said _

/-- A mishap is told by the arrival, unless an event talks it over. -/
theorem tells_of_mishap (hwatched : turn.watched? command args = some (watched, last))
    (hevents : Stage.events watched command last = (reckoned, reply))
    {mishap : Mishap} (hmishap : turn.mishap? command args = some mishap)
    (hmarked : watched.deathNarrated = true) {said : List String}
    (hheard : Heard said (turn.world.response mishap.responseKey)) :
    turn.Tells command args (reply.addTo said ++ (Report.tell
      (turn.config.separator.intercalate (reckoned.lastWords turn.world)) []).fragment)
        (turn.world.response mishap.responseKey) := by
  obtain ⟨-, hmarks, -⟩ := Stage.keeps_events watched command last
  rw [hevents] at hmarks
  have hretort := Turn.retort?_eq hwatched hevents
  rw [Turn.lastWords_of_marked (hmarks hmarked), String.intercalate_singleton]
  cases hoverrides : reply.overrides with
  | false =>
    rw [hoverrides, if_neg Bool.noConfusion] at hretort
    rw [Report.addTo_of_keeps hoverrides]
    refine ⟨.mishap hmishap, fun _ => (hheard.append reply.fragment).exists_join_tell _ _,
      fun _ h => ?_⟩
    rw [hretort] at h
    cases h
  | true =>
    rw [hoverrides, if_pos rfl] at hretort
    refine ⟨.mishap hmishap, fun hquiet => ?_, fun retort h => ?_⟩
    · rw [hmishap, hretort] at hquiet
      rcases hquiet with h | h <;> cases h
    · cases hretort.symm.trans h
      exact Report.addTo_append_tell hoverrides said _

/-- However the player dies in a turn, it is told or talked over. -/
theorem tells_of_death {world : World} (hacted : turn.acted? command args = some world)
    (halive : turn.world.player.alive = true) (hunmarked : turn.deathNarrated = false)
    {final : Turn × List String} (hruns : runStages command command.stages turn args [] = final)
    (hdead : final.1.world.player.alive = false)
    (htexts : final.1.world.texts = turn.world.texts) :
    final.1.config = turn.config ∧ ∃ narration, turn.Tells command args final.2 narration := by
  obtain ⟨passed, next, hprepared, hsuccess, -⟩ := prepared_of_acted hacted
  obtain ⟨pending, tokens, hpassed⟩ := Turn.exists_left_of_prepared hprepared
  have hready : passed.condition = (turn.config, false, true) := by
    rw [hpassed, ← hunmarked, ← halive]
    rfl
  have hhandled := Turn.spares_or_mishap hprepared hsuccess
  generalize hstage : command.chosenHandler.stage passed command next = result at hsuccess hhandled
  obtain ⟨acted, report⟩ := result
  obtain ⟨watched, last, before, more, hwatched, hwatching, hgoes⟩ :=
    runStages_to_events hprepared hstage hsuccess []
  generalize hevents : Stage.events watched command last = result
  obtain ⟨reckoned, reply⟩ := result
  obtain ⟨hlost, hconfig, hsaid⟩ := runStages_to_end hevents (hgoes.symm.trans hruns) hdead
  rw [Turn.lastWords_of_texts _ htexts] at hsaid
  rw [hsaid, hconfig]
  rcases hhandled with ⟨hsafe, hspares⟩ | ⟨mishap, destination, hmishap, hbefalls, harrival⟩
  · have hcondition := hwatching.trans (hspares.condition.trans hready)
    have hsame : watched.config = turn.config := congrArg (·.1) hcondition
    rw [hsame]
    exact ⟨rfl, tells_of_event hwatched hevents hsafe hcondition hlost _⟩
  · cases harrival
    have hcondition := hwatching.trans (Turn.condition_perished hbefalls)
    have hsame : watched.config = turn.config :=
      (congrArg (·.1) hcondition).trans (congrArg (·.1) hready)
    have hmarked : watched.deathNarrated = true := congrArg (·.2.1) hcondition
    have htold : (passed.say mishap.responseKey [] next).text =
        turn.world.response mishap.responseKey := by
      rw [hpassed]
      exact Text.format_nil _
    rw [hsame]
    refine ⟨rfl, _, tells_of_mishap hwatched hevents hmishap hmarked ?_⟩
    rw [← htold]
    exact (Report.heard_addTo _ before).append more

end Ending

end Adventure
