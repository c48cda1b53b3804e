import Adventure.Proofs.Turn.Notes

/-!
# Going on with a command that waits

A command that lacks an argument waits, and goes on with the words of another line where its own
ran out. What comes of that is what would have come of all the words at once, whatever was noted on
the player meanwhile. One case is apart: where the last word before and the first word after both
connect the argument that is asked for, each of two lines has a connecting word passed over, and a
single line has only one.
-/

namespace Adventure

/-! ## Filling slots in two goes -/

namespace Slot

variable {slot : Slot} {tokens : List String}

/-- The first slot that no word is left for, with what stood in its place: nothing, or a word that
only connects. -/
def openAfter? : List Slot → List String → Option (Slot × List String)
  | [], _ => none
  | slot :: slots, tokens =>
    match slot.skipLinker tokens with
    | [] => some (slot, tokens)
    | _ :: rest => openAfter? slots rest

/-- Words that come later do not change which word is taken first. -/
theorem skipLinker_append {token : String} {rest : List String}
    (h : slot.skipLinker tokens = token :: rest) (more : List String) :
    slot.skipLinker (tokens ++ more) = token :: (rest ++ more) := by
  cases tokens with
  | nil => cases h
  | cons first others =>
    simp only [skipLinker, List.cons_append] at h ⊢
    split at h
    · rename_i hlinker
      rw [if_pos hlinker, h, List.cons_append]
    · rename_i hword
      rw [if_neg hword, ← List.cons_append, h, List.cons_append]

/-- Where no word is left, the first word is taken from those that come later. -/
theorem skipLinker_append_of_nil (h : slot.skipLinker tokens = []) {more : List String}
    (honce : tokens ≠ [] → ∀ token ∈ more.head?, slot.isLinker token = false) :
    slot.skipLinker (tokens ++ more) = slot.skipLinker more := by
  cases tokens with
  | nil => rfl
  | cons first others =>
    simp only [skipLinker, List.cons_append] at h ⊢
    split at h
    · rename_i hlinker
      rw [if_pos hlinker, h, List.nil_append]
      cases more with
      | nil => rfl
      | cons token rest =>
        have hword : slot.isLinker token = false := honce (List.cons_ne_nil _ _) token rfl
        exact (if_neg (ne_true_of_eq_false hword)).symm
    · cases h

end Slot

namespace World

variable {world : World} {slots : List Slot} {args found : List Arg} {tokens more : List String}

/-- Filling slots with more words goes on where it stopped without them. -/
theorem fillSlots_append (h : world.fillSlots slots args tokens = .lacking found)
    (honce : ∀ slot left, Slot.openAfter? slots tokens = some (slot, left) → left ≠ [] →
      ∀ token ∈ more.head?, slot.isLinker token = false) :
    ∃ new, found = args ++ new ∧ world.fillSlots slots args (tokens ++ more) =
      world.fillSlots (slots.drop new.length) found more := by
  induction slots generalizing args tokens with
  | nil => cases h
  | cons slot rest ih =>
    cases hskip : slot.skipLinker tokens with
    | nil =>
      have hopen : Slot.openAfter? (slot :: rest) tokens = some (slot, tokens) := by
        simp only [Slot.openAfter?, hskip]
      simp only [fillSlots, hskip] at h
      split at h
      · cases h
        refine ⟨[], (List.append_nil _).symm, ?_⟩
        rw [List.length_nil, List.drop_zero, fillSlots, fillSlots,
          Slot.skipLinker_append_of_nil hskip (honce slot tokens hopen)]
      · cases h
    | cons token later =>
      have hopen : Slot.openAfter? (slot :: rest) tokens = Slot.openAfter? rest later := by
        simp only [Slot.openAfter?, hskip]
      have hnext (arg : Arg) (hfill : world.fillSlots rest (args ++ [arg]) later = .lacking found) :
          ∃ new, found = args ++ new ∧
            world.fillSlots rest (args ++ [arg]) (later ++ more) =
              world.fillSlots ((slot :: rest).drop new.length) found more := by
        obtain ⟨new, rfl, hsame⟩ := ih hfill (hopen ▸ honce)
        exact ⟨arg :: new, by rw [List.append_assoc, List.singleton_append], hsame⟩
      simp only [fillSlots, hskip] at h
      have hmore := Slot.skipLinker_append hskip more
      split at h
      · rename_i hisItem
        split at h
        · cases h
        · rename_i key hkey
          split at h
          · cases h
          · rename_i hfits
            obtain ⟨new, hfound, hsame⟩ := hnext _ h
            refine ⟨new, hfound, ?_⟩
            rw [fillSlots, hmore]
            simpa only [hisItem, if_true, hkey, hfits] using hsame
      · rename_i hisText
        obtain ⟨new, hfound, hsame⟩ := hnext _ h
        refine ⟨new, hfound, ?_⟩
        rw [fillSlots, hmore]
        simpa only [hisText, Bool.false_eq_true, if_false] using hsame

end World

/-! ## Stages that fill slots -/

namespace Stage

/-- The turn as it stops at a missing argument. -/
def stopped (turn : Turn) (command : Command) (found : List Arg) : Turn :=
  { turn with tokens := [] }.modifyPlayer (·.suspend command.id turn.verb found)

/-- A stage that fills the slots of a command. -/
structure FillsSlots (stage : Stage) : Prop where
  /-- If words run out before a mandatory slot, the command waits and the player is asked. -/
  stops : ∀ turn command args found,
    turn.world.fillSlots (command.slots.drop args.length) args turn.tokens = .lacking found →
      (stage turn command args).1 = stopped turn command found ∧
        (stage turn command args).2.success = false
  /-- Otherwise no command waits. -/
  forgets : ∀ turn command args,
    (∀ found, turn.world.fillSlots (command.slots.drop args.length) args turn.tokens ≠
      .lacking found) → (stage turn command args).1.world.player.pending = .idle
  /-- What the slots are filled with is all that counts, and not how the words came or what was
  noted on the player. -/
  resumes : ∀ (turn : Turn) command args found (tokens more : List String) count wait,
    turn.world.fillSlots (command.slots.drop found.length) found more =
        turn.world.fillSlots (command.slots.drop args.length) args tokens →
      stage ({ turn with tokens := more }.noting count wait) command found =
        ((stage { turn with tokens := tokens } command args).1.noting count id,
          (stage { turn with tokens := tokens } command args).2)

variable {turn : Turn} {command : Command} {args found : List Arg}

theorem resolveSlots_of_lacking (h : turn.world.fillSlots (command.slots.drop args.length) args
    turn.tokens = .lacking found) : turn.resolveSlots command args =
      (stopped turn command found, .error (turn.refuse "request_argument"
        [turn.world.promptPhrase turn.verb command found])) := by
  simp only [Turn.resolveSlots, h]
  rfl

theorem idle_resolveSlots (h : ∀ found, turn.world.fillSlots (command.slots.drop args.length) args
    turn.tokens ≠ .lacking found) :
    (turn.resolveSlots command args).1.world.player.pending = .idle := by
  simp only [Turn.resolveSlots]
  split
  · rfl
  · rename_i found hlacking
    exact absurd hlacking (h found)
  · rfl
  · rfl

theorem resolveSlots_resumed {tokens more : List String} {count : Nat → Nat}
    {wait : Pending → Pending}
    (h : turn.world.fillSlots (command.slots.drop found.length) found more =
      turn.world.fillSlots (command.slots.drop args.length) args tokens) :
    ({ turn with tokens := more }.noting count wait).resolveSlots command found =
      (({ turn with tokens := tokens }.resolveSlots command args).1.noting count id,
        ({ turn with tokens := tokens }.resolveSlots command args).2) := by
  simp only [Turn.resolveSlots]
  rw [Turn.world_noting, World.fillSlots_noting, World.promptPhrase_noting, World.itemName_noting]
  dsimp only [Turn.noting, Turn.withWorld]
  rw [h]
  split <;> rfl

theorem fillsSlots_resolvePlain : FillsSlots resolvePlain where
  stops turn command args found h := by
    unfold resolvePlain
    rw [resolveSlots_of_lacking h]
    exact ⟨rfl, rfl⟩
  forgets turn command args h := by
    have hidle := idle_resolveSlots h
    unfold resolvePlain
    split
    · rename_i changed refusal hslots
      rwa [hslots] at hidle
    · rename_i changed filled hslots
      rwa [hslots] at hidle
  resumes turn command args found tokens more count wait h := by
    unfold resolvePlain
    rw [resolveSlots_resumed h]
    rcases Turn.resolveSlots { turn with tokens := tokens } command args with
      ⟨changed, refusal | filled⟩
    · rfl
    · rfl

theorem fillsSlots_resolveSwitching : FillsSlots resolveSwitching where
  stops turn command args found h := by
    unfold resolveSwitching
    rw [resolveSlots_of_lacking h]
    exact ⟨rfl, rfl⟩
  forgets turn command args h := by
    have hidle := idle_resolveSlots h
    unfold resolveSwitching
    split
    · rename_i changed refusal hslots
      rwa [hslots] at hidle
    · rename_i changed filled hslots
      rw [hslots] at hidle
      dsimp only
      split
      · exact hidle
      split
      · exact hidle
      split
      · exact hidle
      split <;> exact hidle
  resumes turn command args found tokens more count wait h := by
    unfold resolveSwitching
    rw [resolveSlots_resumed h]
    rcases Turn.resolveSlots { turn with tokens := tokens } command args with
      ⟨changed, refusal | filled⟩
    · rfl
    · have htokens : (changed.noting count id).tokens = changed.tokens := rfl
      dsimp only
      rw [changed.world_noting, World.item?_noting, World.itemName_noting, htokens]
      split
      · rfl
      split
      · rfl
      split
      · rfl
      split <;> rfl

/-- A stage that finds the arguments of a command fills its slots, or lets none wait. -/
theorem fillsSlots_or_forgets (command : Command) : (resolverOf command).FillsSlots ∨
    ∀ turn args, (resolverOf command turn command args).1.world.player.pending = .idle := by
  unfold resolverOf
  split
  · refine .inr fun turn args => ?_
    unfold resolveMovement
    dsimp only
    split
    · rfl
    split <;> rfl
  split
  · refine .inr fun turn args => ?_
    unfold resolveTeleport
    dsimp only
    split <;> rfl
  split
  · refine .inr fun turn args => ?_
    unfold resolveSwitchable
    dsimp only
    split
    · rfl
    split
    · rfl
    split <;> rfl
  split
  · exact .inl fillsSlots_resolveSwitching
  · exact .inl fillsSlots_resolvePlain

end Stage

/-! ## Turns in two goes -/

section Runs

variable {turn : Turn} {command : Command} {args found : List Arg} {said : List String}

/-- To go on without a word adds nothing to the answer. -/
theorem Report.addTo_silent (next : List Arg) (said : List String) :
    (Report.silent next).addTo said = said := by
  have htext : (Report.silent next).text = "" := by
    simp [Report.text, Report.silent, Text.format, Text.fill]
  unfold Report.addTo
  rw [htext]
  exact List.append_nil said

/-- Where there is light or none is needed, a turn begins with finding the arguments. -/
theorem runStages_lit (turn : Turn) (args : List Arg) (said : List String)
    (hsees : command.attributes.has CommandFlags.requiresVision = true → turn.world.canSee = true) :
    runStages command command.stages turn args said =
      runStages command (Stage.resolverOf command :: command.performing) turn args said := by
  rw [command.stages_eq_performing, Command.preparing]
  by_cases hvision : command.attributes.has CommandFlags.requiresVision = true
  · have hguard : Stage.requireVision turn command args = (turn, .silent args) :=
      if_pos (hsees hvision)
    rw [if_pos hvision, List.singleton_append, List.cons_append, runStages, hguard]
    simp only [Report.addTo_silent, List.singleton_append]
    rfl
  · rw [if_neg hvision, List.nil_append, List.singleton_append]

/-- Where there is no light and some is needed, a turn ends at once. -/
theorem runStages_dark (hvision : command.attributes.has CommandFlags.requiresVision = true)
    (hdark : turn.world.canSee = false) :
    (runStages command command.stages turn args said).1 = turn := by
  have hguard : Stage.requireVision turn command args =
      (turn, turn.refuse "reject_too_dark" []) := if_neg (ne_true_of_eq_false hdark)
  rw [command.stages_eq_performing, Command.preparing, if_pos hvision, List.singleton_append,
    List.cons_append, runStages, hguard]
  rfl

/-- A turn after which a command waits, when none did before, has stopped at an argument that is
missing, and has changed nothing else. -/
theorem stopped_of_awaiting {id : CommandId} {verb : String}
    (hidle : turn.world.player.pending = .idle)
    (h : (runStages command command.stages turn args said).1.world.player.pending =
      .awaiting id verb found) :
    (command.attributes.has CommandFlags.requiresVision = true → turn.world.canSee = true) ∧
      (Stage.resolverOf command).FillsSlots ∧
      turn.world.fillSlots (command.slots.drop args.length) args turn.tokens = .lacking found ∧
      (runStages command command.stages turn args said).1 = Stage.stopped turn command found := by
  have hsees (hvision : command.attributes.has CommandFlags.requiresVision = true) :
      turn.world.canSee = true := by
    by_contra hdark
    rw [runStages_dark hvision (Bool.eq_false_iff.mpr hdark), hidle] at h
    cases h
  rw [runStages_lit turn args said hsees] at h ⊢
  -- Once no command waits, none begins to wait later in the turn.
  have hlater : (Stage.resolverOf command turn command args).1.world.player.pending ≠ .idle := by
    intro hforgets
    simp only [runStages] at h
    split at h
    · rw [idle_runStages command.mentions_performing hforgets] at h
      cases h
    · rw [hforgets] at h
      cases h
  rcases Stage.fillsSlots_or_forgets command with hfills | hforgets
  · by_cases hlacking : ∃ other, turn.world.fillSlots (command.slots.drop args.length) args
        turn.tokens = .lacking other
    · obtain ⟨other, hother⟩ := hlacking
      obtain ⟨hstops, hrefused⟩ := hfills.stops turn command args other hother
      have hrun : (runStages command (Stage.resolverOf command :: command.performing) turn args
          said).1 = Stage.stopped turn command other := by
        simp only [runStages, hrefused, Bool.false_eq_true, if_false, hstops]
      have hsame : other = found := by
        rw [hrun] at h
        cases h
        rfl
      subst hsame
      exact ⟨hsees, hfills, hother, hrun⟩
    · exact absurd (hfills.forgets turn command args (not_exists.mp hlacking)) hlater
  · exact absurd (hforgets turn args) hlater

/-- A turn that has stopped at a missing argument and goes on with more words comes to what it would
have come to with all the words, and so does what is said, unless the number of moves is told. -/
theorem Turn.run_resumed (args : List Arg)
    (hsees : command.attributes.has CommandFlags.requiresVision = true → turn.world.canSee = true)
    (hfills : (Stage.resolverOf command).FillsSlots)
    (hlacking : turn.world.fillSlots (command.slots.drop args.length) args turn.tokens =
      .lacking found) {more : List String}
    (honce : ∀ slot left,
      Slot.openAfter? (command.slots.drop args.length) turn.tokens = some (slot, left) →
        left ≠ [] → ∀ token ∈ more.head?, slot.isLinker token = false)
    (count : Nat → Nat) (wait : Pending → Pending) :
    let whole := { turn with tokens := turn.tokens ++ more }.run command command.stages args
    let resumed := ({ turn with tokens := more }.noting count wait).run command command.stages found
    resumed.1 = whole.1.noting count id ∧
      (command.chosenHandler ≠ .score → command.chosenHandler ≠ .quit → resumed.2 = whole.2) := by
  obtain ⟨new, hfound, hgoes⟩ := World.fillSlots_append hlacking honce
  have hfill : turn.world.fillSlots (command.slots.drop found.length) found more =
      turn.world.fillSlots (command.slots.drop args.length) args (turn.tokens ++ more) := by
    rw [hgoes, List.drop_drop, hfound, List.length_append]
  have hresumes := hfills.resumes turn command args found _ more count wait hfill
  have hwhole := runStages_lit { turn with tokens := turn.tokens ++ more } args [] hsees
  have hresumed := runStages_lit ({ turn with tokens := more }.noting count wait) found [] hsees
  unfold Turn.run
  dsimp only
  rw [hwhole, hresumed]
  simp only [runStages]
  rw [hresumes]
  dsimp only
  split
  · refine ⟨fst_runStages_noting command.mentions_performing rfl _ _ _ _, fun hscore hquit => ?_⟩
    rw [runStages_noting (Command.overlooks_performing hscore hquit) rfl]
    rfl
  · exact ⟨rfl, fun _ _ => rfl⟩

end Runs

end Adventure
