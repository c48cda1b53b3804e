import Adventure.Proofs.Session.Reached

/-!
# Items that nothing lists

While a game is played, an item that names a holder should be listed by it. It may fail to be, but
in one way only: a copy was taken out of the world with something inside, and the next copy of the
same item takes its slot. What was inside goes on naming the slot and can no longer be found in it.
Here the lines are told apart that do this, and shown to be the only ones.
-/

namespace Adventure.Session

variable {session : Session} {line : String} {key : ItemKey} {holder : Holder}

/-! ## One line -/

/-- The world in which the command of a line has been carried out, before events: it is the world
before the line if there is no such command or if it is refused. -/
def acted (session : Session) (line : String) : World :=
  ((session.turn? line).bind fun (turn, command, args) => turn.acted? command args).getD
    session.world

/-- The slot that is taken by the copy that a line makes, if it makes one. -/
def slot? (session : Session) (line : String) : Option ItemKey :=
  (session.turn? line).bind fun (turn, command, args) =>
    (turn.model? command args).bind fun model =>
      (session.world.copyItem model).toOption.map Prod.snd

/-- Whether a line makes a copy that takes a slot with something inside. -/
def overwrites (session : Session) (line : String) : Bool :=
  (session.slot? line).any fun slot => session.world.contents (.item slot) ≠ []

/-- Carrying out the command of a line comes to a number of changes, or a copy is put somewhere and
takes the slot that was foreseen. -/
theorem acted_cases (h : Reached session) (line : String) :
    (session.slot? line = none ∧ ∃ f, (session.world.modifyPlayer f).Evolves (session.acted line)) ∨
      ∃ f into model slot, session.slot? line = some slot ∧
        (session.world.modifyPlayer f).copyInto into model = (session.acted line, .ok slot) := by
  unfold slot? acted
  cases hturn : session.turn? line with
  | none => exact .inl ⟨rfl, id, .refl _⟩
  | some begun =>
    obtain ⟨turn, command, args⟩ := begun
    obtain ⟨⟨before, hbegins⟩, -, -, -⟩ := turn?_cases h.kept hturn
    simp only [Option.bind_some]
    cases ends_answer h.kept hturn with
    | refused pending hfinal hpending hacted hmodel =>
      rw [hacted, hmodel]
      exact .inl ⟨rfl, id, .refl _⟩
    | completed hreports hacted hcarries hevolves =>
      rw [hacted, hbegins] at *
      cases hmodel : turn.model? command args with
      | none =>
        rw [hmodel] at hcarries
        exact .inl ⟨rfl, fun p => { p with moves := p.moves + 1, pending := .idle }, hcarries⟩
      | some model =>
        rw [hmodel] at hcarries
        obtain ⟨into, slot, hmade⟩ := hcarries
        obtain ⟨copied, hcopied, -⟩ := World.copyInto_ok hmade
        obtain ⟨counted, hcounted⟩ := World.copyItem_modifyPlayer hcopied
        obtain ⟨plain, hplain⟩ := World.copyItem_modifyPlayer hcounted
        refine .inr ⟨fun p => { p with moves := p.moves + 1, pending := .idle }, into, model, slot,
          ?_, hmade⟩
        rw [Option.bind_some, hplain]
        rfl

/-- As long as both sides agree, carrying out the command of a line keeps them so, unless the line
makes a copy that takes a filled slot; and then they do not agree any longer. -/
theorem allListed_acted_iff (h : Reached session) (hlisted : session.world.AllListed) :
    (session.acted line).AllListed ↔ session.overwrites line = false := by
  unfold overwrites
  rcases acted_cases h line with ⟨hslot, f, hevolves⟩ | ⟨f, into, model, slot, hslot, hmade⟩
  · rw [hslot]
    refine iff_of_true (fun key holder hunlisted => ?_) rfl
    exact hlisted key holder ((hevolves.listed h.kept.own).2 key holder hunlisted)
  · have hown : (session.world.modifyPlayer f).OwnLists := h.kept.own
    have hagree : (session.world.modifyPlayer f).AllListed := hlisted
    rw [World.allListed_copyInto_iff hown hagree hmade, hslot, Option.any_some,
      decide_eq_false_iff_not, not_not]
    rfl

/-- What follows after the command has been carried out leaves no more items unlisted. -/
theorem unlisted_answer (h : Reached session)
    (hafter : (session.answer line).1.world.Unlisted key holder) :
    (session.acted line).Unlisted key holder := by
  have hkept := h.kept
  unfold acted
  cases hturn : session.turn? line with
  | none =>
    obtain ⟨f, -, hevolves⟩ := (quiet_answer hturn).evolves
    have hown : (session.world.modifyPlayer f).OwnLists := hkept.own
    exact (hevolves.listed hown).2 key holder hafter
  | some begun =>
    obtain ⟨turn, command, args⟩ := begun
    obtain ⟨⟨before, hbegins⟩, hstarted, -, -⟩ := turn?_cases hkept hturn
    have hends := ends_answer hkept hturn
    generalize (session.answer line).1.world = final at hafter hends
    simp only [Option.bind_some]
    cases hends with
    | refused pending hfinal hpending hacted hmodel =>
      rw [hfinal, hbegins] at hafter
      rw [hacted]
      exact hafter
    | completed hreports hacted hcarries hevolves =>
      rw [hacted]
      exact (hevolves.listed (hcarries.own hstarted.own)).2 key holder hafter

/-! ## Many lines -/

/-- The worlds in which the commands of the lines have been carried out, one after the other. -/
def acts (session : Session) : List String → List World
  | [] => []
  | line :: rest => session.acted line :: (session.answer line).1.acts rest

/-- Whether one of the lines makes a copy that takes a slot with something inside. -/
def overwritesAny (session : Session) : List String → Bool
  | [] => false
  | line :: rest => session.overwrites line || (session.answer line).1.overwritesAny rest

/-- A line that keeps both sides in agreement as its command is carried out keeps them so
altogether. -/
theorem allListed_answer (h : Reached session) (hacted : (session.acted line).AllListed) :
    (session.answer line).1.world.AllListed :=
  fun key holder hunlisted => hacted key holder (unlisted_answer h hunlisted)

/-- Both sides agree at every time while lines are played exactly if none of the lines makes a copy
that takes a filled slot. -/
theorem allListed_acts_iff (h : Reached session) (hlisted : session.world.AllListed)
    (lines : List String) :
    (∀ world ∈ session.acts lines, world.AllListed) ↔ session.overwritesAny lines = false := by
  induction lines generalizing session with
  | nil => simp [acts, overwritesAny]
  | cons line rest ih =>
    rw [acts, overwritesAny, List.forall_mem_cons, Bool.or_eq_false_iff,
      allListed_acted_iff h hlisted]
    refine and_congr_right fun hnone => ih (h.answer line) ?_
    exact allListed_answer h ((allListed_acted_iff h hlisted).mpr hnone)

/-- They still agree after such lines. -/
theorem allListed_play (h : Reached session) (hlisted : session.world.AllListed)
    {lines : List String} (hnone : session.overwritesAny lines = false) :
    (session.play lines).world.AllListed := by
  induction lines generalizing session with
  | nil => exact hlisted
  | cons line rest ih =>
    obtain ⟨hline, hrest⟩ := Bool.or_eq_false_iff.mp hnone
    have hacted := (allListed_acted_iff h hlisted).mpr hline
    exact ih (h.answer line) (allListed_answer h hacted) hrest

/-- As a session begins, every item is listed by the holder that it names. -/
theorem allListed_begin? {document : Document} {config : Config}
    (h : document.begin? config = some session) : session.world.AllListed := by
  obtain ⟨loaded, hload, hstart⟩ := begins_of_begin? h
  have hready := Document.ready_load hload
  rw [(start_ok hstart).1]
  exact hready.listed

/-- **When an item is left unlisted.** As a session begins, no item is, and whatever lines are
played, none is at any time exactly if none of the lines makes a copy that takes a slot with
something inside. Wherever lines may lead, a copy leaves exactly those items unlisted that were so
before and those that were inside the slot that it takes. -/
theorem allListed_iff_never_overwrites {document : Document} {config : Config}
    (hbegins : document.begin? config = some session) (lines : List String) :
    session.world.AllListed ∧
      ((∀ world ∈ session.acts lines, world.AllListed) ↔ session.overwritesAny lines = false) ∧
      (session.overwritesAny lines = false → (session.play lines).world.AllListed) ∧
      ∀ model copied copy, (session.play lines).world.copyItem model = .ok (copied, copy) →
        ∀ key holder, copied.Unlisted key holder ↔
          (session.play lines).world.Unlisted key holder ∨
            holder = .item copy ∧ key ∈ (session.play lines).world.contents holder := by
  have hreached := Reached.of_begin? hbegins
  have hlisted := allListed_begin? hbegins
  refine ⟨hlisted, allListed_acts_iff hreached hlisted lines, allListed_play hreached hlisted, ?_⟩
  intro model copied copy hcopy key holder
  exact World.unlisted_copyItem ((hreached.play lines).kept.own holder) hcopy

/-- A pea is put into a copy of the mug, and the copy is eaten with it. The next copy takes its
slot, and the pea is nowhere to be found in it. -/
theorem allListed_iff_never_overwrites_larder :
    let lines := ["insert mug box", "insert pea mug", "eat mug", "insert mug box"]
    Document.larder.begin? {} = some larder ∧ larder.overwritesAny lines = true ∧
      (larder.play lines).world.Unlisted ⟨2⟩ (.item ⟨3⟩) ∧
      ¬ ∀ world ∈ larder.acts lines, world.AllListed := by
  intro lines
  have hoverwrites : larder.overwritesAny lines = true := by decide +kernel
  have hunlisted : (larder.play lines).world.Unlisted ⟨2⟩ (.item ⟨3⟩) := by decide +kernel
  refine ⟨begin?_larder, hoverwrites, hunlisted, ?_⟩
  rw [(allListed_iff_never_overwrites begin?_larder lines).2.1, hoverwrites]
  exact Bool.noConfusion

end Adventure.Session
