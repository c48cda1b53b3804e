import Adventure.Proofs.Session.Garments
import Adventure.Proofs.Turn.Burden

/-!
# Overloaded inventories

In a game without actions of events an inventory gets heavier only by what commands do. Taking
things is checked, but there are deeds that are not: a worn coat, which weighs nothing, is taken
off, or something that is held is copied or put where it counts. Here the lines with such a deed are
told apart for which there is no room, and shown to be the only ones that make an inventory too
heavy.
-/

namespace Adventure.Session

variable {session first : Session} {line : String} {lines : List String}

/-! ## One line -/

/-- Whether the deed of a line adds more to an inventory than there is room for. -/
def overloads (session : Session) (line : String) : Bool :=
  (session.deed? line).any (·.overloads session.world)

/-- As the command of a line is carried out, every inventory stays within its capacity exactly if
the deed of the line does not overload one. -/
theorem withinCapacity_acted_iff (h : Reached session) (hwithin : session.world.WithinCapacity)
    (line : String) :
    (session.acted line).WithinCapacity ↔ session.overloads line = false := by
  unfold overloads
  rcases deed_cases h.kept line with ⟨hdeed, hacted⟩ | ⟨f, deed, -, hdeed, hdoes⟩
  · rw [hdeed, hacted]
    exact iff_of_true hwithin rfl
  · have hpacked := h.sound.toPacked.modifyPlayer f
    rw [hdoes.withinCapacity_iff hpacked (hwithin.modifyPlayer f), World.overloads_modifyPlayer,
      hdeed, Option.any_some]

/-- If every inventory is within its capacity, and that is less than the limit of counting, then a
line that overloads one takes something off, or puts something or a copy of it into a container that
the player does not hold or that is held together with the thing. -/
theorem overloads_cases (h : Reached session) (hwithin : session.world.WithinCapacity)
    (hsmall : ∀ id inventory, session.world.inventory? id = some inventory →
      inventory.capacity < Count.limit)
    (hover : session.overloads line = true) :
    (∃ key, session.deed? line = some (.takeOff key)) ∨ ∃ key container,
      (session.deed? line = some (.put key container) ∨
        session.deed? line = some (.copy key container)) ∧
      (session.world.holds container = true → session.world.holds key = true) := by
  unfold overloads at hover
  rcases deed_cases h.kept line with ⟨hdeed, -⟩ | ⟨f, deed, hlocation, hdeed, hdoes⟩
  · rw [hdeed] at hover
    cases hover
  · rw [hdeed, Option.any_some, ← World.overloads_modifyPlayer (f := f)] at hover
    simp only [hdeed, Option.some.injEq]
    have hpacked := h.sound.toPacked.modifyPlayer f
    have hcases := hdoes.overloads_cases hpacked (hwithin.modifyPlayer f) hsmall hover
    simpa only [World.holds_modifyPlayer hlocation] using hcases

/-- What follows after the command has been carried out makes nothing heavier, if no event has
actions. -/
theorem withinCapacity_answer (h : Reached session) (hactionless : session.world.Actionless)
    (hwithin : (session.acted line).WithinCapacity) :
    (session.answer line).1.world.WithinCapacity := by
  unfold acted at hwithin
  cases hturn : session.turn? line with
  | none =>
    rw [hturn] at hwithin
    have hstays := stays_answer hturn
    exact hwithin.lighter hstays.setting (hstays.lightens h.sound.toPacked).carriedLoad_le
  | some begun =>
    obtain ⟨turn, command, args⟩ := begun
    obtain ⟨⟨pending, hbegins⟩, -, -, -⟩ := turn?_cases h.kept hturn
    have hsetting : turn.world.setting = session.world.setting := by
      rw [hbegins]
      exact World.setting_modifyPlayer rfl
    refine (course_answer h.kept hturn).withinCapacity (h.sound_turn hturn)
      (hactionless.of_setting hsetting) ?_
    simp only [hturn, Option.bind_some] at hwithin
    cases hacted : turn.acted? command args with
    | none =>
      rw [hacted] at hwithin
      rw [Option.getD_none, hbegins]
      exact hwithin.modifyPlayer _
    | some acted =>
      rw [hacted] at hwithin
      exact hwithin

/-! ## Many lines -/

/-- Whether the deed of one of some lines adds more to an inventory than there is room for. -/
def overloadsAny (session : Session) : List String → Bool
  | [] => false
  | line :: rest => session.overloads line || (session.answer line).1.overloadsAny rest

theorem withinCapacity_acts_iff (h : Reached session) (hactionless : session.world.Actionless)
    (hwithin : session.world.WithinCapacity) (lines : List String) :
    (∀ world ∈ session.acts lines, world.WithinCapacity) ↔ session.overloadsAny lines = false := by
  induction lines generalizing session with
  | nil => simp [acts, overloadsAny]
  | cons line rest ih =>
    rw [acts, overloadsAny, List.forall_mem_cons, Bool.or_eq_false_iff,
      withinCapacity_acted_iff h hwithin]
    refine and_congr_right fun hroom => ?_
    have hacted := (withinCapacity_acted_iff h hwithin line).mpr hroom
    exact ih (h.answer line) (hactionless.of_setting (setting_answer h line))
      (withinCapacity_answer h hactionless hacted)

/-- Every inventory is still within its capacity after lines none of which overloads one. -/
theorem withinCapacity_play (h : Reached session) (hactionless : session.world.Actionless)
    (hwithin : session.world.WithinCapacity) (hroom : session.overloadsAny lines = false) :
    (session.play lines).world.WithinCapacity := by
  induction lines generalizing session with
  | nil => exact hwithin
  | cons line rest ih =>
    obtain ⟨hline, hrest⟩ := Bool.or_eq_false_iff.mp hroom
    have hacted := (withinCapacity_acted_iff h hwithin line).mpr hline
    exact ih (h.answer line) (hactionless.of_setting (setting_answer h line))
      (withinCapacity_answer h hactionless hacted) hrest

/-- **When an inventory gets too heavy.** In a game in which no event has actions and every
inventory is within its capacity at first, weights summed without a limit, it is so at every time
while lines are played exactly if none of them does a deed for which there is no room, and after
such lines it still is so. Wherever lines may lead, what an inventory bears is also what it is
counted to bear, unless that is beyond the limit of counting. -/
theorem withinCapacity_iff_never_overloads {document : Document} {config : Config}
    (hbegins : document.begin? config = some session)
    (hfirst : first = session ∨ first = session.welcome.1)
    (hactionless : first.world.Actionless) (hwithin : first.world.WithinCapacity)
    (lines : List String) :
    ((∀ world ∈ first.acts lines, world.WithinCapacity) ↔ first.overloadsAny lines = false) ∧
      (first.overloadsAny lines = false → (first.play lines).world.WithinCapacity) ∧
      ∀ id, (first.play lines).world.carriedLoad id ≤ Count.limit →
        (first.play lines).world.carriedWeight id = (first.play lines).world.carriedLoad id := by
  have hbegun := Reached.of_begin? hbegins
  have hreached : Reached first := by
    rcases hfirst with rfl | rfl
    · exact hbegun
    · exact hbegun.welcome
  exact ⟨withinCapacity_acts_iff hreached hactionless hwithin lines,
    withinCapacity_play hreached hactionless hwithin,
    fun _ => World.carriedWeight_eq_carriedLoad (hreached.play lines).sound.toPacked⟩

/-- The coat is worn, so the stone can be taken; when the coat is taken off, all three weigh more
together than can be carried. -/
theorem withinCapacity_iff_never_overloads_wardrobe :
    let lines := ["wear coat", "take stone"]
    Document.wardrobe.begin? {} = some wardrobe ∧ wardrobe.overloadsAny lines = false ∧
      (wardrobe.play lines).world.WithinCapacity ∧
      (wardrobe.play lines).world.carriedWeight ⟨1⟩ = 14 ∧
      wardrobe.overloadsAny (lines ++ ["remove coat"]) = true ∧
      (wardrobe.play (lines ++ ["remove coat"])).world.carriedWeight ⟨1⟩ = 22 ∧
      ¬ ∀ world ∈ wardrobe.acts (lines ++ ["remove coat"]), world.WithinCapacity := by
  intro lines
  have hactionless : wardrobe.world.Actionless := by decide +kernel
  have hwithin : wardrobe.world.WithinCapacity := by decide +kernel
  have hroom : wardrobe.overloadsAny lines = false := by decide +kernel
  have hlack : wardrobe.overloadsAny (lines ++ ["remove coat"]) = true := by decide +kernel
  obtain ⟨-, hplay, -⟩ :=
    withinCapacity_iff_never_overloads begin?_wardrobe (.inl rfl) hactionless hwithin lines
  refine ⟨begin?_wardrobe, hroom, hplay hroom, by decide +kernel, hlack, by decide +kernel, ?_⟩
  rw [(withinCapacity_iff_never_overloads begin?_wardrobe (.inl rfl) hactionless hwithin _).1,
    hlack]
  exact Bool.noConfusion

end Adventure.Session
