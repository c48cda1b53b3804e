import Adventure.Proofs.Session.Course
import Adventure.Proofs.Turn.Garments

/-!
# Worn and not carried

As a game begins nothing is worn, and only what is held can be put on. From then on worn things are
carried until a step of a turn leaves one behind: a bag is dropped with a worn hat inside, or lost
by death, or an event takes it away. Here the lines with such a step are told apart, and shown to be
the only ones.
-/

namespace Adventure

/-- A description with a coat, a bag that is large enough for it and a stone. -/
def Document.wardrobe : Document :=
  let labels (name : String) : LabelsDecl := ⟨name, none, none, []⟩
  let item (num : Nat) (attributes name : String) (size : Nat) (place : HolderDecl) : ItemDecl :=
    ⟨⟨num⟩, attributes, labels name, size, none, some place, none, none⟩
  let slot : SlotDecl := ⟨true, true, .either, []⟩
  { name := "wardrobe"
    commands := [⟨⟨1⟩, "", "wear", [], none, [slot], none, []⟩,
      ⟨⟨2⟩, "", "remove", [], none, [slot], none, []⟩,
      ⟨⟨3⟩, "", "insert", [], none, [slot, slot], none, []⟩,
      ⟨⟨4⟩, "", "take", [], none, [slot], none, []⟩,
      ⟨⟨5⟩, "", "drop", [], none, [slot], none, []⟩]
    items := [item 1 "48" "coat" 8 (.inventory ⟨1⟩), item 2 "b" "bag" 9 (.inventory ⟨1⟩),
      item 3 "8" "stone" 5 (.location ⟨1⟩)]
    locations := [⟨⟨1⟩, "3", labels "hall", ∅⟩]
    events := []
    inventories := [⟨⟨1⟩, 20, true, []⟩]
    players := [⟨⟨1⟩, ""⟩]
    inputs := ∅
    hints := ∅
    explanations := ∅
    responses := ∅ }

namespace Session

/-- The session that begins over it. -/
def wardrobe : Session := (Document.wardrobe.begin? {}).get (by decide +kernel)

theorem begin?_wardrobe : Document.wardrobe.begin? {} = some wardrobe := (Option.some_get _).symm

variable {session first : Session} {line : String} {lines : List String}

/-! ## One line -/

/-- The worlds that a session goes through while it answers a line, the last of which is the one
afterwards. -/
def moments (session : Session) (line : String) : List World :=
  match session.turn? line with
  | none => [(session.answer line).1.world]
  | some (turn, command, args) => turn.moments command args (session.answer line).1.world

/-- Whether something in the turn of a line leaves something worn behind. -/
def strays (session : Session) (line : String) : Bool :=
  (session.turn? line).any fun (turn, command, args) => turn.strays command args

/-- However a session is reached, its world is sound. -/
theorem Reached.sound (h : Reached session) : session.world.Sound :=
  ⟨⟨h.kept.exclusive, h.nested⟩, h.kept.closed⟩

/-- The world in which a turn begins is sound. -/
theorem Reached.sound_turn (h : Reached session) {turn : Turn} {command : Command} {args : List Arg}
    (hturn : session.turn? line = some (turn, command, args)) : turn.world.Sound := by
  obtain ⟨⟨pending, hbegins⟩, hstarted, -, -⟩ := turn?_cases h.kept hturn
  exact ⟨⟨hstarted.exclusive, hbegins ▸ h.nested⟩, hstarted.closed⟩

/-- A line that begins no turn moves nothing. -/
theorem stays_answer (h : session.turn? line = none) :
    session.world.Stays (session.answer line).1.world := by
  have hquiet := quiet_answer h
  generalize (session.answer line).1 = later at hquiet ⊢
  cases hquiet with
  | stays => exact .refl _
  | forgets => exact World.stays_modifyPlayer rfl
  | returns hdead =>
    have hback : session.world.Stays
        (session.world.modifyPlayer (·.reincarnate session.config.penalty)) :=
      World.stays_modifyPlayer rfl
    exact hback.trans (World.rests_lookAround _ true).toStays
  | leaves hdead =>
    exact World.stays_modifyPlayer (f := fun player => { player with playing := false }) rfl

/-- If all that is worn is carried, it stays so at every moment of a line exactly if nothing in its
turn leaves something worn behind. -/
theorem wornCarried_moments_iff (h : Reached session) (hbefore : session.world.WornCarried)
    (line : String) :
    (∀ world ∈ session.moments line, world.WornCarried) ↔ session.strays line = false := by
  unfold moments strays
  cases hturn : session.turn? line with
  | none =>
    have hafter := ((stays_answer hturn).wornCarried_iff h.nested).mpr hbefore
    simp [hafter]
  | some begun =>
    obtain ⟨turn, command, args⟩ := begun
    obtain ⟨⟨pending, hbegins⟩, -, -, -⟩ := turn?_cases h.kept hturn
    have hcarried : turn.world.WornCarried := by
      rw [hbegins, (World.stays_modifyPlayer rfl).wornCarried_iff h.nested]
      exact hbefore
    exact (course_answer h.kept hturn).wornCarried_iff (h.sound_turn hturn) hcarried

/-- The world after a line is the last one that the session goes through. -/
theorem mem_moments (session : Session) (line : String) :
    (session.answer line).1.world ∈ session.moments line := by
  unfold moments
  split
  · exact List.mem_singleton_self _
  · simp [Turn.moments]

/-! ## Many lines -/

/-- The worlds that a session goes through while lines are played. -/
def allMoments (session : Session) : List String → List World
  | [] => []
  | line :: rest => session.moments line ++ (session.answer line).1.allMoments rest

/-- Whether something in the turns of some lines leaves something worn behind. -/
def straysAny (session : Session) : List String → Bool
  | [] => false
  | line :: rest => session.strays line || (session.answer line).1.straysAny rest

theorem wornCarried_allMoments_iff (h : Reached session) (hbefore : session.world.WornCarried)
    (lines : List String) :
    (∀ world ∈ session.allMoments lines, world.WornCarried) ↔ session.straysAny lines = false := by
  induction lines generalizing session with
  | nil => simp [allMoments, straysAny]
  | cons line rest ih =>
    rw [allMoments, straysAny, List.forall_mem_append, Bool.or_eq_false_iff,
      wornCarried_moments_iff h hbefore]
    refine and_congr_right fun hstays => ih (h.answer line) ?_
    exact (wornCarried_moments_iff h hbefore line).mpr hstays _ (session.mem_moments line)

/-- What is worn is still carried after lines none of which leaves anything worn behind. -/
theorem wornCarried_play (h : Reached session) (hbefore : session.world.WornCarried)
    (hstays : session.straysAny lines = false) : (session.play lines).world.WornCarried := by
  induction lines generalizing session with
  | nil => exact hbefore
  | cons line rest ih =>
    obtain ⟨hline, hrest⟩ := Bool.or_eq_false_iff.mp hstays
    have hmoments := (wornCarried_moments_iff h hbefore line).mpr hline
    exact ih (h.answer line) (hmoments _ (session.mem_moments line)) hrest

/-- **When something worn is not carried.** As a game begins, all that is worn is carried, whether
the player has been welcomed or not. Whatever lines are played, it is so at every moment exactly if
nothing in their turns leaves something worn behind, and after such lines it still is so. -/
theorem wornCarried_iff_never_strays {document : Document} {config : Config}
    (hbegins : document.begin? config = some session)
    (hfirst : first = session ∨ first = session.welcome.1) (lines : List String) :
    first.world.WornCarried ∧
      ((∀ world ∈ first.allMoments lines, world.WornCarried) ↔ first.straysAny lines = false) ∧
      (first.straysAny lines = false → (first.play lines).world.WornCarried) := by
  have hbegun := Reached.of_begin? hbegins
  have hunworn : session.world.WornCarried := fun key hworn => by
    rw [(fresh_begin? hbegins).unworn] at hworn
    cases hworn
  obtain ⟨hreached, hcarried⟩ : Reached first ∧ first.world.WornCarried := by
    rcases hfirst with rfl | rfl
    · exact ⟨hbegun, hunworn⟩
    · refine ⟨hbegun.welcome, ?_⟩
      exact ((World.rests_lookAround _ true).wornCarried_iff hbegun.nested).mpr hunworn
  exact ⟨hcarried, wornCarried_allMoments_iff hreached hcarried lines,
    wornCarried_play hreached hcarried⟩

/-- The coat is put on and then into the bag, where it stays worn. It is still carried then, but no
longer when the bag is dropped. -/
theorem wornCarried_iff_never_strays_wardrobe :
    let lines := ["wear coat", "insert coat bag"]
    Document.wardrobe.begin? {} = some wardrobe ∧ wardrobe.straysAny lines = false ∧
      (wardrobe.play lines).world.WornCarried ∧ (wardrobe.play lines).world.isWorn ⟨0⟩ = true ∧
      wardrobe.straysAny (lines ++ ["drop bag"]) = true ∧
      (wardrobe.play (lines ++ ["drop bag"])).world.isWorn ⟨0⟩ = true ∧
      (wardrobe.play (lines ++ ["drop bag"])).world.outermost? ⟨0⟩ = some (.location ⟨1⟩) ∧
      ¬ ∀ world ∈ wardrobe.allMoments (lines ++ ["drop bag"]), world.WornCarried := by
  intro lines
  have hstays : wardrobe.straysAny lines = false := by decide +kernel
  have hstrays : wardrobe.straysAny (lines ++ ["drop bag"]) = true := by decide +kernel
  obtain ⟨-, -, hcarried⟩ := wornCarried_iff_never_strays begin?_wardrobe (.inl rfl) lines
  refine ⟨begin?_wardrobe, hstays, hcarried hstays, by decide +kernel, hstrays, by decide +kernel,
    by decide +kernel, ?_⟩
  rw [(wornCarried_iff_never_strays begin?_wardrobe (.inl rfl) _).2.1, hstrays]
  exact Bool.noConfusion

end Session

end Adventure
