import Adventure.Proofs.Loading.Assembly

/-!
# Events that name events

A prerequisite that names an event which is not declared is left out with an error. But an event
that is declared may be dropped itself, since its command or an item that it asks for is not
declared, and prerequisites that name it are kept all the same: they wait for an event that is not
there.
-/

namespace Adventure

/-- Every event that is named by a prerequisite of an event is there. -/
def World.HasNamed (world : World) : Prop :=
  ∀ id event, world.event? id = some event →
    ∀ other ∈ event.named, (world.event? other).isSome = true

namespace Directory

variable (directory : Directory)

/-- Whether an event is declared and built. -/
def keeps (id : EventId) : Bool :=
  (directory.events.get? id).any fun declared => (directory.eventFault? id declared).isNone

/-- Whether an event is declared and dropped. -/
def drops (id : EventId) : Bool :=
  (directory.events.get? id).any fun declared => (directory.eventFault? id declared).isSome

/-- An event that is dropped was declared, and something is said of it. -/
theorem exists_of_drops {id : EventId} (h : directory.drops id = true) : ∃ declared fault,
    directory.events.get? id = some declared ∧ directory.eventFault? id declared = some fault := by
  obtain ⟨declared, hdeclared, hfaulty⟩ := (Option.any_eq_true _ _).mp h
  obtain ⟨fault, hfault⟩ := Option.isSome_iff_exists.mp hfaulty
  exact ⟨declared, fault, hdeclared, hfault⟩

/-- A declared event is kept unless it is dropped. -/
theorem keeps_eq_not_drops {id : EventId} (h : directory.events.contains id = true) :
    directory.keeps id = !directory.drops id := by
  obtain ⟨declared, hdeclared : directory.events.get? id = some declared⟩ :=
    Option.isSome_iff_exists.mp h
  rw [keeps, drops, hdeclared, Option.any_some, Option.any_some, Option.not_isSome]

variable {directory} {all : List Diagnostic} {world : World}

/-- The events that are kept are those of the world. -/
theorem Assembled.isSome_event? (h : directory.Assembled all world) (id : EventId) :
    (world.event? id).isSome = directory.keeps id := by
  cases hdeclared : directory.events.get? id with
  | none =>
    rw [keeps, hdeclared, Option.any_none]
    cases hevent : world.event? id with
    | none => rfl
    | some event =>
      have hcontains := h.only id event hevent
      obtain ⟨declared, hsome⟩ := Option.isSome_iff_exists.mp hcontains
      cases hdeclared.symm.trans hsome
  | some declared =>
    have houtcome := h.event _ (Registry.mem_entries.mpr hdeclared)
    rw [keeps, hdeclared, Option.any_some]
    generalize world.event? id = found? at houtcome
    cases houtcome with
    | dropped hfault htold => rw [hfault]; rfl
    | built hsound _ _ _ _ => rw [hsound]; rfl

/-- An event of the world comes from the declaration of its number. -/
theorem Assembled.exists_declared (h : directory.Assembled all world) {id : EventId} {event : Event}
    (hevent : world.event? id = some event) :
    ∃ declared, directory.events.get? id = some declared :=
  Option.isSome_iff_exists.mp (h.only id event hevent)

/-- An event names the declared ones of the events that its declaration names. Of the others it is
told that they are unknown. -/
theorem Assembled.named (h : directory.Assembled all world) {id : EventId} {declared : EventDecl}
    {event : Event} (hdeclared : directory.events.get? id = some declared)
    (hevent : world.event? id = some event) :
    event.named = declared.named.filter (directory.events.contains ·) ∧
      ∀ other ∈ declared.named, directory.events.contains other = false →
        unknownEvent id other ∈ all := by
  have houtcome := h.event _ (Registry.mem_entries.mpr hdeclared)
  rw [hevent] at houtcome
  cases houtcome with
  | built _ _ hnamed hunknown _ => exact ⟨hnamed, hunknown⟩

/-- Everything named is there exactly if no event that is kept names one that is dropped. -/
theorem Assembled.hasNamed_iff (h : directory.Assembled all world) : world.HasNamed ↔
    ∀ id declared, directory.events.get? id = some declared → directory.keeps id = true →
      ∀ other ∈ declared.named, directory.drops other = false := by
  constructor
  · intro hthere id declared hdeclared hkept other hother
    refine Bool.eq_false_iff.mpr fun hdropped => ?_
    obtain ⟨_, _, hother?, -⟩ := directory.exists_of_drops hdropped
    have hcontains : directory.events.contains other = true :=
      Option.isSome_iff_exists.mpr ⟨_, hother?⟩
    rw [← h.isSome_event?] at hkept
    obtain ⟨event, hevent⟩ := Option.isSome_iff_exists.mp hkept
    have hnamed : other ∈ event.named := by
      rw [(h.named hdeclared hevent).1]
      exact List.mem_filter.mpr ⟨hother, hcontains⟩
    have hsome := hthere id event hevent other hnamed
    rw [h.isSome_event?, keeps_eq_not_drops directory hcontains, hdropped] at hsome
    cases hsome
  · intro hnone id event hevent other hother
    obtain ⟨declared, hdeclared⟩ := h.exists_declared hevent
    have hkept : directory.keeps id = true := by rw [← h.isSome_event?, hevent]; rfl
    rw [(h.named hdeclared hevent).1, List.mem_filter] at hother
    rw [h.isSome_event?, keeps_eq_not_drops directory hother.2,
      hnone id declared hdeclared hkept other hother.1]
    rfl

/-- An event that is dropped is told. -/
theorem Assembled.told_of_drops (h : directory.Assembled all world) {id : EventId}
    {declared : EventDecl} {fault : Diagnostic}
    (hdeclared : directory.events.get? id = some declared)
    (hfault : directory.eventFault? id declared = some fault) : fault ∈ all := by
  have houtcome := h.event _ (Registry.mem_entries.mpr hdeclared)
  generalize world.event? id = found? at houtcome
  cases houtcome with
  | dropped hfaulty htold =>
    rw [Option.some.inj (hfault.symm.trans hfaulty)]
    exact htold
  | built hsound _ _ _ _ => cases hsound.symm.trans hfault

end Directory

namespace Document

variable {document : Document} {loaded : Loaded}

/-- **Which events prerequisites may wait for in vain.** The events of a loaded world are the
declared ones that are not dropped, and each that is dropped is told. They name the declared ones
of the events that their declarations name, and of those that are not declared it is told that they
are unknown. So everything named is there exactly if no event that is kept names one that is
dropped, and in particular if there are no errors. -/
theorem hasNamed_of_load (hload : document.load = .ok loaded) :
    let directory := (Directory.ofDocument document).1
    (∀ id, (loaded.world.event? id).isSome = directory.keeps id) ∧
      (∀ id declared fault, directory.events.get? id = some declared →
        directory.eventFault? id declared = some fault → fault ∈ loaded.diagnostics) ∧
      (∀ id declared event, directory.events.get? id = some declared →
        loaded.world.event? id = some event →
          event.named = declared.named.filter (directory.events.contains ·) ∧
            ∀ other ∈ declared.named, directory.events.contains other = false →
              Directory.unknownEvent id other ∈ loaded.diagnostics) ∧
      (loaded.world.HasNamed ↔
        ∀ id declared, directory.events.get? id = some declared → directory.keeps id = true →
          ∀ other ∈ declared.named, directory.drops other = false) ∧
      (loaded.hasErrors = false → loaded.world.HasNamed) := by
  intro directory
  have h : directory.Assembled loaded.diagnostics loaded.world := (assembled_load hload).2
  refine ⟨h.isSome_event?, fun _ _ _ => h.told_of_drops, fun _ _ _ => h.named, h.hasNamed_iff,
    fun hclean => h.hasNamed_iff.mpr fun _ _ _ _ other _ => ?_⟩
  refine Bool.eq_false_iff.mpr fun hdropped => ?_
  obtain ⟨declared, fault, hdeclared, hfault⟩ := directory.exists_of_drops hdropped
  exact List.any_eq_false.mp hclean fault (h.told_of_drops hdeclared hfault)
    (directory.isError_eventFault? hfault)

/-- A description with an event that waits for another one and for the absence of a third. The other
one answers a command that is not declared, and the third is not declared itself. -/
def belfry : Document :=
  { name := "belfry"
    commands := [⟨⟨1⟩, "", "ring", [], none, [], none, []⟩]
    items := []
    locations := [⟨⟨1⟩, "3", ⟨"stairs", none, none, []⟩, ∅⟩]
    events := [⟨⟨1⟩, "", ⟨1⟩, [], [.eventFired ⟨2⟩, .eventNotFired ⟨3⟩], "", 0, []⟩,
      ⟨⟨2⟩, "", ⟨9⟩, [], [], "", 0, []⟩]
    inventories := [⟨⟨1⟩, 8, true, []⟩]
    players := [⟨⟨1⟩, ""⟩]
    inputs := ∅
    hints := ∅
    explanations := ∅
    responses := ∅ }

/-- What is loaded from it. -/
def loadedBelfry : Loaded := belfry.load.toOption.get (by decide +kernel)

/-- The third event is told to be unknown and no longer named. The other one is dropped and still
named, so that the first event can never happen. -/
theorem hasNamed_of_load_belfry :
    belfry.load = .ok loadedBelfry ∧
      loadedBelfry.diagnostics = [Directory.unknownEvent ⟨1⟩ ⟨3⟩,
        .error "event 2 refers to unknown command 9; event dropped"] ∧
      (∃ event, loadedBelfry.world.event? ⟨1⟩ = some event ∧ event.named = [⟨2⟩]) ∧
      loadedBelfry.world.event? ⟨2⟩ = none ∧ ¬ loadedBelfry.world.HasNamed := by
  have hload : belfry.load = .ok loadedBelfry := load_get _
  obtain ⟨hkept, -, hnamed, hclosed, -⟩ := hasNamed_of_load hload
  have hdeclared : (Directory.ofDocument belfry).1.events.get? ⟨1⟩ = belfry.events.head? := rfl
  have hfirst : (loadedBelfry.world.event? ⟨1⟩).isSome = true :=
    (hkept ⟨1⟩).trans (by decide +kernel)
  obtain ⟨event, hevent⟩ := Option.isSome_iff_exists.mp hfirst
  have hnames := (hnamed ⟨1⟩ _ event hdeclared hevent).1
  refine ⟨hload, by decide +kernel, ⟨event, hevent, hnames.trans (by decide +kernel)⟩,
    Option.isNone_iff_eq_none.mp (by decide +kernel), ?_⟩
  rw [hclosed]
  intro hsound
  have hother := hsound ⟨1⟩ _ hdeclared (by decide +kernel) ⟨2⟩ (by decide +kernel)
  exact absurd hother (by decide +kernel)

end Document

end Adventure
