import Adventure.Proofs.Loading.Assembly
import Adventure.Proofs.Session.Course
import Adventure.Proofs.Turn.Copies

/-!
# How much a world grows

A copy takes the slot of an earlier copy of the same item that is nowhere, if there is one. So the
copies of one item take as many slots as there ever were copies of it at a time. But a copy can be
copied as well, and the slots of its copies are its own: of the copies with one number there may be
more slots than there ever were copies.
-/

namespace Adventure

/-- A description with salt that is copied when it is put somewhere, a box and a bag. -/
def Document.saltworks : Document :=
  let labels (name : String) : LabelsDecl := ⟨name, none, none, []⟩
  let item (num : Nat) (attributes name : String) (size : Nat) (place : HolderDecl) : ItemDecl :=
    ⟨⟨num⟩, attributes, labels name, size, none, some place, none, none⟩
  let slot : SlotDecl := ⟨true, true, .either, []⟩
  { name := "saltworks"
    commands := [⟨⟨1⟩, "", "insert", [], none, [slot, slot], none, []⟩,
      ⟨⟨2⟩, "", "eat", [], some "consume", [slot], none, []⟩]
    items := [item 1 "1808" "salt" 1 (.location ⟨1⟩), item 2 "b" "box" 5 (.inventory ⟨1⟩),
      item 3 "b" "bag" 5 (.inventory ⟨1⟩)]
    locations := [⟨⟨1⟩, "3", labels "hall", ∅⟩]
    events := []
    inventories := [⟨⟨1⟩, 50, true, []⟩]
    players := [⟨⟨1⟩, ""⟩]
    inputs := ∅
    hints := ∅
    explanations := ∅
    responses := ∅ }

namespace World

variable {world changed : World}

/-- The origins of a world in play are in order. -/
structure Traced (world : World) : Prop where
  /-- Copies have the numbers of what they were copied from. -/
  faithful : world.Faithful
  /-- Items that are no copies have numbers of their own. -/
  distinct : world.Distinct
  /-- No event moves copies. -/
  spares : world.Spares

/-- Only copies are added. -/
theorem Copies.original (h : world.Copies changed) {slot : Nat} {number : DataId}
    (hslot : changed.origins[slot]? = some (number, none)) :
    world.origins[slot]? = some (number, none) := by
  cases h with
  | same h => rwa [h] at hslot
  | added hmodel horigins _ =>
    rw [horigins, List.getElem?_append] at hslot
    split at hslot
    · exact hslot
    · cases List.mem_singleton.mp (List.mem_of_getElem? hslot)

theorem Traced.copies (h : world.Traced) (hcopies : world.Copies changed)
    (hsetting : changed.setting = world.setting) : changed.Traced where
  faithful := hcopies.faithful h.faithful
  distinct _ _ _ hfirst hlast := h.distinct _ _ _ (hcopies.original hfirst) (hcopies.original hlast)
  spares := h.spares.of_extends hsetting hcopies.origins_extend

/-- Every copy with a number was copied from an item that is no copy itself. -/
def CopiesOriginals (world : World) (id : DataId) : Prop :=
  ∀ model : ItemKey, (id, some model) ∈ world.origins →
    world.origins[model.slot]? = some (id, none)

/-- If copies with a number were copied from nothing but the item with that number, they are the
copies of one item. -/
theorem Traced.exists_model (h : world.Traced) {id : DataId}
    (horiginals : world.CopiesOriginals id) :
    ∃ model, ∀ origin ∈ world.origins, origin.isCopyWith id = origin.isCopyOf model := by
  by_cases hcopied : ∃ model, (id, some model) ∈ world.origins
  · obtain ⟨model, hmodel⟩ := hcopied
    have hsource := horiginals model hmodel
    refine ⟨model, fun origin horigin => Bool.eq_iff_iff.mpr ?_⟩
    obtain ⟨number, source⟩ := origin
    simp only [Origin.isCopyWith, Origin.isCopyOf, Bool.and_eq_true, beq_iff_eq]
    constructor
    · rintro ⟨rfl, hsome⟩
      obtain ⟨other, rfl⟩ := Option.isSome_iff_exists.mp hsome
      have hslots := h.distinct _ _ _ (horiginals other horigin) hsource
      exact congrArg (fun slot => some (ItemKey.mk slot)) hslots
    · rintro rfl
      obtain ⟨before, hbefore⟩ := h.faithful number model horigin
      exact ⟨congrArg Prod.fst (Option.some.inj (hbefore.symm.trans hsource)), rfl⟩
  · -- There is no such copy, and none of the item that the next copy will be.
    refine ⟨world.nextKey, fun origin horigin => ?_⟩
    obtain ⟨number, source⟩ := origin
    cases source with
    | none => simp [Origin.isCopyWith, Origin.isCopyOf]
    | some model =>
      have hid : number ≠ id := fun heq => hcopied ⟨model, heq ▸ horigin⟩
      have hmodel : model ≠ world.nextKey := by
        rintro rfl
        obtain ⟨before, hbefore⟩ := h.faithful number _ horigin
        have hlength := (List.getElem?_eq_some_iff.mp hbefore).1
        unfold origins nextKey at hlength
        rw [List.length_map] at hlength
        exact Nat.lt_irrefl _ hlength
      simp [Origin.isCopyWith, Origin.isCopyOf, hid, hmodel]

end World

/-! ## As a game begins -/

/-- What an action moves is in the scope of the action. -/
theorem Action.In.moved {scope : Scope} {action : Action} (h : action.In scope) :
    ∀ key ∈ action.moved, scope.item key := by
  intro key hkey
  cases action with
  | destroyItem item => exact List.mem_singleton.mp hkey ▸ h
  | moveItem item holder => exact List.mem_singleton.mp hkey ▸ h.1
  | giveItem item => exact List.mem_singleton.mp hkey ▸ h
  | replaceItem outgoing incoming =>
    rcases List.mem_pair.mp hkey with rfl | rfl
    · exact h.1
    · exact h.2
  | _ => cases hkey

/-- In a loaded world there are no copies, and origins are in order. -/
theorem Document.traced_load {document : Document} {loaded : Loaded}
    (hload : document.load = .ok loaded) :
    loaded.world.Traced ∧ ∀ origin ∈ loaded.world.origins, origin.2 = none := by
  obtain ⟨hnone, hdistinct⟩ := originals_load hload
  refine ⟨⟨fun id model hmem => ?_, hdistinct, ?_⟩, hnone⟩
  · cases hnone _ hmem
  · intro id event hevent action haction key hkey
    have hin := ((ready_load hload).closed.events id event hevent).actions action haction
    obtain ⟨item, hitem⟩ := Option.isSome_iff_exists.mp (hin.moved key hkey)
    have hslot := loaded.world.getElem?_origins key
    rw [hitem] at hslot
    have horiginal : item.copyOf = none := hnone _ (List.mem_of_getElem? hslot)
    exact ⟨item.dataId, by rw [hslot, Option.map_some, Item.origin, horiginal]⟩

namespace Session

/-- The session that begins over the saltworks. -/
def saltworks : Session := (Document.saltworks.begin? {}).get (by decide +kernel)

theorem begin?_saltworks : Document.saltworks.begin? {} = some saltworks := (Option.some_get _).symm

variable {session first : Session} {line : String} {lines : List String}

theorem traced_begin? {document : Document} {config : Config}
    (h : document.begin? config = some session) :
    session.world.Traced ∧ ∀ origin ∈ session.world.origins, origin.2 = none := by
  obtain ⟨loaded, hload, hstart⟩ := begins_of_begin? h
  obtain ⟨htraced, hnone⟩ := Document.traced_load hload
  rw [(start_ok hstart).1]
  exact ⟨htraced.copies (.same rfl) (World.setting_modifyPlayer rfl), hnone⟩

/-! ## One line -/

/-- A line adds at most one copy, and no copy of the same item is nowhere then. -/
theorem copies_answer (hkept : session.world.Kept) (htraced : session.world.Traced)
    (line : String) : session.world.Copies (session.answer line).1.world := by
  cases hturn : session.turn? line with
  | none =>
    obtain ⟨f, -, hevolves⟩ := (quiet_answer hturn).evolves
    exact .same hevolves.origins
  | some begun =>
    obtain ⟨turn, command, args⟩ := begun
    obtain ⟨⟨pending, hbegins⟩, -, -, -⟩ := turn?_cases hkept hturn
    have hfaithful : turn.world.Faithful := by
      rw [hbegins]
      exact htraced.faithful
    have hspares : turn.world.Spares := by
      rw [hbegins]
      exact htraced.spares
    exact ((course_answer hkept hturn).copies hfaithful hspares).of_origins (hbegins ▸ rfl)

theorem Reached.traced_answer (h : Reached session) (htraced : session.world.Traced)
    (line : String) : (session.answer line).1.world.Traced :=
  htraced.copies (copies_answer h.kept htraced line) (setting_answer h line)

/-! ## Many lines -/

/-- The largest measure that the world has while lines are played. -/
def peak (session : Session) (measure : World → Nat) : List String → Nat
  | [] => measure session.world
  | line :: rest => max (measure session.world) ((session.answer line).1.peak measure rest)

theorem measure_le_peak (session : Session) (measure : World → Nat) (lines : List String) :
    measure session.world ≤ session.peak measure lines := by
  cases lines with
  | nil => exact Nat.le_refl _
  | cons line rest => exact Nat.le_max_left _ _

/-- While lines are played, items come from where they come from. -/
theorem origins_extend_play (h : Reached session) (htraced : session.world.Traced)
    (lines : List String) :
    session.world.origins <+: (session.play lines).world.origins := by
  induction lines generalizing session with
  | nil => exact List.prefix_rfl
  | cons line rest ih =>
    exact (copies_answer h.kept htraced line).origins_extend.trans
      (ih (h.answer line) (h.traced_answer htraced line))

theorem traced_play (h : Reached session) (htraced : session.world.Traced) (lines : List String) :
    (session.play lines).world.Traced := by
  induction lines generalizing session with
  | nil => exact htraced
  | cons line rest ih => exact ih (h.answer line) (h.traced_answer htraced line)

/-- After some lines there are as many slots for the copies of an item as there were before, or as
many as there were copies of it somewhere at a time. -/
theorem slots_play (h : Reached session) (htraced : session.world.Traced) (model : ItemKey)
    (lines : List String) :
    (session.play lines).world.slots (Origin.isCopyOf model) =
      max (session.world.slots (Origin.isCopyOf model))
        (session.peak (·.present (Origin.isCopyOf model)) lines) := by
  have hmost := session.world.present_le_slots (Origin.isCopyOf model)
  induction lines generalizing session with
  | nil => exact (Nat.max_eq_left hmost).symm
  | cons line rest ih =>
    have hafter := (copies_answer h.kept htraced line).slots_eq_max model
    have hpeak : (session.answer line).1.world.present (Origin.isCopyOf model) ≤
        (session.answer line).1.peak (·.present (Origin.isCopyOf model)) rest :=
      measure_le_peak _ (·.present (Origin.isCopyOf model)) rest
    have hrest := ih (h.answer line) (h.traced_answer htraced line) (World.present_le_slots _ _)
    rw [peak]
    refine hrest.trans ?_
    omega

/-- Kinds that agree on all items in the end have had equally many of them somewhere all along. -/
theorem peak_present_congr (h : Reached session) (htraced : session.world.Traced)
    {kind other : Origin → Bool} (lines : List String)
    (hsame : ∀ origin ∈ (session.play lines).world.origins, kind origin = other origin) :
    session.peak (·.present kind) lines = session.peak (·.present other) lines := by
  have hnow : session.world.present kind = session.world.present other :=
    World.present_congr fun origin hmem =>
      hsame origin ((origins_extend_play h htraced lines).subset hmem)
  induction lines generalizing session with
  | nil => exact hnow
  | cons line rest ih =>
    have hanswered := h.traced_answer htraced line
    rw [peak, peak, hnow, ih (h.answer line) hanswered hsame]
    exact World.present_congr fun origin hmem =>
      hsame origin ((origins_extend_play (h.answer line) hanswered rest).subset hmem)

/-- **How many slots copies take.** As a game begins, whether the player has been welcomed or not,
nothing has been copied. Whatever lines are played, the copies of an item then have as many slots as
there were copies of it somewhere at a time, and the copies with a number have as many as this makes
for all items and copies with that number. If they were copied from no copy, these are as many as
there were copies with that number somewhere at a time. -/
theorem slots_eq_peaks {document : Document} {config : Config}
    (hbegins : document.begin? config = some session)
    (hfirst : first = session ∨ first = session.welcome.1) (lines : List String) :
    (∀ model, (first.play lines).world.slots (Origin.isCopyOf model) =
      first.peak (·.present (Origin.isCopyOf model)) lines) ∧
    ∀ id, (first.play lines).world.slots (Origin.isCopyWith id) =
        (((first.play lines).world.keysOf id).map fun model =>
          first.peak (·.present (Origin.isCopyOf model)) lines).sum ∧
      ((first.play lines).world.CopiesOriginals id →
        (first.play lines).world.slots (Origin.isCopyWith id) =
          first.peak (·.present (Origin.isCopyWith id)) lines) := by
  obtain ⟨hreached, htraced, hnone⟩ : Reached first ∧ first.world.Traced ∧
      ∀ origin ∈ first.world.origins, origin.2 = none := by
    have hbegun := Reached.of_begin? hbegins
    obtain ⟨htraced, hnone⟩ := traced_begin? hbegins
    rcases hfirst with rfl | rfl
    · exact ⟨hbegun, htraced, hnone⟩
    · have hevolves := session.world.evolves_lookAround true
      exact ⟨hbegun.welcome, htraced.copies (.same hevolves.origins) hevolves.setting,
        hevolves.origins ▸ hnone⟩
  have hslots (model : ItemKey) : (first.play lines).world.slots (Origin.isCopyOf model) =
      first.peak (·.present (Origin.isCopyOf model)) lines := by
    have hzero : first.world.slots (Origin.isCopyOf model) = 0 := by
      rw [World.slots_eq, List.countP_eq_zero]
      intro origin horigin
      simp [Origin.isCopyOf, hnone origin horigin]
    rw [slots_play hreached htraced, hzero, Nat.zero_max]
  have hplayed := traced_play hreached htraced lines
  refine ⟨hslots, fun id => ⟨?_, fun horiginals => ?_⟩⟩
  · rw [World.slots_isCopyWith hplayed.faithful]
    simp only [hslots]
  · obtain ⟨model, hmodel⟩ := hplayed.exists_model horiginals
    rw [peak_present_congr hreached htraced lines hmodel, ← hslots, World.slots_eq,
      World.slots_eq]
    exact List.countP_congr fun origin horigin => by rw [hmodel origin horigin]

/-- The salt is put in the box. From then on each copy is made of the copy at hand, so that the
slots of those that have been eaten are of no use to it. -/
theorem slots_eq_peaks_saltworks :
    let lines := ["insert salt box", "insert salt bag", "eat salt", "insert salt box", "eat salt",
      "insert salt bag"]
    Document.saltworks.begin? {} = some saltworks ∧
      (saltworks.play lines).world.slots (Origin.isCopyWith ⟨1⟩) = 4 ∧
      saltworks.peak (·.present (Origin.isCopyWith ⟨1⟩)) lines = 2 ∧
      ¬ (saltworks.play lines).world.CopiesOriginals ⟨1⟩ := by
  intro lines
  have hpeak : saltworks.peak (·.present (Origin.isCopyWith ⟨1⟩)) lines = 2 := by decide +kernel
  obtain ⟨hsum, horiginals⟩ := (slots_eq_peaks begin?_saltworks (.inl rfl) lines).2 ⟨1⟩
  have hslots : (saltworks.play lines).world.slots (Origin.isCopyWith ⟨1⟩) = 4 :=
    hsum.trans (by decide +kernel)
  refine ⟨begin?_saltworks, hslots, hpeak, fun h => ?_⟩
  have hsame := horiginals h
  omega

end Session

end Adventure
