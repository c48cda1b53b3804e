import Adventure.Proofs.Turn.Arguments
import Adventure.Proofs.World.Operations

/-!
# Slots left open

Words are given to slots in their order, and the first optional slot without a word ends that. So a
mandatory slot behind it stays open, and nobody asks for what is missing there. That cannot happen
to a command whose mandatory slots come first, and to every other command it can.
-/

namespace Adventure

namespace Slot

/-- No mandatory slot comes after an optional one. -/
def MandatoryFirst (slots : List Slot) : Prop :=
  slots.Pairwise fun first second => second.mandatory = true → first.mandatory = true

/-- Whatever comes before a mandatory slot is mandatory then. -/
theorem MandatoryFirst.mandatory {slots : List Slot} (h : MandatoryFirst slots) {first last : Nat}
    {before slot : Slot} (hbefore : slots[first]? = some before) (hslot : slots[last]? = some slot)
    (hlt : first < last) (hmandatory : slot.mandatory = true) : before.mandatory = true := by
  obtain ⟨hfirst, rfl⟩ := List.getElem?_eq_some_iff.mp hbefore
  obtain ⟨hlast, rfl⟩ := List.getElem?_eq_some_iff.mp hslot
  exact List.pairwise_iff_getElem.mp h first last hfirst hlast hlt hmandatory

end Slot

namespace World

variable {world : World} {slots : List Slot} {args found : List Arg} {tokens left : List String}

/-! ## Where filling slots ends -/

/-- Slots are filled up to the last one, or to an optional one for which no word is left. -/
theorem fillSlots_complete (h : world.fillSlots slots args tokens = .complete found left) :
    ∃ new, found = args ++ new ∧ (new.length = slots.length ∨
      left = [] ∧ ∃ slot, slots[new.length]? = some slot ∧ slot.mandatory = false) := by
  induction slots generalizing args tokens with
  | nil =>
    cases h
    exact ⟨[], (List.append_nil _).symm, .inl rfl⟩
  | cons slot rest ih =>
    have hnext (arg : Arg) (later : List String)
        (hfill : world.fillSlots rest (args ++ [arg]) later = .complete found left) :
        ∃ new, found = args ++ new ∧ (new.length = (slot :: rest).length ∨
          left = [] ∧ ∃ next, (slot :: rest)[new.length]? = some next ∧
            next.mandatory = false) := by
      obtain ⟨new, rfl, hend⟩ := ih hfill
      refine ⟨arg :: new, by rw [List.append_assoc, List.singleton_append], ?_⟩
      simpa using hend
    unfold fillSlots at h
    split at h
    · split at h
      · cases h
      · rename_i hoptional
        cases h
        exact ⟨[], (List.append_nil _).symm, .inr ⟨rfl, slot, rfl, by simpa using hoptional⟩⟩
    · split at h
      · split at h
        · cases h
        · split at h
          · cases h
          · exact hnext _ _ h
      · exact hnext _ _ h

/-! ## A word for every slot -/

/-- A coin is held, and a stone lies where the player is. -/
def findings : World :=
  let hall : Location := { id := ⟨1⟩, labels := ⟨"hall", "hall", "", [], none⟩ }
  let thing (number : Nat) (name : String) : Operation :=
    .addItem (.ofAttributes ⟨number⟩ .none ⟨name, name, "", [], none⟩ 1)
  (new "findings" ⟨1⟩).after
    [.addLocation hall, .addInventory { id := ⟨1⟩, capacity := 9, isDefault := true },
      thing 1 "coin", thing 2 "stone", .insert (.inventory ⟨1⟩) ⟨0⟩, .insert (.location ⟨1⟩) ⟨1⟩]

end World

namespace Slot

variable (slot : Slot)

/-- What suits a slot where a coin is held and a stone lies about: a word, and the item it means. -/
def finding : String × ItemKey :=
  match slot.source with
  | .location => ("stone", ⟨1⟩)
  | .inventory => ("coin", ⟨0⟩)
  | .either => ("coin", ⟨0⟩)

/-- What the word comes to as an argument. -/
def findingArg : Arg := if slot.isItem then .item slot.finding.2 else .text slot.finding.1

/-- The word as it has to be typed: twice if it also connects the argument. -/
def typed : List String :=
  if slot.isLinker slot.finding.1 then [slot.finding.1, slot.finding.1] else [slot.finding.1]

theorem skipLinker_typed (more : List String) :
    slot.skipLinker (slot.typed ++ more) = slot.finding.1 :: more := by
  unfold typed
  split
  · rename_i hlinker
    exact if_pos hlinker
  · rename_i hword
    exact if_neg hword

theorem itemMeant?_finding : World.findings.itemMeant? slot.finding.1 = some slot.finding.2 := by
  unfold finding
  cases slot.source <;> decide

theorem misfit?_finding : World.findings.misfit? slot slot.finding.2 = none := by
  rw [World.misfit?_eq_none_iff]
  unfold finding
  cases slot.source with
  | inventory => exact (by decide : World.findings.holds ⟨0⟩ = true)
  | location =>
    exact (by decide : World.findings.isHere ⟨1⟩ = true ∧ World.findings.holds ⟨1⟩ = false)
  | either => exact .inl (by decide : World.findings.holds ⟨0⟩ = true)

end Slot

namespace World

/-- Where a coin is held and a stone lies about, there is a word for every slot. -/
theorem fillSlots_typed (first rest : List Slot) (args : List Arg) (more : List String) :
    findings.fillSlots (first ++ rest) args (first.flatMap Slot.typed ++ more) =
      findings.fillSlots rest (args ++ first.map Slot.findingArg) more := by
  induction first generalizing args with
  | nil =>
    rw [List.map_nil, List.append_nil]
    rfl
  | cons slot first ih =>
    have hlater := ih (args ++ [slot.findingArg])
    rw [List.append_assoc, List.singleton_append, ← List.map_cons, Slot.findingArg] at hlater
    rw [List.flatMap_cons, List.append_assoc, List.cons_append, fillSlots, slot.skipLinker_typed,
      ← hlater]
    simp only [slot.itemMeant?_finding, slot.misfit?_finding]
    split <;> rfl

end World

namespace Turn

variable {turn changed : Turn} {command : Command} {args found : List Arg}

/-- Arguments are found if the filling of the slots is complete. -/
theorem resolveSlots_of_complete {rest : List String}
    (h : turn.world.fillSlots (command.slots.drop args.length) args turn.tokens =
      .complete found rest) : ∃ changed, turn.resolveSlots command args = (changed, .ok found) := by
  simp only [resolveSlots, h]
  exact ⟨_, rfl⟩

/-- A mandatory slot is left open only behind an optional one for which no word is left. -/
theorem exists_open_optional (h : turn.resolveSlots command args = (changed, .ok found))
    {index : Nat} {slot : Slot} (hslot : command.slots[index]? = some slot)
    (hopen : found.length ≤ index) :
    args.length ≤ found.length ∧ changed.tokens = [] ∧
      ∃ first, command.slots[found.length]? = some first ∧ first.mandatory = false := by
  obtain ⟨new, rfl, hend⟩ := World.fillSlots_complete (complete_of_resolveSlots h).2
  have hindex := (List.getElem?_eq_some_iff.mp hslot).1
  rw [List.length_append] at hopen ⊢
  refine ⟨Nat.le_add_right _ _, ?_⟩
  rcases hend with hall | ⟨htokens, first, hfirst, hoptional⟩
  · rw [List.length_drop] at hall
    omega
  · rw [List.getElem?_drop] at hfirst
    exact ⟨htokens, first, hfirst, hoptional⟩

/-- If mandatory slots come first among those that are open, none of them is left open. -/
theorem length_of_mandatoryFirst (hfirst : Slot.MandatoryFirst (command.slots.drop args.length))
    (h : turn.resolveSlots command args = (changed, .ok found)) {index : Nat} {slot : Slot}
    (hslot : command.slots[index]? = some slot) (hmandatory : slot.mandatory = true) :
    index < found.length := by
  by_contra hshort
  have hopen : found.length ≤ index := Nat.le_of_not_lt hshort
  obtain ⟨hargs, -, first, hoptional, hfree⟩ := exists_open_optional h hslot hopen
  obtain ⟨filled, hfilled⟩ := Nat.exists_eq_add_of_le hargs
  obtain ⟨later, rfl⟩ := Nat.exists_eq_add_of_le (Nat.le_trans hargs hopen)
  rw [hfilled] at hoptional hopen
  rw [← List.getElem?_drop] at hoptional hslot
  rcases Nat.lt_or_eq_of_le (Nat.le_of_add_le_add_left hopen) with hlt | rfl
  · rw [hfirst.mandatory hoptional hslot hlt hmandatory] at hfree
    cases hfree
  · cases hoptional.symm.trans hslot
    rw [hmandatory] at hfree
    cases hfree

/-- If a mandatory slot comes after an optional one, then words can run out at the optional one. -/
theorem exists_open_mandatory
    (hnot : ¬ Slot.MandatoryFirst (command.slots.drop args.length)) :
    ∃ (turn changed : Turn) (found : List Arg) (index : Nat) (slot : Slot),
      turn.resolveSlots command args = (changed, .ok found) ∧
        command.slots[index]? = some slot ∧ slot.mandatory = true ∧ found.length ≤ index := by
  rw [Slot.MandatoryFirst, List.pairwise_iff_getElem] at hnot
  push Not at hnot
  obtain ⟨first, last, hfirst, hlast, hlt, hmandatory, hoptional⟩ := hnot
  -- The slots before the optional one are given words, and it is given none.
  have hfill := World.fillSlots_typed ((command.slots.drop args.length).take first)
    ((command.slots.drop args.length).drop first) args []
  rw [List.append_nil, List.take_append_drop, List.drop_eq_getElem_cons hfirst,
    World.fillSlots] at hfill
  simp only [Slot.skipLinker, if_neg hoptional] at hfill
  let turn := Turn.begin World.findings {} ""
    (((command.slots.drop args.length).take first).flatMap Slot.typed)
  obtain ⟨changed, hchanged⟩ : ∃ changed, turn.resolveSlots command args = (changed, .ok _) :=
    resolveSlots_of_complete hfill
  refine ⟨turn, changed, _, args.length + last, _, hchanged, ?_, hmandatory, ?_⟩
  · rw [← List.getElem?_drop]
    exact List.getElem?_eq_getElem hlast
  · simp only [List.length_append, List.length_map, List.length_take]
    omega

/-- **When every mandatory slot is filled.** Whatever the world, the arguments known already and the
words are, the arguments of a command are found without a mandatory slot left open, exactly if none
of the slots that are open at first is a mandatory one that comes after an optional one. A mandatory
slot is left open only when the words have run out at an optional one before it. -/
theorem resolveSlots_fills_iff (command : Command) (args : List Arg) :
    ((∀ (turn changed : Turn) found, turn.resolveSlots command args = (changed, .ok found) →
        ∀ (index : Nat) slot, command.slots[index]? = some slot → slot.mandatory = true →
          index < found.length) ↔
      Slot.MandatoryFirst (command.slots.drop args.length)) ∧
      ∀ (turn changed : Turn) found, turn.resolveSlots command args = (changed, .ok found) →
        ∀ (index : Nat) slot, command.slots[index]? = some slot → slot.mandatory = true →
          found.length ≤ index → changed.tokens = [] ∧ ∃ first,
            command.slots[found.length]? = some first ∧ first.mandatory = false := by
  refine ⟨⟨fun hfills => ?_, fun hfirst turn changed found h index slot hslot hmandatory => ?_⟩,
    fun turn changed found h index slot hslot _ hopen =>
      (exists_open_optional h hslot hopen).2⟩
  · by_contra hnot
    obtain ⟨turn, changed, found, index, slot, h, hslot, hmandatory, hopen⟩ :=
      exists_open_mandatory hnot
    exact Nat.not_lt.mpr hopen (hfills turn changed found h index slot hslot hmandatory)
  · exact length_of_mandatoryFirst hfirst h hslot hmandatory

/-- A command with two slots, of which only the second one must be filled. -/
def give : Command :=
  { id := ⟨1⟩, name := "give", handler := "insert", slots := [{ mandatory := false }, {}] }

/-- Without a word after the verb, the second slot is left open and nobody is asked. With the slots
in the other order no mandatory slot is left open. -/
theorem resolveSlots_fills_iff_give :
    (∃ changed, (Turn.begin World.findings {} "give" []).resolveSlots give [] =
        (changed, .ok [])) ∧
      ¬ Slot.MandatoryFirst give.slots ∧
      ∀ (turn changed : Turn) found,
        turn.resolveSlots { give with slots := give.slots.reverse } [] = (changed, .ok found) →
          0 < found.length := by
  obtain ⟨changed, hresolved⟩ : ∃ changed, (Turn.begin World.findings {} "give" []).resolveSlots
      give [] = (changed, .ok []) := ⟨_, rfl⟩
  refine ⟨⟨changed, hresolved⟩, fun hfirst => ?_, fun turn changed found h => ?_⟩
  · have hfilled : 1 < ([] : List Arg).length :=
      (resolveSlots_fills_iff give []).1.mpr hfirst _ changed [] hresolved 1 {} rfl rfl
    cases hfilled
  · have hfirst : Slot.MandatoryFirst ({ give with slots := give.slots.reverse }.slots.drop 0) := by
      unfold Slot.MandatoryFirst
      decide
    exact (resolveSlots_fills_iff _ []).1.mpr hfirst turn changed found h 0 {} rfl rfl

end Turn

end Adventure
