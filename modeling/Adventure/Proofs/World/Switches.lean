import Adventure.Proofs.World.Bodies

/-!
# What switches read back

A switch keeps no state of its own. It is on when all bits of a mask are set on its target, which
other switches and events may use as well. Using it sets or clears these bits and no others, and
afterwards it reads what it was set to, unless its mask has no bit: such a switch is always on.
-/

namespace Adventure

/-! ## Masks bit by bit -/

namespace Flags

variable {bearer : Bearer}

/-- Whether a bit is set. -/
def bit (flags : Flags bearer) (i : Nat) : Bool := flags.bits.toBitVec.getLsbD i

@[simp] theorem bit_none (i : Nat) : (none : Flags bearer).bit i = false := by
  simp [bit, none]

theorem bit_set (flags flag : Flags bearer) (i : Nat) :
    (flags.set flag).bit i = (flags.bit i || flag.bit i) := by
  simp [bit, set]

theorem bit_unset (flags flag : Flags bearer) (i : Nat) :
    (flags.unset flag).bit i = (flags.bit i && !flag.bit i) := by
  have hbound : 32 ≤ i → flags.bits.toBitVec.getLsbD i = false := BitVec.getLsbD_of_ge _ _
  simp only [bit, unset, UInt32.toBitVec_and, UInt32.toBitVec_not, BitVec.getLsbD_and,
    BitVec.getLsbD_not]
  by_cases hi : i < 32
  · simp [hi]
  · simp [hbound (Nat.le_of_not_lt hi)]

/-- Setting or clearing a mask concerns the bits of the mask alone. -/
theorem bit_assign (flags flag : Flags bearer) (on : Bool) (i : Nat) :
    (flags.assign flag on).bit i = if flag.bit i then on else flags.bit i := by
  cases on with
  | true =>
    rw [assign, if_pos rfl, bit_set]
    cases flag.bit i <;> simp
  | false =>
    rw [assign, if_neg Bool.noConfusion, bit_unset]
    cases flag.bit i <;> simp

variable {flags flag : Flags bearer}

theorem ext_bit (h : ∀ i, flags.bit i = flag.bit i) : flags = flag := by
  obtain ⟨bits⟩ := flags
  obtain ⟨bits'⟩ := flag
  congr 1
  refine UInt32.toBitVec_inj.mp (BitVec.eq_of_getLsbD_eq fun i _ => h i)

theorem eq_none_iff : flag = none ↔ ∀ i, flag.bit i = false :=
  ⟨fun h i => h ▸ bit_none i, fun h => ext_bit fun i => (h i).trans (bit_none i).symm⟩

/-- Something has a mask if it has all of its bits. -/
theorem has_iff : flags.has flag = true ↔ ∀ i, flag.bit i = true → flags.bit i = true := by
  have hmeet (i : Nat) : (⟨flags.bits &&& flag.bits⟩ : Flags bearer).bit i =
      (flags.bit i && flag.bit i) := by
    simp [bit]
  rw [has, beq_iff_eq]
  constructor
  · intro h i hi
    have hboth := hmeet i
    rw [h] at hboth
    exact (Bool.and_eq_true_iff.mp (hboth.symm.trans hi)).1
  · intro h
    have hsame : (⟨flags.bits &&& flag.bits⟩ : Flags bearer) = flag := ext_bit fun i => by
      rw [hmeet]
      cases hi : flag.bit i with
      | true => rw [h i hi, Bool.and_self]
      | false => rw [Bool.and_false]
    exact congrArg Flags.bits hsame

/-- What a mask was set or cleared on has it in the first case, and in the second only if there is
nothing to have. -/
theorem has_assign (on : Bool) : (flags.assign flag on).has flag = (on || flag == none) := by
  rw [Bool.eq_iff_iff, has_iff, Bool.or_eq_true, beq_iff_eq, eq_none_iff]
  simp only [bit_assign]
  cases on with
  | true => exact iff_of_true (fun i hi => if_pos hi) (.inl rfl)
  | false =>
    constructor
    · refine fun h => .inr fun i => Bool.eq_false_iff.mpr fun hi => ?_
      have hcleared := h i hi
      rw [if_pos hi] at hcleared
      cases hcleared
    · rintro (hon | hempty) i hi
      · cases hon
      · rw [hempty] at hi
        cases hi

end Flags

/-- Whether the mask of a target has no bit. -/
def SwitchTarget.isBlank : SwitchTarget → Bool
  | .item _ flag => flag == .none
  | .location _ flag => flag == .none

namespace World

variable {world changed : World} {key : ItemKey} {target : SwitchTarget}
  {transition : Transition} {state : Bool}

/-! ## What switches act on -/

/-- What the switch of an item acts on, if it has a switch that acts on anything. -/
def target? (world : World) (key : ItemKey) : Option SwitchTarget :=
  (world.item? key).bind fun item => item.switch.bind (·.target)

/-- What the switches act on. -/
def targets (world : World) : List SwitchTarget :=
  world.items.filterMap fun item => item.switch.bind (·.target)

theorem switchTarget_ok_iff :
    world.switchTarget key = .ok target ↔ world.target? key = some target := by
  unfold switchTarget target?
  cases world.item? key with
  | none => simp
  | some item =>
    rw [Option.bind_some]
    dsimp only
    cases item.switch.bind (·.target) <;> simp

theorem mem_targets : target ∈ world.targets ↔ ∃ key, world.target? key = some target := by
  unfold targets target?
  rw [List.mem_filterMap]
  constructor
  · rintro ⟨item, hmem, htarget⟩
    obtain ⟨slot, hslot⟩ := List.mem_iff_getElem?.mp hmem
    exact ⟨⟨slot⟩, Option.bind_eq_some_iff.mpr ⟨item, hslot, htarget⟩⟩
  · rintro ⟨key, hkey⟩
    obtain ⟨item, hitem, htarget⟩ := Option.bind_eq_some_iff.mp hkey
    exact ⟨item, List.mem_of_getElem? hitem, htarget⟩

theorem target?_eq_body? (world : World) (key : ItemKey) :
    world.target? key = (world.body? key).bind fun body => body.switch.bind (·.target) := by
  unfold target? body?
  cases world.item? key <;> rfl

/-- Items with the same bodies switch the same. -/
theorem target?_congr {other : ItemKey} (h : changed.body? other = world.body? key) :
    changed.target? other = world.target? key := by
  rw [target?_eq_body?, h, target?_eq_body?]

/-- What leaves the switch of an item alone leaves all targets as they are. -/
theorem target?_modifyItem {f : Item → Item} (hf : ∀ item, (f item).switch = item.switch)
    (other : ItemKey) : (world.modifyItem key f).target? other = world.target? other := by
  unfold target?
  rw [item?_modifyItem]
  by_cases heq : other = key
  · rw [if_pos heq, heq]
    cases world.item? key <;> simp [hf]
  · rw [if_neg heq]

/-- Taking an item out for good rewires no switch. -/
theorem target?_destroy {gone : ItemKey} (h : world.destroy gone = .ok changed) (key : ItemKey) :
    changed.target? key = world.target? key := by
  obtain ⟨previous, hremove⟩ := destroy_cases h
  rw [target?_congr (body?_remove hremove key), target?_modifyItem fun _ => by rfl]

/-- A copy switches what its model switches. -/
theorem target?_copyItem {copy : ItemKey} (h : world.copyItem key = .ok (changed, copy))
    (other : ItemKey) :
    changed.target? other = if other = copy then world.target? key else world.target? other := by
  rw [target?_eq_body?, body?_copyItem h]
  by_cases heq : other = copy
  · rw [if_pos heq, if_pos heq, target?_eq_body?]
    cases world.body? key <;> rfl
  · rw [if_neg heq, if_neg heq, target?_eq_body?]

/-! ## Using a switch -/

/-- A world differs from another one only in that the bits of a mask are set or cleared on the
target of a switch. -/
inductive AssignsOnly (world : World) (on : Bool) : SwitchTarget → World → Prop
  /-- The bits are those of an item. -/
  | item {key : ItemKey} {flag : ItemFlags} {change : ItemFlags → ItemFlags}
      (hbits : ∀ flags i, (change flags).bit i = if flag.bit i then on else flags.bit i) :
      AssignsOnly world on (.item key flag)
        (world.modifyItem key fun item => { item with attributes := change item.attributes })
  /-- The bits are those of a location. -/
  | location {id : LocationId} {flag : LocationFlags} {change : LocationFlags → LocationFlags}
      (hbits : ∀ flags i, (change flags).bit i = if flag.bit i then on else flags.bit i) :
      AssignsOnly world on (.location id flag)
        (world.modifyLocation id fun l => { l with attributes := change l.attributes })

theorem assignsOnly_setTarget (on : Bool) (target : SwitchTarget) :
    world.AssignsOnly on target (world.setTarget on target) := by
  cases target with
  | item key flag => exact .item fun flags => flags.bit_assign flag on
  | location id flag => exact .location fun flags => flags.bit_assign flag on

/-- Setting or clearing the bits of a target rewires no switch. -/
theorem target?_setTarget (on : Bool) (target : SwitchTarget) (key : ItemKey) :
    (world.setTarget on target).target? key = world.target? key := by
  cases target with
  | item other flag => exact target?_modifyItem (fun _ => by rfl) key
  | location id flag => rfl

/-- A target that is there is on after its bits are set, and off after they are cleared if it has
any. -/
theorem targetState_setTarget {before : Bool} (h : world.targetState target = .ok before)
    (on : Bool) : (world.setTarget on target).targetState target = .ok (on || target.isBlank) := by
  cases target with
  | item key flag =>
    cases hitem : world.item? key with
    | none => simp [targetState, hitem] at h
    | some item =>
      simp [targetState, setTarget, item?_modifyItem, hitem, Flags.has_assign, SwitchTarget.isBlank]
  | location id flag =>
    cases hlocation : world.location? id with
    | none => simp [targetState, hlocation] at h
    | some location =>
      simp [targetState, setTarget, location?_modifyLocation, hlocation, Flags.has_assign,
        SwitchTarget.isBlank]

/-- What comes of using the switch of an item. -/
structure Switches (world : World) (key : ItemKey) (transition : Transition) (target : SwitchTarget)
    (changed : World) (state : Bool) : Prop where
  /-- The switch acts on the target. -/
  acts : world.switchTarget key = .ok target
  /-- What is told is the transition of what the switch read before. -/
  told : ∃ before, world.isSwitchedOn key = .ok before ∧ state = transition.apply before
  /-- The switch reads what is told, unless its mask has no bit: then it reads on. -/
  reads : changed.isSwitchedOn key = .ok (state || target.isBlank)
  /-- Nothing has changed but the bits of the target. -/
  only : world.AssignsOnly state target changed
  /-- The item with the switch has not changed if it is not the target itself. -/
  apart : (∀ flag, target ≠ .item key flag) → changed.item? key = world.item? key

/-- A switch whose target is there can be used. -/
theorem switch_eq {before : Bool} (htarget : world.switchTarget key = .ok target)
    (hstate : world.targetState target = .ok before) (transition : Transition) :
    world.switch key transition =
      .ok (world.setTarget (transition.apply before) target, transition.apply before) := by
  simp only [switch, htarget, hstate, bind, Except.bind, pure, Except.pure]

/-- A switch that can be read has a target that is there. -/
theorem isSwitchedOn_cases {before : Bool} (h : world.isSwitchedOn key = .ok before) :
    ∃ target, world.switchTarget key = .ok target ∧ world.targetState target = .ok before := by
  unfold isSwitchedOn at h
  cases htarget : world.switchTarget key with
  | error refusal => simp [htarget, bind, Except.bind] at h
  | ok target => exact ⟨target, rfl, by simpa [htarget, bind, Except.bind] using h⟩

/-- A switch that is used successfully has a target that is there. -/
theorem switch_cases (h : world.switch key transition = .ok (changed, state)) :
    ∃ target before, world.switchTarget key = .ok target ∧ world.targetState target = .ok before ∧
      state = transition.apply before ∧ changed = world.setTarget state target := by
  unfold switch at h
  cases htarget : world.switchTarget key with
  | error refusal => simp [htarget, bind, Except.bind] at h
  | ok target =>
    cases hstate : world.targetState target with
    | error refusal => simp [htarget, hstate, bind, Except.bind] at h
    | ok before =>
      simp only [htarget, hstate, bind, Except.bind, pure, Except.pure, Except.ok.injEq,
        Prod.mk.injEq] at h
      obtain ⟨rfl, rfl⟩ := h
      exact ⟨target, before, rfl, hstate, rfl, rfl⟩

/-- A switch that is used successfully does these things and no others. -/
theorem switches_of_switch (h : world.switch key transition = .ok (changed, state)) :
    ∃ target, world.Switches key transition target changed state := by
  obtain ⟨target, before, htarget, hstate, rfl, rfl⟩ := switch_cases h
  have hkept : (world.setTarget (transition.apply before) target).switchTarget key =
      .ok target := by
    rw [switchTarget_ok_iff, target?_setTarget, ← switchTarget_ok_iff, htarget]
  refine ⟨target, htarget, ⟨before, ?_, rfl⟩, ?_, assignsOnly_setTarget _ _, fun hother => ?_⟩
  · simp only [isSwitchedOn, htarget, bind, Except.bind, hstate]
  · simp only [isSwitchedOn, hkept, bind, Except.bind, targetState_setTarget hstate]
  · cases target with
    | location id flag => rfl
    | item other flag =>
      have hne : key ≠ other := by
        rintro rfl
        exact hother flag rfl
      exact (world.item?_modifyItem other key _).trans (if_neg hne)

end World

end Adventure
