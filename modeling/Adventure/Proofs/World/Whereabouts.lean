import Adventure.Proofs.World.Depth
import Adventure.Proofs.World.Setting

/-!
# Where things get to

When items are moved, all that is inside them comes along and everything else stays. So the
outermost holder of each item is known after a move, and what encloses it as well. This file says so
for a move of any number of items to one place, and then for the moves that there are.
-/

namespace Adventure.World

open Relation

variable {world changed : World} {holder : Holder} {key other outer : ItemKey}

/-- Whether an item is another one or inside it at any depth, so that it comes along when the other
one is moved. -/
def within (world : World) (outer inner : ItemKey) : Bool :=
  inner == outer || world.encloses outer inner

/-- The location or inventory that an item is in at any depth when it is put somewhere. -/
def top? (world : World) : Option Holder → Option Holder
  | some (.item outer) => world.outermost? outer
  | place => place

@[simp] theorem within_self (world : World) (key : ItemKey) : world.within key key = true := by
  simp [within]

theorem within_of_encloses (h : world.encloses outer key = true) :
    world.within outer key = true := by
  simp [within, h]

/-- Every holder lists only items that name it, each once, and no item is inside itself. -/
structure Packed (world : World) : Prop where
  /-- Holders list only items that name them, each once. -/
  exclusive : world.Exclusive
  /-- No item is inside itself. -/
  nested : world.Nested

theorem Packed.own (hpacked : world.Packed) : world.OwnLists := hpacked.exclusive.own

theorem Packed.move (hpacked : world.Packed) (hmove : Move world changed) : changed.Packed :=
  ⟨hpacked.exclusive.move hmove, hpacked.nested.move hmove⟩

/-! ## The way outward -/

section Outward

variable (hnested : world.Nested)
include hnested

theorem outermost?_eq_top? (key : ItemKey) :
    world.outermost? key = world.top? (world.holder? key) := by
  by_cases houtside : ∀ next, world.holder? key ≠ some (.item next)
  · rw [outermost?_of_outside hnested houtside]
    cases hholder : world.holder? key with
    | none => rfl
    | some holder =>
      cases holder with
      | location id => rfl
      | inventory id => rfl
      | item next => exact absurd hholder (houtside next)
  · obtain ⟨next, hnext⟩ := not_forall_not.mp houtside
    rw [outermost?_of_item hnested hnext, hnext]
    rfl

/-- What is directly in a container comes along with the same things as the container, save for
itself. -/
theorem within_of_item {next : ItemKey} (h : world.holder? key = some (.item next))
    (hne : key ≠ outer) : world.within outer key = world.within outer next := by
  rw [within, encloses_of_item hnested h, beq_false_of_ne hne, Bool.false_or, within, BEq.comm]

/-- Nothing encloses itself. -/
theorem encloses_self (key : ItemKey) : world.encloses key key = false := by
  rw [Bool.eq_false_iff]
  exact fun h => hnested.acyclic key ((hnested.encloses_iff key key).mp h)

/-- What encloses an item encloses all that comes along with it. -/
theorem encloses_trans {inner : ItemKey} (h : world.encloses outer key = true)
    (h' : world.within key inner = true) : world.encloses outer inner = true := by
  rcases Bool.or_eq_true_iff.mp h' with heq | hinner
  · rwa [eq_of_beq heq]
  · rw [hnested.encloses_iff] at h hinner ⊢
    exact hinner.trans h

theorem within_trans {inner : ItemKey} (h : world.within outer key = true)
    (h' : world.within key inner = true) : world.within outer inner = true := by
  rcases Bool.or_eq_true_iff.mp h with heq | hencloses
  · rwa [eq_of_beq heq] at h'
  · exact within_of_encloses (encloses_trans hnested hencloses h')

/-- Of two items, one of which encloses the other, only one does. -/
theorem encloses_asymm (h : world.encloses outer key = true) : world.within key outer = false := by
  rw [Bool.eq_false_iff]
  intro hback
  have hself := encloses_trans hnested h hback
  rw [encloses_self hnested] at hself
  cases hself

/-- What is enclosed is in the same location or inventory as what encloses it. -/
theorem outermost?_of_encloses (h : world.within outer key = true) :
    world.outermost? key = world.outermost? outer := by
  induction key using hnested.induction with
  | _ key ih =>
    by_cases heq : key = outer
    · rw [heq]
    · by_cases houtside : ∀ next, world.holder? key ≠ some (.item next)
      · rw [within, encloses_of_outside hnested houtside, Bool.or_false] at h
        exact absurd (eq_of_beq h) heq
      · obtain ⟨next, hnext⟩ := not_forall_not.mp houtside
        rw [outermost?_of_item hnested hnext]
        exact ih next hnext (within_of_item hnested hnext heq ▸ h)

/-- Two items that enclose the same item enclose each other, in one way or the other. -/
theorem within_total {first : ItemKey} (hfirst : world.within first key = true)
    (houter : world.within outer key = true) :
    world.within first outer = true ∨ world.encloses outer first = true := by
  induction key using hnested.induction with
  | _ key ih =>
    by_cases heq : key = first
    · rcases Bool.or_eq_true_iff.mp houter with hsame | hencloses
      · rw [← heq, eq_of_beq hsame]
        exact .inl (within_self _ _)
      · exact .inr (heq ▸ hencloses)
    · by_cases heq' : key = outer
      · exact .inl (heq' ▸ hfirst)
      · by_cases houtside : ∀ next, world.holder? key ≠ some (.item next)
        · rw [within, encloses_of_outside hnested houtside, Bool.or_false] at hfirst
          exact absurd (eq_of_beq hfirst) heq
        · obtain ⟨next, hnext⟩ := not_forall_not.mp houtside
          exact ih next hnext (within_of_item hnested hnext heq ▸ hfirst)
            (within_of_item hnested hnext heq' ▸ houter)

end Outward

/-! ## Moving any number of items -/

/-- Some items were moved to one place, or made to be nowhere, and no other item was. -/
structure Relocates (moved : List ItemKey) (place : Option Holder) (world changed : World) :
    Prop where
  /-- Items were nested before. -/
  before : world.Nested
  /-- Items are nested after. -/
  after : changed.Nested
  /-- The moved items are in their place, all others where they were. -/
  holder : ∀ key, changed.holder? key = if key ∈ moved then place else world.holder? key

section Relocates

variable {moved : List ItemKey} {place : Option Holder}

/-- All that comes along with a moved item is where that was moved to; all else is where it was. -/
theorem Relocates.outermost? (h : Relocates moved place world changed) (key : ItemKey) :
    changed.outermost? key =
      if moved.any (world.within · key) then changed.top? place else world.outermost? key := by
  induction key using h.before.induction with
  | _ key ih =>
    by_cases hmem : key ∈ moved
    · have hany : moved.any (world.within · key) = true :=
        List.any_eq_true.mpr ⟨key, hmem, within_self _ _⟩
      rw [outermost?_eq_top? h.after, h.holder, if_pos hmem, if_pos hany]
    · have hsame : changed.holder? key = world.holder? key := by rw [h.holder, if_neg hmem]
      have hne (first : ItemKey) (hfirst : first ∈ moved) : key ≠ first :=
        fun heq => hmem (heq ▸ hfirst)
      by_cases houtside : ∀ next, world.holder? key ≠ some (.item next)
      · have hnone : ¬ moved.any (world.within · key) = true := by
          intro hany
          obtain ⟨first, hfirst, hwithin⟩ := List.any_eq_true.mp hany
          rw [within, encloses_of_outside h.before houtside, Bool.or_false] at hwithin
          exact hne first hfirst (eq_of_beq hwithin)
        rw [if_neg hnone, outermost?_of_outside h.before houtside,
          outermost?_of_outside h.after (hsame ▸ houtside), hsame]
      · obtain ⟨next, hnext⟩ := not_forall_not.mp houtside
        have hany : moved.any (world.within · key) = moved.any (world.within · next) := by
          rw [Bool.eq_iff_iff, List.any_eq_true, List.any_eq_true]
          exact exists_congr fun first => and_congr_right fun hfirst => by
            rw [within_of_item h.before hnext (hne first hfirst)]
        rw [hany, outermost?_of_item h.before hnext,
          outermost?_of_item h.after (hsame.trans hnext), ih next hnext]

/-- What does not come along with a moved item is enclosed by what enclosed it before. -/
theorem Relocates.encloses_of_apart (h : Relocates moved place world changed)
    (hapart : ∀ first ∈ moved, world.within first key = false) :
    changed.encloses outer key = world.encloses outer key := by
  induction key using h.before.induction with
  | _ key ih =>
    have hmem : key ∉ moved := by
      intro hmem
      have hself := hapart key hmem
      rw [within_self] at hself
      cases hself
    have hsame : changed.holder? key = world.holder? key := by rw [h.holder, if_neg hmem]
    by_cases houtside : ∀ next, world.holder? key ≠ some (.item next)
    · rw [encloses_of_outside h.before houtside, encloses_of_outside h.after (hsame ▸ houtside)]
    · obtain ⟨next, hnext⟩ := not_forall_not.mp houtside
      rw [encloses_of_item h.before hnext, encloses_of_item h.after (hsame.trans hnext)]
      congr 1
      refine ih next hnext fun first hfirst => ?_
      rw [← within_of_item h.before hnext (fun heq => hmem (heq ▸ hfirst))]
      exact hapart first hfirst

/-- What encloses an item that came along with a moved one: what came along around it, the new place
if that is a container, and what encloses that. -/
theorem Relocates.encloses_along (h : Relocates [key] place world changed)
    (hwithin : world.within key other = true) :
    changed.encloses outer other = true ↔
      world.within key outer = true ∧ world.encloses outer other = true ∨
        ∃ container, place = some (.item container) ∧ changed.within outer container = true := by
  induction other using h.before.induction with
  | _ other ih =>
    have hholder := h.holder other
    by_cases heq : other = key
    · subst heq
      have hcycle : ¬ (world.within other outer = true ∧ world.encloses outer other = true) := by
        rintro ⟨hwithin, hencloses⟩
        rw [encloses_asymm h.before hencloses] at hwithin
        cases hwithin
      rw [if_pos (List.mem_singleton_self other)] at hholder
      rw [or_iff_right hcycle]
      by_cases houtside : ∀ next, changed.holder? other ≠ some (.item next)
      · rw [encloses_of_outside h.after houtside]
        refine iff_of_false Bool.noConfusion ?_
        rintro ⟨container, hplace, -⟩
        exact houtside container (hholder.trans hplace)
      · obtain ⟨container, hcontainer⟩ := not_forall_not.mp houtside
        rw [encloses_of_item h.after hcontainer, ← hholder, hcontainer]
        simp [within, BEq.comm]
    · rw [if_neg (List.mem_singleton.not.mpr heq)] at hholder
      by_cases houtside : ∀ next, world.holder? other ≠ some (.item next)
      · rw [within, encloses_of_outside h.before houtside, Bool.or_false] at hwithin
        exact absurd (eq_of_beq hwithin) heq
      · obtain ⟨next, hnext⟩ := not_forall_not.mp houtside
        have hnear : world.within key next = true := within_of_item h.before hnext heq ▸ hwithin
        rw [encloses_of_item h.after (hholder.trans hnext), encloses_of_item h.before hnext,
          Bool.or_eq_true, Bool.or_eq_true]
        refine (or_congr_right (ih next hnext hnear)).trans ?_
        constructor
        · rintro (hsame | ⟨hkey, hencloses⟩ | hplace)
          · exact .inl ⟨eq_of_beq hsame ▸ hnear, .inl hsame⟩
          · exact .inl ⟨hkey, .inr hencloses⟩
          · exact .inr hplace
        · rintro (⟨hkey, hsame | hencloses⟩ | hplace)
          · exact .inl hsame
          · exact .inr (.inl ⟨hkey, hencloses⟩)
          · exact .inr (.inr hplace)

end Relocates

/-! ## The moves that there are -/

section Moves

variable (hnested : world.Nested)
include hnested

theorem relocates_insert (h : world.insert holder key = .ok changed) :
    Relocates [key] (some holder) world changed :=
  ⟨hnested, hnested.move (.insert h), fun other => by simpa using holder?_insert h other⟩

theorem relocates_destroy (h : world.destroy key = .ok changed) :
    Relocates [key] none world changed :=
  ⟨hnested, hnested.move (.destroy h), fun other => by simpa using holder?_destroy h other⟩

theorem relocates_copyItem {copy : ItemKey} (h : world.copyItem key = .ok (changed, copy)) :
    Relocates [] none world changed :=
  ⟨hnested, hnested.move (.copy h), fun other => by simpa using holder?_copyItem h other⟩

omit hnested in
/-- Nothing is put into what comes along with it. -/
theorem within_insert {container : ItemKey} (h : world.insert (.item container) key = .ok changed) :
    world.within key container = false := by
  obtain ⟨hne, hfree⟩ := (insert_cases h).1.outside container rfl
  simp [within, hne, hfree]

/-- Putting an item somewhere does not move the place where it gets. -/
theorem top?_insert (h : world.insert holder key = .ok changed) :
    changed.top? (some holder) = world.top? (some holder) := by
  have hmoves := relocates_insert hnested h
  cases holder with
  | location id => rfl
  | inventory id => rfl
  | item container =>
    have hapart : ¬ [key].any (world.within · container) = true := by
      simp [within_insert h]
    exact (hmoves.outermost? container).trans (if_neg hapart)

/-- What comes along with an item that is put somewhere is where the new holder is. -/
theorem outermost?_insert (h : world.insert holder key = .ok changed) (other : ItemKey) :
    changed.outermost? other =
      if world.within key other then world.top? (some holder) else world.outermost? other := by
  rw [(relocates_insert hnested h).outermost?, top?_insert hnested h, List.any_cons, List.any_nil,
    Bool.or_false]

/-- What comes along with an item that is taken out for good is nowhere. -/
theorem outermost?_destroy (h : world.destroy key = .ok changed) (other : ItemKey) :
    changed.outermost? other = if world.within key other then none else world.outermost? other := by
  rw [(relocates_destroy hnested h).outermost?, List.any_cons, List.any_nil, Bool.or_false]
  rfl

/-- Destroying an item does not move the place where it was. -/
theorem top?_destroy {place : Holder} (hplace : world.holder? key = some place)
    (h : world.destroy key = .ok changed) :
    changed.top? (some place) = world.top? (some place) := by
  cases place with
  | location id => rfl
  | inventory id => rfl
  | item container =>
    have hdirect : world.encloses container key = true := by
      rw [encloses_of_item hnested hplace]
      simp
    refine (outermost?_destroy hnested h container).trans (if_neg ?_)
    rw [encloses_asymm hnested hdirect]
    exact Bool.noConfusion

/-- When one item takes the place of another one, the same things come along with it as if the other
one were still there. -/
theorem within_destroy_of_insert {outgoing incoming : ItemKey} {place : Holder} {destroyed : World}
    (hplace : world.holder? outgoing = some place)
    (hdestroy : world.destroy outgoing = .ok destroyed)
    (hinsert : destroyed.insert place incoming = .ok changed) :
    destroyed.within incoming key = world.within incoming key := by
  have hmoves := relocates_destroy hnested hdestroy
  cases halong : world.within outgoing key with
  | false =>
    have hsame : destroyed.encloses incoming key = world.encloses incoming key :=
      hmoves.encloses_of_apart (by simp [halong])
    rw [within, hsame, within]
  | true =>
    -- The item that comes does not hold the other one, since it could not take its place then.
    have hfree : world.encloses incoming outgoing = false := by
      cases place with
      | location id => exact encloses_of_outside hnested (by simp [hplace]) incoming
      | inventory id => exact encloses_of_outside hnested (by simp [hplace]) incoming
      | item container =>
        obtain ⟨hne, hadmits⟩ := (insert_cases hinsert).1.outside container rfl
        have hdirect : world.encloses container outgoing = true := by
          rw [encloses_of_item hnested hplace]
          simp
        have hsame : destroyed.encloses incoming container = world.encloses incoming container :=
          hmoves.encloses_of_apart (by simp [encloses_asymm hnested hdirect])
        rw [encloses_of_item hnested hplace, ← hsame, hadmits]
        simpa using Ne.symm hne
    have hsame : destroyed.encloses incoming key = world.encloses incoming key := by
      rw [Bool.eq_iff_iff, hmoves.encloses_along halong]
      simp only [reduceCtorEq, false_and, exists_false, or_false]
      refine and_iff_right_of_imp fun hinside => ?_
      refine (within_total hnested halong (within_of_encloses hinside)).resolve_right ?_
      rw [hfree]
      exact Bool.noConfusion
    rw [within, hsame, within]

/-- Making a copy moves nothing. -/
theorem outermost?_copyItem {copy : ItemKey} (h : world.copyItem key = .ok (changed, copy))
    (other : ItemKey) : changed.outermost? other = world.outermost? other := by
  rw [(relocates_copyItem hnested h).outermost?]
  exact if_neg Bool.noConfusion

end Moves

/-! ## What the player holds -/

/-- What the player holds is in the inventory that serves where the player is. -/
theorem holds_iff : world.holds key = true ↔
    ∃ id, world.outermost? key = some (.inventory id) ∧ world.currentInventory? = some id := by
  unfold holds
  split
  · rename_i id current houter hserves
    rw [beq_iff_eq]
    constructor
    · rintro rfl
      exact ⟨id, houter, hserves⟩
    · rintro ⟨found, hfound, hcurrent⟩
      cases houter.symm.trans hfound
      exact Option.some.inj (hcurrent.symm.trans hserves)
  · rename_i hnot
    constructor
    · exact fun h => by cases h
    · rintro ⟨id, houter, hserves⟩
      exact absurd hserves (hnot id id houter)

/-- Items in the same place are held alike. -/
theorem holds_congr (h : changed.outermost? other = world.outermost? key)
    (hserves : changed.currentInventory? = world.currentInventory?) :
    changed.holds other = world.holds key := by
  rw [Bool.eq_iff_iff, holds_iff, holds_iff, h, hserves]

section Player

variable {f : Player → Player}

/-- No change of the player moves anything. -/
@[simp] theorem holders_modifyPlayer (key : ItemKey) :
    (world.modifyPlayer f).holders key = world.holders key := by
  have hsame : ∀ other, (world.modifyPlayer f).holder? other = world.holder? other := fun _ => rfl
  exact holdersWithin_congr world hsame _ key

@[simp] theorem outermost?_modifyPlayer (key : ItemKey) :
    (world.modifyPlayer f).outermost? key = world.outermost? key := by
  unfold World.outermost?
  rw [holders_modifyPlayer]

@[simp] theorem encloses_modifyPlayer (outer key : ItemKey) :
    (world.modifyPlayer f).encloses outer key = world.encloses outer key := by
  unfold encloses
  rw [holders_modifyPlayer]

@[simp] theorem within_modifyPlayer (outer key : ItemKey) :
    (world.modifyPlayer f).within outer key = world.within outer key := by
  unfold within
  rw [encloses_modifyPlayer]

/-- A player who stays in place holds the same things. -/
theorem holds_modifyPlayer (hlocation : (f world.player).location = world.player.location)
    (key : ItemKey) : (world.modifyPlayer f).holds key = world.holds key :=
  holds_congr (outermost?_modifyPlayer key) (congrArg world.inventoryAt? hlocation)

end Player

/-- Putting an item somewhere does not change which inventory serves. -/
theorem currentInventory?_insert (h : world.insert holder key = .ok changed) :
    changed.currentInventory? = world.currentInventory? := by
  unfold currentInventory?
  rw [player_insert h]
  exact inventoryAt?_of_setting (setting_insert h) _

end Adventure.World
