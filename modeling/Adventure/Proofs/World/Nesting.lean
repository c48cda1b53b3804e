import Adventure.Proofs.World.Operations
import Mathlib.Data.Finset.Card
import Mathlib.Logic.Relation
import Mathlib.Order.WellFounded

/-!
# Nesting

Items hold items in turn, but none ends up inside itself. So the way outward from an item ends, and
it visits every item once at most, which is why counting to the number of items is as good as not
counting at all. The same goes for the way inward as long as containers list only their own items.
-/

namespace Adventure.World

open Relation

variable {world changed : World} {holder : Holder} {key : ItemKey}

/-! ## Walks over items -/

section Walks

variable {step : ItemKey → ItemKey → Prop} {bound : Nat}

open Classical in
/-- Where a walk from an item may come to among the first `bound` items, its start included. -/
noncomputable def reached (step : ItemKey → ItemKey → Prop) (bound : Nat) (key : ItemKey) :
    Finset Nat :=
  (Finset.range bound).filter fun slot => ReflTransGen step key ⟨slot⟩

/-- How many items a walk from an item may come to. -/
noncomputable def reach (step : ItemKey → ItemKey → Prop) (bound : Nat) (key : ItemKey) : Nat :=
  (reached step bound key).card

theorem reach_le (key : ItemKey) : reach step bound key ≤ bound := by
  classical
  exact (Finset.card_filter_le _ _).trans_eq (Finset.card_range bound)

theorem reach_pos (h : key.slot < bound) : 0 < reach step bound key := by
  classical
  refine Finset.card_pos.mpr ⟨key.slot, ?_⟩
  exact Finset.mem_filter.mpr ⟨Finset.mem_range.mpr h, .refl⟩

/-- Where walks do not return, every step leaves fewer items to come to: the item that it starts
from is lost. -/
theorem reach_lt (hbound : ∀ a b, step a b → a.slot < bound)
    (hacyclic : ∀ a, ¬ TransGen step a a) {next : ItemKey} (h : step key next) :
    reach step bound next < reach step bound key := by
  classical
  refine Finset.card_lt_card (Finset.ssubset_iff_of_subset ?_ |>.mpr ⟨key.slot, ?_, ?_⟩)
  · intro slot hslot
    obtain ⟨hlt, hwalk⟩ := Finset.mem_filter.mp hslot
    exact Finset.mem_filter.mpr ⟨hlt, hwalk.head h⟩
  · exact Finset.mem_filter.mpr ⟨Finset.mem_range.mpr (hbound _ _ h), .refl⟩
  · intro hback
    exact hacyclic key (TransGen.head' h (Finset.mem_filter.mp hback).2)

/-- An item from which no walk comes to anything, not even to itself, does not exist. -/
theorem item?_eq_none_of_reach (h : reach step world.items.length key = 0) :
    world.item? key = none := by
  by_contra hsome
  have hlt := (world.isSome_item?_iff key).mp (Option.isSome_iff_ne_none.mpr hsome)
  have hpos : 0 < reach step world.items.length key := reach_pos hlt
  omega

end Walks

/-! ## The way outward -/

/-- An item names another one as its holder. -/
def Inside (world : World) (inner outer : ItemKey) : Prop :=
  world.holder? inner = some (.item outer)

/-- From every item the way outward ends. -/
def Nested (world : World) : Prop := WellFounded fun outer inner => world.Inside inner outer

/-- Only items that exist are inside others. -/
theorem slot_lt_of_inside (inner outer : ItemKey) (h : world.Inside inner outer) :
    inner.slot < world.items.length :=
  (world.isSome_item?_iff inner).mp (world.isSome_item?_of_holder? h)

/-- No item is inside itself, at any depth. -/
theorem Nested.acyclic (hnested : world.Nested) (key : ItemKey) :
    ¬ TransGen world.Inside key key := by
  intro hcycle
  have hswap := transGen_swap.mpr hcycle
  exact hnested.transGen.irrefl.irrefl key hswap

/-- One more step outward leads no further, once as many steps are allowed as there are items to
come to. -/
theorem Nested.holdersWithin_succ (hnested : world.Nested) {steps : Nat} {key : ItemKey}
    (h : reach world.Inside world.items.length key ≤ steps) :
    world.holdersWithin (steps + 1) key = world.holdersWithin steps key := by
  induction steps generalizing key with
  | zero =>
    have hunknown := item?_eq_none_of_reach (Nat.le_zero.mp h)
    simp [holdersWithin, holder?, hunknown]
  | succ steps ih =>
    rw [holdersWithin, holdersWithin]
    cases hholder : world.holder? key with
    | none => rfl
    | some holder =>
      cases holder with
      | location id => rfl
      | inventory id => rfl
      | item outer =>
        have hinside : world.Inside key outer := hholder
        have hlt := reach_lt slot_lt_of_inside hnested.acyclic hinside
        have hle : reach world.Inside world.items.length outer ≤ steps := by omega
        simp only [ih hle]

/-- The limit on the steps outward is never felt. -/
theorem Nested.holdersWithin_eq_holders (hnested : world.Nested) {steps : Nat} (key : ItemKey)
    (h : world.items.length ≤ steps) : world.holdersWithin steps key = world.holders key := by
  induction steps, h using Nat.le_induction with
  | base => rfl
  | succ steps hle ih => rw [hnested.holdersWithin_succ ((reach_le key).trans hle), ih]

/-- The holders of an item are its own holder and the holders of that. -/
theorem Nested.holders_eq (hnested : world.Nested) (key : ItemKey) :
    world.holders key = match world.holder? key with
      | none => []
      | some (.item outer) => .item outer :: world.holders outer
      | some holder => [holder] := by
  rw [← hnested.holdersWithin_eq_holders key (Nat.le_succ _)]
  rfl

/-- An item encloses what is inside it at any depth, and nothing else. -/
theorem Nested.encloses_iff (hnested : world.Nested) (outer inner : ItemKey) :
    world.encloses outer inner = true ↔ TransGen world.Inside inner outer := by
  induction inner using hnested.induction with
  | _ inner ih =>
    unfold encloses
    rw [TransGen.head'_iff, hnested.holders_eq]
    cases hholder : world.holder? inner with
    | none => simp [Inside, hholder]
    | some holder =>
      cases holder with
      | location id => simp [Inside, hholder]
      | inventory id => simp [Inside, hholder]
      | item mid =>
        have hmid := ih mid hholder
        unfold encloses at hmid
        simp only [List.contains_cons, Bool.or_eq_true, hmid, beq_iff_eq, Holder.item.injEq, Inside,
          hholder, Option.some.injEq]
        constructor
        · rintro (rfl | hwalk)
          · exact ⟨outer, rfl, .refl⟩
          · exact ⟨mid, rfl, hwalk.to_reflTransGen⟩
        · rintro ⟨_, rfl, hwalk⟩
          exact (reflTransGen_iff_eq_or_transGen.mp hwalk).imp_left fun heq => heq

/-! ## What moves keep -/

/-- Items that are inside others only where they were before stay nested. -/
theorem Nested.of_inside (hnested : world.Nested)
    (h : ∀ inner outer, changed.Inside inner outer → world.Inside inner outer) : changed.Nested :=
  Subrelation.wf (fun {outer inner} hinside => h inner outer hinside) hnested

/-- Putting an item into one that is not inside it keeps items nested. The way outward is followed
in three parts: from items that are not inside the moved one it is as before, from the moved one it
leads to such an item, and from all others it leads to the moved one. -/
theorem Nested.insert_item (hnested : world.Nested) {outer : ItemKey} (hne : outer ≠ key)
    (hfree : ¬ TransGen world.Inside outer key)
    (h : ∀ other, changed.holder? other =
      if other = key then some (.item outer) else world.holder? other) : changed.Nested := by
  have hapart : ∀ other, ¬ ReflTransGen world.Inside other key →
      Acc (fun outer inner => changed.Inside inner outer) other := by
    intro other
    induction other using hnested.induction with
    | _ other ih =>
      intro hother
      refine ⟨_, fun next hnext => ?_⟩
      have hne : other ≠ key := fun heq => hother (heq ▸ .refl)
      have hstep : world.Inside other next := by
        unfold Inside at hnext
        rwa [h, if_neg hne] at hnext
      exact ih next hstep fun hwalk => hother (hwalk.head hstep)
  have hmoved : Acc (fun outer inner => changed.Inside inner outer) key := by
    refine ⟨_, fun next hnext => ?_⟩
    have hnext' : next = outer := by
      unfold Inside at hnext
      rw [h, if_pos rfl] at hnext
      exact (Holder.item.inj (Option.some.inj hnext)).symm
    subst hnext'
    refine hapart next fun hwalk => ?_
    exact (reflTransGen_iff_eq_or_transGen.mp hwalk).elim (fun heq => hne heq.symm) hfree
  refine ⟨fun other => ?_⟩
  induction other using hnested.induction with
  | _ other ih =>
    by_cases heq : other = key
    · exact heq ▸ hmoved
    · refine ⟨_, fun next hnext => ih next ?_⟩
      unfold Inside at hnext
      rwa [h, if_neg heq] at hnext

/-- Putting an item anywhere else than into an item keeps items nested, too. -/
theorem Nested.put_outside (hnested : world.Nested) {place : Option Holder}
    (hplace : ∀ outer, place ≠ some (.item outer))
    (h : ∀ other, changed.holder? other = if other = key then place else world.holder? other) :
    changed.Nested := by
  refine hnested.of_inside fun inner outer hinside => ?_
  unfold Inside at hinside
  rw [h] at hinside
  by_cases heq : inner = key
  · rw [if_pos heq] at hinside
    exact absurd hinside (hplace outer)
  · rwa [if_neg heq] at hinside

/-- Every move keeps items nested. -/
theorem Nested.move (hnested : world.Nested) (hmove : Move world changed) : changed.Nested := by
  cases hmove with
  | @insert into key _ h =>
    cases into with
    | location id => exact hnested.put_outside (by simp) (holder?_insert h)
    | inventory id => exact hnested.put_outside (by simp) (holder?_insert h)
    | item outer =>
      obtain ⟨hne, hfree⟩ := (insert_cases h).1.outside outer rfl
      refine hnested.insert_item hne (fun hwalk => ?_) (holder?_insert h)
      rw [(hnested.encloses_iff key outer).mpr hwalk] at hfree
      cases hfree
  | remove h => exact hnested.put_outside (by simp) (holder?_remove h)
  | destroy h => exact hnested.put_outside (by simp) (holder?_destroy h)
  | copy h =>
    refine hnested.of_inside fun inner outer hinside => ?_
    unfold Inside at hinside
    rwa [holder?_copyItem h] at hinside

/-- Whatever is added, items stay nested: what is new is nowhere. -/
theorem Nested.add {operation : Operation} (hnested : world.Nested)
    (hadd : Addition world operation changed) : changed.Nested := by
  refine hnested.of_inside fun inner outer hinside => ?_
  unfold Inside at hinside
  rwa [hadd.holder?_eq] at hinside

/-- In a new world nothing is inside anything. -/
theorem nested_new (name : String) (start : LocationId) : (new name start).Nested :=
  ⟨fun _ => ⟨_, fun _ hinside => by cases hinside⟩⟩

/-- All operations keep items nested. -/
theorem Nested.after {operations : List Operation} (hnested : world.Nested) :
    (world.after operations).Nested :=
  after_keeps (fun _ _ _ _ hadd h => h.add hadd) (fun _ _ hmove h => h.move hmove) hnested

end Adventure.World
