import Adventure.Proofs.World.Copies
import Adventure.Proofs.World.Exclusive

/-!
# Where the two sides disagree

An item names its holder and the holder lists its items, but nothing compares the two. The only way
in which they come to disagree is that a copy takes the slot of an earlier one that still holds
something: what was inside goes on naming the slot, which is empty from then on. Everything else
that is done to a world removes disagreements or leaves them as they are.
-/

namespace Adventure.World

variable {world changed : World} {holder : Holder} {key : ItemKey}

/-- An item names a holder that does not list it. -/
def Unlisted (world : World) (key : ItemKey) (holder : Holder) : Prop :=
  world.holder? key = some holder ∧ key ∉ world.contents holder

instance (world : World) (key : ItemKey) (holder : Holder) :
    Decidable (world.Unlisted key holder) :=
  inferInstanceAs (Decidable (_ ∧ _))

/-- Both sides agree: every item that names a holder is listed by it. -/
def AllListed (world : World) : Prop := ∀ key holder, ¬ world.Unlisted key holder

/-! ## Where an item is -/

/-- An item is in a holder and nowhere else: it names the holder, which lists it once, and no other
holder lists it. -/
structure StandsIn (world : World) (holder : Holder) (key : ItemKey) : Prop where
  /-- The item names the holder. -/
  named : world.holder? key = some holder
  /-- The holder lists the item once. -/
  once : (world.contents holder).count key = 1
  /-- No other holder lists the item. -/
  only : ∀ other, key ∈ world.contents other → other = holder

/-- An item is nowhere: it names no holder, and no holder lists it. -/
structure IsNowhere (world : World) (key : ItemKey) : Prop where
  /-- The item names no holder. -/
  unnamed : world.holder? key = none
  /-- No holder lists the item. -/
  unlisted : ∀ holder, key ∉ world.contents holder

/-- Where both sides agree, an item is where it says it is. -/
theorem Exclusive.standsIn (h : world.Exclusive) (hlisted : world.AllListed)
    (hnamed : world.holder? key = some holder) : world.StandsIn holder key := by
  have hmem : key ∈ world.contents holder := by
    by_contra hunlisted
    exact hlisted key holder ⟨hnamed, hunlisted⟩
  refine ⟨hnamed, List.count_eq_one_of_mem (h.nodup holder) hmem, fun other hother => ?_⟩
  exact Option.some.inj ((h.own other key hother).symm.trans hnamed)

/-- What names no holder is not listed by any. -/
theorem OwnLists.isNowhere (h : world.OwnLists) (hunnamed : world.holder? key = none) :
    world.IsNowhere key := by
  refine ⟨hunnamed, fun holder hmem => ?_⟩
  rw [h holder key hmem] at hunnamed
  cases hunnamed

/-! ## What changes disagreements -/

/-- What does not touch the views of a world leaves its disagreements as they are. -/
theorem unlisted_congr (hholder : ∀ key, changed.holder? key = world.holder? key)
    (hcontents : ∀ holder, changed.contents holder = world.contents holder) :
    changed.Unlisted key holder ↔ world.Unlisted key holder := by
  unfold Unlisted
  rw [hholder, hcontents]

/-- An item that is put somewhere is listed there; all other disagreements stay. -/
theorem unlisted_insert {into : Holder} {moved : ItemKey} (hown : world.ListsOwn holder)
    (h : world.insert into moved = .ok changed) :
    changed.Unlisted key holder ↔ key ≠ moved ∧ world.Unlisted key holder := by
  unfold Unlisted
  rw [holder?_insert h, contents_insert h hown]
  by_cases heq : key = moved
  · subst heq
    simp only [if_pos, Option.some.injEq, ne_eq, not_true_eq_false, false_and, iff_false, not_and,
      not_not]
    rintro rfl
    simp
  · rw [if_neg heq]
    have hlast : key ∉ if holder = into then [moved] else [] := by
      split
      · simpa using heq
      · simp
    simp [heq, hlast]

/-- An item that is taken out for good names no holder; all other disagreements stay. -/
theorem unlisted_destroy {moved : ItemKey} (hown : world.ListsOwn holder)
    (h : world.destroy moved = .ok changed) :
    changed.Unlisted key holder ↔ key ≠ moved ∧ world.Unlisted key holder := by
  unfold Unlisted
  rw [holder?_destroy h, contents_destroy h hown]
  by_cases heq : key = moved
  · simp [heq]
  · simp [heq]

/-- After an item was copied, an item is not listed by its holder exactly if it was not before or if
it was inside the slot that the copy took. -/
theorem unlisted_copyItem {model copy : ItemKey} (hown : world.ListsOwn holder)
    (h : world.copyItem model = .ok (changed, copy)) :
    changed.Unlisted key holder ↔
      world.Unlisted key holder ∨ holder = .item copy ∧ key ∈ world.contents holder := by
  unfold Unlisted
  rw [holder?_copyItem h, contents_copyItem h]
  by_cases heq : holder = .item copy
  · rw [if_pos heq]
    constructor
    · rintro ⟨hname, -⟩
      by_cases hmem : key ∈ world.contents holder
      · exact .inr ⟨heq, hmem⟩
      · exact .inl ⟨hname, hmem⟩
    · rintro (⟨hname, -⟩ | ⟨-, hmem⟩)
      · exact ⟨hname, List.not_mem_nil⟩
      · exact ⟨hown key hmem, List.not_mem_nil⟩
  · simp [heq]

/-- The same holds when the copy is put somewhere at once. -/
theorem unlisted_copyInto {into : Holder} {model copy : ItemKey} (hown : world.OwnLists)
    (h : world.copyInto into model = (changed, .ok copy)) :
    changed.Unlisted key holder ↔
      world.Unlisted key holder ∨ holder = .item copy ∧ key ∈ world.contents holder := by
  obtain ⟨copied, hcopy, hinsert⟩ := copyInto_ok h
  rw [unlisted_insert (hown.move (.copy hcopy) holder) hinsert,
    unlisted_copyItem (hown holder) hcopy]
  refine and_iff_right_of_imp ?_
  rintro hbroken rfl
  have hheld : world.holder? key = some holder :=
    hbroken.elim And.left fun hinside => hown holder key hinside.2
  rw [holder?_copy hcopy] at hheld
  cases hheld

/-- A copy breaks the agreement of both sides exactly if something was inside the slot that it
took. -/
theorem allListed_copyInto_iff {into : Holder} {model copy : ItemKey} (hown : world.OwnLists)
    (hlisted : world.AllListed) (h : world.copyInto into model = (changed, .ok copy)) :
    changed.AllListed ↔ world.contents (.item copy) = [] := by
  constructor
  · intro hchanged
    refine List.eq_nil_iff_forall_not_mem.mpr fun inner hinner => ?_
    exact hchanged inner (.item copy) ((unlisted_copyInto hown h).mpr (.inr ⟨rfl, hinner⟩))
  · intro hempty inner holder hunlisted
    rcases (unlisted_copyInto hown h).mp hunlisted with hbefore | ⟨rfl, hinner⟩
    · exact hlisted inner holder hbefore
    · rw [hempty] at hinner
      cases hinner

end Adventure.World
