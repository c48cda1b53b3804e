import Adventure.Proofs.World.Lists

/-!
# What moving an item does

Putting an item somewhere, taking it out and copying it are described by the holders that items name
and by what holders list. The description of the lists needs that a holder lists only items that
name it; with that, every list loses the moved item and the new holder gets it at its end.
-/

namespace Adventure.World

variable {world changed : World} {holder : Holder} {key : ItemKey} {previous : Option Holder}

/-- A holder lists only items that name it as their holder. -/
def ListsOwn (world : World) (holder : Holder) : Prop :=
  ∀ key ∈ world.contents holder, world.holder? key = some holder

/-- A list does not have an item that is elsewhere. -/
theorem ListsOwn.notMem (hown : world.ListsOwn holder) (hne : world.holder? key ≠ some holder) :
    key ∉ world.contents holder := fun hmem => hne (hown key hmem)

/-- Striking out an item that a list does not have leaves the list as it is. -/
theorem filter_ne_of_notMem {keys : List ItemKey} (h : key ∉ keys) :
    keys.filter (· ≠ key) = keys :=
  List.filter_eq_self.mpr fun listed hlisted => by
    simpa using fun heq : listed = key => h (heq ▸ hlisted)

/-! ## Changes that may be refused -/

theorem accepted_eq_ok_iff {α : Type} {outcome : World × Except WorldError α} {result : α} :
    accepted outcome = .ok (changed, result) ↔ outcome = (changed, .ok result) := by
  obtain ⟨left, refusal | result⟩ := outcome <;> simp [accepted]

theorem map_accepted_eq_ok_iff {outcome : World × Except WorldError Unit} :
    (accepted outcome).map Prod.fst = .ok changed ↔ outcome = (changed, .ok ()) := by
  obtain ⟨left, refusal | done⟩ := outcome <;> simp [accepted, Except.map]

/-- What holds of a world and of what a change makes of it holds of what an attempt leaves. -/
theorem attempt_keeps {P : World → Prop} {change : Except WorldError World} (h : P world)
    (hchange : ∀ changed, change = .ok changed → P changed) : P (world.attempt change).1 := by
  cases change with
  | ok changed => exact hchange changed rfl
  | error refusal => exact h

/-! ## Taking out -/

/-- What an item is taken out of is the holder it names; the item then names none, and the holder
strikes it off its list. -/
theorem remove_cases (h : world.remove key = .ok (changed, previous)) :
    (world.item? key).isSome = true ∧ previous = world.holder? key ∧
      let freed := world.modifyItem key fun item => { item with holder := none }
      (world.holder? key = none ∧ changed = freed ∨
        ∃ holder, world.holder? key = some holder ∧ changed = freed.unlist key holder) := by
  rw [remove, accepted_eq_ok_iff] at h
  unfold tryRemove at h
  cases hitem : world.item? key with
  | none => simp [hitem] at h
  | some item =>
    simp only [hitem] at h
    have hholder : world.holder? key = item.holder := by simp [holder?, hitem]
    refine ⟨rfl, ?_⟩
    cases hname : item.holder with
    | none =>
      simp only [hname, Except.ok.injEq, Prod.mk.injEq] at h
      exact ⟨by rw [hholder, hname, h.2], .inl ⟨by rw [hholder, hname], h.1.symm⟩⟩
    | some holder =>
      simp only [hname, Except.ok.injEq, Prod.mk.injEq] at h
      exact ⟨by rw [hholder, hname, h.2],
        .inr ⟨holder, by rw [hholder, hname], h.1.symm⟩⟩

/-- Every item that exists can be taken out. -/
theorem exists_remove (h : (world.item? key).isSome = true) :
    ∃ removed, world.remove key = .ok (removed, world.holder? key) := by
  obtain ⟨item, hitem⟩ := Option.isSome_iff_exists.mp h
  unfold remove tryRemove holder?
  cases hname : item.holder <;> simp [hitem, hname, accepted]

/-- An item is taken out, or the world stays as it is. -/
theorem tryRemove_cases (world : World) (key : ItemKey) :
    (∃ removed, world.remove key = .ok (removed, world.holder? key) ∧
      world.tryRemove key = (removed, .ok (world.holder? key))) ∨
      world.item? key = none ∧ world.tryRemove key = (world, .error (.itemNotFound key)) := by
  cases hitem : world.item? key with
  | none => exact .inr ⟨rfl, by simp [tryRemove, hitem]⟩
  | some item =>
    obtain ⟨removed, hremove⟩ := exists_remove (Option.isSome_of_eq_some hitem)
    exact .inl ⟨removed, hremove, accepted_eq_ok_iff.mp hremove⟩

theorem length_items_remove (h : world.remove key = .ok (changed, previous)) :
    changed.items.length = world.items.length := by
  obtain ⟨-, -, ⟨-, rfl⟩ | ⟨holder, -, rfl⟩⟩ := remove_cases h <;> simp

theorem player_remove (h : world.remove key = .ok (changed, previous)) :
    changed.player = world.player := by
  obtain ⟨-, -, ⟨-, rfl⟩ | ⟨holder, -, rfl⟩⟩ := remove_cases h
  · rfl
  · exact player_unlist

theorem canList_remove (h : world.remove key = .ok (changed, previous)) (other : Holder) :
    changed.CanList other ↔ world.CanList other := by
  obtain ⟨-, -, ⟨-, rfl⟩ | ⟨holder, -, rfl⟩⟩ := remove_cases h
  · exact canList_modifyItem (fun _ => by rfl) other
  · exact (canList_unlist other).trans (canList_modifyItem (fun _ => by rfl) other)

/-- An item taken out names no holder, and every other item names what it named before. -/
theorem holder?_remove (h : world.remove key = .ok (changed, previous)) (other : ItemKey) :
    changed.holder? other = if other = key then none else world.holder? other := by
  obtain ⟨hknown, -, ⟨-, rfl⟩ | ⟨holder, -, rfl⟩⟩ := remove_cases h
  · rw [holder?_modifyItem_holder, Option.bind_fun_none]
  · rw [holder?_unlist, holder?_modifyItem_holder, Option.bind_fun_none]

/-- Every list loses an item that is taken out. -/
theorem contents_remove (h : world.remove key = .ok (changed, previous)) {other : Holder}
    (hown : world.ListsOwn other) :
    changed.contents other = (world.contents other).filter (· ≠ key) := by
  have hsame : (world.modifyItem key fun item => { item with holder := none }).contents other =
      world.contents other := contents_modifyItem_of_contents _ (fun _ => by rfl) other
  have hother (hne : world.holder? key ≠ some other) :
      (world.contents other).filter (· ≠ key) = world.contents other :=
    filter_ne_of_notMem (hown.notMem hne)
  obtain ⟨-, -, ⟨hnone, rfl⟩ | ⟨holder, hname, rfl⟩⟩ := remove_cases h
  · rw [hsame, hother (by simp [hnone])]
  · rw [contents_unlist, hsame]
    by_cases heq : other = holder
    · rw [if_pos heq]
    · rw [if_neg heq, hother (by rw [hname]; exact fun h => heq (Option.some.inj h).symm)]

/-! ## Putting in -/

/-- An item that is put somewhere is let in there, taken out of where it was, and entered on both
sides. -/
theorem insert_cases (h : world.insert holder key = .ok changed) :
    world.Admits holder key ∧ ∃ removed, world.remove key = .ok (removed, world.holder? key) ∧
      changed = (removed.list key holder).modifyItem key
        fun item => { item with holder := some holder } := by
  rw [insert, map_accepted_eq_ok_iff, tryInsert] at h
  cases hrefusal : world.refusal? holder key with
  | some refusal => simp [hrefusal] at h
  | none =>
    have hadmits := refusal?_eq_none_iff.mp hrefusal
    obtain ⟨removed, hremove⟩ := exists_remove hadmits.known
    simp only [hrefusal, accepted_eq_ok_iff.mp hremove, Prod.mk.injEq, and_true] at h
    exact ⟨hadmits, removed, hremove, h.symm⟩

/-- An item is put into every holder that lets it in. -/
theorem exists_insert (h : world.Admits holder key) :
    ∃ changed, world.insert holder key = .ok changed := by
  obtain ⟨removed, hremove⟩ := exists_remove h.known
  unfold insert tryInsert
  rw [refusal?_eq_none_iff.mpr h]
  simp [accepted_eq_ok_iff.mp hremove, accepted, Except.map]

/-- An item is put into a holder, or the world stays as it is: whatever can be refused is looked at
before anything is changed. -/
theorem tryInsert_eq (world : World) (holder : Holder) (key : ItemKey) :
    world.tryInsert holder key = world.attempt (world.insert holder key) := by
  cases hrefusal : world.refusal? holder key with
  | some refusal => simp [insert, tryInsert, hrefusal, accepted, attempt, Except.map]
  | none =>
    obtain ⟨changed, hinsert⟩ := exists_insert (refusal?_eq_none_iff.mp hrefusal)
    rw [hinsert]
    exact map_accepted_eq_ok_iff.mp hinsert

theorem length_items_insert (h : world.insert holder key = .ok changed) :
    changed.items.length = world.items.length := by
  obtain ⟨-, removed, hremove, rfl⟩ := insert_cases h
  simp [length_items_remove hremove]

/-- Moving an item does not change the player. -/
theorem player_insert (h : world.insert holder key = .ok changed) :
    changed.player = world.player := by
  obtain ⟨-, removed, hremove, rfl⟩ := insert_cases h
  exact player_list.trans (player_remove hremove)

/-- An item put somewhere names its new holder, and every other item what it named before. -/
theorem holder?_insert (h : world.insert holder key = .ok changed) (other : ItemKey) :
    changed.holder? other = if other = key then some holder else world.holder? other := by
  obtain ⟨hadmits, removed, hremove, rfl⟩ := insert_cases h
  rw [holder?_modifyItem_holder, holder?_list, holder?_remove hremove]
  by_cases heq : other = key
  · have hknown : ((removed.list key holder).item? key).isSome = true := by
      rw [isSome_item?_iff, length_items_list, length_items_remove hremove, ← isSome_item?_iff]
      exact hadmits.known
    obtain ⟨item, hitem⟩ := Option.isSome_iff_exists.mp hknown
    rw [if_pos heq, if_pos heq, hitem]
    rfl
  · rw [if_neg heq, if_neg heq, if_neg heq]

/-- Every list loses an item that is put somewhere, and the new holder gets it at the end of its
list. -/
theorem contents_insert (h : world.insert holder key = .ok changed) {other : Holder}
    (hown : world.ListsOwn other) :
    changed.contents other =
      (world.contents other).filter (· ≠ key) ++ if other = holder then [key] else [] := by
  obtain ⟨hadmits, removed, hremove, rfl⟩ := insert_cases h
  have hsame : ((removed.list key holder).modifyItem key
      fun item => { item with holder := some holder }).contents other =
        (removed.list key holder).contents other :=
    contents_modifyItem_of_contents _ (fun _ => by rfl) other
  rw [hsame, contents_list ((canList_remove hremove holder).mpr hadmits.canList),
    contents_remove hremove hown]
  by_cases heq : other = holder
  · rw [if_pos heq, if_pos heq]
    subst heq
    cases other with
    | location id => rfl
    | inventory id => rfl
    | item outer =>
      have hempty : (world.contents (.item outer)).filter (· ≠ key) = [] := by
        refine List.filter_eq_nil_iff.mpr fun listed hlisted => ?_
        simp [hadmits.free outer rfl listed hlisted]
      rw [hempty]
      rfl
  · rw [if_neg heq, if_neg heq, List.append_nil]

/-- Another list that does not have the item stays as it is. -/
theorem contents_insert_of_apart (h : world.insert holder key = .ok changed) {other : Holder}
    (hown : world.ListsOwn other) (hne : other ≠ holder) (hmem : key ∉ world.contents other) :
    changed.contents other = world.contents other := by
  rw [contents_insert h hown, if_neg hne, List.append_nil, filter_ne_of_notMem hmem]

/-- What is taken out for good is no longer worn and then taken out. -/
theorem destroy_cases (h : world.destroy key = .ok changed) :
    ∃ previous, (world.modifyItem key (·.withWorn false)).remove key = .ok (changed, previous) := by
  rw [destroy, map_accepted_eq_ok_iff, tryDestroy] at h
  rcases tryRemove_cases (world.modifyItem key (·.withWorn false)) key with
    ⟨removed, hremove, htry⟩ | ⟨-, htry⟩
  · simp only [htry, Prod.mk.injEq] at h
    exact ⟨_, h.1 ▸ hremove⟩
  · simp [htry, Except.map] at h

/-- Every item that exists can be taken out for good. -/
theorem exists_destroy (h : (world.item? key).isSome = true) :
    ∃ changed, world.destroy key = .ok changed := by
  have hknown : ((world.modifyItem key (·.withWorn false)).item? key).isSome = true := by
    rw [isSome_item?_modifyItem, h]
  obtain ⟨removed, hremove⟩ := exists_remove hknown
  unfold destroy tryDestroy
  simp [accepted_eq_ok_iff.mp hremove, accepted, Except.map]

/-- An item is taken out for good, or the world stays as it is. -/
theorem tryDestroy_eq (world : World) (key : ItemKey) :
    world.tryDestroy key = world.attempt (world.destroy key) := by
  cases hitem : world.item? key with
  | none =>
    have hsame : world.modifyItem key (·.withWorn false) = world :=
      world.modifyItem_of_missing hitem _
    have htry : world.tryRemove key = (world, .error (.itemNotFound key)) := by
      simp [tryRemove, hitem]
    simp [destroy, tryDestroy, hsame, htry, accepted, attempt, Except.map]
  | some item =>
    obtain ⟨changed, hdestroy⟩ := exists_destroy (Option.isSome_of_eq_some hitem)
    rw [hdestroy]
    exact map_accepted_eq_ok_iff.mp hdestroy

theorem length_items_destroy (h : world.destroy key = .ok changed) :
    changed.items.length = world.items.length := by
  obtain ⟨previous, hremove⟩ := destroy_cases h
  rw [length_items_remove hremove, length_items_modifyItem]

theorem player_destroy (h : world.destroy key = .ok changed) : changed.player = world.player := by
  obtain ⟨previous, hremove⟩ := destroy_cases h
  rw [player_remove hremove]
  rfl

theorem holder?_destroy (h : world.destroy key = .ok changed) (other : ItemKey) :
    changed.holder? other = if other = key then none else world.holder? other := by
  obtain ⟨previous, hremove⟩ := destroy_cases h
  rw [holder?_remove hremove, holder?_modifyItem_withWorn]

theorem contents_destroy (h : world.destroy key = .ok changed) {other : Holder}
    (hown : world.ListsOwn other) :
    changed.contents other = (world.contents other).filter (· ≠ key) := by
  obtain ⟨previous, hremove⟩ := destroy_cases h
  rw [contents_remove hremove, contents_modifyItem_withWorn]
  intro listed hlisted
  rw [contents_modifyItem_withWorn] at hlisted
  rw [holder?_modifyItem_withWorn]
  exact hown listed hlisted

/-! ## Copying -/

/-- A slot is that of a copy of an item that is no longer anywhere, so that the next copy of the
item may take it. -/
def IsSpentCopy (world : World) (key slot : ItemKey) : Prop :=
  ∃ spent, world.item? slot = some spent ∧ spent.copyOf = some key ∧ spent.holder = none

/-- A copy is empty and nowhere. It takes the slot of a spent copy of the item, or the next slot if
there is none. -/
theorem copyItem_cases {copy : ItemKey} (h : world.copyItem key = .ok (changed, copy)) :
    ∃ item, world.item? key = some item ∧
      let made := { item.withContents none with holder := none, copyOf := some key }
      (world.IsSpentCopy key copy ∧ changed = (world.modifyItem copy fun _ => made) ∨
        (∀ slot, ¬ world.IsSpentCopy key slot) ∧ copy = world.nextKey ∧
          changed = { world with items := world.items ++ [made] }) := by
  rw [copyItem, accepted_eq_ok_iff] at h
  unfold tryCopyItem at h
  split at h
  · cases h
  · rename_i item hitem
    refine ⟨item, hitem, ?_⟩
    simp only [] at h
    split at h
    · rename_i slot spent hfind
      simp only [Except.ok.injEq, Prod.mk.injEq] at h
      obtain ⟨rfl, rfl⟩ := h
      have hspent := mem_keyedItems.mp (List.mem_of_find?_eq_some hfind)
      have hprop := List.find?_some hfind
      simp only [Item.isSpent, Bool.and_eq_true, beq_iff_eq, Option.isNone_iff_eq_none] at hprop
      exact .inl ⟨⟨spent, hspent, hprop.1, hprop.2.2⟩, rfl⟩
    · rename_i hfind
      simp only [Except.ok.injEq, Prod.mk.injEq] at h
      obtain ⟨rfl, rfl⟩ := h
      refine .inr ⟨?_, rfl, rfl⟩
      rintro slot ⟨spent, hspent, hcopy, hholder⟩
      have hnot := List.find?_eq_none.mp hfind (slot, spent) (mem_keyedItems.mpr hspent)
      simp [Item.isSpent, hcopy, hholder] at hnot

/-- An item is copied, or the world stays as it is. -/
theorem tryCopyItem_cases (world : World) (key : ItemKey) :
    (∃ copied copy, world.copyItem key = .ok (copied, copy) ∧
      world.tryCopyItem key = (copied, .ok copy)) ∨
      world.item? key = none ∧ world.tryCopyItem key = (world, .error (.itemNotFound key)) := by
  cases hitem : world.item? key with
  | none => exact .inr ⟨rfl, by simp [tryCopyItem, hitem]⟩
  | some item =>
    obtain ⟨copied, copy, htry⟩ : ∃ copied copy, world.tryCopyItem key = (copied, .ok copy) := by
      simp only [tryCopyItem, hitem]
      split
      · exact ⟨_, _, rfl⟩
      · exact ⟨_, _, rfl⟩
    exact .inl ⟨copied, copy, accepted_eq_ok_iff.mpr htry, htry⟩

/-- What a holder takes is copied, and then the copy is put in, which may be refused. -/
theorem copyInto_eq {copied : World} {copy : ItemKey} (hadmits : world.Admits holder key)
    (hcopy : world.copyItem key = .ok (copied, copy)) :
    world.copyInto holder key = match copied.insert holder copy with
      | .ok filled => (filled, .ok copy)
      | .error refusal => (copied, .error refusal) := by
  have htry := accepted_eq_ok_iff.mp hcopy
  simp only [copyInto, refusal?_eq_none_iff.mpr hadmits, htry, tryInsert_eq]
  cases copied.insert holder copy <;> rfl

/-- What a holder does not take is not copied into it. -/
theorem copyInto_refused_or_admits (world : World) (holder : Holder) (key : ItemKey) :
    (∃ refusal, world.copyInto holder key = (world, .error refusal)) ∨
      world.Admits holder key ∧ ∃ copied copy, world.copyItem key = .ok (copied, copy) := by
  cases hrefusal : world.refusal? holder key with
  | some refusal => exact .inl ⟨refusal, by simp [copyInto, hrefusal]⟩
  | none =>
    have hadmits := refusal?_eq_none_iff.mp hrefusal
    rcases tryCopyItem_cases world key with ⟨copied, copy, hcopy, -⟩ | ⟨hmissing, -⟩
    · exact .inr ⟨hadmits, copied, copy, hcopy⟩
    · have hknown := hadmits.known
      rw [hmissing] at hknown
      cases hknown

variable {copy : ItemKey}

/-- Copying an item leaves the holders that items name as they are. -/
theorem holder?_copyItem (h : world.copyItem key = .ok (changed, copy)) (other : ItemKey) :
    changed.holder? other = world.holder? other := by
  obtain ⟨item, hitem, ⟨⟨spent, hspent, -, hnowhere⟩, rfl⟩ | ⟨-, rfl, rfl⟩⟩ := copyItem_cases h
  · unfold holder?
    rw [item?_modifyItem]
    by_cases heq : other = copy
    · subst heq
      simp [hspent, hnowhere]
    · rw [if_neg heq]
  · unfold holder?
    rw [item?_append]
    by_cases heq : other = world.nextKey
    · subst heq
      simp
    · rw [if_neg heq]

/-- Nothing is in a slot that a copy has just taken; all other holders list what they listed. -/
theorem contents_copyItem (h : world.copyItem key = .ok (changed, copy)) (other : Holder) :
    changed.contents other = if other = .item copy then [] else world.contents other := by
  obtain ⟨item, hitem, ⟨⟨spent, hspent, -, -⟩, rfl⟩ | ⟨-, rfl, rfl⟩⟩ := copyItem_cases h
  · cases other with
    | location id => rfl
    | inventory id => rfl
    | item outer =>
      simp only [contents_item, item?_modifyItem, Holder.item.injEq]
      by_cases heq : outer = copy
      · subst heq
        rw [if_pos rfl, if_pos rfl, hspent]
        simp [Item.contents, Item.withContents]
      · rw [if_neg heq, if_neg heq]
  · cases other with
    | location id => rfl
    | inventory id => rfl
    | item outer =>
      simp only [contents_item, item?_append, Holder.item.injEq]
      by_cases heq : outer = world.nextKey
      · subst heq
        rw [if_pos rfl, if_pos rfl]
        simp [Item.contents, Item.withContents]
      · rw [if_neg heq, if_neg heq]

/-- Making a copy does not change the player. -/
theorem player_copyItem (h : world.copyItem key = .ok (changed, copy)) :
    changed.player = world.player := by
  obtain ⟨item, -, ⟨-, rfl⟩ | ⟨-, -, rfl⟩⟩ := copyItem_cases h <;> rfl

/-- Which slot a copy takes does not depend on the player. -/
theorem copyItem_modifyPlayer {f : Player → Player}
    (h : (world.modifyPlayer f).copyItem key = .ok (changed, copy)) :
    ∃ copied, world.copyItem key = .ok (copied, copy) := by
  unfold copyItem tryCopyItem at h ⊢
  have hitem : (world.modifyPlayer f).item? key = world.item? key := rfl
  have hitems : (world.modifyPlayer f).keyedItems = world.keyedItems := rfl
  rw [hitem, hitems] at h
  cases hfound : world.item? key with
  | none => simp [hfound, accepted] at h
  | some item =>
    simp only [hfound] at h ⊢
    split at h <;> simp_all [accepted, nextKey, modifyPlayer]

/-- A copy is nowhere at first. -/
theorem holder?_copy (h : world.copyItem key = .ok (changed, copy)) :
    world.holder? copy = none := by
  obtain ⟨item, hitem, ⟨⟨spent, hspent, -, hnowhere⟩, -⟩ | ⟨-, rfl, -⟩⟩ := copyItem_cases h
  · simp [holder?, hspent, hnowhere]
  · simp [holder?]

/-- Copying makes no item disappear. -/
theorem length_items_copyItem (h : world.copyItem key = .ok (changed, copy)) :
    world.items.length ≤ changed.items.length := by
  obtain ⟨item, hitem, ⟨-, rfl⟩ | ⟨-, rfl, rfl⟩⟩ := copyItem_cases h <;> simp

end Adventure.World
