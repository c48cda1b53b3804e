import Adventure.Proofs.World.Moves

/-!
# Copies put into containers

A copy is made before it is put anywhere, so a container that let the item in but refused the copy
would leave a copy behind. That does not happen to a free container that is in some place: the slot
of the copy is that of something nowhere, and what is nowhere encloses nothing that is somewhere.
-/

namespace Adventure.World

variable {world changed : World} {holder : Holder} {key copy container : ItemKey}

/-! ## The end of the way outward -/

/-- What is itself nowhere can only be the last holder on the way outward. -/
theorem getLast?_holdersWithin {outer : ItemKey} {steps : Nat}
    (hmem : .item outer ∈ world.holdersWithin steps key) (hnowhere : world.holder? outer = none) :
    (world.holdersWithin steps key).getLast? = some (.item outer) := by
  induction steps generalizing key with
  | zero => cases hmem
  | succ steps ih =>
    rw [holdersWithin] at hmem ⊢
    cases hholder : world.holder? key with
    | none => simp [hholder] at hmem
    | some holder =>
      cases holder with
      | location id => simp [hholder] at hmem
      | inventory id => simp [hholder] at hmem
      | item next =>
        simp only [hholder, List.mem_cons, Holder.item.injEq] at hmem ⊢
        rcases hmem with rfl | hmem
        · have hend : world.holdersWithin steps outer = [] := by
            cases steps with
            | zero => rfl
            | succ steps => simp [holdersWithin, hnowhere]
          rw [hend]
          rfl
        · rw [List.getLast?_cons, ih hmem]
          rfl

/-- Once the way outward has come to a location or an inventory, further steps lead nowhere. -/
theorem holdersWithin_succ_of_getLast? {steps : Nat}
    (h : (world.holdersWithin steps key).getLast? = some holder)
    (hflat : ∀ outer, holder ≠ .item outer) :
    world.holdersWithin (steps + 1) key = world.holdersWithin steps key := by
  induction steps generalizing key with
  | zero => cases h
  | succ steps ih =>
    rw [holdersWithin] at h
    rw [holdersWithin, holdersWithin]
    cases hholder : world.holder? key with
    | none => rfl
    | some next =>
      cases next with
      | location id => rfl
      | inventory id => rfl
      | item outer =>
        simp only [hholder] at h
        cases hholders : world.holdersWithin steps outer with
        | nil =>
          rw [hholders] at h
          exact absurd (Option.some.inj h).symm (hflat outer)
        | cons first rest =>
          rw [hholders, List.getLast?_cons_cons, ← hholders] at h
          simp only [ih h, hholders]

/-- An item with an outermost holder is on a way outward that ends there. -/
theorem getLast?_holders_of_outermost? (h : world.outermost? key = some holder) :
    (world.holders key).getLast? = some holder ∧ ∀ outer, holder ≠ .item outer := by
  unfold outermost? at h
  split at h
  · cases h
  · cases h
  · rename_i found hnot hlast
    cases h
    exact ⟨hlast, fun outer heq => hnot outer heq⟩

/-- An item that is somewhere is held. -/
theorem holder?_ne_none_of_outermost? (h : (world.outermost? key).isSome = true) :
    world.holder? key ≠ none := by
  intro hnone
  obtain ⟨holder, houter⟩ := Option.isSome_iff_exists.mp h
  obtain ⟨hlast, -⟩ := getLast?_holders_of_outermost? houter
  have hend : world.holders key = [] := by
    unfold holders
    cases world.items.length with
    | zero => rfl
    | succ steps => simp [holdersWithin, hnone]
  rw [hend] at hlast
  cases hlast

/-! ## What a copy leaves alone -/

theorem item?_copyItem (h : world.copyItem key = .ok (changed, copy)) {other : ItemKey}
    (hne : other ≠ copy) : changed.item? other = world.item? other := by
  obtain ⟨item, -, ⟨-, rfl⟩ | ⟨-, rfl, rfl⟩⟩ := copyItem_cases h
  · rw [item?_modifyItem, if_neg hne]
  · rw [item?_append, if_neg hne]

theorem isSome_item?_copy (h : world.copyItem key = .ok (changed, copy)) :
    (changed.item? copy).isSome = true := by
  obtain ⟨item, -, ⟨⟨spent, hspent, -⟩, rfl⟩ | ⟨-, rfl, rfl⟩⟩ := copyItem_cases h
  · rw [isSome_item?_modifyItem, hspent]
    rfl
  · rw [item?_append, if_pos rfl]
    rfl

/-- A fresh copy encloses nothing that is somewhere. -/
theorem encloses_copy (h : world.copyItem key = .ok (changed, copy)) {other : ItemKey}
    (hplace : (world.outermost? other).isSome = true) : changed.encloses copy other = false := by
  obtain ⟨holder, houter⟩ := Option.isSome_iff_exists.mp hplace
  obtain ⟨hlast, hflat⟩ := getLast?_holders_of_outermost? houter
  have hsame : changed.holders other = world.holders other := by
    unfold holders
    rw [holdersWithin_congr world (holder?_copyItem h)]
    obtain ⟨item, -, ⟨-, rfl⟩ | ⟨-, -, rfl⟩⟩ := copyItem_cases h
    · rw [length_items_modifyItem]
    · rw [List.length_append]
      exact holdersWithin_succ_of_getLast? hlast hflat
  unfold encloses
  rw [hsame, Bool.eq_false_iff]
  intro hmem
  have hend := getLast?_holdersWithin (List.contains_iff_mem.mp hmem) (holder?_copy h)
  unfold holders at hlast
  rw [hlast] at hend
  exact hflat copy (Option.some.inj hend)

/-- A free container that is somewhere and lets an item in also lets a copy of it in. -/
theorem Admits.of_copyItem (hadmits : world.Admits (.item container) key)
    (hempty : world.contents (.item container) = [])
    (hplace : (world.outermost? container).isSome = true)
    (h : world.copyItem key = .ok (changed, copy)) : changed.Admits (.item container) copy := by
  have hne : container ≠ copy := by
    rintro rfl
    exact holder?_ne_none_of_outermost? hplace (holder?_copy h)
  refine ⟨isSome_item?_copy h, ?_, ?_, ?_⟩
  · have hcompartment := hadmits.canList
    simp only [CanList] at hcompartment ⊢
    rwa [item?_copyItem h hne]
  · intro outer _ other hother
    rw [contents_copyItem h, hempty, ite_self] at hother
    cases hother
  · rintro _ ⟨⟩
    exact ⟨hne, encloses_copy h hplace⟩

/-- Putting a copy into a free container that is somewhere either is refused at once, and then
nothing has changed, or succeeds. -/
theorem copyInto_outcome (hempty : world.contents (.item container) = [])
    (hplace : (world.outermost? container).isSome = true) :
    (∃ refusal, world.copyInto (.item container) key = (world, .error refusal)) ∨
      ∃ copied copy filled, world.copyItem key = .ok (copied, copy) ∧
        copied.insert (.item container) copy = .ok filled ∧
          world.copyInto (.item container) key = (filled, .ok copy) := by
  rcases copyInto_refused_or_admits world (.item container) key with
    hsame | ⟨hadmits, copied, copy, hcopy⟩
  · exact .inl hsame
  · obtain ⟨filled, hinsert⟩ := exists_insert (hadmits.of_copyItem hempty hplace hcopy)
    exact .inr ⟨copied, copy, filled, hcopy, hinsert, by rw [copyInto_eq hadmits hcopy, hinsert]⟩

/-- A copy that was put into a holder was made first and inserted then. -/
theorem copyInto_ok (h : world.copyInto holder key = (changed, .ok copy)) :
    ∃ copied, world.copyItem key = .ok (copied, copy) ∧
      copied.insert holder copy = .ok changed := by
  rcases copyInto_refused_or_admits world holder key with
    ⟨refusal, hsame⟩ | ⟨hadmits, copied, made, hcopy⟩
  · cases h.symm.trans hsame
  · rw [copyInto_eq hadmits hcopy] at h
    cases hinsert : copied.insert holder made with
    | error refusal =>
      rw [hinsert] at h
      cases h
    | ok filled =>
      rw [hinsert] at h
      cases h
      exact ⟨copied, hcopy, hinsert⟩

end Adventure.World
