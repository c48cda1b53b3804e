import Adventure.Proofs.World.Copies
import Adventure.Proofs.World.Rest

/-!
# Worn things

What is worn should be carried. Being worn goes with the item and being carried with its place, so
whatever moves things may leave something worn behind that is not carried any longer. Here it is
told for each way of moving things exactly when it does so.
-/

namespace Adventure

/-- Whether a place is an inventory. -/
def Holder.isInventory : Holder → Bool
  | inventory _ => true
  | _ => false

namespace World

/-- Whether what is in a place is in an inventory, at any depth. -/
def carriesAt (world : World) (place : Option Holder) : Bool :=
  (world.top? place).any (·.isInventory)

/-- Whether an item is in an inventory, at any depth. -/
def isCarried (world : World) (key : ItemKey) : Bool :=
  (world.outermost? key).any (·.isInventory)

/-- Everything that is worn. -/
def attire (world : World) : List ItemKey :=
  (world.keyedItems.filter fun (_, item) => item.isWorn).map Prod.fst

/-- Everything that is worn is in an inventory, at any depth. -/
def WornCarried (world : World) : Prop :=
  ∀ key, world.isWorn key = true → world.isCarried key = true

variable {world changed : World} {holder : Holder} {key : ItemKey}

/-! ## What is worn -/

theorem mem_attire : key ∈ world.attire ↔ world.isWorn key = true := by
  unfold attire isWorn item? keyedItems
  simp only [List.mem_map, List.mem_filter, Prod.exists, exists_and_right, exists_eq_right]
  constructor
  · rintro ⟨item, ⟨_, _, hmem, heq⟩, hworn⟩
    obtain ⟨rfl, rfl⟩ := Prod.mk.inj heq
    rw [(List.mem_zipIdx_iff_getElem?.mp hmem)]
    exact hworn
  · intro hany
    obtain ⟨item, hitem, hworn⟩ := (Option.any_eq_true _ _).mp hany
    exact ⟨item, ⟨item, key.slot, List.mem_zipIdx_iff_getElem?.mpr hitem, rfl⟩, hworn⟩

/-- Nothing that is worn is of a kind exactly if everything of that kind is not worn. -/
theorem attire_any_eq_false {p : ItemKey → Bool} :
    world.attire.any p = false ↔ ∀ key, world.isWorn key = true → p key = false := by
  rw [List.any_eq_false]
  simp only [mem_attire, Bool.not_eq_true]

/-! ## Moving things -/

theorem top?_congr (h : ∀ key, changed.outermost? key = world.outermost? key)
    (place : Option Holder) : changed.top? place = world.top? place := by
  match place with
  | none => rfl
  | some (.location id) => rfl
  | some (.inventory id) => rfl
  | some (.item outer) => exact h outer

/-- While items are moved to a place and some of them are taken off, something worn is left behind
exactly if the place is not in an inventory and something comes along there that is still worn. -/
theorem Relocates.wornCarried_iff {moved off : List ItemKey} {place : Option Holder}
    (h : Relocates moved place world changed)
    (hworn : ∀ key, changed.isWorn key = (!off.contains key && world.isWorn key))
    (hbefore : world.WornCarried) :
    changed.WornCarried ↔ (!changed.carriesAt place && world.attire.any fun key =>
      !off.contains key && moved.any (world.within · key)) = false := by
  have hcarried (key : ItemKey) : changed.isCarried key =
      if moved.any (world.within · key) then changed.carriesAt place else world.isCarried key := by
    rw [isCarried, h.outermost?]
    split <;> rfl
  cases hplace : changed.carriesAt place with
  | true =>
    refine iff_of_true (fun key hkey => ?_) rfl
    rw [hworn, Bool.and_eq_true] at hkey
    rw [hcarried, hplace, hbefore key hkey.2, ite_self]
  | false =>
    rw [Bool.not_false, Bool.true_and, attire_any_eq_false]
    refine forall_congr' fun key => ?_
    rw [hworn, hcarried, hplace]
    cases hkey : world.isWorn key with
    | false => simp
    | true => cases off.contains key <;> cases moved.any (world.within · key) <;>
        simp [hbefore key hkey]

/-- If no item of a list is inside another one, then what comes along with one of them and is none
of them is what is inside one of them. -/
theorem any_within_of_apart {keys : List ItemKey}
    (hapart : ∀ outer ∈ keys, ∀ inner ∈ keys, world.encloses outer inner = false)
    (other : ItemKey) :
    (!keys.contains other && keys.any (world.within · other)) =
      keys.any (world.encloses · other) := by
  by_cases hmem : other ∈ keys
  · have hnone : keys.any (world.encloses · other) = false :=
      List.any_eq_false.mpr fun outer houter => by simp [hapart outer houter other hmem]
    simp [hmem, hnone]
  · have hne (first : ItemKey) (hfirst : first ∈ keys) : other ≠ first :=
      fun heq => hmem (heq ▸ hfirst)
    rw [List.contains_eq_mem, decide_eq_false hmem, Bool.not_false, Bool.true_and,
      Bool.eq_iff_iff, List.any_eq_true, List.any_eq_true]
    exact exists_congr fun first => and_congr_right fun hfirst => by
      simp [within, hne first hfirst]

/-- What comes along with an item, but is not the item, is inside it. -/
theorem within_and_ne (hnested : world.Nested) (other : ItemKey) :
    (!([key].contains other) && [key].any (world.within · other)) = world.encloses key other := by
  rw [any_within_of_apart (by simp [encloses_self hnested]), List.any_cons, List.any_nil,
    Bool.or_false]

/-- While things stay, what is worn is carried as before. -/
theorem Stays.wornCarried_iff (h : world.Stays changed) (hnested : world.Nested) :
    changed.WornCarried ↔ world.WornCarried := by
  unfold WornCarried isCarried
  simp only [h.worn, h.outermost? hnested]

section Moves

variable (hnested : world.Nested) (hbefore : world.WornCarried)
include hnested hbefore

/-- Nothing worn is left behind when a carried item is put on. -/
theorem wornCarried_putOn (hkey : world.isCarried key = true) :
    (world.modifyItem key (·.withWorn true)).WornCarried := by
  have hmoves := relocates_withWorn hnested key true
  intro other hother
  rw [isCarried, hmoves.outermost?, List.any_nil, if_neg Bool.noConfusion, ← isCarried]
  by_cases heq : other = key
  · rw [heq, hkey]
  · rw [isWorn_eq_body?, body?_modifyItem_withWorn, if_neg heq, ← isWorn_eq_body?] at hother
    exact hbefore other hother

/-- Nothing worn is left behind when an item is taken off. -/
theorem wornCarried_takeOff : (world.modifyItem key (·.withWorn false)).WornCarried := by
  have hmoves := relocates_withWorn hnested key false
  intro other hother
  rw [isCarried, hmoves.outermost?, List.any_nil, if_neg Bool.noConfusion, ← isCarried]
  rw [isWorn_modifyItem_withWorn_false, Bool.and_eq_true] at hother
  exact hbefore other hother.2

/-- Putting an item somewhere leaves something worn behind exactly if the place is not in an
inventory and something worn comes along. -/
theorem wornCarried_insert_iff (h : world.insert holder key = .ok changed) :
    changed.WornCarried ↔
      (!world.carriesAt (some holder) && world.attire.any (world.within key)) = false := by
  have hworn (other : ItemKey) :
      changed.isWorn other = (!([] : List ItemKey).contains other && world.isWorn other) := by
    simp [isWorn_insert h]
  have hplace : changed.carriesAt (some holder) = world.carriesAt (some holder) := by
    rw [carriesAt, top?_insert hnested h, carriesAt]
  rw [(relocates_insert hnested h).wornCarried_iff hworn hbefore, hplace]
  simp

/-- Destroying an item leaves something worn behind exactly if it is inside the item. -/
theorem wornCarried_destroy_iff (h : world.destroy key = .ok changed) :
    changed.WornCarried ↔ world.attire.any (world.encloses key) = false := by
  have hworn (other : ItemKey) :
      changed.isWorn other = (!([key].contains other) && world.isWorn other) := by
    rw [isWorn_destroy h]
    simp [bne, beq_eq_decide]
  rw [(relocates_destroy hnested h).wornCarried_iff hworn hbefore]
  simp only [within_and_ne hnested]
  rfl

/-- Laying an item down that was taken off leaves something worn behind exactly if it is inside the
item. -/
theorem wornCarried_lay_iff {location : LocationId}
    (h : (world.modifyItem key (·.withWorn false)).insert (.location location) key = .ok changed) :
    changed.WornCarried ↔ world.attire.any (world.encloses key) = false := by
  have hworn (other : ItemKey) :
      changed.isWorn other = (!([key].contains other) && world.isWorn other) := by
    rw [isWorn_insert h, isWorn_modifyItem_withWorn_false]
    simp [bne, beq_eq_decide]
  rw [(relocates_insert_withWorn hnested h).wornCarried_iff hworn hbefore]
  simp only [within_and_ne hnested]
  rfl

/-- A copy that is put somewhere is left behind worn exactly if the place is not in an inventory and
the item that was copied is worn. -/
theorem wornCarried_copyInto_iff {slot : ItemKey}
    (h : world.copyInto holder key = (changed, .ok slot)) :
    changed.WornCarried ↔ (!world.carriesAt (some holder) && world.isWorn key) = false := by
  obtain ⟨copied, hcopy, hinsert⟩ := copyInto_ok h
  have hcopied := (relocates_copyItem hnested hcopy).after
  have hsame := outermost?_copyItem hnested hcopy
  have hworn (other : ItemKey) :
      changed.isWorn other = if other = slot then world.isWorn key else world.isWorn other :=
    (isWorn_insert hinsert other).trans (isWorn_copyItem hcopy other)
  have hcarried (other : ItemKey) : changed.isCarried other =
      if copied.within slot other then world.carriesAt (some holder)
      else world.isCarried other := by
    rw [isCarried, outermost?_insert hcopied hinsert, top?_congr hsame, hsame]
    split <;> rfl
  constructor
  · intro hafter
    cases hkey : world.isWorn key with
    | false => rw [Bool.and_false]
    | true =>
      have hslot := hafter slot (by rw [hworn, if_pos rfl, hkey])
      rw [hcarried, within_self, if_pos rfl] at hslot
      rw [hslot]
      rfl
  · intro hstays other hother
    rw [hworn] at hother
    rw [hcarried]
    by_cases heq : other = slot
    · rw [if_pos heq] at hother
      rw [heq, within_self, if_pos rfl]
      simpa [hother] using hstays
    · rw [if_neg heq] at hother
      have hbound := hbefore other hother
      rw [if_neg, hbound]
      -- What is inside the slot of the copy is nowhere, so it was not worn before.
      intro hinside
      have hnowhere : copied.holder? slot = none := by
        rw [holder?_copyItem hcopy, holder?_copy hcopy]
      have houter := outermost?_of_encloses hcopied hinside
      rw [outermost?_eq_top? hcopied slot, hnowhere, hsame] at houter
      rw [isCarried, houter] at hbound
      cases hbound

end Moves

end World

end Adventure
