import Adventure.Proofs.World.Rest
import Adventure.World.Weight

/-!
# What things weigh

An item is weighed together with what it holds, and while it is worn neither counts. Here weights
are summed without a limit, and it is told which items are looked at for that and what becomes of
the sum when one of them is moved or taken off. Up to the limit of counting the sums agree with the
weights that are counted.
-/

namespace Adventure

/-! ## Sums of counts -/

namespace Count

/-- A sum that starts over beyond the limit is the rest of the whole sum. -/
theorem foldl_mod (counts : List Nat) (start : Nat) :
    counts.foldl (fun total count => (total + count) % (limit + 1)) (start % (limit + 1)) =
      (start + counts.sum) % (limit + 1) := by
  induction counts generalizing start with
  | nil => rfl
  | cons count rest ih =>
    rw [List.foldl_cons, Nat.mod_add_mod, ih, List.sum_cons, Nat.add_assoc]

/-- Up to the limit, the sum of a list of counts is their sum. -/
theorem total_of_le {counts : List Nat} (h : counts.sum ≤ limit) : total counts = counts.sum := by
  have hmod := foldl_mod counts 0
  rw [Nat.zero_mod, Nat.zero_add, Nat.mod_eq_of_lt (Nat.lt_succ_of_le h)] at hmod
  exact hmod

end Count

namespace World

variable {world changed : World} {holder : Holder} {key inner other : ItemKey}

/-! ## What is looked at when something is weighed -/

/-- The items that are looked at when an item is weighed, down to `depth` items: the item itself
and, unless it is worn, what it holds. -/
def weighedWithin (world : World) : Nat → ItemKey → List ItemKey
  | 0, _ => []
  | depth + 1, key =>
    match world.item? key with
    | none => []
    | some item =>
      key :: if item.isWorn then []
        else match item.contents with
          | none => []
          | some inner => world.weighedWithin depth inner

/-- The items that are looked at when an item is weighed. -/
def weighed (world : World) (key : ItemKey) : List ItemKey :=
  world.weighedWithin world.items.length key

/-- What an item weighs apart from what it holds. -/
def share (world : World) (key : ItemKey) : Nat := if world.isWorn key then 0 else world.size key

/-- The weight of an item with what it holds, summed without a limit. -/
def load (world : World) (key : ItemKey) : Nat := ((world.weighed key).map world.share).sum

/-- What an item with what it holds would weigh if the item were not worn. -/
def bareLoad (world : World) (key : ItemKey) : Nat :=
  world.size key + ((world.contents (.item key)).map world.load).sum

/-- Whether what is put into a holder adds to the weight of an item: the holder is looked at when
the item is weighed, and not worn. -/
def leadsTo (world : World) (outer : ItemKey) : Holder → Bool
  | .item container => (world.weighed outer).contains container && !world.isWorn container
  | _ => false

/-- A container holds one item at most. -/
theorem contents_item_cases (world : World) (key : ItemKey) :
    world.contents (.item key) = [] ∨ ∃ inner, world.contents (.item key) = [inner] := by
  rw [contents_item]
  cases (world.item? key).bind (·.contents) with
  | none => exact .inl rfl
  | some inner => exact .inr ⟨inner, rfl⟩

section Inward

variable (hpacked : world.Packed)
include hpacked

/-- From every item the way inward ends. -/
theorem inward : WellFounded fun inner outer => world.Contains outer inner := by
  have hown : world.ContainersOwn := fun outer => hpacked.own (.item outer)
  refine Subrelation.wf ?_ (measure (reach world.Contains world.items.length)).wf
  exact fun hcontains =>
    reach_lt slot_lt_of_contains (hpacked.nested.acyclic_contains hown) hcontains

/-- Looking further inward than there are items to look at makes no difference. -/
theorem weighedWithin_succ {depth : Nat}
    (h : reach world.Contains world.items.length key ≤ depth) :
    world.weighedWithin (depth + 1) key = world.weighedWithin depth key := by
  have hown : world.ContainersOwn := fun outer => hpacked.own (.item outer)
  induction depth generalizing key with
  | zero =>
    have hmissing := item?_eq_none_of_reach (Nat.le_zero.mp h)
    simp [weighedWithin, hmissing]
  | succ depth ih =>
    rw [weighedWithin, weighedWithin]
    cases hitem : world.item? key with
    | none => rfl
    | some item =>
      dsimp only
      split
      · rfl
      · cases hcontents : item.contents with
        | none => rfl
        | some inner =>
          dsimp only
          rw [ih (reach_contents hpacked.nested hown h hitem hcontents)]

theorem weighed_eq (key : ItemKey) : world.weighed key =
    if (world.item? key).isSome then
      key :: if world.isWorn key then [] else (world.contents (.item key)).flatMap world.weighed
    else [] := by
  rw [weighed, ← weighedWithin_succ hpacked (reach_le key), weighedWithin]
  cases hitem : world.item? key with
  | none => rfl
  | some item =>
    simp only [Option.isSome_some, if_true, isWorn, hitem, Option.any_some, contents_item,
      Option.bind_some]
    cases item.contents <;> simp [weighed]

/-- An item that is not there has nothing to weigh. -/
theorem weighed_of_missing (h : (world.item? key).isSome = false) : world.weighed key = [] := by
  rw [weighed_eq hpacked, h]
  rfl

/-- Nothing inside a worn item is looked at. -/
theorem weighed_of_worn (h : world.isWorn key = true) : world.weighed key = [key] := by
  obtain ⟨item, hitem, -⟩ := exists_item?_of_isWorn h
  rw [weighed_eq hpacked, hitem, h]
  rfl

theorem weighed_of_unworn (hitem : (world.item? key).isSome = true)
    (h : world.isWorn key = false) :
    world.weighed key = key :: (world.contents (.item key)).flatMap world.weighed := by
  rw [weighed_eq hpacked, hitem, h]
  rfl

theorem load_of_worn (h : world.isWorn key = true) : world.load key = 0 := by
  rw [load, weighed_of_worn hpacked h]
  simp [share, h]

theorem load_of_unworn (h : world.isWorn key = false) : world.load key = world.bareLoad key := by
  unfold bareLoad
  cases hitem : (world.item? key).isSome with
  | false =>
    rw [load, weighed_of_missing hpacked hitem]
    simp only [Option.isSome_eq_false_iff, Option.isNone_iff_eq_none] at hitem
    simp [size, contents_item, hitem]
  | true =>
    rw [load, weighed_of_unworn hpacked hitem h, List.map_cons, List.sum_cons, share, h]
    rcases world.contents_item_cases key with hcontents | ⟨inner, hcontents⟩
    · simp [hcontents]
    · simp [hcontents, load]

/-- What an item contains is inside it, and so is what comes along with its contents. -/
theorem within_of_contents (hinner : inner ∈ world.contents (.item key))
    (h : world.within inner other = true) : world.encloses key other = true := by
  have hinside : world.encloses key inner = true := by
    rw [encloses_of_item hpacked.nested (hpacked.own _ inner hinner)]
    simp
  exact encloses_trans hpacked.nested hinside h

/-- What is looked at comes along with the item that is weighed. -/
theorem within_of_weighed (h : other ∈ world.weighed key) : world.within key other = true := by
  induction key using (inward hpacked).induction with
  | _ key ih =>
    rw [weighed_eq hpacked] at h
    split at h
    · rcases List.mem_cons.mp h with rfl | hlater
      · exact within_self _ _
      · split at hlater
        · cases hlater
        · obtain ⟨inner, hinner, hmem⟩ := List.mem_flatMap.mp hlater
          exact within_of_encloses (within_of_contents hpacked hinner (ih inner hinner hmem))
    · cases h

/-- An item that is there is looked at when it is weighed itself. -/
theorem mem_weighed_self (h : (world.item? key).isSome = true) : key ∈ world.weighed key := by
  rw [weighed_eq hpacked, h]
  exact List.mem_cons_self

/-- Of other items than itself, those are looked at that are looked at when its contents are
weighed. -/
theorem mem_weighed_iff (hworn : world.isWorn key = false) (hne : other ≠ key) :
    other ∈ world.weighed key ↔
      ∃ inner ∈ world.contents (.item key), other ∈ world.weighed inner := by
  cases hitem : (world.item? key).isSome with
  | true => simp [weighed_of_unworn hpacked hitem hworn, hne]
  | false =>
    rw [weighed_of_missing hpacked hitem]
    simp only [Option.isSome_eq_false_iff, Option.isNone_iff_eq_none] at hitem
    simp [contents_item, hitem]

/-- What is put into an item that is not worn adds to its weight. -/
theorem leadsTo_self (hitem : (world.item? key).isSome = true) (hworn : world.isWorn key = false) :
    world.leadsTo key (.item key) = true := by
  simp [leadsTo, hworn, mem_weighed_self hpacked hitem]

/-- What is put into anything else adds to the weight of an item as it adds to that of its
contents. -/
theorem leadsTo_of_unworn (hworn : world.isWorn key = false) (hne : .item key ≠ holder) :
    world.leadsTo key holder = (world.contents (.item key)).any (world.leadsTo · holder) := by
  cases holder with
  | location id => simp [leadsTo]
  | inventory id => simp [leadsTo]
  | item container =>
    have hother : container ≠ key := fun heq => hne (heq ▸ rfl)
    rw [Bool.eq_iff_iff, List.any_eq_true]
    simp only [leadsTo, Bool.and_eq_true, List.contains_iff_mem,
      mem_weighed_iff hpacked hworn hother]
    exact ⟨fun ⟨⟨inner, hinner, hmem⟩, h⟩ => ⟨inner, hinner, hmem, h⟩,
      fun ⟨inner, hinner, hmem, h⟩ => ⟨⟨inner, hinner, hmem⟩, h⟩⟩

/-- What is put into anything does not add to the weight of a worn item. -/
theorem leadsTo_of_worn (hworn : world.isWorn key = true) : world.leadsTo key holder = false := by
  cases holder with
  | location id => rfl
  | inventory id => rfl
  | item container =>
    rw [leadsTo, weighed_of_worn hpacked hworn]
    by_cases heq : container = key
    · simp [heq, hworn]
    · simp [heq]

end Inward

/-- What an item weighs apart from what it holds is part of what it weighs. -/
theorem share_le_load (hpacked : world.Packed) (key : ItemKey) :
    world.share key ≤ world.load key := by
  rw [share]
  cases hworn : world.isWorn key with
  | true => exact Nat.zero_le _
  | false =>
    rw [load_of_unworn hpacked hworn, bareLoad]
    exact Nat.le_add_right _ _

/-! ## Things that are left alone -/

section Player

variable {f : Player → Player}

theorem weighedWithin_modifyPlayer (depth : Nat) (key : ItemKey) :
    (world.modifyPlayer f).weighedWithin depth key = world.weighedWithin depth key := by
  induction depth generalizing key with
  | zero => rfl
  | succ depth ih =>
    simp only [weighedWithin, ih]
    rfl

/-- No change of the player changes what is looked at. -/
@[simp] theorem weighed_modifyPlayer (key : ItemKey) :
    (world.modifyPlayer f).weighed key = world.weighed key :=
  weighedWithin_modifyPlayer world.items.length key

@[simp] theorem share_modifyPlayer (key : ItemKey) :
    (world.modifyPlayer f).share key = world.share key := rfl

/-- No change of the player changes a weight. -/
@[simp] theorem load_modifyPlayer (key : ItemKey) :
    (world.modifyPlayer f).load key = world.load key := by
  rw [load, weighed_modifyPlayer, load]
  rfl

@[simp] theorem bareLoad_modifyPlayer (key : ItemKey) :
    (world.modifyPlayer f).bareLoad key = world.bareLoad key := by
  rw [bareLoad, funext load_modifyPlayer, bareLoad]
  rfl

end Player

section Alike

variable (hpacked : world.Packed) (hafter : changed.Packed)
  (halike : ∀ other, world.within key other = true →
    changed.contents (.item other) = world.contents (.item other) ∧
      changed.body? other = world.body? other)
include hpacked hafter halike

/-- As long as nothing is done to what comes along with an item, the same is looked at when it is
weighed. -/
theorem weighed_congr : changed.weighed key = world.weighed key := by
  induction key using (inward hpacked).induction with
  | _ key ih =>
    obtain ⟨hcontents, hbody⟩ := halike key (within_self _ _)
    rw [weighed_eq hafter, weighed_eq hpacked, isSome_item?_congr hbody, isWorn_congr hbody,
      hcontents]
    congr 3
    refine List.flatMap_congr fun inner hinner => ih inner hinner fun other hother => ?_
    exact halike other (within_of_encloses (within_of_contents hpacked hinner hother))

/-- An item weighs the same as long as nothing is done to what comes along with it. -/
theorem load_congr : changed.load key = world.load key := by
  rw [load, weighed_congr hpacked hafter halike, load]
  congr 1
  refine List.map_congr_left fun other hother => ?_
  have hbody := (halike other (within_of_weighed hpacked hother)).2
  rw [share, isWorn_congr hbody, size_congr hbody, share]

end Alike

/-! ## Moving something -/

/-- An item that does not enclose the moved one weighs what it did as long as nothing inside it gets
to hold the moved one. -/
theorem load_of_apart (hpacked : world.Packed) (hafter : changed.Packed)
    (hbody : ∀ inner, changed.body? inner = world.body? inner)
    (hlists : ∀ inner, world.within other inner = true → key ∉ world.contents (.item inner) →
      changed.contents (.item inner) = world.contents (.item inner))
    (hapart : world.encloses other key = false) : changed.load other = world.load other := by
  refine load_congr hpacked hafter fun inner hinner => ⟨hlists inner hinner fun hmem => ?_, hbody _⟩
  have hnear : world.encloses inner key = true :=
    within_of_contents hpacked hmem (within_self world key)
  rcases Bool.or_eq_true_iff.mp hinner with heq | hinside
  · rw [eq_of_beq heq, hapart] at hnear
    cases hnear
  · rw [encloses_trans hpacked.nested hinside (within_of_encloses hnear)] at hapart
    cases hapart

/-- Taking an item out makes no difference to what does not enclose it. -/
theorem load_remove (hpacked : world.Packed) {previous : Option Holder}
    (h : world.remove key = .ok (changed, previous)) (hapart : world.encloses other key = false) :
    changed.load other = world.load other :=
  load_of_apart hpacked (hpacked.move (.remove h)) (body?_remove h)
    (fun _ _ hmem => (contents_remove h (hpacked.own _)).trans (filter_ne_of_notMem hmem)) hapart

section Insert

variable (hpacked : world.Packed) (h : world.insert holder key = .ok changed)
include hpacked h

/-- Putting an item somewhere makes no difference to what encloses it neither before nor after. -/
theorem load_insert_of_apart (hapart : world.encloses other key = false)
    (hapart' : changed.encloses other key = false) : changed.load other = world.load other := by
  refine load_of_apart hpacked (hpacked.move (.insert h)) (body?_insert h)
    (fun inner hinner => contents_insert_of_apart h (hpacked.own _) ?_) hapart
  -- If something inside it were the new holder, it would enclose the moved item after the move.
  rintro rfl
  have hmoves := relocates_insert hpacked.nested h
  have hinside : changed.holder? key = some (.item inner) := by
    rw [hmoves.holder, if_pos (List.mem_singleton_self key)]
  have hsame : changed.encloses other inner = world.encloses other inner :=
    hmoves.encloses_of_apart (by simp [within_insert h])
  rw [encloses_of_item hmoves.after hinside, hsame, BEq.comm] at hapart'
  rw [within, hapart'] at hinner
  cases hinner

/-- An item that is put somewhere weighs what it did. -/
theorem load_insert_self : changed.load key = world.load key :=
  load_insert_of_apart hpacked h (encloses_self hpacked.nested key)
    (encloses_self (hpacked.nested.move (.insert h)) key)

/-- Nothing that comes along with the moved item leads to where that is put. -/
theorem not_leadsTo_of_within {inner : ItemKey} (hinner : world.within key inner = true) :
    world.leadsTo inner holder = false := by
  cases holder with
  | location id => rfl
  | inventory id => rfl
  | item container =>
    rw [leadsTo, Bool.and_eq_false_iff]
    refine .inl (Bool.eq_false_iff.mpr fun hmem => ?_)
    have halong := within_of_weighed hpacked (List.contains_iff_mem.mp hmem)
    have hcycle := within_trans hpacked.nested hinner halong
    rw [within_insert h] at hcycle
    cases hcycle

/-- A free container that is not worn takes on the weight of what is put into it. -/
theorem load_insert_host (hempty : world.contents holder = []) {container : ItemKey}
    (hholder : .item container = holder) (hworn : world.isWorn container = false) :
    changed.load container = world.load container + world.load key := by
  subst hholder
  have hlists := contents_insert h (hpacked.own (.item container))
  rw [load_of_unworn (hpacked.move (.insert h)) ((isWorn_insert h container).trans hworn), bareLoad,
    load_of_unworn hpacked hworn, bareLoad, size_congr (body?_insert h container)]
  simp [hlists, hempty, load_insert_self hpacked h]

/-- Every other item weighs what it did, without what the moved item weighed in it and with what it
weighs in it now. -/
theorem load_insert (hempty : ∀ container, holder = .item container →
    world.contents (.item container) = []) (outer : ItemKey) :
    (if outer = key then 0 else changed.load outer) +
        (if key ∈ world.weighed outer then world.load key else 0) =
      world.load outer + if world.leadsTo outer holder then world.load key else 0 := by
  have hafter := hpacked.move (.insert h)
  have hself := mem_weighed_self hpacked (insert_cases h).1.known
  have hapart (inner : ItemKey) (hinner : world.within key inner = true) :
      world.leadsTo inner holder = false := not_leadsTo_of_within hpacked h hinner
  induction outer using (inward hpacked).induction with
  | _ outer ih =>
    by_cases heq : outer = key
    · subst heq
      rw [if_pos rfl, if_pos hself, hapart outer (within_self _ _)]
      simp
    rw [if_neg heq]
    cases hworn : world.isWorn outer with
    | true =>
      rw [load_of_worn hafter ((isWorn_insert h outer).trans hworn), load_of_worn hpacked hworn,
        weighed_of_worn hpacked hworn, leadsTo_of_worn hpacked hworn]
      simp [Ne.symm heq]
    | false =>
      have hlooked := mem_weighed_iff hpacked hworn (Ne.symm heq)
      by_cases hinto : .item outer = holder
      · -- The item gets into the free container that is weighed.
        subst hinto
        have hnone := hempty outer rfl
        have hplace : ((world.item? outer).bind (·.compartment)).isSome = true :=
          (insert_cases h).1.canList
        rw [load_insert_host hpacked h hnone rfl hworn,
          leadsTo_self hpacked (Option.isSome_of_isSome_bind hplace) hworn]
        rw [hnone] at hlooked
        simp [hlooked]
      · rw [load_of_unworn hafter ((isWorn_insert h outer).trans hworn), bareLoad,
          contents_insert h (hpacked.own (.item outer)), size_congr (body?_insert h outer),
          load_of_unworn hpacked hworn, bareLoad, leadsTo_of_unworn hpacked hworn hinto]
        rcases world.contents_item_cases outer with hnone | ⟨inner, hinner⟩
        · rw [hnone] at hlooked
          simp [hnone, hlooked, hinto]
        · rw [hinner] at hlooked
          have hinnerEq := ih inner (by simp [Contains, hinner])
          by_cases hmoved : inner = key
          · subst hmoved
            simp [hinner, hlooked, hinto, hself, hapart inner (within_self _ _)]
          · have hkept : [inner].filter (· ≠ key) = [inner] := by simp [hmoved]
            have hsame : key ∈ world.weighed outer ↔ key ∈ world.weighed inner := by
              simpa using hlooked
            rw [if_neg hmoved] at hinnerEq
            simp only [hinner, hkept, if_neg hinto, hsame, List.append_nil, List.map_cons,
              List.map_nil, List.sum_cons, List.sum_nil, List.any_cons, List.any_nil, Bool.or_false]
            omega

end Insert

/-! ## Taking something off -/

/-- An item is not looked at in what it holds. -/
theorem not_mem_weighed_of_contents (hpacked : world.Packed) {outer inner : ItemKey}
    (hinner : inner ∈ world.contents (.item outer)) : outer ∉ world.weighed inner := by
  intro hmem
  have hcycle := within_of_contents hpacked hinner (within_of_weighed hpacked hmem)
  rw [encloses_self hpacked.nested] at hcycle
  cases hcycle

/-- An item that is taken off weighs again in everything in which it is looked at. -/
theorem load_takeOff (hpacked : world.Packed) (hworn : world.isWorn key = true) (outer : ItemKey) :
    (world.modifyItem key (·.withWorn false)).load outer =
      world.load outer + if key ∈ world.weighed outer then world.bareLoad key else 0 := by
  obtain ⟨changed, hchanged⟩ : ∃ changed, world.modifyItem key (·.withWorn false) = changed :=
    ⟨_, rfl⟩
  have hafter : changed.Packed := hchanged ▸ hpacked.withWorn key false
  have hlists (holder : Holder) : changed.contents holder = world.contents holder := by
    rw [← hchanged, contents_modifyItem_withWorn]
  have hoff (other : ItemKey) : changed.isWorn other = (other != key && world.isWorn other) := by
    rw [← hchanged, isWorn_modifyItem_withWorn_false]
  have hsize (other : ItemKey) : changed.size other = world.size other := by
    rw [← hchanged, size_modifyItem_withWorn]
  rw [hchanged]
  induction outer using (inward hpacked).induction with
  | _ outer ih =>
    by_cases heq : outer = key
    · subst heq
      obtain ⟨item, hitem, -⟩ := exists_item?_of_isWorn hworn
      have hinside : (world.contents (.item outer)).map changed.load =
          (world.contents (.item outer)).map world.load := by
        refine List.map_congr_left fun inner hinner => ?_
        rw [ih inner hinner, if_neg (not_mem_weighed_of_contents hpacked hinner), Nat.add_zero]
      rw [load_of_unworn hafter (by simp [hoff]), bareLoad, hlists, hsize, hinside,
        load_of_worn hpacked hworn, if_pos (mem_weighed_self hpacked (by simp [hitem])),
        Nat.zero_add, bareLoad]
    · have hsame : changed.isWorn outer = world.isWorn outer := by simp [hoff, heq]
      cases hlight : world.isWorn outer with
      | true =>
        rw [load_of_worn hafter (hsame.trans hlight), load_of_worn hpacked hlight,
          weighed_of_worn hpacked hlight]
        simp [Ne.symm heq]
      | false =>
        have hlooked := mem_weighed_iff hpacked hlight (Ne.symm heq)
        rw [load_of_unworn hafter (hsame.trans hlight), load_of_unworn hpacked hlight, bareLoad,
          bareLoad, hlists, hsize]
        rcases world.contents_item_cases outer with hnone | ⟨inner, hinner⟩
        · rw [hnone] at hlooked
          simp [hnone, hlooked]
        · rw [hinner] at hlooked
          have hinside := ih inner (by simp [Contains, hinner])
          simp only [hinner, hlooked, List.map_cons, List.map_nil, List.sum_cons, List.sum_nil,
            List.mem_singleton, exists_eq_left, hinside]
          omega

/-! ## Counting up to the limit -/

/-- An item is counted to weigh what it weighs without a limit, or both are at the limit or beyond
it. -/
theorem WeighingEnds.eq_or_limit_le (hpacked : world.Packed) {weight : Nat}
    (h : world.WeighingEnds key weight) :
    weight = world.load key ∨ Count.limit ≤ weight ∧ Count.limit < world.load key := by
  induction h with
  | missing h =>
    rw [load, weighed_of_missing hpacked (by simp [h])]
    exact .inl rfl
  | worn h hworn => exact .inl (load_of_worn hpacked (by simp [isWorn, h, hworn])).symm
  | empty h hworn hcontents =>
    rw [load_of_unworn hpacked (by simp [isWorn, h, hworn])]
    simp [bareLoad, size, contents_item, h, hcontents]
  | @filled key inner item weight h hworn hcontents hinner ih =>
    have hload : world.load key = item.size + world.load inner := by
      rw [load_of_unworn hpacked (by simp [isWorn, h, hworn])]
      simp [bareLoad, size, contents_item, h, hcontents]
    rw [hload, Count.add]
    omega

/-- An item is counted to weigh what it weighs without a limit, or both are at the limit or beyond
it. -/
theorem weight_eq_or_limit_le (hpacked : world.Packed) (key : ItemKey) :
    world.weight key = world.load key ∨
      Count.limit ≤ world.weight key ∧ Count.limit < world.load key := by
  have hown : world.ContainersOwn := fun outer => hpacked.own (.item outer)
  have hends := (weighingEnds_iff hpacked.nested hown (reach_le key)).mpr
    (rfl : world.weight key = _)
  exact hends.eq_or_limit_le hpacked

/-- Up to the limit of counting, an item weighs as much as without it. -/
theorem min_weight (hpacked : world.Packed) (key : ItemKey) :
    min (world.weight key) Count.limit = min (world.load key) Count.limit := by
  rcases weight_eq_or_limit_le hpacked key with heq | ⟨hweight, hload⟩ <;> omega

/-- What is in an inventory weighs together what each weighs, unless that is beyond the limit of
counting. -/
theorem carriedWeight_of_le {id : InventoryId}
    (h : ((world.contents (.inventory id)).map world.weight).sum ≤ Count.limit) :
    world.carriedWeight id = ((world.contents (.inventory id)).map world.weight).sum := by
  cases hfound : world.inventory? id with
  | none => simp [carriedWeight, contents, hfound]
  | some inventory =>
    have hcontents : world.contents (.inventory id) = inventory.items := by simp [contents, hfound]
    rw [hcontents] at h ⊢
    rw [carriedWeight, hfound]
    exact Count.total_of_le h

end World

end Adventure
