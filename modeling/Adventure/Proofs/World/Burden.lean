import Adventure.Proofs.World.Copies
import Adventure.Proofs.World.Weighing
import Mathlib.Algebra.Order.BigOperators.Group.List
import Mathlib.Algebra.Order.Group.Nat

/-!
# What inventories have to bear

What the things in an inventory weigh together depends on where everything is and on what is worn.
Here it is told what becomes of that sum when something is moved, copied, put on or taken off. Sums
have no limit here; up to the limit of counting they agree with those that are counted.
-/

namespace Adventure.World

variable {world changed : World} {holder : Holder} {key inner other : ItemKey} {id : InventoryId}

/-- The weight of everything in an inventory, summed without a limit. -/
def carriedLoad (world : World) (id : InventoryId) : Nat :=
  ((world.contents (.inventory id)).map world.load).sum

/-- Whether an item is looked at when everything in an inventory is weighed. -/
def isWeighed (world : World) (id : InventoryId) (key : ItemKey) : Bool :=
  (world.contents (.inventory id)).any fun outer => (world.weighed outer).contains key

/-- Whether what is put into a holder adds to the weight of what is in an inventory. -/
def bears (world : World) (id : InventoryId) (holder : Holder) : Bool :=
  holder == .inventory id || (world.contents (.inventory id)).any (world.leadsTo · holder)

@[simp] theorem bears_inventory (id into : InventoryId) :
    world.bears id (.inventory into) = (into == id) := by
  rw [Bool.eq_iff_iff]
  simp [bears, leadsTo]

/-- What is put into a container adds to the weight of what is in an inventory if the container is
looked at there and not worn. -/
theorem bears_item (id : InventoryId) (container : ItemKey) :
    world.bears id (.item container) =
      (world.isWeighed id container && !world.isWorn container) := by
  rw [bears, isWeighed, beq_false_of_ne Holder.noConfusion, Bool.false_or, Bool.eq_iff_iff,
    Bool.and_eq_true, List.any_eq_true, List.any_eq_true]
  simp only [leadsTo, Bool.and_eq_true]
  constructor
  · rintro ⟨outer, houter, hmem, hworn⟩
    exact ⟨⟨outer, houter, hmem⟩, hworn⟩
  · rintro ⟨⟨outer, houter, hmem⟩, hworn⟩
    exact ⟨outer, houter, hmem, hworn⟩

section Player

variable {f : Player → Player}

@[simp] theorem carriedLoad_modifyPlayer :
    (world.modifyPlayer f).carriedLoad id = world.carriedLoad id := by
  rw [carriedLoad, funext load_modifyPlayer, carriedLoad]
  rfl

@[simp] theorem isWeighed_modifyPlayer (key : ItemKey) :
    (world.modifyPlayer f).isWeighed id key = world.isWeighed id key := by
  simp only [isWeighed, weighed_modifyPlayer]
  rfl

@[simp] theorem bears_modifyPlayer (container : ItemKey) :
    (world.modifyPlayer f).bears id (.item container) = world.bears id (.item container) := by
  rw [bears_item, isWeighed_modifyPlayer, bears_item]
  rfl

end Player

/-! ## Sums over an inventory -/

/-- A number that one item of a list at most stands for is counted once. -/
theorem sum_once {keys : List ItemKey} {p : ItemKey → Bool} (hnodup : keys.Nodup)
    (honce : ∀ first ∈ keys, ∀ other ∈ keys, p first = true → p other = true → first = other)
    (count : Nat) :
    (keys.map fun key => if p key then count else 0).sum = if keys.any p then count else 0 := by
  induction keys with
  | nil => rfl
  | cons key rest ih =>
    obtain ⟨hfresh, hrest⟩ := List.nodup_cons.mp hnodup
    have hlater := ih hrest fun first hfirst other hother =>
      honce first (List.mem_cons_of_mem _ hfirst) other (List.mem_cons_of_mem _ hother)
    rw [List.map_cons, List.sum_cons, hlater, List.any_cons]
    cases hkey : p key with
    | false => simp
    | true =>
      have hnone : rest.any p = false := by
        rw [List.any_eq_false]
        intro other hother hp
        have heq := honce key List.mem_cons_self other (List.mem_cons_of_mem _ hother) hkey hp
        exact hfresh (heq ▸ hother)
      simp [hnone]

/-- A sum over all items but one leaves out the share of that one. -/
theorem sum_filter_ne (keys : List ItemKey) (key : ItemKey) (count : ItemKey → Nat) :
    ((keys.filter (· ≠ key)).map count).sum =
      (keys.map fun other => if other = key then 0 else count other).sum := by
  induction keys with
  | nil => rfl
  | cons first rest ih =>
    rw [List.map_cons, List.sum_cons, ← ih]
    by_cases heq : first = key
    · simp [heq]
    · simp [heq]

section Inventories

variable (hpacked : world.Packed)
include hpacked

/-- Everything is inside one item of an inventory at most. -/
theorem eq_of_within {first : ItemKey} (hfirst : first ∈ world.contents (.inventory id))
    (hother : other ∈ world.contents (.inventory id)) (h : world.within first key = true)
    (h' : world.within other key = true) : first = other := by
  have hfree (outer inner : ItemKey) (hinner : inner ∈ world.contents (.inventory id)) :
      world.encloses outer inner = false :=
    encloses_of_outside hpacked.nested (by simp [hpacked.own _ inner hinner]) outer
  rcases within_total hpacked.nested h h' with hwithin | hencloses
  · rw [within, hfree first other hother, Bool.or_false] at hwithin
    exact (eq_of_beq hwithin).symm
  · rw [hfree other first hfirst] at hencloses
    cases hencloses

/-- In all of an inventory an item is looked at once at most. -/
theorem sum_weighed (key : ItemKey) (count : Nat) :
    ((world.contents (.inventory id)).map fun outer =>
      if key ∈ world.weighed outer then count else 0).sum =
        if world.isWeighed id key then count else 0 := by
  have honce := hpacked.exclusive.nodup (.inventory id)
  have hsum := sum_once (p := fun outer => (world.weighed outer).contains key) honce
    (fun first hfirst other hother h h' => ?_) count
  · simp only [List.contains_iff_mem] at hsum
    exact hsum
  · exact eq_of_within hpacked hfirst hother
      (within_of_weighed hpacked (List.contains_iff_mem.mp h))
      (within_of_weighed hpacked (List.contains_iff_mem.mp h'))

/-- What is put somewhere adds to the weight of one item of an inventory at most. -/
theorem sum_leadsTo (holder : Holder) (count : Nat) :
    ((world.contents (.inventory id)).map fun outer =>
      if world.leadsTo outer holder then count else 0).sum =
        if (world.contents (.inventory id)).any (world.leadsTo · holder) then count else 0 := by
  have honce := hpacked.exclusive.nodup (.inventory id)
  refine sum_once honce (fun first hfirst other hother h h' => ?_) count
  cases holder with
  | location id => cases h
  | inventory id => cases h
  | item container =>
    have hwithin {outer : ItemKey} (hleads : world.leadsTo outer (.item container) = true) :
        world.within outer container = true :=
      within_of_weighed hpacked (List.contains_iff_mem.mp (Bool.and_eq_true_iff.mp hleads).1)
    exact eq_of_within hpacked hfirst hother (hwithin h) (hwithin h')

/-! ## Moving something -/

/-- **What a move does to an inventory.** Putting an item somewhere takes its weight off an
inventory where it was looked at, and adds it to one that bears its new place. -/
theorem carriedLoad_insert (h : world.insert holder key = .ok changed)
    (hempty : ∀ container, holder = .item container → world.contents (.item container) = []) :
    changed.carriedLoad id + (if world.isWeighed id key then world.load key else 0) =
      world.carriedLoad id + if world.bears id holder then world.load key else 0 := by
  have hsums := congrArg List.sum (List.map_congr_left
    fun outer (_ : outer ∈ world.contents (.inventory id)) => load_insert hpacked h hempty outer)
  rw [List.sum_map_add, List.sum_map_add, sum_weighed hpacked, sum_leadsTo hpacked] at hsums
  have hlists : changed.carriedLoad id =
      ((world.contents (.inventory id)).map fun outer =>
        if outer = key then 0 else changed.load outer).sum +
      if .inventory id = holder then world.load key else 0 := by
    rw [carriedLoad, contents_insert h (hpacked.own _), List.map_append, List.sum_append,
      sum_filter_ne]
    split
    · simp [load_insert_self hpacked h]
    · rfl
  rw [hlists, bears]
  rw [← carriedLoad] at hsums
  by_cases hinto : .inventory id = holder
  · subst hinto
    have hnone : ((world.contents (.inventory id)).any (world.leadsTo · (.inventory id))) = false :=
      List.any_eq_false.mpr fun _ _ => Bool.noConfusion
    rw [hnone] at hsums
    simp only [beq_self_eq_true, Bool.true_or, if_true, Bool.false_eq_true, if_false] at hsums ⊢
    omega
  · rw [if_neg hinto, beq_false_of_ne (Ne.symm hinto), Bool.false_or]
    omega

/-- Taking something off adds to the weight of an inventory in which it is looked at. -/
theorem carriedLoad_takeOff (hworn : world.isWorn key = true) :
    (world.modifyItem key (·.withWorn false)).carriedLoad id =
      world.carriedLoad id + if world.isWeighed id key then world.bareLoad key else 0 := by
  rw [← sum_weighed hpacked, carriedLoad, carriedLoad, ← List.sum_map_add,
    contents_modifyItem_withWorn]
  exact congrArg List.sum (List.map_congr_left fun outer _ => load_takeOff hpacked hworn outer)

end Inventories

/-! ## Copies -/

section Copy

variable {slot container : ItemKey} (hpacked : world.Packed)
include hpacked

/-- A new copy is in nothing that a holder lists. -/
theorem within_copyItem (h : world.copyItem key = .ok (changed, slot))
    (houter : other ∈ world.contents holder) : world.within other slot = false := by
  have hnowhere := holder?_copy h
  have hne : slot ≠ other := by
    rintro rfl
    rw [hpacked.own _ slot houter] at hnowhere
    cases hnowhere
  rw [within, encloses_of_outside hpacked.nested (by simp [hnowhere]), Bool.or_false,
    beq_false_of_ne hne]

/-- Making a copy does nothing to what is inside anything that a holder lists. -/
theorem alike_copyItem (h : world.copyItem key = .ok (changed, slot))
    (houter : other ∈ world.contents holder) (hinner : world.within other inner = true) :
    changed.contents (.item inner) = world.contents (.item inner) ∧
      changed.body? inner = world.body? inner := by
  have hne : inner ≠ slot := by
    rintro rfl
    rw [within_copyItem hpacked h houter] at hinner
    cases hinner
  rw [contents_copyItem h, if_neg fun heq => hne (Holder.item.inj heq), body?_copyItem h,
    if_neg hne]
  exact ⟨rfl, rfl⟩

/-- Making a copy changes no weight. -/
theorem carriedLoad_copyItem (h : world.copyItem key = .ok (changed, slot)) :
    changed.carriedLoad id = world.carriedLoad id := by
  rw [carriedLoad, contents_copyItem h, if_neg Holder.noConfusion, carriedLoad]
  exact congrArg List.sum (List.map_congr_left fun outer houter =>
    load_congr hpacked (hpacked.move (.copy h)) fun _ => alike_copyItem hpacked h houter)

/-- What is looked at in an inventory is not changed by making a copy. -/
theorem isWeighed_copyItem (h : world.copyItem key = .ok (changed, slot)) (other : ItemKey) :
    changed.isWeighed id other = world.isWeighed id other := by
  rw [isWeighed, contents_copyItem h, if_neg Holder.noConfusion, isWeighed, Bool.eq_iff_iff,
    List.any_eq_true, List.any_eq_true]
  refine exists_congr fun outer => and_congr_right fun houter => ?_
  rw [weighed_congr hpacked (hpacked.move (.copy h)) fun _ => alike_copyItem hpacked h houter]

/-- A new copy is not looked at in any inventory. -/
theorem not_isWeighed_copy (h : world.copyItem key = .ok (changed, slot)) :
    world.isWeighed id slot = false := by
  rw [isWeighed, List.any_eq_false]
  intro outer houter hmem
  have hwithin := within_of_weighed hpacked (List.contains_iff_mem.mp hmem)
  rw [within_copyItem hpacked h houter] at hwithin
  cases hwithin

/-- A new copy weighs what its model weighs apart from what that holds. -/
theorem load_copy (h : world.copyItem key = .ok (changed, slot)) :
    changed.load slot = world.share key := by
  have hcopied := hpacked.move (.copy h)
  have hworn : changed.isWorn slot = world.isWorn key := by rw [isWorn_copyItem h, if_pos rfl]
  rw [share]
  cases hkey : world.isWorn key with
  | true => exact load_of_worn hcopied (hworn.trans hkey)
  | false =>
    rw [load_of_unworn hcopied (hworn.trans hkey), bareLoad, contents_copyItem h, if_pos rfl,
      size_copyItem h]
    rfl

/-- Putting a copy into a free container adds what the item weighs apart from what it holds. -/
theorem carriedLoad_copyInto (h : world.copyInto (.item container) key = (changed, .ok slot))
    (hempty : world.contents (.item container) = []) :
    changed.carriedLoad id =
      world.carriedLoad id + if world.bears id (.item container) then world.share key else 0 := by
  obtain ⟨copied, hcopy, hinsert⟩ := copyInto_ok h
  have hne : container ≠ slot := ((insert_cases hinsert).1.outside container rfl).1
  have hfree : ∀ other, Holder.item container = .item other →
      copied.contents (.item other) = [] := by
    rintro _ ⟨⟩
    rw [contents_copyItem hcopy, if_neg fun heq => hne (Holder.item.inj heq), hempty]
  have hbears : copied.bears id (.item container) = world.bears id (.item container) := by
    rw [bears_item, bears_item, isWeighed_copyItem hpacked hcopy, isWorn_copyItem hcopy, if_neg hne]
  have hmoved : changed.carriedLoad id + _ = _ :=
    carriedLoad_insert (hpacked.move (.copy hcopy)) hinsert hfree
  rwa [isWeighed_copyItem hpacked hcopy, not_isWeighed_copy hpacked hcopy,
    carriedLoad_copyItem hpacked hcopy, hbears, load_copy hpacked hcopy] at hmoved

end Copy

/-! ## Things that get lighter -/

/-- Apart from some items that are moved away, nothing is taken off, nothing grows, and nothing is
listed that was not listed before. -/
structure Lightens (moved : List ItemKey) (world changed : World) : Prop where
  /-- Things were packed properly before. -/
  before : world.Packed
  /-- Things are packed properly after. -/
  after : changed.Packed
  /-- What was worn still is. -/
  worn : ∀ key ∉ moved, world.isWorn key = true → changed.isWorn key = true
  /-- No item has grown. -/
  size : ∀ key ∉ moved, changed.size key ≤ world.size key
  /-- Items hold nothing new. -/
  inside : ∀ key ∉ moved,
    (changed.contents (.item key)).Sublist ((world.contents (.item key)).filter (· ∉ moved))
  /-- Inventories hold nothing new. -/
  carried : ∀ id,
    (changed.contents (.inventory id)).Sublist ((world.contents (.inventory id)).filter (· ∉ moved))

section Lightens

variable {moved : List ItemKey}

/-- Some of the items of a list weigh no more than all of them did. -/
theorem sum_load_le {keys rest : List ItemKey} (hsub : rest.Sublist (keys.filter (· ∉ moved)))
    (hle : ∀ key ∈ keys, key ∉ moved → changed.load key ≤ world.load key) :
    (rest.map changed.load).sum ≤ (keys.map world.load).sum := by
  calc
    (rest.map changed.load).sum ≤ (rest.map world.load).sum := by
      refine List.sum_le_sum fun key hkey => ?_
      obtain ⟨hmem, hstays⟩ := List.mem_filter.mp (hsub.subset hkey)
      exact hle key hmem (by simpa using hstays)
    _ ≤ (keys.map world.load).sum :=
      ((hsub.trans List.filter_sublist).map _).sum_le_sum fun _ _ => Nat.zero_le _

theorem Lightens.load_le (h : Lightens moved world changed) (hkey : key ∉ moved) :
    changed.load key ≤ world.load key := by
  induction key using (inward h.before).induction with
  | _ key ih =>
    cases hafter : changed.isWorn key with
    | true => rw [load_of_worn h.after hafter]; exact Nat.zero_le _
    | false =>
      have hbefore : world.isWorn key = false := by
        rw [Bool.eq_false_iff]
        intro hworn
        rw [h.worn key hkey hworn] at hafter
        cases hafter
      rw [load_of_unworn h.after hafter, load_of_unworn h.before hbefore]
      exact Nat.add_le_add (h.size key hkey) (sum_load_le (h.inside key hkey) ih)

/-- No inventory has more to bear. -/
theorem Lightens.carriedLoad_le (h : Lightens moved world changed) (id : InventoryId) :
    changed.carriedLoad id ≤ world.carriedLoad id :=
  sum_load_le (h.carried id) fun _ _ hkey => h.load_le hkey

/-- While things stay, no inventory has more to bear. -/
theorem Stays.lightens (h : world.Stays changed) (hpacked : world.Packed) :
    Lightens [] world changed where
  before := hpacked
  after := hpacked.of_views h.holder h.contents
  worn key _ hworn := (h.worn key).trans hworn
  size key _ := (h.size key).le
  inside key _ := by simp [h.contents]
  carried id := by simp [h.contents]

/-- Putting something on makes nothing heavier. -/
theorem lightens_putOn (hpacked : world.Packed) (key : ItemKey) :
    Lightens [] world (world.modifyItem key (·.withWorn true)) where
  before := hpacked
  after := hpacked.withWorn key true
  worn other _ hworn := by
    obtain ⟨item, hitem, hon⟩ := exists_item?_of_isWorn hworn
    rw [isWorn, item?_modifyItem]
    by_cases heq : other = key
    · rw [if_pos heq, ← heq, hitem]
      exact Item.isWorn_withWorn_true hon
    · rw [if_neg heq, hitem]
      exact hon
  size other _ := (size_modifyItem_withWorn key true other).le
  inside other _ := by simp
  carried id := by simp

/-- Laying an item down at a location makes nothing else heavier. -/
theorem lightens_lay (hpacked : world.Packed) {location : LocationId}
    (h : (world.modifyItem key (·.withWorn false)).insert (.location location) key = .ok changed) :
    Lightens [key] world changed := by
  have hoff := hpacked.withWorn key false
  have hlists (holder : Holder) (hne : holder ≠ .location location) :
      changed.contents holder = (world.contents holder).filter (· ∉ [key]) := by
    rw [contents_insert h (hoff.own _), if_neg hne, List.append_nil, contents_modifyItem_withWorn]
    simp
  refine ⟨hpacked, hoff.move (.insert h), fun other hother hworn => ?_, fun other _ => ?_,
    fun other _ => ?_, fun id => ?_⟩
  · rw [isWorn_insert h, isWorn_modifyItem_withWorn_false, hworn]
    simpa using hother
  · rw [size_congr (body?_insert h other), size_modifyItem_withWorn]
  · rw [hlists _ Holder.noConfusion]
  · rw [hlists _ Holder.noConfusion]

/-- Destroying an item makes nothing else heavier. -/
theorem lightens_destroy (hpacked : world.Packed) (h : world.destroy key = .ok changed) :
    Lightens [key] world changed := by
  have hlists (holder : Holder) :
      changed.contents holder = (world.contents holder).filter (· ∉ [key]) := by
    rw [contents_destroy h (hpacked.own _)]
    simp
  refine ⟨hpacked, hpacked.move (.destroy h), fun other hother hworn => ?_, fun other hother => ?_,
    fun other _ => by rw [hlists], fun id => by rw [hlists]⟩
  · rw [isWorn_destroy h, hworn]
    simpa using hother
  · have hne : other ≠ key := by simpa using hother
    exact (size_congr (by rw [body?_destroy h, if_neg hne])).le

end Lightens

/-! ## Counting up to the limit -/

/-- Within the limit of counting, what is in an inventory is counted to weigh what it weighs without
a limit. -/
theorem carriedWeight_eq_carriedLoad (hpacked : world.Packed) {id : InventoryId}
    (h : world.carriedLoad id ≤ Count.limit) : world.carriedWeight id = world.carriedLoad id := by
  have hsame : (world.contents (.inventory id)).map world.weight =
      (world.contents (.inventory id)).map world.load := by
    refine List.map_congr_left fun key hkey => ?_
    have hle : world.load key ≤ world.carriedLoad id :=
      List.le_sum_of_mem (List.mem_map_of_mem hkey)
    rcases weight_eq_or_limit_le hpacked key with heq | ⟨-, hbeyond⟩
    · exact heq
    · omega
  rw [carriedLoad, ← hsame] at h ⊢
  exact carriedWeight_of_le h

end Adventure.World
