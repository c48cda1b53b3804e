import Adventure.Proofs.World.Weighing

/-!
# Counted weights

A weight is what an item and the things in it have in sizes, one inside the other down to the first
that is worn, counted up to the limit. The limit is applied at every level, which comes to the same
as applying it once at the end. Moving an item only makes a difference to what it was in or is put
into. Whether something fits into an inventory is decided on counted weights, and here it is told
when that is what the sum without a limit would decide.
-/

namespace Adventure.World

variable {world changed : World} {holder : Holder} {key other : ItemKey} {id : InventoryId}

/-! ## Worlds that come about -/

/-- No item is larger than can be counted. -/
def Countable (world : World) : Prop := ∀ key, world.size key ≤ Count.limit

/-- Whether an item that is added is no larger than can be counted. -/
def Operation.isCountable : Operation → Bool
  | addItem item => item.size ≤ Count.limit
  | _ => true

/-- A world comes about from a new one by operations, which add nothing but bare things of sizes
that can be counted, and by changes that move nothing, as when something is put on, switched or
relabelled. -/
inductive Arises : World → Prop
  /-- There is nothing yet. -/
  | new (name : String) (start : LocationId) : Arises (new name start)
  /-- An operation is performed, whether it succeeds or is refused. -/
  | perform {world : World} {operation : Operation} (h : Arises world)
      (hbare : operation.isBare = true) (hsize : operation.isCountable = true) :
      Arises (world.perform operation)
  /-- Everything stays where it is. -/
  | alter {world changed : World} (h : Arises world)
      (hnames : ∀ key, changed.holder? key = world.holder? key)
      (hlists : ∀ holder, changed.contents holder = world.contents holder)
      (hsize : changed.Countable) : Arises changed

theorem size_eq_body? (world : World) (key : ItemKey) :
    world.size key = ((world.body? key).map Item.size).getD 0 := by
  rw [body?, Option.map_map]
  rfl

/-- Every move leaves sizes that can be counted. -/
theorem Countable.move (hcount : world.Countable) (hmove : Move world changed) :
    changed.Countable := by
  intro other
  cases hmove with
  | insert h => exact (size_congr (body?_insert h other)).trans_le (hcount other)
  | remove h => exact (size_congr (body?_remove h other)).trans_le (hcount other)
  | @destroy key _ h =>
    have hsame : changed.size other = world.size other := by
      rw [size_eq_body?, size_eq_body?, body?_destroy h]
      by_cases heq : other = key
      · rw [if_pos heq, heq, Option.map_map]
        rfl
      · rw [if_neg heq]
    exact hsame.trans_le (hcount other)
  | @copy key copy _ h =>
    by_cases heq : other = copy
    · rw [heq, size_copyItem h]
      exact hcount key
    · have hbody := body?_copyItem h other
      rw [if_neg heq] at hbody
      exact (size_congr hbody).trans_le (hcount other)

/-- Adding an item of a size that can be counted leaves such sizes. -/
theorem Countable.add {operation : Operation} (hcount : world.Countable)
    (hsize : operation.isCountable = true) (hadd : Addition world operation changed) :
    changed.Countable := by
  intro other
  cases hadd with
  | location location => exact hcount other
  | inventory inventory => exact hcount other
  | item item =>
    have hnew : item.size ≤ Count.limit := of_decide_eq_true hsize
    rw [size, addItem, item?_append]
    by_cases heq : other = world.nextKey
    · rw [if_pos heq]
      exact hnew
    · rw [if_neg heq]
      exact hcount other

/-- Whatever comes about is packed properly and has sizes that can be counted. -/
theorem Arises.packed_countable (h : world.Arises) : world.Packed ∧ world.Countable := by
  induction h with
  | new name start =>
    exact ⟨⟨exclusive_new name start, nested_new name start⟩, fun _ => Nat.zero_le _⟩
  | perform h hbare hsize ih =>
    refine perform_keeps (P := fun world => world.Packed ∧ world.Countable) ?_ ?_ ih
    · rintro added hadd ⟨hpacked, hcount⟩
      exact ⟨⟨hpacked.exclusive.add hbare hadd, hpacked.nested.add hadd⟩, hcount.add hsize hadd⟩
    · rintro world changed hmove ⟨hpacked, hcount⟩
      exact ⟨hpacked.move hmove, hcount.move hmove⟩
  | alter h hnames hlists hsize ih => exact ⟨ih.1.of_views hnames hlists, hsize⟩

/-- What bare operations with countable sizes make of a world that comes about comes about. -/
theorem Arises.after {operations : List Operation} (h : world.Arises)
    (hoperations : ∀ operation ∈ operations,
      operation.isBare = true ∧ operation.isCountable = true) :
    (world.after operations).Arises := by
  unfold World.after
  induction operations generalizing world with
  | nil => exact h
  | cons operation rest ih =>
    obtain ⟨⟨hbare, hsize⟩, hrest⟩ := List.forall_mem_cons.mp hoperations
    exact ih (.perform h hbare hsize) hrest

/-- Something is put on or taken off. -/
theorem Arises.withWorn (h : world.Arises) (key : ItemKey) (worn : Bool) :
    (world.modifyItem key (·.withWorn worn)).Arises :=
  .alter h (world.holder?_modifyItem_withWorn key worn)
    (world.contents_modifyItem_withWorn key worn) fun other =>
      (size_modifyItem_withWorn key worn other).trans_le (h.packed_countable.2 other)

/-! ## One inside the other -/

/-- An item, what it holds, what that holds, and so on inward. -/
inductive Nest (world : World) : ItemKey → List ItemKey → Prop
  /-- There is no such item. -/
  | missing {key : ItemKey} (h : world.item? key = none) : Nest world key []
  /-- The item holds nothing. -/
  | empty {key : ItemKey} {item : Item} (h : world.item? key = some item)
      (hcontents : item.contents = none) : Nest world key [key]
  /-- The item holds another one. -/
  | filled {key inner : ItemKey} {item : Item} {nest : List ItemKey}
      (h : world.item? key = some item) (hcontents : item.contents = some inner)
      (hinner : Nest world inner nest) : Nest world key (key :: nest)

/-- From every item the way inward is followed to its end. -/
theorem exists_nest (hpacked : world.Packed) (key : ItemKey) : ∃ nest, world.Nest key nest := by
  induction key using (inward hpacked).induction with
  | _ key ih =>
    cases hitem : world.item? key with
    | none => exact ⟨[], .missing hitem⟩
    | some item =>
      cases hcontents : item.contents with
      | none => exact ⟨[key], .empty hitem hcontents⟩
      | some inner =>
        obtain ⟨nest, hinner⟩ := ih inner (contains_of_contents hitem hcontents)
        exact ⟨key :: nest, .filled hitem hcontents hinner⟩

/-- There is one way inward. -/
theorem Nest.unique {nest others : List ItemKey} (h : world.Nest key nest)
    (hother : world.Nest key others) : others = nest := by
  induction h generalizing others with
  | missing h => cases hother <;> simp_all
  | empty h hcontents => cases hother <;> simp_all
  | filled h hcontents hinner ih =>
    cases hother with
    | filled h' hcontents' hinner' =>
      cases h.symm.trans h'
      cases hcontents.symm.trans hcontents'
      rw [ih hinner']
    | _ => simp_all

/-- Without a limit, an item weighs what the things inward from it have in sizes, down to the first
that is worn. -/
theorem Nest.load_eq (hpacked : world.Packed) {nest : List ItemKey} (h : world.Nest key nest) :
    world.load key = ((nest.takeWhile (!world.isWorn ·)).map world.size).sum := by
  induction h with
  | missing h =>
    rw [load, weighed_of_missing hpacked (by simp [h])]
    rfl
  | @empty key item h hcontents =>
    cases hworn : world.isWorn key with
    | true => simp [load_of_worn hpacked hworn, hworn]
    | false =>
      rw [load_of_unworn hpacked hworn]
      simp [bareLoad, contents_item, h, hcontents, hworn]
  | @filled key inner item nest h hcontents hinner ih =>
    cases hworn : world.isWorn key with
    | true => simp [load_of_worn hpacked hworn, hworn]
    | false =>
      rw [load_of_unworn hpacked hworn]
      simp [bareLoad, contents_item, h, hcontents, hworn, ih]

/-! ## The limit -/

/-- A weight is counted: the outermost sum has stopped at the limit, whatever is inside. -/
theorem weightWithin_le (hcount : world.Countable) (depth : Nat) (key : ItemKey) :
    world.weightWithin depth key ≤ Count.limit := by
  cases depth with
  | zero => exact Nat.zero_le _
  | succ depth =>
    rw [weightWithin]
    cases hitem : world.item? key with
    | none => exact Nat.zero_le _
    | some item =>
      have hsize : item.size ≤ Count.limit := by
        have hkey := hcount key
        rwa [size, hitem] at hkey
      dsimp only
      split
      · exact Nat.zero_le _
      · cases item.contents with
        | none => exact hsize
        | some inner => exact Nat.min_le_right _ _

/-- A weight is the sum without a limit, counted at the end. -/
theorem weight_eq_min (hpacked : world.Packed) (hcount : world.Countable) (key : ItemKey) :
    world.weight key = min (world.load key) Count.limit := by
  rw [← min_weight hpacked]
  exact (Nat.min_eq_left (weightWithin_le hcount _ key)).symm

/-- What weighs the same after a move without a limit weighs the same with it. -/
theorem weight_move (hpacked : world.Packed) (hcount : world.Countable)
    (hmove : Move world changed) (h : changed.load other = world.load other) :
    changed.weight other = world.weight other := by
  rw [weight_eq_min (hpacked.move hmove) (hcount.move hmove), h, weight_eq_min hpacked hcount]

/-! ## Weights and moves -/

/-- **Weights.** In every world that comes about, an item weighs what it and the things inward from
it have in sizes, down to the first that is worn, counted up to the limit; so it weighs nothing
while it is worn itself. Putting an item somewhere or taking it out changes the weight of nothing
but what encloses it before or after. -/
theorem weights_of_arises (h : world.Arises) :
    (∀ key, ∃ nest, world.Nest key nest ∧ (∀ others, world.Nest key others → others = nest) ∧
      world.weight key =
        min ((nest.takeWhile (!world.isWorn ·)).map world.size).sum Count.limit) ∧
    (∀ key, world.isWorn key = true → world.weight key = 0) ∧
    (∀ holder key changed, world.insert holder key = .ok changed → ∀ other,
      changed.weight other ≠ world.weight other →
        world.encloses other key = true ∨ changed.encloses other key = true) ∧
    ∀ key changed previous, world.remove key = .ok (changed, previous) → ∀ other,
      changed.weight other ≠ world.weight other → world.encloses other key = true := by
  obtain ⟨hpacked, hcount⟩ := h.packed_countable
  refine ⟨fun key => ?_, fun key hworn => ?_, fun holder key changed hinsert other hne => ?_,
    fun key changed previous hremove other hne => ?_⟩
  · obtain ⟨nest, hnest⟩ := exists_nest hpacked key
    exact ⟨nest, hnest, fun others => hnest.unique,
      by rw [weight_eq_min hpacked hcount, hnest.load_eq hpacked]⟩
  · rw [weight_eq_min hpacked hcount, load_of_worn hpacked hworn, Nat.zero_min]
  · by_contra hapart
    simp only [not_or, Bool.not_eq_true] at hapart
    exact hne (weight_move hpacked hcount (.insert hinsert)
      (load_insert_of_apart hpacked hinsert hapart.1 hapart.2))
  · by_contra hapart
    exact hne (weight_move hpacked hcount (.remove hremove)
      (load_remove hpacked hremove (Bool.eq_false_iff.mpr hapart)))

/-- A trunk with a rucksack in it, which is worn and holds a tin of beans. -/
def luggage : World :=
  let roomy := ItemFlags.container.set ItemFlags.holdsSolids
  ((new "platform" ⟨1⟩).after
    [.addLocation { id := ⟨1⟩, labels := ⟨"platform", "platform", "", [], none⟩ },
      .addItem (.ofAttributes ⟨1⟩ roomy ⟨"trunk", "trunk", "", [], none⟩ 9),
      .addItem (.ofAttributes ⟨2⟩ (roomy.set ItemFlags.wearable)
        ⟨"rucksack", "rucksack", "", [], none⟩ 5),
      .addItem (.ofAttributes ⟨3⟩ roomy ⟨"tin", "tin", "", [], none⟩ 2),
      .addItem (.ofAttributes ⟨4⟩ .none ⟨"beans", "beans", "", [], none⟩ 1),
      .insert (.location ⟨1⟩) ⟨0⟩, .insert (.item ⟨0⟩) ⟨1⟩, .insert (.item ⟨1⟩) ⟨2⟩,
      .insert (.item ⟨2⟩) ⟨3⟩]).modifyItem ⟨1⟩ (·.withWorn true)

/-- The trunk weighs only itself and the rucksack nothing, but the tin weighs its beans, too. When
these are taken out, the weight changes only of what enclosed them. -/
theorem weights_of_arises_luggage :
    luggage.Arises ∧ [⟨0⟩, ⟨1⟩, ⟨2⟩, ⟨3⟩].map luggage.weight = [9, 0, 3, 1] ∧
      ∀ changed previous, luggage.remove ⟨3⟩ = .ok (changed, previous) → ∀ other,
        changed.weight other ≠ luggage.weight other → luggage.encloses other ⟨3⟩ = true := by
  have harises : luggage.Arises :=
    ((Arises.new "platform" ⟨1⟩).after (by decide)).withWorn ⟨1⟩ true
  exact ⟨harises, by decide, (weights_of_arises harises).2.2.2 ⟨3⟩⟩

/-! ## Room in an inventory -/

/-- A sum that stops at the limit is within a capacity exactly if the true sum is, unless the
capacity is the limit itself. -/
theorem add_le_iff {carried weight capacity : Nat} (hcapacity : capacity ≤ Count.limit) :
    Count.add carried weight ≤ capacity ↔
      carried + weight ≤ capacity ∨ capacity = Count.limit := by
  unfold Count.add
  omega

/-- **Room in an inventory.** As long as what is in an inventory weighs no more than can be counted,
an item fits next to it exactly if the weights are within the capacity when they are added without a
limit, or if the capacity is the limit of counting. So the test agrees with the sum in every case
but one: if the capacity is that limit and the sum is beyond it, the item fits all the same. -/
theorem inventoryFits_exact_iff {inventory : Inventory}
    (hfound : world.inventory? id = some inventory) (hcapacity : inventory.capacity ≤ Count.limit)
    (hcounted : (inventory.items.map world.weight).sum ≤ Count.limit) (key : ItemKey) :
    let sum := (inventory.items.map world.weight).sum + world.weight key
    (world.inventoryFits id key = true ↔
      sum ≤ inventory.capacity ∨ inventory.capacity = Count.limit) ∧
    ((world.inventoryFits id key = true ↔ sum ≤ inventory.capacity) ↔
      ¬ (inventory.capacity = Count.limit ∧ Count.limit < sum)) := by
  intro sum
  have hcarried : world.carriedWeight id = (inventory.items.map world.weight).sum := by
    rw [carriedWeight, hfound]
    exact Count.total_of_le hcounted
  have hfits : world.inventoryFits id key = true ↔
      sum ≤ inventory.capacity ∨ inventory.capacity = Count.limit := by
    rw [inventoryFits, hfound, Option.any_some, Inventory.fits, decide_eq_true_iff, hcarried,
      add_le_iff hcapacity]
  refine ⟨hfits, ?_⟩
  rw [hfits]
  omega

/-- A rock of the largest size is in an inventory of the largest capacity, and there is a pebble. -/
def quarry : World :=
  (new "quarry" ⟨1⟩).after
    [.addInventory { id := ⟨1⟩, capacity := Count.limit, isDefault := true },
      .addItem (.ofAttributes ⟨1⟩ .none ⟨"rock", "rock", "", [], none⟩ Count.limit),
      .addItem (.ofAttributes ⟨2⟩ .none ⟨"pebble", "pebble", "", [], none⟩ 1),
      .insert (.inventory ⟨1⟩) ⟨0⟩]

/-- The pebble fits next to the rock, which alone is at the limit of counting, although their sum is
beyond the capacity. -/
theorem inventoryFits_exact_iff_quarry :
    quarry.inventory? ⟨1⟩ = some ⟨⟨1⟩, Count.limit, true, [], [⟨0⟩]⟩ ∧
      quarry.inventoryFits ⟨1⟩ ⟨1⟩ = true ∧
      Count.limit < ([⟨0⟩].map quarry.weight).sum + quarry.weight ⟨1⟩ :=
  have hfound : quarry.inventory? ⟨1⟩ = some ⟨⟨1⟩, Count.limit, true, [], [⟨0⟩]⟩ := by rfl
  have hcounted : ([⟨0⟩].map quarry.weight).sum ≤ Count.limit := by decide
  ⟨hfound, (inventoryFits_exact_iff hfound le_rfl hcounted ⟨1⟩).1.mpr (.inr rfl), by decide⟩

end Adventure.World
