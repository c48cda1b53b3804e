import Adventure.Proofs.World.Moves

/-!
# Worlds built by operations

A world is built from an empty one by adding things and by moving and copying items. A refused
operation may still have changed something, so each is described by the world it leaves, whatever
it returns. All of them come down to four moves and to adding what lists nothing yet.
-/

namespace Adventure

namespace World

/-- What is done to a world to place its items. -/
inductive Operation
  | addLocation (location : Location)
  | addInventory (inventory : Inventory)
  | addItem (item : Item)
  | insert (holder : Holder) (key : ItemKey)
  | remove (key : ItemKey)
  | destroy (key : ItemKey)
  | copyItem (key : ItemKey)
  | copyInto (holder : Holder) (key : ItemKey)

/-- The world that an operation leaves, whether it succeeds or is refused. -/
def perform (world : World) : Operation → World
  | .addLocation location => world.addLocation location
  | .addInventory inventory => world.addInventory inventory
  | .addItem item => world.addItem item
  | .insert holder key => (world.tryInsert holder key).1
  | .remove key => (world.tryRemove key).1
  | .destroy key => (world.tryDestroy key).1
  | .copyItem key => (world.tryCopyItem key).1
  | .copyInto holder key => (world.copyInto holder key).1

/-- The world after some operations. -/
def after (world : World) (operations : List Operation) : World := operations.foldl perform world

namespace Operation

/-- Whether an item that is added is empty, as every new item is. Adding an item does not see to
that: it is then nowhere, but what it lists stays. -/
def addsEmptyItem : Operation → Bool
  | addItem item => item.contents.isNone
  | _ => true

/-- Whether what is added lists no items, as every new location, inventory and item. -/
def isBare : Operation → Bool
  | addLocation location => location.items.isEmpty
  | addInventory inventory => inventory.items.isEmpty
  | addItem item => item.contents.isNone
  | _ => true

end Operation

/-- One move of an item, or the making of one copy, that succeeds. -/
inductive Move (world : World) : World → Prop
  | insert {holder : Holder} {key : ItemKey} {changed : World}
      (h : world.insert holder key = .ok changed) : Move world changed
  | remove {key : ItemKey} {previous : Option Holder} {changed : World}
      (h : world.remove key = .ok (changed, previous)) : Move world changed
  | destroy {key : ItemKey} {changed : World} (h : world.destroy key = .ok changed) :
      Move world changed
  | copy {key copy : ItemKey} {changed : World} (h : world.copyItem key = .ok (changed, copy)) :
      Move world changed

/-- What can be added to a world. -/
inductive Addition (world : World) : Operation → World → Prop
  | location (location : Location) :
      Addition world (.addLocation location) (world.addLocation location)
  | inventory (inventory : Inventory) :
      Addition world (.addInventory inventory) (world.addInventory inventory)
  | item (item : Item) : Addition world (.addItem item) (world.addItem item)

/-- A copy put into a holder is made first and inserted then, and may be refused at each step. -/
theorem copyInto_cases (world : World) (holder : Holder) (key : ItemKey) :
    (world.copyInto holder key).1 = world ∨
      ∃ copied copy, world.copyItem key = .ok (copied, copy) ∧
        ((world.copyInto holder key).1 = copied ∨
          copied.insert holder copy = .ok (world.copyInto holder key).1) := by
  rcases copyInto_refused_or_admits world holder key with
    ⟨refusal, hsame⟩ | ⟨hadmits, copied, copy, hcopy⟩
  · exact .inl (by rw [hsame])
  · refine .inr ⟨copied, copy, hcopy, ?_⟩
    rw [copyInto_eq hadmits hcopy]
    cases copied.insert holder copy with
    | error refusal => exact .inl rfl
    | ok filled => exact .inr rfl

/-- What additions and moves keep is kept by every operation. -/
theorem perform_keeps {P : World → Prop} {world : World} {operation : Operation}
    (hadd : ∀ added, Addition world operation added → P world → P added)
    (hmove : ∀ world changed, Move world changed → P world → P changed)
    (h : P world) : P (world.perform operation) := by
  cases operation with
  | addLocation location => exact hadd _ (.location location) h
  | addInventory inventory => exact hadd _ (.inventory inventory) h
  | addItem item => exact hadd _ (.item item) h
  | insert holder key =>
    rw [perform, tryInsert_eq]
    exact attempt_keeps h fun changed hok => hmove _ _ (.insert hok) h
  | remove key =>
    rw [perform]
    rcases tryRemove_cases world key with ⟨removed, hok, htry⟩ | ⟨-, htry⟩
    · rw [htry]
      exact hmove _ _ (.remove hok) h
    · rw [htry]
      exact h
  | destroy key =>
    rw [perform, tryDestroy_eq]
    exact attempt_keeps h fun changed hok => hmove _ _ (.destroy hok) h
  | copyItem key =>
    rw [perform]
    rcases tryCopyItem_cases world key with ⟨copied, copy, hok, htry⟩ | ⟨-, htry⟩
    · rw [htry]
      exact hmove _ _ (.copy hok) h
    · rw [htry]
      exact h
  | copyInto holder key =>
    change P (world.copyInto holder key).1
    rcases copyInto_cases world holder key with hsame | ⟨copied, copy, hcopy, hsame | hinsert⟩
    · rw [hsame]
      exact h
    · rw [hsame]
      exact hmove _ _ (.copy hcopy) h
    · exact hmove _ _ (.insert hinsert) (hmove _ _ (.copy hcopy) h)

/-- What additions and moves keep is kept by every run of operations. -/
theorem after_keeps {P : World → Prop} {operations : List Operation}
    (hadd : ∀ world, ∀ operation ∈ operations, ∀ added, Addition world operation added →
      P world → P added)
    (hmove : ∀ world changed, Move world changed → P world → P changed)
    {world : World} (h : P world) : P (world.after operations) := by
  unfold after
  induction operations generalizing world with
  | nil => exact h
  | cons operation rest ih =>
    refine ih (fun world operation hmem => hadd world operation (List.mem_cons_of_mem _ hmem)) ?_
    exact perform_keeps (hadd world operation List.mem_cons_self) hmove h

/-! ## What additions do -/

variable {world : World}

theorem holder?_addItem (item : Item) (key : ItemKey) :
    (world.addItem item).holder? key = world.holder? key := by
  unfold holder? addItem
  rw [item?_append]
  by_cases h : key = world.nextKey
  · subst h
    simp
  · rw [if_neg h]

/-- An added item is in its own slot what it is by itself; nothing else changes. -/
theorem contents_addItem (item : Item) (holder : Holder) :
    (world.addItem item).contents holder =
      if holder = .item world.nextKey then item.contents.toList else world.contents holder := by
  cases holder with
  | location id => rfl
  | inventory id => rfl
  | item outer =>
    unfold addItem
    simp only [contents_item, item?_append, Holder.item.injEq]
    by_cases h : outer = world.nextKey
    · subst h
      simp [Item.contents]
    · rw [if_neg h, if_neg h]

theorem contents_addLocation (location : Location) (holder : Holder) :
    (world.addLocation location).contents holder =
      if holder = .location location.id then location.items else world.contents holder := by
  cases holder with
  | inventory id => rfl
  | item outer => rfl
  | location id =>
    simp only [contents, location?, addLocation, Table.get?_insert, Holder.location.injEq]
    by_cases h : id = location.id
    · rw [if_pos h, if_pos h]
      rfl
    · rw [if_neg h, if_neg h]

theorem contents_addInventory (inventory : Inventory) (holder : Holder) :
    (world.addInventory inventory).contents holder =
      if holder = .inventory inventory.id then inventory.items else world.contents holder := by
  cases holder with
  | location id => rfl
  | item outer => rfl
  | inventory id =>
    simp only [contents, inventory?, addInventory, Table.get?_insert, Holder.inventory.injEq]
    by_cases h : id = inventory.id
    · rw [if_pos h, if_pos h]
      rfl
    · rw [if_neg h, if_neg h]

/-- Whatever is added, the items name the holders that they named before. -/
theorem Addition.holder?_eq {operation : Operation} {added : World}
    (h : Addition world operation added) (key : ItemKey) :
    added.holder? key = world.holder? key := by
  cases h with
  | location location => rfl
  | inventory inventory => rfl
  | item item => exact holder?_addItem item key

/-- When what is added lists nothing, a holder lists nothing or what it listed before. -/
theorem Addition.contents_eq {operation : Operation} {added : World}
    (h : Addition world operation added) (hbare : operation.isBare = true) (holder : Holder) :
    added.contents holder = [] ∨ added.contents holder = world.contents holder := by
  cases h with
  | location location =>
    rw [contents_addLocation]
    by_cases heq : holder = .location location.id
    · exact .inl (by rw [if_pos heq]; exact List.isEmpty_iff.mp hbare)
    · exact .inr (if_neg heq)
  | inventory inventory =>
    rw [contents_addInventory]
    by_cases heq : holder = .inventory inventory.id
    · exact .inl (by rw [if_pos heq]; exact List.isEmpty_iff.mp hbare)
    · exact .inr (if_neg heq)
  | item item =>
    rw [contents_addItem]
    by_cases heq : holder = .item world.nextKey
    · have hnone : item.contents = none := Option.isNone_iff_eq_none.mp hbare
      exact .inl (by rw [if_pos heq, hnone]; rfl)
    · exact .inr (if_neg heq)

end World

end Adventure
