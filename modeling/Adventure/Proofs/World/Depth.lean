import Adventure.Proofs.World.Exclusive
import Adventure.Proofs.World.Nesting
import Adventure.World.Listing
import Adventure.World.Weight

/-!
# Walking without a limit

Looking outward from an item, weighing it and naming it with what it holds go from item to item and
have to come to an end. Here it is said what it means for such a walk to end with a result when
nothing limits its steps, rule by rule. In every world that operations build each walk ends, and the
only result that it can end with is that of the limited walk.
-/

namespace Adventure.World

open Relation

/-! ## Walks -/

/-- The search outward from an item for `outer`, on and on as long as there is a container, ends
with an answer. -/
inductive SearchEnds (world : World) (outer : ItemKey) : ItemKey → Bool → Prop
  /-- There is no container to go on to. -/
  | outside {key : ItemKey} (h : ∀ next, world.holder? key ≠ some (.item next)) :
      SearchEnds world outer key false
  /-- The container is the one looked for. -/
  | found {key : ItemKey} (h : world.holder? key = some (.item outer)) :
      SearchEnds world outer key true
  /-- The container is another one. -/
  | further {key next : ItemKey} {answer : Bool} (h : world.holder? key = some (.item next))
      (hne : next ≠ outer) (hrest : SearchEnds world outer next answer) :
      SearchEnds world outer key answer

/-- The walk outward from an item, on and on as long as there is a container, ends at what holds the
last one, if anything does. -/
inductive ClimbEnds (world : World) : ItemKey → Option Holder → Prop
  /-- There is no container to go on to. -/
  | outside {key : ItemKey} (h : ∀ next, world.holder? key ≠ some (.item next)) :
      ClimbEnds world key (world.holder? key)
  /-- There is a container. -/
  | further {key next : ItemKey} {top : Option Holder} (h : world.holder? key = some (.item next))
      (hrest : ClimbEnds world next top) : ClimbEnds world key top

/-- Weighing an item and, as deep as it goes, what it holds ends with a weight. -/
inductive WeighingEnds (world : World) : ItemKey → Nat → Prop
  /-- There is no such item. -/
  | missing {key : ItemKey} (h : world.item? key = none) : WeighingEnds world key 0
  /-- The item is worn. -/
  | worn {key : ItemKey} {item : Item} (h : world.item? key = some item)
      (hworn : item.isWorn = true) : WeighingEnds world key 0
  /-- The item holds nothing. -/
  | empty {key : ItemKey} {item : Item} (h : world.item? key = some item)
      (hworn : item.isWorn = false) (hcontents : item.contents = none) :
      WeighingEnds world key item.size
  /-- The item holds another one, which is weighed first. -/
  | filled {key inner : ItemKey} {item : Item} {weight : Nat} (h : world.item? key = some item)
      (hworn : item.isWorn = false) (hcontents : item.contents = some inner)
      (hinner : WeighingEnds world inner weight) :
      WeighingEnds world key (Count.add item.size weight)

/-- The name of an item in listings, with its state but without what it holds. -/
def nameWithState (world : World) (key : ItemKey) (item : Item) : String :=
  let state := match item.switch, world.isSwitchedOn key with
    | some switch, .ok on => " (" ++ switch.words.wordFor on ++ ")"
    | _, _ => ""
  let worn := if item.isWorn then " (worn)" else ""
  item.labels.longname ++ state ++ worn

/-- Naming an item and, as deep as it goes, what it holds ends with a name. -/
inductive NamingEnds (world : World) : ItemKey → String → Prop
  /-- There is no such item. -/
  | missing {key : ItemKey} (h : world.item? key = none) :
      NamingEnds world key (world.itemName key)
  /-- The item holds nothing. -/
  | empty {key : ItemKey} {item : Item} (h : world.item? key = some item)
      (hcontents : item.contents = none) : NamingEnds world key (world.nameWithState key item)
  /-- The item holds another one, which is named as well. -/
  | filled {key inner : ItemKey} {item : Item} {name : String} (h : world.item? key = some item)
      (hcontents : item.contents = some inner) (hinner : NamingEnds world inner name) :
      NamingEnds world key (world.nameWithState key item ++ (" containing " ++ name))

variable {world changed : World}

/-! ## Looking outward -/

section Outward

variable (hnested : world.Nested) {key next : ItemKey}
include hnested

/-- What is in no container is enclosed by nothing. -/
theorem encloses_of_outside (h : ∀ next, world.holder? key ≠ some (.item next)) (outer : ItemKey) :
    world.encloses outer key = false := by
  rw [encloses, hnested.holders_eq]
  cases hholder : world.holder? key with
  | none => rfl
  | some holder =>
    cases holder with
    | location id => rfl
    | inventory id => rfl
    | item next => exact absurd hholder (h next)

/-- What is in a container is enclosed by it and by what encloses it. -/
theorem encloses_of_item (h : world.holder? key = some (.item next)) (outer : ItemKey) :
    world.encloses outer key = (outer == next || world.encloses outer next) := by
  simp [encloses, hnested.holders_eq key, h, Bool.beq_eq_decide_eq]

theorem outermost?_of_outside (h : ∀ next, world.holder? key ≠ some (.item next)) :
    world.outermost? key = world.holder? key := by
  rw [outermost?, hnested.holders_eq]
  cases hholder : world.holder? key with
  | none => rfl
  | some holder =>
    cases holder with
    | location id => rfl
    | inventory id => rfl
    | item next => exact absurd hholder (h next)

theorem outermost?_of_item (h : world.holder? key = some (.item next)) :
    world.outermost? key = world.outermost? next := by
  rw [outermost?, hnested.holders_eq, h, outermost?]
  dsimp only
  cases hholders : world.holders next with
  | nil => rfl
  | cons first rest => rw [List.getLast?_cons_cons]

/-- The search for an enclosing item ends, and with no other answer than that of the limited one. -/
theorem searchEnds_iff (outer : ItemKey) {answer : Bool} :
    world.SearchEnds outer key answer ↔ answer = world.encloses outer key := by
  induction key using hnested.induction generalizing answer with
  | _ key ih =>
    by_cases houtside : ∀ next, world.holder? key ≠ some (.item next)
    · rw [encloses_of_outside hnested houtside]
      constructor
      · intro hends
        cases hends with
        | outside h => rfl
        | found h => exact absurd h (houtside outer)
        | further h hne hrest => exact absurd h (houtside _)
      · rintro rfl
        exact .outside houtside
    · obtain ⟨next, hnext⟩ := not_forall_not.mp houtside
      rw [encloses_of_item hnested hnext]
      constructor
      · intro hends
        cases hends with
        | outside h => exact absurd hnext (h next)
        | found h =>
          cases hnext.symm.trans h
          simp
        | further h hne hrest =>
          cases hnext.symm.trans h
          rw [(ih _ hnext).mp hrest]
          simp [hne.symm]
      · rintro rfl
        by_cases hfound : next = outer
        · subst hfound
          simpa using SearchEnds.found hnext
        · rw [beq_false_of_ne (Ne.symm hfound), Bool.false_or]
          exact .further hnext hfound ((ih next hnext).mpr rfl)

/-- The walk to the outermost holder ends, and a limit would not have stopped it earlier. -/
theorem climbEnds_iff {top : Option Holder} :
    world.ClimbEnds key top ↔ top = world.outermost? key := by
  induction key using hnested.induction with
  | _ key ih =>
    by_cases houtside : ∀ next, world.holder? key ≠ some (.item next)
    · rw [outermost?_of_outside hnested houtside]
      constructor
      · intro hends
        cases hends with
        | outside h => rfl
        | further h hrest => exact absurd h (houtside _)
      · rintro rfl
        exact .outside houtside
    · obtain ⟨next, hnext⟩ := not_forall_not.mp houtside
      rw [outermost?_of_item hnested hnext, ← ih next hnext]
      constructor
      · intro hends
        cases hends with
        | outside h => exact absurd hnext (h next)
        | further h hrest =>
          cases hnext.symm.trans h
          exact hrest
      · exact .further hnext

end Outward

/-! ## Looking inward -/

/-- A container lists an item as what is in it. -/
def Contains (world : World) (outer inner : ItemKey) : Prop :=
  inner ∈ world.contents (.item outer)

/-- Containers list only items that name them. -/
def ContainersOwn (world : World) : Prop := ∀ outer, world.ListsOwn (.item outer)

theorem contains_of_contents {key inner : ItemKey} {item : Item}
    (hitem : world.item? key = some item) (hcontents : item.contents = some inner) :
    world.Contains key inner := by
  simp [Contains, contents_item, hitem, hcontents]

/-- Only items that exist contain others. -/
theorem slot_lt_of_contains (outer inner : ItemKey) (h : world.Contains outer inner) :
    outer.slot < world.items.length := by
  rw [← isSome_item?_iff]
  cases hitem : world.item? outer with
  | none => simp [Contains, contents_item, hitem] at h
  | some item => rfl

/-- No item contains itself, at any depth. -/
theorem Nested.acyclic_contains (hnested : world.Nested) (hown : world.ContainersOwn)
    (key : ItemKey) : ¬ TransGen world.Contains key key := by
  intro hcycle
  refine hnested.acyclic key (transGen_swap.mp ?_)
  exact TransGen.mono (fun outer inner h => hown outer inner h) _ _ hcycle

section Inward

variable (hnested : world.Nested) (hown : world.ContainersOwn)
include hnested hown

/-- What an item contains is reached in fewer steps. -/
theorem reach_contents {depth : Nat} {key inner : ItemKey} {item : Item}
    (h : reach world.Contains world.items.length key ≤ depth + 1)
    (hitem : world.item? key = some item) (hcontents : item.contents = some inner) :
    reach world.Contains world.items.length inner ≤ depth := by
  have hlt := reach_lt slot_lt_of_contains (hnested.acyclic_contains hown)
    (contains_of_contents hitem hcontents)
  omega

/-- Weighing an item ends, and only with the weight down to any depth that has room for all items to
come to. -/
theorem weighingEnds_iff {depth : Nat} {key : ItemKey} {weight : Nat}
    (h : reach world.Contains world.items.length key ≤ depth) :
    world.WeighingEnds key weight ↔ weight = world.weightWithin depth key := by
  induction depth generalizing key weight with
  | zero =>
    have hmissing := item?_eq_none_of_reach (Nat.le_zero.mp h)
    constructor
    · intro hends
      cases hends <;> simp_all [weightWithin]
    · rintro rfl
      exact .missing hmissing
  | succ depth ih =>
    rw [weightWithin]
    cases hitem : world.item? key with
    | none =>
      constructor
      · intro hends
        cases hends <;> simp_all
      · rintro rfl
        exact .missing hitem
    | some item =>
      dsimp only
      cases hworn : item.isWorn with
      | true =>
        constructor
        · intro hends
          cases hends <;> simp_all
        · rintro rfl
          exact .worn hitem hworn
      | false =>
        cases hcontents : item.contents with
        | none =>
          constructor
          · intro hends
            cases hends <;> simp_all
          · rintro rfl
            exact .empty hitem hworn hcontents
        | some inner =>
          have hle := reach_contents hnested hown h hitem hcontents
          constructor
          · intro hends
            cases hends with
            | filled hfound hlight hholds hinner =>
              cases hitem.symm.trans hfound
              cases hcontents.symm.trans hholds
              rw [(ih hle).mp hinner]
              rfl
            | _ => simp_all
          · rintro rfl
            exact .filled hitem hworn hcontents ((ih hle).mpr rfl)

/-- Naming an item ends, and only with the name down to any depth that has room for all items to
come to. -/
theorem namingEnds_iff {depth : Nat} {key : ItemKey} {name : String}
    (h : reach world.Contains world.items.length key ≤ depth) :
    world.NamingEnds key name ↔ name = world.listNameWithin depth key := by
  induction depth generalizing key name with
  | zero =>
    have hmissing := item?_eq_none_of_reach (Nat.le_zero.mp h)
    constructor
    · intro hends
      cases hends <;> simp_all [listNameWithin]
    · rintro rfl
      exact .missing hmissing
  | succ depth ih =>
    rw [listNameWithin]
    cases hitem : world.item? key with
    | none =>
      constructor
      · intro hends
        cases hends <;> simp_all
      · rintro rfl
        exact .missing hitem
    | some item =>
      dsimp only
      cases hcontents : item.contents with
      | none =>
        change _ ↔ name = world.nameWithState key item ++ ""
        rw [String.append_empty]
        constructor
        · intro hends
          cases hends <;> simp_all
        · rintro rfl
          exact .empty hitem hcontents
      | some inner =>
        have hle := reach_contents hnested hown h hitem hcontents
        change _ ↔ name = world.nameWithState key item ++
          (" containing " ++ world.listNameWithin depth inner)
        constructor
        · intro hends
          cases hends with
          | filled hfound hholds hinner =>
            cases hitem.symm.trans hfound
            cases hcontents.symm.trans hholds
            rw [(ih hle).mp hinner]
          | _ => simp_all
        · rintro rfl
          exact .filled hitem hcontents ((ih hle).mpr rfl)

end Inward

/-! ## Worlds built by operations -/

/-- Containers that list only their own items do so after every move. -/
theorem ContainersOwn.move (hown : world.ContainersOwn) (hmove : Move world changed) :
    changed.ContainersOwn :=
  fun outer => ListsOwn.move (hown outer) hmove

/-- An addition keeps containers from listing others' items, since a new item is empty. -/
theorem ContainersOwn.add {operation : Operation} (hown : world.ContainersOwn)
    (hempty : operation.addsEmptyItem = true) (hadd : Addition world operation changed) :
    changed.ContainersOwn := by
  intro outer inner hinner
  rw [hadd.holder?_eq]
  refine hown outer inner ?_
  cases hadd with
  | location location => rwa [contents_addLocation, if_neg (by simp)] at hinner
  | inventory inventory => rwa [contents_addInventory, if_neg (by simp)] at hinner
  | item item =>
    have hnone : item.contents = none := Option.isNone_iff_eq_none.mp hempty
    rw [contents_addItem, hnone] at hinner
    by_cases heq : Holder.item outer = .item world.nextKey
    · simp [heq] at hinner
    · rwa [if_neg heq] at hinner

/-- Operations that add only empty items leave containers that list only their own items. -/
theorem ContainersOwn.after {operations : List Operation} (hown : world.ContainersOwn)
    (hempty : ∀ operation ∈ operations, operation.addsEmptyItem = true) :
    (world.after operations).ContainersOwn :=
  after_keeps (fun _ operation hmem _ hadd h => h.add (hempty operation hmem) hadd)
    (fun _ _ hmove h => h.move hmove) hown

/-- **No containment cycle.** After any operations on a new world, successful or refused, nobody who
walks outward from an item meets an item twice. So the search for an enclosing item and the walk to
the outermost holder end without a limit, with the results of the walks that have one and no others;
and what encloses an item is what the way outward from it meets. If moreover all items were added
empty, the same holds of the way inward, and so weighing and naming an item end, too.

That is asked because an addition only clears the holder that the item names. It keeps the contents
that the item comes with and looks at nothing, so that an item added with itself for its contents
would contain itself. New items are empty: `Item.ofAttributes` makes no other ones, items are built
from declarations in no other way, and afterwards only moves fill them. -/
theorem acyclic_after (name : String) (start : LocationId) (operations : List Operation) :
    let world := (new name start).after operations
    (∀ key, ¬ TransGen world.Inside key key) ∧
      (∀ outer inner,
        (∀ answer, world.SearchEnds outer inner answer ↔ answer = world.encloses outer inner) ∧
        (world.encloses outer inner = true ↔ TransGen world.Inside inner outer)) ∧
      (∀ key, (∀ top, world.ClimbEnds key top ↔ top = world.outermost? key) ∧
        ∀ steps, world.items.length ≤ steps →
          world.holdersWithin steps key = world.holders key) ∧
      ((∀ operation ∈ operations, operation.addsEmptyItem = true) →
        ∀ key, ¬ TransGen world.Contains key key ∧
          (∀ weight, world.WeighingEnds key weight ↔ weight = world.weight key) ∧
          ∀ told, world.NamingEnds key told ↔ told = world.listName key) := by
  intro world
  have hnested : world.Nested := (nested_new name start).after
  refine ⟨hnested.acyclic, fun outer inner => ?_, fun key => ?_, fun hempty key => ?_⟩
  · exact ⟨fun answer => searchEnds_iff hnested outer, hnested.encloses_iff outer inner⟩
  · exact ⟨fun top => climbEnds_iff hnested, fun _ => hnested.holdersWithin_eq_holders key⟩
  · have hown : world.ContainersOwn :=
      ContainersOwn.after (fun outer inner h => by simp [contents, item?, new] at h) hempty
    exact ⟨hnested.acyclic_contains hown key,
      fun weight => weighingEnds_iff hnested hown (reach_le key),
      fun told => namingEnds_iff hnested hown ((reach_le key).trans (Nat.le_succ _))⟩

/-- The packing of a mug adds its items empty, so after it everything can be weighed and named. -/
theorem acyclic_after_packing :
    let world := (new "packing" ⟨1⟩).after packing
    (∀ operation ∈ packing, operation.addsEmptyItem = true) ∧
      ∀ key, ¬ TransGen world.Contains key key ∧
        (∀ weight, world.WeighingEnds key weight ↔ weight = world.weight key) ∧
        ∀ told, world.NamingEnds key told ↔ told = world.listName key :=
  ⟨by decide, (acyclic_after "packing" ⟨1⟩ packing).2.2.2 (by decide)⟩

end Adventure.World
