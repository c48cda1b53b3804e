import Adventure.Proofs.World.Exclusive
import Adventure.Proofs.World.Whereabouts

/-!
# Where items come from

An item is declared under a number, or it is a copy of another item and has the number of that one.
Neither ever changes while things are moved about. The slots of copies are counted here by where the
copies come from, and so are the copies that are somewhere.
-/

namespace Adventure

/-- Where an item comes from: the number that it has, and the item that it was copied from. -/
abbrev Origin := DataId × Option ItemKey

namespace Origin

/-- Whether something with this origin was copied from an item. -/
def isCopyOf (model : ItemKey) (origin : Origin) : Bool := origin.2 == some model

/-- Whether something with this origin is a copy with a number, whatever it was copied from. -/
def isCopyWith (id : DataId) (origin : Origin) : Bool := origin.1 == id && origin.2.isSome

end Origin

/-- Where the item comes from. -/
def Item.origin (item : Item) : Origin := (item.dataId, item.copyOf)

namespace World

/-- Where the items come from, in their order. -/
def origins (world : World) : List Origin := world.items.map Item.origin

/-- The number of slots of a kind. -/
def slots (world : World) (kind : Origin → Bool) : Nat :=
  world.items.countP fun item => kind item.origin

/-- The number of slots of a kind with an item that is somewhere. -/
def present (world : World) (kind : Origin → Bool) : Nat :=
  world.items.countP fun item => kind item.origin && item.holder.isSome

/-- Copies have the numbers of what they were copied from. -/
def Faithful (world : World) : Prop :=
  ∀ id model, (id, some model) ∈ world.origins →
    ∃ source, world.origins[model.slot]? = some (id, source)

variable {world changed : World} {holder : Holder} {key copy : ItemKey} {kind : Origin → Bool}

/-! ## Origins and counts -/

theorem getElem?_origins (world : World) (key : ItemKey) :
    world.origins[key.slot]? = (world.item? key).map Item.origin := List.getElem?_map

theorem mem_origins {origin : Origin} :
    origin ∈ world.origins ↔ ∃ key item, world.item? key = some item ∧ item.origin = origin := by
  unfold origins
  rw [List.mem_map]
  constructor
  · rintro ⟨item, hitem, rfl⟩
    obtain ⟨slot, hslot⟩ := List.mem_iff_getElem?.mp hitem
    exact ⟨⟨slot⟩, item, hslot, rfl⟩
  · rintro ⟨key, item, hitem, rfl⟩
    exact ⟨item, List.mem_iff_getElem?.mpr ⟨key.slot, hitem⟩, rfl⟩

/-- Slots can be counted without looking at the items. -/
theorem slots_eq (world : World) (kind : Origin → Bool) :
    world.slots kind = world.origins.countP kind := List.countP_map.symm

/-- No more items of a kind are somewhere than there are slots of it. -/
theorem present_le_slots (world : World) (kind : Origin → Bool) :
    world.present kind ≤ world.slots kind :=
  List.countP_mono_left fun _ _ h => (Bool.and_eq_true_iff.mp h).1

/-- Kinds that agree on all items of a world have equally many of them somewhere. -/
theorem present_congr {other : Origin → Bool}
    (h : ∀ origin ∈ world.origins, kind origin = other origin) :
    world.present kind = world.present other :=
  List.countP_congr fun item hitem => by rw [h _ (List.mem_map_of_mem hitem)]

/-! ## Numbers of their own -/

/-- Items that are no copies have numbers of their own. -/
def Distinct (world : World) : Prop :=
  ∀ (first last : Nat) (number : DataId), world.origins[first]? = some (number, none) →
    world.origins[last]? = some (number, none) → first = last

/-- The only entry that passes a test is found by it. -/
theorem find?_of_only {α : Type} {entries : List α} {test : α → Bool} {entry : α}
    (hmem : entry ∈ entries) (htest : test entry = true)
    (honly : ∀ other ∈ entries, test other = true → other = entry) :
    entries.find? test = some entry := by
  cases hfind : entries.find? test with
  | none => exact absurd htest (List.find?_eq_none.mp hfind entry hmem)
  | some found => rw [honly found (List.mem_of_find?_eq_some hfind) (List.find?_some hfind)]

/-- If items have numbers of their own, a number finds the item that has it, and no copy. -/
theorem Distinct.declaredItem?_eq (h : world.Distinct) (id : DataId) :
    world.declaredItem? id = (world.origins.findIdx? (· == (id, none))).map ItemKey.mk := by
  have htest {entry : ItemKey × Item} (hentry : entry ∈ world.keyedItems.reverse) :
      (entry.2.dataId == id && entry.2.copyOf.isNone) = true ↔
        world.origins[entry.1.slot]? = some (id, none) := by
    rw [getElem?_origins, mem_keyedItems.mp (List.mem_reverse.mp hentry)]
    simp [Item.origin]
  unfold declaredItem?
  cases hfind : world.origins.findIdx? (· == (id, none)) with
  | none =>
    rw [List.find?_eq_none.mpr fun entry hentry hfound => ?_]
    · rfl
    · have hmem := List.mem_of_getElem? ((htest hentry).mp hfound)
      simpa using List.findIdx?_eq_none_iff.mp hfind _ hmem
  | some slot =>
    obtain ⟨hslot, horigin, -⟩ := List.findIdx?_eq_some_iff_getElem.mp hfind
    have hplace : world.origins[slot]? = some (id, none) := by
      rw [List.getElem?_eq_getElem hslot, beq_iff_eq.mp horigin]
    obtain ⟨item, hitem, -⟩ :=
      Option.map_eq_some_iff.mp ((world.getElem?_origins ⟨slot⟩).symm.trans hplace)
    have hentry : (⟨slot⟩, item) ∈ world.keyedItems.reverse :=
      List.mem_reverse.mpr (mem_keyedItems.mpr hitem)
    rw [find?_of_only hentry ((htest hentry).mpr hplace)]
    · rfl
    · rintro ⟨⟨other⟩, same⟩ hother hfound
      cases h other slot id ((htest hother).mp hfound) hplace
      have hsame := mem_keyedItems.mp (List.mem_reverse.mp hother)
      rw [Option.some.inj (hsame.symm.trans hitem)]

/-! ## What leaves the origins alone -/

theorem origins_modifyItem {f : Item → Item}
    (h : ∀ item, world.item? key = some item → (f item).origin = item.origin) :
    (world.modifyItem key f).origins = world.origins := by
  refine List.ext_getElem? fun slot => ?_
  have hlookups (world : World) := world.getElem?_origins ⟨slot⟩
  rw [hlookups, hlookups, item?_modifyItem]
  by_cases heq : (⟨slot⟩ : ItemKey) = key
  · rw [if_pos heq, heq]
    cases hitem : world.item? key with
    | none => rfl
    | some item => exact congrArg some (h item hitem)
  · rw [if_neg heq]

theorem origins_unlist : (world.unlist key holder).origins = world.origins := by
  cases holder with
  | location id => rfl
  | inventory id => rfl
  | item outer =>
    refine origins_modifyItem fun item _ => ?_
    split <;> rfl

theorem origins_list : (world.list key holder).origins = world.origins := by
  cases holder with
  | location id => rfl
  | inventory id => rfl
  | item outer => exact origins_modifyItem fun _ _ => rfl

theorem origins_remove {previous : Option Holder} (h : world.remove key = .ok (changed, previous)) :
    changed.origins = world.origins := by
  obtain ⟨-, -, ⟨-, rfl⟩ | ⟨holder, -, rfl⟩⟩ := remove_cases h
  · exact origins_modifyItem fun _ _ => rfl
  · exact origins_unlist.trans (origins_modifyItem fun _ _ => rfl)

theorem origins_insert (h : world.insert holder key = .ok changed) :
    changed.origins = world.origins := by
  obtain ⟨-, removed, hremove, rfl⟩ := insert_cases h
  exact (origins_modifyItem fun _ _ => by rfl).trans (origins_list.trans (origins_remove hremove))

theorem origins_destroy (h : world.destroy key = .ok changed) :
    changed.origins = world.origins := by
  obtain ⟨previous, hremove⟩ := destroy_cases h
  exact (origins_remove hremove).trans (origins_modifyItem fun _ _ => rfl)

/-! ## Copies -/

/-- No copy of an item is nowhere. -/
def Unspent (world : World) (model : ItemKey) : Prop := ∀ slot, ¬ world.IsSpentCopy model slot

theorem isSpentCopy_iff {model slot : ItemKey} : world.IsSpentCopy model slot ↔
    (∃ id, world.origins[slot.slot]? = some (id, some model)) ∧ world.holder? slot = none := by
  rw [getElem?_origins, holder?]
  constructor
  · rintro ⟨item, hitem, hmodel, hnowhere⟩
    rw [hitem]
    exact ⟨⟨item.dataId, by rw [Option.map_some, Item.origin, hmodel]⟩, hnowhere⟩
  · rintro ⟨⟨id, horigin⟩, hnowhere⟩
    obtain ⟨item, hitem, heq⟩ := Option.map_eq_some_iff.mp horigin
    rw [hitem] at hnowhere
    exact ⟨item, hitem, congrArg Prod.snd heq, hnowhere⟩

/-- If no copy of an item is nowhere, as many copies of it are somewhere as there are slots. -/
theorem Unspent.present_eq_slots {model : ItemKey} (h : world.Unspent model) :
    world.present (Origin.isCopyOf model) = world.slots (Origin.isCopyOf model) := by
  refine List.countP_congr fun item hitem => ?_
  obtain ⟨slot, hslot⟩ := List.mem_iff_getElem?.mp hitem
  rw [Bool.and_eq_true, and_iff_left_iff_imp]
  intro hkind
  by_contra hnowhere
  exact h ⟨slot⟩ ⟨item, hslot, beq_iff_eq.mp hkind, by simpa using hnowhere⟩

/-- Copies of an item that were somewhere are still somewhere. -/
theorem Unspent.of_holder {model : ItemKey} (h : world.Unspent model)
    (horigins : changed.origins = world.origins)
    (hholder : ∀ slot id, world.origins[slot.slot]? = some (id, some model) →
      world.holder? slot ≠ none → changed.holder? slot ≠ none) : changed.Unspent model := by
  intro slot hspent
  obtain ⟨⟨id, hcopy⟩, hnowhere⟩ := isSpentCopy_iff.mp hspent
  rw [horigins] at hcopy
  refine hholder slot id hcopy (fun hbefore => ?_) hnowhere
  exact h slot (isSpentCopy_iff.mpr ⟨⟨id, hcopy⟩, hbefore⟩)

/-- How copies come about: none does, or one does of an item of which no copy is nowhere then. -/
inductive Copies (world changed : World) : Prop
  /-- All items come from where they came from. -/
  | same (h : changed.origins = world.origins)
  /-- There is one more copy, and no copy of the same item is nowhere. -/
  | added {key : ItemKey} {number : DataId} {source : Option ItemKey}
      (hmodel : world.origins[key.slot]? = some (number, source))
      (horigins : changed.origins = world.origins ++ [(number, some key)])
      (hunspent : changed.Unspent key)

/-- How copies come about depends on where the items came from before, and on nothing else there. -/
theorem Copies.of_origins {other : World} (h : other.Copies changed)
    (horigins : other.origins = world.origins) : world.Copies changed := by
  cases h with
  | same h => exact .same (h.trans horigins)
  | added hmodel hnew hunspent =>
    rw [horigins] at hmodel hnew
    exact .added hmodel hnew hunspent

theorem Copies.after {between : World} (h : world.Copies between)
    (horigins : changed.origins = between.origins)
    (hholder : ∀ slot id model, between.origins[slot.slot]? = some (id, some model) →
      between.holder? slot ≠ none → changed.holder? slot ≠ none) : world.Copies changed := by
  cases h with
  | same h => exact .same (horigins.trans h)
  | added hmodel hnew hunspent =>
    refine .added hmodel (horigins.trans hnew) (hunspent.of_holder horigins ?_)
    exact fun slot id => hholder slot id _

/-- Items that were there come from where they came from. -/
theorem Copies.origins_extend (h : world.Copies changed) : world.origins <+: changed.origins := by
  cases h with
  | same h => exact h ▸ List.prefix_rfl
  | added _ horigins _ => exact horigins ▸ List.prefix_append _ _

/-- Where an item came from, it comes from ever after. -/
theorem getElem?_of_extends (h : world.origins <+: changed.origins) {slot : Nat} {origin : Origin}
    (hslot : world.origins[slot]? = some origin) : changed.origins[slot]? = some origin := by
  obtain ⟨rest, hrest⟩ := h
  rw [← hrest, List.getElem?_append_left (List.getElem?_eq_some_iff.mp hslot).1, hslot]

/-- Copies still have the numbers of what they were copied from. -/
theorem Copies.faithful (h : world.Copies changed) (hfaithful : world.Faithful) :
    changed.Faithful := by
  intro id model hmem
  have hbefore : ∃ source, world.origins[model.slot]? = some (id, source) := by
    cases h with
    | same h => exact hfaithful id model (h ▸ hmem)
    | added hmodel horigins _ =>
      rcases List.mem_append.mp (horigins ▸ hmem) with hbefore | hmade
      · exact hfaithful id model hbefore
      · cases List.mem_singleton.mp hmade
        exact ⟨_, hmodel⟩
  obtain ⟨source, hsource⟩ := hbefore
  exact ⟨source, getElem?_of_extends h.origins_extend hsource⟩

/-- A copy has the number of the item that it was copied from. -/
theorem Faithful.dataId_eq (hfaithful : world.Faithful) {slot model : ItemKey} {item source : Item}
    (hslot : world.item? slot = some item) (hmodel : item.copyOf = some model)
    (hsource : world.item? model = some source) : source.dataId = item.dataId := by
  have horigin : item.origin = (item.dataId, some model) := by rw [Item.origin, hmodel]
  obtain ⟨before, hbefore⟩ := hfaithful _ _ (horigin ▸ mem_origins.mpr ⟨slot, item, hslot, rfl⟩)
  rw [getElem?_origins, hsource] at hbefore
  exact congrArg Prod.fst (Option.some.inj hbefore)

/-- A copy takes the slot of an earlier copy of the same item, or a new slot if no copy of the item
is nowhere. Once it has been put somewhere, none is. -/
theorem copies_insert {copied : World} (hfaithful : world.Faithful)
    (hcopy : world.copyItem key = .ok (copied, copy))
    (hinsert : copied.insert holder copy = .ok changed) : world.Copies changed := by
  have hplaced : changed.origins = copied.origins := origins_insert hinsert
  have hholder (slot : ItemKey) :
      changed.holder? slot = if slot = copy then some holder else world.holder? slot := by
    rw [holder?_insert hinsert, holder?_copyItem hcopy]
  obtain ⟨item, hitem, ⟨⟨spent, hspent, hmodel, -⟩, rfl⟩ | ⟨hunspent, hnew, rfl⟩⟩ :=
    copyItem_cases hcopy
  · refine .same (hplaced.trans (origins_modifyItem fun before hbefore => ?_))
    cases hspent.symm.trans hbefore
    have hid := hfaithful.dataId_eq hspent hmodel hitem
    exact Prod.ext hid hmodel.symm
  · have horigins : changed.origins = world.origins ++ [(item.dataId, some key)] := by
      rw [hplaced]
      simp [origins, Item.origin, Item.withContents]
    have hmodel : world.origins[key.slot]? = some item.origin := by
      rw [getElem?_origins, hitem]
      rfl
    refine .added hmodel horigins fun slot hspent => ?_
    obtain ⟨⟨id, hslot⟩, hnowhere⟩ := isSpentCopy_iff.mp hspent
    -- The slot is an old one, since the new one is where the copy was put.
    rw [hholder] at hnowhere
    have hold : slot ≠ copy := fun heq => by
      rw [if_pos heq] at hnowhere
      cases hnowhere
    rw [if_neg hold] at hnowhere
    have hbefore : slot.slot < world.origins.length := by
      have hlength := (List.getElem?_eq_some_iff.mp hslot).1
      have hne : slot.slot ≠ world.items.length := fun heq => hold (by rw [hnew, nextKey, ← heq])
      rw [horigins, List.length_append, List.length_singleton] at hlength
      unfold origins at hlength ⊢
      rw [List.length_map] at hlength ⊢
      omega
    rw [horigins, List.getElem?_append_left hbefore] at hslot
    exact hunspent slot (isSpentCopy_iff.mpr ⟨⟨id, hslot⟩, hnowhere⟩)

/-- Since copies of an item take new slots only when none of them is nowhere, there are as many
slots for them as there were, or as many as copies are somewhere. -/
theorem Copies.slots_eq_max (h : world.Copies changed) (model : ItemKey) :
    changed.slots (Origin.isCopyOf model) =
      max (world.slots (Origin.isCopyOf model)) (changed.present (Origin.isCopyOf model)) := by
  have hmost := changed.present_le_slots (Origin.isCopyOf model)
  cases h with
  | same h =>
    rw [slots_eq, h, ← slots_eq] at hmost ⊢
    omega
  | @added key _ _ hmodel horigins hunspent =>
    have hslots : changed.slots (Origin.isCopyOf model) = world.slots (Origin.isCopyOf model) +
        if key = model then 1 else 0 := by
      rw [slots_eq, horigins, List.countP_append, ← slots_eq, List.countP_singleton]
      simp [Origin.isCopyOf]
    by_cases heq : key = model
    · subst heq
      have hall := hunspent.present_eq_slots
      omega
    · rw [if_neg heq] at hslots
      omega

/-! ## Copies with a number -/

/-- The keys of all items and copies with a number. -/
def keysOf (world : World) (id : DataId) : List ItemKey :=
  (world.keyedItems.filter fun entry => entry.2.dataId == id).map Prod.fst

theorem mem_keysOf {id : DataId} : key ∈ world.keysOf id ↔
    ∃ source, world.origins[key.slot]? = some (id, source) := by
  unfold keysOf
  simp only [List.mem_map, List.mem_filter, beq_iff_eq, Prod.exists, exists_and_right,
    exists_eq_right, mem_keyedItems, getElem?_origins, Option.map_eq_some_iff]
  constructor
  · rintro ⟨item, hitem, rfl⟩
    exact ⟨item.copyOf, item, hitem, rfl⟩
  · rintro ⟨source, item, hitem, horigin⟩
    exact ⟨item, hitem, congrArg Prod.fst horigin⟩

theorem nodup_keysOf (world : World) (id : DataId) : (world.keysOf id).Nodup :=
  world.nodup_map_fst_keyedItems.sublist (List.filter_sublist.map Prod.fst)

/-- What is counted by either of two tests that never both succeed is counted by each. -/
theorem countP_or {α : Type} {first second : α → Bool} {entries : List α}
    (h : ∀ entry ∈ entries, first entry = true → second entry = false) :
    (entries.countP fun entry => first entry || second entry) =
      entries.countP first + entries.countP second := by
  induction entries with
  | nil => rfl
  | cons entry rest ih =>
    obtain ⟨hentry, hrest⟩ := List.forall_mem_cons.mp h
    rw [List.countP_cons, List.countP_cons, List.countP_cons, ih hrest]
    cases hfirst : first entry with
    | false => simp; omega
    | true => simp [hentry hfirst]; omega

/-- The copies with a number are told apart by what they were copied from, which has the number
too. -/
theorem slots_isCopyWith (hfaithful : world.Faithful) (id : DataId) :
    world.slots (Origin.isCopyWith id) =
      ((world.keysOf id).map fun model => world.slots (Origin.isCopyOf model)).sum := by
  have hparts (models : List ItemKey) (hnodup : models.Nodup) :
      (models.map fun model => world.origins.countP (Origin.isCopyOf model)).sum =
        world.origins.countP fun origin => models.any fun model => origin.isCopyOf model := by
    induction models with
    | nil => simp
    | cons model rest ih =>
      obtain ⟨hnew, hrest⟩ := List.nodup_cons.mp hnodup
      simp only [List.map_cons, List.sum_cons, List.any_cons]
      rw [ih hrest, countP_or]
      intro origin _ hmodel
      rw [List.any_eq_false]
      intro other hother hboth
      have hsame : other = model := Option.some.inj
        ((beq_iff_eq.mp hboth).symm.trans (beq_iff_eq.mp hmodel))
      exact hnew (hsame ▸ hother)
  simp only [slots_eq]
  rw [hparts _ (world.nodup_keysOf id)]
  refine List.countP_congr fun origin horigin => ?_
  obtain ⟨number, source⟩ := origin
  simp only [Origin.isCopyWith, Origin.isCopyOf, Bool.and_eq_true, beq_iff_eq, List.any_eq_true]
  constructor
  · rintro ⟨rfl, hsome⟩
    obtain ⟨model, rfl⟩ := Option.isSome_iff_exists.mp hsome
    exact ⟨model, mem_keysOf.mpr (hfaithful _ _ horigin), rfl⟩
  · rintro ⟨model, hmodel, rfl⟩
    obtain ⟨before, hbefore⟩ := mem_keysOf.mp hmodel
    obtain ⟨after, hafter⟩ := hfaithful _ _ horigin
    exact ⟨congrArg Prod.fst (Option.some.inj (hafter.symm.trans hbefore)), rfl⟩

end World

end Adventure
