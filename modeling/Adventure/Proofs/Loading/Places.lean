import Adventure.Proofs.Loading.Records
import Adventure.Proofs.Loading.Survivors
import Mathlib.Logic.Relation

/-!
# Declared places

An item is declared to be in a location, in an inventory or in another item. Where that is follows
from the index, whose items stand in the order of their keys. What can stand against it follows from
the declarations alone: the other item may be no container, another item may be declared to be in
it, too, or the item may be declared to be inside itself.
-/

namespace Adventure

open Loading Relation

/-! ## What stands against a place -/

/-- A declared item is a container. -/
def ItemDecl.IsContainer (declared : ItemDecl) : Prop :=
  ∃ attributes : ItemFlags, Flags.parse declared.attributes = .ok attributes ∧
    attributes.has ItemFlags.container = true

/-- Of some declared items, one is declared to be in another one. -/
def PlacedInside (items : List ItemDecl) (inner outer : DataId) : Prop :=
  ∃ declared ∈ items, declared.id = inner ∧ declared.placement = some (.item outer)

/-- What stands against putting a declared item where it is declared to be. -/
inductive ItemDecl.Conflict (items : List ItemDecl) (declared : ItemDecl) : Prop
  /-- It is declared to be in an item that is no container. -/
  | solid {container : ItemDecl} (hplace : declared.placement = some (.item container.id))
      (hmem : container ∈ items) (hsolid : ¬ container.IsContainer)
  /-- Another item is declared to be in the same item. -/
  | shared {outer : DataId} {other : ItemDecl} (hplace : declared.placement = some (.item outer))
      (hmem : other ∈ items) (hother : other.placement = some (.item outer))
      (hne : other.id ≠ declared.id)
  /-- It is declared to be inside itself. -/
  | circular (hcycle : TransGen (PlacedInside items) declared.id declared.id)

/-! ## What is said of a place -/

namespace HolderDecl

/-- What a declared holder is. -/
def noun : HolderDecl → String
  | location _ => "location"
  | item _ => "item"
  | inventory _ => "inventory"

/-- The number of a declared holder. -/
def num : HolderDecl → Nat
  | location id => id.num
  | item id => id.num
  | inventory id => id.num

end HolderDecl

/-- What is said of an item that is declared to be in what is not declared. -/
def unknownPlace (id : DataId) (place : HolderDecl) : Diagnostic :=
  let context := s!"placement of item {id}"
  .error s!"{context} refers to unknown {place.noun} {place.num}"

/-- What is said of an item that cannot be put where it is declared to be. -/
def unplaceable (id : DataId) (refusal : WorldError) : Diagnostic :=
  .error s!"item {id} could not be placed: {refusal.message}"

namespace Directory

variable (directory : Directory)

/-- The holder that a place means, if it is declared. -/
def holderAt? : HolderDecl → Option Holder
  | .location id => if directory.locations.contains id then some (.location id) else none
  | .item id => (directory.itemKey? id).map .item
  | .inventory id => if directory.inventories.contains id then some (.inventory id) else none

/-! ## Keys -/

/-- The declared items are those of a list, in its order, and have numbers of their own. -/
structure Registers (items : List ItemDecl) : Prop where
  /-- The entries are those of the list. -/
  entries_eq : directory.items.entries = items.map fun declared => (declared.id, declared)
  /-- No number is declared twice. -/
  nodup : (items.map ItemDecl.id).Nodup

variable {directory} {items : List ItemDecl} {declared : ItemDecl} {id : DataId} {key : ItemKey}

/-- A number has the key at which its item is declared. -/
theorem Registers.itemKey?_eq_some_iff (h : directory.Registers items) :
    directory.itemKey? id = some key ↔ (items.map ItemDecl.id)[key.slot]? = some id := by
  have hkey : directory.itemKey? id =
      ((items.map ItemDecl.id).findIdx? (· == id)).map ItemKey.mk := by
    rw [itemKey?, h.entries_eq, List.findIdx?_map, List.findIdx?_map]
    rfl
  rw [hkey, Option.map_eq_some_iff]
  constructor
  · rintro ⟨slot, hslot, rfl⟩
    obtain ⟨hlt, hid, -⟩ := List.findIdx?_eq_some_iff_getElem.mp hslot
    rw [List.getElem?_eq_getElem hlt, beq_iff_eq.mp hid]
  · intro hid
    obtain ⟨hlt, rfl⟩ := List.getElem?_eq_some_iff.mp hid
    refine ⟨key.slot, List.findIdx?_eq_some_iff_getElem.mpr ⟨hlt, beq_self_eq_true _, ?_⟩, rfl⟩
    intro slot hslot hsame
    have heq := (h.nodup.getElem_inj_iff).mp (beq_iff_eq.mp hsame)
    omega

/-- A key is that of one number only. -/
theorem Registers.itemKey?_inj (h : directory.Registers items) (first last : DataId) (key : ItemKey)
    (hfirst : directory.itemKey? first = some key) (hlast : directory.itemKey? last = some key) :
    first = last := by
  rw [h.itemKey?_eq_some_iff] at hfirst hlast
  exact Option.some.inj (hfirst.symm.trans hlast)

/-- A declared item has a key. -/
theorem Registers.exists_key (h : directory.Registers items) (hmem : declared ∈ items) :
    ∃ key, directory.itemKey? declared.id = some key := by
  obtain ⟨slot, hslot⟩ := List.mem_iff_getElem?.mp (List.mem_map_of_mem (f := ItemDecl.id) hmem)
  exact ⟨⟨slot⟩, h.itemKey?_eq_some_iff.mpr hslot⟩

/-- A number that has a key is that of a declared item. -/
theorem Registers.exists_declared (h : directory.Registers items)
    (hkey : directory.itemKey? id = some key) : ∃ declared ∈ items, declared.id = id :=
  List.mem_map.mp (List.mem_of_getElem? (h.itemKey?_eq_some_iff.mp hkey))

/-- The item at a key. -/
theorem Registers.getElem? (h : directory.Registers items) (hmem : declared ∈ items)
    (hkey : directory.itemKey? declared.id = some key) : items[key.slot]? = some declared := by
  have hid := h.itemKey?_eq_some_iff.mp hkey
  rw [List.getElem?_map, Option.map_eq_some_iff] at hid
  obtain ⟨found, hfound, heq⟩ := hid
  rw [hfound, List.inj_on_of_nodup_map h.nodup (List.mem_of_getElem? hfound) hmem heq]

/-! ## References to places -/

variable {place : HolderDecl} {holder : Holder}

/-- A declared holder is the one that is meant. -/
theorem resolve_of_holderAt? (h : directory.holderAt? place = some holder) :
    place.resolve directory.itemKey? = some holder := by
  cases place with
  | item id => exact h
  | location id | inventory id =>
    simp only [holderAt?] at h
    split at h
    · exact h
    · cases h

/-- A declared holder can be referred to. -/
theorem in_of_holderAt? (h : directory.holderAt? place = some holder) :
    holder.In directory.scope := by
  cases place with
  | item id =>
    obtain ⟨key, hkey, rfl⟩ := Option.map_eq_some_iff.mp h
    obtain ⟨slot, hslot, rfl⟩ := Option.map_eq_some_iff.mp hkey
    exact (List.findIdx?_eq_some_iff_getElem.mp hslot).1
  | location id | inventory id =>
    simp only [holderAt?, Option.ite_none_right_eq_some, Option.some.injEq] at h
    obtain ⟨hknown, rfl⟩ := h
    exact hknown

/-- Only a place in an item means an item. -/
theorem holderAt?_eq_item_iff {outer : ItemKey} : directory.holderAt? place = some (.item outer) ↔
    ∃ id, place = .item id ∧ directory.itemKey? id = some outer := by
  cases place with
  | item id => simp [holderAt?]
  | location id | inventory id => simp [holderAt?]

/-- A reference to a place finds its holder, or says that it is not declared. -/
theorem tells_holderRef (place : HolderDecl) (context : String) :
    Tells (directory.holderRef place context) fun added found? =>
      found? = directory.holderAt? place ∧ added = if found?.isSome then []
        else [.error s!"{context} refers to unknown {place.noun} {place.num}"] := by
  have hdangling {α : Type} (f : α → Holder) (noun : String) (num : Nat) :
      Tells (do return (← dangling context noun num).map f) fun added found? =>
        found? = none ∧ added = [.error s!"{context} refers to unknown {noun} {num}"] :=
    Tells.map (R := fun added found? => found? = none ∧
        added = [.error s!"{context} refers to unknown {noun} {num}"])
      (Tells.noting ⟨rfl, rfl⟩) fun _ _ ⟨hnone, hadded⟩ => ⟨by rw [hnone]; rfl, hadded⟩
  unfold holderRef
  cases place with
  | location id | inventory id =>
    simp only [locationRef, inventoryRef, holderAt?]
    split
    · exact .pure ⟨rfl, rfl⟩
    · refine (hdangling _ _ _).mono ?_
      rintro _ _ ⟨rfl, rfl⟩
      exact ⟨rfl, rfl⟩
  | item id =>
    simp only [itemRef, holderAt?]
    split
    · rename_i key hkey
      exact .pure ⟨by rw [hkey], rfl⟩
    · rename_i hnone
      refine (hdangling _ _ _).mono ?_
      rintro _ _ ⟨rfl, rfl⟩
      exact ⟨by rw [hnone]; rfl, rfl⟩

end Directory

end Adventure
