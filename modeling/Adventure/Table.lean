/-!
# Sorted tables

A world looks its places, commands and texts up by key and lists them in key order. A table is the
ascending list of its entries; since each key occurs once and the order is fixed, two tables with
the same entries are the same table.
-/

namespace Adventure

/-- Keys that a table can sort: a strict linear order that can be decided. -/
class Key (κ : Type) extends LT κ where
  /-- The order can be decided. -/
  decideLt : DecidableLT κ
  /-- No key comes before itself. -/
  lt_irrefl : ∀ a : κ, ¬ a < a
  /-- The order is transitive. -/
  lt_trans : ∀ {a b c : κ}, a < b → b < c → a < c
  /-- Two different keys are ordered one way or the other. -/
  lt_total : ∀ a b : κ, a < b ∨ a = b ∨ b < a

attribute [reducible, instance] Key.decideLt

/-- Keys sorted by a number that tells them apart. -/
@[reducible] def Key.ofRank {κ : Type} (rank : κ → Nat)
    (rank_injective : ∀ a b, rank a = rank b → a = b) : Key κ where
  lt a b := rank a < rank b
  decideLt a b := inferInstanceAs (Decidable (rank a < rank b))
  lt_irrefl a := Nat.lt_irrefl (rank a)
  lt_trans := Nat.lt_trans
  lt_total a b := by
    rcases Nat.lt_trichotomy (rank a) (rank b) with h | h | h
    · exact .inl h
    · exact .inr (.inl (rank_injective a b h))
    · exact .inr (.inr h)

/-- Texts are sorted by the code points of their characters. -/
instance : Key String where
  decideLt := inferInstance
  lt_irrefl := String.lt_irrefl
  lt_trans := String.lt_trans
  lt_total a b := by
    by_cases hab : a < b
    · exact .inl hab
    · by_cases hba : b < a
      · exact .inr (.inr hba)
      · exact .inr (.inl (String.le_antisymm (String.not_lt.mp hba) (String.not_lt.mp hab)))

/-- A table from keys to values: its entries in ascending order of their keys. -/
structure Table (κ : Type) [Key κ] (α : Type) where
  /-- The entries, keys ascending. -/
  entries : List (κ × α) := []
  /-- Every key comes before all later ones. -/
  ascending : entries.Pairwise (fun a b => a.1 < b.1) := by exact .nil

namespace Table

variable {κ α β : Type} [Key κ]

/-- Put `value` under `key` into ascending entries, in place of what stood there. -/
def insertEntry (key : κ) (value : α) : List (κ × α) → List (κ × α)
  | [] => [(key, value)]
  | (k, v) :: rest =>
    if key < k then (key, value) :: (k, v) :: rest
    else if k < key then (k, v) :: insertEntry key value rest
    else (key, value) :: rest

theorem mem_insertEntry {key : κ} {value : α} {entry : κ × α} {entries : List (κ × α)}
    (h : entry ∈ insertEntry key value entries) : entry = (key, value) ∨ entry ∈ entries := by
  induction entries with
  | nil => simpa [insertEntry] using h
  | cons head rest ih =>
    obtain ⟨k, v⟩ := head
    unfold insertEntry at h
    split at h
    · simpa using h
    · split at h
      · rcases List.mem_cons.mp h with h | h
        · exact .inr (by simp [h])
        · exact (ih h).imp id fun h => by simp [h]
      · rcases List.mem_cons.mp h with h | h
        · exact .inl h
        · exact .inr (by simp [h])

/-- Insertion keeps the entries ascending. -/
theorem pairwise_insertEntry {key : κ} {value : α} {entries : List (κ × α)}
    (h : entries.Pairwise (fun a b => a.1 < b.1)) :
    (insertEntry key value entries).Pairwise (fun a b => a.1 < b.1) := by
  induction entries with
  | nil => simp [insertEntry]
  | cons head rest ih =>
    obtain ⟨k, v⟩ := head
    obtain ⟨hhead, hrest⟩ := List.pairwise_cons.mp h
    unfold insertEntry
    split
    · rename_i hlt
      refine List.pairwise_cons.mpr ⟨fun entry hentry => ?_, h⟩
      rcases List.mem_cons.mp hentry with rfl | hentry
      · exact hlt
      · exact Key.lt_trans hlt (hhead entry hentry)
    · rename_i hnlt
      split
      · rename_i hgt
        refine List.pairwise_cons.mpr ⟨fun entry hentry => ?_, ih hrest⟩
        rcases mem_insertEntry hentry with rfl | hentry
        · exact hgt
        · exact hhead entry hentry
      · rename_i hngt
        rcases Key.lt_total key k with hlt | rfl | hgt
        · exact absurd hlt hnlt
        · exact List.pairwise_cons.mpr ⟨hhead, hrest⟩
        · exact absurd hgt hngt

/-- The table without entries. -/
def empty : Table κ α := {}

instance : EmptyCollection (Table κ α) := ⟨empty⟩

/-- Put `value` under `key`, in place of what stood there. -/
def insert (table : Table κ α) (key : κ) (value : α) : Table κ α where
  entries := insertEntry key value table.entries
  ascending := pairwise_insertEntry table.ascending

/-- The table without the entry of `key`. -/
def erase [DecidableEq κ] (table : Table κ α) (key : κ) : Table κ α where
  entries := table.entries.filter (fun entry => entry.1 ≠ key)
  ascending := table.ascending.filter _

/-- The value under `key`. -/
def get? [DecidableEq κ] (table : Table κ α) (key : κ) : Option α :=
  table.entries.lookup key

/-- Whether `key` has a value. -/
def contains [DecidableEq κ] (table : Table κ α) (key : κ) : Bool :=
  (table.get? key).isSome

/-- Change every value in a way that may depend on its key. -/
def mapValues (table : Table κ α) (f : κ → α → β) : Table κ β where
  entries := table.entries.map (fun entry => (entry.1, f entry.1 entry.2))
  ascending := by
    rw [List.pairwise_map]
    exact table.ascending

/-- Change the value under `key`, if there is one. -/
def modify [DecidableEq κ] (table : Table κ α) (key : κ) (f : α → α) : Table κ α :=
  table.mapValues (fun k value => if k = key then f value else value)

/-- The keys, ascending. -/
def keys (table : Table κ α) : List κ := table.entries.map Prod.fst

/-- The values in the order of their keys. -/
def values (table : Table κ α) : List α := table.entries.map Prod.snd

/-- The number of entries. -/
def size (table : Table κ α) : Nat := table.entries.length

/-- The table of a list of entries, in which a later entry replaces an earlier one. -/
def ofList (entries : List (κ × α)) : Table κ α :=
  entries.foldl (fun table entry => table.insert entry.1 entry.2) ∅

/-! ## Lookups after an insertion -/

section Lookups

variable [DecidableEq κ]

omit [Key κ] in
theorem lookup_cons_eq_ite (key other : κ) (value : α) (rest : List (κ × α)) :
    ((key, value) :: rest).lookup other =
      if other = key then some value else rest.lookup other := by
  by_cases h : other = key
  · subst h
    simp
  · have hb : (other == key) = false := by simpa using h
    rw [List.lookup_cons, hb, if_neg h]

theorem lookup_insertEntry (key other : κ) (value : α) (entries : List (κ × α)) :
    (insertEntry key value entries).lookup other =
      if other = key then some value else entries.lookup other := by
  induction entries with
  | nil => rw [insertEntry, lookup_cons_eq_ite]
  | cons head rest ih =>
    obtain ⟨k, v⟩ := head
    unfold insertEntry
    split
    · rw [lookup_cons_eq_ite]
    · rename_i hlt
      split
      · rename_i hgt
        have hne : k ≠ key := fun heq => Key.lt_irrefl key (heq ▸ hgt)
        simp only [lookup_cons_eq_ite, ih]
        by_cases h : other = k
        · rw [if_pos h, if_neg (h ▸ hne), if_pos h]
        · rw [if_neg h, if_neg h]
      · rename_i hngt
        have heq : key = k := by
          rcases Key.lt_total key k with h | h | h
          · exact absurd h hlt
          · exact h
          · exact absurd h hngt
        subst heq
        simp only [lookup_cons_eq_ite]
        by_cases h : other = key
        · rw [if_pos h, if_pos h]
        · rw [if_neg h, if_neg h, if_neg h]

/-- After an insertion the key finds the new value and every other key what it found before. -/
theorem get?_insert (table : Table κ α) (key other : κ) (value : α) :
    (table.insert key value).get? other = if other = key then some value else table.get? other :=
  lookup_insertEntry key other value table.entries

theorem contains_insert (table : Table κ α) (key other : κ) (value : α) :
    (table.insert key value).contains other = true ↔ other = key ∨ table.contains other = true := by
  unfold contains
  rw [get?_insert]
  by_cases h : other = key <;> simp [h]

end Lookups

end Table

end Adventure
