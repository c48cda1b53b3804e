import Adventure.Table
import Mathlib.Algebra.GroupWithZero.Nat
import Mathlib.Data.List.Nodup

/-!
# Lookups in tables

Whatever is done to a table is known from its lookups. The entries of a table are exactly what its
lookups find, since no key occurs twice; so a fact about all places of a world can be stated by
looking them up.
-/

namespace Adventure.Table

/-! ## Lookups in lists -/

section Lists

variable {κ α β : Type} [DecidableEq κ]

theorem lookup_map_values (f : κ → α → β) (key : κ) (entries : List (κ × α)) :
    (entries.map fun entry => (entry.1, f entry.1 entry.2)).lookup key =
      (entries.lookup key).map (f key) := by
  induction entries with
  | nil => rfl
  | cons head rest ih =>
    obtain ⟨k, v⟩ := head
    rw [List.map_cons, lookup_cons_eq_ite, lookup_cons_eq_ite, ih]
    by_cases h : key = k
    · subst h
      simp
    · rw [if_neg h, if_neg h]

theorem lookup_of_mem {entries : List (κ × α)} (hnodup : (entries.map Prod.fst).Nodup) {key : κ}
    {value : α} (h : (key, value) ∈ entries) : entries.lookup key = some value := by
  induction entries with
  | nil => simp at h
  | cons head rest ih =>
    obtain ⟨k, v⟩ := head
    rw [List.map_cons, List.nodup_cons] at hnodup
    rw [lookup_cons_eq_ite]
    rcases List.mem_cons.mp h with heq | hrest
    · cases heq
      exact if_pos rfl
    · have hne : key ≠ k := by
        rintro rfl
        exact hnodup.1 (List.mem_map.mpr ⟨(key, value), hrest, rfl⟩)
      rw [if_neg hne]
      exact ih hnodup.2 hrest

end Lists

/-! ## Lookups in tables -/

variable {κ α β : Type} [Key κ]

/-- A table is known from its entries. -/
@[ext] theorem ext {first second : Table κ α} (h : first.entries = second.entries) :
    first = second := by
  cases first
  cases second
  cases h
  rfl

/-- Keys in ascending order are all different. -/
theorem keys_nodup (table : Table κ α) : table.keys.Nodup := by
  refine List.Pairwise.map Prod.fst (fun a b hab heq => ?_) table.ascending
  exact Key.lt_irrefl b.1 (heq ▸ hab)

theorem values_mapValues (table : Table κ α) (f : α → β) :
    (table.mapValues fun _ => f).values = table.values.map f := by
  simp [values, mapValues]

variable [DecidableEq κ]

/-- A change of one value is seen under its key only. -/
theorem get?_modify (table : Table κ α) (key other : κ) (f : α → α) :
    (table.modify key f).get? other =
      if other = key then (table.get? key).map f else table.get? other := by
  have h : (table.modify key f).get? other =
      (table.get? other).map fun value => if other = key then f value else value :=
    lookup_map_values (fun k value => if k = key then f value else value) other table.entries
  rw [h]
  by_cases heq : other = key
  · subst heq
    simp
  · simp [heq]

theorem get?_mapValues (table : Table κ α) (key : κ) (f : κ → α → β) :
    (table.mapValues f).get? key = (table.get? key).map (f key) :=
  lookup_map_values f key table.entries

/-- A change that a view of the values does not see is not seen in the table of views either. -/
theorem mapValues_modify (table : Table κ α) (key : κ) {f : α → α} {view : α → β}
    (h : ∀ value, view (f value) = view value) :
    ((table.modify key f).mapValues fun _ => view) = table.mapValues fun _ => view := by
  ext1
  simp only [mapValues, modify, List.map_map]
  refine List.map_congr_left fun entry _ => ?_
  simp only [Function.comp_apply, Prod.mk.injEq, true_and]
  by_cases hkey : entry.1 = key
  · rw [if_pos hkey, h]
  · rw [if_neg hkey]

@[simp] theorem contains_modify (table : Table κ α) (key other : κ) (f : α → α) :
    (table.modify key f).contains other = table.contains other := by
  unfold contains
  rw [get?_modify]
  by_cases h : other = key
  · subst h
    simp
  · simp [h]

/-- A table into which values were inserted has their keys and those that it had before. -/
theorem contains_foldl_insert (keyOf : α → κ) (values : List α) (table : Table κ α) (key : κ) :
    (values.foldl (fun table value => table.insert (keyOf value) value) table).contains key = true ↔
      table.contains key = true ∨ ∃ value ∈ values, keyOf value = key := by
  induction values generalizing table with
  | nil => simp
  | cons value rest ih =>
    rw [List.foldl_cons, ih, contains_insert, List.exists_mem_cons_iff, eq_comm, or_assoc,
      or_left_comm]

theorem contains_of_get? {table : Table κ α} {key : κ} {value : α}
    (h : table.get? key = some value) : table.contains key = true := by
  simp [contains, h]

/-- An entry is found under its key, and what is found under a key is an entry. -/
theorem mem_entries {table : Table κ α} {key : κ} {value : α} :
    (key, value) ∈ table.entries ↔ table.get? key = some value := by
  constructor
  · exact lookup_of_mem table.keys_nodup
  · intro h
    obtain ⟨l₁, l₂, heq, -⟩ := List.lookup_eq_some_iff.mp h
    simp [heq]

/-- Tables with the same views are the same if the values found under each key are the same whenever
their views are. -/
theorem eq_of_mapValues {first second : Table κ α} {view : α → β}
    (h : (first.mapValues fun _ => view) = second.mapValues fun _ => view)
    (hview : ∀ key a b, first.get? key = some a → second.get? key = some b → view a = view b →
      a = b) : first = second := by
  have hentries : first.entries.map (fun entry => (entry.1, view entry.2)) =
      second.entries.map fun entry => (entry.1, view entry.2) := congrArg entries h
  ext1
  refine List.ext_getElem? fun index => ?_
  have hviews := congrArg (·[index]?) hentries
  simp only [List.getElem?_map] at hviews
  cases hfirst : first.entries[index]? with
  | none =>
    rw [hfirst] at hviews
    exact (Option.map_eq_none_iff.mp hviews.symm).symm
  | some entry =>
    rw [hfirst] at hviews
    obtain ⟨entry', hsecond, hsame⟩ := Option.map_eq_some_iff.mp hviews.symm
    obtain ⟨key, value⟩ := entry
    obtain ⟨key', value'⟩ := entry'
    obtain ⟨rfl, hvalues⟩ := Prod.mk.inj hsame
    have hvalue := hview key' value value' (mem_entries.mp (List.mem_of_getElem? hfirst))
      (mem_entries.mp (List.mem_of_getElem? hsecond)) hvalues.symm
    rw [hsecond, hvalue]

/-- The values are what the lookups find. -/
theorem mem_values {table : Table κ α} {value : α} :
    value ∈ table.values ↔ ∃ key, table.get? key = some value := by
  constructor
  · intro h
    obtain ⟨⟨key, found⟩, hmem, rfl⟩ := List.mem_map.mp h
    exact ⟨key, mem_entries.mp hmem⟩
  · rintro ⟨key, h⟩
    exact List.mem_map.mpr ⟨(key, value), mem_entries.mpr h, rfl⟩

/-- A sum over all values changes with one of them by as much as its own share does. -/
theorem sum_values_modify {table : Table κ α} {key : κ} {value : α}
    (h : table.get? key = some value) (f : α → α) (share : α → Nat) :
    ((table.modify key f).values.map share).sum + share value =
      (table.values.map share).sum + share (f value) := by
  obtain ⟨before, after, heq, hfirst⟩ := List.lookup_eq_some_iff.mp h
  have hnodup := table.keys_nodup
  unfold keys at hnodup
  rw [heq, List.map_append, List.map_cons, List.nodup_middle, List.nodup_cons] at hnodup
  have hsame (entries : List (κ × α)) (hentries : key ∉ entries.map Prod.fst) :
      entries.map (fun entry => share (if entry.1 = key then f entry.2 else entry.2)) =
        entries.map fun entry => share entry.2 := by
    refine List.map_congr_left fun entry hentry => ?_
    rw [if_neg]
    rintro rfl
    exact hentries (List.mem_map_of_mem hentry)
  have hapart := hnodup.1
  rw [List.mem_append, not_or] at hapart
  simp only [values, modify, mapValues, heq, List.map_append, List.map_cons, List.map_map,
    Function.comp_def, List.sum_append, List.sum_cons, if_true, hsame _ hapart.1, hsame _ hapart.2]
  omega

/-- What an erased table finds, the table itself finds. -/
theorem get?_of_get?_erase {table : Table κ α} {key other : κ} {value : α}
    (h : (table.erase key).get? other = some value) : table.get? other = some value := by
  have hmem : (other, value) ∈ table.entries.filter (fun entry => entry.1 ≠ key) :=
    mem_entries.mpr h
  exact mem_entries.mp (List.mem_of_mem_filter hmem)

/-- An erased key finds nothing, and every other key what it found before. -/
theorem get?_erase (table : Table κ α) (key other : κ) :
    (table.erase key).get? other = if other = key then none else table.get? other := by
  refine Option.ext fun value => ?_
  have hmem : (table.erase key).get? other = some value ↔
      (other, value) ∈ table.entries.filter fun entry => entry.1 ≠ key := mem_entries.symm
  rw [hmem, List.mem_filter, mem_entries]
  by_cases heq : other = key <;> simp [heq]

/-- The last of some values with a property is the one at the end, if that has it. -/
theorem find?_reverse_concat {p : α → Bool} (values : List α) (last : α) :
    (values ++ [last]).reverse.find? p = if p last then some last else values.reverse.find? p := by
  rw [List.reverse_append, List.reverse_singleton, List.singleton_append, List.find?_cons]
  cases p last <;> rfl

/-- Among values of which one has a key, there is a last one that has it. -/
theorem exists_find?_reverse {ι : Type} [BEq ι] [LawfulBEq ι] {keyOf : α → ι} {values : List α}
    {key : ι} (h : key ∈ values.map keyOf) : ∃ last ∈ values,
      values.reverse.find? (keyOf · == key) = some last ∧ keyOf last = key := by
  obtain ⟨value, hvalue, rfl⟩ := List.mem_map.mp h
  have hsome : (values.reverse.find? (keyOf · == keyOf value)).isSome = true :=
    List.find?_isSome.mpr ⟨value, List.mem_reverse.mpr hvalue, beq_self_eq_true _⟩
  obtain ⟨last, hlast⟩ := Option.isSome_iff_exists.mp hsome
  have hmem := List.mem_reverse.mp (List.mem_of_find?_eq_some hlast)
  have hkey := List.find?_some hlast
  exact ⟨last, hmem, hlast, beq_iff_eq.mp hkey⟩

/-! ## Tables with the same lookups -/

/-- A table is known from its lookups. -/
theorem ext_get? {first second : Table κ α} (h : ∀ key, first.get? key = second.get? key) :
    first = second := by
  have hnodup (table : Table κ α) : table.entries.Nodup :=
    List.Nodup.of_map Prod.fst table.keys_nodup
  have hperm : first.entries.Perm second.entries := by
    refine (List.perm_ext_iff_of_nodup (hnodup first) (hnodup second)).mpr fun entry => ?_
    rw [mem_entries, mem_entries, h]
  ext1
  refine hperm.eq_of_pairwise (fun a b _ _ hab hba => ?_) first.ascending second.ascending
  exact absurd (Key.lt_trans hab hba) (Key.lt_irrefl a.1)

/-- Two changes of one value are one change. -/
theorem modify_modify (table : Table κ α) (key : κ) (f g : α → α) :
    (table.modify key f).modify key g = table.modify key fun value => g (f value) := by
  refine ext_get? fun other => ?_
  rw [get?_modify _ _ other g, get?_modify _ _ other f, get?_modify _ _ key f,
    get?_modify _ _ other fun value => g (f value), if_pos rfl, Option.map_map]
  split <;> rfl

/-- A change of a value that is there is an insertion of the changed one. -/
theorem modify_eq_insert {table : Table κ α} {key : κ} {value : α}
    (h : table.get? key = some value) (f : α → α) :
    table.modify key f = table.insert key (f value) := by
  refine ext_get? fun other => ?_
  rw [get?_modify, get?_insert, h]
  rfl

/-- To insert what is there already changes nothing. -/
theorem insert_eq_self {table : Table κ α} {key : κ} {value : α} (h : table.get? key = some value) :
    table.insert key value = table := by
  refine ext_get? fun other => ?_
  rw [get?_insert]
  split
  · rename_i heq
    rw [heq, h]
  · rfl

end Adventure.Table
