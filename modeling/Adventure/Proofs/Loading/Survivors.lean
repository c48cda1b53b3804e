import Adventure.Proofs.Loading.Parts
import Mathlib.Data.List.Induction

/-!
# Declarations that count

Of the declarations with one number the last one counts, and it stands where that number was
declared first. A registry holds just these declarations, each under its number. Each of the others
is noted as a duplicate.
-/

namespace Adventure.Registry

variable {kind : Kind} {α : Type} (idOf : α → Id kind)

/-- The declarations that count, in the order in which their numbers are first declared. -/
def survivors (declarations : List α) : List α :=
  (declarations.map idOf).eraseDups.filterMap fun id =>
    declarations.reverse.find? fun declaration => idOf declaration == id

variable {idOf} {declarations : List α}

/-- The numbers of the declarations that count are all declared numbers, each once. -/
theorem map_idOf_survivors (declarations : List α) :
    (survivors idOf declarations).map idOf = (declarations.map idOf).eraseDups := by
  have hid : ∀ id ∈ (declarations.map idOf).eraseDups,
      (declarations.reverse.find? fun declaration => idOf declaration == id).map idOf =
        some id := by
    intro id hmem
    obtain ⟨declaration, -, hfind, hid⟩ :=
      Table.exists_find?_reverse (List.mem_eraseDups.mp hmem)
    rw [hfind, Option.map_some, hid]
  rw [survivors, List.map_filterMap, List.filterMap_congr hid, List.filterMap_some]

/-- A further number is a new one or has occurred before. -/
theorem eraseDups_concat (ids : List (Id kind)) (id : Id kind) :
    (ids ++ [id]).eraseDups = if id ∈ ids then ids.eraseDups else ids.eraseDups ++ [id] := by
  rw [List.eraseDups_append]
  by_cases hmem : id ∈ ids
  · have hnone : [id].removeAll ids = [] := by simpa [List.removeAll] using hmem
    rw [if_pos hmem, hnone, List.eraseDups_nil, List.append_nil]
  · have hone : [id].removeAll ids = [id] := by simpa [List.removeAll] using hmem
    rw [if_neg hmem, hone, List.eraseDups_cons, List.filter_nil, List.eraseDups_nil]

/-! ## Registries -/

/-- Whatever is noted of declarations is that a number is declared again. -/
theorem mem_declareAll {noun : String} {registry : Registry kind α} {diagnostic : Diagnostic}
    (h : diagnostic ∈ (declareAll noun idOf registry declarations).2) :
    ∃ id : Id kind, diagnostic = duplicate noun id := by
  induction declarations generalizing registry with
  | nil => cases h
  | cons declaration rest ih =>
    simp only [declareAll] at h
    split at h
    · rcases List.mem_cons.mp h with rfl | h
      · exact ⟨_, rfl⟩
      · exact ih h
    · exact ih h

theorem declareAll_concat (noun : String) (registry : Registry kind α) (declarations : List α)
    (declaration : α) : (declareAll noun idOf registry (declarations ++ [declaration])).1 =
      (declareAll noun idOf registry declarations).1.declare (idOf declaration) declaration := by
  induction declarations generalizing registry with
  | nil => rfl
  | cons first rest ih => exact ih _

theorem contains_declare {registry : Registry kind α} {id other : Id kind} {declared : α} :
    (registry.declare id declared).contains other = true ↔
      other = id ∨ registry.contains other = true :=
  Table.contains_insert registry.records id other declared

/-- A number is in a registry exactly if it is declared. -/
theorem contains_collect {noun : String} {id : Id kind} :
    (collect noun idOf declarations).1.contains id = true ↔
      ∃ declared ∈ declarations, idOf declared = id := by
  induction declarations using List.reverseRecOn with
  | nil => exact iff_of_false Bool.noConfusion (by simp)
  | append_singleton declarations declaration ih =>
    rw [collect, declareAll_concat, contains_declare, ← collect, ih, eq_comm]
    simp only [List.mem_append, List.mem_singleton, or_and_right, exists_or, exists_eq_left,
      or_comm]

/-- The table of a registry has the last declaration of each number. -/
theorem get?_collect (noun : String) (idOf : α → Id kind) (declarations : List α) (id : Id kind) :
    (collect noun idOf declarations).1.records.get? id =
      declarations.reverse.find? (idOf · == id) := by
  induction declarations using List.reverseRecOn with
  | nil => rfl
  | append_singleton declarations declaration ih =>
    rw [collect, declareAll_concat, declare, Table.get?_insert, ← collect, ih,
      Table.find?_reverse_concat]
    simp only [beq_iff_eq, @eq_comm _ id]

/-- The order of a registry has each declared number once, where it is declared first. -/
theorem order_collect (noun : String) (idOf : α → Id kind) (declarations : List α) :
    (collect noun idOf declarations).1.order = (declarations.map idOf).eraseDups := by
  induction declarations using List.reverseRecOn with
  | nil => rfl
  | append_singleton declarations declaration ih =>
    have hknown : (collect noun idOf declarations).1.contains (idOf declaration) = true ↔
        idOf declaration ∈ declarations.map idOf := by
      rw [contains_collect, List.mem_map]
    rw [List.map_append, List.map_singleton, eraseDups_concat, ← ih]
    rw [collect] at hknown ⊢
    rw [declareAll_concat, declare]
    simp only [hknown]
    rfl

/-- A registry holds the declarations that count. -/
theorem entries_collect (noun : String) (idOf : α → Id kind) (declarations : List α) :
    (collect noun idOf declarations).1.entries =
      (survivors idOf declarations).map fun declaration => (idOf declaration, declaration) := by
  rw [entries, order_collect, survivors, List.map_filterMap]
  refine List.filterMap_congr fun id hmem => ?_
  obtain ⟨declaration, -, hfind, hid⟩ := Table.exists_find?_reverse (List.mem_eraseDups.mp hmem)
  rw [get?, get?_collect, hfind, Option.map_some, Option.map_some, hid]

/-- The declarations that count have numbers of their own. -/
theorem nodup_survivors (declarations : List α) :
    ((survivors idOf declarations).map idOf).Nodup := by
  have hnodup := (collect "" idOf declarations).1.nodup_entries
  rwa [entries_collect, List.map_map] at hnodup

/-- A number is that of a declaration that counts exactly if it is declared. -/
theorem mem_survivors_iff {id : Id kind} : id ∈ (survivors idOf declarations).map idOf ↔
    ∃ declared ∈ declarations, idOf declared = id := by
  rw [map_idOf_survivors, List.mem_eraseDups, List.mem_map]

/-! ## Duplicates -/

theorem notes_declareAll_concat (noun : String) (registry : Registry kind α)
    (declarations : List α) (declaration : α) :
    (declareAll noun idOf registry (declarations ++ [declaration])).2 =
      (declareAll noun idOf registry declarations).2 ++
        if (declareAll noun idOf registry declarations).1.contains (idOf declaration) then
          [duplicate noun (idOf declaration)]
        else [] := by
  induction declarations generalizing registry with
  | nil => rfl
  | cons first rest ih =>
    simp only [List.cons_append, declareAll]
    rw [ih]
    split <;> rfl

/-- Each number is noted as often as it is declared again. -/
theorem exists_repeated (noun : String) (idOf : α → Id kind) (declarations : List α) :
    ∃ repeated : List (Id kind),
      (collect noun idOf declarations).2 = repeated.map (duplicate noun) ∧
        ((declarations.map idOf).eraseDups ++ repeated).Perm (declarations.map idOf) := by
  induction declarations using List.reverseRecOn with
  | nil => exact ⟨[], rfl, .nil⟩
  | append_singleton declarations declaration ih =>
    obtain ⟨repeated, hnotes, hperm⟩ := ih
    have hknown : (collect noun idOf declarations).1.contains (idOf declaration) = true ↔
        idOf declaration ∈ declarations.map idOf := by
      rw [contains_collect, List.mem_map]
    rw [collect] at hnotes hknown ⊢
    rw [notes_declareAll_concat, hnotes, List.map_append, List.map_singleton, eraseDups_concat]
    by_cases hbefore : idOf declaration ∈ declarations.map idOf
    · refine ⟨repeated ++ [idOf declaration], ?_, ?_⟩
      · rw [if_pos (hknown.mpr hbefore), List.map_append, List.map_singleton]
      · rw [if_pos hbefore, ← List.append_assoc]
        exact hperm.append_right _
    · refine ⟨repeated, ?_, ?_⟩
      · rw [if_neg (mt hknown.mp hbefore), List.append_nil]
      · rw [if_neg hbefore, List.append_assoc]
        refine (List.perm_append_comm.append_left _).trans ?_
        rw [← List.append_assoc]
        exact hperm.append_right _

/-- **Registries.** When declarations have been entered one after the other, the order of the
registry has each declared number once, where it is declared first, and the table has its last
declaration. So these are the entries in their order, and what is found, or contained, is what is
entered. Of every number all but one declaration are noted, as errors. -/
theorem collect_indexes_last (noun : String) (idOf : α → Id kind) (declarations : List α) :
    let registry := (collect noun idOf declarations).1
    let notes := (collect noun idOf declarations).2
    let ids := (declarations.map idOf).eraseDups
    registry.order = ids ∧
      (∀ id, registry.records.get? id = declarations.reverse.find? (idOf · == id)) ∧
      registry.entries.map (fun entry => (entry.1, some entry.2)) =
        ids.map (fun id => (id, declarations.reverse.find? (idOf · == id))) ∧
      (registry.entries.map Prod.fst).Nodup ∧
      (∀ id declaration,
        registry.get? id = some declaration ↔ (id, declaration) ∈ registry.entries) ∧
      (∀ id, registry.contains id = true ↔ id ∈ registry.entries.map Prod.fst) ∧
      (∃ repeated, notes = repeated.map (duplicate noun) ∧
        (ids ++ repeated).Perm (declarations.map idOf)) ∧
      Diagnostic.errorCount notes = notes.length ∧
      notes.length + ids.length = declarations.length := by
  intro registry notes ids
  obtain ⟨repeated, hnotes, hperm⟩ := exists_repeated noun idOf declarations
  refine ⟨order_collect noun idOf declarations, get?_collect noun idOf declarations, ?_,
    registry.nodup_entries, fun id declaration => mem_entries.symm, fun id => contains_iff,
    ⟨repeated, hnotes, hperm⟩, ?_, ?_⟩
  · have hlast : ∀ id ∈ ids, (declarations.reverse.find? (idOf · == id)).map
        (fun declaration => (idOf declaration, some declaration)) =
          some (id, declarations.reverse.find? (idOf · == id)) := by
      intro id hmem
      obtain ⟨declaration, -, hfind, hid⟩ :=
        Table.exists_find?_reverse (List.mem_eraseDups.mp hmem)
      rw [hfind, Option.map_some, hid]
    rw [entries_collect, List.map_map, survivors, List.map_filterMap]
    exact (List.filterMap_congr hlast).trans (congrFun List.filterMap_eq_map' ids)
  · rw [Diagnostic.errorCount, List.countP_eq_length]
    intro note hmem
    obtain ⟨id, rfl⟩ := mem_declareAll hmem
    rfl
  · have hcount : notes.length = repeated.length :=
      (congrArg List.length hnotes).trans (List.length_map _)
    have hlength : ids.length + repeated.length = declarations.length := by
      rw [← List.length_append, hperm.length_eq, List.length_map]
    omega

end Adventure.Registry
