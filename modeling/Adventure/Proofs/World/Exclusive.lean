import Adventure.Proofs.World.Operations
import Mathlib.Data.List.Basic

/-!
# Exclusive containment

An item is in one place at most. The invariant that carries this is local: every holder lists only
items that name it, and lists none of them twice. Since an item names one holder, two holders then
never list the same item.
-/

namespace Adventure.World

variable {world changed : World}

/-- Holders list only items that name them. -/
def OwnLists (world : World) : Prop := ∀ holder, world.ListsOwn holder

/-- Holders list only items that name them, and each of those once. -/
structure Exclusive (world : World) : Prop where
  /-- A listed item names the holder that lists it. -/
  own : world.OwnLists
  /-- No holder lists an item twice. -/
  nodup : ∀ holder, (world.contents holder).Nodup

/-! ## What moves keep -/

/-- A holder that lists only its own items does so after every move. -/
theorem ListsOwn.move {holder : Holder} (hown : world.ListsOwn holder)
    (hmove : Move world changed) : changed.ListsOwn holder := by
  intro listed hlisted
  cases hmove with
  | @insert into key _ h =>
    rw [contents_insert h hown, List.mem_append, List.mem_filter] at hlisted
    rw [holder?_insert h]
    by_cases heq : listed = key
    · subst heq
      rcases hlisted with ⟨-, hne⟩ | hlast
      · simp at hne
      · by_cases hinto : holder = into
        · rw [if_pos rfl, hinto]
        · simp [hinto] at hlast
    · rw [if_neg heq]
      rcases hlisted with ⟨hmem, -⟩ | hlast
      · exact hown listed hmem
      · by_cases hinto : holder = into
        · exact absurd (by simpa [hinto] using hlast) heq
        · simp [hinto] at hlast
  | remove h =>
    rw [contents_remove h hown, List.mem_filter] at hlisted
    rw [holder?_remove h, if_neg (by simpa using hlisted.2)]
    exact hown listed hlisted.1
  | destroy h =>
    rw [contents_destroy h hown, List.mem_filter] at hlisted
    rw [holder?_destroy h, if_neg (by simpa using hlisted.2)]
    exact hown listed hlisted.1
  | @copy key copy _ h =>
    rw [contents_copyItem h] at hlisted
    rw [holder?_copyItem h]
    by_cases heq : holder = .item copy
    · simp [heq] at hlisted
    · rw [if_neg heq] at hlisted
      exact hown listed hlisted

theorem OwnLists.move (hown : world.OwnLists) (hmove : Move world changed) : changed.OwnLists :=
  fun holder => ListsOwn.move (hown holder) hmove

/-- What does not touch the views of a world leaves the places of items exclusive. -/
theorem Exclusive.of_views (hexclusive : world.Exclusive)
    (hnames : ∀ key, changed.holder? key = world.holder? key)
    (hlists : ∀ holder, changed.contents holder = world.contents holder) : changed.Exclusive := by
  refine ⟨fun holder key hmem => ?_, fun holder => ?_⟩
  · rw [hnames]
    exact hexclusive.own holder key (hlists holder ▸ hmem)
  · rw [hlists]
    exact hexclusive.nodup holder

/-- Every move keeps the places of items exclusive. -/
theorem Exclusive.move (hexclusive : world.Exclusive) (hmove : Move world changed) :
    changed.Exclusive := by
  refine ⟨hexclusive.own.move hmove, fun holder => ?_⟩
  have hown := hexclusive.own holder
  have hnodup := hexclusive.nodup holder
  cases hmove with
  | @insert into key _ h =>
    rw [contents_insert h hown]
    by_cases hinto : holder = into
    · rw [if_pos hinto, List.nodup_append]
      refine ⟨hnodup.filter _, List.nodup_singleton key, ?_⟩
      intro listed hlisted last hlast
      rw [List.mem_singleton] at hlast
      subst hlast
      simpa using (List.mem_filter.mp hlisted).2
    · rw [if_neg hinto, List.append_nil]
      exact hnodup.filter _
  | remove h =>
    rw [contents_remove h hown]
    exact hnodup.filter _
  | destroy h =>
    rw [contents_destroy h hown]
    exact hnodup.filter _
  | @copy key copy _ h =>
    rw [contents_copyItem h]
    by_cases heq : holder = .item copy
    · simp [heq]
    · rw [if_neg heq]
      exact hnodup

/-- Adding what lists nothing keeps the places of items exclusive. -/
theorem Exclusive.add {operation : Operation} (hexclusive : world.Exclusive)
    (hbare : operation.isBare = true) (hadd : Addition world operation changed) :
    changed.Exclusive := by
  constructor
  · intro holder listed hlisted
    rw [hadd.holder?_eq]
    rcases hadd.contents_eq hbare holder with hempty | hsame
    · simp [hempty] at hlisted
    · exact hexclusive.own holder listed (hsame ▸ hlisted)
  · intro holder
    rcases hadd.contents_eq hbare holder with hempty | hsame
    · simp [hempty]
    · rw [hsame]
      exact hexclusive.nodup holder

/-- In a new world nothing is anywhere. -/
theorem exclusive_new (name : String) (start : LocationId) : (new name start).Exclusive := by
  have hempty (holder : Holder) : (new name start).contents holder = [] := by
    cases holder <;> rfl
  refine ⟨fun holder listed hlisted => ?_, fun holder => ?_⟩
  · simp [hempty] at hlisted
  · simp [hempty]

/-- Operations that add nothing but bare things keep the places of items exclusive. -/
theorem Exclusive.after {operations : List Operation} (hexclusive : world.Exclusive)
    (hbare : ∀ operation ∈ operations, operation.isBare = true) :
    (world.after operations).Exclusive :=
  after_keeps (fun _ operation hmem _ hadd h => h.add (hbare operation hmem) hadd)
    (fun _ _ hmove h => h.move hmove) hexclusive

/-! ## All lists together -/

/-- Everything that is listed anywhere: at locations, in inventories and in containers. -/
def listed (world : World) : List ItemKey :=
  world.locations.values.flatMap (·.items) ++ world.inventories.values.flatMap (·.items) ++
    world.items.filterMap (·.contents)

/-- Everything that may list items. -/
def allHolders (world : World) : List Holder :=
  world.locations.keys.map .location ++ world.inventories.keys.map .inventory ++
    world.keyedItems.map fun entry => .item entry.1

theorem map_snd_keyedItems (world : World) : world.keyedItems.map Prod.snd = world.items := by
  unfold keyedItems
  rw [List.map_map]
  exact List.zipIdx_map_fst 0 world.items

theorem nodup_map_fst_keyedItems (world : World) : (world.keyedItems.map Prod.fst).Nodup := by
  unfold keyedItems
  rw [List.map_map]
  have hslots : (world.items.zipIdx.map Prod.snd).Nodup := by
    rw [List.zipIdx_map_snd]
    exact List.nodup_range' 1
  have hkeys := hslots.map (f := ItemKey.mk) fun _ _ h => ItemKey.mk.inj h
  rwa [List.map_map] at hkeys

/-- No holder occurs twice among all of them. -/
theorem nodup_allHolders (world : World) : world.allHolders.Nodup := by
  have hlocations : (world.locations.keys.map Holder.location).Nodup :=
    world.locations.keys_nodup.map fun _ _ h => Holder.location.inj h
  have hinventories : (world.inventories.keys.map Holder.inventory).Nodup :=
    world.inventories.keys_nodup.map fun _ _ h => Holder.inventory.inj h
  have hitems : (world.keyedItems.map fun entry => Holder.item entry.1).Nodup := by
    have h := world.nodup_map_fst_keyedItems.map (f := Holder.item) fun _ _ h => Holder.item.inj h
    rwa [List.map_map] at h
  unfold allHolders
  rw [List.nodup_append, List.nodup_append]
  refine ⟨⟨hlocations, hinventories, ?_⟩, hitems, ?_⟩ <;> grind

/-- What is listed anywhere is what some holder contains. -/
theorem listed_eq (world : World) : world.listed = world.allHolders.flatMap world.contents := by
  have hlocations : world.locations.values.flatMap (·.items) =
      (world.locations.keys.map Holder.location).flatMap world.contents := by
    unfold Table.values Table.keys
    rw [List.flatMap_map, List.map_map, List.flatMap_map]
    refine List.flatMap_congr fun entry hentry => ?_
    simp [contents, location?, Table.mem_entries.mp hentry]
  have hinventories : world.inventories.values.flatMap (·.items) =
      (world.inventories.keys.map Holder.inventory).flatMap world.contents := by
    unfold Table.values Table.keys
    rw [List.flatMap_map, List.map_map, List.flatMap_map]
    refine List.flatMap_congr fun entry hentry => ?_
    simp [contents, inventory?, Table.mem_entries.mp hentry]
  have hitems : world.items.filterMap (·.contents) =
      (world.keyedItems.map fun entry => Holder.item entry.1).flatMap world.contents := by
    rw [← world.map_snd_keyedItems, List.filterMap_map, List.filterMap_eq_flatMap_toList,
      List.flatMap_map]
    refine List.flatMap_congr fun entry hentry => ?_
    rw [contents_item, mem_keyedItems.mp hentry]
    rfl
  unfold listed allHolders
  rw [List.flatMap_append, List.flatMap_append, hlocations, hinventories, hitems]

/-- When places are exclusive, nothing is listed twice among all lists. -/
theorem Exclusive.nodup_listed (hexclusive : world.Exclusive) : world.listed.Nodup := by
  rw [listed_eq, List.nodup_flatMap]
  refine ⟨fun holder _ => hexclusive.nodup holder, ?_⟩
  refine world.nodup_allHolders.imp fun {first second} hne key hfirst hsecond => hne ?_
  have hnames := (hexclusive.own first key hfirst).symm.trans (hexclusive.own second key hsecond)
  exact Option.some.inj hnames

/-- **Exclusive containment.** After any operations, successful or refused, that add only bare
things to a new world, every item is listed at most once among all lists, and by the holder that it
names. -/
theorem listed_once_after (name : String) (start : LocationId) (operations : List Operation)
    (hbare : ∀ operation ∈ operations, operation.isBare = true) :
    (∀ key, ((new name start).after operations).listed.count key ≤ 1) ∧
      ∀ holder, ∀ key ∈ ((new name start).after operations).contents holder,
        ((new name start).after operations).holder? key = some holder := by
  have hexclusive := (exclusive_new name start).after hbare
  exact ⟨List.nodup_iff_count_le_one.mp hexclusive.nodup_listed, hexclusive.own⟩

/-- Copies of a mug come and go while a pea is moved about, some calls are refused, and the location
is replaced by an empty one while the mug lies there. -/
def packing : List Operation :=
  let hall : Location := { id := ⟨1⟩, labels := ⟨"hall", "hall", "", [], none⟩ }
  let roomy := ItemFlags.container.set ItemFlags.holdsSolids
  [.addLocation hall, .addInventory { id := ⟨1⟩, capacity := 9, isDefault := true },
    .addItem (.ofAttributes ⟨1⟩ roomy ⟨"mug", "mug", "", [], none⟩ 2),
    .addItem (.ofAttributes ⟨2⟩ roomy ⟨"box", "box", "", [], none⟩ 5),
    .addItem (.ofAttributes ⟨3⟩ .none ⟨"pea", "pea", "", [], none⟩ 1),
    .insert (.location ⟨1⟩) ⟨0⟩, .insert (.inventory ⟨1⟩) ⟨1⟩, .insert (.inventory ⟨1⟩) ⟨1⟩,
    .copyInto (.item ⟨1⟩) ⟨0⟩, .insert (.item ⟨3⟩) ⟨2⟩, .insert (.item ⟨2⟩) ⟨1⟩,
    .insert (.item ⟨3⟩) ⟨1⟩, .destroy ⟨3⟩, .copyItem ⟨0⟩, .addLocation hall, .remove ⟨4⟩]

/-- The packing of a mug adds bare things only, so nothing is listed twice after it. -/
theorem listed_once_after_packing :
    (∀ operation ∈ packing, operation.isBare = true) ∧
      (∀ key, ((new "packing" ⟨1⟩).after packing).listed.count key ≤ 1) ∧
        ∀ holder, ∀ key ∈ ((new "packing" ⟨1⟩).after packing).contents holder,
          ((new "packing" ⟨1⟩).after packing).holder? key = some holder :=
  ⟨by decide, listed_once_after "packing" ⟨1⟩ packing (by decide)⟩

end Adventure.World
