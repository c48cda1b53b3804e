import Adventure.Proofs.Turn.Stages
import Adventure.Proofs.World.Bodies
import Adventure.Proofs.World.Whereabouts

/-!
# What death does to things

A player who dies loses what was carried. One thing after the other is laid down at the place of
death; since each is held once, in an inventory, none of them is refused there, and nothing else is
touched.
-/

namespace Adventure.World

variable {world laid : World} {location : LocationId} {key : ItemKey} {keys : List ItemKey}

/-! ## One thing -/

/-- A location lets every item in. -/
theorem exists_layDown (hknown : world.Knows location) (hitem : (world.item? key).isSome = true) :
    ∃ laid, (world.modifyItem key (·.withWorn false)).insert (.location location) key = .ok laid ∧
      layDown location world key = laid := by
  have hadmits : (world.modifyItem key (·.withWorn false)).Admits (.location location) key := by
    refine ⟨?_, hknown, by rintro _ ⟨⟩, by rintro _ ⟨⟩⟩
    rw [isSome_item?_modifyItem]
    exact hitem
  obtain ⟨laid, hinsert⟩ := exists_insert hadmits
  refine ⟨laid, hinsert, ?_⟩
  rw [layDown, tryInsert_eq, hinsert]
  rfl

/-- An item that is laid down is struck off every list and entered last in that of the location. -/
theorem contents_layDown (hown : world.OwnLists) (hknown : world.Knows location)
    (hitem : (world.item? key).isSome = true) (holder : Holder) :
    (layDown location world key).contents holder =
      (world.contents holder).filter (· ≠ key) ++
        if holder = .location location then [key] else [] := by
  obtain ⟨laid, hinsert, rfl⟩ := exists_layDown hknown hitem
  have hown' : (world.modifyItem key (·.withWorn false)).ListsOwn holder := by
    intro listed hlisted
    rw [contents_modifyItem_withWorn] at hlisted
    rw [holder?_modifyItem_withWorn]
    exact hown holder listed hlisted
  rw [contents_insert hinsert hown', contents_modifyItem_withWorn]

/-- An item from an inventory that is laid down is at the location and not worn, and no other item
has changed. -/
theorem item?_layDown (hknown : world.Knows location) {id : InventoryId}
    (hheld : world.holder? key = some (.inventory id)) (other : ItemKey) :
    (layDown location world key).item? other =
      if other = key then (world.item? key).map fun item =>
        { item.withWorn false with holder := some (.location location) }
      else world.item? other := by
  obtain ⟨laid, hinsert, rfl⟩ :=
    exists_layDown hknown (world.isSome_item?_of_holder? hheld)
  have hholder : (world.modifyItem key (·.withWorn false)).holder? key = some (.inventory id) := by
    rw [holder?_modifyItem_withWorn, hheld]
  obtain ⟨-, removed, hremove, hlaid⟩ := insert_cases hinsert
  obtain ⟨-, -, ⟨hnone, -⟩ | ⟨holder, hnamed, rfl⟩⟩ := remove_cases hremove
  · rw [hholder] at hnone
    cases hnone
  · rw [hholder] at hnamed
    cases hnamed
    rw [hlaid]
    simp only [list, unlist, item?_modifyItem, item?_modifyLocation, item?_modifyInventory]
    by_cases heq : other = key
    · subst heq
      simp only [if_true, Option.map_map]
      rfl
    · simp only [if_neg heq]

/-! ## Many things -/

/-- Some items were laid down at a location, one after the other, and nothing else was done to
anything. -/
structure LaidDown (location : LocationId) (keys : List ItemKey) (world laid : World) : Prop where
  /-- They lie in their order behind what lay there before. -/
  there : laid.contents (.location location) = world.contents (.location location) ++ keys
  /-- Other holders list what they listed before, without them. -/
  elsewhere : ∀ holder, holder ≠ .location location →
    laid.contents holder = (world.contents holder).filter (· ∉ keys)
  /-- Each of them is at the location and not worn, and otherwise as before. -/
  items : ∀ key ∈ keys, laid.item? key = (world.item? key).map fun item =>
    { item.withWorn false with holder := some (.location location) }
  /-- Every other item is as before. -/
  others : ∀ key, key ∉ keys → laid.item? key = world.item? key

/-- Laying items down that are in inventories succeeds for each of them. -/
theorem laidDown_foldl (hexclusive : world.Exclusive) (hknown : world.Knows location)
    (hnodup : keys.Nodup) (hheld : ∀ key ∈ keys, ∃ id, world.holder? key = some (.inventory id)) :
    LaidDown location keys world (keys.foldl (layDown location) world) := by
  induction keys generalizing world with
  | nil => exact ⟨(List.append_nil _).symm, by simp, by simp, by simp⟩
  | cons key rest ih =>
    obtain ⟨hfresh, hrest⟩ := List.nodup_cons.mp hnodup
    obtain ⟨⟨id, hkey⟩, hlater⟩ := List.forall_mem_cons.mp hheld
    have hitem := world.isSome_item?_of_holder? hkey
    have hlists := contents_layDown hexclusive.own hknown hitem
    have hitems := item?_layDown hknown hkey
    have hevolves := evolves_layDown location world key
    have hothers (other : ItemKey) (hmem : other ∈ rest) :
        (layDown location world key).item? other = world.item? other := by
      rw [hitems, if_neg]
      rintro rfl
      exact hfresh hmem
    have hlaid := ih (hevolves.exclusive hexclusive) (hevolves.scope_sub.location hknown) hrest
      fun other hmem => by
        rw [holder?, hothers other hmem]
        exact hlater other hmem
    rw [List.foldl_cons]
    refine ⟨?_, fun holder hholder => ?_, fun other hother => ?_, fun other hother => ?_⟩
    · -- The item did not lie there before, so no list but its old one has lost it.
      have hapart : key ∉ world.contents (.location location) :=
        (hexclusive.own _).notMem (by simp [hkey])
      rw [hlaid.there, hlists, World.filter_ne_of_notMem hapart, if_pos rfl, List.append_assoc,
        List.singleton_append]
    · rw [hlaid.elsewhere holder hholder, hlists, if_neg hholder, List.append_nil,
        List.filter_filter]
      refine List.filter_congr fun listed _ => ?_
      simp [Bool.and_comm]
    · rcases List.mem_cons.mp hother with rfl | hmem
      · rw [hlaid.others other hfresh, hitems, if_pos rfl]
      · rw [hlaid.items other hmem, hothers other hmem]
    · rw [List.mem_cons, not_or] at hother
      obtain ⟨hne, hnot⟩ := hother
      rw [hlaid.others other hnot, hitems, if_neg hne]

/-- Items that are laid down are moved to the location, and no others are. -/
theorem LaidDown.relocates (h : LaidDown location keys world laid) (hnested : world.Nested)
    (hafter : laid.Nested) (hheld : ∀ key ∈ keys, ∃ id, world.holder? key = some (.inventory id)) :
    Relocates keys (some (.location location)) world laid := by
  refine ⟨hnested, hafter, fun key => ?_⟩
  by_cases hmem : key ∈ keys
  · obtain ⟨id, hid⟩ := hheld key hmem
    obtain ⟨item, hitem⟩ := Option.isSome_iff_exists.mp (world.isSome_item?_of_holder? hid)
    simp [holder?, h.items key hmem, hitem, hmem]
  · rw [holder?, h.others key hmem, if_neg hmem]
    rfl

/-- Items that are laid down are taken off, and no others are. -/
theorem LaidDown.isWorn (h : LaidDown location keys world laid) (key : ItemKey) :
    laid.isWorn key = (!keys.contains key && world.isWorn key) := by
  unfold World.isWorn
  by_cases hmem : key ∈ keys
  · rw [h.items key hmem, List.contains_eq_mem, decide_eq_true hmem]
    cases world.item? key with
    | none => rfl
    | some item => exact item.isWorn_withWorn_false
  · simp [h.others key hmem, hmem]

/-! ## All that is carried -/

/-- What is carried is in an inventory, and each thing once. -/
theorem carried_held (hexclusive : world.Exclusive) : world.carried.Nodup ∧
    ∀ key ∈ world.carried, ∃ id, world.holder? key = some (.inventory id) := by
  unfold carried carriedAt
  split
  · rename_i id hid
    exact ⟨hexclusive.nodup _, fun key hmem => ⟨id, hexclusive.own _ key hmem⟩⟩
  · exact ⟨List.nodup_nil, fun key hmem => absurd hmem List.not_mem_nil⟩

/-- All that is carried is laid down where the player is. -/
theorem laidDown_scatter (hclosed : world.Closed) (hexclusive : world.Exclusive) :
    LaidDown world.player.location world.carried world world.scatter :=
  laidDown_foldl hexclusive hclosed.here (carried_held hexclusive).1 (carried_held hexclusive).2

/-- Laying things down does not change the player. -/
theorem player_scatter (world : World) : world.scatter.player = world.player := by
  have hone (location : LocationId) (world : World) (key : ItemKey) :
      (layDown location world key).player = world.player :=
    layDown_keeps (P := fun laid => laid.player = world.player) rfl
      fun laid hinsert => (player_insert hinsert).trans rfl
  unfold scatter
  exact List.foldlRecOn world.carried _ (motive := fun laid => laid.player = world.player) rfl
    fun laid hlaid key _ => (hone _ laid key).trans hlaid

/-- Nothing is carried after everything has been laid down. -/
theorem carried_scatter (hclosed : world.Closed) (hexclusive : world.Exclusive) :
    world.scatter.carried = [] := by
  have hlaid := laidDown_scatter hclosed hexclusive
  have hserves : world.scatter.inventoryAt? world.player.location =
      world.inventoryAt? world.player.location :=
    inventoryAt?_of_setting world.evolves_scatter.setting _
  unfold carried carriedAt
  rw [world.player_scatter, hserves]
  split
  · rename_i id hid
    have hcarried : world.carried = world.contents (.inventory id) := by
      unfold carried carriedAt
      rw [hid]
    rw [hlaid.elsewhere _ (by rintro ⟨⟩), hcarried]
    exact List.filter_eq_nil_iff.mpr fun key hmem => by simp [hmem]
  · rfl

end Adventure.World
