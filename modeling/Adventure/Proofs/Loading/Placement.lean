import Adventure.Proofs.Loading.Beginnings
import Adventure.Proofs.Loading.Completeness
import Adventure.Proofs.Loading.Places

/-!
# Where items begin

Items are put one by one where they are declared to be, in a world in which all of them stand
already. So it does not matter whether an item is declared before or after the one that it is in.
What was put somewhere stays there while others are put in their places, and an item is left out
only if its place is not declared or if something stands against it.
-/

namespace Adventure

open Loading Relation World

namespace Directory

variable {directory : Directory} {items before : List ItemDecl} {declared : ItemDecl}
variable {world changed : World} {key : ItemKey} {holder : Holder}

/-! ## Containers -/

/-- A built item has a compartment exactly if it is declared as a container. -/
theorem tells_compartment (id : DataId) (declared : ItemDecl) :
    Tells (buildItem id declared) fun _ item =>
      item.compartment.isSome = true ↔ declared.IsContainer := by
  have hnew (attributes : ItemFlags) (hparse : Flags.parse declared.attributes = .ok attributes) :
      (Item.ofAttributes id attributes declared.labels.labels declared.size).compartment.isSome =
        true ↔ declared.IsContainer := by
    simp [Item.ofAttributes, ItemDecl.IsContainer, hparse]
  unfold buildItem
  refine Tells.bind (tells_flags declared.attributes _) ?_
  rintro _ attributes ⟨rfl, hparse⟩
  split
  · exact .pure (hnew attributes hparse)
  · exact Tells.map (tells_flags _ _) fun _ _ _ => hnew attributes hparse

/-! ## Putting items in their places -/

/-- What holds of a world in which the first of some declared items were put in their places. -/
structure Placing (directory : Directory) (items before : List ItemDecl) (world : World) :
    Prop where
  /-- All that is declared is there, and both sides agree on where items are. -/
  sound : directory.Sound world
  /-- No item is inside itself. -/
  fresh : world.Fresh
  /-- What is declared as a container is there to list an item. -/
  containers : ∀ container ∈ items, container.IsContainer → ∀ outer,
    directory.itemKey? container.id = some outer → world.CanList (.item outer)
  /-- Whatever is somewhere is where it is declared to be. -/
  declared : ∀ key holder, world.holder? key = some holder → ∃ declared ∈ before,
    directory.itemKey? declared.id = some key ∧ ∃ place, declared.placement = some place ∧
      directory.holderAt? place = some holder

/-- In a world in which items are somewhere only as declared, one is inside another one at any depth
only if it is declared so. -/
theorem Placing.placedInside (h : directory.Placing items before world)
    (hregisters : directory.Registers items) (hbefore : before ⊆ items) {inner outer : DataId}
    {innerKey outerKey : ItemKey} (hinner : directory.itemKey? inner = some innerKey)
    (houter : directory.itemKey? outer = some outerKey)
    (hinside : TransGen world.Inside innerKey outerKey) :
    TransGen (PlacedInside items) inner outer := by
  have hstep {inner outer : ItemKey} (hstep : world.Inside inner outer) :
      ∃ innerId outerId, directory.itemKey? innerId = some inner ∧
        directory.itemKey? outerId = some outer ∧ PlacedInside items innerId outerId := by
    obtain ⟨declared, hmem, hkey, place, hplacement, hplace⟩ := h.declared _ _ hstep
    obtain ⟨id, rfl, hid⟩ := holderAt?_eq_item_iff.mp hplace
    exact ⟨declared.id, id, hkey, hid, declared, hbefore hmem, rfl, hplacement⟩
  induction hinside generalizing outer with
  | single hlast =>
    obtain ⟨first, last, hfirst, hlast, hplaced⟩ := hstep hlast
    obtain rfl := hregisters.itemKey?_inj _ _ _ hfirst hinner
    obtain rfl := hregisters.itemKey?_inj _ _ _ hlast houter
    exact .single hplaced
  | tail _ hlast ih =>
    obtain ⟨first, last, hfirst, hlast, hplaced⟩ := hstep hlast
    obtain rfl := hregisters.itemKey?_inj _ _ _ hlast houter
    exact (ih hfirst).tail hplaced

/-- A declared holder lets an item in that nothing stands against. -/
theorem Placing.admits (h : directory.Placing items before world)
    (hregisters : directory.Registers items) (hbefore : before ⊆ items) (hmem : declared ∈ items)
    (hkey : directory.itemKey? declared.id = some key) {place : HolderDecl}
    (hplacement : declared.placement = some place)
    (hplace : directory.holderAt? place = some holder) (hfree : ¬ declared.Conflict items) :
    world.Admits holder key := by
  have hitem : (world.item? key).isSome = true := by
    obtain ⟨hlt, -⟩ := List.getElem?_eq_some_iff.mp (hregisters.itemKey?_eq_some_iff.mp hkey)
    refine h.sound.furnished.item ?_
    simpa [furnishing, scope, hregisters.entries_eq] using hlt
  cases place with
  | location id =>
    simp only [holderAt?, Option.ite_none_right_eq_some, Option.some.injEq] at hplace
    obtain ⟨hknown, rfl⟩ := hplace
    exact ⟨hitem, h.sound.furnished.location hknown, by rintro _ ⟨⟩, by rintro _ ⟨⟩⟩
  | inventory id =>
    simp only [holderAt?, Option.ite_none_right_eq_some, Option.some.injEq] at hplace
    obtain ⟨hknown, rfl⟩ := hplace
    exact ⟨hitem, h.sound.furnished.inventory hknown, by rintro _ ⟨⟩, by rintro _ ⟨⟩⟩
  | item outerId =>
    obtain ⟨outer, houter, rfl⟩ := Option.map_eq_some_iff.mp hplace
    have hinside : PlacedInside items declared.id outerId := ⟨declared, hmem, rfl, hplacement⟩
    refine ⟨hitem, ?_, ?_, ?_⟩
    · obtain ⟨container, hcontainer, rfl⟩ := hregisters.exists_declared houter
      refine h.containers container hcontainer ?_ outer houter
      by_contra hsolid
      exact hfree (.solid hplacement hcontainer hsolid)
    · rintro _ ⟨⟩ other hother
      obtain ⟨occupant, hoccupant, hotherKey, otherPlace, hotherPlacement, hsame⟩ :=
        h.declared other _ (h.sound.exclusive.own _ other hother)
      obtain ⟨id, rfl, hid⟩ := holderAt?_eq_item_iff.mp hsame
      obtain rfl := hregisters.itemKey?_inj _ _ _ hid houter
      by_contra hne
      refine hfree (.shared hplacement (hbefore hoccupant) hotherPlacement fun heq => hne ?_)
      rw [heq, hkey] at hotherKey
      exact (Option.some.inj hotherKey).symm
    · rintro _ ⟨⟩
      refine ⟨?_, ?_⟩
      · rintro rfl
        rw [hregisters.itemKey?_inj _ _ _ houter hkey] at hinside
        exact hfree (.circular (.single hinside))
      · rw [← Bool.not_eq_true, h.fresh.nested.encloses_iff]
        intro hencloses
        exact hfree (.circular
          (.head hinside (h.placedInside hregisters hbefore houter hkey hencloses)))

/-! ## Settling an item -/

/-- What becomes of the place of an item, with what is noted of it. -/
inductive Settlement (directory : Directory) (items : List ItemDecl) (noted : List Diagnostic)
    (world : World) (declared : ItemDecl) (key : ItemKey) : Prop
  /-- It has no place and is nowhere. -/
  | unplaced (hplacement : declared.placement = none) (hnowhere : world.holder? key = none)
  /-- It is in its place. -/
  | placed {place : HolderDecl} {holder : Holder} (hplacement : declared.placement = some place)
      (hplace : directory.holderAt? place = some holder) (hnamed : world.holder? key = some holder)
  /-- Its place is not declared. -/
  | unknown {place : HolderDecl} (hplacement : declared.placement = some place)
      (hplace : directory.holderAt? place = none) (hnoted : unknownPlace declared.id place ∈ noted)
      (hnowhere : world.holder? key = none)
  /-- Something stands against its place. -/
  | refused {place : HolderDecl} {refusal : WorldError}
      (hplacement : declared.placement = some place) (hconflict : declared.Conflict items)
      (hnoted : unplaceable declared.id refusal ∈ noted) (hnowhere : world.holder? key = none)

/-- Whatever is noted later, an item that stays where it is has been settled. -/
theorem Settlement.mono {noted more : List Diagnostic}
    (h : directory.Settlement items noted world declared key) (hsub : noted ⊆ more)
    (hsame : changed.holder? key = world.holder? key) :
    directory.Settlement items more changed declared key := by
  cases h with
  | unplaced hplacement hnowhere => exact .unplaced hplacement (hsame.trans hnowhere)
  | placed hplacement hplace hnamed => exact .placed hplacement hplace (hsame.trans hnamed)
  | unknown hplacement hplace hnoted hnowhere =>
    exact .unknown hplacement hplace (hsub hnoted) (hsame.trans hnowhere)
  | refused hplacement hconflict hnoted hnowhere =>
    exact .refused hplacement hconflict (hsub hnoted) (hsame.trans hnowhere)

/-- An item that has not been put anywhere is nowhere. -/
theorem Placing.nowhere (h : directory.Placing items before world)
    (hregisters : directory.Registers items) (hfirst : before ++ [declared] <+: items)
    (hkey : directory.itemKey? declared.id = some key) : world.holder? key = none := by
  refine Option.eq_none_iff_forall_ne_some.mpr fun holder hheld => ?_
  obtain ⟨other, hother, hotherKey, -⟩ := h.declared key holder hheld
  have hids := hregisters.itemKey?_inj _ _ _ hotherKey hkey
  have hnodup := hregisters.nodup.sublist (hfirst.sublist.map ItemDecl.id)
  rw [List.map_append, List.nodup_append] at hnodup
  exact hnodup.2.2 _ (List.mem_map_of_mem hother) _ List.mem_cons_self hids

/-- Setting up a switch moves nothing and leaves containers as they are. -/
theorem Placing.wire (h : directory.Placing items before world) {switched : World}
    (hwired : directory.Wired world key switched) : directory.Placing items before switched ∧
      ∀ other, switched.holder? other = world.holder? other := by
  cases hwired with
  | bare => exact ⟨h, fun _ => rfl⟩
  | @wired target words htarget =>
    have hsame (other : ItemKey) :
        (world.modifyItem key (·.withSwitch target words)).holder? other = world.holder? other :=
      holder?_modifyItem_of_holder _ (fun _ => by rfl) other
    refine ⟨⟨h.sound.wire key htarget words, h.fresh.wire key target words,
      fun container hmem hcontainer outer houter => ?_, fun other holder hheld => ?_⟩, hsame⟩
    · exact (canList_modifyItem (fun _ => by rfl) _).mpr
        (h.containers container hmem hcontainer outer houter)
    · exact h.declared other holder ((hsame other).symm.trans hheld)

theorem Placing.concat (h : directory.Placing items before world) (declared : ItemDecl) :
    directory.Placing items (before ++ [declared]) world :=
  ⟨h.sound, h.fresh, h.containers, fun key holder hheld =>
    (h.declared key holder hheld).imp fun _ ⟨hmem, hplaced⟩ =>
      ⟨List.mem_append_left _ hmem, hplaced⟩⟩

/-- Putting an item where it is declared to be leaves items where they are declared to be. -/
theorem Placing.insert (h : directory.Placing items before world)
    (hkey : directory.itemKey? declared.id = some key) {place : HolderDecl}
    (hplacement : declared.placement = some place)
    (hplace : directory.holderAt? place = some holder)
    (hinsert : world.insert holder key = .ok changed) :
    directory.Placing items (before ++ [declared]) changed := by
  refine ⟨h.sound.insert (in_of_holderAt? hplace) hinsert, h.fresh.insert hinsert,
    fun container hmem hcontainer outer houter => ?_, fun other place hheld => ?_⟩
  · rw [canList_item_congr (body?_insert hinsert outer)]
    exact h.containers container hmem hcontainer outer houter
  · rw [holder?_insert hinsert] at hheld
    by_cases heq : other = key
    · rw [if_pos heq] at hheld
      cases hheld
      exact ⟨declared, by simp, heq ▸ hkey, _, hplacement, hplace⟩
    · rw [if_neg heq] at hheld
      exact (h.concat declared).declared other place hheld

/-- What settling an item comes to: items are where they are declared to be, the item has been
settled, and no other item was moved. -/
structure Settled (directory : Directory) (items before : List ItemDecl) (world : World)
    (declared : ItemDecl) (key : ItemKey) (noted : List Diagnostic) (changed : World) : Prop where
  /-- Items are where they are declared to be. -/
  placing : directory.Placing items (before ++ [declared]) changed
  /-- The item has been settled. -/
  settlement : directory.Settlement items noted changed declared key
  /-- No other item was moved. -/
  others : ∀ other, other ≠ key → changed.holder? other = world.holder? other

/-- To put an item where it is declared to be settles it: the holder refuses it only if something
stands against the place. -/
theorem Placing.put (h : directory.Placing items before world)
    (hregisters : directory.Registers items) (hfirst : before ++ [declared] <+: items)
    (hkey : directory.itemKey? declared.id = some key) {place : HolderDecl}
    (hplacement : declared.placement = some place) {noted : List Diagnostic}
    (hput : directory.Put world declared.id key place noted changed) :
    directory.Settled items before world declared key noted changed := by
  have hnowhere := h.nowhere hregisters hfirst hkey
  cases hput with
  | unknown hplace =>
    exact ⟨h.concat declared, .unknown hplacement hplace List.mem_cons_self hnowhere,
      fun _ _ => rfl⟩
  | placed hplace hinsert =>
    refine ⟨h.insert hkey hplacement hplace hinsert, .placed hplacement hplace ?_,
      fun other hne => ?_⟩
    · rw [holder?_insert hinsert, if_pos rfl]
    · rw [holder?_insert hinsert, if_neg hne]
  | refused hplace hinsert =>
    refine ⟨h.concat declared, .refused hplacement ?_ List.mem_cons_self hnowhere,
      fun _ _ => rfl⟩
    by_contra hfree
    have hbefore : before ⊆ items := fun _ hmem =>
      hfirst.subset (List.mem_append_left _ hmem)
    have hmem : declared ∈ items := hfirst.subset (by simp)
    obtain ⟨changed, hdone⟩ :=
      exists_insert (h.admits hregisters hbefore hmem hkey hplacement hplace hfree)
    rw [hdone] at hinsert
    cases hinsert

/-- So it does if the switch of the item is set up before. -/
theorem Placing.settle (h : directory.Placing items before world)
    (hregisters : directory.Registers items) (hfirst : before ++ [declared] <+: items)
    (hkey : directory.itemKey? declared.id = some key) {noted : List Diagnostic}
    (hsettling : directory.Settling world (declared.id, declared) noted changed) :
    directory.Settled items before world declared key noted changed := by
  cases hsettling with
  | absent hnone =>
    rw [hkey] at hnone
    cases hnone
  | unplaced hfound hwired hplacement =>
    obtain ⟨hplacing, hsame⟩ := h.wire hwired
    exact ⟨hplacing.concat declared,
      .unplaced hplacement (hplacing.nowhere hregisters hfirst hkey), fun other _ => hsame other⟩
  | put hfound hwired hplacement hput =>
    obtain rfl := Option.some.inj (hkey.symm.trans hfound)
    obtain ⟨hplacing, hsame⟩ := h.wire hwired
    have hsettled := hplacing.put hregisters hfirst hkey hplacement hput
    exact ⟨hsettled.placing, hsettled.settlement.mono (List.subset_append_right _ _) rfl,
      fun other hne => (hsettled.others other hne).trans (hsame other)⟩

/-- Once all declared items were gone through, each of them has been settled. -/
theorem Placing.settleAll (h : directory.Placing items [] world)
    (hregisters : directory.Registers items) :
    Tells (directory.items.entries.foldlM directory.settleItem world) fun noted settled =>
      ∀ declared ∈ items, ∀ key, directory.itemKey? declared.id = some key →
        directory.Settlement items noted settled declared key := by
  rw [hregisters.entries_eq, List.foldlM_map]
  refine (Tells.foldlM (Q := fun before noted world => directory.Placing items before world ∧
    ∀ declared ∈ before, ∀ key, directory.itemKey? declared.id = some key →
      directory.Settlement items noted world declared key) ⟨h, by rintro _ ⟨⟩⟩ ?_).mono
    fun _ _ hall => hall.2
  rintro before declared noted world hfirst ⟨hplacing, hbefore⟩
  obtain ⟨key, hkey⟩ := hregisters.exists_key (hfirst.subset (by simp) : declared ∈ items)
  refine (directory.tells_settleItem world _).mono fun more changed hsettling => ?_
  have hsettled := hplacing.settle hregisters hfirst hkey hsettling
  refine ⟨hsettled.placing, fun other hother otherKey hotherKey => ?_⟩
  by_cases heq : otherKey = key
  · have hids := hregisters.itemKey?_inj _ _ _ (heq ▸ hotherKey) hkey
    obtain rfl := List.inj_on_of_nodup_map hregisters.nodup
      (hfirst.subset hother) (hfirst.subset (by simp) : declared ∈ items) hids
    exact heq ▸ hsettled.settlement.mono (List.subset_append_right _ _) rfl
  · rcases List.mem_append.mp hother with hother | hlast
    · exact (hbefore other hother otherKey hotherKey).mono (List.subset_append_left _ _)
        (hsettled.others otherKey heq)
    · rw [List.mem_singleton.mp hlast, hkey] at hotherKey
      exact absurd (Option.some.inj hotherKey).symm heq

/-! ## The whole world -/

/-- In the world in which all items stand nothing is anywhere, and what is declared as a container
is one. -/
theorem Makes.placing (hregisters : directory.Registers items) {document : Document}
    {all : List Diagnostic}
    {parts : Parts} (h : directory.Makes document all parts) :
    directory.Placing items [] (parts.furnished document.name) := by
  have hitems : (parts.furnished document.name).items =
      parts.items.map fun item => { item with holder := none } := items_furnish rfl _ _ _
  have hitem (key : ItemKey) : (parts.furnished document.name).item? key =
      (parts.items[key.slot]?).map fun item => { item with holder := none } := by
    rw [item?, hitems, List.getElem?_map]
  refine ⟨h.sound_furnished, h.fresh_furnished,
    fun container hmem hcontainer outer houter => ?_, fun key holder hheld => ?_⟩
  · have hbuilt := h.items.shows <| Shows.mapM fun entry _ =>
      .of_tells (tells_compartment entry.1 entry.2)
    have hentry : directory.items.entries[outer.slot]? = some (container.id, container) := by
      rw [hregisters.entries_eq, List.getElem?_map, hregisters.getElem? hmem houter]
      rfl
    obtain ⟨item, hfound, hroom⟩ := exists_result_at hbuilt hentry
    simp only [CanList, hitem, hfound, Option.map_some, Option.bind_some]
    exact hroom.mpr hcontainer
  · rw [holder?, hitem] at hheld
    cases hfound : parts.items[key.slot]? <;> simp [hfound] at hheld

/-- Whatever world is put together from its parts, each declared item has been settled in it. -/
theorem Makes.settlement (hregisters : directory.Registers items) {document : Document}
    {all : List Diagnostic}
    {parts : Parts} (h : directory.Makes document all parts) (hmem : declared ∈ items)
    (hkey : directory.itemKey? declared.id = some key) :
    directory.Settlement items all (parts.world document.texts) declared key := by
  obtain ⟨noted, hnoted, hsettled⟩ := h.settled.tells
    ((h.placing hregisters).settleAll hregisters)
  refine (hsettled declared hmem key hkey).mono hnoted ?_
  have hitems : (parts.world document.texts).items = parts.settled.items :=
    (parts.ordered.kept_addEvents parts.events).1.trans
      (parts.settled.kept_addCommands parts.commands).1
  rw [holder?, item?, hitems]
  rfl

end Directory

namespace Document

variable {document : Document} {loaded : Loaded}

/-- The item declarations that count. -/
def survivingItems (document : Document) : List ItemDecl :=
  Registry.survivors ItemDecl.id document.items

/-- A place is declared. -/
def Declares (document : Document) : HolderDecl → Prop
  | .location id => ∃ declared ∈ document.locations, declared.id = id
  | .item id => ∃ declared ∈ document.items, declared.id = id
  | .inventory id => ∃ declared ∈ document.inventories, declared.id = id

/-- Nothing stands against any place. -/
structure Placeable (document : Document) : Prop where
  /-- All places are declared. -/
  named : ∀ declared ∈ document.survivingItems, ∀ place, declared.placement = some place →
    document.Declares place
  /-- Items are declared to be in containers only. -/
  containers : ∀ declared ∈ document.survivingItems, ∀ container ∈ document.survivingItems,
    declared.placement = some (.item container.id) → container.IsContainer
  /-- No two items are declared to be in the same item. -/
  single : ∀ first ∈ document.survivingItems, ∀ last ∈ document.survivingItems, ∀ outer,
    first.placement = some (.item outer) → last.placement = some (.item outer) → first = last
  /-- No item is declared to be inside itself. -/
  acyclic : ∀ id, ¬ TransGen (PlacedInside document.survivingItems) id id

/-- Nothing stands against the place of any item then. -/
theorem Placeable.free (h : document.Placeable) {declared : ItemDecl}
    (hmem : declared ∈ document.survivingItems) :
    ¬ declared.Conflict document.survivingItems := by
  intro hconflict
  cases hconflict with
  | solid hplace hcontainer hsolid => exact hsolid (h.containers _ hmem _ hcontainer hplace)
  | shared hplace hmem' hother hne => exact hne (h.single _ hmem' _ hmem _ hother hplace ▸ rfl)
  | circular hcycle => exact h.acyclic _ hcycle

/-- The index has the declarations that count. -/
theorem registers (document : Document) :
    (Directory.ofDocument document).1.Registers document.survivingItems :=
  ⟨Registry.entries_collect _ _ _, Registry.nodup_survivors document.items⟩

/-- A place means a holder exactly if it is declared. -/
theorem isSome_holderAt? (document : Document) (place : HolderDecl) :
    ((Directory.ofDocument document).1.holderAt? place).isSome = true ↔
      document.Declares place := by
  cases place with
  | location id | inventory id =>
    simp only [Directory.holderAt?, Option.isSome_ite]
    exact Registry.contains_collect
  | item id =>
    rw [Directory.holderAt?, Option.isSome_map, Option.isSome_iff_exists]
    refine Iff.trans ⟨fun hkey => ?_, fun hmem => ?_⟩ Registry.mem_survivors_iff
    · exact List.mem_map.mpr ((registers document).exists_declared hkey.choose_spec)
    · obtain ⟨declared, hdeclared, rfl⟩ := List.mem_map.mp hmem
      exact (registers document).exists_key hdeclared

/-- In a loaded world every declared item has been settled. -/
theorem settlement_load (hload : document.load = .ok loaded) {declared : ItemDecl}
    (hmem : declared ∈ document.survivingItems) : ∃ key,
      loaded.world.declaredItem? declared.id = some key ∧
        (Directory.ofDocument document).1.Settlement document.survivingItems loaded.diagnostics
          loaded.world declared key := by
  obtain ⟨key, hkey⟩ := (registers document).exists_key hmem
  refine ⟨key, (declaredItem?_load hload _).trans hkey, ?_⟩
  obtain ⟨-, parts, hmakes, hworld⟩ := makes_load hload
  rw [hworld]
  exact hmakes.settlement (registers document) hmem hkey

/-- **Every item is put in its place, or it is told why not.** An item that is declared without a
place is nowhere. Any other declared item is where it is declared to be and nowhere else, or it is
nowhere at all; then it is noted as an error that its place is not declared, or that it could not be
put there, and something stands against the place indeed. If nothing stands against any place, all
items are where they are declared to be, in whatever order they are declared. -/
theorem placed_or_told_of_load (hload : document.load = .ok loaded) :
    (∀ declared ∈ document.survivingItems, ∃ key,
      loaded.world.declaredItem? declared.id = some key ∧
      match declared.placement with
      | none => loaded.world.IsNowhere key
      | some place =>
        (∃ holder, place.resolve loaded.world.declaredItem? = some holder ∧
          loaded.world.StandsIn holder key) ∨
        loaded.world.IsNowhere key ∧
          (¬ document.Declares place ∧ unknownPlace declared.id place ∈ loaded.diagnostics ∨
            declared.Conflict document.survivingItems ∧
              ∃ refusal, unplaceable declared.id refusal ∈ loaded.diagnostics)) ∧
    (document.Placeable → ∀ declared ∈ document.survivingItems, ∀ place,
      declared.placement = some place → ∃ key holder,
        loaded.world.declaredItem? declared.id = some key ∧
        place.resolve loaded.world.declaredItem? = some holder ∧
        loaded.world.StandsIn holder key) := by
  have hready := ready_load hload
  have hresolve {place : HolderDecl} {holder : Holder}
      (hplace : (Directory.ofDocument document).1.holderAt? place = some holder) :
      place.resolve loaded.world.declaredItem? = some holder := by
    rw [funext (declaredItem?_load hload)]
    exact Directory.resolve_of_holderAt? hplace
  have hunknown {place : HolderDecl}
      (hplace : (Directory.ofDocument document).1.holderAt? place = none) :
      ¬ document.Declares place := by
    rw [← isSome_holderAt?, hplace]
    exact Bool.false_ne_true
  refine ⟨fun declared hmem => ?_, fun hplaceable declared hmem place hplacement => ?_⟩
  · obtain ⟨key, hkey, hsettlement⟩ := settlement_load hload hmem
    refine ⟨key, hkey, ?_⟩
    cases hsettlement with
    | unplaced hplacement hunnamed =>
      rw [hplacement]
      exact hready.exclusive.own.isNowhere hunnamed
    | placed hplacement hplace hnamed =>
      rw [hplacement]
      exact .inl ⟨_, hresolve hplace, hready.exclusive.standsIn hready.listed hnamed⟩
    | unknown hplacement hplace hnoted hunnamed =>
      rw [hplacement]
      exact .inr ⟨hready.exclusive.own.isNowhere hunnamed, .inl ⟨hunknown hplace, hnoted⟩⟩
    | refused hplacement hconflict hnoted hunnamed =>
      rw [hplacement]
      exact .inr ⟨hready.exclusive.own.isNowhere hunnamed, .inr ⟨hconflict, _, hnoted⟩⟩
  · obtain ⟨key, hkey, hsettlement⟩ := settlement_load hload hmem
    cases hsettlement with
    | unplaced hnone =>
      rw [hplacement] at hnone
      cases hnone
    | placed hplaced hplace hnamed =>
      obtain rfl := Option.some.inj (hplacement.symm.trans hplaced)
      exact ⟨key, _, hkey, hresolve hplace, hready.exclusive.standsIn hready.listed hnamed⟩
    | unknown hplaced hplace =>
      exact absurd (hplaceable.named declared hmem _ hplaced) (hunknown hplace)
    | refused _ hconflict => exact absurd hconflict (hplaceable.free hmem)

/-- A description of a pantry with some things that are declared to be somewhere. -/
def pantry (items : List ItemDecl) : Document where
  name := "pantry"
  commands := []
  items
  locations := [⟨⟨1⟩, "3", ⟨"pantry", none, none, []⟩, ∅⟩]
  events := []
  inventories := [⟨⟨1⟩, 8, true, []⟩]
  players := [⟨⟨1⟩, ""⟩]
  inputs := ∅
  hints := ∅
  explanations := ∅
  responses := ∅

/-- A declared thing of size one. -/
def thing (number : Nat) (attributes name : String) (placement : Option HolderDecl) : ItemDecl :=
  ⟨⟨number⟩, attributes, ⟨name, none, none, []⟩, 1, none, placement, none, none⟩

/-- A pea in a pod in a basket, each declared before what it is in. -/
def harvest : List ItemDecl :=
  [thing 1 "0" "pea" (some (.item ⟨2⟩)), thing 2 "1" "pod" (some (.item ⟨3⟩)),
    thing 3 "1" "basket" (some (.location ⟨1⟩))]

/-- A bean in the same pod, a leaf in what is not declared and a stone without a place. -/
def leavings : List ItemDecl :=
  [thing 4 "0" "bean" (some (.item ⟨2⟩)), thing 5 "0" "leaf" (some (.location ⟨9⟩)),
    thing 6 "0" "stone" none]

/-- Nothing stands against the places of the harvest: whatever is in something is declared before
it. -/
theorem placeable_harvest : (pantry harvest).Placeable := by
  have hitems : (pantry harvest).survivingItems = harvest := rfl
  have hrank (inner outer : DataId) (h : PlacedInside harvest inner outer) :
      inner.num < outer.num := by
    obtain ⟨declared, hmem, rfl, hplace⟩ := h
    simp only [harvest, List.mem_cons, List.not_mem_nil, or_false] at hmem
    rcases hmem with rfl | rfl | rfl <;> cases hplace <;> decide
  have hflag : Flags.parse "1" = .ok (⟨1⟩ : ItemFlags) := by decide +kernel
  refine ⟨?_, ?_, ?_, fun id hcycle => ?_⟩
  · rw [hitems]
    simp [harvest, thing, pantry, Declares]
  · rw [hitems]
    simp [harvest, thing, ItemDecl.IsContainer, hflag]
    decide
  · rw [hitems]
    simp [harvest, thing]
  · rw [hitems] at hcycle
    have hlt : TransGen (· < ·) id.num id.num := hcycle.lift Id.num hrank
    rw [transGen_eq_self] at hlt
    exact lt_irrefl _ hlt

/-- What is loaded from the description of a pantry with the harvest. -/
def loadedHarvest : Loaded := (pantry harvest).load.toOption.get (by decide +kernel)

/-- What is loaded if there are leavings, too. -/
def loadedLeavings : Loaded := (pantry (harvest ++ leavings)).load.toOption.get (by decide +kernel)

/-- The harvest is where it is declared to be. Of the leavings nothing is anywhere. The bean is said
not to be placed, and the leaf to be in an unknown location. -/
theorem placed_or_told_of_load_pantry :
    (pantry harvest).load = .ok loadedHarvest ∧
      (∀ declared ∈ harvest, ∀ place, declared.placement = some place → ∃ key holder,
        loadedHarvest.world.declaredItem? declared.id = some key ∧
        place.resolve loadedHarvest.world.declaredItem? = some holder ∧
        loadedHarvest.world.StandsIn holder key) ∧
      (pantry (harvest ++ leavings)).load = .ok loadedLeavings ∧
      (∀ declared ∈ leavings, ∃ key,
        loadedLeavings.world.declaredItem? declared.id = some key ∧
        loadedLeavings.world.IsNowhere key) ∧
      (∃ refusal, unplaceable ⟨4⟩ refusal ∈ loadedLeavings.diagnostics) ∧
      unknownPlace ⟨5⟩ (.location ⟨9⟩) ∈ loadedLeavings.diagnostics := by
  have hharvest : (pantry harvest).load = .ok loadedHarvest := load_get _
  have hleavings : (pantry (harvest ++ leavings)).load = .ok loadedLeavings := load_get _
  obtain ⟨-, hplaced⟩ := placed_or_told_of_load hharvest
  obtain ⟨htold, -⟩ := placed_or_told_of_load hleavings
  have hitems : (pantry (harvest ++ leavings)).survivingItems = harvest ++ leavings := rfl
  rw [hitems] at htold
  have hnowhere : ∀ declared ∈ leavings,
      (loadedLeavings.world.declaredItem? declared.id).bind loadedLeavings.world.holder? =
        none := by
    decide +kernel
  refine ⟨hharvest, hplaced placeable_harvest, hleavings, fun declared hmem => ?_, ?_, ?_⟩
  · obtain ⟨key, hkey, hcase⟩ := htold declared (List.mem_append_right _ hmem)
    have hunnamed := hnowhere declared hmem
    rw [hkey, Option.bind_some] at hunnamed
    refine ⟨key, hkey, ?_⟩
    split at hcase
    · exact hcase
    · obtain ⟨holder, -, hstands⟩ | ⟨hnowhere, -⟩ := hcase
      · rw [hstands.named] at hunnamed
        cases hunnamed
      · exact hnowhere
  · exact ⟨.containerOccupied ⟨1⟩ ⟨0⟩, by decide +kernel⟩
  · decide +kernel

end Document

end Adventure
