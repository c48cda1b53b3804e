import Adventure.Proofs.Loading.Places
import Adventure.Proofs.World.Insertion
import Adventure.Proofs.World.Origins

/-!
# Settling items

To settle an item is to set up its switch and to put it where it is declared to be. What that comes
to is told here once, step by step; whatever the steps keep follows from it. They touch nothing but
items and what holders list, and items come from where they came from.
-/

namespace Adventure

open Loading

/-! ## What items do not touch -/

namespace World

variable {world changed : World} {holder : Holder} {key : ItemKey}

/-- The world apart from its items and from where they are. -/
def premises (world : World) : World := { world.unplaced with items := [] }

/-- What setting up switches and placing items leave alone. -/
structure Settles (world settled : World) : Prop where
  /-- Items come from where they came from. -/
  origins : settled.origins = world.origins
  /-- All but the items is as it was. -/
  premises : settled.premises = world.premises

theorem Settles.refl (world : World) : world.Settles world := ⟨rfl, rfl⟩

theorem Settles.trans {between : World} (h : world.Settles between) (h' : between.Settles changed) :
    world.Settles changed :=
  ⟨h'.origins.trans h.origins, h'.premises.trans h.premises⟩

theorem settles_insert (h : world.insert holder key = .ok changed) : world.Settles changed :=
  ⟨origins_insert h, congrArg (fun view : World => { view with items := [] }) (unplaced_insert h)⟩

theorem Settles.events (h : world.Settles changed) : changed.events = world.events :=
  show changed.premises.events = world.premises.events from congrArg World.events h.premises

theorem Settles.commandNames (h : world.Settles changed) :
    changed.commandNames = world.commandNames :=
  show changed.premises.commandNames = world.premises.commandNames from
    congrArg World.commandNames h.premises

/-- Locations are there as before, apart from what lies there. -/
theorem Settles.location? (h : world.Settles changed) (id : LocationId) :
    (changed.location? id).map Location.emptied = (world.location? id).map Location.emptied := by
  have htables := congrArg (fun view : World => view.locations.get? id) h.premises
  simpa only [World.premises, unplaced, Table.get?_mapValues, World.location?] using htables

/-- A location that is there stays there, with its exits. -/
theorem Settles.exists_location? (h : world.Settles changed) {id : LocationId} {location : Location}
    (hfound : world.location? id = some location) :
    ∃ settled, changed.location? id = some settled ∧ settled.emptied = location.emptied := by
  refine Option.map_eq_some_iff.mp ?_
  rw [h.location?, hfound]
  rfl

end World

namespace Directory

variable (directory : Directory)

/-! ## Steps that add no declaration -/

theorem tells_buildInventory (id : InventoryId) (declared : InventoryDecl) :
    Tells (directory.buildInventory id declared) fun _ _ => True := by
  unfold buildInventory
  split
  · exact .pure trivial
  · exact Tells.map (Tells.filterMapM fun location _ => directory.answers_locationRef location _)
      fun _ _ _ => trivial

/-- A built item is an original with its own number. -/
theorem tells_buildItem (id : DataId) (declared : ItemDecl) :
    Tells (buildItem id declared) fun _ item => item.origin = (id, none) := by
  unfold buildItem
  refine Tells.bind (tells_flags declared.attributes _) ?_
  rintro _ attributes ⟨rfl, -⟩
  split
  · exact .pure rfl
  · exact Tells.map (tells_flags _ _) fun _ _ _ => rfl

theorem finds_switchTarget (declared : SwitchDecl) (context : String) :
    Finds (directory.switchTarget declared context) (SwitchTarget.In directory.scope) := by
  unfold switchTarget
  cases declared.target with
  | item id => exact .after fun flag => (directory.finds_itemRef id context).map fun _ h => h
  | location id =>
    exact .after fun flag => (directory.finds_locationRef id context).map fun _ h => h

theorem tells_switchTarget (declared : SwitchDecl) (context : String) :
    Tells (directory.switchTarget declared context) fun _ target? =>
      ∀ target ∈ target?, target.In directory.scope := by
  have htold : Tells (directory.switchTarget declared context) fun _ _ => True := by
    unfold switchTarget
    cases declared.target with
    | item id =>
      exact Tells.bind (tells_flags _ _) fun _ _ _ =>
        Tells.map (directory.answers_itemRef id _) fun _ _ _ => trivial
    | location id =>
      exact Tells.bind (tells_flags _ _) fun _ _ _ =>
        Tells.map (directory.answers_locationRef id _) fun _ _ _ => trivial
  exact (htold.and_yields (directory.finds_switchTarget declared context)).mono fun _ _ => And.right

/-! ## Settling an item -/

/-- What setting up a switch comes to. -/
inductive Wired (directory : Directory) (world : World) (key : ItemKey) : World → Prop
  /-- The item has its switch, which acts on what is declared. -/
  | wired {target : Option SwitchTarget} (words : SwitchWords)
      (htarget : ∀ found ∈ target, found.In directory.scope) :
      Wired directory world key (world.modifyItem key (·.withSwitch target words))
  /-- Nothing is switched. -/
  | bare : Wired directory world key world

/-- What putting an item where it is declared to be comes to. -/
inductive Put (directory : Directory) (world : World) (id : DataId) (key : ItemKey)
    (place : HolderDecl) : List Diagnostic → World → Prop
  /-- The place is not declared. -/
  | unknown (hplace : directory.holderAt? place = none) :
      Put directory world id key place [unknownPlace id place] world
  /-- The item is in its place. -/
  | placed {holder : Holder} {changed : World} (hplace : directory.holderAt? place = some holder)
      (hinsert : world.insert holder key = .ok changed) :
      Put directory world id key place [] changed
  /-- The holder refuses the item. -/
  | refused {holder : Holder} {refusal : WorldError}
      (hplace : directory.holderAt? place = some holder)
      (hinsert : world.insert holder key = .error refusal) :
      Put directory world id key place [unplaceable id refusal] world

/-- What settling an item comes to. -/
inductive Settling (directory : Directory) (world : World) (entry : DataId × ItemDecl) :
    List Diagnostic → World → Prop
  /-- There is no such item. -/
  | absent (hkey : directory.itemKey? entry.1 = none) : Settling directory world entry [] world
  /-- The item has no place. -/
  | unplaced {key : ItemKey} {switched : World} {noted : List Diagnostic}
      (hkey : directory.itemKey? entry.1 = some key) (hwired : directory.Wired world key switched)
      (hplacement : entry.2.placement = none) : Settling directory world entry noted switched
  /-- The item has a place. -/
  | put {key : ItemKey} {switched changed : World} {place : HolderDecl}
      {before noted : List Diagnostic} (hkey : directory.itemKey? entry.1 = some key)
      (hwired : directory.Wired world key switched) (hplacement : entry.2.placement = some place)
      (hput : directory.Put switched entry.1 key place noted changed) :
      Settling directory world entry (before ++ noted) changed

theorem tells_addSwitch (world : World) (id : DataId) (key : ItemKey) (declared : SwitchDecl) :
    Tells (directory.addSwitch world id key declared) fun _ => directory.Wired world key := by
  unfold addSwitch
  refine Tells.bind (directory.tells_switchTarget declared _) fun added target htarget => ?_
  split
  · exact .pure (.wired _ htarget)
  · exact .noting .bare

theorem tells_place (world : World) (id : DataId) (key : ItemKey) (place : HolderDecl) :
    Tells (directory.place world id key place) (directory.Put world id key place) := by
  unfold Directory.place
  refine Tells.bind (tells_holderRef place _) ?_
  rintro _ _ ⟨rfl, rfl⟩
  cases hplace : directory.holderAt? place with
  | none => exact .pure (.unknown hplace)
  | some holder =>
    simp only [World.tryInsert_eq]
    cases hinsert : world.insert holder key with
    | ok changed => exact .pure (.placed hplace hinsert)
    | error refusal => exact .noting (.refused hplace hinsert)

theorem tells_settleItem (world : World) (entry : DataId × ItemDecl) :
    Tells (directory.settleItem world entry) (directory.Settling world entry) := by
  unfold settleItem
  simp only []
  split
  · rename_i hkey
    exact .pure (.absent hkey)
  · rename_i key hkey
    split
    · rw [pure_bind]
      split
      · rename_i hplacement
        exact .pure (.unplaced hkey .bare hplacement)
      · rename_i place hplacement
        exact (directory.tells_place world _ key place).mono fun noted changed hput =>
          show directory.Settling world entry ([] ++ noted) changed from
            .put hkey .bare hplacement hput
    · refine Tells.bind (directory.tells_addSwitch world _ _ _) fun before switched hwired => ?_
      split
      · rename_i hplacement
        exact .pure (.unplaced hkey hwired hplacement)
      · rename_i place hplacement
        exact (directory.tells_place switched _ key place).mono fun _ _ =>
          .put hkey hwired hplacement

variable {directory}

/-- What switches and moves keep is kept when an item is settled. -/
theorem Settling.keeps {P : World → Prop} {world changed : World} {entry : DataId × ItemDecl}
    {noted : List Diagnostic} (h : directory.Settling world entry noted changed) (hworld : P world)
    (hwire : ∀ {world key target} (words : SwitchWords), P world →
      (∀ found ∈ target, found.In directory.scope) →
        P (world.modifyItem key (·.withSwitch target words)))
    (hinsert : ∀ {world holder key changed}, P world → holder.In directory.scope →
      world.insert holder key = .ok changed → P changed) : P changed := by
  have hwired {key : ItemKey} {switched : World} (hwired : directory.Wired world key switched) :
      P switched := by
    cases hwired with
    | wired words htarget => exact hwire words hworld htarget
    | bare => exact hworld
  cases h with
  | absent => exact hworld
  | unplaced _ hswitched => exact hwired hswitched
  | put _ hswitched _ hput =>
    cases hput with
    | unknown => exact hwired hswitched
    | placed hplace hplaced => exact hinsert (hwired hswitched) (in_of_holderAt? hplace) hplaced
    | refused => exact hwired hswitched

/-- Items that are settled one after the other touch nothing but items and their places. -/
theorem tells_settleItems (directory : Directory) (world : World)
    (entries : List (DataId × ItemDecl)) :
    Tells (entries.foldlM directory.settleItem world) fun _ => world.Settles :=
  Tells.foldlM (Q := fun _ _ => world.Settles) (.refl world) fun _ entry _ settled _ hsettled =>
    (directory.tells_settleItem settled entry).mono fun _ _ hsettling =>
      hsettling.keeps hsettled
        (fun _ h _ => h.trans ⟨World.origins_modifyItem fun _ _ => rfl, rfl⟩)
        fun h _ hinsert => h.trans (World.settles_insert hinsert)

end Directory

end Adventure
