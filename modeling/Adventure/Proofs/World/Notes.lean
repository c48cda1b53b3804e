import Adventure.Proofs.World.Views
import Adventure.Turn.Events
import Adventure.Turn.Arguments
import Adventure.Turn.Life
import Adventure.World.Weight

/-!
# The notes on the player

Two things are noted on the player that nothing in the world depends on: how many commands have been
run, and which one waits. Whatever is looked up in a world is found in the same way when other notes
are made, and whatever is done to it can be done before or after.
-/

namespace Adventure

/-- The player with other notes: how many commands have been run, and which one waits. -/
def Player.noting (count : Nat → Nat) (wait : Pending → Pending) (player : Player) : Player :=
  { player with moves := count player.moves, pending := wait player.pending }

namespace World

/-- The world with other notes on the player. -/
def noting (count : Nat → Nat) (wait : Pending → Pending) (world : World) : World :=
  world.modifyPlayer (·.noting count wait)

section Looking

variable (world : World) {count : Nat → Nat} {wait : Pending → Pending}

/-! ## Looking up -/

theorem location_noting :
    (world.noting count wait).player.location = world.player.location := rfl

theorem previous_noting :
    (world.noting count wait).player.previous = world.player.previous := rfl

theorem alive_noting : (world.noting count wait).player.alive = world.player.alive := rfl

theorem isImmune_noting :
    (world.noting count wait).player.isImmune = world.player.isImmune := rfl

theorem isVerbose_noting :
    (world.noting count wait).player.isVerbose = world.player.isVerbose := rfl

theorem item?_noting : (world.noting count wait).item? = world.item? := rfl

theorem location?_noting : (world.noting count wait).location? = world.location? := rfl

theorem event?_noting : (world.noting count wait).event? = world.event? := rfl

theorem itemsNamed_noting : (world.noting count wait).itemsNamed = world.itemsNamed := rfl

theorem itemName_noting : (world.noting count wait).itemName = world.itemName := rfl

theorem argText_noting : (world.noting count wait).argText = world.argText := by
  funext arg
  cases arg <;> rfl

theorem holder?_noting : (world.noting count wait).holder? = world.holder? := rfl

theorem owner?_noting : (world.noting count wait).owner? = world.owner? := rfl

theorem contents_noting : (world.noting count wait).contents = world.contents := by
  funext holder
  cases holder <;> rfl

theorem currentInventory?_noting :
    (world.noting count wait).currentInventory? = world.currentInventory? := rfl

theorem carried_noting : (world.noting count wait).carried = world.carried := rfl

theorem canSee_noting : (world.noting count wait).canSee = world.canSee := rfl

theorem hasAirAt_noting : (world.noting count wait).hasAirAt = world.hasAirAt := rfl

theorem obstruction?_noting : (world.noting count wait).obstruction? = world.obstruction? := rfl

theorem acceptsKind_noting : (world.noting count wait).acceptsKind = world.acceptsKind := rfl

theorem isSwitchedOn_noting : (world.noting count wait).isSwitchedOn = world.isSwitchedOn := rfl

theorem holders_noting : (world.noting count wait).holders = world.holders := by
  funext key
  exact world.holdersWithin_congr (congrFun world.holder?_noting) world.items.length key

theorem encloses_noting : (world.noting count wait).encloses = world.encloses := by
  funext outer inner
  rw [encloses, holders_noting, encloses]

theorem outermost?_noting : (world.noting count wait).outermost? = world.outermost? := by
  funext key
  rw [outermost?, holders_noting, outermost?]

theorem holds_noting : (world.noting count wait).holds = world.holds := by
  funext key
  rw [holds, outermost?_noting, currentInventory?_noting, holds]

theorem isHere_noting : (world.noting count wait).isHere = world.isHere := by
  funext key
  rw [isHere, outermost?_noting, location_noting, isHere]

theorem itemMeant?_noting : (world.noting count wait).itemMeant? = world.itemMeant? := by
  funext name
  rw [itemMeant?, itemsNamed_noting, holds_noting, isHere_noting, itemMeant?]

theorem weight_noting : (world.noting count wait).weight = world.weight := by
  have hwithin (depth : Nat) (key : ItemKey) :
      (world.noting count wait).weightWithin depth key = world.weightWithin depth key := by
    induction depth generalizing key with
    | zero => rfl
    | succ depth ih => simp only [weightWithin, item?_noting, ih]
  exact funext (hwithin world.items.length)

theorem inventoryFits_noting : (world.noting count wait).inventoryFits = world.inventoryFits := by
  funext id key
  unfold inventoryFits carriedWeight
  rw [weight_noting]
  rfl

theorem listName_noting : (world.noting count wait).listName = world.listName := by
  have hwithin (depth : Nat) (key : ItemKey) :
      (world.noting count wait).listNameWithin depth key = world.listNameWithin depth key := by
    induction depth generalizing key with
    | zero => rfl
    | succ depth ih =>
      simp only [listNameWithin, item?_noting, itemName_noting, isSwitchedOn_noting, ih]
  exact funext (hwithin (world.items.length + 1))

theorem surroundings_noting : (world.noting count wait).surroundings = world.surroundings := by
  funext full
  unfold surroundings
  rw [canSee_noting, contents_noting, listName_noting]
  rfl

theorem misfit?_noting : (world.noting count wait).misfit? = world.misfit? := by
  funext slot key
  rw [misfit?, holds_noting, isHere_noting, misfit?]

theorem fillSlots_noting : (world.noting count wait).fillSlots = world.fillSlots := by
  funext slots args tokens
  induction slots generalizing args tokens with
  | nil => rfl
  | cons slot rest ih => simp only [fillSlots, itemMeant?_noting, misfit?_noting, ih]

theorem promptPhrase_noting : (world.noting count wait).promptPhrase = world.promptPhrase := by
  funext verb command args
  unfold promptPhrase
  rw [argText_noting]

theorem eventKey_noting : (world.noting count wait).eventKey = world.eventKey := by
  funext command args
  have hmatched : (world.noting count wait).matched? = world.matched? := by
    funext arg
    cases arg <;> rfl
  rw [eventKey, hmatched, eventKey]

theorem meets_noting : (world.noting count wait).meets = world.meets := by
  funext prerequisite
  cases prerequisite with
  | itemHeld item => rw [meets, holds_noting, meets]
  | _ => rfl

theorem readyEvent?_noting : (world.noting count wait).readyEvent? = world.readyEvent? := by
  funext key
  have hready : (world.noting count wait).isReady = world.isReady := by
    funext event
    rw [isReady, meets_noting, isReady]
  unfold readyEvent?
  rw [hready]
  rfl

end Looking

/-! ## Changing -/

section Changing

variable (world : World) {count : Nat → Nat} {wait : Pending → Pending}

theorem modifyItem_noting (key : ItemKey) (f : Item → Item) :
    (world.noting count wait).modifyItem key f = (world.modifyItem key f).noting count wait := rfl

theorem unlist_noting (key : ItemKey) (holder : Holder) :
    (world.noting count wait).unlist key holder = (world.unlist key holder).noting count wait := by
  cases holder <;> rfl

theorem list_noting (key : ItemKey) (holder : Holder) :
    (world.noting count wait).list key holder = (world.list key holder).noting count wait := by
  cases holder <;> rfl

theorem tryRemove_noting (key : ItemKey) :
    (world.noting count wait).tryRemove key =
      ((world.tryRemove key).1.noting count wait, (world.tryRemove key).2) := by
  simp only [tryRemove, item?_noting, modifyItem_noting, unlist_noting]
  cases world.item? key with
  | none => rfl
  | some item => cases hholder : item.holder <;> simp only [hholder]

theorem refusal?_noting (holder : Holder) (key : ItemKey) :
    (world.noting count wait).refusal? holder key = world.refusal? holder key := by
  cases holder with
  | item outer => simp only [refusal?, item?_noting, encloses_noting]
  | _ => rfl

theorem tryInsert_noting (holder : Holder) (key : ItemKey) :
    (world.noting count wait).tryInsert holder key =
      ((world.tryInsert holder key).1.noting count wait, (world.tryInsert holder key).2) := by
  simp only [tryInsert, refusal?_noting, tryRemove_noting]
  cases world.refusal? holder key with
  | some refusal => rfl
  | none =>
    obtain ⟨removed, refusal | previous⟩ := world.tryRemove key
    · rfl
    · simp only [list_noting, modifyItem_noting]

theorem tryDestroy_noting (key : ItemKey) :
    (world.noting count wait).tryDestroy key =
      ((world.tryDestroy key).1.noting count wait, (world.tryDestroy key).2) := by
  simp only [tryDestroy, modifyItem_noting, tryRemove_noting]

theorem tryCopyItem_noting (key : ItemKey) :
    (world.noting count wait).tryCopyItem key =
      ((world.tryCopyItem key).1.noting count wait, (world.tryCopyItem key).2) := by
  have hkeyed : (world.noting count wait).keyedItems = world.keyedItems := rfl
  simp only [tryCopyItem, item?_noting, hkeyed]
  cases world.item? key with
  | none => rfl
  | some item =>
    dsimp only
    generalize world.keyedItems.find? _ = spent
    cases spent <;> rfl

theorem copyInto_noting (holder : Holder) (key : ItemKey) :
    (world.noting count wait).copyInto holder key =
      ((world.copyInto holder key).1.noting count wait, (world.copyInto holder key).2) := by
  simp only [copyInto, refusal?_noting, tryCopyItem_noting]
  cases world.refusal? holder key with
  | some refusal => rfl
  | none =>
    obtain ⟨copied, refusal | copy⟩ := world.tryCopyItem key
    · rfl
    · simp only [tryInsert_noting]
      obtain ⟨filled, refusal | done⟩ := copied.tryInsert holder copy <;> rfl

theorem switch_noting (key : ItemKey) (transition : Transition) :
    (world.noting count wait).switch key transition =
      (world.switch key transition).map fun (changed, state) =>
        (changed.noting count wait, state) := by
  have htarget : (world.noting count wait).switchTarget key = world.switchTarget key := rfl
  simp only [switch, htarget]
  cases world.switchTarget key with
  | error refusal => rfl
  | ok target =>
    have hstate : (world.noting count wait).targetState target = world.targetState target := by
      cases target <;> rfl
    simp only [bind, Except.bind, hstate]
    cases world.targetState target with
    | error refusal => rfl
    | ok state => cases target <;> rfl

theorem lookAround_noting (full : Bool) :
    (world.noting count wait).lookAround full =
      ((world.lookAround full).1.noting count wait, (world.lookAround full).2) := by
  unfold lookAround
  rw [canSee_noting, surroundings_noting]
  dsimp only
  split <;> rfl

theorem apply_noting (action : Action) :
    (world.noting count wait).apply action =
      ((world.apply action).1.noting count wait, (world.apply action).2) := by
  cases action with
  | destroyItem item => exact world.tryDestroy_noting item
  | moveItem item holder => exact world.tryInsert_noting holder item
  | giveItem item =>
    simp only [apply, currentInventory?_noting]
    cases world.currentInventory? with
    | none => rfl
    | some inventory => exact world.tryInsert_noting (.inventory inventory) item
  | replaceItem outgoing incoming =>
    simp only [apply, tryDestroy_noting, holder?_noting]
    obtain ⟨destroyed, refusal | done⟩ := world.tryDestroy outgoing
    · rfl
    · cases world.holder? outgoing with
      | none => rfl
      | some holder => exact destroyed.tryInsert_noting holder incoming
  | setPlayerAttribute flag on => rfl
  | setLocationAttribute location flag on =>
    simp only [apply, location?_noting]
    cases world.location? location <;> rfl
  | setItemAttribute item flag on =>
    simp only [apply, item?_noting]
    cases world.item? item <;> rfl
  | linkDirection location direction destination =>
    simp only [apply, relink, location?_noting]
    cases world.location? location <;> rfl
  | describeLocation location extension =>
    simp only [apply, location?_noting]
    cases world.location? location <;> rfl
  | movePlayer location =>
    simp only [apply, location?_noting]
    cases world.location? location <;> rfl

theorem applyEach_noting (actions : List Action) :
    (world.noting count wait).applyEach actions =
      ((world.applyEach actions).1.noting count wait, (world.applyEach actions).2) := by
  induction actions generalizing world with
  | nil => rfl
  | cons action rest ih =>
    simp only [applyEach, apply_noting]
    obtain ⟨changed, refusal | done⟩ := world.apply action
    · rfl
    · exact ih changed

theorem tryApplyAll_noting (actions : List Action) :
    (world.noting count wait).tryApplyAll actions =
      ((world.tryApplyAll actions).1.noting count wait, (world.tryApplyAll actions).2) := by
  simp only [tryApplyAll, applyEach_noting]
  obtain ⟨changed, refusal | done⟩ := world.applyEach actions <;> rfl

theorem layDown_noting (location : LocationId) (key : ItemKey) :
    layDown location (world.noting count wait) key =
      (layDown location world key).noting count wait := by
  simp only [layDown, modifyItem_noting, tryInsert_noting]

theorem scatter_noting :
    (world.noting count wait).scatter = world.scatter.noting count wait := by
  have hfold (keys : List ItemKey) (laid : World) :
      keys.foldl (layDown world.player.location) (laid.noting count wait) =
        (keys.foldl (layDown world.player.location) laid).noting count wait := by
    induction keys generalizing laid with
    | nil => rfl
    | cons key rest ih => rw [List.foldl_cons, layDown_noting, ih, List.foldl_cons]
  exact hfold world.carried world

end Changing

end World

end Adventure
