import Adventure.Proofs.Turn.Changes
import Adventure.Proofs.World.Rest
import Adventure.Proofs.World.Switches
import Adventure.Proofs.World.Things
import Adventure.Turn.Handler

/-!
# What commands do to things

Most commands leave all things where they are. The others do one of a few deeds, and which one can
be told from the arguments before the command is carried out. What a handler has checked before its
deed still stands as a fact about the world in which it was checked. Each handler is gone through
here once for what it comes to: it is refused, does its deed, switches something, tells something or
lets the player arrive somewhere.
-/

namespace Adventure

/-- What a command does to the things in a world. -/
inductive Deed
  /-- An item goes into an inventory. -/
  | take (key : ItemKey) (inventory : InventoryId)
  /-- An item is laid down where the player is. -/
  | drop (key : ItemKey)
  /-- An item is used up. -/
  | spend (key : ItemKey)
  /-- An item goes into a container. -/
  | put (key container : ItemKey)
  /-- A copy of an item goes into a container. -/
  | copy (key container : ItemKey)
  /-- A garment is put on. -/
  | wear (key : ItemKey)
  /-- A garment is taken off. -/
  | takeOff (key : ItemKey)
  /-- No item is moved, and none put on or taken off. -/
  | rest
  deriving DecidableEq

/-- The deed that a handler does with these arguments if it is not refused. -/
def Handler.deed (world : World) (args : List Arg) : Handler → Deed
  | take =>
    match Stage.itemAt args 0, world.currentInventory? with
    | some key, some serving => .take key serving
    | _, _ => .rest
  | drop =>
    match Stage.itemAt args 0 with
    | some key => if (world.item? key).any (·.isLiquid) then .spend key else .drop key
    | none => .rest
  | insert =>
    match Stage.itemAt args 0, Stage.itemAt args 1 with
    | some key, some container =>
      if (world.item? key).any (·.attributes.has ItemFlags.copyable) then .copy key container
      else .put key container
    | _, _ => .rest
  | wear => (Stage.itemAt args 0).elim .rest .wear
  | remove => (Stage.itemAt args 0).elim .rest .takeOff
  | consume => (Stage.itemAt args 0).elim .rest .spend
  | pour => ((Stage.itemAt args 0).bind (Stage.poured? world)).elim .rest .spend
  | _ => .rest

/-- The item of which a deed makes a copy. -/
def Deed.model? : Deed → Option ItemKey
  | copy key _ => some key
  | _ => none

namespace World

/-- Whether an item fits into the inventory that serves where the player is. -/
def hasRoom (world : World) (key : ItemKey) : Bool :=
  world.currentInventory?.any fun id => world.inventoryFits id key

/-- How a deed changes a world, and what was checked before it. -/
inductive Does (world : World) : Deed → World → Prop
  /-- An item that is not held, nor directly in a creature, goes into the inventory that serves, if
  it fits. -/
  | take {key : ItemKey} {inventory : InventoryId} {changed : World}
      (hfree : world.holds key = false) (howner : world.owner? key = none)
      (hserves : world.currentInventory? = some inventory)
      (hfits : world.inventoryFits inventory key = true)
      (h : world.insert (.inventory inventory) key = .ok changed) :
      Does world (.take key inventory) changed
  /-- A held item is taken off and laid down. -/
  | drop {key : ItemKey} {changed : World} (hheld : world.holds key = true)
      (h : (world.modifyItem key (·.withWorn false)).insert (.location world.player.location) key =
        .ok changed) : Does world (.drop key) changed
  /-- An item is taken out for good. -/
  | spend {key : ItemKey} {changed : World} (h : world.destroy key = .ok changed) :
      Does world (.spend key) changed
  /-- An item goes into a free container. If the player holds the container but not the item, then
  the item fits. -/
  | put {key container : ItemKey} {changed : World}
      (hempty : world.contents (.item container) = [])
      (hchecked : world.holds container = true → world.holds key = false →
        world.hasRoom key = true)
      (h : world.insert (.item container) key = .ok changed) :
      Does world (.put key container) changed
  /-- A copy of an item goes into a free container, with the same check of the item. -/
  | copy {key container slot : ItemKey} {changed : World}
      (hempty : world.contents (.item container) = [])
      (hchecked : world.holds container = true → world.holds key = false →
        world.hasRoom key = true)
      (h : world.copyInto (.item container) key = (changed, .ok slot)) :
      Does world (.copy key container) changed
  /-- A held garment is put on. -/
  | wear {key : ItemKey} (hheld : world.holds key = true) :
      Does world (.wear key) (world.modifyItem key (·.withWorn true))
  /-- A worn garment is taken off. -/
  | takeOff {key : ItemKey} (hworn : world.isWorn key = true) :
      Does world (.takeOff key) (world.modifyItem key (·.withWorn false))
  /-- Things stay where they are. -/
  | rest {changed : World} (h : world.Rests changed) : Does world .rest changed

variable {world changed : World}

/-- A player who dies keeps the score. -/
theorem rests_die (world : World) : world.Rests (world.modifyPlayer (·.die)) := by
  refine rests_modifyPlayer ?_ ?_ <;>
    rcases world.player.die_cases with hdie | hdie <;> simp only [hdie]

/-! ## Deeds and the ledger -/

/-- No deed touches the ledger. -/
theorem Does.ledger {deed : Deed} (h : world.Does deed changed) :
    changed.ledger = world.ledger := by
  cases h with
  | take _ _ _ _ h => exact ledger_insert h
  | drop _ h => exact (ledger_insert h).trans rfl
  | spend h => exact ledger_destroy h
  | put _ _ h => exact ledger_insert h
  | copy _ _ h =>
    obtain ⟨copied, hcopy, hinsert⟩ := copyInto_ok h
    exact (ledger_insert hinsert).trans (ledger_copyItem hcopy)
  | wear _ => rfl
  | takeOff _ => rfl
  | rest h => exact h.ledger

/-- No deed touches the setting. -/
theorem Does.setting {deed : Deed} (h : world.Does deed changed) :
    changed.setting = world.setting := by
  cases h with
  | take _ _ _ _ h => exact setting_insert h
  | drop _ h => exact (setting_insert h).trans (setting_modifyItem _ _)
  | spend h => exact setting_destroy h
  | put _ _ h => exact setting_insert h
  | copy _ _ h =>
    obtain ⟨copied, hcopy, hinsert⟩ := copyInto_ok h
    exact (setting_insert hinsert).trans (setting_copyItem hcopy)
  | wear _ => rfl
  | takeOff _ => rfl
  | rest h => exact h.setting

/-! ## Deeds as changes -/

/-- A deed only concerns things. -/
theorem Does.thingsOnly {deed : Deed} (h : world.Does deed changed) (hdeed : deed ≠ .rest) :
    world.ThingsOnly changed := by
  cases h with
  | take _ _ _ _ h => exact thingsOnly_insert h
  | drop _ h => exact (world.thingsOnly_modifyItem _ _).trans (thingsOnly_insert h)
  | spend h => exact thingsOnly_destroy h
  | put _ _ h => exact thingsOnly_insert h
  | @copy key container _ _ _ _ h =>
    have hcopies := world.thingsOnly_copyInto (.item container) key
    rwa [h] at hcopies
  | wear _ => exact world.thingsOnly_modifyItem _ _
  | takeOff _ => exact world.thingsOnly_modifyItem _ _
  | rest _ => exact absurd rfl hdeed

/-- A deed without a copy is a number of changes. -/
theorem Does.evolves {deed : Deed} (h : world.Does deed changed) (hdeed : deed ≠ .rest)
    (hmodel : deed.model? = none) : world.Evolves changed := by
  cases h with
  | take _ _ _ _ h => exact .single (.insert h)
  | drop _ h => exact (Evolves.single (.wear _ false)).step (.insert h)
  | spend h => exact .single (.destroy h)
  | put _ _ h => exact .single (.insert h)
  | copy _ _ _ => cases hmodel
  | wear _ => exact .single (.wear _ true)
  | takeOff _ => exact .single (.wear _ false)
  | rest _ => exact absurd rfl hdeed

/-- An item that was taken off before it is used up is used up as well as one that was not. -/
theorem destroy_withWorn_false (key : ItemKey) :
    (world.modifyItem key (·.withWorn false)).destroy key = world.destroy key := by
  have hsame : (world.modifyItem key (·.withWorn false)).modifyItem key (·.withWorn false) =
      world.modifyItem key (·.withWorn false) := by
    simp only [modifyItem, List.modify_modify_eq]
    congr
    funext item
    exact item.withWorn_withWorn false false
  unfold destroy tryDestroy
  rw [hsame]

end World

/-! ## What handlers come to -/

namespace Turn

variable {turn : Turn} {deed : Deed} {args : List Arg}

/-- What a stage comes to that is refused before it changes anything, or does a deed. -/
inductive Settles (turn : Turn) (deed : Deed) : Turn × Report → Prop
  /-- The command is refused, and nothing has changed. -/
  | refused {report : Report} (hrefused : report.success = false) :
      Settles turn deed (turn, report)
  /-- The deed is done. -/
  | done {world : World} {report : Report} (hsuccess : report.success = true)
      (hdeed : deed ≠ .rest) (hdoes : turn.world.Does deed world) :
      Settles turn deed (turn.withWorld world, report)

theorem Settles.refuse (key : String) (values : List String) :
    turn.Settles deed (turn, turn.refuse key values) := .refused rfl

/-- Settling on a change does what the change does, or is refused together with it. -/
theorem Settles.settle {outcome : World × Except WorldError Unit} {change : Except WorldError World}
    {key : String} {values : List String} (houtcome : outcome = turn.world.attempt change)
    (hdeed : deed ≠ .rest) (h : ∀ world, change = .ok world → turn.world.Does deed world) :
    turn.Settles deed (Stage.settle turn outcome key values args) := by
  subst houtcome
  cases change with
  | ok world => exact .done rfl hdeed (h world rfl)
  | error refusal => exact .refuse _ _

/-- What a stage comes to that only tells something. -/
inductive OnlyTells (turn : Turn) : Turn × Report → Prop
  /-- Nothing has changed. -/
  | stays (report : Report) : OnlyTells turn (turn, report)
  /-- The player has looked around. -/
  | looks {report : Report} (hsuccess : report.success = true) :
      OnlyTells turn (turn.withWorld (turn.world.lookAround true).1, report)

end Turn

namespace Stage

variable {turn : Turn} (command : Command) {args : List Arg}

/-! ### Things -/

theorem settles_take :
    turn.Settles (Handler.take.deed turn.world args) (take turn command args) := by
  unfold take
  split
  · exact .refuse _ _
  · rename_i key hkey
    simp only []
    split
    · exact .refuse _ _
    · rename_i hfree
      split
      · exact .refuse _ _
      · rename_i howner
        split
        · exact .refuse _ _
        · split
          · exact .refuse _ _
          · split
            · exact .refuse _ _
            · split
              · exact .refuse _ _
              · rename_i inventory hfilter
                obtain ⟨hserves, hfits⟩ := Option.filter_eq_some_iff.mp hfilter
                have hdeed : Handler.take.deed turn.world args = .take key inventory := by
                  simp only [Handler.deed, hkey, hserves]
                rw [hdeed]
                exact .settle (World.tryInsert_eq _ _ _) nofun fun world h =>
                  .take (Bool.eq_false_iff.mpr hfree) howner hserves hfits h

theorem settles_wear :
    turn.Settles (Handler.wear.deed turn.world args) (wear turn command args) := by
  unfold wear
  split
  · exact .refuse _ _
  · rename_i key hkey
    simp only []
    split
    · exact .refuse _ _
    · rename_i hheld
      split
      · exact .refuse _ _
      · split
        · exact .refuse _ _
        · simp only [Handler.deed, hkey, Option.elim_some]
          exact .done rfl nofun (.wear (by simpa using hheld))

theorem settles_remove :
    turn.Settles (Handler.remove.deed turn.world args) (remove turn command args) := by
  unfold remove
  split
  · exact .refuse _ _
  · rename_i key hkey
    simp only []
    split
    · rename_i hworn
      simp only [Handler.deed, hkey, Option.elim_some]
      exact .done rfl nofun (.takeOff hworn)
    · exact .refuse _ _

theorem settles_consume :
    turn.Settles (Handler.consume.deed turn.world args) (consume turn command args) := by
  unfold consume
  split
  · exact .refuse _ _
  · rename_i key hkey
    simp only []
    split
    · simp only [Handler.deed, hkey, Option.elim_some]
      exact .settle (World.tryDestroy_eq _ _) nofun fun world h => .spend h
    · exact .refuse _ _

theorem settles_pour :
    turn.Settles (Handler.pour.deed turn.world args) (pour turn command args) := by
  unfold pour
  split
  · exact .refuse _ _
  · rename_i key hkey
    split
    · exact .refuse _ _
    · rename_i liquid hliquid
      simp only [Handler.deed, hkey, Option.bind_some, hliquid, Option.elim_some]
      exact .settle (World.tryDestroy_eq _ _) nofun fun world h => .spend h

/-- Dropping an item is refused with nothing changed, or the item is held: it is taken off and then
drains away, if it is liquid, or is laid down. -/
theorem drop_outcome :
    (∃ report, report.success = false ∧ drop turn command args = (turn, report)) ∨
      ∃ key, itemAt args 0 = some key ∧ turn.world.holds key = true ∧
        let taken := turn.withWorld (turn.world.modifyItem key (·.withWorn false))
        let name := turn.world.itemName key
        drop turn command args =
          if (turn.world.item? key).any (·.isLiquid) then
            settle taken (taken.world.tryDestroy key) "confirm_poured" [name] args
          else
            settle taken (taken.world.tryInsert (.location taken.world.player.location) key)
              "confirm_dropped" [name] args := by
  unfold drop
  split
  · exact .inl ⟨_, rfl, rfl⟩
  · rename_i key hkey
    dsimp only
    split
    · exact .inl ⟨_, rfl, rfl⟩
    · rename_i hheld
      refine .inr ⟨key, hkey, by simpa using hheld, ?_⟩
      have hliquid : ((turn.world.modifyItem key (·.withWorn false)).item? key).any (·.isLiquid) =
          (turn.world.item? key).any (·.isLiquid) := by
        rw [World.item?_modifyItem, if_pos rfl, Option.any_map]
        rfl
      simp only [Turn.withWorld, hliquid]

/-! ### Switching -/

/-- Switching an item is refused, or sets or clears an attribute of a target. -/
theorem switch_outcome :
    (∃ report, report.success = false ∧ switch turn command args = (turn, report)) ∨
      ∃ target on report, report.success = true ∧ switch turn command args =
        (turn.withWorld (turn.world.setTarget on target), report) := by
  unfold switch
  split
  · exact .inl ⟨_, rfl, rfl⟩
  · simp only []
    split
    · split
      · exact .inl ⟨_, rfl, rfl⟩
      · split
        · rename_i changed state hswitch
          obtain ⟨target, -, -, -, -, rfl⟩ := World.switch_cases hswitch
          exact .inr ⟨target, state, _, rfl, rfl⟩
        · exact .inl ⟨_, rfl, rfl⟩
    · exact .inl ⟨_, rfl, rfl⟩

/-! ### Telling -/

theorem onlyTells_look : turn.OnlyTells (look turn command args) := .looks rfl

theorem onlyTells_describe : turn.OnlyTells (describe turn command args) := by
  unfold describe
  split
  · exact onlyTells_look command
  · split
    · exact .stays _
    · simp only []
      split <;> exact .stays _

theorem onlyTells_read : turn.OnlyTells (read turn command args) := by
  unfold read
  split
  · exact .stays _
  · split <;> exact .stays _

theorem onlyTells_inventory : turn.OnlyTells (inventory turn command args) := by
  unfold inventory
  split <;> exact .stays _

theorem onlyTells_topic {table : Table String String} {missing : String} :
    turn.OnlyTells (topic table missing turn command args) := by
  unfold topic
  simp only []
  split
  · exact .stays _
  · split <;> exact .stays _

/-! ### Moving -/

/-- Walking is refused, or the player arrives where the first argument says. -/
theorem go_outcome :
    (∃ report, report.success = false ∧ go turn command args = (turn, report)) ∨
      ∃ destination, args.head?.bind (·.location?) = some destination ∧
        go turn command args = turn.arrive destination args := by
  unfold go
  split
  · exact .inl ⟨_, rfl, rfl⟩
  · rename_i destination hgoal
    split
    · split
      · exact .inr ⟨destination, hgoal, rfl⟩
      · exact .inl ⟨_, rfl, rfl⟩
    · exact .inr ⟨destination, hgoal, rfl⟩

/-- So is jumping. -/
theorem teleport_outcome :
    (∃ report, report.success = false ∧ teleport turn command args = (turn, report)) ∨
      ∃ destination, args.head?.bind (·.location?) = some destination ∧
        teleport turn command args = turn.arrive destination args := by
  unfold teleport
  split
  · exact .inl ⟨_, rfl, rfl⟩
  · rename_i destination hgoal
    exact .inr ⟨destination, hgoal, rfl⟩

end Stage

namespace Handler

/-- Whether a handler only tells something. -/
def tells : Handler → Bool
  | look | describe | read | inventory | score | help | hint | explain | commands | interact => true
  | _ => false

theorem onlyTells {handler : Handler} (h : handler.tells = true) (turn : Turn) (command : Command)
    (args : List Arg) : turn.OnlyTells (handler.stage turn command args) := by
  cases handler with
  | look => exact Stage.onlyTells_look command
  | describe => exact Stage.onlyTells_describe command
  | read => exact Stage.onlyTells_read command
  | inventory => exact Stage.onlyTells_inventory command
  | hint => exact Stage.onlyTells_topic command
  | explain => exact Stage.onlyTells_topic command
  | score => exact .stays _
  | help => exact .stays _
  | commands => exact .stays _
  | interact => exact .stays _
  | _ => cases h

/-- Whether a handler settles on a deed before it changes anything. -/
def settlesFirst : Handler → Bool
  | take | wear | remove | consume | pour => true
  | _ => false

theorem settles {handler : Handler} (h : handler.settlesFirst = true) (turn : Turn)
    (command : Command) (args : List Arg) :
    turn.Settles (handler.deed turn.world args) (handler.stage turn command args) := by
  cases handler with
  | take => exact Stage.settles_take command
  | wear => exact Stage.settles_wear command
  | remove => exact Stage.settles_remove command
  | consume => exact Stage.settles_consume command
  | pour => exact Stage.settles_pour command
  | _ => cases h

/-- None of these deeds makes a copy. -/
theorem model?_deed {handler : Handler} (h : handler.settlesFirst = true) (world : World)
    (args : List Arg) : (handler.deed world args).model? = none := by
  cases handler with
  | take =>
    simp only [deed]
    split <;> rfl
  | wear => cases hkey : Stage.itemAt args 0 <;> simp [deed, hkey, Deed.model?]
  | remove => cases hkey : Stage.itemAt args 0 <;> simp [deed, hkey, Deed.model?]
  | consume => cases hkey : Stage.itemAt args 0 <;> simp [deed, hkey, Deed.model?]
  | pour =>
    cases hkey : (Stage.itemAt args 0).bind (Stage.poured? world) <;> simp [deed, hkey, Deed.model?]
  | _ => cases h

end Handler

end Adventure
