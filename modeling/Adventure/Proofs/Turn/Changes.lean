import Adventure.Proofs.World.Consistency
import Adventure.Proofs.World.References
import Adventure.Turn.Events
import Mathlib.Logic.Relation

/-!
# What a turn may change

Stages change a world in a few ways only: they change the player, move or destroy an item, change
other parts of an item or a location, and note that an event has fired. All that can become of each
of these is listed here once; whatever all of them keep, a turn keeps. Making a copy is not among
them, since it alone can leave an item that no holder lists.
-/

namespace Adventure

/-- A player who dies is no longer alive, or was immune. -/
theorem Player.die_cases (player : Player) :
    player.die = player ∨ player.die = { player with alive := false } := by
  unfold die
  split
  · exact .inl rfl
  · exact .inr rfl

namespace World

open Relation

variable {world changed : World}

/-- How a turn changes the player. -/
inductive PlayerChange (world : World) : (Player → Player) → Prop
  /-- The player goes to a location. -/
  | move {destination : LocationId} (h : world.Knows destination) :
      PlayerChange world (·.moveTo destination)
  /-- The player dies, unless immune. -/
  | die : PlayerChange world (·.die)
  /-- No command waits any longer. -/
  | forget : PlayerChange world (·.forget)
  /-- The player gives up. -/
  | quit : PlayerChange world fun player => { player with playing := false, pending := .idle }
  /-- An attribute of the player is set or cleared. -/
  | assign (flag : PlayerFlags) (on : Bool) :
      PlayerChange world fun p => { p with attributes := p.attributes.assign flag on }
  /-- The player is awarded points. -/
  | award (points : Nat) : PlayerChange world fun p => { p with score := Count.add p.score points }

/-- How a turn changes an item, apart from where it is and what it holds. -/
inductive ItemChange : (Item → Item) → Prop
  /-- A garment is put on or taken off. -/
  | wear (worn : Bool) : ItemChange (·.withWorn worn)
  /-- An attribute is set or cleared. -/
  | assign (flag : ItemFlags) (on : Bool) :
      ItemChange fun i => { i with attributes := i.attributes.assign flag on }

/-- How a turn changes a location, apart from what lies there. -/
inductive LocationChange (world : World) (id : LocationId) : (Location → Location) → Prop
  /-- The player has seen it. -/
  | visit : LocationChange world id fun l => { l with visited := true }
  /-- An attribute is set or cleared. -/
  | assign (flag : LocationFlags) (on : Bool) :
      LocationChange world id fun l => { l with attributes := l.attributes.assign flag on }
  /-- An exit is closed, or opened or redirected to a location. -/
  | relink {direction : Direction} {destination : Option LocationId}
      (h : ∀ leadsTo ∈ destination, world.Knows leadsTo) :
      LocationChange world id (·.relink direction destination)
  /-- A further description that the location has is attached, or none. -/
  | describe {extension : Option Nat}
      (h : ∀ index ∈ extension, world.scope.extension id index) :
      LocationChange world id fun l => { l with labels := { l.labels with extension } }

/-- One change of a world during a turn, other than making a copy. -/
inductive Change (world : World) : World → Prop
  /-- The player changes. -/
  | player {f : Player → Player} (h : world.PlayerChange f) : Change world (world.modifyPlayer f)
  /-- An item is put somewhere. -/
  | insert {holder : Holder} {key : ItemKey} {changed : World}
      (h : world.insert holder key = .ok changed) : Change world changed
  /-- An item is taken out for good. -/
  | destroy {key : ItemKey} {changed : World} (h : world.destroy key = .ok changed) :
      Change world changed
  /-- An item changes, but not in where it is and what it holds. -/
  | item {key : ItemKey} {f : Item → Item} (h : ItemChange f) :
      Change world (world.modifyItem key f)
  /-- A location changes, but not in what lies there. -/
  | location {id : LocationId} {f : Location → Location} (h : world.LocationChange id f) :
      Change world (world.modifyLocation id f)
  /-- An event has fired. -/
  | fire (id : EventId) : Change world (world.markFired id)

/-- Any number of changes. -/
def Evolves : World → World → Prop := ReflTransGen Change

theorem Evolves.refl (world : World) : Evolves world world := ReflTransGen.refl

theorem Evolves.single (h : Change world changed) : Evolves world changed := ReflTransGen.single h

theorem Evolves.trans {between : World} (h : Evolves world between)
    (h' : Evolves between changed) : Evolves world changed := ReflTransGen.trans h h'

theorem Evolves.step {between : World} (h : Evolves world between) (h' : Change between changed) :
    Evolves world changed := ReflTransGen.tail h h'

/-- What every change keeps is kept by any number of changes. -/
theorem Evolves.keeps {P : World → Prop}
    (hstep : ∀ world changed, Change world changed → P world → P changed)
    (h : Evolves world changed) (hworld : P world) : P changed := by
  induction h with
  | refl => exact hworld
  | tail _ hchange ih => exact hstep _ _ hchange ih

/-! ## Particular changes -/

/-- Putting a garment on or taking it off is a change of the item alone. -/
theorem Change.wear (key : ItemKey) (worn : Bool) :
    Change world (world.modifyItem key (·.withWorn worn)) := .item (.wear worn)

/-- Switching changes an attribute of an item or a location. -/
theorem Change.setTarget (on : Bool) (target : SwitchTarget) :
    Change world (world.setTarget on target) := by
  cases target with
  | item key flag => exact .item (.assign flag on)
  | location id flag => exact .location (.assign flag on)

/-- The player moves to a location. -/
theorem Change.moveTo {destination : LocationId} (h : world.Knows destination) :
    Change world (world.modifyPlayer (·.moveTo destination)) := .player (.move h)

/-- The player dies, unless immune. -/
theorem Change.die : Change world (world.modifyPlayer (·.die)) := .player .die

/-! ## What changes of one thing keep -/

section Parts

variable {f : Player → Player} {g : Item → Item} {h : Location → Location} {id : LocationId}

/-- The player stays on the map, and comes back to life where the game began. -/
theorem PlayerChange.player_in (hf : world.PlayerChange f) (hclosed : world.Closed) :
    (f world.player).In world.scope := by
  have hplayer := hclosed.player
  cases hf with
  | move hknown => exact hplayer.moveTo hknown
  | die =>
    rcases world.player.die_cases with hdie | hdie <;> simp only [hdie]
    · exact hplayer
    · exact ⟨hplayer.here, hplayer.start, hplayer.previous⟩
  | _ => exact ⟨hplayer.here, hplayer.start, hplayer.previous⟩

theorem PlayerChange.start_eq (hf : world.PlayerChange f) (player : Player) :
    (f player).start = player.start := by
  cases hf with
  | die => rcases player.die_cases with hdie | hdie <;> simp only [hdie]
  | _ => rfl

/-- No change of the player makes a command wait. -/
theorem PlayerChange.idle (hf : world.PlayerChange f) {player : Player}
    (hidle : player.pending = .idle) : (f player).pending = .idle := by
  cases hf with
  | die => rcases player.die_cases with hdie | hdie <;> simp only [hdie, hidle]
  | forget => rfl
  | quit => rfl
  | _ => exact hidle

theorem ItemChange.holder_eq (hg : ItemChange g) (item : Item) : (g item).holder = item.holder := by
  cases hg <;> rfl

theorem ItemChange.contents_eq (hg : ItemChange g) (item : Item) :
    (g item).contents = item.contents := by
  cases hg <;> rfl

theorem ItemChange.item_in (hg : ItemChange g) {item : Item} {scope : Scope}
    (hitem : item.In scope) : (g item).In scope := by
  cases hg <;> exact ⟨hitem.holder, hitem.target, hitem.model, hitem.attached⟩

theorem LocationChange.items_eq (hh : world.LocationChange id h) (location : Location) :
    (h location).items = location.items := by
  cases hh with
  | relink hleads => exact location.items_relink _ _
  | _ => rfl

theorem LocationChange.pristine_eq (hh : world.LocationChange id h) (location : Location) :
    (h location).pristine = location.pristine := by
  cases hh with
  | relink hleads => simp [Location.pristine, Location.relink]
  | _ => rfl

/-- Exits are opened to locations only, and descriptions attached that the location has. -/
theorem LocationChange.location_in (hh : world.LocationChange id h) (hclosed : world.Closed)
    {location : Location} (hlocation : world.location? id = some location) :
    (h location).In world.scope := by
  have hbefore := hclosed.locations id location hlocation
  cases hh with
  | visit => exact ⟨hbefore.exits, hbefore.attached⟩
  | assign flag on => exact ⟨hbefore.exits, hbefore.attached⟩
  | relink hleads => exact hbefore.relink hleads
  | describe hextension =>
    refine ⟨hbefore.exits, fun index hindex => ?_⟩
    obtain ⟨found, hfound, hbound⟩ := hextension index hindex
    rw [hlocation] at hfound
    cases hfound
    exact hbound

end Parts

/-! ## What changes keep -/

/-- No change takes an item away or adds one. -/
theorem Change.length_items (h : Change world changed) :
    changed.items.length = world.items.length := by
  cases h with
  | insert h => exact length_items_insert h
  | destroy h => exact length_items_destroy h
  | item h => exact length_items_modifyItem _ _ _
  | player h => rfl
  | location h => rfl
  | fire id => rfl

/-- No change concerns the setting of the game. -/
theorem Change.setting (h : Change world changed) : changed.setting = world.setting := by
  cases h with
  | player h => exact setting_modifyPlayer (h.start_eq world.player)
  | insert h => exact setting_insert h
  | destroy h => exact setting_destroy h
  | item h => exact setting_modifyItem _ _
  | location h => exact setting_modifyLocation h.pristine_eq
  | fire id => exact setting_modifyEvent fun _ => rfl

/-- No change leaves a reference dangling. -/
theorem Change.closed (h : Change world changed) (hclosed : world.Closed) : changed.Closed := by
  have hsetting := h.setting
  have hitems := Nat.le_of_eq h.length_items.symm
  cases h with
  | player h => exact .of_in (In.modifyPlayer hclosed (h.player_in hclosed)) hsetting hitems
  | insert h => exact hclosed.insert h
  | destroy h => exact hclosed.destroy h
  | @item key f h =>
    have hin : (world.modifyItem key f).In world.scope :=
      In.modifyItem hclosed fun item hitem => h.item_in (hclosed.items key item hitem)
    exact .of_in hin hsetting hitems
  | location h =>
    exact .of_in (In.modifyLocation hclosed fun _ => h.location_in hclosed) hsetting hitems
  | fire id => exact .of_in (In.markFired hclosed id) hsetting hitems

/-- A change moves an item or takes one out, or it leaves all items where they are. -/
theorem Change.moves_or_rests (h : Change world changed) :
    (∃ holder key, world.insert holder key = .ok changed) ∨
      (∃ key, world.destroy key = .ok changed) ∨
        (∀ key, changed.holder? key = world.holder? key) ∧
          ∀ holder, changed.contents holder = world.contents holder := by
  cases h with
  | @insert holder key _ h => exact .inl ⟨holder, key, h⟩
  | @destroy key _ h => exact .inr (.inl ⟨key, h⟩)
  | player h => exact .inr (.inr ⟨fun _ => rfl, fun holder => by cases holder <;> rfl⟩)
  | fire id => exact .inr (.inr ⟨fun _ => rfl, fun holder => by cases holder <;> rfl⟩)
  | item h =>
    exact .inr (.inr ⟨holder?_modifyItem_of_holder _ h.holder_eq,
      contents_modifyItem_of_contents _ h.contents_eq⟩)
  | location h =>
    exact .inr (.inr ⟨fun _ => rfl, contents_modifyLocation_of_items _ h.items_eq⟩)

/-- After a change, holders list only items that name them, and each once, if they did before. -/
theorem Change.exclusive (h : Change world changed) (hexclusive : world.Exclusive) :
    changed.Exclusive := by
  rcases h.moves_or_rests with ⟨holder, key, h⟩ | ⟨key, h⟩ | ⟨hnames, hlists⟩
  · exact hexclusive.move (.insert h)
  · exact hexclusive.move (.destroy h)
  · exact hexclusive.of_views hnames hlists

/-- After a change, holders list only items that name them, if they did before; and an item that is
not listed by its holder was not listed before. -/
theorem Change.listed (h : Change world changed) (hown : world.OwnLists) :
    changed.OwnLists ∧ ∀ key holder, changed.Unlisted key holder → world.Unlisted key holder := by
  rcases h.moves_or_rests with ⟨into, moved, h⟩ | ⟨moved, h⟩ | ⟨hnames, hlists⟩
  · exact ⟨hown.move (.insert h),
      fun key holder hunlisted => ((unlisted_insert (hown holder) h).mp hunlisted).2⟩
  · exact ⟨hown.move (.destroy h),
      fun key holder hunlisted => ((unlisted_destroy (hown holder) h).mp hunlisted).2⟩
  · refine ⟨fun holder key hmem => ?_, fun key holder => (unlisted_congr hnames hlists).mp⟩
    rw [hnames]
    exact hown holder key (hlists holder ▸ hmem)

/-- No change makes a command wait. -/
theorem Change.idle (h : Change world changed) (hidle : world.player.pending = .idle) :
    changed.player.pending = .idle := by
  cases h with
  | player h => exact h.idle hidle
  | insert h => rw [player_insert h, hidle]
  | destroy h => rw [player_destroy h, hidle]
  | item h => exact hidle
  | location h => exact hidle
  | fire id => exact hidle

/-! ## What any number of changes keep -/

theorem Evolves.setting (h : Evolves world changed) : changed.setting = world.setting :=
  h.keeps (P := fun later => later.setting = world.setting)
    (fun _ _ hchange hbefore => hchange.setting.trans hbefore) rfl

theorem Evolves.length_items (h : Evolves world changed) :
    changed.items.length = world.items.length :=
  h.keeps (P := fun later => later.items.length = world.items.length)
    (fun _ _ hchange hbefore => hchange.length_items.trans hbefore) rfl

/-- After any number of changes, there is all that there was. -/
theorem Evolves.scope_sub (h : Evolves world changed) : world.scope.Sub changed.scope :=
  World.scope_sub h.setting (Nat.le_of_eq h.length_items.symm)

theorem Evolves.closed (h : Evolves world changed) (hclosed : world.Closed) : changed.Closed :=
  h.keeps (fun _ _ hchange hbefore => hchange.closed hbefore) hclosed

theorem Evolves.exclusive (h : Evolves world changed) (hexclusive : world.Exclusive) :
    changed.Exclusive :=
  h.keeps (fun _ _ hchange hbefore => hchange.exclusive hbefore) hexclusive

theorem Evolves.idle (h : Evolves world changed) (hidle : world.player.pending = .idle) :
    changed.player.pending = .idle :=
  h.keeps (fun _ _ hchange hbefore => hchange.idle hbefore) hidle

/-- After any number of changes, an item that is not listed by its holder was not listed before. -/
theorem Evolves.listed (h : Evolves world changed) (hown : world.OwnLists) :
    changed.OwnLists ∧ ∀ key holder, changed.Unlisted key holder → world.Unlisted key holder := by
  induction h with
  | refl => exact ⟨hown, fun _ _ hunlisted => hunlisted⟩
  | tail _ hchange ih =>
    obtain ⟨hafter, hlisted⟩ := hchange.listed ih.1
    exact ⟨hafter, fun key holder hunlisted => ih.2 key holder (hlisted key holder hunlisted)⟩

end World

end Adventure
