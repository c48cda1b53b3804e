import Adventure.Proofs.World.Setting

/-!
# References

The parts of a world refer to each other by numbers and keys: the player to locations, an exit to
where it leads, an item to what holds it and what it switches, an event to all that it asks for and
changes. A scope says what can be referred to. While a world is built that is what its description
declares; from then on it is the world itself, and a world is closed if all its references are to
things in it. No move of an item leaves a closed world open, and a world that only gains items
loses no reference.
-/

namespace Adventure

/-! ## Exits -/

namespace Location

@[simp] theorem id_deriveOut (location : Location) : location.deriveOut.id = location.id := by
  unfold deriveOut
  split
  · rfl
  · simp only []
    split <;> rfl

@[simp] theorem items_deriveOut (location : Location) :
    location.deriveOut.items = location.items := by
  unfold deriveOut
  split
  · rfl
  · simp only []
    split <;> rfl

@[simp] theorem labels_deriveOut (location : Location) :
    location.deriveOut.labels = location.labels := by
  unfold deriveOut
  split
  · rfl
  · simp only []
    split <;> rfl

theorem labels_relink (location : Location) (direction : Direction)
    (destination : Option LocationId) :
    (location.relink direction destination).labels = location.labels :=
  labels_deriveOut _

/-- Opening, redirecting or closing an exit does not move what lies at the location. -/
theorem items_relink (location : Location) (direction : Direction)
    (destination : Option LocationId) :
    (location.relink direction destination).items = location.items :=
  items_deriveOut _

/-- Deriving the exit `out` opens no way to anywhere new. -/
theorem destination_deriveOut {location : Location} {direction : Direction} {id : LocationId}
    (h : location.deriveOut.destination direction = some id) :
    ∃ other, location.destination other = some id := by
  unfold deriveOut at h
  by_cases hdeclared : location.outDeclared = true
  · rw [if_pos hdeclared] at h
    exact ⟨direction, h⟩
  · rw [if_neg hdeclared] at h
    cases honly : onlyMember? (location.exits.erase .out).values with
    | none =>
      simp only [honly] at h
      exact ⟨direction, Table.get?_of_get?_erase h⟩
    | some only =>
      simp only [honly, destination, Table.get?_insert] at h
      by_cases hout : direction = .out
      · rw [if_pos hout, Option.some.injEq] at h
        subst h
        have hmem : only ∈ (location.exits.erase .out).values := by
          unfold onlyMember? at honly
          split at honly
          · cases honly
          · rename_i first rest heq
            split at honly
            · rw [heq]
              exact List.mem_cons.mpr (.inl (Option.some.inj honly).symm)
            · cases honly
        obtain ⟨other, hother⟩ := Table.mem_values.mp hmem
        exact ⟨other, Table.get?_of_get?_erase hother⟩
      · rw [if_neg hout] at h
        exact ⟨direction, Table.get?_of_get?_erase h⟩

/-- A declared exit is not touched when the exit `out` is derived. -/
theorem destination_deriveOut_of_declared {location : Location} {direction : Direction}
    (h : direction = .out → location.outDeclared = true) :
    location.deriveOut.destination direction = location.destination direction := by
  unfold deriveOut
  split
  · rfl
  · rename_i hderived
    have hne : direction ≠ .out := fun heq => hderived (h heq)
    simp only []
    split
    · refine (Table.get?_insert _ _ _ _).trans ?_
      rw [if_neg hne, Table.get?_erase, if_neg hne]
      rfl
    · refine (Table.get?_erase _ _ _).trans ?_
      rw [if_neg hne]
      rfl

/-- Where a relinked location leads is where the new exit leads or where it led before. -/
theorem destination_relink {location : Location} {direction way : Direction}
    {destination : Option LocationId} {id : LocationId}
    (h : (location.relink direction destination).destination way = some id) :
    destination = some id ∨ ∃ other, location.destination other = some id := by
  unfold relink at h
  obtain ⟨other, hother⟩ := destination_deriveOut h
  cases destination with
  | none => exact .inr ⟨other, Table.get?_of_get?_erase hother⟩
  | some opened =>
    simp only [Location.destination, Table.get?_insert] at hother
    by_cases heq : other = direction
    · rw [if_pos heq] at hother
      exact .inl hother
    · rw [if_neg heq] at hother
      exact .inr ⟨other, hother⟩

end Location

/-! ## Scopes -/

/-- What can be referred to. -/
structure Scope where
  /-- The locations. -/
  location : LocationId → Prop
  /-- The items. -/
  item : ItemKey → Prop
  /-- The inventories. -/
  inventory : InventoryId → Prop
  /-- The commands. -/
  command : CommandId → Prop
  /-- The positions of the further descriptions of each location. -/
  extension : LocationId → Nat → Prop

/-- All that is in a scope is in a wider one. -/
structure Scope.Sub (scope wider : Scope) : Prop where
  location : ∀ {id}, scope.location id → wider.location id
  item : ∀ {key}, scope.item key → wider.item key
  inventory : ∀ {id}, scope.inventory id → wider.inventory id
  command : ∀ {id}, scope.command id → wider.command id
  extension : ∀ {id index}, scope.extension id index → wider.extension id index

theorem Scope.Sub.trans {scope wider widest : Scope} (h : scope.Sub wider) (h' : wider.Sub widest) :
    scope.Sub widest :=
  ⟨h'.location ∘ h.location, h'.item ∘ h.item, h'.inventory ∘ h.inventory, h'.command ∘ h.command,
    h'.extension ∘ h.extension⟩

/-! ## Things that refer to others -/

section Things

variable (scope : Scope)

/-- A holder in a scope. -/
def Holder.In : Holder → Prop
  | .location id => scope.location id
  | .item key => scope.item key
  | .inventory id => scope.inventory id

/-- A switch acts on something in a scope. -/
def SwitchTarget.In : SwitchTarget → Prop
  | .item key _ => scope.item key
  | .location id _ => scope.location id

/-- The position of the attached further description is that of one. -/
def Labels.Attached (labels : Labels) : Prop :=
  ∀ index ∈ labels.extension, index < labels.extendedDescriptions.length

/-- An item refers to things in a scope. -/
structure Item.In (item : Item) : Prop where
  /-- What holds it is in the scope. -/
  holder : ∀ holder ∈ item.holder, holder.In scope
  /-- What it switches is in the scope. -/
  target : ∀ target ∈ item.switch.bind (·.target), target.In scope
  /-- The item that it is a copy of is in the scope. -/
  model : ∀ model ∈ item.copyOf, scope.item model
  /-- Its attached description is one of its own. -/
  attached : item.labels.Attached

/-- A location refers to things in a scope. -/
structure Location.In (location : Location) : Prop where
  /-- Its exits lead to places in the scope. -/
  exits : ∀ direction, ∀ destination ∈ location.destination direction, scope.location destination
  /-- Its attached description is one of its own. -/
  attached : location.labels.Attached

/-- An inventory serves at places in a scope. -/
def Inventory.In (inventory : Inventory) : Prop := ∀ id ∈ inventory.locations, scope.location id

/-- A command takes the player from and to places in a scope. -/
def Command.In (command : Command) : Prop :=
  ∀ origin destination, command.teleport.get? origin = some destination →
    scope.location origin ∧ scope.location destination

/-- A prerequisite asks for things in a scope. -/
def Prerequisite.In : Prerequisite → Prop
  | .itemIn item holder => scope.item item ∧ holder.In scope
  | .itemHeld item => scope.item item
  | .playerAt location => scope.location location
  | .eventFired _ => True
  | .eventNotFired _ => True

/-- An action changes things in a scope. -/
def Action.In : Action → Prop
  | .destroyItem item => scope.item item
  | .moveItem item destination => scope.item item ∧ destination.In scope
  | .giveItem item => scope.item item
  | .replaceItem outgoing incoming => scope.item outgoing ∧ scope.item incoming
  | .setPlayerAttribute _ _ => True
  | .setLocationAttribute location _ _ => scope.location location
  | .setItemAttribute item _ _ => scope.item item
  | .linkDirection location _ destination =>
    scope.location location ∧ ∀ leadsTo ∈ destination, scope.location leadsTo
  | .describeLocation location extension =>
    scope.location location ∧ ∀ index ∈ extension, scope.extension location index
  | .movePlayer location => scope.location location

/-- An event refers to things in a scope. -/
structure Event.In (event : Event) : Prop where
  /-- The command that it answers is in the scope. -/
  command : scope.command event.command
  /-- So is all that it asks for. -/
  prerequisites : ∀ prerequisite ∈ event.prerequisites, prerequisite.In scope
  /-- So is all that it changes. -/
  actions : ∀ action ∈ event.outcome.actions, action.In scope

/-- The player is, began and was before at places in a scope. -/
structure Player.In (player : Player) : Prop where
  /-- The player is at a place in the scope. -/
  here : scope.location player.location
  /-- The player comes back to life at a place in the scope. -/
  start : scope.location player.start
  /-- The player came from a place in the scope. -/
  previous : ∀ id ∈ player.previous, scope.location id

end Things

/-! ## Wider scopes -/

section Wider

variable {scope wider : Scope} (hsub : scope.Sub wider)

include hsub

theorem Holder.In.mono {holder : Holder} (h : holder.In scope) : holder.In wider := by
  cases holder with
  | location id => exact hsub.location h
  | item key => exact hsub.item h
  | inventory id => exact hsub.inventory h

theorem SwitchTarget.In.mono {target : SwitchTarget} (h : target.In scope) : target.In wider := by
  cases target with
  | item key flag => exact hsub.item h
  | location id flag => exact hsub.location h

theorem Item.In.mono {item : Item} (h : item.In scope) : item.In wider :=
  ⟨fun holder hholder => (h.holder holder hholder).mono hsub,
    fun target htarget => (h.target target htarget).mono hsub,
    fun model hmodel => hsub.item (h.model model hmodel), h.attached⟩

theorem Location.In.mono {location : Location} (h : location.In scope) : location.In wider :=
  ⟨fun direction destination hleads => hsub.location (h.exits direction destination hleads),
    h.attached⟩

theorem Inventory.In.mono {inventory : Inventory} (h : inventory.In scope) :
    inventory.In wider := fun id hid => hsub.location (h id hid)

theorem Command.In.mono {command : Command} (h : command.In scope) : command.In wider :=
  fun origin destination hleads =>
    ⟨hsub.location (h origin destination hleads).1, hsub.location (h origin destination hleads).2⟩

theorem Prerequisite.In.mono {prerequisite : Prerequisite} (h : prerequisite.In scope) :
    prerequisite.In wider := by
  cases prerequisite with
  | itemIn item holder => exact ⟨hsub.item h.1, h.2.mono hsub⟩
  | itemHeld item => exact hsub.item h
  | playerAt location => exact hsub.location h
  | eventFired event => trivial
  | eventNotFired event => trivial

theorem Action.In.mono {action : Action} (h : action.In scope) : action.In wider := by
  cases action with
  | destroyItem item => exact hsub.item h
  | moveItem item destination => exact ⟨hsub.item h.1, h.2.mono hsub⟩
  | giveItem item => exact hsub.item h
  | replaceItem outgoing incoming => exact ⟨hsub.item h.1, hsub.item h.2⟩
  | setPlayerAttribute flag on => trivial
  | setLocationAttribute location flag on => exact hsub.location h
  | setItemAttribute item flag on => exact hsub.item h
  | linkDirection location direction destination =>
    exact ⟨hsub.location h.1, fun leadsTo hleads => hsub.location (h.2 leadsTo hleads)⟩
  | describeLocation location extension =>
    exact ⟨hsub.location h.1, fun index hindex => hsub.extension (h.2 index hindex)⟩
  | movePlayer location => exact hsub.location h

theorem Event.In.mono {event : Event} (h : event.In scope) : event.In wider :=
  ⟨hsub.command h.command,
    fun prerequisite hmem => (h.prerequisites prerequisite hmem).mono hsub,
    fun action hmem => (h.actions action hmem).mono hsub⟩

theorem Player.In.mono {player : Player} (h : player.In scope) : player.In wider :=
  ⟨hsub.location h.here, hsub.location h.start, fun id hid => hsub.location (h.previous id hid)⟩

end Wider

/-! ## Changes of things -/

section Changes

variable {scope : Scope}

/-- A location whose exit is opened, redirected or closed refers to what it referred to before and
to where the new exit leads. -/
theorem Location.In.relink {location : Location} (h : location.In scope) {direction : Direction}
    {destination : Option LocationId} (hleads : ∀ id ∈ destination, scope.location id) :
    (location.relink direction destination).In scope := by
  refine ⟨fun way leadsTo hway => ?_, ?_⟩
  · rcases destination_relink hway with hnew | ⟨other, hbefore⟩
    · exact hleads leadsTo hnew
    · exact h.exits other leadsTo hbefore
  · rw [Labels.Attached, labels_relink]
    exact h.attached

/-- A player who goes somewhere came from where the player was. -/
theorem Player.In.moveTo {player : Player} (h : player.In scope) {destination : LocationId}
    (hknown : scope.location destination) : (player.moveTo destination).In scope := by
  refine ⟨hknown, h.start, fun id hid => ?_⟩
  cases hid
  exact h.here

end Changes

namespace World

/-! ## Worlds -/

/-- A world has a location with a number. -/
def Knows (world : World) (id : LocationId) : Prop := world.locations.contains id = true

theorem knows_of_location? {world : World} {id : LocationId} {location : Location}
    (h : world.location? id = some location) : world.Knows id := Table.contains_of_get? h

/-- What a world has can be referred to. -/
def scope (world : World) : Scope where
  location := world.Knows
  item key := (world.item? key).isSome = true
  inventory id := world.inventories.contains id = true
  command id := world.commands.contains id = true
  extension id index :=
    ∃ location, world.location? id = some location ∧
      index < location.labels.extendedDescriptions.length

/-- All parts of a world refer to things in a scope. -/
structure In (world : World) (scope : Scope) : Prop where
  player : world.player.In scope
  locations : ∀ id location, world.location? id = some location → location.In scope
  items : ∀ key item, world.item? key = some item → item.In scope
  inventories : ∀ id inventory, world.inventory? id = some inventory → inventory.In scope
  commands : ∀ id command, world.command? id = some command → command.In scope
  names : ∀ name id, world.commandNames.get? name = some id → scope.command id
  events : ∀ id event, world.event? id = some event → event.In scope

/-- All parts of a world refer to things in it. -/
def Closed (world : World) : Prop := world.In world.scope

/-- Commands are found under their own numbers. -/
def Numbered (world : World) : Prop :=
  ∀ id command, world.command? id = some command → command.id = id

variable {world changed : World} {scope wider : Scope} {holder : Holder} {key : ItemKey}

theorem Numbered.of_setting (h : world.Numbered) (hsetting : changed.setting = world.setting) :
    changed.Numbered := by
  intro id command hcommand
  rw [command?, commands_of_setting hsetting] at hcommand
  exact h id command hcommand

theorem In.mono (h : world.In scope) (hsub : scope.Sub wider) : world.In wider :=
  ⟨h.player.mono hsub, fun id location hlocation => (h.locations id location hlocation).mono hsub,
    fun key item hitem => (h.items key item hitem).mono hsub,
    fun id inventory hinventory => (h.inventories id inventory hinventory).mono hsub,
    fun id command hcommand => (h.commands id command hcommand).mono hsub,
    fun name id hname => hsub.command (h.names name id hname),
    fun id event hevent => (h.events id event hevent).mono hsub⟩

/-- The player of a closed world is at a location. -/
theorem Closed.here (h : world.Closed) : world.Knows world.player.location := h.player.here

/-- In the same setting with no fewer items, there is all that there was. -/
theorem scope_sub (hsetting : changed.setting = world.setting)
    (hitems : world.items.length ≤ changed.items.length) : world.scope.Sub changed.scope where
  location := by
    intro id hid
    obtain ⟨location, hlocation⟩ := Option.isSome_iff_exists.mp hid
    obtain ⟨other, hother, -⟩ := exists_location?_of_setting hsetting hlocation
    exact knows_of_location? hother
  item := by
    intro key hkey
    have hslot := (world.isSome_item?_iff key).mp hkey
    exact (changed.isSome_item?_iff key).mpr (Nat.lt_of_lt_of_le hslot hitems)
  inventory := by
    intro id hid
    obtain ⟨inventory, hinventory⟩ := Option.isSome_iff_exists.mp hid
    obtain ⟨other, hother, -⟩ := exists_inventory?_of_setting hsetting hinventory
    exact Table.contains_of_get? hother
  command := by
    intro id hid
    change changed.commands.contains id = true
    rwa [commands_of_setting hsetting]
  extension := by
    rintro id index ⟨location, hlocation, hindex⟩
    obtain ⟨other, hother, hsame⟩ := exists_location?_of_setting hsetting hlocation
    have hdescriptions : other.labels.extendedDescriptions =
        location.labels.extendedDescriptions :=
      congrArg (fun location => location.labels.extendedDescriptions) hsame
    exact ⟨other, hother, hdescriptions ▸ hindex⟩

/-! ## Changes of one thing -/

theorem In.modifyPlayer (h : world.In scope) {f : Player → Player}
    (hf : (f world.player).In scope) : (world.modifyPlayer f).In scope :=
  ⟨hf, h.locations, h.items, h.inventories, h.commands, h.names, h.events⟩

theorem In.modifyItem (h : world.In scope) {f : Item → Item}
    (hf : ∀ item, world.item? key = some item → (f item).In scope) :
    (world.modifyItem key f).In scope := by
  refine ⟨h.player, h.locations, fun other item hitem => ?_, h.inventories, h.commands, h.names,
    h.events⟩
  rw [item?_modifyItem] at hitem
  by_cases heq : other = key
  · rw [if_pos heq] at hitem
    obtain ⟨before, hbefore, rfl⟩ := Option.map_eq_some_iff.mp hitem
    exact hf before hbefore
  · rw [if_neg heq] at hitem
    exact h.items other item hitem

theorem In.modifyLocation (h : world.In scope) {id : LocationId} {f : Location → Location}
    (hf : ∀ location, world.location? id = some location → (f location).In scope) :
    (world.modifyLocation id f).In scope := by
  refine ⟨h.player, fun other location hlocation => ?_, h.items, h.inventories, h.commands, h.names,
    h.events⟩
  rw [location?_modifyLocation] at hlocation
  by_cases heq : other = id
  · rw [if_pos heq] at hlocation
    obtain ⟨before, hbefore, rfl⟩ := Option.map_eq_some_iff.mp hlocation
    exact hf before hbefore
  · rw [if_neg heq] at hlocation
    exact h.locations other location hlocation

theorem In.modifyInventory (h : world.In scope) {id : InventoryId} {f : Inventory → Inventory}
    (hf : ∀ inventory, (f inventory).locations = inventory.locations) :
    (world.modifyInventory id f).In scope := by
  refine ⟨h.player, h.locations, h.items, fun other inventory hinventory => ?_, h.commands, h.names,
    h.events⟩
  rw [inventory?_modifyInventory] at hinventory
  by_cases heq : other = id
  · rw [if_pos heq] at hinventory
    obtain ⟨before, hbefore, rfl⟩ := Option.map_eq_some_iff.mp hinventory
    rw [Inventory.In, hf]
    exact h.inventories id before hbefore
  · rw [if_neg heq] at hinventory
    exact h.inventories other inventory hinventory

/-- Whether an event has fired is no matter of references. -/
theorem In.markFired (h : world.In scope) (id : EventId) :
    (world.modifyEvent id fun event => { event with fired := true }).In scope := by
  refine ⟨h.player, h.locations, h.items, h.inventories, h.commands, h.names,
    fun other event hevent => ?_⟩
  have hlookup := world.events.get?_modify id other fun event => { event with fired := true }
  change (world.events.modify id _).get? other = some event at hevent
  rw [hlookup] at hevent
  by_cases heq : other = id
  · rw [if_pos heq] at hevent
    obtain ⟨before, hbefore, rfl⟩ := Option.map_eq_some_iff.mp hevent
    have hbefore := h.events id before hbefore
    exact ⟨hbefore.command, hbefore.prerequisites, hbefore.actions⟩
  · rw [if_neg heq] at hevent
    exact h.events other event hevent

/-! ## Moves -/

theorem In.unlist (h : world.In scope) : (world.unlist key holder).In scope := by
  cases holder with
  | location id =>
    refine h.modifyLocation fun location hlocation => ?_
    have hbefore := h.locations id location hlocation
    exact ⟨hbefore.exits, hbefore.attached⟩
  | inventory id => exact h.modifyInventory fun _ => rfl
  | item outer =>
    refine h.modifyItem fun item hitem => ?_
    have hbefore := h.items outer item hitem
    split
    · exact ⟨hbefore.holder, hbefore.target, hbefore.model, hbefore.attached⟩
    · exact hbefore

theorem In.list (h : world.In scope) : (world.list key holder).In scope := by
  cases holder with
  | location id =>
    refine h.modifyLocation fun location hlocation => ?_
    have hbefore := h.locations id location hlocation
    exact ⟨hbefore.exits, hbefore.attached⟩
  | inventory id => exact h.modifyInventory fun _ => rfl
  | item outer =>
    refine h.modifyItem fun item hitem => ?_
    have hbefore := h.items outer item hitem
    exact ⟨hbefore.holder, hbefore.target, hbefore.model, hbefore.attached⟩

/-- An item may name any holder in the scope, or none. -/
theorem In.hold (h : world.In scope) {place : Option Holder}
    (hplace : ∀ holder ∈ place, holder.In scope) :
    (world.modifyItem key fun item => { item with holder := place }).In scope := by
  refine h.modifyItem fun item hitem => ?_
  have hbefore := h.items key item hitem
  exact ⟨hplace, hbefore.target, hbefore.model, hbefore.attached⟩

theorem In.remove (h : world.In scope) {previous : Option Holder}
    (hremove : world.remove key = .ok (changed, previous)) : changed.In scope := by
  have hfreed : (world.modifyItem key fun item => { item with holder := none }).In scope :=
    h.hold (by rintro _ ⟨⟩)
  obtain ⟨-, -, ⟨-, rfl⟩ | ⟨holder, -, rfl⟩⟩ := remove_cases hremove
  · exact hfreed
  · exact hfreed.unlist

theorem In.insert (h : world.In scope) (hholder : holder.In scope)
    (hinsert : world.insert holder key = .ok changed) : changed.In scope := by
  obtain ⟨-, removed, hremove, rfl⟩ := insert_cases hinsert
  refine (h.remove hremove).list.hold fun place hplace => ?_
  cases hplace
  exact hholder

/-- Putting an item on or taking it off concerns no reference. -/
theorem In.wear (h : world.In scope) (worn : Bool) :
    (world.modifyItem key (·.withWorn worn)).In scope := by
  refine h.modifyItem fun item hitem => ?_
  have hbefore := h.items key item hitem
  exact ⟨hbefore.holder, hbefore.target, hbefore.model, hbefore.attached⟩

theorem In.destroy (h : world.In scope) (hdestroy : world.destroy key = .ok changed) :
    changed.In scope := by
  obtain ⟨previous, hremove⟩ := destroy_cases hdestroy
  exact (h.wear false).remove hremove

/-- A copy refers to what its model refers to, and to the model. -/
theorem In.copyItem (h : world.In scope) {copy : ItemKey} (hknown : scope.item key)
    (hcopy : world.copyItem key = .ok (changed, copy)) : changed.In scope := by
  obtain ⟨item, hitem, hcases⟩ := copyItem_cases hcopy
  have hmodel := h.items key item hitem
  have hmade : ({ item.withContents none with holder := none, copyOf := some key } : Item).In
      scope := by
    refine ⟨by rintro _ ⟨⟩, hmodel.target, fun model hmem => ?_, hmodel.attached⟩
    cases hmem
    exact hknown
  rcases hcases with ⟨-, rfl⟩ | ⟨-, -, rfl⟩
  · exact h.modifyItem fun _ _ => hmade
  · refine ⟨h.player, h.locations, fun other found hfound => ?_, h.inventories, h.commands, h.names,
      h.events⟩
    rw [item?_append] at hfound
    by_cases heq : other = world.nextKey
    · rw [if_pos heq] at hfound
      cases hfound
      exact hmade
    · rw [if_neg heq] at hfound
      exact h.items other found hfound

/-! ## Closed worlds -/

/-- A world stays closed if it keeps its setting and its items and refers to what it had. -/
theorem Closed.of_in (h : changed.In world.scope) (hsetting : changed.setting = world.setting)
    (hitems : world.items.length ≤ changed.items.length) : changed.Closed :=
  h.mono (scope_sub hsetting hitems)

/-- A holder that lets an item in is in the world. -/
theorem Admits.holder_in (h : world.Admits holder key) : holder.In world.scope := by
  have hlist := h.canList
  cases holder with
  | location id => exact hlist
  | inventory id => exact hlist
  | item outer =>
    obtain ⟨compartment, hroom⟩ := Option.isSome_iff_exists.mp hlist
    obtain ⟨item, hitem, -⟩ := Option.bind_eq_some_iff.mp hroom
    exact Option.isSome_of_eq_some hitem

/-- Moving an item leaves no reference dangling. -/
theorem Closed.insert (h : world.Closed) (hinsert : world.insert holder key = .ok changed) :
    changed.Closed :=
  .of_in (In.insert h (insert_cases hinsert).1.holder_in hinsert) (setting_insert hinsert)
    (Nat.le_of_eq (length_items_insert hinsert).symm)

theorem Closed.destroy (h : world.Closed) (hdestroy : world.destroy key = .ok changed) :
    changed.Closed :=
  .of_in (In.destroy h hdestroy) (setting_destroy hdestroy)
    (Nat.le_of_eq (length_items_destroy hdestroy).symm)

/-- Making a copy leaves no reference dangling. -/
theorem Closed.copyItem (h : world.Closed) {copy : ItemKey}
    (hcopy : world.copyItem key = .ok (changed, copy)) : changed.Closed := by
  obtain ⟨item, hitem, -⟩ := copyItem_cases hcopy
  exact .of_in (In.copyItem h (Option.isSome_of_eq_some hitem) hcopy) (setting_copyItem hcopy)
    (length_items_copyItem hcopy)

end World

end Adventure
