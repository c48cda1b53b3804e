import Adventure.Proofs.Loading.Construction
import Adventure.Proofs.World.Consistency

/-!
# Loaded worlds

A world is built from its declarations one kind after the other. All that is added refers to what is
declared, and in the end all that is declared is there, save for some events; so all references
resolve. Items are placed by putting them somewhere one by one, so that both sides agree on where
they are.
-/

namespace Adventure

open Loading

namespace World

variable {world changed : World} {scope : Scope}

/-! ## Worlds in which nothing is anywhere -/

/-- Nothing is anywhere. -/
structure Vacant (world : World) : Prop where
  /-- No item names a holder. -/
  nowhere : ∀ key, world.holder? key = none
  /-- No holder lists an item. -/
  empty : ∀ holder, world.contents holder = []

/-- Adding bare things leaves nothing anywhere. -/
theorem Vacant.add (hvacant : world.Vacant) {operation : Operation}
    (hadd : Addition world operation changed) (hbare : operation.isBare = true) :
    changed.Vacant := by
  refine ⟨fun key => ?_, fun holder => ?_⟩
  · rw [hadd.holder?_eq, hvacant.nowhere]
  · rcases hadd.contents_eq hbare holder with hempty | hsame
    · exact hempty
    · rw [hsame, hvacant.empty]

theorem Vacant.exclusive (hvacant : world.Vacant) : world.Exclusive := by
  refine ⟨fun holder key hmem => ?_, fun holder => ?_⟩
  · rw [hvacant.empty] at hmem
    cases hmem
  · rw [hvacant.empty]
    exact List.nodup_nil

theorem Vacant.allListed (hvacant : world.Vacant) : world.AllListed := by
  rintro key holder ⟨hname, -⟩
  rw [hvacant.nowhere] at hname
  cases hname

/-! ## Adding things -/

theorem In.addLocation (h : world.In scope) {location : Location} (hin : location.In scope) :
    (world.addLocation location).In scope := by
  refine ⟨h.player, fun id found hfound => ?_, h.items, h.inventories, h.commands, h.names,
    h.events⟩
  change (world.locations.insert location.id location).get? id = some found at hfound
  rw [Table.get?_insert] at hfound
  split at hfound
  · cases hfound
    exact hin
  · exact h.locations id found hfound

theorem In.addInventory (h : world.In scope) {inventory : Inventory} (hin : inventory.In scope) :
    (world.addInventory inventory).In scope := by
  refine ⟨h.player, h.locations, h.items, fun id found hfound => ?_, h.commands, h.names, h.events⟩
  change (world.inventories.insert inventory.id inventory).get? id = some found at hfound
  rw [Table.get?_insert] at hfound
  split at hfound
  · cases hfound
    exact hin
  · exact h.inventories id found hfound

theorem In.addItem (h : world.In scope) {item : Item} (hin : item.In scope) :
    (world.addItem item).In scope := by
  refine ⟨h.player, h.locations, fun key found hfound => ?_, h.inventories, h.commands, h.names,
    h.events⟩
  rw [World.addItem, item?_append] at hfound
  split at hfound
  · cases hfound
    exact ⟨by rintro _ ⟨⟩, hin.target, hin.model, hin.attached⟩
  · exact h.items key found hfound

/-- Names are claimed one after the other. -/
theorem claimNames_cons (id : CommandId) (claimed : Table String CommandId) (first : String)
    (rest : List String) :
    (claimNames id claimed (first :: rest)).1 =
      (claimNames id (claimed.insert (Text.lower first) id) rest).1 := by
  simp only [claimNames]
  split <;> rfl

/-- Names that a command claims mean it; all others mean what they meant. -/
theorem get?_claimNames {id found : CommandId} {claimed : Table String CommandId}
    {names : List String} {name : String}
    (h : (claimNames id claimed names).1.get? name = some found) :
    found = id ∨ claimed.get? name = some found := by
  induction names generalizing claimed with
  | nil => exact .inr h
  | cons first rest ih =>
    rw [claimNames_cons] at h
    rcases ih h with hown | hbefore
    · exact .inl hown
    · rw [Table.get?_insert] at hbefore
      split at hbefore
      · exact .inl (Option.some.inj hbefore).symm
      · exact .inr hbefore

theorem In.addCommand (h : world.In scope) {command : Command} (hin : command.In scope)
    (hknown : scope.command command.id) : (world.addCommand command).1.In scope := by
  refine ⟨h.player, h.locations, h.items, h.inventories, fun id found hfound => ?_,
    fun name id hname => ?_, h.events⟩
  · change (world.commands.insert command.id command).get? id = some found at hfound
    rw [Table.get?_insert] at hfound
    split at hfound
    · cases hfound
      exact hin
    · exact h.commands id found hfound
  · change (claimNames command.id world.commandNames command.names).1.get? name = some id at hname
    rcases get?_claimNames hname with rfl | hbefore
    · exact hknown
    · exact h.names name id hbefore

theorem In.addEvent (h : world.In scope) {event : Event} (hin : event.In scope) :
    (world.addEvent event).In scope := by
  refine ⟨h.player, h.locations, h.items, h.inventories, h.commands, h.names,
    fun id found hfound => ?_⟩
  change (world.events.insert event.id event).get? id = some found at hfound
  rw [Table.get?_insert] at hfound
  split at hfound
  · cases hfound
    exact hin
  · exact h.events id found hfound

/-- A command that is added stands under its own number. -/
theorem Numbered.addCommand (h : world.Numbered) (command : Command) :
    (world.addCommand command).1.Numbered := by
  intro id found hfound
  change (world.commands.insert command.id command).get? id = some found at hfound
  rw [Table.get?_insert] at hfound
  split at hfound
  · rename_i heq
    cases hfound
    exact heq.symm
  · exact h id found hfound

theorem scope_sub_addCommand (command : Command) :
    world.scope.Sub (world.addCommand command).1.scope :=
  ⟨id, id, id, fun h => (Table.contains_insert _ _ _ _).mpr (.inr h), id⟩

/-! ## Adding many things -/

/-- What adding one thing leaves alone, adding many things does as well. -/
theorem view_foldl {α β : Type} (view : World → β) {add : World → α → World}
    (h : ∀ world a, view (add world a) = view world) (world : World) (added : List α) :
    view (added.foldl add world) = view world := by
  induction added generalizing world with
  | nil => rfl
  | cons a rest ih => rw [List.foldl_cons, ih, h]

theorem knows_addLocations (world : World) (locations : List Location) (id : LocationId) :
    (locations.foldl addLocation world).Knows id ↔
      world.Knows id ∨ ∃ location ∈ locations, location.id = id := by
  have htable : (locations.foldl addLocation world).locations =
      locations.foldl (fun table location => table.insert location.id location) world.locations :=
    (List.foldl_hom World.locations fun _ _ => rfl).symm
  unfold Knows
  rw [htable, Table.contains_foldl_insert]

theorem contains_addInventories (world : World) (inventories : List Inventory)
    (id : InventoryId) :
    (inventories.foldl addInventory world).inventories.contains id = true ↔
      world.inventories.contains id = true ∨ ∃ inventory ∈ inventories, inventory.id = id := by
  have htable : (inventories.foldl addInventory world).inventories =
      inventories.foldl (fun table inventory => table.insert inventory.id inventory)
        world.inventories :=
    (List.foldl_hom World.inventories fun _ _ => rfl).symm
  rw [htable, Table.contains_foldl_insert]

theorem contains_addCommands (world : World) (commands : List Command) (id : CommandId) :
    (commands.foldl (fun world command => (world.addCommand command).1) world).commands.contains
        id = true ↔
      world.commands.contains id = true ∨ ∃ command ∈ commands, command.id = id := by
  have htable :
      (commands.foldl (fun world command => (world.addCommand command).1) world).commands =
        commands.foldl (fun table command => table.insert command.id command) world.commands :=
    (List.foldl_hom World.commands fun _ _ => rfl).symm
  rw [htable, Table.contains_foldl_insert]

theorem locations_addInventories (inventories : List Inventory) :
    (inventories.foldl addInventory world).locations = world.locations :=
  view_foldl World.locations (fun _ _ => by rfl) world inventories

theorem locations_addItems (items : List Item) :
    (items.foldl addItem world).locations = world.locations :=
  view_foldl World.locations (fun _ _ => by rfl) world items

theorem inventories_addItems (items : List Item) :
    (items.foldl addItem world).inventories = world.inventories :=
  view_foldl World.inventories (fun _ _ => by rfl) world items

/-- Items are added in order after those that there are, and are nowhere. -/
theorem items_addItems (items : List Item) : (items.foldl addItem world).items =
    world.items ++ items.map fun item => { item with holder := none } := by
  induction items generalizing world with
  | nil => exact (List.append_nil _).symm
  | cons item rest ih =>
    rw [List.foldl_cons, ih, List.map_cons, addItem, List.append_assoc, List.singleton_append]

theorem length_items_addItems (items : List Item) :
    (items.foldl addItem world).items.length = world.items.length + items.length := by
  rw [items_addItems, List.length_append, List.length_map]

end World

namespace Directory

variable {directory : Directory} {world changed : World} {start : LocationId}

/-! ## Building a world -/

/-- What holds of a world at every moment while it is built. -/
structure Fits (directory : Directory) (world : World) : Prop where
  /-- All that there is refers to what is declared. -/
  world_in : world.In directory.scope
  /-- Commands stand under their own numbers. -/
  numbered : world.Numbered
  /-- Locations have as many further descriptions as are declared. -/
  count : ∀ id location, world.location? id = some location →
    location.labels.extendedDescriptions.length = directory.extensionCount id
  /-- No command waits. -/
  idle : world.player.pending = .idle
  /-- The player lives. -/
  alive : world.player.alive = true

theorem Fits.addLocation (h : directory.Fits world) {id : LocationId} {location : Location}
    (hbuilt : directory.BuiltLocation id location) :
    directory.Fits (world.addLocation location) := by
  refine ⟨h.world_in.addLocation hbuilt.location_in, h.numbered, fun other found hfound => ?_,
    h.idle, h.alive⟩
  change (world.locations.insert location.id location).get? other = some found at hfound
  rw [Table.get?_insert] at hfound
  split at hfound
  · rename_i heq
    cases hfound
    rw [heq, hbuilt.id_eq]
    exact hbuilt.count_eq
  · exact h.count other found hfound

theorem Fits.addInventory (h : directory.Fits world) {inventory : Inventory}
    (hin : inventory.In directory.scope) : directory.Fits (world.addInventory inventory) :=
  ⟨h.world_in.addInventory hin, h.numbered, h.count, h.idle, h.alive⟩

theorem Fits.addItem (h : directory.Fits world) {item : Item} (hin : item.In directory.scope) :
    directory.Fits (world.addItem item) :=
  ⟨h.world_in.addItem hin, h.numbered, h.count, h.idle, h.alive⟩

/-- What is settled concerns the items only. -/
theorem Fits.settle (h : directory.Fits world) (hin : changed.In directory.scope)
    (hsetting : changed.setting = world.setting) (hplayer : changed.player = world.player) :
    directory.Fits changed := by
  refine ⟨hin, h.numbered.of_setting hsetting, fun id location hlocation => ?_, ?_, ?_⟩
  · obtain ⟨before, hbefore, hsame⟩ := World.exists_location?_of_setting hsetting.symm hlocation
    have hcount := h.count id before hbefore
    have hdescriptions : before.labels.extendedDescriptions =
        location.labels.extendedDescriptions :=
      congrArg (fun location => location.labels.extendedDescriptions) hsame
    rwa [hdescriptions] at hcount
  · rw [hplayer]
    exact h.idle
  · rw [hplayer]
    exact h.alive

/-- What holds of a world while its locations, inventories and items are added. -/
structure Bare (directory : Directory) (world : World) : Prop where
  /-- What there is fits what is declared. -/
  fits : directory.Fits world
  /-- Nothing is anywhere. -/
  vacant : world.Vacant

theorem bare_new (name : String) (attributes : PlayerFlags)
    (hstart : directory.scope.location start) :
    directory.Bare ((World.new name start).modifyPlayer fun p => { p with attributes }) := by
  have hplayer : Player.In directory.scope ((World.new name start).modifyPlayer fun p =>
      { p with attributes }).player := ⟨hstart, hstart, by rintro _ ⟨⟩⟩
  have hvacant : ((World.new name start).modifyPlayer fun p => { p with attributes }).Vacant :=
    ⟨fun _ => rfl, fun holder => by cases holder <;> rfl⟩
  refine ⟨⟨⟨hplayer, ?_, ?_, ?_, ?_, ?_, ?_⟩, ?_, ?_, rfl, rfl⟩, hvacant⟩
  all_goals rintro _ _ ⟨⟩

/-- What is declared and stands before any command does. -/
def furnishing (directory : Directory) : Scope :=
  { directory.scope with command := fun _ => False }

/-- What holds of a world from the moment when all items stand, before any is placed, to the end of
loading. -/
structure Sound (directory : Directory) (world : World) : Prop where
  /-- What there is fits what is declared. -/
  fits : directory.Fits world
  /-- Declared locations, items and inventories are there. -/
  furnished : directory.furnishing.Sub world.scope
  /-- Holders list only items that name them, and each once. -/
  exclusive : world.Exclusive
  /-- Items are listed by the holders that they name. -/
  listed : world.AllListed

/-! ## Furnishing -/

variable {locations : List Location} {inventories : List Inventory} {items : List Item}

/-- Nothing is anywhere, whatever locations, inventories and items are added. -/
theorem Bare.addAll (h : directory.Bare world)
    (hlocations : List.Forall₂ (fun entry => directory.BuiltLocation entry.1)
      directory.locations.entries locations)
    (hinventories : List.Forall₂ (fun entry => directory.BuiltInventory entry.1)
      directory.inventories.entries inventories)
    (hitems : List.Forall₂ (fun _ => BuiltItem directory.scope) directory.items.entries items) :
    directory.Bare (items.foldl World.addItem
      (inventories.foldl World.addInventory (locations.foldl World.addLocation world))) := by
  refine List.foldlRecOn items _ (List.foldlRecOn inventories _ (List.foldlRecOn locations _
    h ?_) ?_) ?_
  · intro world hbare location hmem
    obtain ⟨entry, -, hbuilt⟩ := exists_entry hlocations hmem
    exact ⟨hbare.fits.addLocation hbuilt,
      hbare.vacant.add (.location location) (List.isEmpty_iff.mpr hbuilt.items_eq)⟩
  · intro world hbare inventory hmem
    obtain ⟨entry, -, hbuilt⟩ := exists_entry hinventories hmem
    exact ⟨hbare.fits.addInventory hbuilt.inventory_in,
      hbare.vacant.add (.inventory inventory) (List.isEmpty_iff.mpr hbuilt.items_eq)⟩
  · intro world hbare item hmem
    obtain ⟨entry, -, hbuilt⟩ := exists_entry hitems hmem
    exact ⟨hbare.fits.addItem hbuilt.item_in,
      hbare.vacant.add (.item item) (Option.isNone_iff_eq_none.mpr hbuilt.contents_eq)⟩

/-- All that is declared stands once its locations, inventories and items were added. -/
theorem Bare.furnish (h : directory.Bare world)
    (hlocations : List.Forall₂ (fun entry => directory.BuiltLocation entry.1)
      directory.locations.entries locations)
    (hinventories : List.Forall₂ (fun entry => directory.BuiltInventory entry.1)
      directory.inventories.entries inventories)
    (hitems : List.Forall₂ (fun _ => BuiltItem directory.scope) directory.items.entries items) :
    directory.Sound (items.foldl World.addItem
      (inventories.foldl World.addInventory (locations.foldl World.addLocation world))) := by
  obtain ⟨hfits, hempty⟩ := h.addAll hlocations hinventories hitems
  generalize hfull : items.foldl World.addItem (inventories.foldl World.addInventory
    (locations.foldl World.addLocation world)) = full at hfits hempty
  have hmapped (id : LocationId) (hid : directory.scope.location id) : full.Knows id := by
    obtain ⟨entry, hentry, rfl⟩ := Registry.exists_entry hid
    obtain ⟨location, hmem, hbuilt⟩ := exists_result hlocations hentry
    have hadded := (World.knows_addLocations world locations entry.1).mpr
      (.inr ⟨location, hmem, hbuilt.id_eq⟩)
    unfold World.Knows at hadded ⊢
    rwa [← hfull, World.locations_addItems, World.locations_addInventories]
  refine ⟨hfits, ⟨hmapped _, ?_, ?_, fun h => h.elim, ?_⟩, hempty.exclusive, hempty.allListed⟩
  · intro key hkey
    have hslots : key.slot < directory.items.entries.length := hkey
    refine (World.isSome_item?_iff full key).mpr ?_
    rw [← hfull, World.length_items_addItems, ← hitems.length_eq]
    omega
  · intro id hid
    obtain ⟨entry, hentry, rfl⟩ := Registry.exists_entry hid
    obtain ⟨inventory, hmem, hbuilt⟩ := exists_result hinventories hentry
    have hadded := (World.contains_addInventories (locations.foldl World.addLocation world)
      inventories entry.1).mpr (.inr ⟨inventory, hmem, hbuilt.id_eq⟩)
    change full.inventories.contains entry.1 = true
    rwa [← hfull, World.inventories_addItems]
  · intro id index hindex
    have hcount : index < directory.extensionCount id := hindex
    have hid : directory.scope.location id := by
      unfold extensionCount at hcount
      split at hcount
      · rename_i declared hdeclared
        exact Option.isSome_of_eq_some hdeclared
      · cases hcount
    obtain ⟨location, hlocation⟩ := Option.isSome_iff_exists.mp (hmapped id hid)
    exact ⟨location, hlocation, hfits.count id location hlocation ▸ hcount⟩

/-! ## Placing items -/

/-- Setting up a switch moves nothing and refers to what is declared. -/
theorem Sound.wire (h : directory.Sound world) (key : ItemKey) {target : Option SwitchTarget}
    (htarget : ∀ found ∈ target, found.In directory.scope) (words : SwitchWords) :
    directory.Sound (world.modifyItem key (·.withSwitch target words)) := by
  have hin : (world.modifyItem key (·.withSwitch target words)).In directory.scope := by
    refine h.fits.world_in.modifyItem fun item hitem => ?_
    have hbefore := h.fits.world_in.items key item hitem
    refine ⟨hbefore.holder, fun found hfound => ?_, hbefore.model, hbefore.attached⟩
    obtain ⟨switch, hswitch, hpart⟩ := Option.bind_eq_some_iff.mp hfound
    obtain ⟨before, -, rfl⟩ := Option.map_eq_some_iff.mp hswitch
    exact htarget found hpart
  have hnames (other : ItemKey) :
      (world.modifyItem key (·.withSwitch target words)).holder? other = world.holder? other :=
    World.holder?_modifyItem_of_holder _ (fun _ => by rfl) other
  have hlists (holder : Holder) :
      (world.modifyItem key (·.withSwitch target words)).contents holder = world.contents holder :=
    World.contents_modifyItem_of_contents _ (fun _ => by rfl) holder
  have hitems := Nat.le_of_eq (world.length_items_modifyItem key (·.withSwitch target words)).symm
  refine ⟨h.fits.settle hin rfl rfl, h.furnished.trans (World.scope_sub rfl hitems), ?_, ?_⟩
  · exact h.exclusive.of_views hnames hlists
  · exact fun other holder hunlisted =>
      h.listed other holder ((World.unlisted_congr hnames hlists).mp hunlisted)

/-- So does putting an item where it is declared to be. -/
theorem Sound.insert (h : directory.Sound world) {holder : Holder} {key : ItemKey}
    (hholder : holder.In directory.scope) (hinsert : world.insert holder key = .ok changed) :
    directory.Sound changed := by
  have hsetting := World.setting_insert hinsert
  have hitems := Nat.le_of_eq (World.length_items_insert hinsert).symm
  refine ⟨h.fits.settle (h.fits.world_in.insert hholder hinsert) hsetting
    (World.player_insert hinsert), h.furnished.trans (World.scope_sub hsetting hitems),
    h.exclusive.move (.insert hinsert), fun other place hunlisted => ?_⟩
  exact h.listed other place
    ((World.unlisted_insert (h.exclusive.own place) hinsert).mp hunlisted).2

theorem yields_settleItem (h : directory.Sound world) (entry : DataId × ItemDecl) :
    Yields (directory.settleItem world entry) directory.Sound :=
  (directory.tells_settleItem world entry).yields fun _ _ hsettling =>
    hsettling.keeps h (fun words hsound htarget => hsound.wire _ htarget words)
      fun hsound => hsound.insert

/-! ## Commands and events -/

theorem Sound.addCommand (h : directory.Sound world) {command : Command}
    (hin : command.In directory.scope) (hknown : directory.scope.command command.id) :
    directory.Sound (world.addCommand command).1 :=
  ⟨⟨h.fits.world_in.addCommand hin hknown, h.fits.numbered.addCommand command, h.fits.count,
      h.fits.idle, h.fits.alive⟩,
    h.furnished.trans (World.scope_sub_addCommand command),
    ⟨h.exclusive.own, h.exclusive.nodup⟩, h.listed⟩

theorem Sound.addEvent (h : directory.Sound world) {event : Event}
    (hin : event.In directory.scope) : directory.Sound (world.addEvent event) :=
  ⟨⟨h.fits.world_in.addEvent hin, h.fits.numbered, h.fits.count, h.fits.idle, h.fits.alive⟩,
    ⟨h.furnished.location, h.furnished.item, h.furnished.inventory, h.furnished.command,
      h.furnished.extension⟩,
    ⟨h.exclusive.own, h.exclusive.nodup⟩, h.listed⟩

end Directory

/-! ## Loaded worlds -/

/-- What holds of a world that was loaded. -/
structure World.Ready (world : World) : Prop where
  /-- All its parts refer to things in it. -/
  closed : world.Closed
  /-- Commands stand under their own numbers. -/
  numbered : world.Numbered
  /-- Holders list only items that name them, and each once. -/
  exclusive : world.Exclusive
  /-- Items are listed by the holders that they name. -/
  listed : world.AllListed
  /-- No command waits. -/
  idle : world.player.pending = .idle
  /-- The player lives. -/
  alive : world.player.alive = true

namespace Directory

variable {directory : Directory} {world : World}

theorem Sound.addCommands (h : directory.Sound world) {commands : List Command}
    (hcommands : List.Forall₂ (fun entry => directory.BuiltCommand entry.1)
      directory.commands.entries commands) :
    directory.Sound (commands.foldl (fun world command => (world.addCommand command).1) world) := by
  refine List.foldlRecOn commands _ h fun world hworld command hmem => ?_
  obtain ⟨entry, hentry, hbuilt⟩ := exists_entry hcommands hmem
  refine hworld.addCommand hbuilt.command_in ?_
  rw [hbuilt.id_eq]
  exact Registry.contains_of_mem hentry

/-- A world is ready once all its commands and events were added. -/
theorem Sound.ready (h : directory.Sound world) {commands : List Command} {events : List Event}
    (hcommands : List.Forall₂ (fun entry => directory.BuiltCommand entry.1)
      directory.commands.entries commands)
    (hevents : ∀ event ∈ events, event.In directory.scope) (texts : Texts) :
    World.Ready { events.foldl World.addEvent
      (commands.foldl (fun world command => (world.addCommand command).1) world) with texts } := by
  have hcommanded := h.addCommands hcommands
  have hordered (id : CommandId) (hid : directory.scope.command id) :
      (commands.foldl (fun world command => (world.addCommand command).1) world).commands.contains
        id = true := by
    obtain ⟨entry, hentry, rfl⟩ := Registry.exists_entry hid
    obtain ⟨command, hmem, hbuilt⟩ := exists_result hcommands hentry
    exact (World.contains_addCommands world commands entry.1).mpr
      (.inr ⟨command, hmem, hbuilt.id_eq⟩)
  generalize commands.foldl (fun world command => (world.addCommand command).1) world = ordered at *
  have hsound := List.foldlRecOn events World.addEvent hcommanded
    fun _ hlater event hmem => hlater.addEvent (hevents event hmem)
  have hkept : (events.foldl World.addEvent ordered).commands = ordered.commands :=
    World.view_foldl World.commands (fun _ _ => by rfl) ordered events
  generalize events.foldl World.addEvent ordered = full at *
  have hsub : directory.scope.Sub full.scope :=
    ⟨hsound.furnished.location, hsound.furnished.item, hsound.furnished.inventory,
      fun hid => by rw [World.scope, hkept]; exact hordered _ hid, hsound.furnished.extension⟩
  have hclosed : full.Closed := hsound.fits.world_in.mono hsub
  exact ⟨⟨hclosed.player, hclosed.locations, hclosed.items, hclosed.inventories, hclosed.commands,
      hclosed.names, hclosed.events⟩,
    hsound.fits.numbered, ⟨hsound.exclusive.own, hsound.exclusive.nodup⟩, hsound.listed,
    hsound.fits.idle, hsound.fits.alive⟩

/-- The world in which all items stand fits what is declared. -/
theorem Makes.sound_furnished {document : Document} {all : List Diagnostic} {parts : Parts}
    (h : directory.Makes document all parts) :
    directory.Sound (parts.furnished document.name) := by
  have hnew := bare_new document.name parts.attributes h.start
  have hlocations := h.locations.yields <| Yields.mapM fun entry hmem =>
    directory.yields_buildLocation (Registry.mem_entries.mp hmem)
  have hinventories := h.inventories.yields <| Yields.mapM fun entry _ =>
    directory.yields_buildInventory entry.1 entry.2
  have hitems := h.items.yields <| Yields.mapM fun entry _ =>
    directory.yields_buildItem entry.1 entry.2
  exact hnew.furnish hlocations hinventories hitems

/-- A world that is put together from its parts is ready. -/
theorem Makes.ready {document : Document} {all : List Diagnostic} {parts : Parts}
    (h : directory.Makes document all parts) :
    (parts.world document.texts).Ready := by
  have hsettled := h.settled.yields <| Yields.foldlM h.sound_furnished
    fun world entry _ hworld => yields_settleItem hworld entry
  have hcommands := h.commands.yields <| Yields.mapM fun entry _ =>
    directory.yields_buildCommand entry.1 entry.2
  have hevents := h.events.yields <| Yields.filterMapM fun entry _ =>
    directory.finds_buildEvent entry.1 entry.2
  exact hsettled.ready hcommands hevents document.texts

end Directory

/-- Whatever world is loaded is ready. -/
theorem Document.ready_load {document : Document} {loaded : Loaded}
    (h : document.load = .ok loaded) : loaded.world.Ready := by
  obtain ⟨-, parts, hmakes, hworld⟩ := makes_load h
  rw [hworld]
  exact hmakes.ready

end Adventure
