import Adventure.Proofs.Loading.Construction
import Adventure.Proofs.Loading.Worlds

/-!
# What becomes of a description

A world is put together from its declarations one kind after the other. Each declaration is followed
here from its record to what stands in the world in the end.
-/

namespace Adventure

open Loading

namespace Table

variable {κ α : Type} [DecidableEq κ]

/-- A value with a key of its own is found among the others by its key. -/
theorem find?_keyOf (keyOf : α → κ) {values : List α} (hnodup : (values.map keyOf).Nodup)
    {value : α} (hmem : value ∈ values) : values.find? (keyOf · = keyOf value) = some value := by
  induction values with
  | nil => cases hmem
  | cons first rest ih =>
    obtain ⟨hnew, hrest⟩ := List.nodup_cons.mp hnodup
    rcases List.mem_cons.mp hmem with rfl | hmem
    · simp
    · have hne : keyOf first ≠ keyOf value := fun heq => hnew (heq ▸ List.mem_map_of_mem hmem)
      rw [List.find?_cons, decide_eq_false hne]
      exact ih hrest hmem

/-- Values with keys of their own are found after all of them were inserted, and other keys find
what they found before. -/
theorem get?_foldl_insert [Key κ] (keyOf : α → κ) {values : List α}
    (hnodup : (values.map keyOf).Nodup) (table : Table κ α) (key : κ) :
    (values.foldl (fun table value => table.insert (keyOf value) value) table).get? key =
      (values.find? (keyOf · = key)).or (table.get? key) := by
  induction values generalizing table with
  | nil => rfl
  | cons value rest ih =>
    obtain ⟨hnew, hrest⟩ := List.nodup_cons.mp hnodup
    rw [List.foldl_cons, ih hrest, get?_insert, List.find?_cons]
    by_cases heq : keyOf value = key
    · have hnone : rest.find? (keyOf · = key) = none := by
        refine List.find?_eq_none.mpr fun other hother hsame => hnew ?_
        rw [heq, ← of_decide_eq_true hsame]
        exact List.mem_map_of_mem hother
      simp [heq, hnone]
    · simp [heq, Ne.symm heq]

end Table

namespace World

/-! ## Adding many things -/

/-- Items are added after nothing but locations and inventories. -/
theorem items_furnish {base : World} (hbase : base.items = []) (locations : List Location)
    (inventories : List Inventory) (items : List Item) :
    (items.foldl addItem (inventories.foldl addInventory
      (locations.foldl addLocation base))).items =
        items.map fun item => { item with holder := none } := by
  have hnone : (inventories.foldl addInventory (locations.foldl addLocation base)).items = [] :=
    (view_foldl World.items (fun _ _ => by rfl) _ inventories).trans
      ((view_foldl World.items (fun _ _ => by rfl) base locations).trans hbase)
  rw [items_addItems, hnone, List.nil_append]

theorem origins_furnish {base : World} (hbase : base.items = []) (locations : List Location)
    (inventories : List Inventory) (items : List Item) :
    (items.foldl addItem (inventories.foldl addInventory
      (locations.foldl addLocation base))).origins = items.map Item.origin := by
  rw [origins, items_furnish hbase, List.map_map]
  rfl

/-- What no location, inventory or item touches is as it was after all of them were added. -/
theorem view_furnish {β : Type} (view : World → β)
    (hlocation : ∀ world location, view (addLocation world location) = view world)
    (hinventory : ∀ world inventory, view (addInventory world inventory) = view world)
    (hitem : ∀ world item, view (addItem world item) = view world) (base : World)
    (locations : List Location) (inventories : List Inventory) (items : List Item) :
    view (items.foldl addItem (inventories.foldl addInventory
      (locations.foldl addLocation base))) = view base := by
  rw [view_foldl view hitem, view_foldl view hinventory, view_foldl view hlocation]

/-- A location with a number of its own is found by it, whatever else is added. -/
theorem location?_furnish (base : World) {locations : List Location}
    (hnodup : (locations.map (·.id)).Nodup) (inventories : List Inventory) (items : List Item)
    {location : Location} (hmem : location ∈ locations) :
    (items.foldl addItem (inventories.foldl addInventory
      (locations.foldl addLocation base))).location? location.id = some location := by
  have htable : (locations.foldl addLocation base).locations =
      locations.foldl (fun table location => table.insert location.id location) base.locations :=
    (List.foldl_hom World.locations fun _ _ => rfl).symm
  rw [location?, locations_addItems, locations_addInventories, htable,
    Table.get?_foldl_insert _ hnodup, Table.find?_keyOf _ hnodup hmem]
  rfl

/-- What commands and events that are added leave alone. -/
theorem kept_addCommands (world : World) (commands : List Command) :
    let later := commands.foldl (fun world command => (world.addCommand command).1) world
    later.items = world.items ∧ later.locations = world.locations ∧
      later.events = world.events :=
  ⟨view_foldl World.items (fun _ _ => by rfl) _ _,
    view_foldl World.locations (fun _ _ => by rfl) _ _,
    view_foldl World.events (fun _ _ => by rfl) _ _⟩

theorem kept_addEvents (world : World) (events : List Event) :
    let later := events.foldl addEvent world
    later.items = world.items ∧ later.locations = world.locations ∧
      later.commands = world.commands :=
  ⟨view_foldl World.items (fun _ _ => by rfl) _ _,
    view_foldl World.locations (fun _ _ => by rfl) _ _,
    view_foldl World.commands (fun _ _ => by rfl) _ _⟩

theorem command?_addCommands (world : World) {commands : List Command}
    (hnodup : (commands.map (·.id)).Nodup) {command : Command} (hmem : command ∈ commands) :
    (commands.foldl (fun world command => (world.addCommand command).1) world).command?
      command.id = some command := by
  have htable :
      (commands.foldl (fun world command => (world.addCommand command).1) world).commands =
        commands.foldl (fun table command => table.insert command.id command) world.commands :=
    (List.foldl_hom World.commands fun _ _ => rfl).symm
  rw [command?, htable, Table.get?_foldl_insert _ hnodup, Table.find?_keyOf _ hnodup hmem]
  rfl

theorem event?_addEvents {world : World} (hnone : world.events = ∅) {events : List Event}
    (hnodup : (events.map (·.id)).Nodup) (id : EventId) :
    (events.foldl addEvent world).event? id = events.find? (Event.id · = id) := by
  have htable : (events.foldl addEvent world).events =
      events.foldl (fun table event => table.insert event.id event) world.events :=
    (List.foldl_hom World.events fun _ _ => rfl).symm
  rw [event?, htable, Table.get?_foldl_insert _ hnodup, hnone]
  exact Option.or_none

end World

namespace Directory

variable (directory : Directory)

/-! ## The whole world -/

/-- What stands in a world for each declaration. -/
structure Assembled (all : List Diagnostic) (world : World) : Prop where
  /-- The items are the declared ones, in their order. -/
  origins : world.origins = directory.items.entries.map fun entry => (entry.1, none)
  /-- Every declared location is there, with its exits. -/
  location : ∀ entry ∈ directory.locations.entries, ∃ location,
    world.location? entry.1 = some location ∧
      (∀ link ∈ entry.2.directions.entries, (Direction.parse? link.1).isSome = true) ∧
      ((∀ direction, (entry.2.exit? direction).isSome = true →
        location.destination direction = entry.2.exit? direction) ∨ Failed all)
  /-- Every declared command is there, with its ways. -/
  command : ∀ entry ∈ directory.commands.entries, ∃ command,
    world.command? entry.1 = some command ∧
      ((∀ origin, command.teleport.get? origin = entry.2.way? origin) ∨ Failed all)
  /-- Every declared event is there or was dropped. -/
  event : ∀ entry ∈ directory.events.entries,
    directory.EventOutcome entry.1 entry.2 all (world.event? entry.1)
  /-- There are no other events. -/
  only : ∀ id event, world.event? id = some event → directory.events.contains id = true

/-- What all results take over from their entries is the same along both lists. -/
theorem map_eq_of_forall₂ {α β γ : Type} {f : β → γ} {g : α → γ} {entries : List α}
    {results : List β} (h : List.Forall₂ (fun entry result => f result = g entry) entries results) :
    results.map f = entries.map g := by
  induction h with
  | nil => rfl
  | cons hsame _ ih => rw [List.map_cons, List.map_cons, hsame, ih]

/-- Where events have numbers of their own, each number finds what its declaration came to. -/
theorem eventOutcome_find? {entries : List (EventId × EventDecl)} {found : List (Option Event)}
    {all : List Diagnostic} (hnodup : (entries.map Prod.fst).Nodup)
    (h : List.Forall₂ (fun entry => directory.EventOutcome entry.1 entry.2 all) entries found) :
    (found.reduceOption.map Event.id).Nodup ∧
      (∀ entry ∈ entries, directory.EventOutcome entry.1 entry.2 all
        (found.reduceOption.find? (Event.id · = entry.1))) ∧
      ∀ event ∈ found.reduceOption, event.id ∈ entries.map Prod.fst := by
  induction h with
  | nil => exact ⟨List.nodup_nil, by rintro _ ⟨⟩, by rintro _ ⟨⟩⟩
  | @cons entry found? entries found hentry _ ih =>
    obtain ⟨hnew, hrest⟩ := List.nodup_cons.mp hnodup
    obtain ⟨hids, hfinds, hknown⟩ := ih hrest
    have hlater : ∀ event ∈ found.reduceOption, event.id ≠ entry.1 :=
      fun event hevent heq => hnew (heq ▸ hknown event hevent)
    obtain ⟨id, declared⟩ := entry
    cases hentry with
    | dropped hfault htold =>
      rw [List.reduceOption_cons_of_none]
      refine ⟨hids, List.forall_mem_cons.mpr ⟨?_, hfinds⟩,
        fun event hevent => List.mem_cons_of_mem _ (hknown event hevent)⟩
      rw [List.find?_eq_none.mpr fun event hevent => by simpa using hlater event hevent]
      exact .dropped hfault htold
    | @built event hsound hid hnamed hunknown hwhole =>
      rw [List.reduceOption_cons_of_some]
      refine ⟨?_, List.forall_mem_cons.mpr ⟨?_, fun other hother => ?_⟩,
        List.forall_mem_cons.mpr ⟨?_, fun later hlater => ?_⟩⟩
      · refine List.nodup_cons.mpr ⟨fun hmem => ?_, hids⟩
        obtain ⟨other, hother, heq⟩ := List.mem_map.mp hmem
        exact hlater other hother (heq.trans hid)
      · rw [List.find?_cons, decide_eq_true hid]
        exact .built hsound hid hnamed hunknown hwhole
      · have hne : event.id ≠ other.1 := by
          rw [hid]
          exact fun heq => hnew (heq ▸ List.mem_map_of_mem hother)
        rw [List.find?_cons, decide_eq_false hne]
        exact hfinds other hother
      · rw [hid]
        exact List.mem_cons_self
      · exact List.mem_cons_of_mem _ (hknown later hlater)

/-- Declared locations are found once everything has been added. -/
theorem exists_location {locations : List Location} {all : List Diagnostic}
    (hlocations : List.Forall₂ (fun entry => LocationOutcome entry.1 entry.2 all)
      directory.locations.entries locations) (base : World) (inventories : List Inventory)
    (items : List Item) {entry : LocationId × LocationDecl}
    (hentry : entry ∈ directory.locations.entries) :
    ∃ location, (items.foldl World.addItem (inventories.foldl World.addInventory
        (locations.foldl World.addLocation base))).location? entry.1 = some location ∧
      LocationOutcome entry.1 entry.2 all location := by
  have hids : (locations.map (·.id)).Nodup := by
    rw [map_eq_of_forall₂ (hlocations.imp fun _ _ h => h.id_eq)]
    exact directory.locations.nodup_entries
  obtain ⟨location, hmem, hlocation⟩ := exists_result hlocations hentry
  refine ⟨location, ?_, hlocation⟩
  rw [← hlocation.id_eq]
  exact World.location?_furnish base hids inventories items hmem

/-- Declared commands are found once all of them have been added. -/
theorem exists_command {commands : List Command} {R : CommandId × CommandDecl → Command → Prop}
    (hid : ∀ entry command, R entry command → command.id = entry.1)
    (hcommands : List.Forall₂ R directory.commands.entries commands) (world : World)
    {entry : CommandId × CommandDecl} (hentry : entry ∈ directory.commands.entries) :
    ∃ command, (commands.foldl (fun world command => (world.addCommand command).1) world).command?
        entry.1 = some command ∧ R entry command := by
  have hids : (commands.map (·.id)).Nodup := by
    rw [map_eq_of_forall₂ (hcommands.imp fun _ _ h => hid _ _ h)]
    exact directory.commands.nodup_entries
  obtain ⟨command, hmem, hcommand⟩ := exists_result hcommands hentry
  refine ⟨command, ?_, hcommand⟩
  rw [← hid _ _ hcommand]
  exact World.command?_addCommands world hids hmem

/-- What is declared stands in a world that is put together from its parts. -/
theorem Makes.assembled {directory : Directory} {document : Document} {all : List Diagnostic}
    {parts : Parts} (h : directory.Makes document all parts) :
    directory.Assembled all (parts.world document.texts) := by
  have hlocations := h.locations.shows <| Shows.mapM fun entry _ =>
    directory.shows_buildLocation entry.1 entry.2
  have hitems := h.items.shows <| Shows.mapM fun entry _ =>
    .of_tells (tells_buildItem entry.1 entry.2)
  have hsettled := h.settles
  have hcommands := h.commands.shows <| Shows.mapM fun entry _ =>
    directory.shows_buildCommand entry.1 entry.2
  obtain ⟨found, hkept, hevents⟩ := h.events.shows <| Shows.filterMapM fun entry _ =>
    directory.shows_buildEvent entry.1 entry.2
  obtain ⟨hids, hfinds, honly⟩ :=
    directory.eventOutcome_find? directory.events.nodup_entries hevents
  rw [← hkept] at hids hfinds honly
  obtain ⟨hitemsKept, hlocationsKept, heventsKept⟩ := parts.settled.kept_addCommands parts.commands
  obtain ⟨hitemsLast, hlocationsLast, hcommandsLast⟩ := parts.ordered.kept_addEvents parts.events
  have hnone : parts.ordered.events = ∅ := by
    rw [Parts.ordered, heventsKept, hsettled.events]
    exact World.view_furnish World.events (fun _ _ => rfl) (fun _ _ => rfl) (fun _ _ => rfl) _ _ _ _
  refine ⟨?_, fun entry hentry => ?_, fun entry hentry => ?_, fun entry hentry => ?_,
    fun id event hevent => ?_⟩
  · calc
      _ = parts.settled.origins :=
        congrArg (List.map Item.origin) (hitemsLast.trans hitemsKept)
      _ = parts.items.map Item.origin :=
        hsettled.origins.trans (World.origins_furnish rfl _ _ _)
      _ = directory.items.entries.map fun entry => (entry.1, none) :=
        map_eq_of_forall₂ hitems
  · obtain ⟨location, hfound, hlocation⟩ :=
      directory.exists_location hlocations _ parts.inventories parts.items hentry
    obtain ⟨last, hlast, hsame⟩ := hsettled.exists_location? hfound
    refine ⟨last, ?_, hlocation.words, hlocation.exits.imp_left fun h direction hsome => ?_⟩
    · refine Eq.trans ?_ hlast
      exact congrArg (Table.get? · entry.1) (hlocationsLast.trans hlocationsKept)
    · rw [← h direction hsome]
      exact show last.emptied.destination direction = location.emptied.destination direction from
        congrArg (·.destination direction) hsame
  · obtain ⟨command, hfound, hcommand⟩ :=
      directory.exists_command (fun _ _ h => h.id_eq) hcommands parts.settled hentry
    refine ⟨command, ?_, hcommand.ways⟩
    exact (congrArg (Table.get? · entry.1) hcommandsLast).trans hfound
  · have hfind := World.event?_addEvents hnone hids entry.1
    exact hfind ▸ hfinds entry hentry
  · have hfind := (World.event?_addEvents hnone hids id).symm.trans hevent
    have hmem := honly event (List.mem_of_find?_eq_some hfind)
    obtain ⟨entry, hentry, heq⟩ := List.mem_map.mp hmem
    have hid : event.id = id := by simpa using List.find?_some hfind
    rw [← hid, ← heq]
    exact Registry.contains_of_mem hentry

end Directory

/-- What is noted while a description is indexed and built is among all that is noted in the end,
and the world is put together from the index. -/
theorem Document.assembled_load {document : Document} {loaded : Loaded}
    (h : document.load = .ok loaded) :
    (Directory.ofDocument document).2 ⊆ loaded.diagnostics ∧
      (Directory.ofDocument document).1.Assembled loaded.diagnostics loaded.world := by
  obtain ⟨hnoted, parts, hmakes, hworld⟩ := makes_load h
  rw [hworld]
  exact ⟨hnoted, hmakes.assembled⟩

/-- In a loaded world there are no copies, and the items have numbers of their own. -/
theorem Document.originals_load {document : Document} {loaded : Loaded}
    (h : document.load = .ok loaded) :
    (∀ origin ∈ loaded.world.origins, origin.2 = none) ∧ loaded.world.Distinct := by
  have horigins := (assembled_load h).2.origins
  generalize (Directory.ofDocument document).1 = directory at horigins
  refine ⟨?_, fun first last number hfirst hlast => ?_⟩
  · rw [horigins, List.forall_mem_map]
    exact fun _ _ => rfl
  · have hnumber {slot : Nat} (h : loaded.world.origins[slot]? = some (number, none)) :
        (directory.items.entries.map Prod.fst)[slot]? = some number := by
      rw [horigins, List.getElem?_map, Option.map_eq_some_iff] at h
      obtain ⟨entry, hentry, heq⟩ := h
      rw [List.getElem?_map, hentry, Option.map_some, (Prod.mk.inj heq).1]
    have hslot := (List.getElem?_eq_some_iff.mp (hnumber hfirst)).1
    refine (List.getElem?_inj hslot directory.items.nodup_entries).mp ?_
    rw [hnumber hfirst, hnumber hlast]

/-- What is loaded from a description that can be loaded. -/
theorem Document.load_get {document : Document} (h : document.load.toOption.isSome = true) :
    document.load = .ok (document.load.toOption.get h) := by
  revert h
  generalize document.load = result
  intro h
  cases result with
  | error cause => cases h
  | ok loaded => rfl

end Adventure
