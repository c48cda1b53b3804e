import Adventure.Proofs.Loading.Worlds
import Adventure.Proofs.World.Bodies
import Adventure.Proofs.World.Ledger
import Adventure.Proofs.World.Nesting

/-!
# How a game begins

As a game begins nobody has scored, no event has fired and nothing is worn. Items may already hold
others, since they were put there one by one, and so they are nested. All of this holds of an empty
world and is kept by every step of loading.
-/

namespace Adventure

open Loading

/-! ## New items and events -/

/-- No new item is worn. -/
theorem Item.isWorn_ofAttributes (dataId : DataId) (attributes : ItemFlags) (labels : Labels)
    (size : Nat) : (Item.ofAttributes dataId attributes labels size).isWorn = false := by
  unfold ofAttributes isWorn
  simp only []
  split <;> rfl

@[simp] theorem Item.isWorn_withActivated (item : Item) (activated : ItemFlags) :
    (item.withActivated activated).isWorn = item.isWorn := by
  unfold withActivated isWorn
  cases item.garment <;> rfl

namespace Directory

theorem yields_unworn (id : DataId) (declared : ItemDecl) :
    Yields (buildItem id declared) fun item => item.isWorn = false := by
  have hnew (attributes : ItemFlags) : Item.isWorn { Item.ofAttributes id attributes
      declared.labels.labels declared.size with writing := declared.writing } = false :=
    Item.isWorn_ofAttributes id attributes declared.labels.labels declared.size
  unfold buildItem
  refine .after fun attributes => ?_
  split
  · exact .pure (hnew attributes)
  · refine .after fun activated => .pure ?_
    rw [Item.isWorn_withActivated]
    exact hnew attributes

theorem finds_unfired (directory : Directory) (id : EventId) (declared : EventDecl) :
    Finds (directory.buildEvent id declared) fun event => event.fired = false := by
  unfold buildEvent
  refine .after fun attributes => ?_
  split
  · exact .after fun _ => Finds.none
  · split
    · exact .after fun _ => Finds.none
    · exact .after fun prerequisites => .after fun actions => Finds.some rfl

end Directory

/-! ## Fresh worlds -/

namespace World

/-- What holds of a world in which nobody has done anything yet. -/
structure Fresh (world : World) : Prop where
  /-- Nobody has scored. -/
  score : world.player.score = 0
  /-- No event has fired. -/
  unfired : ∀ id event, world.event? id = some event → event.fired = false
  /-- Nothing is worn. -/
  unworn : ∀ key, world.isWorn key = false
  /-- From every item the way outward ends. -/
  nested : world.Nested

variable {world changed : World}

theorem fresh_new (name : String) (start : LocationId) (attributes : PlayerFlags) :
    ((new name start).modifyPlayer fun p => { p with attributes }).Fresh :=
  ⟨rfl, by rintro _ _ ⟨⟩, fun _ => rfl, nested_new name start⟩

theorem Fresh.addLocation (h : world.Fresh) (location : Location) :
    (world.addLocation location).Fresh :=
  ⟨h.score, h.unfired, h.unworn, h.nested.add (.location location)⟩

theorem Fresh.addInventory (h : world.Fresh) (inventory : Inventory) :
    (world.addInventory inventory).Fresh :=
  ⟨h.score, h.unfired, h.unworn, h.nested.add (.inventory inventory)⟩

theorem Fresh.addItem (h : world.Fresh) {item : Item} (hoff : item.isWorn = false) :
    (world.addItem item).Fresh := by
  refine ⟨h.score, h.unfired, fun key => ?_, h.nested.add (.item item)⟩
  rw [World.addItem, World.isWorn, item?_append]
  by_cases heq : key = world.nextKey
  · rw [if_pos heq]
    exact hoff
  · rw [if_neg heq]
    exact h.unworn key

theorem Fresh.addCommand (h : world.Fresh) (command : Command) :
    (world.addCommand command).1.Fresh :=
  ⟨h.score, h.unfired, h.unworn, h.nested⟩

theorem Fresh.addEvent (h : world.Fresh) {event : Event} (hnew : event.fired = false) :
    (world.addEvent event).Fresh := by
  refine ⟨h.score, fun id found hfound => ?_, h.unworn, h.nested⟩
  change (world.events.insert event.id event).get? id = some found at hfound
  rw [Table.get?_insert] at hfound
  split at hfound
  · cases hfound
    exact hnew
  · exact h.unfired id found hfound

/-- Setting up a switch does not make anything worn. -/
theorem Fresh.wire (h : world.Fresh) (key : ItemKey) (target : Option SwitchTarget)
    (words : SwitchWords) : (world.modifyItem key (·.withSwitch target words)).Fresh := by
  refine ⟨h.score, h.unfired, fun other => ?_, h.nested.of_inside ?_⟩
  · have hbefore := h.unworn other
    unfold World.isWorn at hbefore ⊢
    rw [item?_modifyItem]
    by_cases heq : other = key
    · subst heq
      rw [if_pos rfl, Option.any_map]
      exact hbefore
    · rwa [if_neg heq]
  · intro inner outer hinside
    unfold Inside at hinside
    rwa [holder?_modifyItem_of_holder _ fun _ => by rfl] at hinside

/-- Putting an item somewhere does not make anything worn either. -/
theorem Fresh.insert (h : world.Fresh) {holder : Holder} {key : ItemKey}
    (hinsert : world.insert holder key = .ok changed) : changed.Fresh := by
  obtain ⟨hscore, hevents⟩ := Prod.mk.inj (ledger_insert hinsert)
  refine ⟨hscore.trans h.score, fun id event hevent => ?_, fun other => ?_,
    h.nested.move (.insert hinsert)⟩
  · rw [event?, hevents] at hevent
    exact h.unfired id event hevent
  · rw [isWorn_insert hinsert]
    exact h.unworn other

end World

namespace Directory

variable {directory : Directory} {world : World}

theorem yields_fresh_settleItem (h : world.Fresh) (entry : DataId × ItemDecl) :
    Yields (directory.settleItem world entry) World.Fresh :=
  (directory.tells_settleItem world entry).yields fun _ _ hsettling =>
    hsettling.keeps h (fun words hfresh _ => hfresh.wire _ _ words) fun hfresh _ => hfresh.insert

/-- The world in which all items stand is fresh. -/
theorem Makes.fresh_furnished {document : Document} {all : List Diagnostic} {parts : Parts}
    (h : directory.Makes document all parts) : (parts.furnished document.name).Fresh := by
  have hnew := World.fresh_new document.name parts.player.location parts.attributes
  have hmapped := List.foldlRecOn parts.locations World.addLocation hnew
    fun _ hworld location _ => hworld.addLocation location
  have hstocked := List.foldlRecOn parts.inventories World.addInventory hmapped
    fun _ hworld inventory _ => hworld.addInventory inventory
  have hitems := h.items.yields <| Yields.mapM fun entry _ => yields_unworn entry.1 entry.2
  refine List.foldlRecOn parts.items World.addItem hstocked fun _ hworld item hmem => ?_
  obtain ⟨entry, -, hoff⟩ := exists_entry hitems hmem
  exact hworld.addItem hoff

/-- A world that is put together from its parts is fresh. -/
theorem Makes.fresh {document : Document} {all : List Diagnostic} {parts : Parts}
    (h : directory.Makes document all parts) : (parts.world document.texts).Fresh := by
  have hsettled := h.settled.yields <| Yields.foldlM h.fresh_furnished fun world entry _ hworld =>
    yields_fresh_settleItem hworld entry
  have hevents := h.events.yields <| Yields.filterMapM fun entry _ =>
    directory.finds_unfired entry.1 entry.2
  have hordered := List.foldlRecOn parts.commands
    (fun world command => (world.addCommand command).1) hsettled
    fun _ hworld command _ => hworld.addCommand command
  have hfull := List.foldlRecOn parts.events World.addEvent hordered
    fun _ hworld event hmem => hworld.addEvent (hevents event hmem)
  exact ⟨hfull.score, hfull.unfired, hfull.unworn, hfull.nested⟩

end Directory

/-- Whatever world is loaded is fresh. -/
theorem Document.fresh_load {document : Document} {loaded : Loaded}
    (h : document.load = .ok loaded) : loaded.world.Fresh := by
  obtain ⟨-, parts, hmakes, hworld⟩ := makes_load h
  rw [hworld]
  exact hmakes.fresh

end Adventure
