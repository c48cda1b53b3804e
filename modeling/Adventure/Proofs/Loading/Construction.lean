import Adventure.Loading
import Adventure.Proofs.Loading.Settling

/-!
# How a world is put together

A world is built from its declarations one kind after the other. Whatever world comes of a
description, each of its parts was yielded by the step that builds it, and the problems that the
step noted are among all that is noted in the end.
-/

namespace Adventure

open Loading

/-- What a world is put together from. -/
structure Parts where
  /-- The player that is declared. -/
  player : PlayerDecl
  /-- The attributes of the player. -/
  attributes : PlayerFlags
  /-- The locations, with their exits. -/
  locations : List Location
  /-- The inventories. -/
  inventories : List Inventory
  /-- The items, as long as they are nowhere. -/
  items : List Item
  /-- The world in which the items were put in their places. -/
  settled : World
  /-- The commands. -/
  commands : List Command
  /-- The events that were not dropped. -/
  events : List Event

namespace Parts

/-- The world in which there is nothing but the player. -/
def bare (parts : Parts) (name : String) : World :=
  (World.new name parts.player.location).modifyPlayer fun p =>
    { p with attributes := parts.attributes }

/-- The world in which all items stand and none is anywhere. -/
def furnished (parts : Parts) (name : String) : World :=
  parts.items.foldl World.addItem (parts.inventories.foldl World.addInventory
    (parts.locations.foldl World.addLocation (parts.bare name)))

/-- The world with its commands. -/
def ordered (parts : Parts) : World :=
  parts.commands.foldl (fun world command => (world.addCommand command).1) parts.settled

/-- The world with all of its parts. -/
def world (parts : Parts) (texts : Texts) : World :=
  { parts.events.foldl World.addEvent parts.ordered with texts }

end Parts

namespace Directory

/-- The parts of a world come about as they are declared. -/
structure Makes (directory : Directory) (document : Document) (all : List Diagnostic)
    (parts : Parts) : Prop where
  /-- The player begins somewhere. -/
  start : directory.locations.contains parts.player.location = true
  locations : Taken (directory.locations.entries.mapM fun (id, declared) =>
    directory.buildLocation id declared) all parts.locations
  inventories : Taken (directory.inventories.entries.mapM fun (id, declared) =>
    directory.buildInventory id declared) all parts.inventories
  items : Taken (directory.items.entries.mapM fun (id, declared) => buildItem id declared) all
    parts.items
  settled : Taken (directory.items.entries.foldlM directory.settleItem
    (parts.furnished document.name)) all parts.settled
  commands : Taken (directory.commands.entries.mapM fun (id, declared) =>
    directory.buildCommand id declared) all parts.commands
  events : Taken (directory.events.entries.filterMapM fun (id, declared) =>
    directory.buildEvent id declared) all parts.events

/-- Whatever world is built is put together from parts that come about as they are declared. -/
theorem shows_makes (directory : Directory) (document : Document) :
    Shows (directory.buildWorld document) fun all world =>
      ∃ parts, directory.Makes document all parts ∧ world = parts.world document.texts := by
  unfold buildWorld
  refine .bind (P := fun _ _ => True) (.of_tells ?_) fun player => ?_
  · unfold Document.onlyPlayer
    split
    · exact .pure trivial
    · exact .throw _
  simp only []
  split
  · refine Tells.bind (R := fun _ _ => False) (.throw _) fun _ _ h => h.elim
  · rename_i hknown
    have hstart : directory.locations.contains player.location = true := by simpa using hknown
    refine .bind (tells_flags _ _).taken fun attributes => ?_
    refine .bind (Shows.mapM fun entry _ =>
      directory.shows_buildLocation entry.1 entry.2).taken fun locations => ?_
    refine .bind (Tells.mapM fun entry _ =>
      directory.tells_buildInventory entry.1 entry.2).taken fun inventories => ?_
    refine .bind (Tells.mapM fun entry _ => tells_buildItem entry.1 entry.2).taken fun items => ?_
    refine .bind (directory.tells_settleItems _ _).taken fun settled => ?_
    refine .bind (Shows.mapM fun entry _ =>
      directory.shows_buildCommand entry.1 entry.2).taken fun commands => ?_
    refine .bind (Shows.filterMapM fun entry _ =>
      directory.shows_buildEvent entry.1 entry.2).taken fun events => ?_
    refine .pure ?_
    intro all hevents hcommands hsettled hitems hinventories hlocations _ _
    exact ⟨⟨player, attributes, locations, inventories, items, settled, commands, events⟩,
      ⟨hstart, hlocations, hinventories, hitems, hsettled, hcommands, hevents⟩, rfl⟩

/-- Settling the items leaves all the rest alone. -/
theorem Makes.settles {directory : Directory} {document : Document} {all : List Diagnostic}
    {parts : Parts} (h : directory.Makes document all parts) :
    (parts.furnished document.name).Settles parts.settled :=
  h.settled.shows (.of_tells (directory.tells_settleItems _ _))

end Directory

/-- A loaded world is put together from the index of its description, and what was noted while the
description was indexed is among all that was noted in the end. -/
theorem Document.makes_load {document : Document} {loaded : Loaded}
    (h : document.load = .ok loaded) :
    (Directory.ofDocument document).2 ⊆ loaded.diagnostics ∧
      ∃ parts, (Directory.ofDocument document).1.Makes document loaded.diagnostics parts ∧
        loaded.world = parts.world document.texts := by
  unfold Document.load at h
  cases hbuild : ((Directory.ofDocument document).1.buildWorld document).run
      (Directory.ofDocument document).2 with
  | error cause => simp [hbuild, bind, Except.bind] at h
  | ok result =>
    obtain ⟨world, after⟩ := result
    obtain ⟨added, rfl, hshown⟩ := Directory.shows_makes _ document _ world after hbuild
    simp only [hbuild, bind, Except.bind, pure, Except.pure, Except.ok.injEq] at h
    rw [← h]
    exact ⟨by simp [List.append_assoc], hshown _ (by simp)⟩

end Adventure
