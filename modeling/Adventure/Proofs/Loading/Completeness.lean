import Adventure.Proofs.Loading.Assembly
import Adventure.Proofs.Loading.Survivors

/-!
# Nothing is lost without a word

When no error is noted while a description is loaded, all its records are in the world: every
location, command and event, and all that events ask for and do, in order. Only where two entries of
one record mean the same thing, two words the same direction or two ways the same location, does
the later one take the place of the other, and nothing is said of that.
-/

namespace Adventure

open Loading

/-! ## Records that are not declared again -/

namespace Registry

variable {kind : Kind} {α : Type} {noun : String} {idOf : α → Id kind}

/-- The declaration of a new number is entered last. -/
theorem entries_declare_of_new {registry : Registry kind α} {id : Id kind}
    (hnew : ¬ registry.contains id = true) (declared : α) :
    (registry.declare id declared).entries = registry.entries ++ [(id, declared)] := by
  have hget (other : Id kind) : (registry.declare id declared).get? other =
      if other = id then some declared else registry.get? other := Table.get?_insert _ _ _ _
  have hbefore : ∀ other ∈ registry.order, ((registry.declare id declared).get? other).map
      (fun found => (other, found)) = (registry.get? other).map fun found => (other, found) := by
    intro other hmem
    have hne : other ≠ id := fun heq => hnew ((registry.mem_order id).mp (heq ▸ hmem))
    rw [hget, if_neg hne]
  have horder : (registry.declare id declared).order = registry.order ++ [id] := if_neg hnew
  rw [entries, horder, List.filterMap_append, List.filterMap_congr hbefore, entries]
  simp [hget]

/-- Declarations of which none is noted to repeat a number are entered one after the other. -/
theorem entries_declareAll {declarations : List α} {registry : Registry kind α}
    (h : (declareAll noun idOf registry declarations).2 = []) :
    (declareAll noun idOf registry declarations).1.entries =
      registry.entries ++ declarations.map fun declared => (idOf declared, declared) := by
  induction declarations generalizing registry with
  | nil => simp [declareAll]
  | cons declared rest ih =>
    simp only [declareAll] at h ⊢
    split at h
    · cases h
    · rename_i hnew
      rw [ih h, entries_declare_of_new hnew, List.map_cons, List.append_assoc,
        List.singleton_append]

end Registry

/-! ## Entries with the same meaning -/

/-- Among entries with keys, each is what its key finds last exactly if no two entries with the same
key mean different things. -/
theorem find?_reverse_eq_iff {α β κ : Type} [BEq κ] [LawfulBEq κ]
    (keyOf : α → κ) (valueOf : α → β) (entries : List α) :
    (∀ entry ∈ entries, (entries.reverse.find? (keyOf · == keyOf entry)).map valueOf =
        some (valueOf entry)) ↔
      ∀ first ∈ entries, ∀ second ∈ entries, keyOf first = keyOf second →
        valueOf first = valueOf second := by
  constructor
  · intro h first hfirst second hsecond hkey
    have hboth := h first hfirst
    rw [hkey, h second hsecond] at hboth
    exact (Option.some.inj hboth).symm
  · intro h entry hentry
    have hkeyed : keyOf entry ∈ entries.map keyOf := List.mem_map_of_mem hentry
    obtain ⟨last, hmem, hlast, hkey⟩ := Table.exists_find?_reverse hkeyed
    rw [hlast, Option.map_some, h last hmem entry hentry hkey]

/-- If the exits are those that are declared last, each word has one, and all exits are as declared
exactly if no two words for a direction lead to different places. -/
theorem LocationDecl.leads (declared : LocationDecl) {location : Location}
    (hwords : ∀ link ∈ declared.directions.entries, (Direction.parse? link.1).isSome = true)
    (hexits : ∀ direction, (declared.exit? direction).isSome = true →
      location.destination direction = declared.exit? direction) :
    (∀ link ∈ declared.directions.entries, ∃ direction,
      Direction.parse? link.1 = some direction ∧
        location.destination direction = declared.exit? direction) ∧
    ((∀ link ∈ declared.directions.entries, ∃ direction,
        Direction.parse? link.1 = some direction ∧
          location.destination direction = some link.2) ↔
      ∀ first ∈ declared.directions.entries, ∀ second ∈ declared.directions.entries,
        Direction.parse? first.1 = Direction.parse? second.1 → first.2 = second.2) := by
  have hexit (link : String × LocationId) (hlink : link ∈ declared.directions.entries) :
      ∃ direction, Direction.parse? link.1 = some direction ∧
        location.destination direction = declared.exit? direction := by
    obtain ⟨direction, hdirection⟩ := Option.isSome_iff_exists.mp (hwords link hlink)
    refine ⟨direction, hdirection, hexits direction ?_⟩
    rw [exit?, Direction.lastLink, Option.isSome_map, List.find?_isSome]
    exact ⟨link, List.mem_reverse.mpr hlink, by rw [hdirection, beq_self_eq_true]⟩
  refine ⟨hexit, ?_⟩
  rw [← find?_reverse_eq_iff (fun link => Direction.parse? link.1) Prod.snd]
  refine forall₂_congr fun link hlink => ?_
  obtain ⟨direction, hdirection, hdestination⟩ := hexit link hlink
  simp only [hdirection, Option.some.injEq, exists_eq_left', hdestination]
  rfl

namespace Document

variable {document : Document} {loaded : Loaded}

/-- Without errors the index has just the records. -/
theorem entries_of_clean (hload : document.load = .ok loaded) (hclean : loaded.hasErrors = false) :
    let directory := (Directory.ofDocument document).1
    directory.locations.entries = document.locations.map (fun declared => (declared.id, declared)) ∧
      directory.commands.entries = document.commands.map (fun declared => (declared.id, declared)) ∧
      directory.events.entries = document.events.map (fun declared => (declared.id, declared)) := by
  have hnone {kind : Kind} {α : Type} (noun : String) (idOf : α → Id kind) (declarations : List α)
      (hsub : (Registry.collect noun idOf declarations).2 ⊆ (Directory.ofDocument document).2) :
      (Registry.collect noun idOf declarations).1.entries =
        declarations.map fun declared => (idOf declared, declared) := by
    refine Registry.entries_declareAll ?_
    refine List.eq_nil_iff_forall_not_mem.mpr fun diagnostic hmem => ?_
    have hfalse := List.any_eq_false.mp hclean diagnostic ((assembled_load hload).1 (hsub hmem))
    obtain ⟨id, rfl⟩ := Registry.mem_declareAll hmem
    exact hfalse rfl
  refine ⟨hnone "location" _ _ ?_, hnone "command" _ _ ?_, hnone "event" _ _ ?_⟩ <;>
  · intro diagnostic hmem
    simp only [Directory.ofDocument, List.mem_append]
    tauto

/-- In a loaded world numbers of items find the keys that they have in the index. -/
theorem declaredItem?_load (hload : document.load = .ok loaded) (id : DataId) :
    loaded.world.declaredItem? id = (Directory.ofDocument document).1.itemKey? id := by
  rw [(originals_load hload).2.declaredItem?_eq, (assembled_load hload).2.origins,
    List.findIdx?_map, Directory.itemKey?]
  congr 2
  funext entry
  simp

/-! ## Loading without errors -/

/-- **What is loaded without errors is complete.** Every location has an exit for each word of its
record, and it leads where the last word for its direction says; every command has a way for each
way of its record, and it leads where the last one from its location does. These are all that are
declared exactly if no two words for a direction, and no two ways from a location, lead to different
places. Every event has what its record asks of the arguments, all its prerequisites and all its
actions, in order. -/
theorem carried_of_clean (hload : document.load = .ok loaded) (hclean : loaded.hasErrors = false) :
    (∀ declared ∈ document.locations, ∃ location,
      loaded.world.location? declared.id = some location ∧
      (∀ link ∈ declared.directions.entries, ∃ direction, Direction.parse? link.1 = some direction ∧
        location.destination direction = declared.exit? direction) ∧
      ((∀ link ∈ declared.directions.entries, ∃ direction,
          Direction.parse? link.1 = some direction ∧
            location.destination direction = some link.2) ↔
        ∀ first ∈ declared.directions.entries, ∀ second ∈ declared.directions.entries,
          Direction.parse? first.1 = Direction.parse? second.1 → first.2 = second.2)) ∧
    (∀ declared ∈ document.commands, ∃ command,
      loaded.world.command? declared.id = some command ∧
      (∀ origin, command.teleport.get? origin = declared.way? origin) ∧
      ((∀ way ∈ declared.teleport, command.teleport.get? way.origin = some way.destination) ↔
        ∀ first ∈ declared.teleport, ∀ second ∈ declared.teleport,
          first.origin = second.origin → first.destination = second.destination)) ∧
    ∀ declared ∈ document.events, ∃ event, loaded.world.event? declared.id = some event ∧
      declared.IsCarriedBy loaded.world.declaredItem? event := by
  obtain ⟨hlocations, hcommands, hevents⟩ := entries_of_clean hload hclean
  have hassembled := (assembled_load hload).2
  have hsound : ¬ Failed loaded.diagnostics := by
    rintro ⟨diagnostic, hmem, herror⟩
    exact List.any_eq_false.mp hclean diagnostic hmem herror
  refine ⟨fun declared hdeclared => ?_, fun declared hdeclared => ?_, fun declared hdeclared => ?_⟩
  · obtain ⟨location, hlocation, hwords, hexits⟩ := hassembled.location (declared.id, declared)
      (hlocations ▸ List.mem_map_of_mem hdeclared)
    exact ⟨location, hlocation, declared.leads hwords (hexits.resolve_right hsound)⟩
  · obtain ⟨command, hcommand, hways⟩ := hassembled.command (declared.id, declared)
      (hcommands ▸ List.mem_map_of_mem hdeclared)
    have hleads := hways.resolve_right hsound
    refine ⟨command, hcommand, hleads, ?_⟩
    rw [← find?_reverse_eq_iff TeleportDecl.origin TeleportDecl.destination]
    simp only [hleads]
    rfl
  · have hevent := hassembled.event (declared.id, declared)
      (hevents ▸ List.mem_map_of_mem hdeclared)
    generalize hfound : loaded.world.event? declared.id = found? at hevent
    cases hevent with
    | dropped hfault htold =>
      exact absurd ⟨_, htold, Directory.isError_eventFault? _ hfault⟩ hsound
    | @built event _ _ _ _ hwhole =>
      refine ⟨event, rfl, ?_⟩
      rw [funext (declaredItem?_load hload)]
      exact hwhole.resolve_right hsound

/-- A description of a square with two words for the north and of a ride with two ways from it. An
event takes the coin that the player holds and moves the player. -/
def crossing : Document :=
  let labels (name : String) : LabelsDecl := ⟨name, none, none, []⟩
  { name := "crossing"
    commands := [⟨⟨1⟩, "2", "ride", [], none, [], none, [⟨⟨1⟩, ⟨2⟩⟩, ⟨⟨1⟩, ⟨3⟩⟩]⟩]
    items := [⟨⟨1⟩, "8", labels "coin", 1, none, some (.location ⟨1⟩), none, none⟩]
    locations := [⟨⟨1⟩, "3", labels "square", .ofList [("n", ⟨2⟩), ("north", ⟨3⟩)]⟩,
      ⟨⟨2⟩, "3", labels "river", ∅⟩, ⟨⟨3⟩, "3", labels "hill", ∅⟩]
    events := [⟨⟨1⟩, "", ⟨1⟩, [], [.itemHeld ⟨1⟩, .playerAt ⟨1⟩], "", 0,
      [.destroyItem ⟨1⟩, .movePlayer ⟨2⟩]⟩]
    inventories := [⟨⟨1⟩, 8, true, []⟩]
    players := [⟨⟨1⟩, ""⟩]
    inputs := ∅
    hints := ∅
    explanations := ∅
    responses := ∅ }

/-- What is loaded from it. -/
def loadedCrossing : Loaded := crossing.load.toOption.get (by decide +kernel)

/-- Nothing is noted of the description and the event is there as declared, but neither the word `n`
nor the first way of the ride leads where it should. -/
theorem carried_of_clean_crossing :
    crossing.load = .ok loadedCrossing ∧ loadedCrossing.diagnostics = [] ∧
      (∀ declared ∈ crossing.events, ∃ event,
        loadedCrossing.world.event? declared.id = some event ∧
          declared.IsCarriedBy loadedCrossing.world.declaredItem? event) ∧
      (∃ declared ∈ crossing.locations, ("n", ⟨2⟩) ∈ declared.directions.entries ∧
        ∃ location, loadedCrossing.world.location? declared.id = some location ∧
          location.destination .north = some ⟨3⟩) ∧
      ∃ declared ∈ crossing.commands, ⟨⟨1⟩, ⟨2⟩⟩ ∈ declared.teleport ∧
        ∃ command, loadedCrossing.world.command? declared.id = some command ∧
          command.teleport.get? ⟨1⟩ = some ⟨3⟩ := by
  have hload : crossing.load = .ok loadedCrossing := load_get _
  have hclean : loadedCrossing.hasErrors = false := by decide +kernel
  obtain ⟨hlocations, hcommands, hevents⟩ := carried_of_clean hload hclean
  refine ⟨hload, by decide +kernel, hevents, ?_, ?_⟩
  · obtain ⟨location, hlocation, hexits, -⟩ := hlocations _ List.mem_cons_self
    have hlink : ("n", ⟨2⟩) ∈ (crossing.locations.head (by decide)).directions.entries :=
      List.mem_cons_self
    obtain ⟨direction, hdirection, hleads⟩ := hexits _ hlink
    have hnorth : Direction.parse? "n" = some .north := by decide +kernel
    obtain rfl : direction = .north := Option.some.inj (hdirection.symm.trans hnorth)
    exact ⟨_, List.mem_cons_self, hlink, location, hlocation, hleads.trans (by decide +kernel)⟩
  · obtain ⟨command, hcommand, hways, -⟩ := hcommands _ List.mem_cons_self
    exact ⟨_, List.mem_cons_self, List.mem_cons_self, command, hcommand, hways ⟨1⟩⟩

end Document

end Adventure
