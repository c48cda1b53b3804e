import Adventure.Proofs.Table
import Adventure.World.Basic
import Mathlib.Data.List.Induction
import Mathlib.Logic.Function.Basic

/-!
# Finding events by their keys

Events are found by their keys in the order in which they were last added. An event that is added
again replaces the one that had its number, whatever key that had: the number leaves the list that
it was in and ends the list of its new key. So an index which is kept up by these two changes and
never looks at any other list always agrees with the events themselves.
-/

namespace Adventure

/-- The event that a number stands for after events were added: the last one that has it. -/
def Event.latest? (added : List Event) (id : EventId) : Option Event :=
  added.reverse.find? (Event.id · == id)

/-- The last addition of `earlier` comes before the last addition of `later`. -/
def Event.LastAddedBefore (added : List Event) (earlier later : EventId) : Prop :=
  ∃ before event after, added = before ++ event :: after ∧ event.id = earlier ∧
    earlier ∉ after.map Event.id ∧ later ∈ after.map Event.id

/-- Events beside an index of their numbers by their keys. -/
structure EventIndex where
  /-- The events. -/
  events : Table EventId Event := ∅
  /-- The numbers listed under each key. -/
  listed : EventKey → List EventId := fun _ => []

/-- The lists without a number. Only the list of the event that has the number is looked at. -/
def EventIndex.strike (index : EventIndex) (id : EventId) : EventKey → List EventId :=
  match index.events.get? id with
  | some event => Function.update index.listed event.key
      ((index.listed event.key).filter (· ≠ id))
  | none => index.listed

/-- Add an event: its number is struck off and then put at the end of the list of its key. -/
def EventIndex.add (index : EventIndex) (event : Event) : EventIndex where
  events := index.events.insert event.id event
  listed := Function.update (index.strike event.id) event.key
    (index.strike event.id event.key ++ [event.id])

theorem EventIndex.listed_add (index : EventIndex) (event : Event) (key : EventKey) :
    (index.add event).listed key =
      index.strike event.id key ++ if event.key = key then [event.id] else [] := by
  rw [EventIndex.add]
  by_cases hkey : key = event.key
  · subst hkey
    simp
  · simp [Function.update_of_ne hkey, Ne.symm hkey]

namespace Event

theorem latest?_concat (added : List Event) (event : Event) (id : EventId) :
    latest? (added ++ [event]) id = if event.id = id then some event else latest? added id := by
  rw [latest?, Table.find?_reverse_concat, ← latest?]
  simp only [beq_iff_eq]

theorem LastAddedBefore.ne {added : List Event} {earlier later : EventId}
    (h : LastAddedBefore added earlier later) : earlier ≠ later := by
  obtain ⟨-, -, after, -, -, hearlier, hlater⟩ := h
  rintro rfl
  exact hearlier hlater

/-- A further addition of another event leaves the order of what was added before. -/
theorem LastAddedBefore.concat {added : List Event} {earlier later : EventId}
    (h : LastAddedBefore added earlier later) {event : Event} (hother : earlier ≠ event.id) :
    LastAddedBefore (added ++ [event]) earlier later := by
  obtain ⟨before, first, after, rfl, hfirst, hearlier, hlater⟩ := h
  refine ⟨before, first, after ++ [event], by simp, hfirst, ?_, ?_⟩
  · simpa [hother] using hearlier
  · rw [List.map_append]
    exact List.mem_append_left _ hlater

/-- What is added comes after everything that was added before. -/
theorem lastAddedBefore_last {added : List Event} {earlier : EventId} {found event : Event}
    (hfound : latest? added earlier = some found) (hother : earlier ≠ event.id) :
    LastAddedBefore (added ++ [event]) earlier event.id := by
  obtain ⟨hid, after, before, hsplit, hafter⟩ := List.find?_eq_some_iff_append.mp hfound
  have hadded : added = before.reverse ++ found :: after.reverse := by
    rw [← List.reverse_reverse added, hsplit]
    simp
  have hlast : earlier ∉ after.reverse.map Event.id := by
    intro hmem
    obtain ⟨later, hlater, rfl⟩ := List.mem_map.mp hmem
    simpa using hafter later (List.mem_reverse.mp hlater)
  refine ⟨before.reverse, found, after.reverse ++ [event], by simp [hadded], by simpa using hid,
    ?_, by simp⟩
  rw [List.map_append, List.mem_append, not_or]
  exact ⟨hlast, by simpa using hother⟩

end Event

namespace World

/-- An addition takes the number out of every list and puts it at the end of the list of its key. -/
theorem eventsFor_addEvent (world : World) (event : Event) (key : EventKey) :
    (world.addEvent event).eventsFor key = (world.eventsFor key).filter (· ≠ event.id) ++
      if event.key = key then [event.id] else [] := by
  have hfound (id : EventId) : (world.addEvent event).event? id =
      if id = event.id then some event else world.event? id := Table.get?_insert _ _ _ _
  have hothers : (world.eventOrder.filter (· ≠ event.id)).filter
      (fun id => ((world.addEvent event).event? id).any fun found => found.key = key) =
        (world.eventsFor key).filter (· ≠ event.id) := by
    rw [eventsFor, List.filter_filter, List.filter_filter]
    refine List.filter_congr fun id _ => ?_
    by_cases heq : id = event.id <;> simp [hfound, heq]
  rw [eventsFor]
  change (world.eventOrder.filter (· ≠ event.id) ++ [event.id]).filter _ = _
  rw [List.filter_append, hothers]
  by_cases hkey : event.key = key <;> simp [hfound, hkey]

theorem exists_event?_of_mem_eventsFor {world : World} {key : EventKey} {id : EventId}
    (h : id ∈ world.eventsFor key) : ∃ event, world.event? id = some event ∧ event.key = key := by
  have hany := (List.mem_filter.mp h).2
  simpa [Option.any_eq_true] using hany

/-- The events of a world with their lists. -/
def eventIndex (world : World) : EventIndex := ⟨world.events, world.eventsFor⟩

/-- A number is in no list but that of its event, so that no other list has to be looked at. -/
theorem strike_eventIndex (world : World) (id : EventId) (key : EventKey) :
    world.eventIndex.strike id key = (world.eventsFor key).filter (· ≠ id) := by
  have hkept (hapart : ∀ event, world.event? id = some event → event.key ≠ key) :
      (world.eventsFor key).filter (· ≠ id) = world.eventsFor key := by
    refine List.filter_eq_self.mpr fun other hmem => ?_
    obtain ⟨event, hevent, hkey⟩ := exists_event?_of_mem_eventsFor hmem
    have hne : other ≠ id := by
      rintro rfl
      exact hapart event hevent hkey
    simpa using hne
  cases hevent : world.event? id with
  | some event =>
    have hfound : world.eventIndex.events.get? id = some event := hevent
    rw [EventIndex.strike, hfound]
    by_cases hkey : key = event.key
    · subst hkey
      exact Function.update_self _ _ _
    · refine (Function.update_of_ne hkey _ _).trans (hkept fun other hother => ?_).symm
      cases hevent.symm.trans hother
      exact Ne.symm hkey
  | none =>
    have hfound : world.eventIndex.events.get? id = none := hevent
    rw [EventIndex.strike, hfound]
    refine (hkept fun other hother => ?_).symm
    cases hevent.symm.trans hother

/-- The lists of a world change like those of an index. -/
theorem eventIndex_addEvent (world : World) (event : Event) :
    (world.addEvent event).eventIndex = world.eventIndex.add event := by
  have hlisted : (world.addEvent event).eventsFor = (world.eventIndex.add event).listed := by
    funext key
    rw [eventsFor_addEvent, ← strike_eventIndex, EventIndex.listed_add]
  exact congrArg (EventIndex.mk _) hlisted

/-! ## Many additions -/

section Added

variable (name : String) (start : LocationId)

theorem eventIndex_added (added : List Event) :
    (added.foldl addEvent (new name start)).eventIndex = added.foldl EventIndex.add {} :=
  (List.foldl_hom eventIndex fun world event => (eventIndex_addEvent world event).symm).symm

theorem foldl_addEvent_concat (world : World) (added : List Event) (event : Event) :
    (added ++ [event]).foldl addEvent world = (added.foldl addEvent world).addEvent event := by
  rw [List.foldl_append, List.foldl_cons, List.foldl_nil]

/-- A key finds the numbers whose last added event has it. -/
theorem mem_eventsFor_added_iff (added : List Event) (key : EventKey) (id : EventId) :
    id ∈ (added.foldl addEvent (new name start)).eventsFor key ↔
      ∃ event, Event.latest? added id = some event ∧ event.key = key := by
  induction added using List.reverseRecOn with
  | nil => simp [eventsFor, new, Event.latest?]
  | append_singleton added event ih =>
    rw [foldl_addEvent_concat, eventsFor_addEvent, Event.latest?_concat, List.mem_append,
      List.mem_filter, ih]
    by_cases heq : event.id = id
    · subst heq
      by_cases hkey : event.key = key <;> simp [hkey]
    · by_cases hkey : event.key = key <;> simp [hkey, heq, Ne.symm heq]

/-- The numbers that a key finds stand in the order in which their events were last added. -/
theorem pairwise_eventsFor_added (added : List Event) (key : EventKey) :
    ((added.foldl addEvent (new name start)).eventsFor key).Pairwise
      (Event.LastAddedBefore added) := by
  induction added using List.reverseRecOn with
  | nil => exact List.Pairwise.nil
  | append_singleton added event ih =>
    rw [foldl_addEvent_concat, eventsFor_addEvent, List.pairwise_append]
    have hother {id : EventId} (hid : id ∈ ((added.foldl addEvent
        (new name start)).eventsFor key).filter (· ≠ event.id)) : id ≠ event.id := by
      simpa using (List.mem_filter.mp hid).2
    refine ⟨?_, by split <;> simp, fun id hid last hlast => ?_⟩
    · exact (ih.filter _).imp_of_mem fun hid _ hbefore => hbefore.concat (hother hid)
    · obtain ⟨found, hfound, -⟩ :=
        (mem_eventsFor_added_iff name start added key id).mp (List.mem_filter.mp hid).1
      split at hlast
      · rw [List.mem_singleton.mp hlast]
        exact Event.lastAddedBefore_last hfound (hother hid)
      · cases hlast

/-- After events were added to an empty world, a key finds exactly those numbers whose last added
event has it, each once, in the order of their last additions. An index that is kept up with every
addition has the same lists. -/
theorem eventsFor_added (added : List Event) (key : EventKey) :
    let world := added.foldl addEvent (new name start)
    (∀ id, id ∈ world.eventsFor key ↔
        ∃ event, Event.latest? added id = some event ∧ event.key = key) ∧
      (world.eventsFor key).Nodup ∧
      (world.eventsFor key).Pairwise (Event.LastAddedBefore added) ∧
      (added.foldl EventIndex.add {}).listed key = world.eventsFor key := by
  have hordered := pairwise_eventsFor_added name start added key
  refine ⟨mem_eventsFor_added_iff name start added key, ?_, hordered, ?_⟩
  · exact hordered.imp Event.LastAddedBefore.ne
  · rw [← eventIndex_added name start added]
    rfl

-- An event that is added again goes to the end of its list, or to another list with another key.
example :
    let listen : Event := { id := ⟨1⟩, command := ⟨7⟩ }
    let wait : Event := { id := ⟨2⟩, command := ⟨7⟩ }
    let moved : Event := { id := ⟨1⟩, command := ⟨8⟩ }
    let lists (added : List Event) := [7, 8].map fun command =>
      (added.foldl addEvent (new "" ⟨0⟩)).eventsFor ⟨⟨command⟩, []⟩
    lists [listen, wait, listen] = [[⟨2⟩, ⟨1⟩], []] ∧
      lists [listen, wait, moved] = [[⟨2⟩], [⟨1⟩]] := by
  decide

end Added

end World

end Adventure
