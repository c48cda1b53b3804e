import Adventure.Proofs.World.Setting
import Adventure.Turn.Events

/-!
# Points and events

The score of the player and the events, each with the note whether it has fired, are the ledger of a
game. Things may be moved, copied and worn without any entry in it. When an event fires, its points
are added to the score and it is noted; the points of all noted events together are what the player
has earned.
-/

namespace Adventure.World

/-- The score of the player and the events. -/
def ledger (world : World) : Nat × Table EventId Event := (world.player.score, world.events)

/-- Whether an event has fired. -/
def hasFired (world : World) (id : EventId) : Bool := (world.event? id).any (·.fired)

/-- Whether an event may fire again and again. -/
def repeats (world : World) (id : EventId) : Bool :=
  (world.event? id).any (·.attributes.has EventFlags.repeatable)

/-- The points of all events that have fired. -/
def earned (world : World) : Nat :=
  ((world.events.values.filter (·.fired)).map (·.outcome.score)).sum

variable {world changed : World} {holder : Holder} {key : ItemKey}

/-! ## What leaves the ledger alone -/

theorem ledger_unlist : (world.unlist key holder).ledger = world.ledger := by
  cases holder <;> rfl

theorem ledger_list : (world.list key holder).ledger = world.ledger := by
  cases holder <;> rfl

theorem ledger_remove {previous : Option Holder} (h : world.remove key = .ok (changed, previous)) :
    changed.ledger = world.ledger := by
  obtain ⟨-, -, ⟨-, rfl⟩ | ⟨holder, -, rfl⟩⟩ := remove_cases h
  · rfl
  · exact ledger_unlist

theorem ledger_insert (h : world.insert holder key = .ok changed) :
    changed.ledger = world.ledger := by
  obtain ⟨-, removed, hremove, rfl⟩ := insert_cases h
  exact ledger_list.trans (ledger_remove hremove)

theorem ledger_destroy (h : world.destroy key = .ok changed) : changed.ledger = world.ledger := by
  obtain ⟨previous, hremove⟩ := destroy_cases h
  exact (ledger_remove hremove).trans rfl

theorem ledger_copyItem {copy : ItemKey} (h : world.copyItem key = .ok (changed, copy)) :
    changed.ledger = world.ledger := by
  obtain ⟨item, -, ⟨-, rfl⟩ | ⟨-, -, rfl⟩⟩ := copyItem_cases h <;> rfl

/-! ## What can be told from the ledger -/

theorem event?_of_ledger (h : changed.ledger = world.ledger) (id : EventId) :
    changed.event? id = world.event? id :=
  congrArg (fun ledger => ledger.2.get? id) h

theorem score_of_ledger (h : changed.ledger = world.ledger) :
    changed.player.score = world.player.score := congrArg Prod.fst h

theorem hasFired_of_ledger (h : changed.ledger = world.ledger) (id : EventId) :
    changed.hasFired id = world.hasFired id := by
  unfold hasFired
  rw [event?_of_ledger h]

theorem earned_of_ledger (h : changed.ledger = world.ledger) : changed.earned = world.earned :=
  congrArg (fun ledger => ((ledger.2.values.filter (·.fired)).map (·.outcome.score)).sum) h

/-- Whether an event may fire again can be told from the setting. -/
theorem repeats_of_setting (h : changed.setting = world.setting) (id : EventId) :
    changed.repeats id = world.repeats id := by
  have hany (world : World) : world.repeats id =
      ((world.event? id).map Event.pristine).any (·.attributes.has EventFlags.repeatable) := by
    unfold repeats
    cases world.event? id <;> rfl
  rw [hany, event?_of_setting h, ← hany]

/-- Whether some event may fire again can be told by looking through all events. -/
theorem repeats_eq_false
    (h : world.events.values.all (!·.attributes.has EventFlags.repeatable) = true) (id : EventId) :
    world.repeats id = false := by
  unfold repeats
  cases hevent : world.event? id with
  | none => rfl
  | some event =>
    have hmem := Table.mem_values.mpr ⟨id, hevent⟩
    simpa using List.all_eq_true.mp h event hmem

/-! ## Firing -/

/-- The ledger after an event has fired: its points are awarded, and it is noted. -/
def paid (world : World) (id : EventId) (event : Event) : Nat × Table EventId Event :=
  (Count.add world.player.score event.outcome.score,
    world.events.modify id fun e => { e with fired := true })

variable {id : EventId} {event : Event}

/-- An event that has been paid for has fired, and no other one has that had not before. -/
theorem hasFired_of_paid (hevent : world.event? id = some event)
    (h : changed.ledger = world.paid id event) (other : EventId) :
    changed.hasFired other = (other == id || world.hasFired other) := by
  have hevents : changed.events = world.events.modify id fun e => { e with fired := true } :=
    congrArg Prod.snd h
  unfold hasFired event?
  rw [hevents, Table.get?_modify]
  by_cases heq : other = id
  · subst heq
    have hfound : world.events.get? other = some event := hevent
    simp [hfound]
  · simp [heq]

/-- The points of an event that is paid for the first time are added to what has been earned. -/
theorem earned_of_paid (hevent : world.event? id = some event) (hnew : event.fired = false)
    (h : changed.ledger = world.paid id event) :
    changed.earned = world.earned + event.outcome.score := by
  have hshares (events : List Event) : ((events.filter (·.fired)).map (·.outcome.score)).sum =
      (events.map fun event => if event.fired then event.outcome.score else 0).sum := by
    induction events with
    | nil => rfl
    | cons event rest ih =>
      rw [List.filter_cons, List.map_cons, List.sum_cons, ← ih]
      cases event.fired <;> simp
  have hevents : changed.events = world.events.modify id fun e => { e with fired := true } :=
    congrArg Prod.snd h
  have hsum := Table.sum_values_modify hevent (fun e => { e with fired := true })
    fun event => if event.fired then event.outcome.score else 0
  unfold earned
  rw [hshares, hshares, hevents]
  simpa [hnew] using hsum

end Adventure.World
