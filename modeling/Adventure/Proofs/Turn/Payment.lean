import Adventure.Proofs.Turn.Course
import Adventure.Proofs.Turn.Death
import Adventure.Proofs.Turn.Effects

/-!
# What a turn pays

Neither deeds nor the actions of events touch the ledger, nor does death. So the only entry of a
turn is that of the event that fires, if one does.
-/

namespace Adventure

namespace World

variable {world changed : World} {id : EventId}

/-- An event fires only if it still may, and it is paid for then. -/
theorem Fires.paid (h : world.Fires id changed) : ∃ event, world.event? id = some event ∧
    event.isArmed = true ∧ changed.ledger = world.paid id event := by
  obtain ⟨hevent, hready, hdone, hfinal⟩ := h
  rename_i event done
  obtain ⟨hscore, hevents⟩ := Prod.mk.inj (ledger_applyAll hdone)
  have hfired : ((done.award event.outcome.score).markFired id).ledger = world.paid id event :=
    Prod.ext (congrArg (Count.add · event.outcome.score) hscore)
      (congrArg (fun events => events.modify id fun e => { e with fired := true }) hevents)
  refine ⟨event, hevent, (Bool.and_eq_true_iff.mp hready).1, ?_⟩
  rcases hfinal with hfinal | hfinal
  · rw [hfinal, hfired]
  · rw [hfinal, (rests_die _).ledger, hfired]

/-- Laying down what was carried leaves the ledger alone, and so does mourning. -/
theorem ledger_mourned (world : World) : world.mourned.ledger = world.ledger := by
  have hone (location : LocationId) (world : World) (key : ItemKey) :
      (layDown location world key).ledger = world.ledger :=
    layDown_keeps (P := fun laid => laid.ledger = world.ledger) rfl
      fun laid hinsert => (ledger_insert hinsert).trans rfl
  unfold mourned
  split
  · rfl
  · exact List.foldlRecOn world.carried _ (motive := fun laid => laid.ledger = world.ledger) rfl
      fun laid hlaid key _ => (hone _ laid key).trans hlaid

end World

variable {turn : Turn} {command : Command} {args : List Arg} {final : World}

/-- A turn in which no event fires leaves the ledger alone. -/
theorem Turn.Course.ledger_eq (h : turn.Course command args final)
    (hnone : turn.fires? command args = none) : final.ledger = turn.world.ledger := by
  cases h with
  | refused pending hfinal => rw [hfinal]; rfl
  | completed hdeed hacted hwatched hreckoned hdoes hcarries hrests hwatches hanswers _ hfinal =>
    rw [hnone] at hanswers
    calc
      final.ledger = _ := (congrArg World.ledger hfinal).trans (World.ledger_mourned _)
      _ = _ := congrArg World.ledger hanswers
      _ = _ := hrests.ledger
      _ = turn.world.ledger := hdoes.ledger

/-- A turn in which an event fires pays for it. -/
theorem Turn.Course.paid (h : turn.Course command args final) {id : EventId}
    (hsome : turn.fires? command args = some id) : ∃ event, turn.world.event? id = some event ∧
      event.isArmed = true ∧ final.ledger = turn.world.paid id event := by
  cases h with
  | refused pending hfinal hdeed hacted hwatched =>
    simp [Turn.fires?, hwatched] at hsome
  | completed hdeed hacted hwatched hreckoned hdoes hcarries hrests hwatches hanswers _ hfinal =>
    rw [hsome] at hanswers
    obtain ⟨event, hevent, harmed, hpaid⟩ := World.Fires.paid hanswers
    have hsame := hrests.ledger.trans hdoes.ledger
    rw [World.event?_of_ledger hsame] at hevent
    refine ⟨event, hevent, harmed, ?_⟩
    rw [hfinal, World.ledger_mourned, hpaid]
    obtain ⟨hscore, hevents⟩ := Prod.mk.inj hsame
    exact Prod.ext (congrArg (Count.add · event.outcome.score) hscore)
      (congrArg (fun events => events.modify id fun e => { e with fired := true }) hevents)

end Adventure
