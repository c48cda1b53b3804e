import Adventure.Proofs.Turn.Course
import Adventure.Proofs.Turn.Death
import Adventure.Proofs.Turn.Effects
import Adventure.Proofs.World.Garments

/-!
# What leaves worn things behind

Whoever drops, uses up or destroys something takes it off, and so does death with all that is
carried; but what is inside stays on. Putting something into a container and moving it by an event
take nothing off. Here it is told before each step of a turn whether it leaves something worn
behind.
-/

namespace Adventure

/-- Whether a deed leaves something behind that is worn: by laying down or using up what holds it,
or by putting it or a copy of it into a container that is not in an inventory. -/
def Deed.strays (world : World) : Deed → Bool
  | drop key | spend key => world.attire.any (world.encloses key)
  | put key container => !world.isCarried container && world.attire.any (world.within key)
  | copy key container => !world.isCarried container && world.isWorn key
  | _ => false

/-- Whether an action leaves something behind that is worn: by destroying what holds it, by moving
it to a place that is not in an inventory, or by one of these when an item takes the place of
another one. -/
def Action.strays (world : World) : Action → Bool
  | destroyItem item => world.attire.any (world.encloses item)
  | moveItem item place => !world.carriesAt (some place) && world.attire.any (world.within item)
  | replaceItem outgoing incoming =>
    match world.holder? outgoing with
    | none => false
    | some place => world.attire.any fun key => key != outgoing &&
      if world.within incoming key then !world.carriesAt (some place)
      else world.encloses outgoing key
  | _ => false

namespace World

/-- The actions of an event that fires, if one does. -/
def script (world : World) (id? : Option EventId) : List Action :=
  ((id?.bind world.event?).map (·.outcome.actions)).getD []

/-- Whether something worn is left behind by laying down all that a player carries who is dead,
since it is inside one of these things. -/
def forsakes (world : World) : Bool :=
  !world.player.alive &&
    world.attire.any fun key => world.carried.any (world.encloses · key)

variable {world changed : World}

/-! ## Deeds -/

/-- A deed leaves something worn behind exactly if it is one that does so. -/
theorem Does.wornCarried_iff {deed : Deed} (h : world.Does deed changed) (hnested : world.Nested)
    (hbefore : world.WornCarried) : changed.WornCarried ↔ deed.strays world = false := by
  cases h with
  | take hfree howner hserves hfits h =>
    rw [wornCarried_insert_iff hnested hbefore h]
    rfl
  | drop hheld h => exact wornCarried_lay_iff hnested hbefore h
  | spend h => exact wornCarried_destroy_iff hnested hbefore h
  | put hempty hchecked h => exact wornCarried_insert_iff hnested hbefore h
  | copy hempty hchecked h => exact wornCarried_copyInto_iff hnested hbefore h
  | wear hheld =>
    obtain ⟨id, houter, -⟩ := holds_iff.mp hheld
    exact iff_of_true (wornCarried_putOn hnested hbefore (by rw [isCarried, houter]; rfl)) rfl
  | takeOff hworn => exact iff_of_true (wornCarried_takeOff hnested hbefore) rfl
  | rest h => exact iff_of_true ((h.wornCarried_iff hnested).mpr hbefore) rfl

/-! ## Actions -/

/-- When an item takes the place of another one, something worn is left behind exactly if it comes
along to a place that is not in an inventory, or was inside the item that is gone. -/
theorem wornCarried_replace_iff {outgoing incoming : ItemKey} {place : Holder} {destroyed : World}
    (hnested : world.Nested) (hbefore : world.WornCarried)
    (hplace : world.holder? outgoing = some place)
    (hdestroy : world.destroy outgoing = .ok destroyed)
    (hinsert : destroyed.insert place incoming = .ok changed) :
    changed.WornCarried ↔ (Action.replaceItem outgoing incoming).strays world = false := by
  have hbetween := (relocates_destroy hnested hdestroy).after
  have hmoved : destroyed.carriesAt (some place) = world.carriesAt (some place) := by
    rw [carriesAt, top?_destroy hnested hplace hdestroy, carriesAt]
  have hworn (key : ItemKey) : changed.isWorn key = (key != outgoing && world.isWorn key) :=
    (isWorn_insert hinsert key).trans (isWorn_destroy hdestroy key)
  have hcarried (key : ItemKey) : changed.isCarried key =
      if world.within incoming key then world.carriesAt (some place)
      else !world.within outgoing key && world.isCarried key := by
    rw [isCarried, outermost?_insert hbetween hinsert, ← hmoved,
      within_destroy_of_insert hnested hplace hdestroy hinsert,
      outermost?_destroy hnested hdestroy]
    cases world.within incoming key <;> cases world.within outgoing key <;> rfl
  simp only [Action.strays, hplace, attire_any_eq_false]
  refine forall_congr' fun key => ?_
  rw [hworn, hcarried]
  by_cases heq : key = outgoing
  · simp [heq]
  · have hinside : world.within outgoing key = world.encloses outgoing key := by
      simp [within, heq]
    rw [hinside]
    cases hkey : world.isWorn key with
    | false => simp
    | true =>
      rw [hbefore key hkey]
      cases world.within incoming key <;> simp [heq]

/-- While all that is worn is carried, nothing worn is inside an item that is nowhere. -/
theorem attire_of_nowhere (hnested : world.Nested) (hbefore : world.WornCarried) {outer : ItemKey}
    (hplace : world.holder? outer = none) : world.attire.any (world.encloses outer) = false := by
  refine attire_any_eq_false.mpr fun key hkey => Bool.eq_false_iff.mpr fun hinside => ?_
  have hbound := hbefore key hkey
  rw [isCarried, outermost?_of_encloses hnested (within_of_encloses hinside),
    outermost?_eq_top? hnested, hplace] at hbound
  cases hbound

/-- An action leaves something worn behind exactly if it is one that does so. -/
theorem Effects.wornCarried_iff {action : Action} (h : world.Effects action changed)
    (hnested : world.Nested) (hbefore : world.WornCarried) :
    changed.WornCarried ↔ action.strays world = false := by
  cases h with
  | destroy h => exact wornCarried_destroy_iff hnested hbefore h
  | move h => exact wornCarried_insert_iff hnested hbefore h
  | give hserves h =>
    rw [wornCarried_insert_iff hnested hbefore h]
    rfl
  | keep hserves => exact iff_of_true hbefore rfl
  | replace hplace hdestroy hinsert =>
    exact wornCarried_replace_iff hnested hbefore hplace hdestroy hinsert
  | @vanish outgoing incoming _ hplace h =>
    have hafter := (wornCarried_destroy_iff hnested hbefore h).mpr
      (attire_of_nowhere hnested hbefore hplace)
    exact iff_of_true hafter (by simp only [Action.strays, hplace])
  | rest hmoved h =>
    refine iff_of_true ((h.wornCarried_iff hnested).mpr hbefore) ?_
    unfold Action.strays
    cases action <;> first | rfl | cases hmoved

/-- The worlds after each of some actions that are done one after the other. -/
def applications (world : World) : List Action → List World
  | [] => []
  | action :: rest => (world.apply action).1 :: (world.apply action).1.applications rest

/-- Whether one of some actions that are done one after the other leaves something worn behind. -/
def straysAny (world : World) : List Action → Bool
  | [] => false
  | action :: rest => action.strays world || (world.apply action).1.straysAny rest

/-- Everything worn stays carried while actions are done exactly if none of them leaves something
behind, and then it is carried after them too. -/
theorem wornCarried_applyAll_iff {actions : List Action}
    (h : world.applyAll actions = .ok changed) (hnested : world.Nested)
    (hbefore : world.WornCarried) :
    ((∀ between ∈ world.applications actions, between.WornCarried) ↔
        world.straysAny actions = false) ∧
      (world.straysAny actions = false → changed.WornCarried) := by
  induction actions generalizing world with
  | nil =>
    cases h
    simp [applications, straysAny, hbefore]
  | cons action rest ih =>
    obtain ⟨between, happly, hrest⟩ := applyAll_cons h
    have hfirst := (effects_apply happly).wornCarried_iff hnested hbefore
    simp only [applications, straysAny, happly, List.forall_mem_cons, Bool.or_eq_false_iff]
    have hlater := ih hrest ((effects_apply happly).nested hnested)
    refine ⟨?_, fun ⟨hstays, hquiet⟩ => (hlater (hfirst.mpr hstays)).2 hquiet⟩
    rw [hfirst]
    exact and_congr_right fun hstays => (hlater (hfirst.mpr hstays)).1

/-- Whether an event fires or not, everything worn stays carried exactly if none of its actions
leaves something behind. -/
theorem Answers.wornCarried_iff {id? : Option EventId} (h : world.Answers id? changed)
    (hnested : world.Nested) (hbefore : world.WornCarried) :
    let actions := world.script id?
    ((∀ between ∈ world.applications actions, between.WornCarried) ↔
        world.straysAny actions = false) ∧
      (world.straysAny actions = false → changed.WornCarried) := by
  cases id? with
  | none =>
    have hsame : changed = world := h
    simp [script, applications, straysAny, hsame, hbefore]
  | some id =>
    obtain ⟨event, done, hevent, hdone, hstays⟩ := Fires.stays h
    have hscript : world.script (some id) = event.outcome.actions := by simp [script, hevent]
    obtain ⟨hiff, hlater⟩ := wornCarried_applyAll_iff hdone hnested hbefore
    simp only [hscript]
    exact ⟨hiff, fun hquiet =>
      (hstays.wornCarried_iff (nested_applyAll hdone hnested)).mpr (hlater hquiet)⟩

/-! ## Death -/

/-- Something worn is left behind by death exactly if it is inside something that is carried. -/
theorem wornCarried_mourned_iff (hsound : world.Sound) (hbefore : world.WornCarried) :
    world.mourned.WornCarried ↔ world.forsakes = false := by
  unfold mourned forsakes
  cases world.player.alive with
  | true => simpa using hbefore
  | false =>
    have hlaid := laidDown_scatter hsound.closed hsound.exclusive
    have hheld := (carried_held hsound.exclusive).2
    have hafter := world.evolves_scatter.nested hsound.nested
    simp only [Bool.false_eq_true, if_false, Bool.not_false, Bool.true_and]
    rw [(stays_modifyPlayer rfl).wornCarried_iff hafter,
      (hlaid.relocates hsound.nested hafter hheld).wornCarried_iff hlaid.isWorn hbefore]
    have hapart (outer : ItemKey) (_ : outer ∈ world.carried) (inner : ItemKey)
        (hinner : inner ∈ world.carried) : world.encloses outer inner = false := by
      obtain ⟨id, hid⟩ := hheld inner hinner
      exact encloses_of_outside hsound.nested (by simp [hid]) outer
    have hinside := any_within_of_apart hapart
    simp only [hinside]
    rfl

/-! ## Whole turns -/

/-- Whether a deed leaves something behind does not depend on the player. -/
theorem strays_modifyPlayer {f : Player → Player} (deed : Deed) :
    deed.strays (world.modifyPlayer f) = deed.strays world := by
  have hattire : (world.modifyPlayer f).attire = world.attire := rfl
  have hcarried (key : ItemKey) : (world.modifyPlayer f).isCarried key = world.isCarried key := by
    rw [isCarried, outermost?_modifyPlayer, isCarried]
  have hinside (key : ItemKey) : (world.modifyPlayer f).encloses key = world.encloses key :=
    funext (encloses_modifyPlayer key)
  have halong (key : ItemKey) : (world.modifyPlayer f).within key = world.within key :=
    funext (within_modifyPlayer key)
  unfold Deed.strays
  simp only [hattire, hcarried, hinside, halong]
  rfl

end World

namespace Turn

variable (turn : Turn) (command : Command) (args : List Arg)

/-- The worlds that a turn goes through: after its command is carried out, after each action of the
event that fires, and at its end. -/
def moments (final : World) : List World :=
  (turn.acted? command args).toList ++
    ((turn.watched? command args).map fun (watched, _) =>
      watched.world.applications (watched.world.script (turn.fires? command args))).getD [] ++
    [final]

/-- Whether something in a turn leaves something worn behind: the deed, an action of the event that
fires, or death. -/
def strays : Bool :=
  (turn.deed? command args).any (·.strays turn.world) ||
    ((turn.watched? command args).any fun (watched, _) =>
      watched.world.straysAny (watched.world.script (turn.fires? command args))) ||
    (turn.reckoned? command args).any (·.forsakes)

end Turn

variable {turn : Turn} {command : Command} {args : List Arg} {final : World}

/-- **When a turn leaves worn things behind.** All that is worn is carried at every moment of a turn
exactly if none of its steps is one that leaves something worn behind. -/
theorem Turn.Course.wornCarried_iff (h : turn.Course command args final)
    (hsound : turn.world.Sound) (hbefore : turn.world.WornCarried) :
    (∀ world ∈ turn.moments command args final, world.WornCarried) ↔
      turn.strays command args = false := by
  cases h with
  | refused pending hfinal hdeed hacted hwatched hreckoned =>
    have hstays : turn.world.Stays final := by
      rw [hfinal]
      exact World.stays_modifyPlayer rfl
    simp [moments, strays, hdeed, hacted, hwatched, hreckoned,
      (hstays.wornCarried_iff hsound.nested).mpr hbefore]
  | @completed deed acted reckoned watched hdeed hacted hwatched hreckoned hdoes hcarries hrests
      hwatches hanswers hevolves hfinal =>
    have hstarted : (turn.world.modifyPlayer (·.forget)).Sound :=
      hsound.evolves (.single (.player .forget))
    have hsoundActed := hstarted.carries hcarries
    have hsoundWatched := hsoundActed.evolves hwatches
    have hforgot : (turn.world.modifyPlayer (·.forget)).WornCarried :=
      ((World.stays_modifyPlayer rfl).wornCarried_iff hsound.nested).mpr hbefore
    have hdone := hdoes.wornCarried_iff hstarted.nested hforgot
    rw [World.strays_modifyPlayer] at hdone
    simp only [moments, strays, hdeed, hacted, hwatched, hreckoned, Option.toList_some,
      Option.map_some, Option.getD_some, Option.any_some, List.singleton_append,
      List.forall_mem_cons, List.forall_mem_append, Bool.or_eq_false_iff, and_assoc]
    rw [hdone]
    refine and_congr_right fun hdeedStays => ?_
    have hbetween : watched.1.world.WornCarried :=
      (hrests.wornCarried_iff hsoundActed.nested).mpr (hdone.mpr hdeedStays)
    obtain ⟨hiff, hlater⟩ := hanswers.wornCarried_iff hsoundWatched.nested hbetween
    rw [hiff]
    refine and_congr_right fun hquiet => ?_
    rw [hfinal, World.wornCarried_mourned_iff (hsoundWatched.evolves hevolves) (hlater hquiet)]
    simp

end Adventure
