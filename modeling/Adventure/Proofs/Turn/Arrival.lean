import Adventure.Proofs.Session.Reached
import Adventure.Proofs.Turn.Course

/-!
# Arriving somewhere

Walking and jumping end alike: the player is somewhere else and has either met with a mishap, of
which one dies, or is told of the place. Whether there is a mishap can be foreseen from the world
that is left. The light is reported on every arrival but the fatal ones; there a later report of
the light still takes place, and it compares the light there with the light that was left behind.
-/

namespace Adventure

/-- What befalls a player who arrives where one cannot be. -/
inductive Mishap
  | drowning
  | fall
  deriving DecidableEq

namespace Mishap

/-- The key of the response that tells it. -/
def responseKey : Mishap → String
  | drowning => "death_drowning"
  | fall => "death_darkness"

end Mishap

namespace World

/-- The world with the player moved somewhere. -/
def movedTo (world : World) (destination : LocationId) : World :=
  world.modifyPlayer (·.moveTo destination)

/-- The mishap that befalls a player who arrives somewhere, if there is one. Without air one drowns.
With air but without light one falls, unless an exit leads straight back. -/
def mishap? (world : World) (destination : LocationId) : Option Mishap :=
  let there := world.movedTo destination
  let leadsBack := (there.location? destination).any (·.hasExitTo world.player.location)
  if there.player.isImmune then none
  else if !there.hasAirAt destination then some .drowning
  else if there.canSee || leadsBack then none
  else some .fall

/-- Only those who are not immune meet with a mishap. -/
theorem not_immune_of_mishap {world : World} {mishap : Mishap} {destination : LocationId}
    (h : world.mishap? destination = some mishap) : world.player.isImmune = false := by
  have himmune : (world.movedTo destination).player.isImmune = world.player.isImmune := rfl
  unfold mishap? at h
  dsimp only at h
  rw [himmune] at h
  split at h
  · cases h
  · rename_i hmortal
    exact Bool.eq_false_iff.mpr hmortal

variable (world : World)

/-- Dying changes nothing of the light. -/
theorem canSee_die : (world.modifyPlayer (·.die)).canSee = world.canSee := by
  rcases world.player.die_cases with hsame | hdead
  · rw [modifyPlayer, hsame]
  · rw [modifyPlayer, hdead]
    rfl

/-- Looking around changes nothing of the light. -/
theorem canSee_lookAround (full : Bool) : (world.lookAround full).1.canSee = world.canSee := by
  have hrests := world.rests_lookAround full
  have hcarried (place : LocationId) :
      (world.lookAround full).1.carriedAt place = world.carriedAt place := by
    unfold carriedAt
    rw [inventoryAt?_of_setting hrests.setting]
    split
    · exact hrests.contents _
    · rfl
  have hplayer : (world.lookAround full).1.player = world.player := by
    unfold lookAround
    dsimp only
    split <;> rfl
  have hgives : (world.lookAround full).1.givesLight = world.givesLight := by
    unfold lookAround
    dsimp only
    split <;> rfl
  have hlit (place : LocationId) : ((world.lookAround full).1.location? place).any (·.givesLight) =
      (world.location? place).any (·.givesLight) := by
    unfold lookAround
    dsimp only
    split
    · rw [location?_modifyLocation]
      split
      · rename_i hplace
        rw [hplace, Option.any_map]
        rfl
      · rfl
    · rfl
  unfold canSee canSeeAt
  rw [hplayer, hlit, hcarried, hrests.contents, hgives]

end World

namespace Turn

variable (turn : Turn) (destination : LocationId) (args : List Arg)

/-- The turn of a player who has died of arriving somewhere. -/
def perished : Turn :=
  { turn with
    world := (turn.world.movedTo destination).modifyPlayer (·.die)
    deathNarrated := true }

/-- The turn of a player who has arrived somewhere safely, and what is told then: the place if there
is light, and the darkness if not. -/
def arrived : Turn × Report :=
  let there := turn.world.movedTo destination
  let full := there.player.isVerbose || (there.location? destination).any (!·.visited)
  if there.canSee then
    ({ turn with world := (there.lookAround full).1, couldSee := true },
      .tell (there.lookAround full).2 args)
  else ({ turn with world := there, couldSee := false }, turn.say "describe_dark" [] args)

/-- Arriving is safe unless there is a mishap, of which the player dies and is told. -/
theorem arrive_eq : turn.arrive destination args =
    match turn.world.mishap? destination with
    | some mishap => (turn.perished destination, turn.say mishap.responseKey [] args)
    | none => turn.arrived destination args := by
  have hmoved : (turn.modifyPlayer (·.moveTo destination)).world =
      turn.world.movedTo destination := rfl
  unfold arrive World.mishap?
  dsimp only
  rw [hmoved]
  cases himmune : (turn.world.movedTo destination).player.isImmune with
  | true =>
    simp only [Bool.not_true, Bool.and_false, Bool.false_eq_true, if_false, if_true]
    rfl
  | false =>
    cases hair : (turn.world.movedTo destination).hasAirAt destination with
    | false => rfl
    | true =>
      unfold arrived
      dsimp only
      cases hlight : (turn.world.movedTo destination).canSee with
      | true => rfl
      | false =>
        cases hback : ((turn.world.movedTo destination).location? destination).any
          (·.hasExitTo turn.world.player.location) <;> rfl

/-- On every safe arrival the light is reported as it is. -/
theorem sees_arrived :
    (turn.arrived destination args).1.couldSee = (turn.world.movedTo destination).canSee ∧
      (turn.arrived destination args).1.world.canSee =
        (turn.world.movedTo destination).canSee := by
  unfold arrived
  dsimp only
  split
  · rename_i hlight
    exact ⟨hlight.symm, by rw [World.canSee_lookAround]⟩
  · rename_i hdark
    exact ⟨(Bool.eq_false_iff.mpr hdark).symm, rfl⟩

/-- A fatal arrival leaves it noted of the light what was noted before. -/
theorem sees_perished : (turn.perished destination).couldSee = turn.couldSee ∧
    (turn.perished destination).world.canSee = (turn.world.movedTo destination).canSee :=
  ⟨rfl, World.canSee_die _⟩

/-- However an arrival ends, the arguments are handed on. -/
theorem next_arrive : (turn.arrive destination args).2.next = args := by
  rw [arrive_eq]
  split
  · rfl
  · unfold arrived
    dsimp only
    split <;> rfl

end Turn

/-! ## Before the arrival -/

/-- Whether a handler moves the player. -/
def Handler.moves : Handler → Bool
  | go | teleport => true
  | _ => false

section Moving

variable {turn : Turn} (command : Command) {args : List Arg}

/-- A handler that moves the player and is not refused lets the player arrive where its first
argument says. -/
theorem Handler.arrives {handler : Handler} (hmoves : handler.moves = true)
    (hsuccess : (handler.stage turn command args).2.success = true) :
    ∃ destination, args.head?.bind (·.location?) = some destination ∧
      handler.stage turn command args = turn.arrive destination args := by
  have hnot {report : Report} (hrefused : report.success = false)
      (hstage : handler.stage turn command args = (turn, report)) : False := by
    rw [hstage] at hsuccess
    exact Bool.noConfusion (hrefused.symm.trans hsuccess)
  cases handler <;> cases hmoves
  case go =>
    exact (Stage.go_outcome command).resolve_left fun ⟨_, hrefused, hstage⟩ => hnot hrefused hstage
  case teleport =>
    exact (Stage.teleport_outcome command).resolve_left fun ⟨_, hrefused, hstage⟩ =>
      hnot hrefused hstage

end Moving

namespace Turn

/-- The turn with another command that waits, or none, and with other words left. -/
def left (turn : Turn) (pending : Pending) (tokens : List String) : Turn :=
  { turn with world := turn.world.modifyPlayer fun p => { p with pending }, tokens }

variable (turn : Turn) (command : Command) (args : List Arg)

theorem exists_left_resolveSlots :
    ∃ pending tokens, (turn.resolveSlots command args).1 = turn.left pending tokens := by
  unfold resolveSlots
  dsimp only
  split <;> exact ⟨_, _, rfl⟩

/-- Finding arguments leaves a turn as it is, but for the command that waits and the words that are
left. -/
theorem exists_left_resolverOf :
    ∃ pending tokens,
      (Stage.resolverOf command turn command args).1 = turn.left pending tokens := by
  obtain ⟨pending, tokens, hslots⟩ := turn.exists_left_resolveSlots command args
  unfold Stage.resolverOf
  split_ifs
  · unfold Stage.resolveMovement
    dsimp only
    split
    · exact ⟨.idle, turn.tokens, rfl⟩
    · split <;> exact ⟨.idle, turn.tokens, rfl⟩
  · unfold Stage.resolveTeleport
    dsimp only
    split <;> exact ⟨.idle, turn.tokens, rfl⟩
  · unfold Stage.resolveSwitchable
    dsimp only
    split
    · exact ⟨.idle, turn.tokens, rfl⟩
    · split
      · exact ⟨.idle, turn.tokens, rfl⟩
      · split <;> exact ⟨.idle, turn.tokens, rfl⟩
  · unfold Stage.resolveSwitching
    dsimp only
    refine ⟨pending, tokens, ?_⟩
    split
    · rename_i heq
      rw [heq] at hslots
      exact hslots
    · rename_i heq
      rw [heq] at hslots
      split
      · exact hslots
      · split
        · exact hslots
        · split
          · exact hslots
          · split <;> exact hslots
  · unfold Stage.resolvePlain
    dsimp only
    refine ⟨pending, tokens, ?_⟩
    split
    · rename_i heq
      rw [heq] at hslots
      exact hslots
    · rename_i heq
      rw [heq] at hslots
      exact hslots

variable {turn command args} {passed : Turn} {next : List Arg}

/-- The stages before the handler do no more either. -/
theorem exists_left_of_prepared (h : turn.prepared? command args = some (passed, next)) :
    ∃ pending tokens, passed = turn.left pending tokens := by
  have hresolves (h : passStages? command [Stage.resolverOf command] turn args =
      some (passed, next)) : ∃ pending tokens, passed = turn.left pending tokens := by
    simp only [passStages?] at h
    split at h
    · cases h
      exact turn.exists_left_resolverOf command args
    · cases h
  unfold prepared? Command.preparing at h
  split at h
  · rw [List.singleton_append, passStages?] at h
    by_cases hsees : turn.world.canSee = true
    · have hguard : Stage.requireVision turn command args = (turn, .silent args) := if_pos hsees
      rw [hguard] at h
      exact hresolves h
    · have hguard : Stage.requireVision turn command args =
          (turn, turn.refuse "reject_too_dark" []) := if_neg hsees
      rw [hguard] at h
      cases h
  · exact hresolves h

end Turn

/-! ## Light after an arrival -/

namespace Stage

variable {turn : Turn} (command : Command) (args : List Arg)

theorem postVision_of_eq (h : turn.couldSee = turn.world.canSee) :
    postVision turn command args = (turn, .silent args) := if_pos h.symm

theorem postVision_of_ne (h : turn.couldSee ≠ turn.world.canSee) :
    postVision turn command args =
      ({ turn with
          world := (turn.world.lookAround true).1
          couldSee := turn.world.canSee },
        .tell (turn.world.surroundings true) args) := if_neg (Ne.symm h)

end Stage

namespace Turn

/-- **Arriving reports the light, unless the player dies of it.** After a safe arrival it is noted
truly whether the player sees, and nothing is left to report. After a fatal one it is noted still
whether the player could see before; if that is not so any longer, the surroundings or the darkness
are described after the death was told. Every handler that moves the player ends with an arrival
unless it is refused. And where the arrival is, whether it is fatal and what is noted of the light
can be told as the turn begins, since what comes before the handler is of no matter to it. -/
theorem arrive_reports_light_iff (turn : Turn) (command : Command) :
    (∀ destination args,
      let there := turn.world.movedTo destination
      let (arrived, report) := turn.arrive destination args
      (arrived.couldSee = arrived.world.canSee ↔
        ((turn.world.mishap? destination).isSome = true → turn.couldSee = there.canSee)) ∧
      (arrived.couldSee = arrived.world.canSee →
        Stage.postVision arrived command report.next = (arrived, .silent args)) ∧
      ∀ mishap, turn.world.mishap? destination = some mishap →
        arrived = turn.perished destination ∧ report = turn.say mishap.responseKey [] args ∧
          (turn.couldSee ≠ there.canSee →
            (Stage.postVision arrived command report.next).2 =
              .tell (arrived.world.surroundings true) args)) ∧
    (∀ (handler : Handler) args, handler.moves = true →
      (handler.stage turn command args).2.success = true →
        ∃ destination, args.head?.bind (·.location?) = some destination ∧
          handler.stage turn command args = turn.arrive destination args) ∧
    ∀ args passed next, turn.prepared? command args = some (passed, next) →
      passed.couldSee = turn.couldSee ∧ ∀ destination,
        passed.world.mishap? destination = turn.world.mishap? destination ∧
          (passed.world.movedTo destination).canSee =
            (turn.world.movedTo destination).canSee := by
  refine ⟨fun destination args => ?_, fun handler args hmoves hsuccess =>
    handler.arrives command hmoves hsuccess, fun args passed next hprepared => ?_⟩
  · dsimp only
    rw [turn.next_arrive destination args, arrive_eq]
    cases hmishap : turn.world.mishap? destination with
    | none =>
      obtain ⟨hnoted, hlight⟩ := turn.sees_arrived destination args
      have htrue := hnoted.trans hlight.symm
      refine ⟨iff_of_true htrue fun h => Bool.noConfusion h, fun _ => ?_, fun _ h => nomatch h⟩
      exact Stage.postVision_of_eq command args htrue
    | some mishap =>
      obtain ⟨hnoted, hlight⟩ := turn.sees_perished destination
      dsimp only
      rw [hlight, hnoted]
      refine ⟨⟨fun hsame _ => hsame, fun h => h rfl⟩, fun hsame => ?_, ?_⟩
      · exact Stage.postVision_of_eq command args (hnoted.trans (hsame.trans hlight.symm))
      · rintro _ ⟨⟩
        refine ⟨rfl, rfl, fun hdiffers => ?_⟩
        have hstale : (turn.perished destination).couldSee ≠
            (turn.perished destination).world.canSee := by
          rw [hlight]
          exact hdiffers
        rw [Stage.postVision_of_ne command args hstale]
  · obtain ⟨pending, tokens, rfl⟩ := exists_left_of_prepared hprepared
    exact ⟨rfl, fun destination => ⟨rfl, rfl⟩⟩

/-- The player leaves the lit hall for the dark cellar and falls; that it is dark there is reported
after the death. Somebody who walks around in the hall has nothing reported. -/
theorem arrive_reports_light_iff_cellar :
    let turn := (Session.cellar.play ["pull lever"]).countedTurn "down" []
    let down : Command :=
      { id := ⟨2⟩, name := "down", handler := "go",
        attributes := CommandFlags.movement.set CommandFlags.postVision }
    let way := [Arg.location ⟨2⟩, .direction .down]
    let fallen := turn.arrive ⟨2⟩ way
    let strolled := turn.arrive ⟨1⟩ []
    turn.world.mishap? ⟨2⟩ = some .fall ∧ fallen.1 = turn.perished ⟨2⟩ ∧
      fallen.2 = turn.say "death_darkness" [] way ∧ fallen.1.couldSee ≠ fallen.1.world.canSee ∧
      (Stage.postVision fallen.1 down fallen.2.next).2 = .tell "It is pitch dark." way ∧
      turn.world.mishap? ⟨1⟩ = none ∧
      Stage.postVision strolled.1 down strolled.2.next = (strolled.1, .silent []) ∧
      (Handler.go.stage turn down way).2.success = true ∧
      (∃ destination, way.head?.bind (·.location?) = some destination ∧
        Handler.go.stage turn down way = turn.arrive destination way) ∧
      ∃ passed next, turn.prepared? down [] = some (passed, next) ∧
        passed.couldSee = turn.couldSee ∧ passed.world.mishap? ⟨2⟩ = turn.world.mishap? ⟨2⟩ := by
  intro turn down way fallen strolled
  obtain ⟨harrives, hhandlers, hprepares⟩ := arrive_reports_light_iff turn down
  have hfall : turn.world.mishap? ⟨2⟩ = some .fall := by decide +kernel
  have hsafe : turn.world.mishap? ⟨1⟩ = none := by decide +kernel
  have hdiffers : turn.couldSee ≠ (turn.world.movedTo ⟨2⟩).canSee := by decide +kernel
  obtain ⟨hlight, -, htells⟩ := harrives ⟨2⟩ way
  obtain ⟨hfallen, htold, hreports⟩ := htells .fall hfall
  have hdark : fallen.1.world.surroundings true = "It is pitch dark." := by decide +kernel
  obtain ⟨hnoted, hsilent, -⟩ := harrives ⟨1⟩ []
  have hgoes : (Handler.go.stage turn down way).2.success = true := by decide +kernel
  have hready : (turn.prepared? down []).isSome = true := by decide +kernel
  obtain ⟨⟨passed, next⟩, hprepared⟩ := Option.isSome_iff_exists.mp hready
  obtain ⟨hsees, hforeseen⟩ := hprepares [] passed next hprepared
  refine ⟨hfall, hfallen, htold, fun hsame => ?_, hdark ▸ hreports hdiffers, hsafe,
    hsilent (hnoted.mpr fun h => ?_), hgoes, hhandlers .go way rfl hgoes,
    passed, next, hprepared, hsees, (hforeseen ⟨2⟩).1⟩
  · exact hdiffers (hlight.mp hsame (by rw [hfall]; rfl))
  · rw [hsafe] at h
    cases h

end Turn

end Adventure
