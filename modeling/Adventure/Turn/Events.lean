import Adventure.Turn.Stage
import Adventure.World.Switching

/-!
# Firing events

After a command is carried out, the first event fires that is found by the command and its
arguments, may still fire and has all its prerequisites. Its actions are done all or not at all: if
one cannot be done, the event does not fire.
-/

namespace Adventure

namespace World

/-- How an argument is matched by events. Locations and directions take no part. -/
def matched? (world : World) : Arg → Option Match
  | .item key => (world.item? key).map fun item => .item item.dataId
  | .text text => some (.ofText text)
  | .transition transition => some (.ofText transition.word)
  | .location _ => none
  | .direction _ => none

/-- What events for a command with these arguments are found by. -/
def eventKey (world : World) (command : CommandId) (args : List Arg) : EventKey :=
  ⟨command, args.filterMap world.matched?⟩

/-- Whether a prerequisite holds. -/
def meets (world : World) : Prerequisite → Bool
  | .itemIn item holder => world.isIn holder item
  | .itemHeld item => world.holds item
  | .playerAt location => world.player.location == location
  | .eventFired event => (world.event? event).any (·.fired)
  | .eventNotFired event => (world.event? event).all (!·.fired)

/-- Whether an event would fire now. -/
def isReady (world : World) (event : Event) : Bool :=
  event.isArmed && event.prerequisites.all world.meets

/-- The event that would fire now for a key. -/
def readyEvent? (world : World) (key : EventKey) : Option EventId :=
  (world.eventsFor key).find? fun id => (world.event? id).any world.isReady

/-- Do one action. An item may have been destroyed before another is refused in its place. -/
def apply (world : World) : Action → World × Except WorldError Unit
  | .destroyItem item => world.tryDestroy item
  | .moveItem item holder => world.tryInsert holder item
  | .giveItem item =>
    match world.currentInventory? with
    | some inventory => world.tryInsert (.inventory inventory) item
    | none => (world, .ok ())
  | .replaceItem outgoing incoming =>
    match world.tryDestroy outgoing with
    | (destroyed, .error refusal) => (destroyed, .error refusal)
    | (destroyed, .ok ()) =>
      match world.holder? outgoing with
      | some holder => destroyed.tryInsert holder incoming
      | none => (destroyed, .ok ())
  | .setPlayerAttribute flag on =>
    (world.modifyPlayer fun p => { p with attributes := p.attributes.assign flag on }, .ok ())
  | .setLocationAttribute location flag on =>
    match world.location? location with
    | some _ => (world.setTarget on (.location location flag), .ok ())
    | none => (world, .error (.locationNotFound location))
  | .setItemAttribute item flag on =>
    match world.item? item with
    | some _ => (world.setTarget on (.item item flag), .ok ())
    | none => (world, .error (.itemNotFound item))
  | .linkDirection location direction destination =>
    world.attempt (world.relink location direction destination)
  | .describeLocation location extension =>
    match world.location? location with
    | some _ =>
      (world.modifyLocation location fun l => { l with labels := { l.labels with extension } },
        .ok ())
    | none => (world, .error (.locationNotFound location))
  | .movePlayer location =>
    match world.location? location with
    | some _ => (world.modifyPlayer (·.moveTo location), .ok ())
    | none => (world, .error (.locationNotFound location))

/-- Do actions one after the other, up to the first that is refused. -/
def applyEach (world : World) : List Action → World × Except WorldError Unit
  | [] => (world, .ok ())
  | action :: rest =>
    match world.apply action with
    | (changed, .error refusal) => (changed, .error refusal)
    | (changed, .ok ()) => changed.applyEach rest

/-- Do actions one after the other, or none of them if one is refused. They are done to a copy of
the world, which takes its place if all are done. -/
def tryApplyAll (world : World) (actions : List Action) : World × Except WorldError Unit :=
  match world.applyEach actions with
  | (changed, .ok ()) => (changed, .ok ())
  | (_, .error refusal) => (world, .error refusal)

/-- The world after all of some actions. -/
def applyAll (world : World) (actions : List Action) : Except WorldError World :=
  (accepted (world.tryApplyAll actions)).map Prod.fst

/-- Award points. -/
def award (world : World) (score : Nat) : World :=
  world.modifyPlayer fun p => { p with score := Count.add p.score score }

/-- Note that an event has fired. -/
def markFired (world : World) (id : EventId) : World :=
  world.modifyEvent id fun e => { e with fired := true }

end World

namespace Stage

/-- Fire the event that is ready, if there is one and its actions can be done. -/
def events : Stage := fun turn command args =>
  let world := turn.world
  match world.readyEvent? (world.eventKey command.id args) with
  | none => (turn, .silent args)
  | some id =>
    match world.event? id with
    | none => (turn, .silent args)
    | some event =>
      match world.tryApplyAll event.outcome.actions with
      | (left, .error _) => (turn.withWorld left, .silent args)
      | (changed, .ok ()) =>
        let fired := (changed.award event.outcome.score).markFired id
        let dies := event.attributes.has EventFlags.killsPlayer && !fired.player.isImmune
        let final := if dies then fired.modifyPlayer (·.die) else fired
        let told := dies && !event.outcome.text.isEmpty
        let turn := { turn with world := final, deathNarrated := turn.deathNarrated || told }
        if event.outcome.text.isEmpty then (turn, .silent args)
        else
          let report := Report.say event.outcome.text (args.map final.argText) args
          (turn, { report with overrides := true })

end Stage

end Adventure
