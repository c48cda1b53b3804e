import Adventure.Proofs.Loading.Accounts
import Adventure.Proofs.Loading.Parts

/-!
# What declarations come to

A declaration names things by their numbers; what it means follows once the items are known by
their keys. Each part that is built is compared here with what was declared: it is what is meant, or
an error is noted.
-/

namespace Adventure

open Loading

/-! ## What is meant -/

section Meanings

variable (items : DataId → Option ItemKey)

/-- The holder that is meant. -/
def HolderDecl.resolve : HolderDecl → Option Holder
  | location id => some (.location id)
  | item id => (items id).map .item
  | inventory id => some (.inventory id)

/-- The prerequisite that is meant. -/
def PrerequisiteDecl.resolve : PrerequisiteDecl → Option Prerequisite
  | itemIn item holder =>
    (items item).bind fun key => (holder.resolve items).map (.itemIn key)
  | itemHeld item => (items item).map .itemHeld
  | playerAt location => some (.playerAt location)
  | eventFired event => some (.eventFired event)
  | eventNotFired event => some (.eventNotFired event)

/-- The action that is meant. -/
def ActionDecl.resolve : ActionDecl → Option Action
  | destroyItem item => (items item).map .destroyItem
  | moveItem item holder => (items item).bind fun key => (holder.resolve items).map (.moveItem key)
  | giveItem item => (items item).map .giveItem
  | replaceItem outgoing incoming =>
    (items outgoing).bind fun key => (items incoming).map (.replaceItem key)
  | setPlayerAttribute text on =>
    (Flags.parse text).toOption.map fun flag => .setPlayerAttribute flag on
  | setLocationAttribute location text on =>
    (Flags.parse text).toOption.map fun flag => .setLocationAttribute location flag on
  | setItemAttribute item text on =>
    (Flags.parse text).toOption.bind fun flag =>
      (items item).map fun key => .setItemAttribute key flag on
  | linkDirection location word destination =>
    (Direction.parse? word).map fun direction => .linkDirection location direction destination
  | describeLocation location extension => some (.describeLocation location extension)
  | movePlayer location => some (.movePlayer location)

/-- What is meant to be asked of an argument. -/
def MatchDecl.meaning : MatchDecl → Match
  | .text word => .ofText word
  | .item id => .item id

/-- An event has all that is declared of it, in order. -/
structure EventDecl.IsCarriedBy (declared : EventDecl) (event : Event) : Prop where
  /-- It answers the command. -/
  command : event.command = declared.command
  /-- It asks of its arguments what is declared. -/
  pattern : event.pattern = declared.pattern.map MatchDecl.meaning
  /-- It has all prerequisites. -/
  prerequisites : event.prerequisites.map some = declared.prerequisites.map (·.resolve items)
  /-- It has all actions. -/
  actions : event.outcome.actions.map some = declared.actions.map (·.resolve items)

end Meanings

/-- Where the last of some links in a direction leads. -/
def Direction.lastLink (links : List (String × LocationId)) (direction : Direction) :
    Option LocationId :=
  (links.reverse.find? fun link => Direction.parse? link.1 == some direction).map Prod.snd

/-- Where the last of the words for a direction leads. -/
def LocationDecl.exit? (declared : LocationDecl) (direction : Direction) : Option LocationId :=
  direction.lastLink declared.directions.entries

/-- Where the last of some ways from a location leads. -/
def TeleportDecl.lastWay (ways : List TeleportDecl) (origin : LocationId) : Option LocationId :=
  (ways.reverse.find? (·.origin == origin)).map (·.destination)

/-- Where the last of the ways of a command from a location leads. -/
def CommandDecl.way? (declared : CommandDecl) (origin : LocationId) : Option LocationId :=
  TeleportDecl.lastWay declared.teleport origin

theorem Direction.lastLink_append (links : List (String × LocationId)) (link : String × LocationId)
    (direction : Direction) : direction.lastLink (links ++ [link]) =
      if Direction.parse? link.1 = some direction then some link.2
      else direction.lastLink links := by
  rw [lastLink, Table.find?_reverse_concat, lastLink]
  by_cases heq : Direction.parse? link.1 = some direction <;> simp [heq]

theorem TeleportDecl.lastWay_append (ways : List TeleportDecl) (way : TeleportDecl)
    (origin : LocationId) : lastWay (ways ++ [way]) origin =
      if way.origin = origin then some way.destination else lastWay ways origin := by
  rw [lastWay, Table.find?_reverse_concat, lastWay]
  by_cases heq : way.origin = origin <;> simp [heq]

/-! ## Texts and references -/

theorem Loading.tells_flags {bearer : Bearer} (text entity : String) :
    Tells (flags text entity : Loading (Flags bearer)) fun added found =>
      added = [] ∧ Flags.parse text = .ok found := by
  unfold flags
  cases hparse : Flags.parse text with
  | ok found => exact .pure ⟨rfl, rfl⟩
  | error cause => exact .throw _

theorem Loading.tells_direction (word : String) (location : LocationId) :
    Tells (direction word location) fun added found =>
      added = [] ∧ Direction.parse? word = some found := by
  unfold direction
  cases hparse : Direction.parse? word with
  | some found => exact .pure ⟨rfl, rfl⟩
  | none => exact .throw _

namespace Directory

variable (directory : Directory)

theorem answers_locationRef (id : LocationId) (context : String) :
    Answers (directory.locationRef id context) (some id) := by
  unfold locationRef
  split
  · exact .found id
  · exact .error _

theorem answers_itemRef (id : DataId) (context : String) :
    Answers (directory.itemRef id context) (directory.itemKey? id) := by
  unfold itemRef
  split
  · rename_i key hkey
    rw [hkey]
    exact .found key
  · exact .error _

theorem answers_inventoryRef (id : InventoryId) (context : String) :
    Answers (directory.inventoryRef id context) (some id) := by
  unfold inventoryRef
  split
  · exact .found id
  · exact .error _

theorem answers_holderRef (holder : HolderDecl) (context : String) :
    Answers (directory.holderRef holder context) (holder.resolve directory.itemKey?) := by
  unfold holderRef
  cases holder with
  | location id => exact (directory.answers_locationRef id context).map
  | item id => exact (directory.answers_itemRef id context).map
  | inventory id => exact (directory.answers_inventoryRef id context).map

theorem answers_eventRef (id : EventId) (context : String) :
    Answers (directory.eventRef id context) (some id) := by
  unfold eventRef
  split
  · exact .found id
  · exact .error _

/-! ## Prerequisites and actions -/

theorem answers_buildPrerequisite (event : EventId) (declared : PrerequisiteDecl) :
    Answers (directory.buildPrerequisite event declared)
      (declared.resolve directory.itemKey?) := by
  unfold buildPrerequisite
  cases declared with
  | itemIn item holder =>
    refine (directory.answers_itemRef item _).bind (fun key hkey => ?_) fun found? => ?_
    · simp only [PrerequisiteDecl.resolve, hkey, Option.bind_some]
      exact (directory.answers_holderRef holder _).map
    · cases found? with
      | none => exact .pure trivial
      | some key => exact (directory.answers_holderRef holder _).map.mono fun _ _ _ => trivial
  | itemHeld item => exact (directory.answers_itemRef item _).map
  | playerAt location => exact (directory.answers_locationRef location _).map
  | eventFired other => exact (directory.answers_eventRef other _).map
  | eventNotFired other => exact (directory.answers_eventRef other _).map

theorem answers_buildDescription (event : EventId) (location : LocationId)
    (extension : Option Nat) : Answers (directory.buildDescription event location extension)
      (some (.describeLocation location extension)) := by
  unfold buildDescription
  cases extension with
  | none => exact .found _
  | some index =>
    simp only []
    split
    · exact .found _
    · exact .error _

theorem answers_buildAction (event : EventId) (declared : ActionDecl) :
    Answers (directory.buildAction event declared) (declared.resolve directory.itemKey?) := by
  unfold buildAction
  cases declared with
  | destroyItem item => exact (directory.answers_itemRef item _).map
  | moveItem item holder =>
    exact (directory.answers_itemRef item _).both (directory.answers_holderRef holder _)
  | giveItem item => exact (directory.answers_itemRef item _).map
  | replaceItem outgoing incoming =>
    exact (directory.answers_itemRef outgoing _).both (directory.answers_itemRef incoming _)
  | setPlayerAttribute text on =>
    refine .after (tells_flags text _) fun flag hflag => ?_
    simp only [ActionDecl.resolve, hflag]
    exact .found _
  | setLocationAttribute location text on =>
    refine .after (tells_flags text _) fun flag hflag => ?_
    simp only [ActionDecl.resolve, hflag]
    exact (directory.answers_locationRef location _).map
  | setItemAttribute item text on =>
    refine .after (tells_flags text _) fun flag hflag => ?_
    simp only [ActionDecl.resolve, hflag]
    exact (directory.answers_itemRef item _).map
  | linkDirection location word destination =>
    refine .after (tells_direction word location) fun direction hdirection => ?_
    simp only [ActionDecl.resolve, hdirection, Option.map_some]
    cases destination with
    | none => exact (directory.answers_locationRef location _).map
    | some destination =>
      exact (directory.answers_locationRef location _).both
        (directory.answers_locationRef destination _)
  | describeLocation location extension =>
    refine (directory.answers_locationRef location _).bind (fun place hplace => ?_) fun found? => ?_
    · cases hplace
      exact directory.answers_buildDescription event location extension
    · cases found? with
      | none => exact .pure trivial
      | some place =>
        exact (directory.answers_buildDescription event place extension).mono fun _ _ _ => trivial
  | movePlayer location => exact (directory.answers_locationRef location _).map

end Directory

/-! ## Events that are named -/

/-- The event that a prerequisite names. -/
def Prerequisite.event? : Prerequisite → Option EventId
  | eventFired event | eventNotFired event => some event
  | _ => none

/-- The event that a declared prerequisite names. -/
def PrerequisiteDecl.event? : PrerequisiteDecl → Option EventId
  | eventFired event | eventNotFired event => some event
  | _ => none

/-- The events that the prerequisites of an event name. -/
def Event.named (event : Event) : List EventId := event.prerequisites.filterMap (·.event?)

/-- The events that the prerequisites of a declared event name. -/
def EventDecl.named (declared : EventDecl) : List EventId :=
  declared.prerequisites.filterMap (·.event?)

namespace Directory

variable (directory : Directory)

/-- What is said of an event that names one that is not declared. -/
def unknownEvent (id other : EventId) : Diagnostic :=
  .error s!"event {id} refers to unknown event {other}"

/-- The first item that is asked for and not declared. -/
def unknownItem? : List MatchDecl → Option DataId
  | [] => none
  | .text _ :: rest => unknownItem? rest
  | .item id :: rest => if directory.items.contains id then unknownItem? rest else some id

/-- What is said of an event that is dropped, since its command is not declared or an item that it
asks for is not. -/
def eventFault? (id : EventId) (declared : EventDecl) : Option Diagnostic :=
  if !directory.commands.contains declared.command then
    some (.error s!"event {id} refers to unknown command {declared.command}; event dropped")
  else
    (directory.unknownItem? declared.pattern).map fun item =>
      .error s!"event {id} matches unknown item {item}; event dropped"

/-- Events are dropped with errors. -/
theorem isError_eventFault? {id : EventId} {declared : EventDecl} {fault : Diagnostic}
    (h : directory.eventFault? id declared = some fault) : fault.isError = true := by
  unfold eventFault? at h
  split at h
  · cases h
    rfl
  · obtain ⟨item, -, rfl⟩ := Option.map_eq_some_iff.mp h
    rfl

/-- A reference to an event stands if the event is declared, and is told otherwise. -/
theorem tells_eventRef (id other : EventId) :
    Tells (directory.eventRef other s!"event {id}") fun added found? =>
      found? = (some other).filter (directory.events.contains ·) ∧
        (directory.events.contains other = false → unknownEvent id other ∈ added) := by
  unfold eventRef
  cases hdeclared : directory.events.contains other with
  | true =>
    rw [if_pos rfl]
    refine .pure ⟨?_, Bool.noConfusion⟩
    rw [Option.filter_some, if_pos hdeclared]
  | false =>
    rw [if_neg Bool.false_ne_true, Option.filter_some, if_neg (by simp [hdeclared])]
    have hwords : " refers to unknown event " = " refers to unknown " ++ ("event" ++ " ") := rfl
    refine .noting ⟨rfl, fun _ => List.mem_singleton.mpr ?_⟩
    simp only [unknownEvent, hwords, String.append_assoc, toString]

/-- The event that a prerequisite names is the declared one, or is told to be unknown. -/
theorem tells_event? (id : EventId) (declared : PrerequisiteDecl) :
    Tells (directory.buildPrerequisite id declared) fun added found? =>
      found?.bind (·.event?) = declared.event?.filter (directory.events.contains ·) ∧
        ∀ other ∈ declared.event?, directory.events.contains other = false →
          unknownEvent id other ∈ added := by
  have hnone {α : Type} {step : Loading (Option α)} {meant : Option α} (f : α → Prerequisite)
      (hstep : Answers step meant) (hf : ∀ a, (f a).event? = none) :
      Tells (do return (← step).map f) fun added found? =>
        found?.bind (·.event?) = (none : Option EventId).filter (directory.events.contains ·) ∧
          ∀ other ∈ (none : Option EventId), directory.events.contains other = false →
            unknownEvent id other ∈ added :=
    Tells.map hstep fun added found? _ => ⟨by cases found? <;> simp [hf], by rintro _ ⟨⟩⟩
  have hevent (other : EventId) (f : EventId → Prerequisite)
      (hf : ∀ event, (f event).event? = some event) :
      Tells (do return (← directory.eventRef other s!"event {id}").map f) fun added found? =>
        found?.bind (·.event?) = (some other).filter (directory.events.contains ·) ∧
          ∀ named ∈ some other, directory.events.contains named = false →
            unknownEvent id named ∈ added := by
    refine Tells.map (directory.tells_eventRef id other) ?_
    rintro added found? ⟨rfl, hunknown⟩
    refine ⟨?_, ?_⟩
    · cases (some other).filter (directory.events.contains ·) <;> simp [hf]
    · rintro _ ⟨⟩
      exact hunknown
  unfold buildPrerequisite
  cases declared with
  | itemIn item holder =>
    refine Tells.bind (directory.answers_itemRef item _) fun added found? _ => ?_
    cases found? with
    | none => exact .pure ⟨rfl, by rintro _ ⟨⟩⟩
    | some key =>
      refine (hnone _ (directory.answers_holderRef holder _) fun _ => rfl).mono ?_
      exact fun more found? hfound => ⟨hfound.1, by rintro _ ⟨⟩⟩
  | itemHeld item => exact hnone _ (directory.answers_itemRef item _) fun _ => rfl
  | playerAt location => exact hnone _ (directory.answers_locationRef location _) fun _ => rfl
  | eventFired other => exact hevent other _ fun _ => rfl
  | eventNotFired other => exact hevent other _ fun _ => rfl

/-- The prerequisites that are kept name the declared ones of the events that were named, and of the
others it is told that they are unknown. -/
theorem tells_named (id : EventId) (declared : List PrerequisiteDecl) :
    Tells (declared.filterMapM (directory.buildPrerequisite id)) fun added kept =>
      kept.filterMap (·.event?) =
          (declared.filterMap (·.event?)).filter (directory.events.contains ·) ∧
        ∀ other ∈ declared.filterMap (·.event?), directory.events.contains other = false →
          unknownEvent id other ∈ added := by
  refine (Tells.filterMapM fun entry _ => directory.tells_event? id entry).mono ?_
  rintro added kept ⟨found, rfl, hfound⟩
  induction hfound with
  | nil => exact ⟨rfl, by rintro _ ⟨⟩⟩
  | @cons entry found? entries found hfirst _ ih =>
    obtain ⟨part, hpart, hevent, hunknown⟩ := hfirst
    obtain ⟨hkept, hrest⟩ := ih
    have hsplit : (List.reduceOption (found? :: found)).filterMap (·.event?) =
        (found?.bind (·.event?)).toList ++ found.reduceOption.filterMap (·.event?) := by
      cases found? with
      | none => rfl
      | some prerequisite =>
        rw [List.reduceOption_cons_of_some, List.filterMap_cons, Option.bind_some]
        cases prerequisite.event? <;> rfl
    rw [hsplit, hevent, hkept, List.filterMap_cons]
    cases hnamed : entry.event? with
    | none => exact ⟨rfl, hrest⟩
    | some other =>
      refine ⟨?_, List.forall_mem_cons.mpr ⟨fun hother => ?_, hrest⟩⟩
      · rw [Option.filter_some, List.filter_cons]
        split <;> rfl
      · exact hpart (hunknown other hnamed hother)

/-- What a declared event comes to. -/
inductive EventOutcome (id : EventId) (declared : EventDecl) (added : List Diagnostic) :
    Option Event → Prop
  /-- It asks for something that is not declared, and is dropped with an error. -/
  | dropped {fault : Diagnostic} (hfault : directory.eventFault? id declared = some fault)
      (htold : fault ∈ added) : EventOutcome id declared added none
  /-- It is built, and names only declared events; whatever else is left out is told. -/
  | built {event : Event} (hsound : directory.eventFault? id declared = none) (hid : event.id = id)
      (hnamed : event.named = declared.named.filter (directory.events.contains ·))
      (hunknown : ∀ other ∈ declared.named, directory.events.contains other = false →
        unknownEvent id other ∈ added)
      (hwhole : declared.IsCarriedBy directory.itemKey? event ∨ Failed added) :
      EventOutcome id declared added (some event)

/-- What is asked of arguments is built up to the first item that is not declared. -/
theorem mapM_buildMatch (pattern : List MatchDecl) : pattern.mapM directory.buildMatch =
    match directory.unknownItem? pattern with
    | none => .ok (pattern.map MatchDecl.meaning)
    | some item => .error item := by
  induction pattern with
  | nil => rfl
  | cons entry rest ih =>
    rw [List.mapM_cons, ih]
    cases entry with
    | text word =>
      rw [unknownItem?]
      cases directory.unknownItem? rest <;> rfl
    | item id =>
      rw [buildMatch, unknownItem?]
      split
      · cases directory.unknownItem? rest <;> rfl
      · rfl

theorem EventOutcome.mono {id : EventId} {declared : EventDecl} {added all : List Diagnostic}
    {found? : Option Event} (h : directory.EventOutcome id declared added found?)
    (hsub : added ⊆ all) : directory.EventOutcome id declared all found? := by
  cases h with
  | dropped hfault htold => exact .dropped hfault (hsub htold)
  | built hsound hid hnamed hunknown hwhole =>
    exact .built hsound hid hnamed (fun other hother hnot => hsub (hunknown other hother hnot))
      (hwhole.imp_right fun hfailed => hfailed.mono hsub)

theorem shows_buildEvent (id : EventId) (declared : EventDecl) :
    Shows (directory.buildEvent id declared) (directory.EventOutcome id declared) := by
  refine Tells.mono (R := directory.EventOutcome id declared) ?_
    fun added found? h all hsub => h.mono directory hsub
  unfold buildEvent
  refine Tells.bind (tells_flags declared.attributes _) ?_
  rintro _ attributes ⟨rfl, -⟩
  simp only [List.nil_append]
  split
  · rename_i hcommand
    exact .noting (.dropped (if_pos hcommand) (List.mem_singleton_self _))
  · rename_i hcommand
    have hfault : directory.eventFault? id declared = _ := if_neg hcommand
    rw [mapM_buildMatch]
    cases hitem : directory.unknownItem? declared.pattern with
    | some item =>
      rw [hitem] at hfault
      exact .noting (.dropped hfault (List.mem_singleton_self _))
    | none =>
      rw [hitem] at hfault
      refine Tells.bind ((directory.tells_named id declared.prerequisites).and
        (Answers.filterMapM fun entry _ => directory.answers_buildPrerequisite id entry)) ?_
      rintro added prerequisites ⟨⟨hnamed, hunknown⟩, hneeds⟩
      refine Tells.map
        (Answers.filterMapM fun entry _ => directory.answers_buildAction id entry) ?_
      intro more actions hactions
      refine .built hfault rfl hnamed (fun other hother hnot => ?_) ?_
      · exact List.mem_append_left _ (hunknown other hother hnot)
      · rcases hneeds with hneeds | hfailed
        · rcases hactions with hactions | hfailed
          · exact .inl ⟨rfl, rfl, hneeds, hactions⟩
          · exact .inr (hfailed.append_left added)
        · exact .inr (hfailed.append_right more)

/-! ## Locations and commands -/

/-- What a declared location comes to: its words mean directions, and each exit leads where the last
word for it does, unless an error is noted. -/
structure LocationOutcome (id : LocationId) (declared : LocationDecl) (added : List Diagnostic)
    (location : Location) : Prop where
  /-- It has its number. -/
  id_eq : location.id = id
  /-- All its words mean directions. -/
  words : ∀ entry ∈ declared.directions.entries, (Direction.parse? entry.1).isSome = true
  /-- Its exits are those that are declared last. -/
  exits : (∀ direction, (declared.exit? direction).isSome = true →
    location.destination direction = declared.exit? direction) ∨ Failed added

/-- A location while its exits are added. -/
structure Linked (id : LocationId) (links : List (String × LocationId)) (added : List Diagnostic)
    (location : Location) : Prop where
  /-- It has its number. -/
  id_eq : location.id = id
  /-- The words so far mean directions. -/
  words : ∀ link ∈ links, (Direction.parse? link.1).isSome = true
  /-- The exits are those of the links so far. -/
  exits : (∀ direction, location.destination direction = direction.lastLink links) ∧
    location.outDeclared = (Direction.out.lastLink links).isSome ∨ Failed added

theorem tells_addExit {id : LocationId} {links : List (String × LocationId)}
    {added : List Diagnostic} {location : Location} (h : Linked id links added location)
    (link : String × LocationId) : Tells (directory.addExit location link) fun more =>
      Linked id (links ++ [link]) (added ++ more) := by
  unfold addExit
  refine Tells.bind (tells_direction link.1 location.id) ?_
  rintro _ direction ⟨rfl, hdirection⟩
  have hwords : ∀ other ∈ links ++ [link], (Direction.parse? other.1).isSome = true :=
    List.forall_mem_append.mpr ⟨h.words, List.forall_mem_singleton.mpr (by simp [hdirection])⟩
  refine Tells.bind (directory.answers_locationRef link.2 _) fun more found? hfound => ?_
  rcases hfound with ⟨rfl, -⟩ | hfailed
  · refine .pure ⟨h.id_eq, hwords, ?_⟩
    rcases h.exits with ⟨hexits, hout⟩ | hbefore
    · refine .inl ⟨fun other => ?_, ?_⟩
      · rw [Direction.lastLink_append, hdirection, ← hexits]
        refine (Table.get?_insert _ _ _ _).trans ?_
        simp only [Option.some.injEq, eq_comm]
        rfl
      · rw [Direction.lastLink_append, hdirection, Location.withExit, hout]
        simp only [Option.some.injEq]
        by_cases heq : direction = .out
        · simp [heq]
        · simp [heq]
    · exact .inr (hbefore.append_right _)
  · have hboth : Failed (added ++ ([] ++ (more ++ []))) := by
      rw [List.nil_append, List.append_nil]
      exact hfailed.append_left added
    cases found? with
    | none => exact .pure ⟨h.id_eq, hwords, .inr hboth⟩
    | some destination => exact .pure ⟨h.id_eq, hwords, .inr hboth⟩

theorem shows_buildLocation (id : LocationId) (declared : LocationDecl) :
    Shows (directory.buildLocation id declared) (LocationOutcome id declared) := by
  refine Tells.mono (R := LocationOutcome id declared) ?_ fun added location h all hsub =>
    ⟨h.id_eq, h.words, h.exits.imp_right fun hfailed => hfailed.mono hsub⟩
  unfold buildLocation
  refine Tells.bind (tells_flags declared.attributes _) ?_
  rintro _ attributes ⟨rfl, -⟩
  simp only [List.nil_append]
  refine Tells.map (Tells.foldlM (Q := Linked id) ⟨rfl, by rintro _ ⟨⟩, .inl ⟨fun _ => rfl, rfl⟩⟩
    fun before link added location _ hbefore => directory.tells_addExit hbefore link) ?_
  intro added location hlinked
  refine ⟨location.id_deriveOut.trans hlinked.id_eq, hlinked.words,
    hlinked.exits.imp_left fun hexits direction hdirection => ?_⟩
  rw [LocationDecl.exit?, ← hexits.1] at hdirection ⊢
  refine Location.destination_deriveOut_of_declared ?_
  rintro rfl
  rw [hexits.2, ← hexits.1]
  exact hdirection

/-- What a declared command comes to: each of its ways leads where the last one from the same
location does, unless an error is noted. -/
structure CommandOutcome (id : CommandId) (declared : CommandDecl) (added : List Diagnostic)
    (command : Command) : Prop where
  /-- It has its number. -/
  id_eq : command.id = id
  /-- Its ways are those that are declared last. -/
  ways : (∀ origin, command.teleport.get? origin = declared.way? origin) ∨ Failed added

theorem tells_addTeleport {id : CommandId} {ways : List TeleportDecl} {added : List Diagnostic}
    {command : Command} (hid : command.id = id)
    (h : (∀ origin, command.teleport.get? origin = TeleportDecl.lastWay ways origin) ∨
      Failed added) (way : TeleportDecl) :
    Tells (directory.addTeleport command way) fun more command => command.id = id ∧
      ((∀ origin, command.teleport.get? origin = TeleportDecl.lastWay (ways ++ [way]) origin) ∨
        Failed (added ++ more)) := by
  unfold addTeleport
  refine Tells.bind (directory.answers_locationRef way.origin _) fun first origin? horigin => ?_
  refine Tells.bind (directory.answers_locationRef way.destination _)
    fun second destination? hdestination => ?_
  by_cases hfailed : Failed (added ++ (first ++ second))
  · have hall : Failed (added ++ (first ++ (second ++ []))) := by rwa [List.append_nil]
    cases origin? with
    | none => exact .pure ⟨hid, .inr hall⟩
    | some origin => cases destination? <;> exact .pure ⟨hid, .inr hall⟩
  · obtain ⟨rfl, -⟩ := horigin.resolve_right fun hbad => hfailed
      ((hbad.append_right second).append_left added)
    obtain ⟨rfl, -⟩ := hdestination.resolve_right fun hbad => hfailed
      ((hbad.append_left first).append_left added)
    have hbefore := h.resolve_right fun hbad => hfailed (hbad.append_right _)
    refine .pure ⟨hid, .inl fun other => ?_⟩
    rw [TeleportDecl.lastWay_append, ← hbefore]
    refine (Table.get?_insert _ _ _ _).trans ?_
    simp only [eq_comm]

theorem shows_buildCommand (id : CommandId) (declared : CommandDecl) :
    Shows (directory.buildCommand id declared) (CommandOutcome id declared) := by
  refine Tells.mono (R := CommandOutcome id declared) ?_ fun added command h all hsub =>
    ⟨h.id_eq, h.ways.imp_right fun hfailed => hfailed.mono hsub⟩
  have hways (command : Command) (hid : command.id = id) (hnone : command.teleport = ∅) :
      Tells (declared.teleport.foldlM directory.addTeleport command)
        (CommandOutcome id declared) := by
    refine (Tells.foldlM (Q := fun ways added command => command.id = id ∧
      ((∀ origin, command.teleport.get? origin = TeleportDecl.lastWay ways origin) ∨
        Failed added)) ⟨hid, .inl fun origin => by rw [hnone]; rfl⟩
      fun before way added command _ hbefore =>
        directory.tells_addTeleport hbefore.1 hbefore.2 way).mono ?_
    exact fun added command hcommand => ⟨hcommand.1, hcommand.2⟩
  unfold buildCommand
  refine Tells.bind (tells_flags declared.attributes _) ?_
  rintro _ attributes ⟨rfl, -⟩
  simp only [List.nil_append]
  split
  · exact hways _ rfl rfl
  · refine Tells.bind (tells_flags _ _) ?_
    rintro _ flag ⟨rfl, -⟩
    exact hways _ rfl rfl

end Directory

end Adventure
