import Adventure.Proofs.Session.Reached
import Adventure.Proofs.World.Switches

/-!
# Handlers that attributes choose

A command that names no known handler is carried out by one that its attributes choose, and its
attributes choose as well how its arguments are found. Each of the two looks at the attributes in an
order of its own. They agree, and the handler is handed the argument that it needs, unless the
command switches both an item and the player: then a transition is found, and the handler that looks
for an item does nothing.
-/

namespace Adventure

namespace Command

/-- The attributes of the command choose how it is carried out. -/
def Chooses (command : Command) : Prop :=
  command.attributes.has CommandFlags.movement = true ∨
    command.attributes.has CommandFlags.teleport = true ∨
    command.attributes.has CommandFlags.switchable = true ∨
    command.attributes.has CommandFlags.switching = true

/-- The command switches both the player and an item, and does not move the player. -/
structure SwitchesBoth (command : Command) : Prop where
  /-- It does not move the player along an exit. -/
  stays : command.attributes.has CommandFlags.movement = false
  /-- It does not move the player by its teleport table. -/
  remains : command.attributes.has CommandFlags.teleport = false
  /-- It switches an attribute of the player. -/
  switchable : command.attributes.has CommandFlags.switchable = true
  /-- It switches an item. -/
  switching : command.attributes.has CommandFlags.switching = true

end Command

namespace Handler

/-- The arguments begin with what the handler needs: somewhere to go, a transition of the player, or
an item to be switched. -/
inductive Understands : Handler → List Arg → Prop
  | go (place : LocationId) (more : List Arg) : Understands go (.location place :: more)
  | teleport (place : LocationId) (more : List Arg) : Understands teleport (.location place :: more)
  | setPlayer (transition : Transition) (more : List Arg) :
      Understands setPlayer (.transition transition :: more)
  | switch (key : ItemKey) (more : List Arg) : Understands switch (.item key :: more)

/-- What a handler comes to that acts on the argument that it needs. It may be refused for what the
world is like, but not because the argument is missing. -/
inductive Heeds (turn : Turn) (command : Command) :
    Handler → List Arg → Turn × Report → Prop
  /-- The player arrives at the location. -/
  | arrives {place : LocationId} {more : List Arg}
      (hfree : turn.world.obstruction? = none ∨ turn.world.player.previous = some place) :
      Heeds turn command go (.location place :: more)
        (turn.arrive place (.location place :: more))
  /-- Something bars the way to the location. -/
  | barred {place : LocationId} {more : List Arg} {key : ItemKey}
      (hbars : turn.world.obstruction? = some key)
      (hforward : turn.world.player.previous ≠ some place) :
      Heeds turn command go (.location place :: more)
        (turn, turn.refuse "reject_obstruction" [turn.world.itemName key])
  /-- The player is taken to the location. -/
  | jumps {place : LocationId} {more : List Arg} :
      Heeds turn command teleport (.location place :: more)
        (turn.arrive place (.location place :: more))
  /-- The attribute of the player makes the transition. -/
  | sets {transition : Transition} {more : List Arg} {part : CommandSwitch} {state : Bool}
      (hpart : command.switch = some part)
      (hstate : state = transition.apply (turn.world.player.attributes.has part.flag)) :
      Heeds turn command setPlayer (.transition transition :: more)
        (turn.modifyPlayer fun p => { p with attributes := p.attributes.assign part.flag state },
          turn.say "confirm_player_switched"
            [Text.capitalize command.name, part.words.wordFor state]
            (.transition transition :: more))
  /-- The item is switched. -/
  | switches {key : ItemKey} {transition : Transition} {part : Switch} {changed : World}
      {before state : Bool} (hpart : (turn.world.item? key).bind (·.switch) = some part)
      (hbefore : turn.world.isSwitchedOn key = .ok before) (hnew : state ≠ before)
      (hswitch : turn.world.switch key transition = .ok (changed, state)) :
      Heeds turn command switch [.item key, .transition transition]
        (turn.withWorld changed, turn.say "confirm_switched"
          [turn.world.itemName key, part.words.wordFor state]
          [.item key, .transition transition])
  /-- The item already is as the transition would make it. -/
  | already {key : ItemKey} {transition : Transition} {part : Switch} {before : Bool}
      (hpart : (turn.world.item? key).bind (·.switch) = some part)
      (hbefore : turn.world.isSwitchedOn key = .ok before)
      (hsame : transition.apply before = before) :
      Heeds turn command switch [.item key, .transition transition]
        (turn, turn.refuse "reject_already_switched"
          [turn.world.itemName key, part.words.wordFor before])
  /-- The switch of the item acts on nothing that is there. -/
  | unwired {key : ItemKey} {transition : Transition} {part : Switch} {cause : WorldError}
      (hpart : (turn.world.item? key).bind (·.switch) = some part)
      (hcause : turn.world.isSwitchedOn key = .error cause) :
      Heeds turn command switch [.item key, .transition transition]
        (turn, turn.refuse "reject_not_switchable" [turn.world.itemName key])

end Handler

variable {turn : Turn} {command : Command} {args : List Arg}

/-! ## What is found -/

namespace Stage

/-- A movement that goes on has found a location. -/
theorem exists_place_resolveMovement
    (h : (resolveMovement turn command args).2.success = true) :
    ∃ place direction, (resolveMovement turn command args).2.next =
      [.location place, .direction direction] := by
  unfold resolveMovement at h ⊢
  dsimp only at h ⊢
  split at h
  · cases h
  · split at h
    · exact ⟨_, _, rfl⟩
    · cases h

/-- A teleport that goes on has found a location. -/
theorem exists_place_resolveTeleport
    (h : (resolveTeleport turn command args).2.success = true) :
    ∃ place, (resolveTeleport turn command args).2.next = [.location place] := by
  unfold resolveTeleport at h ⊢
  dsimp only at h ⊢
  split at h
  · exact ⟨_, rfl⟩
  · cases h

/-- A command that switches the player and goes on has found a transition, and says what is
switched. -/
theorem exists_transition_resolveSwitchable
    (h : (resolveSwitchable turn command args).2.success = true) :
    ∃ part transition, command.switch = some part ∧
      (resolveSwitchable turn command args).2.next = [.transition transition] := by
  unfold resolveSwitchable at h ⊢
  dsimp only at h ⊢
  split at h
  · cases h
  · rename_i part hpart
    split at h
    · exact ⟨part, .toggle, hpart, rfl⟩
    · split at h
      · exact ⟨part, _, hpart, rfl⟩
      · cases h

/-- A command that switches an item and goes on has found an item that is a switch, and a
transition. -/
theorem exists_switch_resolveSwitching
    (h : (resolveSwitching turn command args).2.success = true) :
    ∃ key part transition,
      (((resolveSwitching turn command args).1.world.item? key).bind (·.switch)) = some part ∧
      (resolveSwitching turn command args).2.next = [.item key, .transition transition] := by
  unfold resolveSwitching at h ⊢
  split at h
  · rename_i ready refusal hrefused
    exact Bool.noConfusion ((Turn.refused_of_resolveSlots hrefused).symm.trans h)
  · dsimp only at h ⊢
    split at h
    · cases h
    · rename_i key hkey
      split at h
      · cases h
      · rename_i part hpart
        split at h
        · exact ⟨key, part, .toggle, hpart, rfl⟩
        · split at h
          · exact ⟨key, part, _, hpart, rfl⟩
          · cases h

end Stage

/-! ## What is made of it -/

namespace Handler

theorem heeds_go (place : LocationId) (more : List Arg) :
    Heeds turn command go (.location place :: more)
      (Stage.go turn command (.location place :: more)) := by
  unfold Stage.go
  simp only [List.head?_cons, Option.bind_some, Arg.location?]
  cases hbars : turn.world.obstruction? with
  | none => exact .arrives (.inl hbars)
  | some key =>
    dsimp only
    split
    · rename_i hback
      exact .arrives (.inr hback)
    · rename_i hforward
      exact .barred hbars hforward

theorem heeds_setPlayer {part : CommandSwitch} (hpart : command.switch = some part)
    (transition : Transition) (more : List Arg) :
    Heeds turn command setPlayer (.transition transition :: more)
      (Stage.setPlayer turn command (.transition transition :: more)) := by
  unfold Stage.setPlayer
  rw [hpart]
  exact .sets hpart rfl

theorem heeds_switch {key : ItemKey} {part : Switch}
    (hpart : (turn.world.item? key).bind (·.switch) = some part) (transition : Transition) :
    Heeds turn command switch [.item key, .transition transition]
      (Stage.switch turn command [.item key, .transition transition]) := by
  have hkey : Stage.itemAt [.item key, .transition transition] 0 = some key := rfl
  have htransition : ((([Arg.item key, Arg.transition transition])[1]?).bind
      (·.transition?)).getD .toggle = transition := rfl
  unfold Stage.switch
  rw [hkey, htransition]
  dsimp only
  rw [hpart]
  cases hbefore : turn.world.isSwitchedOn key with
  | error cause => exact .unwired hpart hbefore
  | ok before =>
    dsimp only
    split
    · rename_i hsame
      exact .already hpart hbefore hsame
    · rename_i hnew
      obtain ⟨target, htarget, hstate⟩ := World.isSwitchedOn_cases hbefore
      have hswitch := World.switch_eq htarget hstate transition
      rw [hswitch]
      exact .switches hpart hbefore hnew hswitch

/-- A handler that needs an item can make nothing of a transition. -/
theorem not_understands_transition (transition : Transition) (more : List Arg) :
    ¬ Understands switch (.transition transition :: more) := nofun

end Handler

/-! ## The two choices -/

namespace Command

/-- The handler of a command that names no known one is chosen by the attributes. -/
theorem chosenHandler_of_unknown (hunknown : Handler.named? command.handler = none) :
    command.chosenHandler =
      if command.attributes.has CommandFlags.movement then .go
      else if command.attributes.has CommandFlags.teleport then .teleport
      else if command.attributes.has CommandFlags.switching then .switch
      else if command.attributes.has CommandFlags.switchable then .setPlayer
      else .interact := by
  rw [chosenHandler, hunknown]

/-- The handler of a command that does not switch both the player and an item is handed what it
needs, and acts on it. -/
theorem chosenHandler_heeds (hunknown : Handler.named? command.handler = none)
    (hchooses : command.Chooses) (hone : ¬ command.SwitchesBoth)
    (hfound : (Stage.resolverOf command turn command args).2.success = true) :
    let found := Stage.resolverOf command turn command args
    command.chosenHandler.Understands found.2.next ∧
      command.chosenHandler.Heeds found.1 command found.2.next
        (command.chosenHandler.stage found.1 command found.2.next) := by
  intro found
  have hhandler := chosenHandler_of_unknown hunknown
  have hresolver : found = Stage.resolverOf command turn command args := rfl
  clear_value found
  rw [← hresolver] at hfound
  unfold Stage.resolverOf at hresolver
  by_cases hmovement : command.attributes.has CommandFlags.movement = true
  · rw [if_pos hmovement] at hhandler hresolver
    subst hresolver
    obtain ⟨place, direction, hnext⟩ := Stage.exists_place_resolveMovement hfound
    rw [hhandler, hnext]
    exact ⟨.go _ _, Handler.heeds_go _ _⟩
  by_cases hteleport : command.attributes.has CommandFlags.teleport = true
  · rw [if_neg hmovement, if_pos hteleport] at hhandler hresolver
    subst hresolver
    obtain ⟨place, hnext⟩ := Stage.exists_place_resolveTeleport hfound
    rw [hhandler, hnext]
    exact ⟨.teleport _ _, .jumps⟩
  rw [if_neg hmovement, if_neg hteleport] at hhandler hresolver
  -- from here on the two choices look at the attributes in different orders
  by_cases hswitchable : command.attributes.has CommandFlags.switchable = true
  · have hswitching : ¬ command.attributes.has CommandFlags.switching = true := fun h =>
      hone ⟨by simpa using hmovement, by simpa using hteleport, hswitchable, h⟩
    rw [if_neg hswitching, if_pos hswitchable] at hhandler
    rw [if_pos hswitchable] at hresolver
    subst hresolver
    obtain ⟨part, transition, hpart, hnext⟩ := Stage.exists_transition_resolveSwitchable hfound
    rw [hhandler, hnext]
    exact ⟨.setPlayer _ _, Handler.heeds_setPlayer hpart _ _⟩
  · have hswitching : command.attributes.has CommandFlags.switching = true := by
      rcases hchooses with h | h | h | h
      · exact (hmovement h).elim
      · exact (hteleport h).elim
      · exact (hswitchable h).elim
      · exact h
    rw [if_pos hswitching] at hhandler
    rw [if_neg hswitchable, if_pos hswitching] at hresolver
    subst hresolver
    obtain ⟨key, part, transition, hpart, hnext⟩ := Stage.exists_switch_resolveSwitching hfound
    rw [hhandler, hnext]
    exact ⟨.switch _ _, Handler.heeds_switch hpart _⟩

/-- For a command that switches both the player and an item a transition is found. Its handler looks
for an item, and does nothing. -/
theorem SwitchesBoth.idle (hboth : command.SwitchesBoth)
    (hunknown : Handler.named? command.handler = none)
    (hfound : (Stage.resolverOf command turn command args).2.success = true) :
    let found := Stage.resolverOf command turn command args
    command.chosenHandler = .switch ∧ (∃ transition, found.2.next = [.transition transition]) ∧
      command.chosenHandler.stage found.1 command found.2.next =
        (found.1, found.1.refuse "nothing_happens" []) := by
  intro found
  have hhandler : command.chosenHandler = .switch := by
    simp [chosenHandler_of_unknown hunknown, hboth.stays, hboth.remains, hboth.switching]
  have hresolver : Stage.resolverOf command = Stage.resolveSwitchable := by
    simp [Stage.resolverOf, hboth.stays, hboth.remains, hboth.switchable]
  rw [hresolver] at hfound
  obtain ⟨part, transition, hpart, hnext⟩ := Stage.exists_transition_resolveSwitchable hfound
  have hnext : found.2.next = [.transition transition] := by
    rw [← hnext, ← hresolver]
  rw [hhandler, hnext]
  exact ⟨rfl, ⟨transition, rfl⟩, rfl⟩

/-- **Handlers and what is found for them.** Let the attributes of a command choose how it is
carried out, and let its arguments be found. Then the handler is handed what it needs and acts on
it, unless the command switches both the player and an item and moves the player in no way. In this
case only a transition is found, and the handler, which needs an item, refuses. -/
theorem chosenHandler_heeds_iff (turn : Turn) (command : Command) (args : List Arg)
    (hunknown : Handler.named? command.handler = none) (hchooses : command.Chooses)
    (hfound : (Stage.resolverOf command turn command args).2.success = true) :
    let found := Stage.resolverOf command turn command args
    let done := command.chosenHandler.stage found.1 command found.2.next
    (command.chosenHandler.Understands found.2.next ∧
        command.chosenHandler.Heeds found.1 command found.2.next done ↔ ¬ command.SwitchesBoth) ∧
      (command.SwitchesBoth → command.chosenHandler = .switch ∧
        (∃ transition, found.2.next = [.transition transition]) ∧
        done = (found.1, found.1.refuse "nothing_happens" [])) := by
  intro found done
  have hidle : command.SwitchesBoth → _ := fun h => h.idle hunknown hfound
  refine ⟨⟨fun ⟨hunderstands, _⟩ hboth => ?_, fun hone => ?_⟩, hidle⟩
  · obtain ⟨hhandler, ⟨transition, hnext⟩, -⟩ := hidle hboth
    rw [hhandler, hnext] at hunderstands
    exact Handler.not_understands_transition _ _ hunderstands
  · exact chosenHandler_heeds hunknown hchooses hone hfound

end Command

/-- A description of a lamp, which one command switches. A second command is declared to switch both
an item and the player. -/
def Document.signal : Document :=
  let command (num : Nat) (attributes name : String) (part : Option CommandSwitchDecl) :
      CommandDecl := ⟨⟨num⟩, attributes, name, [], none, [⟨true, true, .either, []⟩], part, []⟩
  { name := "signal"
    commands := [command 1 "8" "turn" none, command 2 "c" "flip" (some ⟨none, none, "1"⟩)]
    items := [⟨⟨1⟩, "20", ⟨"lamp", none, none, []⟩, 2, none, some (.location ⟨1⟩),
      some ⟨.item ⟨1⟩, "80", none, none⟩, none⟩]
    locations := [⟨⟨1⟩, "3", ⟨"hall", none, none, []⟩, ∅⟩]
    events := []
    inventories := [⟨⟨1⟩, 8, true, []⟩]
    players := [⟨⟨1⟩, ""⟩]
    inputs := ∅
    hints := ∅
    explanations := ∅
    responses := ∅ }

/-- The session that begins over it. -/
def Session.signal : Session := (Document.signal.begin? {}).get (by decide +kernel)

/-- Its command that switches the lamp. -/
def Command.turns : Command := (Session.signal.world.commandNamed? "turn").get (by decide +kernel)

/-- Its command that switches both an item and the player. -/
def Command.flips : Command := (Session.signal.world.commandNamed? "flip").get (by decide +kernel)

/-- The lamp is found and switched by the first command. The second one finds a transition, and its
handler refuses it. -/
theorem Command.chosenHandler_heeds_iff_signal :
    (let found := Stage.resolverOf turns (Session.signal.countedTurn "turn" ["lamp"]) turns []
      let done := turns.chosenHandler.stage found.1 turns found.2.next
      turns.chosenHandler.Heeds found.1 turns found.2.next done ∧
        done.2.text = "The lamp is now on.") ∧
      (let found := Stage.resolverOf flips (Session.signal.countedTurn "flip" []) flips []
      let done := flips.chosenHandler.stage found.1 flips found.2.next
      flips.SwitchesBoth ∧ found.2.success = true ∧
        ¬ flips.chosenHandler.Understands found.2.next ∧ done.2.text = "Nothing happens.") := by
  refine ⟨?_, ?_⟩
  · have hone : ¬ turns.SwitchesBoth := fun h => absurd h.switchable (by decide +kernel)
    have hagree := chosenHandler_heeds_iff (Session.signal.countedTurn "turn" ["lamp"]) turns []
      (by decide +kernel) (.inr (.inr (.inr (by decide +kernel)))) (by decide +kernel)
    exact ⟨(hagree.1.mpr hone).2, by decide +kernel⟩
  · have hboth : flips.SwitchesBoth :=
      ⟨by decide +kernel, by decide +kernel, by decide +kernel, by decide +kernel⟩
    have hfound : (Stage.resolverOf flips (Session.signal.countedTurn "flip" []) flips
        []).2.success = true := by decide +kernel
    have hagree := chosenHandler_heeds_iff (Session.signal.countedTurn "flip" []) flips []
      (by decide +kernel) (.inr (.inr (.inl hboth.switchable))) hfound
    obtain ⟨hhandler, ⟨transition, hnext⟩, -⟩ := hagree.2 hboth
    refine ⟨hboth, hfound, fun hunderstands => ?_, by decide +kernel⟩
    rw [hhandler, hnext] at hunderstands
    exact Handler.not_understands_transition _ _ hunderstands

end Adventure
