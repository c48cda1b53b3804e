import Adventure.Proofs.World.References
import Adventure.Turn.Arguments
import Adventure.Turn.Light

/-!
# What arguments may be

Before a command is carried out, its arguments are found. That changes nothing but the command that
waits, and what is handed on is fit to be acted on: an item is in some place, at whatever depth, and
a location exists. A command that waits has a mandatory slot open, and what fills the slots before
it is where they want it as long as nothing moves.
-/

namespace Adventure

namespace World

/-! ## Arguments that can be acted on -/

/-- An argument that can be acted on: an item that is somewhere, or a location that exists. -/
def Suits (world : World) : Arg → Prop
  | .item key => (world.outermost? key).isSome = true
  | .location id => world.Knows id
  | .text _ => True
  | .direction _ => True
  | .transition _ => True

/-- Arguments that can all be acted on. -/
def ArgsFit (world : World) (args : List Arg) : Prop := ∀ arg ∈ args, world.Suits arg

variable {world changed : World} {args : List Arg} {slot : Slot} {slots : List Slot}

theorem argsFit_nil : world.ArgsFit [] := fun _ h => absurd h List.not_mem_nil

theorem argsFit_cons {arg : Arg} :
    world.ArgsFit (arg :: args) ↔ world.Suits arg ∧ world.ArgsFit args := by
  simp [ArgsFit]

/-- What can be acted on depends on nothing but the items and the locations that exist. -/
theorem ArgsFit.of_items (hargs : world.ArgsFit args) (hitems : changed.items = world.items)
    (hknows : ∀ id, world.Knows id → changed.Knows id) : changed.ArgsFit args := by
  intro arg harg
  have hsuits := hargs arg harg
  cases arg with
  | item key =>
    simp only [Suits] at hsuits ⊢
    rwa [world.outermost?_of_items hitems]
  | location id => exact hknows id hsuits
  | _ => trivial

theorem ArgsFit.modifyPlayer (hargs : world.ArgsFit args) (f : Player → Player) :
    (world.modifyPlayer f).ArgsFit args :=
  hargs.of_items rfl fun _ hknown => hknown

/-! ## Items where slots want them -/

/-- An item is where the item of a slot has to be: held, or lying about and not held, or either. -/
def IsAt (world : World) (key : ItemKey) : Source → Prop
  | .inventory => world.holds key = true
  | .location => world.isHere key = true ∧ world.holds key = false
  | .either => world.holds key = true ∨ world.isHere key = true

/-- An item is not refused for a slot exactly if it is where the slot wants it. -/
theorem misfit?_eq_none_iff {key : ItemKey} :
    world.misfit? slot key = none ↔ world.IsAt key slot.source := by
  unfold misfit? IsAt
  cases slot.source <;> cases world.holds key <;> cases world.isHere key <;> simp

/-- An item that suits a slot is held or here, and so it is somewhere. -/
theorem suits_of_isAt {key : ItemKey} {source : Source} (h : world.IsAt key source) :
    world.Suits (.item key) := by
  have hplace : world.holds key = true ∨ world.isHere key = true := by
    cases source with
    | inventory => exact .inl h
    | location => exact .inr h.1
    | either => exact h
  change (world.outermost? key).isSome = true
  rcases hplace with hheld | hhere
  · unfold holds at hheld
    split at hheld
    · rename_i houter _
      simp [houter]
    · cases hheld
  · rw [eq_of_beq hhere]
    rfl

/-- An argument fills a slot: any word fills one for a text, and an item one for an item as long as
it is where the slot wants it. -/
def Fills (world : World) (slot : Slot) : Arg → Prop
  | .item key => slot.isItem = true ∧ world.IsAt key slot.source
  | .text _ => slot.isItem = false
  | .location _ => False
  | .direction _ => False
  | .transition _ => False

/-- Arguments fill the first ones of some slots, each its own. -/
def FillsFirst (world : World) (slots : List Slot) (args : List Arg) : Prop :=
  ∀ (index : Nat) (arg : Arg), args[index]? = some arg →
    ∃ slot, slots[index]? = some slot ∧ world.Fills slot arg

theorem fillsFirst_nil : world.FillsFirst slots [] := by
  rintro index arg ⟨⟩

/-- One more argument fills the next slot. -/
theorem FillsFirst.snoc (h : world.FillsFirst slots args) {arg : Arg}
    (hslot : slots[args.length]? = some slot) (hfills : world.Fills slot arg) :
    world.FillsFirst slots (args ++ [arg]) := by
  intro index other hother
  by_cases hlt : index < args.length
  · rw [List.getElem?_append_left hlt] at hother
    exact h index other hother
  · rw [List.getElem?_append_right (Nat.le_of_not_lt hlt), List.getElem?_singleton] at hother
    split at hother
    · rename_i hlast
      cases hother
      have heq : index = args.length := by omega
      exact ⟨slot, heq ▸ hslot, hfills⟩
    · cases hother

/-- Arguments that fill slots can be acted on. -/
theorem FillsFirst.argsFit (h : world.FillsFirst slots args) : world.ArgsFit args := by
  intro arg harg
  obtain ⟨index, hindex⟩ := List.mem_iff_getElem?.mp harg
  obtain ⟨slot, -, hfills⟩ := h index arg hindex
  cases arg with
  | item key => exact suits_of_isAt hfills.2
  | text word => trivial
  | _ => exact hfills.elim

/-- Where items are depends on nothing but the items, the inventories and where the player is. -/
theorem FillsFirst.of_items (h : world.FillsFirst slots args) (hitems : changed.items = world.items)
    (hinventories : changed.inventories = world.inventories)
    (hhere : changed.player.location = world.player.location) :
    changed.FillsFirst slots args := by
  have hcurrent : changed.currentInventory? = world.currentInventory? := by
    unfold currentInventory? inventoryAt?
    rw [hinventories, hhere]
  have hholds (key : ItemKey) : changed.holds key = world.holds key := by
    unfold holds
    rw [world.outermost?_of_items hitems, hcurrent]
  have hishere (key : ItemKey) : changed.isHere key = world.isHere key := by
    unfold isHere
    rw [world.outermost?_of_items hitems, hhere]
  intro index arg harg
  obtain ⟨slot, hslot, hfills⟩ := h index arg harg
  refine ⟨slot, hslot, ?_⟩
  cases arg with
  | item key =>
    obtain ⟨hisItem, hisAt⟩ := hfills
    refine ⟨hisItem, ?_⟩
    unfold IsAt at hisAt ⊢
    cases hsource : slot.source <;> simpa only [hsource, hholds, hishere] using hisAt
  | _ => exact hfills

/-! ## Commands that wait -/

/-- A command can go on when its next argument is given: the player is able to, the word for the
command still means it, the next argument is one that has to be asked for, and the arguments known
fill the slots before it. -/
structure Awaits (world : World) (id : CommandId) (verb : String) (args : List Arg) : Prop where
  /-- The player lives. -/
  alive : world.player.alive = true
  /-- The player has not given up. -/
  playing : world.player.playing = true
  /-- The command is there, and its next slot is mandatory. -/
  command : ∃ command, world.command? id = some command ∧
    world.commandNamed? verb = some command ∧
      (∃ slot, command.slots[args.length]? = some slot ∧ slot.mandatory = true) ∧
        world.FillsFirst command.slots args

/-- Whether a command can go on depends on the commands and their names, on the player, and on what
its arguments depend on. -/
theorem Awaits.of_items {id : CommandId} {verb : String} (h : world.Awaits id verb args)
    (hcommands : changed.commands = world.commands)
    (hnames : changed.commandNames = world.commandNames) (hitems : changed.items = world.items)
    (hinventories : changed.inventories = world.inventories)
    (hhere : changed.player.location = world.player.location)
    (halive : changed.player.alive = world.player.alive)
    (hplaying : changed.player.playing = world.player.playing) : changed.Awaits id verb args := by
  obtain ⟨command, hcommand, hnamed, hslot, hfills⟩ := h.command
  refine ⟨halive.trans h.alive, hplaying.trans h.playing, command, ?_, ?_, hslot,
    hfills.of_items hitems hinventories hhere⟩
  · rw [command?, hcommands]
    exact hcommand
  · have hfound (id : CommandId) : changed.command? id = world.command? id := by
      rw [command?, hcommands]
      rfl
    unfold commandNamed? at hnamed ⊢
    rw [hnames, funext hfound]
    exact hnamed

/-- If a command waits, it can go on. -/
def WaitsRightly (world : World) : Prop :=
  ∀ id verb args, world.player.pending = .awaiting id verb args → world.Awaits id verb args

theorem waitsRightly_of_idle (h : world.player.pending = .idle) : world.WaitsRightly := by
  intro id verb args hpending
  rw [h] at hpending
  cases hpending

end World

/-! ## Filling slots -/

/-- The arguments that a filling has found. -/
def Filling.found : Filling → List Arg
  | complete args _ => args
  | lacking args => args
  | unknown _ => []
  | unsuited _ _ => []

namespace World

variable {world : World} {slots rest : List Slot} {args : List Arg} {tokens : List String}

/-- Slots are filled, one after the other, only with arguments that fill them. -/
theorem fillsFirst_fillSlots (tokens : List String) (hargs : world.FillsFirst slots args)
    (hrest : slots.drop args.length = rest) :
    world.FillsFirst slots (world.fillSlots rest args tokens).found := by
  induction rest generalizing args tokens with
  | nil => exact hargs
  | cons slot rest ih =>
    have hslot : slots[args.length]? = some slot := by
      rw [← List.head?_drop, hrest]
      rfl
    have hlater (arg : Arg) : slots.drop (args ++ [arg]).length = rest := by
      rw [List.length_append, List.length_singleton, ← List.drop_drop, hrest]
      rfl
    unfold fillSlots
    split
    · split <;> exact hargs
    · rename_i token more htokens
      split
      · rename_i hisItem
        split
        · exact fillsFirst_nil
        · rename_i key hkey
          split
          · exact fillsFirst_nil
          · rename_i hfits
            have hfills : world.Fills slot (.item key) := ⟨hisItem, misfit?_eq_none_iff.mp hfits⟩
            exact ih more (hargs.snoc hslot hfills) (hlater _)
      · rename_i hisText
        have hfills : world.Fills slot (.text token) := Bool.eq_false_iff.mpr hisText
        exact ih more (hargs.snoc hslot hfills) (hlater _)

/-- When words run out, the next slot is mandatory. -/
theorem mandatory_of_lacking {found : List Arg} (hrest : slots.drop args.length = rest)
    (h : world.fillSlots rest args tokens = .lacking found) :
    ∃ slot, slots[found.length]? = some slot ∧ slot.mandatory = true := by
  induction rest generalizing args tokens with
  | nil => cases h
  | cons slot rest ih =>
    have hlater (arg : Arg) : slots.drop (args ++ [arg]).length = rest := by
      rw [List.length_append, List.length_singleton, ← List.drop_drop, hrest]
      rfl
    unfold fillSlots at h
    split at h
    · split at h
      · rename_i hmandatory
        cases h
        refine ⟨slot, ?_, hmandatory⟩
        rw [← List.head?_drop, hrest]
        rfl
      · cases h
    · split at h
      · split at h
        · cases h
        · split at h
          · cases h
          · exact ih (hlater _) h
      · exact ih (hlater _) h

end World

namespace Turn

variable {turn changed : Turn} {command : Command} {args : List Arg} {report : Report}

/-! ## What finding arguments does -/

/-- Which command waits after a turn that was refused. -/
inductive Leaves (turn : Turn) (command : Command) (args : List Arg) : Pending → Prop
  /-- It is forgotten. -/
  | forgotten : Leaves turn command args .idle
  /-- It is too dark to find arguments, and the same waits as before. -/
  | dark : Leaves turn command args turn.world.player.pending
  /-- The command of the turn lacks an argument. -/
  | lacking {found : List Arg}
      (h : turn.world.fillSlots (command.slots.drop args.length) args turn.tokens =
        .lacking found) : Leaves turn command args (.awaiting command.id turn.verb found)

/-- What a stage does that finds the arguments of a command. -/
structure Prepares (turn : Turn) (command : Command) (args : List Arg)
    (result : Turn × Report) : Prop where
  /-- When the turn ends, nothing has changed but the command that waits. -/
  refused : result.2.success = false → ∃ pending, turn.Leaves command args pending ∧
    result.1.world = turn.world.modifyPlayer fun p => { p with pending }
  /-- When it goes on, no command waits any longer, and the arguments can be acted on. -/
  passed : result.2.success = true →
    result.1.world = turn.world.modifyPlayer (·.forget) ∧ turn.world.ArgsFit result.2.next

/-- A command may be refused when none waits any longer. -/
theorem Prepares.refuse (hworld : changed.world = turn.world.modifyPlayer (·.forget))
    (hreport : report.success = false) : turn.Prepares command args (changed, report) := by
  refine ⟨fun _ => ⟨.idle, .forgotten, hworld⟩, fun h => ?_⟩
  rw [hreport] at h
  cases h

/-- A command may go on with fitting arguments when none waits any longer. -/
theorem Prepares.proceed {next : List Arg}
    (hworld : changed.world = turn.world.modifyPlayer (·.forget))
    (hargs : turn.world.ArgsFit next) : turn.Prepares command args (changed, .silent next) :=
  ⟨fun h => Bool.noConfusion h, fun _ => ⟨hworld, hargs⟩⟩

/-- Arguments are found only if the slots are filled as far as they have to be. No command waits
then, and the words that are left stay with the turn. -/
theorem complete_of_resolveSlots {found : List Arg}
    (h : turn.resolveSlots command args = (changed, .ok found)) :
    changed.world = turn.world.modifyPlayer (·.forget) ∧
      turn.world.fillSlots (command.slots.drop args.length) args turn.tokens =
        .complete found changed.tokens := by
  simp only [resolveSlots] at h
  split at h
  · rename_i args' rest hfilling
    simp only [Prod.mk.injEq, Except.ok.injEq] at h
    obtain ⟨rfl, rfl⟩ := h
    exact ⟨rfl, hfilling⟩
  all_goals simp at h

/-- Filling the slots of a command gives arguments that can be acted on. -/
theorem resolveSlots_ok (hargs : turn.world.FillsFirst command.slots args) {found : List Arg}
    (h : turn.resolveSlots command args = (changed, .ok found)) :
    changed.world = turn.world.modifyPlayer (·.forget) ∧ turn.world.ArgsFit found := by
  obtain ⟨hworld, hfilling⟩ := complete_of_resolveSlots h
  have hfound := (World.fillsFirst_fillSlots turn.tokens hargs rfl).argsFit
  rw [hfilling] at hfound
  exact ⟨hworld, hfound⟩

/-- Slots that cannot be filled end the turn with a refusal. -/
theorem refused_of_resolveSlots (h : turn.resolveSlots command args = (changed, .error report)) :
    report.success = false := by
  simp only [resolveSlots] at h
  split at h <;> cases h <;> rfl

/-- Or it ends the turn. -/
theorem resolveSlots_error (h : turn.resolveSlots command args = (changed, .error report)) :
    turn.Prepares command args (changed, report) := by
  simp only [resolveSlots] at h
  split at h
  · simp at h
  · rename_i args' hfilling
    simp only [Prod.mk.injEq, Except.error.injEq] at h
    obtain ⟨rfl, rfl⟩ := h
    exact ⟨fun _ => ⟨_, .lacking hfilling, rfl⟩, fun h => by cases h⟩
  · simp only [Prod.mk.injEq, Except.error.injEq] at h
    obtain ⟨rfl, rfl⟩ := h
    exact .refuse rfl rfl
  · simp only [Prod.mk.injEq, Except.error.injEq] at h
    obtain ⟨rfl, rfl⟩ := h
    exact .refuse rfl rfl

end Turn

namespace Stage

variable {turn : Turn} {command : Command} {args : List Arg}

theorem prepares_resolvePlain (hargs : turn.world.FillsFirst command.slots args) :
    turn.Prepares command args (resolvePlain turn command args) := by
  unfold resolvePlain
  split
  · rename_i changed refusal heq
    exact Turn.resolveSlots_error heq
  · rename_i changed found heq
    obtain ⟨hworld, hfound⟩ := Turn.resolveSlots_ok hargs heq
    refine .proceed hworld ?_
    split
    · exact World.argsFit_cons.mpr ⟨trivial, hfound⟩
    · exact hfound

/-- A movement is handed a location that exists, since exits lead to locations. -/
theorem prepares_resolveMovement (hclosed : turn.world.Closed) :
    turn.Prepares command args (resolveMovement turn command args) := by
  unfold resolveMovement
  simp only []
  split
  · exact .refuse rfl rfl
  · rename_i direction hdirection
    split
    · rename_i destination hdestination
      obtain ⟨location, hlocation, hleads⟩ := Option.bind_eq_some_iff.mp hdestination
      have hknown : turn.world.Knows destination :=
        (hclosed.locations _ location hlocation).exits direction destination hleads
      exact .proceed rfl (World.argsFit_cons.mpr
        ⟨hknown, World.argsFit_cons.mpr ⟨trivial, World.argsFit_nil⟩⟩)
    · exact .refuse rfl rfl

/-- A teleport is handed a location that exists, since teleport tables lead to locations. -/
theorem prepares_resolveTeleport (hclosed : turn.world.Closed) {id : CommandId}
    (hcommand : turn.world.command? id = some command) :
    turn.Prepares command args (resolveTeleport turn command args) := by
  unfold resolveTeleport
  simp only []
  split
  · rename_i destination hdestination
    have hknown : turn.world.Knows destination :=
      (hclosed.commands id command hcommand _ destination hdestination).2
    exact .proceed rfl (World.argsFit_cons.mpr ⟨hknown, World.argsFit_nil⟩)
  · exact .refuse rfl rfl

theorem prepares_resolveSwitchable :
    turn.Prepares command args (resolveSwitchable turn command args) := by
  have hfit (transition : Transition) : turn.world.ArgsFit [.transition transition] :=
    World.argsFit_cons.mpr ⟨trivial, World.argsFit_nil⟩
  unfold resolveSwitchable
  simp only []
  split
  · exact .refuse rfl rfl
  · split
    · exact .proceed rfl (hfit _)
    · split
      · exact .proceed rfl (hfit _)
      · exact .refuse rfl rfl

theorem prepares_resolveSwitching (hargs : turn.world.FillsFirst command.slots args) :
    turn.Prepares command args (resolveSwitching turn command args) := by
  unfold resolveSwitching
  split
  · rename_i changed refusal heq
    exact Turn.resolveSlots_error heq
  · rename_i changed found heq
    obtain ⟨hworld, hfound⟩ := Turn.resolveSlots_ok hargs heq
    split
    · exact .refuse hworld rfl
    · rename_i key hkey
      obtain ⟨arg, harg, hitem⟩ := Option.bind_eq_some_iff.mp hkey
      have hsuits : turn.world.Suits (.item key) := by
        have hmem := hfound arg (List.mem_of_head? harg)
        cases arg <;> simp [Arg.item?] at hitem
        rwa [← hitem]
      have hfit (transition : Transition) :
          turn.world.ArgsFit [.item key, .transition transition] :=
        World.argsFit_cons.mpr ⟨hsuits, World.argsFit_cons.mpr ⟨trivial, World.argsFit_nil⟩⟩
      simp only []
      split
      · exact .refuse hworld rfl
      · split
        · exact .proceed hworld (hfit _)
        · split
          · exact .proceed hworld (hfit _)
          · exact .refuse hworld rfl

/-- Whichever way a command finds its arguments, nothing changes but the command that waits, and the
arguments can be acted on. -/
theorem prepares_resolverOf (hclosed : turn.world.Closed) {id : CommandId}
    (hcommand : turn.world.command? id = some command)
    (hargs : turn.world.FillsFirst command.slots args) :
    turn.Prepares command args (resolverOf command turn command args) := by
  unfold resolverOf
  split_ifs
  · exact prepares_resolveMovement hclosed
  · exact prepares_resolveTeleport hclosed hcommand
  · exact prepares_resolveSwitchable
  · exact prepares_resolveSwitching hargs
  · exact prepares_resolvePlain hargs

end Stage

end Adventure
