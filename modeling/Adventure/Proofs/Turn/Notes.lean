import Adventure.Proofs.World.Notes
import Adventure.Proofs.Turn.Stages

/-!
# Turns and the notes on the player

The stages that follow once the arguments of a command are found do the same whatever is noted on
the player. Two of them tell the number of moves, and nothing else comes of it.
-/

namespace Adventure

namespace World

variable {count : Nat → Nat} {wait : Pending → Pending} (world : World)

theorem die_noting : (world.noting count wait).modifyPlayer (·.die) =
    (world.modifyPlayer (·.die)).noting count wait := by
  have hdie : (world.player.noting count wait).die = world.player.die.noting count wait := by
    have himmune : (world.player.noting count wait).isImmune = world.player.isImmune := rfl
    unfold Player.die
    rw [himmune]
    split <;> rfl
  exact congrArg (fun player => { world with player }) hdie

/-- A command that is forgotten is noted as such in any case. -/
theorem forget_noting (hwait : wait .idle = .idle) :
    (world.noting count wait).modifyPlayer (·.forget) =
      (world.modifyPlayer (·.forget)).noting count wait := by
  have hforget : (world.player.noting count wait).forget =
      world.player.forget.noting count wait := by
    simp only [Player.forget, Player.noting, hwait]
  exact congrArg (fun player => { world with player }) hforget

end World

variable {count : Nat → Nat} {wait : Pending → Pending}

/-- The turn with other notes on the player. -/
def Turn.noting (count : Nat → Nat) (wait : Pending → Pending) (turn : Turn) : Turn :=
  turn.withWorld (turn.world.noting count wait)

theorem Turn.world_noting (turn : Turn) :
    (turn.noting count wait).world = turn.world.noting count wait := rfl

namespace Stage

/-- A stage does the same whatever is noted on the player. Only a command that is forgotten is noted
as such in any case. -/
def Overlooks (stage : Stage) : Prop :=
  ∀ (count : Nat → Nat) (wait : Pending → Pending), wait .idle = .idle → ∀ turn command args,
    stage (turn.noting count wait) command args =
      ((stage turn command args).1.noting count wait, (stage turn command args).2)

/-! ## Handling things -/

theorem settle_noting (turn : Turn) (change : World × Except WorldError Unit) (key : String)
    (values : List String) (args : List Arg) :
    settle (turn.noting count wait) (change.1.noting count wait, change.2) key values args =
      ((settle turn change key values args).1.noting count wait,
        (settle turn change key values args).2) := by
  obtain ⟨changed, refusal | done⟩ := change <;> rfl

theorem overlooks_take : Overlooks take := by
  intro count wait _ turn command args
  unfold take
  cases itemAt args 0 with
  | none => rfl
  | some key =>
    dsimp only
    rw [turn.world_noting, World.holds_noting, World.owner?_noting, World.item?_noting,
      World.itemName_noting, World.currentInventory?_noting, World.inventoryFits_noting]
    split
    · rfl
    split
    · rfl
    split
    · rfl
    split
    · rfl
    split
    · rfl
    split
    · rfl
    · rw [World.tryInsert_noting]
      exact settle_noting ..

theorem overlooks_drop : Overlooks drop := by
  intro count wait _ turn command args
  unfold drop
  cases itemAt args 0 with
  | none => rfl
  | some key =>
    have hbare : (turn.noting count wait).withWorld
        ((turn.world.noting count wait).modifyItem key (·.withWorn false)) =
          (turn.withWorld (turn.world.modifyItem key (·.withWorn false))).noting count wait := rfl
    dsimp only
    rw [turn.world_noting, World.holds_noting, World.itemName_noting, hbare, Turn.world_noting,
      World.item?_noting, World.location_noting, World.tryInsert_noting, World.tryDestroy_noting]
    split
    · rfl
    split
    · exact settle_noting ..
    · exact settle_noting ..

theorem overlooks_insert : Overlooks insert := by
  intro count wait _ turn command args
  unfold insert
  split
  · rename_i key container _ _
    dsimp only
    rw [turn.world_noting, World.holds_noting, World.item?_noting, World.itemName_noting,
      World.currentInventory?_noting, World.inventoryFits_noting, World.acceptsKind_noting,
      World.copyInto_noting, World.tryInsert_noting]
    split
    · rename_i item target _ _
      split
      · rfl
      split
      · rfl
      split
      · rfl
      split
      · rfl
      split
      · rfl
      split
      · rfl
      by_cases hcopied : item.attributes.has ItemFlags.copyable = true
      · simp only [hcopied, if_true]
        cases (turn.world.copyInto (.item container) key).2 with
        | ok copy => rfl
        | error refusal => cases refusal <;> rfl
      · simp only [hcopied, Bool.false_eq_true, if_false]
        cases (turn.world.tryInsert (.item container) key).2 with
        | ok done => rfl
        | error refusal => cases refusal <;> rfl
    · rfl
  · rfl

theorem overlooks_wear : Overlooks wear := by
  intro count wait _ turn command args
  unfold wear
  cases itemAt args 0 with
  | none => rfl
  | some key =>
    dsimp only
    rw [turn.world_noting, World.holds_noting, World.item?_noting, World.itemName_noting]
    split
    · rfl
    split
    · rfl
    split <;> rfl

theorem overlooks_remove : Overlooks remove := by
  intro count wait _ turn command args
  unfold remove
  cases itemAt args 0 with
  | none => rfl
  | some key =>
    dsimp only
    rw [turn.world_noting, World.item?_noting, World.itemName_noting]
    split <;> rfl

theorem overlooks_consume : Overlooks consume := by
  intro count wait _ turn command args
  unfold consume
  cases itemAt args 0 with
  | none => rfl
  | some key =>
    dsimp only
    rw [turn.world_noting, World.item?_noting, World.itemName_noting, World.tryDestroy_noting]
    split
    · exact settle_noting ..
    · rfl

theorem overlooks_pour : Overlooks pour := by
  intro count wait _ turn command args
  unfold pour
  cases itemAt args 0 with
  | none => rfl
  | some key =>
    have hpoured : poured? (turn.world.noting count wait) key = poured? turn.world key := rfl
    dsimp only
    rw [turn.world_noting, World.itemName_noting, hpoured]
    split
    · rfl
    · rw [World.tryDestroy_noting]
      exact settle_noting ..

/-! ## Switching -/

theorem overlooks_switch : Overlooks switch := by
  intro count wait _ turn command args
  unfold switch
  cases itemAt args 0 with
  | none => rfl
  | some key =>
    dsimp only
    rw [turn.world_noting, World.item?_noting, World.itemName_noting, World.isSwitchedOn_noting,
      World.switch_noting]
    split
    · split
      · rfl
      · cases turn.world.switch key ((args[1]?.bind (·.transition?)).getD .toggle) <;> rfl
    · rfl

theorem overlooks_setPlayer : Overlooks setPlayer := by
  intro count wait _ turn command args
  unfold setPlayer
  cases command.switch <;> rfl

/-! ## Telling -/

theorem overlooks_look : Overlooks look := by
  intro count wait _ turn command args
  unfold look
  rw [turn.world_noting, World.lookAround_noting]
  rfl

theorem overlooks_describe : Overlooks describe := by
  intro count wait hwait turn command args
  unfold describe
  cases itemAt args 0 with
  | none => exact overlooks_look count wait hwait turn command args
  | some key =>
    dsimp only
    rw [turn.world_noting, World.item?_noting, World.listName_noting]
    split
    · rfl
    split <;> rfl

theorem overlooks_read : Overlooks read := by
  intro count wait _ turn command args
  unfold read
  cases itemAt args 0 with
  | none => rfl
  | some key =>
    dsimp only
    rw [turn.world_noting, World.item?_noting, World.itemName_noting]
    split <;> rfl

theorem overlooks_inventory : Overlooks inventory := by
  intro count wait _ turn command args
  unfold inventory
  rw [turn.world_noting, World.carried_noting, World.listName_noting]
  split <;> rfl

theorem overlooks_topic (table : Table String String) (missing : String) :
    Overlooks (topic table missing) := by
  intro count wait _ turn command args
  have htokens : (turn.noting count wait).tokens = turn.tokens := rfl
  unfold topic
  dsimp only
  rw [htokens]
  split
  · rfl
  split <;> rfl

/-! ## Moving -/

theorem arrive_noting (turn : Turn) (destination : LocationId) (args : List Arg) :
    (turn.noting count wait).arrive destination args =
      ((turn.arrive destination args).1.noting count wait, (turn.arrive destination args).2) := by
  have hmoved : (turn.noting count wait).modifyPlayer (·.moveTo destination) =
      (turn.modifyPlayer (·.moveTo destination)).noting count wait := rfl
  unfold Turn.arrive
  dsimp only
  rw [hmoved]
  generalize turn.modifyPlayer (·.moveTo destination) = moved
  have hdead : (moved.noting count wait).modifyPlayer (·.die) =
      (moved.modifyPlayer (·.die)).noting count wait :=
    congrArg moved.withWorld moved.world.die_noting
  rw [hdead, turn.world_noting, moved.world_noting, World.hasAirAt_noting, World.isImmune_noting,
    World.isVerbose_noting, World.canSee_noting, World.location?_noting, World.location_noting,
    World.lookAround_noting]
  split
  · rfl
  split
  · rfl
  split <;> rfl

theorem overlooks_go : Overlooks go := by
  intro count wait _ turn command args
  unfold go
  rw [turn.world_noting, World.obstruction?_noting, World.previous_noting, World.itemName_noting]
  split
  · rfl
  split
  · split
    · exact arrive_noting ..
    · rfl
  · exact arrive_noting ..

theorem overlooks_teleport : Overlooks teleport := by
  intro count wait _ turn command args
  unfold teleport
  split
  · rfl
  · exact arrive_noting ..

/-! ## Stages after the handler -/

theorem overlooks_postVision : Overlooks postVision := by
  intro count wait _ turn command args
  have hsaw : (turn.noting count wait).couldSee = turn.couldSee := rfl
  unfold postVision
  dsimp only
  rw [turn.world_noting, World.canSee_noting, World.lookAround_noting, hsaw]
  split <;> rfl

theorem overlooks_events : Overlooks events := by
  intro count wait _ turn command args
  unfold events
  dsimp only
  rw [turn.world_noting, World.eventKey_noting, World.readyEvent?_noting, World.event?_noting]
  split
  · rfl
  split
  · rfl
  · rename_i id _ _ event _
    rw [World.tryApplyAll_noting]
    obtain ⟨changed, refusal | done⟩ := turn.world.tryApplyAll event.outcome.actions
    · rfl
    · have hfired : (((changed.noting count wait).award event.outcome.score).markFired id) =
          ((changed.award event.outcome.score).markFired id).noting count wait := rfl
      dsimp only
      rw [hfired, World.isImmune_noting, World.die_noting]
      generalize (changed.award event.outcome.score).markFired id = fired
      have hfinal (dies : Bool) :
          (if dies = true then (fired.modifyPlayer (·.die)).noting count wait
            else fired.noting count wait) =
          (if dies = true then fired.modifyPlayer (·.die) else fired).noting count wait := by
        cases dies <;> rfl
      rw [hfinal, World.argText_noting]
      split <;> rfl

theorem overlooks_life : Overlooks life := by
  intro count wait hwait turn command args
  unfold life
  dsimp only
  rw [turn.world_noting, World.alive_noting, World.scatter_noting]
  split
  · rfl
  · refine Prod.ext ?_ rfl
    exact congrArg turn.withWorld (turn.world.scatter.forget_noting hwait)

/-! ## Handlers -/

/-- A stage goes on in the same way whatever is noted on the player, though it may tell of it. -/
def Mentions (stage : Stage) : Prop :=
  ∀ (count : Nat → Nat) (wait : Pending → Pending), wait .idle = .idle → ∀ turn command args,
    (stage (turn.noting count wait) command args).1 =
        (stage turn command args).1.noting count wait ∧
      (stage (turn.noting count wait) command args).2.success =
        (stage turn command args).2.success ∧
      (stage (turn.noting count wait) command args).2.next = (stage turn command args).2.next

theorem Overlooks.mentions {stage : Stage} (h : stage.Overlooks) : stage.Mentions := by
  intro count wait hwait turn command args
  rw [h count wait hwait]
  exact ⟨rfl, rfl, rfl⟩

theorem mentions_score : Mentions score := by
  intro count wait _ turn command args
  exact ⟨rfl, rfl, rfl⟩

theorem mentions_quit : Mentions quit := by
  intro count wait hwait turn command args
  refine ⟨?_, rfl, rfl⟩
  have hquit : (turn.noting count wait).modifyPlayer
      (fun player => { player with playing := false, pending := .idle }) =
        (turn.modifyPlayer fun player =>
          { player with playing := false, pending := .idle }).noting count wait := by
    simp only [Turn.noting, World.noting, Turn.modifyPlayer, Turn.withWorld, World.modifyPlayer,
      Player.noting, hwait]
  exact hquit

end Stage

/-- A handler that tells no number of moves does the same whatever is noted on the player. -/
theorem Handler.overlooks_stage {handler : Handler} (hscore : handler ≠ .score)
    (hquit : handler ≠ .quit) : handler.stage.Overlooks := by
  cases handler with
  | go => exact Stage.overlooks_go
  | teleport => exact Stage.overlooks_teleport
  | take => exact Stage.overlooks_take
  | drop => exact Stage.overlooks_drop
  | insert => exact Stage.overlooks_insert
  | wear => exact Stage.overlooks_wear
  | remove => exact Stage.overlooks_remove
  | consume => exact Stage.overlooks_consume
  | pour => exact Stage.overlooks_pour
  | switch => exact Stage.overlooks_switch
  | setPlayer => exact Stage.overlooks_setPlayer
  | look => exact Stage.overlooks_look
  | describe => exact Stage.overlooks_describe
  | read => exact Stage.overlooks_read
  | inventory => exact Stage.overlooks_inventory
  | score => exact absurd rfl hscore
  | help => exact fun _ _ _ _ _ _ => rfl
  | hint => exact fun count wait hwait turn => Stage.overlooks_topic _ _ count wait hwait turn
  | explain => exact fun count wait hwait turn => Stage.overlooks_topic _ _ count wait hwait turn
  | commands => exact fun _ _ _ _ _ _ => rfl
  | quit => exact absurd rfl hquit
  | interact => exact fun _ _ _ _ _ _ => rfl

theorem Handler.mentions_stage (handler : Handler) : handler.stage.Mentions := by
  by_cases hscore : handler = .score
  · rw [hscore]
    exact Stage.mentions_score
  by_cases hquit : handler = .quit
  · rw [hquit]
    exact Stage.mentions_quit
  · exact Stage.Overlooks.mentions (Handler.overlooks_stage hscore hquit)

/-! ## Runs -/

section Runs

variable {command : Command} {stages : List Stage}

/-- Stages that do the same whatever is noted say the same, one after the other. -/
theorem runStages_noting (hstages : ∀ stage ∈ stages, stage.Overlooks)
    (hwait : wait .idle = .idle) (turn : Turn) (args : List Arg) (said : List String) :
    runStages command stages (turn.noting count wait) args said =
      ((runStages command stages turn args said).1.noting count wait,
        (runStages command stages turn args said).2) := by
  induction stages generalizing turn args said with
  | nil => rfl
  | cons stage rest ih =>
    obtain ⟨hstage, hrest⟩ := List.forall_mem_cons.mp hstages
    simp only [runStages, hstage count wait hwait]
    split
    · exact ih hrest _ _ _
    · rfl

/-- Stages that at most tell of what is noted come to the same turn, whatever was said before. -/
theorem fst_runStages_noting (hstages : ∀ stage ∈ stages, stage.Mentions)
    (hwait : wait .idle = .idle) (turn : Turn) (args : List Arg) (said other : List String) :
    (runStages command stages (turn.noting count wait) args said).1 =
      (runStages command stages turn args other).1.noting count wait := by
  induction stages generalizing turn args said other with
  | nil => rfl
  | cons stage rest ih =>
    obtain ⟨hstage, hrest⟩ := List.forall_mem_cons.mp hstages
    obtain ⟨hturn, hsuccess, hnext⟩ := hstage count wait hwait turn command args
    simp only [runStages]
    rw [hturn, hsuccess, hnext]
    split
    · exact ih hrest _ _ _ _
    · rfl

/-- While stages run that at most tell of what is noted, no command begins to wait. -/
theorem idle_runStages (hstages : ∀ stage ∈ stages, stage.Mentions) {turn : Turn}
    (hidle : turn.world.player.pending = .idle) (args : List Arg) (said : List String) :
    (runStages command stages turn args said).1.world.player.pending = .idle := by
  have hsame : turn.noting id (fun _ => .idle) = turn := by
    simp only [Turn.noting, World.noting, Turn.withWorld, World.modifyPlayer, Player.noting, id,
      ← hidle]
  have hnoted : (runStages command stages (turn.noting id fun _ => .idle) args said).1 =
      (runStages command stages turn args said).1.noting id fun _ => .idle :=
    fst_runStages_noting hstages rfl turn args said said
  rw [hsame] at hnoted
  rw [hnoted]
  rfl

end Runs

namespace Command

/-- The stages once the arguments are found. -/
def performing (command : Command) : List Stage :=
  command.chosenHandler.stage :: (command.closing ++ [Stage.life])

theorem stages_eq_performing (command : Command) :
    command.stages = command.preparing ++ command.performing := by
  rw [stages_eq, List.append_assoc]
  rfl

/-- Apart from the handler, no stage tells what is noted. -/
theorem overlooks_of_mem_tail (command : Command) :
    ∀ stage ∈ command.performing.tail, stage.Overlooks := by
  intro stage hstage
  have hcases : stage ∈ command.closing ∨ stage ∈ [Stage.life] := List.mem_append.mp hstage
  rcases hcases with hclosing | hlife
  · rcases List.mem_append.mp hclosing with hpost | hevents
    · split at hpost
      · rw [List.mem_singleton.mp hpost]
        exact Stage.overlooks_postVision
      · cases hpost
    · rw [List.mem_singleton.mp hevents]
      exact Stage.overlooks_events
  · rw [List.mem_singleton.mp hlife]
    exact Stage.overlooks_life

theorem mentions_performing (command : Command) : ∀ stage ∈ command.performing, stage.Mentions :=
  List.forall_mem_cons.mpr ⟨command.chosenHandler.mentions_stage,
    fun stage hstage => (command.overlooks_of_mem_tail stage hstage).mentions⟩

theorem overlooks_performing {command : Command} (hscore : command.chosenHandler ≠ .score)
    (hquit : command.chosenHandler ≠ .quit) : ∀ stage ∈ command.performing, stage.Overlooks :=
  List.forall_mem_cons.mpr ⟨Handler.overlooks_stage hscore hquit, command.overlooks_of_mem_tail⟩

end Command

end Adventure
