import Adventure.Proofs.Turn.Arguments
import Adventure.Proofs.Turn.Deeds
import Adventure.Proofs.World.Room

/-!
# What handlers do

A handler that refuses its command leaves the world as it found it, even where the refusal comes
from the world itself. Dropping an item is the delicate case, since the item is taken off before it
is put down; putting in a copy is the other one, since the copy is made before it is put in. In both
the second step cannot fail. All handlers but one do nothing else than what events may do as well,
and which item is copied by that one can be told from its arguments. A handler that is not refused
does the deed that was foreseen.
-/

namespace Adventure

namespace World

/-- What carrying out a command comes to: any number of changes, or putting a copy of an item
somewhere. -/
def Carries (world : World) : Option ItemKey → World → Prop
  | none, changed => world.Evolves changed
  | some model, changed => ∃ holder copy, world.copyInto holder model = (changed, .ok copy)

end World

/-- The item of which a handler makes a copy, if it makes one. -/
def Handler.model? (turn : Turn) (command : Command) (args : List Arg) :
    Handler → Option ItemKey
  | insert =>
    if (Stage.insert turn command args).2.success then
      (Stage.itemAt args 0).filter fun key =>
        (turn.world.item? key).any (·.attributes.has ItemFlags.copyable)
    else none
  | _ => none

/-- A handler that refuses its command makes no copy. -/
theorem Handler.model?_of_refused (handler : Handler) {turn : Turn} {command : Command}
    {args : List Arg} (h : (handler.stage turn command args).2.success = false) :
    handler.model? turn command args = none := by
  cases handler with
  | insert => exact if_neg (ne_true_of_eq_false h)
  | _ => rfl

namespace Turn

/-- What a stage does that carries a command out and makes a copy of the item `model`, if any. -/
structure Acts (turn : Turn) (model : Option ItemKey) (result : Turn × Report) : Prop where
  /-- Nothing changes when the command is refused. -/
  refused : result.2.success = false → result.1.world = turn.world
  /-- Whatever changes is among what carrying out a command comes to. -/
  carries : turn.world.Carries model result.1.world

variable {turn changed : Turn} {args : List Arg} {report : Report}

/-- A command may be refused or answered without any change. -/
theorem Acts.stay (turn : Turn) (report : Report) : turn.Acts none (turn, report) :=
  ⟨fun _ => rfl, .refl turn.world⟩

/-- A command that is carried out may change the world. -/
theorem Acts.succeed {model : Option ItemKey} (hreport : report.success = true)
    (h : turn.world.Carries model changed.world) : turn.Acts model (changed, report) := by
  refine ⟨fun hrefused => ?_, h⟩
  rw [hreport] at hrefused
  cases hrefused

/-- Settling on a change that cannot be refused does the change. -/
theorem Acts.settle {other : Turn} {outcome : World × Except WorldError Unit}
    {change : Except WorldError World} {world : World} {key : String} {values : List String}
    (houtcome : outcome = other.world.attempt change) (hchange : change = .ok world)
    (h : turn.world.Evolves world) :
    turn.Acts none (Stage.settle other outcome key values args) := by
  subst houtcome hchange
  exact .succeed rfl h

end Turn

/-- Looking around changes no more than that the location has been seen. -/
theorem World.evolves_lookAround (world : World) (full : Bool) :
    world.Evolves (world.lookAround full).1 := by
  unfold lookAround
  split
  · exact .single (.location .visit)
  · exact .refl _

namespace Turn

variable {turn : Turn} {result : Turn × Report}

theorem Settles.acts {deed : Deed} (h : turn.Settles deed result) (hmodel : deed.model? = none) :
    turn.Acts none result := by
  cases h with
  | refused _ => exact .stay _ _
  | done hsuccess hdeed hdoes => exact .succeed hsuccess (hdoes.evolves hdeed hmodel)

theorem OnlyTells.acts (h : turn.OnlyTells result) : turn.Acts none result := by
  cases h with
  | stays report => exact .stay _ _
  | looks hsuccess => exact .succeed hsuccess (turn.world.evolves_lookAround true)

end Turn

namespace Stage

variable {turn : Turn} (command : Command) {args : List Arg}

/-- An item among fitting arguments is somewhere. -/
theorem suits_itemAt (hargs : turn.world.ArgsFit args) {index : Nat} {key : ItemKey}
    (h : itemAt args index = some key) : (turn.world.outermost? key).isSome = true := by
  obtain ⟨arg, harg, hitem⟩ := Option.bind_eq_some_iff.mp h
  have hsuits := hargs arg (List.mem_of_getElem? harg)
  cases arg <;> simp only [Arg.item?, Option.some.injEq, reduceCtorEq] at hitem
  subst hitem
  exact hsuits

/-! ## Things -/

/-- What the player holds exists. -/
theorem isSome_item?_of_holds {world : World} {key : ItemKey} (h : world.holds key = true) :
    (world.item? key).isSome = true := by
  have hplace : (world.outermost? key).isSome = true := by
    unfold World.holds at h
    split at h
    · rename_i houter _
      simp [houter]
    · cases h
  have hholder := World.holder?_ne_none_of_outermost? hplace
  obtain ⟨holder, hname⟩ := Option.ne_none_iff_exists'.mp hholder
  exact world.isSome_item?_of_holder? hname

/-- An item that is dropped is first taken off, and then there is a location to lay it down at. -/
theorem acts_drop (hclosed : turn.world.Closed) : turn.Acts none (drop turn command args) := by
  rcases drop_outcome command with ⟨report, -, hstage⟩ | ⟨key, -, hheld, hstage⟩
  · rw [hstage]
    exact .stay _ _
  · rw [hstage]
    let taken := turn.world.modifyItem key (·.withWorn false)
    have hoff : turn.world.Change taken := .wear key false
    have hknown : (taken.item? key).isSome = true := by
      rw [World.isSome_item?_modifyItem]
      exact isSome_item?_of_holds hheld
    split
    · obtain ⟨changed, hdestroy⟩ := World.exists_destroy hknown
      exact .settle (World.tryDestroy_eq _ _) hdestroy
        ((World.Evolves.single hoff).step (.destroy hdestroy))
    · have hadmits : taken.Admits (.location taken.player.location) key :=
        ⟨hknown, (hoff.closed hclosed).here, by rintro _ ⟨⟩, by rintro _ ⟨⟩⟩
      obtain ⟨changed, hinsert⟩ := World.exists_insert hadmits
      exact .settle (World.tryInsert_eq _ _ _) hinsert
        ((World.Evolves.single hoff).step (.insert hinsert))

/-- Putting an item into something is refused with nothing changed, or the item fits and can be
carried, and it is moved or a copy of it is made and moved. Since the container is somewhere and
free, it does not refuse a copy that was made. -/
theorem insert_outcome (hargs : turn.world.ArgsFit args) {result : Turn × Report}
    (h : insert turn command args = result) :
    (∃ values key, result = (turn, turn.refuse key values)) ∨
      ∃ key container, itemAt args 0 = some key ∧ itemAt args 1 = some container ∧
        result.2.success = true ∧ turn.world.containerFits container key = true ∧
          (turn.world.holds container = true → turn.world.holds key = false →
            turn.world.currentInventory?.any (turn.world.inventoryFits · key) = true) ∧
            if (turn.world.item? key).any (·.attributes.has ItemFlags.copyable) then
              ∃ copy, turn.world.copyInto (.item container) key = (result.1.world, .ok copy)
            else turn.world.insert (.item container) key = .ok result.1.world := by
  unfold insert at h
  split at h
  · rename_i key container hkey hcontainer
    have hplace := suits_itemAt hargs hcontainer
    simp only [] at h
    split at h
    · rename_i item target hitem htarget
      split at h
      · exact .inl ⟨_, _, h.symm⟩
      · rename_i compartment hroom
        split at h
        · exact .inl ⟨_, _, h.symm⟩
        · rename_i hne
          split at h
          · exact .inl ⟨_, _, h.symm⟩
          · rename_i hfree
            split at h
            · exact .inl ⟨_, _, h.symm⟩
            · rename_i hkind
              split at h
              · exact .inl ⟨_, _, h.symm⟩
              · rename_i hsize
                split at h
                · exact .inl ⟨_, _, h.symm⟩
                · rename_i hgains
                  have hfits : turn.world.containerFits container key = true :=
                    (World.containerFits_iff htarget hitem).mpr
                      ⟨⟨compartment, hroom, hfree⟩, hne, by simpa using hkind, by omega⟩
                  have hcarried : turn.world.holds container = true →
                      turn.world.holds key = false →
                        turn.world.currentInventory?.any (turn.world.inventoryFits · key) =
                          true := by
                    intro hheld hapart
                    simpa [hheld, hapart] using hgains
                  by_cases hcopyable : item.attributes.has ItemFlags.copyable = true
                  · simp only [hcopyable, if_true] at h
                    rcases World.copyInto_outcome (World.contents_of_fits hfits) hplace with
                      ⟨refusal, hrefused⟩ | ⟨copied, copy, filled, hcopy, hfilled, hdone⟩
                    · rw [hrefused] at h
                      cases refusal <;> exact .inl ⟨_, _, h.symm⟩
                    · rw [hdone] at h
                      subst h
                      refine .inr ⟨key, container, hkey, hcontainer, rfl, hfits, hcarried, ?_⟩
                      rw [hitem, Option.any_some, if_pos hcopyable]
                      exact ⟨copy, hdone⟩
                  · simp only [hcopyable, Bool.false_eq_true, if_false, World.tryInsert_eq] at h
                    cases hinsert : turn.world.insert (.item container) key with
                    | ok changed =>
                      rw [hinsert] at h
                      subst h
                      refine .inr ⟨key, container, hkey, hcontainer, rfl, hfits, hcarried, ?_⟩
                      rw [hitem, Option.any_some, if_neg hcopyable]
                      exact hinsert
                    | error refusal =>
                      rw [hinsert] at h
                      cases refusal <;> exact .inl ⟨_, _, h.symm⟩
    · exact .inl ⟨_, _, h.symm⟩
  · exact .inl ⟨_, _, h.symm⟩

/-- An item that is put in is moved or copied. -/
theorem acts_insert (hargs : turn.world.ArgsFit args) :
    turn.Acts (Handler.insert.model? turn command args) (insert turn command args) := by
  unfold Handler.model?
  generalize hresult : insert turn command args = result
  rcases insert_outcome command hargs hresult with
    ⟨values, key, rfl⟩ | ⟨key, container, hkey, -, hsuccess, -, -, hdone⟩
  · exact .stay _ _
  · obtain ⟨changed, report⟩ := result
    rw [if_pos hsuccess, hkey, Option.filter_some]
    split at hdone
    · rename_i hcopyable
      rw [if_pos hcopyable]
      exact .succeed hsuccess ⟨_, hdone⟩
    · rename_i hcopyable
      rw [if_neg hcopyable]
      exact .succeed hsuccess (World.Evolves.single (.insert hdone))

/-! ## Other commands -/

theorem acts_switch : turn.Acts none (switch turn command args) := by
  rcases switch_outcome command with ⟨report, -, hstage⟩ | ⟨target, on, report, hsuccess, hstage⟩
  · rw [hstage]
    exact .stay _ _
  · rw [hstage]
    exact .succeed hsuccess (World.Evolves.single (.setTarget on target))

theorem acts_setPlayer : turn.Acts none (setPlayer turn command args) := by
  unfold setPlayer
  split
  · exact .stay _ _
  · exact .succeed rfl (World.Evolves.single (.player (.assign _ _)))

theorem acts_quit : turn.Acts none (quit turn command args) :=
  .succeed rfl (World.Evolves.single (.player .quit))

/-! ## Moving -/

/-- Arriving at a location is never refused. -/
theorem acts_arrive {destination : LocationId} (hknown : turn.world.Knows destination) :
    turn.Acts none (turn.arrive destination args) := by
  have hmoves : turn.world.Change (turn.world.modifyPlayer (·.moveTo destination)) :=
    .moveTo hknown
  unfold Turn.arrive
  simp only []
  split
  · exact .succeed rfl ((World.Evolves.single hmoves).step .die)
  · split
    · refine .succeed rfl ((World.Evolves.single hmoves).trans ?_)
      exact World.evolves_lookAround _ true
    · split
      · exact .succeed rfl ((World.Evolves.single hmoves).step .die)
      · exact .succeed rfl (World.Evolves.single hmoves)

/-- A location among fitting arguments exists. -/
theorem knows_head (hargs : turn.world.ArgsFit args) {destination : LocationId}
    (h : args.head?.bind (·.location?) = some destination) : turn.world.Knows destination := by
  obtain ⟨arg, harg, hlocation⟩ := Option.bind_eq_some_iff.mp h
  have hsuits := hargs arg (List.mem_of_head? harg)
  cases arg <;> simp only [Arg.location?, Option.some.injEq, reduceCtorEq] at hlocation
  subst hlocation
  exact hsuits

theorem acts_go (hargs : turn.world.ArgsFit args) : turn.Acts none (go turn command args) := by
  rcases go_outcome command with ⟨report, -, hstage⟩ | ⟨destination, hgoal, hstage⟩
  · rw [hstage]
    exact .stay _ _
  · rw [hstage]
    exact acts_arrive (knows_head hargs hgoal)

theorem acts_teleport (hargs : turn.world.ArgsFit args) :
    turn.Acts none (teleport turn command args) := by
  rcases teleport_outcome command with ⟨report, -, hstage⟩ | ⟨destination, hgoal, hstage⟩
  · rw [hstage]
    exact .stay _ _
  · rw [hstage]
    exact acts_arrive (knows_head hargs hgoal)

end Stage

/-- Every handler that refuses its command leaves the world as it was, and one that carries its
command out does no more to it than what a turn may do. -/
theorem Handler.acts_stage (handler : Handler) {turn : Turn} {command : Command} {args : List Arg}
    (hclosed : turn.world.Closed) (hargs : turn.world.ArgsFit args) :
    turn.Acts (handler.model? turn command args) (handler.stage turn command args) := by
  cases handler with
  | go => exact Stage.acts_go command hargs
  | teleport => exact Stage.acts_teleport command hargs
  | drop => exact Stage.acts_drop command hclosed
  | insert => exact Stage.acts_insert command hargs
  | switch => exact Stage.acts_switch command
  | setPlayer => exact Stage.acts_setPlayer command
  | quit => exact Stage.acts_quit command
  | take | wear | remove | consume | pour =>
    exact (settles rfl turn command args).acts (model?_deed rfl _ _)
  | _ => exact (onlyTells rfl turn command args).acts

/-! ## Deeds done -/

namespace Turn

variable {turn changed other : Turn} {deed : Deed} {report : Report}

/-- A stage that is refused or does a deed. -/
def Performs (turn : Turn) (deed : Deed) (result : Turn × Report) : Prop :=
  result.2.success = true → turn.world.Does deed result.1.world

theorem Performs.refuse (key : String) (values : List String) :
    turn.Performs deed (changed, other.refuse key values) := by
  intro hsuccess
  cases hsuccess

theorem Performs.rest (h : turn.world.Rests changed.world) :
    turn.Performs .rest (changed, report) := fun _ => .rest h

/-- Nothing is done to things by a stage that changes the player, unless it awards points. -/
theorem Performs.player {f : Player → Player}
    (hstart : (f turn.world.player).start = turn.world.player.start)
    (hscore : (f turn.world.player).score = turn.world.player.score) :
    turn.Performs .rest (turn.modifyPlayer f, report) :=
  .rest (World.rests_modifyPlayer hstart hscore)

/-- Nothing is done by a stage that only tells something. -/
theorem Performs.tell : turn.Performs .rest (turn, report) := .rest (.refl turn.world)

/-- A stage that settles on a change does what the change does. -/
theorem Performs.settle {outcome : World × Except WorldError Unit}
    {change : Except WorldError World} {key : String} {values : List String} {args : List Arg}
    (houtcome : outcome = other.world.attempt change)
    (h : ∀ world, change = .ok world → turn.world.Does deed world) :
    turn.Performs deed (Stage.settle other outcome key values args) := by
  subst houtcome
  cases change with
  | ok world => exact fun _ => h world rfl
  | error refusal => exact .refuse _ _

theorem Settles.performs {result : Turn × Report} (h : turn.Settles deed result) :
    turn.Performs deed result := by
  cases h with
  | refused hrefused => exact fun hsuccess => Bool.noConfusion (hrefused.symm.trans hsuccess)
  | done _ _ hdoes => exact fun _ => hdoes

theorem OnlyTells.performs {result : Turn × Report} (h : turn.OnlyTells result) :
    turn.Performs .rest result := by
  cases h with
  | stays report => exact .tell
  | looks hsuccess => exact .rest (turn.world.rests_lookAround true)

end Turn

namespace Stage

variable {turn : Turn} (command : Command) {args : List Arg}

theorem performs_drop :
    turn.Performs (Handler.drop.deed turn.world args) (drop turn command args) := by
  rcases drop_outcome command with ⟨report, hrefused, hstage⟩ | ⟨key, hkey, hheld, hstage⟩
  · rw [hstage]
    exact fun hsuccess => Bool.noConfusion (hrefused.symm.trans hsuccess)
  · rw [hstage]
    split
    · rename_i hdrains
      have hdeed : Handler.drop.deed turn.world args = .spend key := by
        simp only [Handler.deed, hkey, hdrains, if_true]
      rw [hdeed]
      refine .settle (World.tryDestroy_eq _ _) fun world h => .spend ?_
      rwa [← World.destroy_withWorn_false]
    · rename_i hsolid
      have hdeed : Handler.drop.deed turn.world args = .drop key := by
        simp only [Handler.deed, hkey, hsolid, Bool.false_eq_true, if_false]
      rw [hdeed]
      exact .settle (World.tryInsert_eq _ _ _) fun world h => .drop hheld h

/-- Putting an item into something moves the item or a copy of it. -/
theorem performs_insert (hargs : turn.world.ArgsFit args) :
    turn.Performs (Handler.insert.deed turn.world args) (insert turn command args) := by
  generalize hresult : insert turn command args = result
  rcases insert_outcome command hargs hresult with
    ⟨values, key, rfl⟩ | ⟨key, container, hkey, hcontainer, -, hfits, hcarried, hdone⟩
  · exact .refuse _ _
  · have hempty := World.contents_of_fits hfits
    simp only [Handler.deed, hkey, hcontainer]
    split at hdone
    · rename_i hcopyable
      obtain ⟨copy, hinto⟩ := hdone
      rw [if_pos hcopyable]
      exact fun _ => .copy hempty hcarried hinto
    · rename_i hcopyable
      rw [if_neg hcopyable]
      exact fun _ => .put hempty hcarried hdone

theorem performs_switch : turn.Performs .rest (switch turn command args) := by
  rcases switch_outcome command with ⟨report, hrefused, hstage⟩ | ⟨target, on, report, -, hstage⟩
  · rw [hstage]
    exact .tell
  · rw [hstage]
    exact .rest (turn.world.rests_setTarget on target)

theorem performs_setPlayer : turn.Performs .rest (setPlayer turn command args) := by
  unfold setPlayer
  split
  · exact .refuse _ _
  · exact .player rfl rfl

theorem performs_arrive {destination : LocationId} :
    turn.Performs .rest (turn.arrive destination args) := by
  have hmoves : turn.world.Rests (turn.world.modifyPlayer (·.moveTo destination)) :=
    World.rests_modifyPlayer rfl rfl
  unfold Turn.arrive
  simp only []
  split
  · exact .rest (hmoves.trans (World.rests_die _))
  · split
    · exact .rest (hmoves.trans (World.rests_lookAround _ true))
    · split
      · exact .rest (hmoves.trans (World.rests_die _))
      · exact .rest hmoves

theorem performs_go : turn.Performs .rest (go turn command args) := by
  rcases go_outcome command with ⟨report, -, hstage⟩ | ⟨destination, -, hstage⟩
  · rw [hstage]
    exact .tell
  · rw [hstage]
    exact performs_arrive

theorem performs_teleport : turn.Performs .rest (teleport turn command args) := by
  rcases teleport_outcome command with ⟨report, -, hstage⟩ | ⟨destination, -, hstage⟩
  · rw [hstage]
    exact .tell
  · rw [hstage]
    exact performs_arrive

end Stage

/-- Every handler that is not refused does the deed that was foreseen. -/
theorem Handler.does_stage (handler : Handler) {turn : Turn} {command : Command} {args : List Arg}
    (hargs : turn.world.ArgsFit args) :
    turn.Performs (handler.deed turn.world args) (handler.stage turn command args) := by
  cases handler with
  | go => exact Stage.performs_go command
  | teleport => exact Stage.performs_teleport command
  | drop => exact Stage.performs_drop command
  | insert => exact Stage.performs_insert command hargs
  | switch => exact Stage.performs_switch command
  | setPlayer => exact Stage.performs_setPlayer command
  | quit => exact .player rfl rfl
  | take | wear | remove | consume | pour => exact (settles rfl turn command args).performs
  | _ => exact (onlyTells rfl turn command args).performs

end Adventure
