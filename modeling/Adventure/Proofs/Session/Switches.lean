import Adventure.Proofs.Session.Reached
import Adventure.Proofs.World.Switches

/-!
# Switches throughout a game

Switches are wired when a world is loaded, and nothing that is done in a game rewires them; only
copies come with the wiring of what they are copied from. So whether every switch reads back what it
was set to, at every time of a game, is known from the world that was loaded.
-/

namespace Adventure

namespace World

variable {world changed : World}

/-- No change rewires a switch. -/
theorem Change.target?_eq (h : Change world changed) (key : ItemKey) :
    changed.target? key = world.target? key := by
  cases h with
  | player h => rfl
  | insert h => exact target?_congr (body?_insert h key)
  | destroy h => exact target?_destroy h key
  | item h => exact target?_modifyItem (fun _ => by cases h <;> rfl) key
  | location h => rfl
  | fire id => rfl

/-- Switches that act like those of another world act on the same things. -/
theorem targets_subset (h : ∀ key, ∃ other, changed.target? key = world.target? other) :
    changed.targets ⊆ world.targets := by
  intro target htarget
  obtain ⟨key, hkey⟩ := mem_targets.mp htarget
  obtain ⟨other, hsame⟩ := h key
  exact mem_targets.mpr ⟨other, hsame.symm.trans hkey⟩

/-- That nothing else is switched than certain targets endures: a copy switches what its model
does. -/
theorem enduring_targets (targets : List SwitchTarget) :
    Enduring fun world => world.targets ⊆ targets where
  player _ hbefore := hbefore
  change _ _ hchange hbefore :=
    List.Subset.trans (targets_subset fun key => ⟨key, hchange.target?_eq key⟩) hbefore
  copy hcopy hbefore := by
    refine List.Subset.trans (targets_subset fun key => ?_) hbefore
    rw [target?_copyItem hcopy]
    split
    · exact ⟨_, rfl⟩
    · exact ⟨key, rfl⟩

/-- In a world without dangling references every target is there and has a state. -/
theorem Closed.exists_targetState (hclosed : world.Closed) {target : SwitchTarget}
    (h : target ∈ world.targets) : ∃ state, world.targetState target = .ok state := by
  obtain ⟨key, hkey⟩ := mem_targets.mp h
  obtain ⟨item, hitem, htarget⟩ := Option.bind_eq_some_iff.mp hkey
  have hin := (hclosed.items key item hitem).target target htarget
  cases target with
  | item other flag =>
    obtain ⟨found, hfound⟩ := Option.isSome_iff_exists.mp hin
    exact ⟨found.attributes.has flag, by simp [targetState, hfound]⟩
  | location id flag =>
    obtain ⟨found, hfound⟩ := Option.isSome_iff_exists.mp hin
    exact ⟨found.attributes.has flag, by simp [targetState, location?, hfound]⟩

end World

namespace Session

variable {document : Document} {config : Config} {session later : Session}

/-- Nothing is switched in a game that was not switched in the beginning. -/
theorem Follows.targets (h : Follows session later) (hsession : Reached session) :
    later.world.targets ⊆ session.world.targets :=
  h.keeps (World.enduring_targets _) hsession (List.Subset.refl _)

/-- **What switches read back.** At every time of a game, a switch that is used tells the transition
of what it read before, changes the bits of its target and nothing else, and reads what it told,
unless its mask has no bit. So all switches read back what they were set to, at every time, exactly
if the world was loaded without a mask that has no bit. -/
theorem switches_read_back_iff (hbegins : document.begin? config = some session) :
    (∀ later, Follows session later → ∀ key transition changed state,
      later.world.switch key transition = .ok (changed, state) →
        ∃ target ∈ session.world.targets,
          later.world.Switches key transition target changed state) ∧
    ((∀ later, Follows session later → ∀ key transition changed state,
      later.world.switch key transition = .ok (changed, state) →
        changed.isSwitchedOn key = .ok state) ↔
      ∀ target ∈ session.world.targets, target.isBlank = false) := by
  have hreached := Reached.of_begin? hbegins
  have hall (later : Session) (hfollows : Follows session later) (key : ItemKey)
      (transition : Transition) (changed : World) (state : Bool)
      (h : later.world.switch key transition = .ok (changed, state)) :
      ∃ target ∈ session.world.targets,
        later.world.Switches key transition target changed state := by
    obtain ⟨target, hswitches⟩ := World.switches_of_switch h
    have hwired := World.mem_targets.mpr ⟨key, World.switchTarget_ok_iff.mp hswitches.acts⟩
    exact ⟨target, hfollows.targets hreached hwired, hswitches⟩
  refine ⟨hall, fun hreads target htarget => ?_, fun hmarked later hfollows key transition changed
    state h => ?_⟩
  · -- A switch without a mask is always on, so it does not read back that it is off.
    obtain ⟨key, hkey⟩ := World.mem_targets.mp htarget
    have hacts := World.switchTarget_ok_iff.mpr hkey
    obtain ⟨before, hbefore⟩ := hreached.kept.closed.exists_targetState htarget
    have hoff := World.switch_eq hacts hbefore .off
    obtain ⟨found, hswitches⟩ := World.switches_of_switch hoff
    cases hacts.symm.trans hswitches.acts
    exact Except.ok.inj (hswitches.reads.symm.trans (hreads session .refl key .off _ _ hoff))
  · obtain ⟨target, htarget, hswitches⟩ := hall later hfollows key transition changed state h
    rw [hswitches.reads, hmarked target htarget, Bool.or_false]

end Session

/-- A description of a beacon that is switched by a mask of its own, and of a lever and a knob,
which switch the hall and the light of the beacon. -/
def Document.beacon (mask : String) : Document :=
  let labels (name : String) : LabelsDecl := ⟨name, none, none, []⟩
  let item (num : Nat) (attributes name flag : String) (target : SwitchTargetDecl) : ItemDecl :=
    ⟨⟨num⟩, attributes, labels name, 2, none, some (.location ⟨1⟩),
      some ⟨target, flag, none, none⟩, none⟩
  { name := "beacon"
    commands := [⟨⟨1⟩, "8", "turn", [], none, [], none, []⟩]
    items := [item 1 "20" "beacon" mask (.item ⟨1⟩), item 2 "20" "lever" "3" (.location ⟨1⟩),
      item 3 "20" "knob" "80" (.item ⟨1⟩)]
    locations := [⟨⟨1⟩, "3", labels "hall", ∅⟩]
    events := []
    inventories := [⟨⟨1⟩, 50, true, []⟩]
    players := [⟨⟨1⟩, ""⟩]
    inputs := ∅
    hints := ∅
    explanations := ∅
    responses := ∅ }

namespace Session

/-- The session that begins over the beacon when that is lit and ventilated by its switch. -/
def beacon : Session := ((Document.beacon "180").begin? {}).get (by decide +kernel)

/-- With two bits in its mask, the beacon reads back what it was set to at every time, and so do the
others. Without any bit, it does not. -/
theorem switches_read_back_iff_beacon :
    (Document.beacon "180").begin? {} = some beacon ∧
      (beacon.world.switch ⟨0⟩ .on).toOption.map Prod.snd = some true ∧
      (∀ later, Follows beacon later → ∀ key transition changed state,
        later.world.switch key transition = .ok (changed, state) →
          changed.isSwitchedOn key = .ok state) ∧
      ((Document.beacon "").begin? {}).any (·.world.targets.any (·.isBlank)) = true := by
  have hbegins : (Document.beacon "180").begin? {} = some beacon := (Option.some_get _).symm
  have hmarked : ∀ target ∈ beacon.world.targets, target.isBlank = false := by decide +kernel
  exact ⟨hbegins, by decide +kernel, (switches_read_back_iff hbegins).2.mpr hmarked,
    by decide +kernel⟩

end Session

end Adventure
