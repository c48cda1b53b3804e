import Adventure.Proofs.Session.Reached

/-!
# References throughout a game

A description may refer to what it does not declare. What does is left out as the world is built, so
a loaded world refers to nothing but its own parts; and whatever is played, it goes on to do so.
Where the description has no errors, it declares a default inventory besides, and then some
inventory serves wherever the player gets.
-/

namespace Adventure

namespace World

variable {world changed : World}

/-- A world without errors among its inventories has a default one. -/
theorem exists_default (h : ∀ fault ∈ world.inventoryFaults, fault.isError = false) :
    ∃ inventory ∈ world.inventories.values, inventory.isDefault = true := by
  have hcount : world.inventories.values.countP (·.isDefault) = 1 := by
    by_contra hmiscounted
    have hnoted : ∃ message, Diagnostic.error message ∈ world.inventoryFaults := by
      unfold inventoryFaults
      simp only [if_neg hmiscounted]
      exact ⟨_, List.mem_append_left _ List.mem_cons_self⟩
    obtain ⟨message, hmem⟩ := hnoted
    cases h _ hmem
  have hpos : 0 < world.inventories.values.countP (·.isDefault) := by omega
  exact List.countP_pos_iff.mp hpos

/-- Where there is a default inventory, some inventory serves everywhere. -/
theorem isSome_inventoryAt? (h : ∃ inventory ∈ world.inventories.values, inventory.isDefault = true)
    (location : LocationId) : (world.inventoryAt? location).isSome = true := by
  have hdefault : (world.inventories.values.find? (·.isDefault)).isSome = true :=
    List.find?_isSome.mpr h
  unfold inventoryAt?
  rw [Option.isSome_map]
  simp [hdefault]

/-- A command that waits is one of the world, and its arguments are items of the world or words. -/
theorem Kept.pending_in (hkept : world.Kept) {id : CommandId} {verb : String} {args : List Arg}
    (hpending : world.player.pending = .awaiting id verb args) :
    (world.command? id).isSome = true ∧
      ∀ key, .item key ∈ args → (world.item? key).isSome = true := by
  obtain ⟨command, hcommand, -, -, hfills⟩ := (hkept.waits id verb args hpending).command
  refine ⟨Option.isSome_of_eq_some hcommand, fun key hmem => ?_⟩
  obtain ⟨holder, hholder⟩ :=
    Option.ne_none_iff_exists'.mp (holder?_ne_none_of_outermost? (hfills.argsFit _ hmem))
  exact world.isSome_item?_of_holder? hholder

end World

namespace Document

variable {document : Document} {loaded : Loaded}

/-- What is wrong with a loaded world is noted. -/
theorem faults_noted (h : document.load = .ok loaded) :
    ∀ fault ∈ loaded.world.faults, fault ∈ loaded.diagnostics := by
  unfold Document.load at h
  cases hbuild : ((Directory.ofDocument document).1.buildWorld document).run
      (Directory.ofDocument document).2 with
  | error cause => simp [hbuild, bind, Except.bind] at h
  | ok result =>
    simp only [hbuild, bind, Except.bind, pure, Except.pure, Except.ok.injEq] at h
    rw [← h]
    exact fun fault hfault => List.mem_append_right _ hfault

/-- A description without errors has a default inventory. -/
theorem exists_default (h : document.load = .ok loaded) (herrors : loaded.hasErrors = false) :
    ∃ inventory ∈ loaded.world.inventories.values, inventory.isDefault = true := by
  refine World.exists_default fun fault hfault => ?_
  have hnoted : fault ∈ loaded.diagnostics := by
    refine faults_noted h fault ?_
    unfold World.faults
    simp [hfault]
  exact Bool.eq_false_iff.mpr (List.any_eq_false.mp herrors fault hnoted)

end Document

namespace Session

variable {document : Document} {loaded : Loaded} {config : Config} {begun session : Session}

/-- **References resolve throughout a game.** Whatever description is loaded, and whatever is played
of it: the player, exits, teleport tables, inventories, items, switches and events refer only to
locations, items, inventories and commands of the world, attached descriptions are there, and so are
what holders list and what a waiting command needs. If no error was noted, some inventory serves
where the player is. -/
theorem closed_of_follows (hload : document.load = .ok loaded)
    (hstart : Session.start loaded.world config = .ok begun) (h : begun.Follows session) :
    session.world.Closed ∧
      (∀ holder, ∀ key ∈ session.world.contents holder,
        (session.world.item? key).isSome = true) ∧
      (∀ id verb args, session.world.player.pending = .awaiting id verb args →
        (session.world.command? id).isSome = true ∧
          ∀ key, .item key ∈ args → (session.world.item? key).isSome = true) ∧
      (loaded.hasErrors = false → session.world.currentInventory?.isSome = true) := by
  have hbegun : Reached begun := .begin hload hstart
  have hkept := (h.reached hbegun).kept
  refine ⟨hkept.closed, fun holder key hmem => ?_, fun id verb args => hkept.pending_in,
    fun herrors => ?_⟩
  · exact session.world.isSome_item?_of_holder? (hkept.own holder key hmem)
  · have hprepared : begun.world.setting = loaded.world.setting := by
      rw [(start_ok hstart).1]
      exact World.setting_modifyPlayer rfl
    have hsetting := (h.setting hbegun).trans hprepared
    have hdefault := Document.exists_default hload herrors
    unfold World.currentInventory?
    rw [World.inventoryAt?_of_setting hsetting]
    exact World.isSome_inventoryAt? hdefault _

/-- The lever has opened the way down and attached a description, and the player has fallen in the
dark. -/
theorem closed_of_follows_cellar :
    let session := cellar.play ["pull lever", "down"]
    ∃ loaded, Document.cellar.load = .ok loaded ∧ Session.start loaded.world {} = .ok cellar ∧
      cellar.Follows session ∧ session.world.Closed ∧
      (∀ holder, ∀ key ∈ session.world.contents holder,
        (session.world.item? key).isSome = true) ∧
      (∀ id verb args, session.world.player.pending = .awaiting id verb args →
        (session.world.command? id).isSome = true ∧
          ∀ key, .item key ∈ args → (session.world.item? key).isSome = true) ∧
      loaded.hasErrors = false ∧ session.world.currentInventory?.isSome = true := by
  intro session
  obtain ⟨loaded, hload, hstart⟩ := begins_of_begin? begin?_cellar
  have hfollows : cellar.Follows session := Follows.refl.play _
  obtain ⟨hclosed, hlisted, hwaits, hserves⟩ := closed_of_follows hload hstart hfollows
  have hnone : Document.cellar.load.toOption.any (·.hasErrors) = false := by decide +kernel
  have herrors : loaded.hasErrors = false := by simpa [hload, Except.toOption] using hnone
  exact ⟨loaded, hload, hstart, hfollows, hclosed, hlisted, hwaits, herrors, hserves herrors⟩

end Session

end Adventure
