import Adventure.Proofs.Turn.Arrival

/-!
# What an arrival comes to

Whether one can breathe and see at a location is told by the location, by what is directly in the
inventory that serves there and, for the light, by what lies there. Whoever arrives somewhere is
there, has come from where one was, and lives if immune, or if one can breathe there and can see or
go straight back. The place is remembered by those who saw it and did not drown, and nothing else in
the world changes.
-/

namespace Adventure

namespace World

variable {world : World} {place : LocationId}

/-! ## Air and light -/

/-- An item has an attribute of itself or by being worn. -/
def Provides (world : World) (flag : ItemFlags) (key : ItemKey) : Prop :=
  ∃ item, world.item? key = some item ∧ item.effectiveAttributes.has flag = true

/-- An item with an attribute is directly in the inventory that serves at a location. -/
def Supplied (world : World) (flag : ItemFlags) (place : LocationId) : Prop :=
  ∃ inventory, world.inventoryAt? place = some inventory ∧
    ∃ key ∈ world.contents (.inventory inventory), world.Provides flag key

/-- One can breathe at a location: it has air, or something that is carried there gives air. -/
def Breathable (world : World) (place : LocationId) : Prop :=
  (∃ location, world.location? place = some location ∧
    location.attributes.has LocationFlags.givesAir = true) ∨
  world.Supplied ItemFlags.givesAir place

/-- One can see at a location: it is lit, or something that is carried there or lies there gives
light. -/
def Lit (world : World) (place : LocationId) : Prop :=
  (∃ location, world.location? place = some location ∧
    location.attributes.has LocationFlags.givesLight = true) ∨
  world.Supplied ItemFlags.givesLight place ∨
  ∃ key ∈ world.contents (.location place), world.Provides ItemFlags.givesLight key

theorem hasEffective_iff {flag : ItemFlags} {key : ItemKey} :
    world.hasEffective flag key = true ↔ world.Provides flag key := by
  simp [hasEffective, Provides, Option.any_eq_true]

theorem any_carriedAt_iff {flag : ItemFlags} :
    (world.carriedAt place).any (world.hasEffective flag) = true ↔ world.Supplied flag place := by
  unfold carriedAt Supplied
  cases world.inventoryAt? place with
  | none => simp
  | some inventory => simp [List.any_eq_true, hasEffective_iff]

theorem hasAirAt_iff : world.hasAirAt place = true ↔ world.Breathable place := by
  rw [hasAirAt, Bool.or_eq_true, any_carriedAt_iff, Option.any_eq_true]
  rfl

theorem canSeeAt_iff : world.canSeeAt place = true ↔ world.Lit place := by
  have hgives : world.givesLight = world.hasEffective ItemFlags.givesLight := rfl
  rw [canSeeAt, hgives, List.any_append, Bool.or_eq_true, Bool.or_eq_true, any_carriedAt_iff,
    Option.any_eq_true, List.any_eq_true]
  simp only [hasEffective_iff]
  rfl

/-! ## Mishaps -/

/-- Somebody who arrives at a location drowns there. -/
def Drowns (world : World) (place : LocationId) : Prop :=
  world.player.isImmune = false ∧ ¬ world.Breathable place

theorem mishap?_eq_drowning_iff :
    world.mishap? place = some .drowning ↔ world.Drowns place := by
  have hair : (world.movedTo place).hasAirAt place = world.hasAirAt place := rfl
  have himmune : (world.movedTo place).player.isImmune = world.player.isImmune := rfl
  unfold mishap? Drowns
  dsimp only
  rw [hair, himmune, ← hasAirAt_iff]
  cases world.player.isImmune <;> cases world.hasAirAt place <;> simp

/-- One falls in the dark only. -/
theorem not_lit_of_fall (h : world.mishap? place = some .fall) : ¬ world.Lit place := by
  intro hlit
  have hsees : (world.movedTo place).canSee = true := canSeeAt_iff.mpr hlit
  unfold mishap? at h
  dsimp only at h
  rw [hsees, Bool.true_or, if_pos rfl] at h
  split_ifs at h
  cases h

/-- An arrival is safe for those who are immune, and for those who can breathe and either see or go
straight back. -/
theorem mishap?_eq_none_iff {location : Location} (hplace : world.location? place = some location) :
    world.mishap? place = none ↔ world.player.isImmune = true ∨ world.Breathable place ∧
      (world.Lit place ∨
        ∃ direction, location.destination direction = some world.player.location) := by
  have hair : (world.movedTo place).hasAirAt place = world.hasAirAt place := rfl
  have hlight : (world.movedTo place).canSee = world.canSeeAt place := rfl
  have himmune : (world.movedTo place).player.isImmune = world.player.isImmune := rfl
  have hthere : (world.movedTo place).location? place = some location := hplace
  have hback : location.hasExitTo world.player.location = true ↔
      ∃ direction, location.destination direction = some world.player.location := by
    rw [Location.hasExitTo, List.contains_iff_mem, Table.mem_values]
    rfl
  unfold mishap?
  dsimp only
  rw [hair, hlight, himmune, hthere, Option.any_some, ← hasAirAt_iff, ← canSeeAt_iff, ← hback]
  cases world.player.isImmune <;> cases world.hasAirAt place <;> cases world.canSeeAt place <;>
    cases location.hasExitTo world.player.location <;> simp

end World

/-! ## Arrivals -/

namespace World

variable (world : World) {destination : LocationId} {place : Location}

/-- The world after an arrival: the player is there and lives or not, and the place has been seen or
not. -/
def afterArrival (destination : LocationId) (place : Location) (alive visited : Bool) : World :=
  { world with
    player :=
      { world.player with
        location := destination, previous := some world.player.location, alive }
    locations := world.locations.insert destination { place with visited } }

variable {world}

/-- Whoever moves and lives has arrived with the place as it was. -/
theorem movedTo_eq_afterArrival (hplace : world.location? destination = some place)
    (halive : world.player.alive = true) :
    world.movedTo destination = world.afterArrival destination place true place.visited := by
  have hkept : world.locations.insert destination place = world.locations :=
    Table.insert_eq_self hplace
  unfold afterArrival
  rw [hkept, ← halive]
  rfl

/-- Whoever sees the place then has it seen. -/
theorem lookAround_movedTo (hplace : world.location? destination = some place)
    (halive : world.player.alive = true) (full : Bool)
    (hlit : (world.movedTo destination).canSee = true) :
    ((world.movedTo destination).lookAround full).1 =
      world.afterArrival destination place true true := by
  have hseen : world.locations.modify destination (fun l => { l with visited := true }) =
      world.locations.insert destination { place with visited := true } :=
    Table.modify_eq_insert hplace _
  unfold lookAround afterArrival
  rw [hlit, if_pos rfl, ← hseen, ← halive]
  rfl

/-- Whoever moves and dies there has arrived with the place as it was. -/
theorem die_movedTo (hplace : world.location? destination = some place)
    (hmortal : world.player.isImmune = false) :
    (world.movedTo destination).modifyPlayer (·.die) =
      world.afterArrival destination place false place.visited := by
  have hkept : world.locations.insert destination place = world.locations :=
    Table.insert_eq_self hplace
  have hdies : (world.player.moveTo destination).die =
      { world.player.moveTo destination with alive := false } := by
    have himmune : (world.player.moveTo destination).isImmune = false := hmortal
    rw [Player.die, himmune, if_neg Bool.false_ne_true]
  unfold afterArrival modifyPlayer
  rw [hkept]
  exact congrArg (fun player => { world with player }) hdies

end World

namespace Turn

variable {turn : Turn} {destination : LocationId} {place : Location} {args : List Arg}

/-- A safe arrival leaves a living player, and the place seen if there is light. -/
theorem arrived_outcome (hplace : turn.world.location? destination = some place)
    (halive : turn.world.player.alive = true) :
    (turn.arrived destination args).1.world =
      turn.world.afterArrival destination place true
        (place.visited || turn.world.canSeeAt destination) := by
  have hlight : (turn.world.movedTo destination).canSee = turn.world.canSeeAt destination := rfl
  unfold arrived
  dsimp only
  split
  · rename_i hsees
    rw [World.lookAround_movedTo hplace halive _ hsees, ← hlight, hsees, Bool.or_true]
  · rename_i hdark
    rw [← hlight, Bool.eq_false_iff.mpr hdark, Bool.or_false]
    exact World.movedTo_eq_afterArrival hplace halive

/-- **What an arrival comes to.** Whoever arrives somewhere is there and has come from where one
was. The player lives exactly if immune, or if one can breathe there and either see or go straight
back along an exit, the derived one included. The place is known to have been seen exactly if it was
so before, or if one can see there and the player did not drown. Nothing else in the world
changes. -/
theorem arrive_outcome (turn : Turn) (destination : LocationId) (args : List Arg) {place : Location}
    (hplace : turn.world.location? destination = some place)
    (halive : turn.world.player.alive = true) :
    ∃ alive visited : Bool,
      (turn.arrive destination args).1.world =
        turn.world.afterArrival destination place alive visited ∧
      (alive = true ↔ turn.world.player.isImmune = true ∨ turn.world.Breathable destination ∧
        (turn.world.Lit destination ∨
          ∃ direction, place.destination direction = some turn.world.player.location)) ∧
      (visited = true ↔ place.visited = true ∨
        turn.world.Lit destination ∧ ¬ turn.world.Drowns destination) := by
  have hsafe := World.mishap?_eq_none_iff hplace
  have hdrowns : turn.world.mishap? destination = some .drowning ↔
      turn.world.Drowns destination := World.mishap?_eq_drowning_iff
  rw [arrive_eq]
  cases hmishap : turn.world.mishap? destination with
  | none =>
    rw [hmishap] at hdrowns
    have hdry : ¬ turn.world.Drowns destination := fun h => nomatch hdrowns.mpr h
    refine ⟨true, _, arrived_outcome hplace halive, iff_of_true rfl (hsafe.mp hmishap), ?_⟩
    rw [Bool.or_eq_true, World.canSeeAt_iff, and_iff_left hdry]
  | some mishap =>
    have hmortal := World.not_immune_of_mishap hmishap
    refine ⟨false, place.visited, World.die_movedTo hplace hmortal, ?_, ?_⟩
    · rw [← hsafe, hmishap]
      exact iff_of_false Bool.false_ne_true (Option.some_ne_none _)
    · refine (or_iff_left fun ⟨hlit, hdry⟩ => ?_).symm
      cases mishap with
      | drowning => exact hdry (hdrowns.mp hmishap)
      | fall => exact World.not_lit_of_fall hmishap hlit

/-- The player leaves the lit hall for the cellar, where there is air but no light and from where no
exit leads back: the player falls and has not seen the cellar. -/
theorem arrive_outcome_cellar :
    let turn := (Session.cellar.play ["pull lever"]).countedTurn "down" []
    ∃ cellar, turn.world.location? ⟨2⟩ = some cellar ∧ cellar.visited = false ∧
      turn.world.player.alive = true ∧ turn.world.Breathable ⟨2⟩ ∧ ¬ turn.world.Lit ⟨2⟩ ∧
      (turn.arrive ⟨2⟩ []).1.world = turn.world.afterArrival ⟨2⟩ cellar false false := by
  intro turn
  have hexists : (turn.world.location? ⟨2⟩).isSome = true := by decide +kernel
  obtain ⟨cellar, hcellar⟩ := Option.isSome_iff_exists.mp hexists
  have halive : turn.world.player.alive = true := by decide +kernel
  have hair : turn.world.Breathable ⟨2⟩ := World.hasAirAt_iff.mp (by decide +kernel)
  have hdark : ¬ turn.world.Lit ⟨2⟩ := World.canSeeAt_iff.not.mp (by decide +kernel)
  have hmishap : turn.world.mishap? ⟨2⟩ = some .fall := by decide +kernel
  have hunseen : (turn.world.location? ⟨2⟩).any (·.visited) = false := by decide +kernel
  rw [hcellar, Option.any_some] at hunseen
  obtain ⟨alive, visited, hworld, hlives, hseen⟩ := arrive_outcome turn ⟨2⟩ [] hcellar halive
  have hdead : alive = false := by
    rw [← Bool.not_eq_true, hlives, ← World.mishap?_eq_none_iff hcellar, hmishap]
    exact Option.some_ne_none _
  have hforgotten : visited = false := by
    rw [← Bool.not_eq_true, hseen, hunseen]
    rintro (h | ⟨hlit, -⟩)
    · cases h
    · exact hdark hlit
  rw [hdead, hforgotten] at hworld
  exact ⟨cellar, hcellar, hunseen, halive, hair, hdark, hworld⟩

end Turn

end Adventure
