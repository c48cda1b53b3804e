import Adventure.Proofs.Loading.Assembly
import Adventure.Proofs.World.Exits

/-!
# Derived exits of loaded worlds

A location is built by adding its exits and deriving `out` in the end, so that `out` follows the
other exits of every loaded location, and goes on to do so whatever exits are changed.
-/

namespace Adventure

open Loading

/-! ## Building locations -/

namespace Directory

variable {directory : Directory}

/-- Adding an exit keeps a declared exit `out` there. -/
theorem yields_out_addExit {location : Location}
    (h : location.outDeclared = true → ∃ id, location.destination .out = some id)
    (link : String × LocationId) : Yields (directory.addExit location link) fun linked =>
      linked.outDeclared = true → ∃ id, linked.destination .out = some id := by
  unfold addExit
  refine .after fun direction => .after fun destination? => ?_
  cases destination? with
  | none => exact .pure h
  | some destination =>
    refine .pure fun hdeclared => ?_
    have hout : (location.withExit direction destination).destination .out =
        if .out = direction then some destination else location.destination .out :=
      Table.get?_insert _ _ _ _
    rw [hout]
    by_cases heq : Direction.out = direction
    · exact ⟨destination, if_pos heq⟩
    · rw [if_neg heq]
      have hnew : (direction == .out) = false := beq_eq_false_iff_ne.mpr (Ne.symm heq)
      rw [Location.withExit, hnew, Bool.or_false] at hdeclared
      exact h hdeclared

/-- The exit `out` of a location follows the others as soon as the location is built. -/
theorem yields_outFollows (id : LocationId) (declared : LocationDecl) :
    Yields (directory.buildLocation id declared) Location.OutFollows := by
  unfold buildLocation
  refine .after fun attributes => ?_
  refine (Yields.foldlM (fun h => nomatch h) fun location link _ h =>
    yields_out_addExit h link).bind fun location h => ?_
  exact .pure (Location.outFollows_deriveOut h)

end Directory

/-! ## Worlds -/

namespace World

variable {world changed : World}

/-- The exit `out` of every location follows the other exits of the location. -/
def OutsFollow (world : World) : Prop :=
  ∀ id location, world.location? id = some location → location.OutFollows

theorem OutsFollow.addLocation (h : world.OutsFollow) {location : Location}
    (hnew : location.OutFollows) : (world.addLocation location).OutsFollow := by
  intro id found hfound
  change (world.locations.insert location.id location).get? id = some found at hfound
  rw [Table.get?_insert] at hfound
  split at hfound
  · cases hfound
    exact hnew
  · exact h id found hfound

/-- Where items are is nothing to the exits. -/
theorem OutsFollow.settle (h : world.OutsFollow) (hsettles : world.Settles changed) :
    changed.OutsFollow := by
  intro id location hlocation
  have hsame := hsettles.location? id
  rw [hlocation] at hsame
  obtain ⟨before, hbefore, hsame⟩ := Option.map_eq_some_iff.mp hsame.symm
  have hfollows : before.emptied.OutFollows := ⟨(h id before hbefore).1, (h id before hbefore).2⟩
  rw [hsame] at hfollows
  exact ⟨hfollows.1, hfollows.2⟩

end World

namespace Directory

variable {directory : Directory}

/-- In a world that is put together from its parts `out` follows the other exits everywhere. -/
theorem Makes.outsFollow {document : Document} {all : List Diagnostic} {parts : Parts}
    (h : directory.Makes document all parts) : (parts.world document.texts).OutsFollow := by
  have hbuilt := h.locations.yields <| Yields.mapM fun entry _ =>
    directory.yields_outFollows entry.1 entry.2
  have hmapped := List.foldlRecOn parts.locations World.addLocation
    (motive := World.OutsFollow) (b := parts.bare document.name) (by rintro _ _ ⟨⟩)
    fun _ hworld location hmem => by
      obtain ⟨entry, -, hfollows⟩ := exists_entry hbuilt hmem
      exact hworld.addLocation hfollows
  have hfurnished : (parts.furnished document.name).OutsFollow := by
    unfold World.OutsFollow World.location?
    rw [Parts.furnished, World.locations_addItems, World.locations_addInventories]
    exact hmapped
  have hsettled := hfurnished.settle h.settles
  obtain ⟨-, hordered, -⟩ := parts.settled.kept_addCommands parts.commands
  obtain ⟨-, hlast, -⟩ := parts.ordered.kept_addEvents parts.events
  intro id location hlocation
  refine hsettled id location (Eq.trans ?_ hlocation)
  exact congrArg (Table.get? · id) (hlast.trans hordered).symm

end Directory

/-- In a loaded world the exit `out` follows the other exits everywhere. -/
theorem Document.outsFollow_load {document : Document} {loaded : Loaded}
    (h : document.load = .ok loaded) : loaded.world.OutsFollow := by
  obtain ⟨-, parts, hmakes, hworld⟩ := makes_load h
  rw [hworld]
  exact hmakes.outsFollow

namespace Document

/-- **The exit `out` follows the others.** Exits of a loaded location can be opened, redirected and
closed at will. Afterwards `out` is there if it is declared; otherwise it leads to a place exactly
if that is the only one to which the other exits lead, and is missing if there is no such place.
Each other exit, and `out` if it is declared, leads where the last change of it made it lead. At any
moment two different exits may be changed in either order, `out` among them: the world that comes of
it is the same. -/
theorem out_follows_of_load {document : Document} {loaded : Loaded}
    (hload : document.load = .ok loaded) {id : LocationId} {location : Location}
    (hfound : loaded.world.location? id = some location)
    (links : List (Direction × Option LocationId)) :
    ∃ world last, loaded.world.relinkAll id links = .ok world ∧ world.location? id = some last ∧
      (last.outDeclared = true → ∃ out, last.destination .out = some out) ∧
      (last.outDeclared = false →
        ∀ out, last.destination .out = some out ↔ last.otherEnds = {out}) ∧
      (∀ direction, (direction = .out → last.outDeclared = true) → last.destination direction =
        (direction.lastChange? links).getD (location.destination direction)) ∧
      ∀ first second : Direction × Option LocationId, first.1 ≠ second.1 →
        ∃ changed, world.relinkAll id [first, second] = .ok changed ∧
          world.relinkAll id [second, first] = .ok changed := by
  have hfollows := (outsFollow_load hload id location hfound).relinkAll links
  have hlast : (loaded.world.modifyLocation id (·.relinkAll links)).location? id =
      some (location.relinkAll links) := by
    rw [World.location?_modifyLocation, if_pos rfl, hfound]
    rfl
  refine ⟨_, location.relinkAll links, World.relinkAll_eq hfound links, hlast, hfollows.declared,
    hfollows.derived, fun direction => Location.destination_relinkAll, fun first second hne => ?_⟩
  have hswap := World.relinkAll_congr hlast hfollows (Direction.lastChange?_swap hne)
  exact ⟨_, World.relinkAll_eq hlast _, hswap.symm.trans (World.relinkAll_eq hlast _)⟩

/-- A description of a landing with two ways down to the same place. -/
def landing : Document :=
  let labels (name : String) : LabelsDecl := ⟨name, none, none, []⟩
  { name := "landing"
    commands := []
    items := [⟨⟨1⟩, "8", labels "rope", 1, none, some (.location ⟨1⟩), none, none⟩]
    locations := [⟨⟨1⟩, "3", labels "landing", .ofList [("down", ⟨2⟩), ("east", ⟨2⟩)]⟩,
      ⟨⟨2⟩, "3", labels "hall", .ofList [("out", ⟨1⟩)]⟩]
    events := []
    inventories := [⟨⟨1⟩, 8, true, []⟩]
    players := [⟨⟨1⟩, ""⟩]
    inputs := ∅
    hints := ∅
    explanations := ∅
    responses := ∅ }

/-- What is loaded from it. -/
def loadedLanding : Loaded := landing.load.toOption.get (by decide +kernel)

/-- From the landing `out` leads down at first, and nowhere once a way up is opened. Then the way up
and `out` may be closed in either order. -/
theorem out_follows_of_load_landing :
    landing.load = .ok loadedLanding ∧
      ∃ location, loadedLanding.world.location? ⟨1⟩ = some location ∧
        location.destination .out = some ⟨2⟩ ∧
        ∃ world last, loadedLanding.world.relinkAll ⟨1⟩ [(.up, some ⟨1⟩)] = .ok world ∧
          world.location? ⟨1⟩ = some last ∧ last.destination .up = some ⟨1⟩ ∧
          (∀ out, last.otherEnds ≠ {out}) ∧ last.destination .out = none ∧
          ∃ changed, world.relinkAll ⟨1⟩ [(.up, none), (.out, none)] = .ok changed ∧
            world.relinkAll ⟨1⟩ [(.out, none), (.up, none)] = .ok changed := by
  have hload : landing.load = .ok loadedLanding := load_get _
  have hbefore : (loadedLanding.world.location? ⟨1⟩).map (·.destination .out) =
      some (some ⟨2⟩) := by decide +kernel
  obtain ⟨location, hfound, hout⟩ := Option.map_eq_some_iff.mp hbefore
  obtain ⟨world, last, hworld, hlast, -, hderived, hleads, hswap⟩ :=
    out_follows_of_load hload hfound [(.up, some ⟨1⟩)]
  have hafter : ((loadedLanding.world.relinkAll ⟨1⟩ [(.up, some ⟨1⟩)]).toOption.bind
      (·.location? ⟨1⟩)).map (fun last => (last.outDeclared, last.destination .out)) =
        some (false, none) := by decide +kernel
  rw [hworld] at hafter
  obtain ⟨found, hfound', hflags⟩ := Option.map_eq_some_iff.mp hafter
  obtain rfl : last = found := Option.some.inj (hlast.symm.trans hfound')
  obtain ⟨hflag, hnone⟩ := Prod.mk.inj hflags
  refine ⟨hload, location, hfound, hout, world, last, hworld, hlast,
    hleads .up nofun, fun out hends => ?_, hnone, hswap (.up, none) (.out, none) nofun⟩
  exact nomatch hnone.symm.trans ((hderived hflag out).mpr hends)

end Document

end Adventure
