import Adventure.Proofs.World.References
import Mathlib.Data.List.Induction
import Mathlib.Data.Set.Insert

/-!
# The exit that is derived

The exit `out` is declared or it follows the other exits: it leads where all of them lead, if that
is one place, and is missing otherwise. However the exits of a location are opened, redirected and
closed, `out` goes on to follow them; and the order in which two exits are changed is of no matter,
even if one of them is `out` itself.
-/

namespace Adventure

namespace Location

variable {location : Location} {direction other : Direction} {destination : Option LocationId}

/-- Where the exits other than `out` lead. -/
def otherEnds (location : Location) : Set LocationId :=
  {id | ∃ direction ≠ Direction.out, location.destination direction = some id}

/-- The exit `out` is there if it is declared, and leads where all others lead if it is not. -/
structure OutFollows (location : Location) : Prop where
  /-- A declared exit is there. -/
  declared : location.outDeclared = true → ∃ id, location.destination .out = some id
  /-- A derived one leads to the only place to which the others lead. -/
  derived : location.outDeclared = false →
    ∀ id, location.destination .out = some id ↔ location.otherEnds = {id}

/-- The location without exits. -/
def unlinked (location : Location) : Location :=
  { location with exits := ∅, outDeclared := false }

/-- A location is known from its exits and from all the rest. -/
theorem eq_of_exits {first second : Location} (hrest : first.unlinked = second.unlinked)
    (hdeclared : first.outDeclared = second.outDeclared)
    (hexits : ∀ direction, first.destination direction = second.destination direction) :
    first = second := by
  have htables : first.exits = second.exits := Table.ext_get? hexits
  cases first
  cases second
  simp_all [unlinked]

theorem otherEnds_congr {first second : Location}
    (h : ∀ direction ≠ Direction.out, first.destination direction = second.destination direction) :
    first.otherEnds = second.otherEnds := by
  refine Set.ext fun id => exists_congr fun direction => and_congr_right fun hne => ?_
  rw [h direction hne]

/-- Where `out` follows the other exits, a derived one need not be compared. -/
theorem eq_of_outFollows {first second : Location} (hfirst : first.OutFollows)
    (hsecond : second.OutFollows) (hrest : first.unlinked = second.unlinked)
    (hdeclared : first.outDeclared = second.outDeclared)
    (hexits : ∀ direction, (direction = .out → first.outDeclared = true) →
      first.destination direction = second.destination direction) : first = second := by
  refine eq_of_exits hrest hdeclared fun direction => ?_
  by_cases hknown : direction = .out → first.outDeclared = true
  · exact hexits direction hknown
  · obtain ⟨rfl, hflag⟩ := Classical.not_imp.mp hknown
    have hderived := Bool.eq_false_iff.mpr hflag
    have hends := otherEnds_congr fun other hne => hexits other (absurd · hne)
    refine Option.ext fun id => ?_
    rw [hfirst.derived hderived, hsecond.derived (hdeclared ▸ hderived), hends]

/-! ## Deriving `out` -/

theorem onlyMember?_eq_some_iff {ids : List LocationId} {id : LocationId} :
    onlyMember? ids = some id ↔ {other | other ∈ ids} = ({id} : Set LocationId) := by
  cases ids with
  | nil =>
    refine iff_of_false (fun h => nomatch h) fun h => ?_
    exact List.not_mem_nil (h.symm.subset (Set.mem_singleton id))
  | cons first rest =>
    have honly : onlyMember? (first :: rest) =
        if rest.all (· == first) then some first else none := rfl
    have hall : rest.all (· == first) = true ↔ ∀ other ∈ rest, other = first := by
      simp [List.all_eq_true]
    rw [honly, Option.ite_none_right_eq_some, hall, Option.some.injEq]
    constructor
    · rintro ⟨hsame, rfl⟩
      refine Set.ext fun other => List.mem_cons.trans ⟨fun h => ?_, .inl⟩
      exact h.elim (fun heq => heq) (hsame other)
    · intro h
      have hfirst : first = id := h.subset List.mem_cons_self
      refine ⟨fun other hmem => ?_, hfirst⟩
      rw [hfirst]
      exact h.subset (List.mem_cons_of_mem first hmem)

/-- The exits other than `out` are those that are left when `out` is erased. -/
theorem mem_values_erase_out {id : LocationId} :
    id ∈ (location.exits.erase .out).values ↔ id ∈ location.otherEnds := by
  rw [Table.mem_values]
  refine exists_congr fun direction => ?_
  rw [Table.get?_erase]
  by_cases heq : direction = .out <;> simp [heq, Location.destination]

theorem unlinked_deriveOut (location : Location) :
    location.deriveOut.unlinked = location.unlinked := by
  unfold deriveOut
  split
  · rfl
  · simp only []
    split <;> rfl

theorem outDeclared_deriveOut (location : Location) :
    location.deriveOut.outDeclared = location.outDeclared := by
  unfold deriveOut
  split
  · rfl
  · simp only []
    split <;> rfl

/-- A derived exit leads to the only place to which the others lead. -/
theorem destination_out_deriveOut_iff (hderived : location.outDeclared = false) (id : LocationId) :
    location.deriveOut.destination .out = some id ↔ location.deriveOut.otherEnds = {id} := by
  have hout : location.deriveOut.destination .out =
      onlyMember? (location.exits.erase .out).values := by
    unfold deriveOut
    rw [hderived, if_neg Bool.false_ne_true]
    simp only []
    cases honly : onlyMember? (location.exits.erase .out).values with
    | none => exact (Table.get?_erase location.exits .out .out).trans (if_pos rfl)
    | some only => exact (Table.get?_insert _ _ _ _).trans (if_pos rfl)
  have hothers : location.deriveOut.otherEnds = location.otherEnds :=
    otherEnds_congr fun direction hne => destination_deriveOut_of_declared (absurd · hne)
  have hends : {other | other ∈ (location.exits.erase .out).values} = location.otherEnds :=
    Set.ext fun _ => mem_values_erase_out
  rw [hout, onlyMember?_eq_some_iff, hothers, hends]

/-- Once it is derived, `out` follows the other exits. -/
theorem outFollows_deriveOut
    (hdeclared : location.outDeclared = true → ∃ id, location.destination .out = some id) :
    location.deriveOut.OutFollows := by
  refine ⟨fun h => ?_, fun h => ?_⟩ <;> rw [outDeclared_deriveOut] at h
  · rw [destination_deriveOut_of_declared fun _ => h]
    exact hdeclared h
  · exact destination_out_deriveOut_iff h

/-! ## Opening, redirecting and closing exits -/

theorem unlinked_relink (location : Location) (direction : Direction)
    (destination : Option LocationId) :
    (location.relink direction destination).unlinked = location.unlinked :=
  unlinked_deriveOut _

theorem outDeclared_relink (location : Location) (direction : Direction)
    (destination : Option LocationId) : (location.relink direction destination).outDeclared =
      if direction = .out then destination.isSome else location.outDeclared :=
  outDeclared_deriveOut _

/-- Each exit but a derived `out` leads where it led, or where it is redirected to. -/
theorem destination_relink_of_declared
    (h : other = .out → (location.relink direction destination).outDeclared = true) :
    (location.relink direction destination).destination other =
      if other = direction then destination else location.destination other := by
  rw [outDeclared_relink] at h
  unfold relink
  rw [destination_deriveOut_of_declared h]
  cases destination with
  | none => exact Table.get?_erase _ _ _
  | some id => exact Table.get?_insert _ _ _ _

theorem destination_out_relink_iff
    (hderived : (location.relink direction destination).outDeclared = false) (id : LocationId) :
    (location.relink direction destination).destination .out = some id ↔
      (location.relink direction destination).otherEnds = {id} := by
  rw [outDeclared_relink] at hderived
  exact destination_out_deriveOut_iff hderived id

/-- The exit `out` goes on to follow the others, whatever exit is changed. -/
theorem OutFollows.relink (h : location.OutFollows) (direction : Direction)
    (destination : Option LocationId) : (location.relink direction destination).OutFollows := by
  refine ⟨fun hdeclared => ?_, destination_out_relink_iff⟩
  rw [destination_relink_of_declared fun _ => hdeclared]
  rw [outDeclared_relink] at hdeclared
  by_cases hout : direction = .out
  · rw [if_pos hout] at hdeclared
    rw [if_pos hout.symm]
    exact Option.isSome_iff_exists.mp hdeclared
  · rw [if_neg hout] at hdeclared
    rw [if_neg (Ne.symm hout)]
    exact h.declared hdeclared

/-- Change exits one after the other. -/
def relinkAll (location : Location) (links : List (Direction × Option LocationId)) : Location :=
  links.foldl (fun location link => location.relink link.1 link.2) location

theorem relinkAll_concat (location : Location) (links : List (Direction × Option LocationId))
    (link : Direction × Option LocationId) :
    location.relinkAll (links ++ [link]) = (location.relinkAll links).relink link.1 link.2 :=
  List.foldl_append ..

theorem OutFollows.relinkAll (h : location.OutFollows)
    (links : List (Direction × Option LocationId)) : (location.relinkAll links).OutFollows :=
  List.foldlRecOn links _ h fun _ hbefore link _ => hbefore.relink link.1 link.2

theorem unlinked_relinkAll (location : Location) (links : List (Direction × Option LocationId)) :
    (location.relinkAll links).unlinked = location.unlinked :=
  List.foldlRecOn links _ (motive := fun later : Location => later.unlinked = location.unlinked)
    rfl fun later hbefore link _ => (later.unlinked_relink link.1 link.2).trans hbefore

end Location

/-- Where the last of some changes of an exit makes it lead, if there is one. -/
def Direction.lastChange? (links : List (Direction × Option LocationId)) (direction : Direction) :
    Option (Option LocationId) :=
  (links.reverse.find? (·.1 == direction)).map Prod.snd

theorem Direction.lastChange?_concat (links : List (Direction × Option LocationId))
    (link : Direction × Option LocationId) (direction : Direction) :
    direction.lastChange? (links ++ [link]) =
      if link.1 = direction then some link.2 else direction.lastChange? links := by
  rw [lastChange?, Table.find?_reverse_concat, lastChange?]
  by_cases heq : link.1 = direction <;> simp [heq]

/-- Changes of two different exits may be told in either order. -/
theorem Direction.lastChange?_swap {first second : Direction × Option LocationId}
    (hne : first.1 ≠ second.1) (direction : Direction) :
    direction.lastChange? [first, second] = direction.lastChange? [second, first] := by
  by_cases hfirst : first.1 = direction
  · have hsecond : second.1 ≠ direction := fun h => hne (hfirst.trans h.symm)
    simp [lastChange?, hfirst, hsecond]
  · simp [lastChange?, List.find?_cons, hfirst]

namespace Location

variable {location : Location} {direction : Direction}
  {links links' : List (Direction × Option LocationId)}

/-- The exit `out` is declared if the last change of it made it lead somewhere. -/
theorem outDeclared_relinkAll : (location.relinkAll links).outDeclared =
    ((Direction.out.lastChange? links).map Option.isSome).getD location.outDeclared := by
  induction links using List.reverseRecOn with
  | nil => rfl
  | append_singleton links link ih =>
    rw [relinkAll_concat, outDeclared_relink, Direction.lastChange?_concat]
    by_cases heq : link.1 = .out
    · rw [if_pos heq, if_pos heq]
      rfl
    · rw [if_neg heq, if_neg heq, ih]

/-- Each exit but a derived `out` leads where the last change of it made it lead. -/
theorem destination_relinkAll
    (h : direction = .out → (location.relinkAll links).outDeclared = true) :
    (location.relinkAll links).destination direction =
      (direction.lastChange? links).getD (location.destination direction) := by
  induction links using List.reverseRecOn with
  | nil => rfl
  | append_singleton links link ih =>
    rw [relinkAll_concat] at h ⊢
    rw [destination_relink_of_declared h, Direction.lastChange?_concat]
    by_cases heq : link.1 = direction
    · rw [if_pos heq, if_pos heq.symm]
      rfl
    · rw [if_neg heq, if_neg (Ne.symm heq)]
      refine ih fun hout => ?_
      have hlast := h hout
      rwa [outDeclared_relink, if_neg (hout ▸ heq)] at hlast

/-- The order of changes is of no matter, as long as the last change of each exit is the same. -/
theorem OutFollows.relinkAll_congr (h : location.OutFollows)
    (hlast : ∀ direction : Direction, direction.lastChange? links = direction.lastChange? links') :
    location.relinkAll links = location.relinkAll links' := by
  have hdeclared : (location.relinkAll links).outDeclared =
      (location.relinkAll links').outDeclared := by
    rw [outDeclared_relinkAll, outDeclared_relinkAll, hlast]
  refine eq_of_outFollows (h.relinkAll links) (h.relinkAll links') ?_ hdeclared
    fun direction hdirection => ?_
  · rw [unlinked_relinkAll, unlinked_relinkAll]
  · rw [destination_relinkAll hdirection, destination_relinkAll (hdeclared ▸ hdirection), hlast]

end Location

namespace World

variable {world : World} {id : LocationId} {location : Location}

/-- Change exits of one location one after the other. -/
def relinkAll (world : World) (id : LocationId) (links : List (Direction × Option LocationId)) :
    Except WorldError World :=
  links.foldlM (fun world link => world.relink id link.1 link.2) world

/-- Exits of a location that is there can be changed, one after the other. -/
theorem relinkAll_eq (h : world.location? id = some location)
    (links : List (Direction × Option LocationId)) :
    world.relinkAll id links = .ok (world.modifyLocation id (·.relinkAll links)) := by
  induction links generalizing world location with
  | nil =>
    have hkept : world.locations.modify id (·.relinkAll []) = world.locations :=
      (Table.modify_eq_insert h _).trans (Table.insert_eq_self h)
    exact congrArg (fun locations => Except.ok { world with locations }) hkept.symm
  | cons link rest ih =>
    have hnext : (world.modifyLocation id (·.relink link.1 link.2)).location? id =
        some (location.relink link.1 link.2) := by
      rw [location?_modifyLocation, if_pos rfl, h]
      rfl
    have hstep : world.relinkAll id (link :: rest) =
        (world.modifyLocation id (·.relink link.1 link.2)).relinkAll id rest := by
      rw [relinkAll, List.foldlM_cons, relink, h]
      rfl
    rw [hstep, ih hnext, modifyLocation, modifyLocation, modifyLocation]
    simp only [Table.modify_modify]
    rfl

/-- The order of changes is of no matter to the world either. -/
theorem relinkAll_congr (h : world.location? id = some location) (hfollows : location.OutFollows)
    {links links' : List (Direction × Option LocationId)}
    (hlast : ∀ direction : Direction, direction.lastChange? links = direction.lastChange? links') :
    world.relinkAll id links = world.relinkAll id links' := by
  have hsame : world.locations.modify id (·.relinkAll links) =
      world.locations.modify id (·.relinkAll links') := by
    rw [Table.modify_eq_insert h, Table.modify_eq_insert h, hfollows.relinkAll_congr hlast]
  rw [relinkAll_eq h, relinkAll_eq h, modifyLocation, modifyLocation, hsame]

end World

end Adventure
