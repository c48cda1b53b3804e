import Adventure.Proofs.Session.Course
import Adventure.Proofs.Turn.Ownership

/-!
# Robbed creatures

What a command lets the player get hold of can be told before it is carried out, and so it can be
told which lines rob a creature of what it owns. A creature is safe from being robbed only of what
it holds itself, and only by taking.
-/

namespace Adventure

/-- **When a command robs a creature.** Whatever command is carried out with arguments that were
found for it, the player gets hold of an item that was inside a creature, without the creature,
exactly if the command is not refused and its deed is to take an item that was inside the creature
but not directly, or to put one that was inside the creature into something held. -/
theorem Handler.robs_stage_iff (handler : Handler) {turn : Turn} (command : Command)
    {args : List Arg} (hclosed : turn.world.Closed) (hnested : turn.world.Nested)
    (hargs : turn.world.ArgsFit args) {creature : ItemKey}
    (hsentient : turn.world.isSentient creature = true) (key : ItemKey) :
    turn.world.Robs (handler.stage turn command args).1.world creature key ↔
      (handler.stage turn command args).2.success = true ∧
        (handler.deed turn.world args).robs turn.world creature key = true := by
  cases hsuccess : (handler.stage turn command args).2.success with
  | false =>
    have hacts : turn.Acts (handler.model? turn command args) (handler.stage turn command args) :=
      handler.acts_stage hclosed hargs
    have hsame := hacts.refused hsuccess
    refine iff_of_false (fun hrobs => ?_) fun h => Bool.noConfusion h.1
    have hlost := hrobs.lost
    rw [hsame, hrobs.owned] at hlost
    cases hlost
  | true =>
    have hdoes : turn.world.Does (handler.deed turn.world args)
        (handler.stage turn command args).1.world := handler.does_stage hargs hsuccess
    rw [hdoes.robs_iff hnested hsentient]
    exact (and_iff_right rfl).symm

/-- A description with a troll that holds a box with a gem, and with a bag that the player holds. -/
def Document.gallery : Document :=
  let labels (name : String) : LabelsDecl := ⟨name, none, none, []⟩
  let item (num : Nat) (attributes name : String) (size : Nat) (place : HolderDecl) : ItemDecl :=
    ⟨⟨num⟩, attributes, labels name, size, none, some place, none, none⟩
  let slot : SlotDecl := ⟨true, true, .either, []⟩
  { name := "gallery"
    commands := [⟨⟨1⟩, "", "take", [], none, [slot], none, []⟩,
      ⟨⟨2⟩, "", "put", [], some "insert", [slot, slot], none, []⟩]
    items := [item 1 "203" "troll" 20 (.location ⟨1⟩), item 2 "b" "box" 5 (.item ⟨1⟩),
      item 3 "8" "gem" 1 (.item ⟨2⟩), item 4 "b" "bag" 9 (.inventory ⟨1⟩)]
    locations := [⟨⟨1⟩, "3", labels "gallery", ∅⟩]
    events := []
    inventories := [⟨⟨1⟩, 50, true, []⟩]
    players := [⟨⟨1⟩, ""⟩]
    inputs := ∅
    hints := ∅
    explanations := ∅
    responses := ∅ }

namespace Session

/-- The session that begins over it. -/
def gallery : Session := (Document.gallery.begin? {}).get (by decide +kernel)

theorem begin?_gallery : Document.gallery.begin? {} = some gallery := (Option.some_get _).symm

end Session

/-- The gem is taken out of the box that the troll holds, while the box itself cannot be taken. -/
theorem Handler.robs_stage_iff_gallery :
    let turn := Session.gallery.countedTurn "take" []
    let command : Command := { id := ⟨1⟩, name := "take", handler := "take" }
    turn.world.Closed ∧ turn.world.Nested ∧ turn.world.ArgsFit [.item ⟨2⟩] ∧
      turn.world.isSentient ⟨0⟩ = true ∧
      turn.world.Robs (Handler.take.stage turn command [.item ⟨2⟩]).1.world ⟨0⟩ ⟨2⟩ ∧
      ¬ turn.world.Robs (Handler.take.stage turn command [.item ⟨1⟩]).1.world ⟨0⟩ ⟨1⟩ := by
  intro turn command
  have hreached := Session.Reached.of_begin? Session.begin?_gallery
  have hclosed : turn.world.Closed := hreached.kept.count.closed
  have hnested : turn.world.Nested := hreached.nested
  have hsentient : turn.world.isSentient ⟨0⟩ = true := by decide +kernel
  have hgem : turn.world.ArgsFit [.item ⟨2⟩] := World.argsFit_cons.mpr
    ⟨show (turn.world.outermost? ⟨2⟩).isSome = true by decide +kernel, World.argsFit_nil⟩
  have hbox : turn.world.ArgsFit [.item ⟨1⟩] := World.argsFit_cons.mpr
    ⟨show (turn.world.outermost? ⟨1⟩).isSome = true by decide +kernel, World.argsFit_nil⟩
  refine ⟨hclosed, hnested, hgem, hsentient, ?_, ?_⟩
  · exact (Handler.take.robs_stage_iff command hclosed hnested hgem hsentient ⟨2⟩).mpr
      (by decide +kernel)
  · rw [Handler.take.robs_stage_iff command hclosed hnested hbox hsentient ⟨1⟩]
    decide +kernel

namespace Session

variable {session : Session} {creature key : ItemKey}

/-- Whether the deed of a line robs a creature of an item. -/
def robs (session : Session) (line : String) (creature key : ItemKey) : Bool :=
  (session.deed? line).any (·.robs session.world creature key)

/-- While the player's place is the same, the same deeds rob the same creatures. -/
theorem robs_modifyPlayer {world : World} {f : Player → Player}
    (hlocation : (f world.player).location = world.player.location) (deed : Deed) :
    deed.robs (world.modifyPlayer f) creature key = deed.robs world creature key := by
  unfold Deed.robs
  simp only [World.holds_modifyPlayer hlocation, World.encloses_modifyPlayer,
    World.within_modifyPlayer]
  rfl

/-- As the command of a line is carried out, the player robs a creature of an item exactly if the
deed of the line is one that does. -/
theorem robs_acted_iff (h : Reached session) (line : String)
    (hsentient : session.world.isSentient creature = true) (key : ItemKey) :
    session.world.Robs (session.acted line) creature key ↔
      session.robs line creature key = true := by
  have hnone : ¬ session.world.Robs session.world creature key := fun hrobs => by
    have hlost := hrobs.lost
    rw [hrobs.owned] at hlost
    cases hlost
  unfold robs
  rcases deed_cases h.kept line with ⟨hdeed, hacted⟩ | ⟨f, deed, hlocation, hdeed, hdoes⟩
  · rw [hdeed, hacted]
    exact iff_of_false hnone Bool.noConfusion
  · have hapart := World.holds_modifyPlayer hlocation creature
    have hnested : (session.world.modifyPlayer f).Nested := h.nested
    have hiff : (session.world.modifyPlayer f).Robs (session.acted line) creature key ↔
        deed.robs (session.world.modifyPlayer f) creature key = true :=
      hdoes.robs_iff hnested hsentient
    rw [robs_modifyPlayer hlocation] at hiff
    rw [hdeed, Option.any_some, ← hiff]
    have hinside : (session.world.modifyPlayer f).encloses creature key =
        session.world.encloses creature key := World.encloses_modifyPlayer creature key
    exact ⟨fun hrobs =>
        ⟨hinside.trans hrobs.owned, hapart.trans hrobs.apart, hrobs.taken, hrobs.lost⟩,
      fun hrobs =>
        ⟨hinside.symm.trans hrobs.owned, hapart.symm.trans hrobs.apart, hrobs.taken, hrobs.lost⟩⟩

end Session

end Adventure
