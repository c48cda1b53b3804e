import Adventure.Proofs.Session.Course
import Adventure.Proofs.Turn.Deeds
import Adventure.Proofs.World.Notes
import Adventure.Proofs.World.Room
import Adventure.Proofs.World.Stranding

/-!
# Putting things into containers

What the player puts into a container is checked twice: by the command, which asks for room and for
the right kind of contents, and by the world, which lets nothing into itself. Together the checks
come to the question whether the container has room for the item, whether the container is outside
the item, and whether the player can carry the item if it would get into what is held. When none
fails, the item is what the container holds, or a copy of it is.
-/

namespace Adventure

open Relation

namespace Stage

variable {turn : Turn} (command : Command) {key container : ItemKey}

/-- If the container has room and the player can carry the item, then putting it in fails only if
the container is inside it. -/
theorem success_insert_of_fits (hplace : (turn.world.outermost? container).isSome = true)
    (hfits : turn.world.containerFits container key = true)
    (hcarried : turn.world.holds container = true → turn.world.holds key = false →
      turn.world.hasRoom key = true) :
    (insert turn command [.item key, .item container]).2.success =
      !turn.world.encloses key container := by
  obtain ⟨target, item, htarget, hitem⟩ := World.exists_of_fits hfits
  obtain ⟨⟨compartment, hroom, hfree⟩, hne, hkind, hsize⟩ :=
    (World.containerFits_iff htarget hitem).mp hfits
  have hgains : ¬ ((turn.world.holds container && !turn.world.holds key) &&
      !turn.world.currentInventory?.any fun id => turn.world.inventoryFits id key) = true := by
    change ¬ ((turn.world.holds container && !turn.world.holds key) &&
      !turn.world.hasRoom key) = true
    simpa using hcarried
  unfold insert
  simp only [itemAt, List.getElem?_cons_zero, List.getElem?_cons_succ, Option.bind_some, Arg.item?,
    hitem, htarget, hroom, hfree, if_neg hne, hkind, Bool.not_true, Bool.false_eq_true, if_false,
    if_neg (Nat.not_le.mpr hsize), if_neg hgains]
  have hadmits := World.admits_iff_of_fits hfits
  cases hencloses : turn.world.encloses key container with
  | false =>
    have hadmitted := hadmits.mpr hencloses
    by_cases hcopyable : item.attributes.has ItemFlags.copyable = true
    · obtain ⟨copied, hcopy⟩ := World.exists_copyItem hadmitted.known
      have hempty := World.contents_of_fits hfits
      obtain ⟨-, filled, hinto⟩ := (World.copyInto_of_admits hadmitted hcopy).resolve_right
        fun hrefused => hrefused.1 (hadmitted.of_copyItem hempty hplace hcopy)
      simp only [hcopyable, if_true, hinto]
      rfl
    · obtain ⟨changed, hinsert⟩ := World.exists_insert hadmitted
      simp only [hcopyable, Bool.false_eq_true, if_false, World.tryInsert_eq, hinsert]
      rfl
  | true =>
    have hrefusal : turn.world.refusal? (.item container) key = some (.selfContainment key) := by
      simp [World.refusal?, hitem, hencloses]
    by_cases hcopyable : item.attributes.has ItemFlags.copyable = true
    · simp only [World.copyInto, hrefusal, hcopyable, if_true]
      rfl
    · simp only [World.tryInsert, hrefusal, hcopyable, Bool.false_eq_true, if_false]
      rfl

/-- Putting an item into a container succeeds exactly if the container has room for it and is not
inside it, and the item can be carried if it would get into what is held. -/
theorem success_insert_iff (hargs : turn.world.ArgsFit [.item key, .item container]) :
    (insert turn command [.item key, .item container]).2.success = true ↔
      turn.world.containerFits container key = true ∧
        turn.world.encloses key container = false ∧
          (turn.world.holds container = true → turn.world.holds key = false →
            turn.world.hasRoom key = true) := by
  have hplace : (turn.world.outermost? container).isSome = true :=
    suits_itemAt hargs (rfl : itemAt _ 1 = some container)
  constructor
  · intro hsuccess
    rcases insert_outcome command hargs rfl with
      ⟨values, text, hrefused⟩ | ⟨_, _, ⟨⟩, ⟨⟩, -, hfits, hcarried, -⟩
    · rw [hrefused] at hsuccess
      cases hsuccess
    · rw [success_insert_of_fits command hplace hfits hcarried] at hsuccess
      exact ⟨hfits, by simpa using hsuccess, hcarried⟩
  · rintro ⟨hfits, houtside, hcarried⟩
    rw [success_insert_of_fits command hplace hfits hcarried, houtside]
    rfl

end Stage

namespace Session

variable {session : Session} {turn : Turn} {key container : ItemKey}

/-- **Putting things into containers.** In every state of a session, an item that the player holds
or has at hand is put into another such item exactly if that is a container with room for it, is not
inside it, and the player can carry it in case the container is held and the item is not. Then the
container holds the item; but if the item is one that is copied, it stays where it is, and the
container holds a copy of it. The count of moves and the command that waits do not matter. -/
theorem stows_iff (h : Reached session) {count : Nat → Nat} {wait : Pending → Pending}
    (hworld : turn.world = session.world.noting count wait) (command : Command)
    (hkey : session.world.holds key = true ∨ session.world.isHere key = true)
    (hcontainer : session.world.holds container = true ∨ session.world.isHere container = true) :
    let result := Stage.insert turn command [.item key, .item container]
    (result.2.success = true ↔
      session.world.containerFits container key = true ∧
        ¬ TransGen session.world.Inside container key ∧
          (session.world.holds container = true → session.world.holds key = false →
            ∃ id, session.world.currentInventory? = some id ∧
              session.world.inventoryFits id key = true)) ∧
      (result.2.success = true →
        if (session.world.item? key).any (·.attributes.has ItemFlags.copyable) then
          result.1.world.holder? key = session.world.holder? key ∧
            ∃ copy, copy ≠ key ∧ result.1.world.contents (.item container) = [copy] ∧
              (result.1.world.item? copy).bind Item.copyOf = some key
        else result.1.world.contents (.item container) = [key]) := by
  intro result
  have hplace {key : ItemKey}
      (h : session.world.holds key = true ∨ session.world.isHere key = true) :
      (turn.world.outermost? key).isSome = true := by
    have hat : session.world.IsAt key .either := h
    rw [hworld, World.outermost?_noting]
    exact World.suits_of_isAt hat
  have hfits : turn.world.containerFits = session.world.containerFits := by
    rw [hworld]
    rfl
  have hargs : turn.world.ArgsFit [.item key, .item container] :=
    World.argsFit_cons.mpr ⟨hplace hkey, World.argsFit_cons.mpr
      ⟨hplace hcontainer, World.argsFit_nil⟩⟩
  refine ⟨?_, fun hsuccess => ?_⟩
  · rw [Stage.success_insert_iff command hargs, hfits, ← h.nested.encloses_iff, Bool.not_eq_true]
    simp only [hworld, World.encloses_noting, World.holds_noting, World.hasRoom,
      World.currentInventory?_noting, World.inventoryFits_noting, Option.any_eq_true]
  · rcases Stage.insert_outcome command hargs (rfl : _ = result) with
      ⟨values, text, hrefused⟩ | ⟨_, _, ⟨⟩, ⟨⟩, -, hroom, -, hdone⟩
    · rw [hrefused] at hsuccess
      cases hsuccess
    · have hempty := World.contents_of_fits hroom
      have hitems : turn.world.item? = session.world.item? := by
        rw [hworld]
        rfl
      rw [hitems] at hdone
      split at hdone
      · rename_i hcopyable
        obtain ⟨copy, hinto⟩ := hdone
        obtain ⟨hstays, hne, hlists, hsource⟩ := World.copyInto_free hempty (hplace hkey) hinto
        rw [hworld] at hstays
        rw [if_pos hcopyable]
        exact ⟨hstays, copy, hne, hlists, hsource⟩
      · rename_i hcopyable
        rw [if_neg hcopyable]
        exact World.contents_insert_free hempty hdone

/-- The pea goes into the mug itself at first. Later, when the pea has been in a copy of the mug
which was eaten, the mug is copied into the slot of that copy. -/
theorem stows_iff_larder :
    let command : Command := { id := ⟨1⟩, name := "insert", handler := "insert" }
    let eaten := larder.play ["insert mug box", "insert pea mug", "eat mug"]
    let first := Stage.insert (larder.countedTurn "insert" []) command [.item ⟨2⟩, .item ⟨0⟩]
    let last := Stage.insert (eaten.countedTurn "insert" []) command [.item ⟨0⟩, .item ⟨1⟩]
    (first.2.success = true ∧ first.1.world.contents (.item ⟨0⟩) = [⟨2⟩]) ∧
      eaten.world.contents (.item ⟨3⟩) = [⟨2⟩] ∧ last.2.success = true ∧
        last.1.world.holder? ⟨0⟩ = eaten.world.holder? ⟨0⟩ ∧
          ∃ copy, copy ≠ ⟨0⟩ ∧ last.1.world.contents (.item ⟨1⟩) = [copy] ∧
            (last.1.world.item? copy).bind Item.copyOf = some ⟨0⟩ := by
  intro command eaten first last
  have hreached : Reached larder := Reached.of_begin? begin?_larder
  have heaten : Reached eaten := hreached.play _
  have hcounted (session : Session) : (session.countedTurn "insert" []).world =
      session.world.noting (· + 1) id := rfl
  obtain ⟨hpea, hmug, hapart, hfits, houtside, hplain⟩ :
      larder.world.holds ⟨2⟩ = true ∧ larder.world.isHere ⟨0⟩ = true ∧
        larder.world.holds ⟨0⟩ = false ∧ larder.world.containerFits ⟨0⟩ ⟨2⟩ = true ∧
          larder.world.encloses ⟨2⟩ ⟨0⟩ = false ∧
            ¬ (larder.world.item? ⟨2⟩).any (·.attributes.has ItemFlags.copyable) = true := by
    decide +kernel
  obtain ⟨hbox, hagain, hroomy, hfree, hcarried, hcopyable, hstays⟩ :
      eaten.world.holds ⟨1⟩ = true ∧ eaten.world.isHere ⟨0⟩ = true ∧
        eaten.world.containerFits ⟨1⟩ ⟨0⟩ = true ∧ eaten.world.encloses ⟨0⟩ ⟨1⟩ = false ∧
          (eaten.world.currentInventory? = some ⟨1⟩ ∧
            eaten.world.inventoryFits ⟨1⟩ ⟨0⟩ = true) ∧
              (eaten.world.item? ⟨0⟩).any (·.attributes.has ItemFlags.copyable) = true ∧
                eaten.world.contents (.item ⟨3⟩) = [⟨2⟩] := by
    decide +kernel
  obtain ⟨hfirst, hplaced⟩ := stows_iff hreached (hcounted larder) command (.inl hpea) (.inr hmug)
  obtain ⟨hlast, hcopied⟩ := stows_iff heaten (hcounted eaten) command (.inr hagain) (.inl hbox)
  rw [← hreached.nested.encloses_iff, houtside] at hfirst
  rw [← heaten.nested.encloses_iff, hfree] at hlast
  rw [if_neg hplain] at hplaced
  rw [if_pos hcopyable] at hcopied
  have hsuccess : first.2.success = true :=
    hfirst.mpr ⟨hfits, Bool.noConfusion, fun hheld => absurd hheld (by simp [hapart])⟩
  have hrefilled : last.2.success = true :=
    hlast.mpr ⟨hroomy, Bool.noConfusion, fun _ _ => ⟨⟨1⟩, hcarried⟩⟩
  exact ⟨⟨hsuccess, hplaced hsuccess⟩, hstays, hrefilled, hcopied hrefilled⟩

end Session

end Adventure
