import Adventure.Proofs.Turn.Deeds

/-!
# What creatures own

A creature owns what is inside it, at any depth. The check before an item is taken looks no further
than the holder of the item, and none is made before an item is put into something. Here it is told
exactly when a deed lets the player get hold of an item that a creature owned, without the creature.
-/

namespace Adventure

namespace World

variable {world changed : World} {creature key : ItemKey}

/-- Whether an item is a creature. -/
def isSentient (world : World) (key : ItemKey) : Bool :=
  (world.item? key).any (·.attributes.has ItemFlags.sentient)

/-- The player gets hold of an item that was inside another one, which the player did not hold, and
the item is no longer inside it. -/
structure Robs (world changed : World) (creature key : ItemKey) : Prop where
  /-- The item was inside the other one. -/
  owned : world.encloses creature key = true
  /-- The player did not hold the other one. -/
  apart : world.holds creature = false
  /-- The player holds the item now. -/
  taken : changed.holds key = true
  /-- The item is no longer inside the other one. -/
  lost : changed.encloses creature key = false

end World

/-- Whether a deed lets the player get hold of an item that is inside `creature`, without
`creature`: the item comes along with one that is taken and is inside `creature`, though not
directly, or with one that is put into something held and is inside `creature`. -/
def Deed.robs (world : World) (creature key : ItemKey) : Deed → Bool
  | take taken _ =>
    world.encloses creature taken && !world.isIn (.item creature) taken && !world.holds creature &&
      world.within taken key
  | put taken container =>
    world.encloses creature taken && world.holds container && !world.holds creature &&
      world.within taken key
  | _ => false

namespace World

variable {world changed : World} {holder : Holder} {creature key taken : ItemKey} {deed : Deed}

/-! ## Moves -/

/-- An item changes hands only if it comes along with one that is moved to where the player holds
it. -/
theorem Robs.comes_along {moved : List ItemKey} {place : Option Holder}
    (hrobs : world.Robs changed creature key) (h : Relocates moved place world changed) :
    (∃ first ∈ moved, world.within first key = true) ∧
      ∃ id, changed.top? place = some (.inventory id) := by
  have halong : ∃ first ∈ moved, world.within first key = true := by
    by_contra hnone
    have hsame : changed.encloses creature key = world.encloses creature key :=
      h.encloses_of_apart fun first hfirst =>
        Bool.eq_false_iff.mpr fun hwithin => hnone ⟨first, hfirst, hwithin⟩
    rw [hrobs.owned, hrobs.lost] at hsame
    cases hsame
  refine ⟨halong, ?_⟩
  obtain ⟨id, houter, -⟩ := holds_iff.mp hrobs.taken
  rw [h.outermost?, if_pos (List.any_eq_true.mpr halong)] at houter
  exact ⟨id, houter⟩

/-- Nothing changes hands while nothing is moved. -/
theorem not_robs_of_rest (h : Relocates [] none world changed) :
    ¬ world.Robs changed creature key := by
  intro hrobs
  obtain ⟨⟨first, hfirst, -⟩, -⟩ := hrobs.comes_along h
  cases hfirst

/-- When an item is put somewhere, what changes hands is what comes along with it, provided that it
was inside the other item and that the player holds its new place. -/
theorem robs_insert_iff (hnested : world.Nested) (h : world.insert holder taken = .ok changed) :
    world.Robs changed creature key ↔
      world.encloses creature taken = true ∧ world.holds creature = false ∧
        world.within taken key = true ∧
          ∃ id, world.top? (some holder) = some (.inventory id) ∧
            world.currentInventory? = some id := by
  have hmoves := relocates_insert hnested h
  have hserves := currentInventory?_insert h
  constructor
  · intro hrobs
    obtain ⟨⟨first, hfirst, halong⟩, -⟩ := hrobs.comes_along hmoves
    cases List.mem_singleton.mp hfirst
    have hinside : world.encloses creature taken = true := by
      refine (within_total hnested halong (within_of_encloses hrobs.owned)).resolve_left ?_
      intro hbelow
      have hstill := (hmoves.encloses_along halong).mpr (.inl ⟨hbelow, hrobs.owned⟩)
      rw [hrobs.lost] at hstill
      cases hstill
    obtain ⟨id, houter, hcurrent⟩ := holds_iff.mp hrobs.taken
    rw [outermost?_insert hnested h, if_pos halong] at houter
    exact ⟨hinside, hrobs.apart, halong, id, houter, hserves ▸ hcurrent⟩
  · rintro ⟨hinside, hapart, halong, id, htop, hcurrent⟩
    refine ⟨encloses_trans hnested hinside halong, hapart, ?_, ?_⟩
    · rw [holds_iff, outermost?_insert hnested h, if_pos halong, hserves]
      exact ⟨id, htop, hcurrent⟩
    · rw [Bool.eq_false_iff]
      intro hstill
      rcases (hmoves.encloses_along halong).mp hstill with
        ⟨hbelow, -⟩ | ⟨container, hplace, hwithin⟩
      · rw [encloses_asymm hnested hinside] at hbelow
        cases hbelow
      · -- The player would hold whatever encloses the container, but does not hold the creature.
        cases hplace
        obtain ⟨hne, hfree⟩ := (insert_cases h).1.outside container rfl
        have hsame : changed.encloses creature container = world.encloses creature container := by
          refine hmoves.encloses_of_apart fun first hfirst => ?_
          rw [List.mem_singleton.mp hfirst]
          simp [within, hne, hfree]
        have hbefore : world.within creature container = true := by
          rwa [within, hsame, ← within] at hwithin
        have hheld : world.holds creature = true :=
          holds_iff.mpr ⟨id, (outermost?_of_encloses hnested hbefore).symm.trans htop, hcurrent⟩
        rw [hapart] at hheld
        cases hheld

/-- Nothing that was inside anything changes hands when a copy is made and put somewhere. -/
theorem not_robs_copyInto {slot : ItemKey} (hnested : world.Nested)
    (h : world.copyInto holder taken = (changed, .ok slot)) :
    ¬ world.Robs changed creature key := by
  obtain ⟨copied, hcopy, hinsert⟩ := copyInto_ok h
  have hcopies := relocates_copyItem hnested hcopy
  have hserves : copied.currentInventory? = world.currentInventory? := by
    unfold currentInventory?
    rw [player_copyItem hcopy]
    exact inventoryAt?_of_setting (setting_copyItem hcopy) _
  intro hrobs
  have hrobs' : copied.Robs changed creature key :=
    ⟨(hcopies.encloses_of_apart (by simp)).trans hrobs.owned,
      (holds_congr (outermost?_copyItem hnested hcopy creature) hserves).trans hrobs.apart,
      hrobs.taken, hrobs.lost⟩
  obtain ⟨hinside, -⟩ := (robs_insert_iff hcopies.after hinsert).mp hrobs'
  have hnowhere : copied.holder? slot = none := by
    rw [holder?_copyItem hcopy, holder?_copy hcopy]
  rw [encloses_of_outside hcopies.after (by simp [hnowhere])] at hinside
  cases hinside

/-! ## Deeds -/

/-- **When a creature loses what it owns.** A deed lets the player get hold of an item that was
inside a creature, without the creature, exactly if it takes an item that was inside the creature
but not directly, or puts an item that was inside the creature into something that the player holds;
and what the player gets hold of is that item and all that is inside it. -/
theorem Does.robs_iff (hnested : world.Nested) (hsentient : world.isSentient creature = true)
    (h : world.Does deed changed) :
    world.Robs changed creature key ↔ deed.robs world creature key = true := by
  cases h with
  | @take taken inventory _ hfree howner hserves hfits h =>
    have hindirect : world.isIn (.item creature) taken = false := by
      rw [Bool.eq_false_iff]
      intro hdirect
      unfold owner? at howner
      rw [eq_of_beq hdirect] at howner
      have hcreature : (world.item? creature).any (·.attributes.has ItemFlags.sentient) = true :=
        hsentient
      simp [hcreature] at howner
    rw [robs_insert_iff hnested h]
    simp only [Deed.robs, hindirect, Bool.not_false, Bool.and_true, Bool.and_eq_true,
      Bool.not_eq_eq_eq_not, Bool.not_true, and_assoc]
    refine and_congr_right fun _ => and_congr_right fun _ => and_iff_left ?_
    exact ⟨inventory, rfl, hserves⟩
  | @put taken container _ hempty hchecked h =>
    rw [robs_insert_iff hnested h]
    simp only [Deed.robs, Bool.and_eq_true, Bool.not_eq_eq_eq_not, Bool.not_true, holds_iff, top?,
      and_assoc]
    tauto
  | copy hempty hchecked h => exact iff_of_false (not_robs_copyInto hnested h) Bool.noConfusion
  | drop hheld h =>
    refine iff_of_false (fun hrobs => ?_) Bool.noConfusion
    obtain ⟨-, id, htop⟩ := hrobs.comes_along (relocates_insert_withWorn hnested h)
    cases htop
  | spend h =>
    refine iff_of_false (fun hrobs => ?_) Bool.noConfusion
    obtain ⟨-, id, htop⟩ := hrobs.comes_along (relocates_destroy hnested h)
    cases htop
  | @wear worn hheld =>
    exact iff_of_false (not_robs_of_rest (relocates_withWorn hnested worn true)) Bool.noConfusion
  | @takeOff worn hworn =>
    exact iff_of_false (not_robs_of_rest (relocates_withWorn hnested worn false)) Bool.noConfusion
  | rest h =>
    have hmoves := relocates_of_holder hnested h.holder
    exact iff_of_false (not_robs_of_rest hmoves) Bool.noConfusion

end World

end Adventure
