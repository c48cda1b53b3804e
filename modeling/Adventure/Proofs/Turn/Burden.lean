import Adventure.Proofs.Turn.Course
import Adventure.Proofs.Turn.Death
import Adventure.Proofs.World.Burden

/-!
# What a turn adds to an inventory

Before something is taken it is checked that the player can carry it, and so it is before something
that is not held is put into a container that is. No check is made when something that is held is
moved or copied, or when a garment is taken off, which is then no longer weightless. Here it is told
how much each deed adds to what an inventory has to bear.
-/

namespace Adventure

/-- What a deed adds to the weight of what is in an inventory. -/
def Deed.burden (world : World) (id : InventoryId) : Deed → Nat
  | take key inventory => if inventory = id then world.load key else 0
  | put key container =>
    if world.bears id (.item container) && !world.isWeighed id key then world.load key else 0
  | copy key container => if world.bears id (.item container) then world.share key else 0
  | takeOff key => if world.isWeighed id key then world.bareLoad key else 0
  | _ => 0

/-- Whether a deed adds more to an inventory than there is room for. -/
def Deed.overloads (world : World) (deed : Deed) : Bool :=
  world.inventories.entries.any fun (id, inventory) =>
    inventory.capacity < world.carriedLoad id + deed.burden world id

namespace World

/-- No inventory has more to bear than its capacity, when weights are summed without a limit. -/
def WithinCapacity (world : World) : Prop :=
  ∀ id inventory, world.inventory? id = some inventory →
    world.carriedLoad id ≤ inventory.capacity

instance (world : World) : Decidable world.WithinCapacity :=
  decidable_of_iff (∀ entry ∈ world.inventories.entries,
      world.carriedLoad entry.1 ≤ entry.2.capacity)
    ⟨fun h id inventory hinventory => h (id, inventory) (Table.mem_entries.mpr hinventory),
      fun h entry hentry => h entry.1 entry.2 (Table.mem_entries.mp hentry)⟩

variable {world changed : World} {deed : Deed}

/-! ## Deeds -/

/-- What is looked at in an inventory is in that inventory. -/
theorem outermost?_of_isWeighed (hpacked : world.Packed) {id : InventoryId} {key : ItemKey}
    (h : world.isWeighed id key = true) : world.outermost? key = some (.inventory id) := by
  obtain ⟨outer, houter, hmem⟩ := List.any_eq_true.mp h
  have hwithin := within_of_weighed hpacked (List.contains_iff_mem.mp hmem)
  rw [outermost?_of_encloses hpacked.nested hwithin, outermost?_eq_top? hpacked.nested,
    hpacked.own _ outer houter]
  rfl

/-- A deed adds its burden to an inventory, or it has none there and adds nothing. -/
theorem Does.carriedLoad_cases (h : world.Does deed changed) (hpacked : world.Packed)
    (id : InventoryId) :
    changed.carriedLoad id = world.carriedLoad id + deed.burden world id ∨
      deed.burden world id = 0 ∧ changed.carriedLoad id ≤ world.carriedLoad id := by
  cases h with
  | @take key inventory _ hfree howner hserves hfits h =>
    have hmoved : changed.carriedLoad id + _ = _ := carriedLoad_insert hpacked h (by simp)
    rw [bears_inventory] at hmoved
    rw [Deed.burden]
    by_cases heq : inventory = id
    · -- The item is not in the inventory that serves, or the player would hold it.
      have hnot : world.isWeighed id key = false := by
        rw [Bool.eq_false_iff]
        intro hweighed
        have hheld := holds_iff.mpr ⟨id, outermost?_of_isWeighed hpacked hweighed, heq ▸ hserves⟩
        rw [hfree] at hheld
        cases hheld
      simp only [hnot, heq, beq_self_eq_true, if_true, Bool.false_eq_true, if_false] at hmoved ⊢
      exact .inl hmoved
    · simp only [beq_false_of_ne heq, Bool.false_eq_true, if_false, Nat.add_zero] at hmoved
      rw [if_neg heq]
      exact .inr ⟨rfl, Nat.le.intro hmoved⟩
  | drop hheld h => exact .inr ⟨rfl, (lightens_lay hpacked h).carriedLoad_le id⟩
  | spend h => exact .inr ⟨rfl, (lightens_destroy hpacked h).carriedLoad_le id⟩
  | @put key container _ hempty hchecked h =>
    have hmoved : changed.carriedLoad id + _ = _ := carriedLoad_insert hpacked h (by
      rintro _ ⟨⟩
      exact hempty)
    rw [Deed.burden]
    cases hbears : world.bears id (.item container) with
    | false =>
      simp only [hbears, Bool.false_eq_true, if_false, Nat.add_zero] at hmoved
      exact .inr ⟨rfl, Nat.le.intro hmoved⟩
    | true =>
      simp only [hbears, if_true] at hmoved
      cases hweighed : world.isWeighed id key with
      | false =>
        simp only [hweighed, Bool.false_eq_true, if_false, Nat.add_zero] at hmoved
        exact .inl hmoved
      | true =>
        simp only [hweighed, if_true] at hmoved
        exact .inr ⟨rfl, by omega⟩
  | @copy key container slot _ hempty hchecked h =>
    exact .inl (carriedLoad_copyInto hpacked h hempty)
  | wear hheld => exact .inr ⟨rfl, (lightens_putOn hpacked _).carriedLoad_le id⟩
  | takeOff hworn => exact .inl (carriedLoad_takeOff hpacked hworn)
  | rest h => exact .inr ⟨rfl, (h.lightens hpacked).carriedLoad_le id⟩

/-- Inventories have the same capacities in every world of the same setting. -/
theorem exists_capacity_of_setting (hsetting : changed.setting = world.setting) {id : InventoryId}
    {inventory : Inventory} (hinventory : world.inventory? id = some inventory) :
    ∃ other, changed.inventory? id = some other ∧ other.capacity = inventory.capacity := by
  obtain ⟨other, hother, hsame⟩ := exists_inventory?_of_setting hsetting hinventory
  have hcapacity := congrArg Inventory.capacity hsame
  exact ⟨other, hother, hcapacity⟩

/-- Whether inventories are within their capacities can be told by those of another world of the
same setting. -/
theorem withinCapacity_of_setting (hsetting : changed.setting = world.setting) :
    changed.WithinCapacity ↔ ∀ id inventory, world.inventory? id = some inventory →
      changed.carriedLoad id ≤ inventory.capacity := by
  constructor
  · intro hwithin id inventory hinventory
    obtain ⟨other, hother, hcapacity⟩ := exists_capacity_of_setting hsetting hinventory
    exact hcapacity ▸ hwithin id other hother
  · intro hwithin id inventory hinventory
    obtain ⟨other, hother, hcapacity⟩ := exists_capacity_of_setting hsetting.symm hinventory
    exact hcapacity ▸ hwithin id other hother

/-- If nothing gets heavier, every inventory stays within its capacity. -/
theorem WithinCapacity.lighter (hwithin : world.WithinCapacity)
    (hsetting : changed.setting = world.setting)
    (hle : ∀ id, changed.carriedLoad id ≤ world.carriedLoad id) : changed.WithinCapacity :=
  (withinCapacity_of_setting hsetting).mpr fun id inventory hinventory =>
    (hle id).trans (hwithin id inventory hinventory)

/-- No change of the player makes anything heavier. -/
theorem WithinCapacity.modifyPlayer (hwithin : world.WithinCapacity) (f : Player → Player) :
    (world.modifyPlayer f).WithinCapacity := fun id inventory hinventory =>
  carriedLoad_modifyPlayer.trans_le (hwithin id inventory hinventory)

/-- **When a deed overloads an inventory.** If every inventory is within its capacity, a deed keeps
them so exactly if it adds nothing for which there is no room. -/
theorem Does.withinCapacity_iff (h : world.Does deed changed) (hpacked : world.Packed)
    (hwithin : world.WithinCapacity) :
    changed.WithinCapacity ↔ deed.overloads world = false := by
  rw [withinCapacity_of_setting h.setting, Deed.overloads, List.any_eq_false]
  constructor
  · rintro hafter ⟨id, inventory⟩ hmem
    have hinventory : world.inventory? id = some inventory := Table.mem_entries.mp hmem
    have hload := hafter id inventory hinventory
    have hbefore := hwithin id inventory hinventory
    rw [decide_eq_true_iff]
    rcases h.carriedLoad_cases hpacked id with hadds | ⟨hnone, -⟩ <;> omega
  · intro hroom id inventory hinventory
    have hfits := hroom (id, inventory) (Table.mem_entries.mpr hinventory)
    rw [decide_eq_true_iff] at hfits
    have hbefore := hwithin id inventory hinventory
    rcases h.carriedLoad_cases hpacked id with hadds | ⟨-, hle⟩ <;> omega

/-- Whether a deed overloads an inventory does not depend on the player. -/
theorem overloads_modifyPlayer {f : Player → Player} (deed : Deed) :
    deed.overloads (world.modifyPlayer f) = deed.overloads world := by
  have hburden (id : InventoryId) :
      deed.burden (world.modifyPlayer f) id = deed.burden world id := by
    cases deed <;> simp [Deed.burden]
  unfold Deed.overloads
  simp only [hburden, carriedLoad_modifyPlayer]
  rfl

/-- An item that fits by count fits without a limit, too, if the inventory is within its capacity
and that is less than the limit of counting. -/
theorem load_le_of_fits (hpacked : world.Packed) {id : InventoryId} {inventory : Inventory}
    {key : ItemKey} (hinventory : world.inventory? id = some inventory)
    (hwithin : world.carriedLoad id ≤ inventory.capacity)
    (hsmall : inventory.capacity < Count.limit) (hfits : world.inventoryFits id key = true) :
    world.carriedLoad id + world.load key ≤ inventory.capacity := by
  have hcarried := carriedWeight_eq_carriedLoad hpacked (hwithin.trans hsmall.le)
  have hkey := min_weight hpacked key
  rw [inventoryFits, hinventory, Option.any_some, Inventory.fits, Count.add,
    decide_eq_true_iff] at hfits
  omega

/-- If something that is put into a held container is too heavy for the inventory that bears the
container, then it is held, too, or it would have been checked. -/
theorem holds_of_overload (hpacked : world.Packed) {id : InventoryId} {inventory : Inventory}
    {key container : ItemKey} (hinventory : world.inventory? id = some inventory)
    (hwithin : world.carriedLoad id ≤ inventory.capacity)
    (hsmall : inventory.capacity < Count.limit)
    (hbears : world.bears id (.item container) = true)
    (hlack : inventory.capacity < world.carriedLoad id + world.load key)
    (hchecked : world.holds container = true → world.holds key = false →
      world.hasRoom key = true) (hheld : world.holds container = true) :
    world.holds key = true := by
  by_contra hnot
  obtain ⟨current, hserves, hroom⟩ :=
    (Option.any_eq_true _ _).mp (hchecked hheld (Bool.eq_false_iff.mpr hnot))
  -- The inventory that serves is the one that bears the container.
  obtain ⟨found, houter, hfound⟩ := holds_iff.mp hheld
  rw [bears_item, Bool.and_eq_true] at hbears
  cases houter.symm.trans (outermost?_of_isWeighed hpacked hbears.1)
  cases hserves.symm.trans hfound
  have hroomy := load_le_of_fits hpacked hinventory hwithin hsmall hroom
  omega

/-- **The deeds that are not checked.** If every inventory is within its capacity, and that is less
than the limit of counting, then a deed that overloads one of them is to take something off, or to
put something or a copy of it into a container; and if the player holds that container, then also
the thing that was put. -/
theorem Does.overloads_cases (h : world.Does deed changed) (hpacked : world.Packed)
    (hwithin : world.WithinCapacity)
    (hsmall : ∀ id inventory, world.inventory? id = some inventory →
      inventory.capacity < Count.limit)
    (hover : deed.overloads world = true) :
    (∃ key, deed = .takeOff key) ∨ ∃ key container,
      (deed = .put key container ∨ deed = .copy key container) ∧
        (world.holds container = true → world.holds key = true) := by
  obtain ⟨⟨id, inventory⟩, hmem, hlack⟩ := List.any_eq_true.mp hover
  have hinventory : world.inventory? id = some inventory := Table.mem_entries.mp hmem
  have hbefore := hwithin id inventory hinventory
  have hlack := decide_eq_true_iff.mp hlack
  -- A deed without a burden cannot be the one.
  have hidle (hnone : deed.burden world id = 0) : False := by omega
  cases h with
  | @take key into _ hfree howner hserves hfits h =>
    rw [Deed.burden] at hlack
    split at hlack
    · rename_i heq
      have hroomy := load_le_of_fits hpacked hinventory hbefore (hsmall id _ hinventory)
        (heq ▸ hfits)
      omega
    · omega
  | drop => exact (hidle rfl).elim
  | spend => exact (hidle rfl).elim
  | wear => exact (hidle rfl).elim
  | rest => exact (hidle rfl).elim
  | @takeOff key hworn => exact .inl ⟨key, rfl⟩
  | @put key container _ hempty hchecked h =>
    refine .inr ⟨key, container, .inl rfl, ?_⟩
    rw [Deed.burden] at hlack
    split at hlack
    · rename_i hgains
      have hbears := (Bool.and_eq_true_iff.mp hgains).1
      exact holds_of_overload hpacked hinventory hbefore (hsmall id _ hinventory) hbears hlack
        hchecked
    · omega
  | @copy key container slot _ hempty hchecked h =>
    refine .inr ⟨key, container, .inr rfl, ?_⟩
    rw [Deed.burden] at hlack
    split at hlack
    · rename_i hbears
      have hshare := share_le_load hpacked key
      exact holds_of_overload hpacked hinventory hbefore (hsmall id _ hinventory) hbears
        (by omega) hchecked
    · omega

/-! ## The rest of a turn -/

/-- No event has actions. -/
def Actionless (world : World) : Prop :=
  ∀ id event, world.event? id = some event → event.outcome.actions = []

instance (world : World) : Decidable world.Actionless :=
  decidable_of_iff (∀ entry ∈ world.events.entries, entry.2.outcome.actions = [])
    ⟨fun h id event hevent => h (id, event) (Table.mem_entries.mpr hevent),
      fun h entry hentry => h entry.1 entry.2 (Table.mem_entries.mp hentry)⟩

/-- Events have the same actions in every world of the same setting. -/
theorem Actionless.of_setting (h : world.Actionless) (hsetting : changed.setting = world.setting) :
    changed.Actionless := by
  intro id event hevent
  have hsame := event?_of_setting hsetting.symm id
  rw [hevent] at hsame
  obtain ⟨other, hother, hpristine⟩ := Option.map_eq_some_iff.mp hsame
  have hactions := congrArg (fun e : Event => e.outcome.actions) hpristine
  exact hactions.symm.trans (h id other hother)

/-- While an event without actions fires, or none, things stay. -/
theorem Answers.stays {id? : Option EventId} (h : world.Answers id? changed)
    (hactionless : world.Actionless) : world.Stays changed := by
  cases id? with
  | none =>
    have hsame : changed = world := h
    rw [hsame]
    exact .refl world
  | some id =>
    obtain ⟨event, done, hevent, hdone, hstays⟩ := Fires.stays h
    rw [hactionless id event hevent] at hdone
    cases hdone
    exact hstays

/-- Laying things down makes nothing else heavier. -/
theorem LaidDown.lightens {location : LocationId} {keys : List ItemKey}
    (h : LaidDown location keys world changed) (hpacked : world.Packed) (hafter : changed.Packed) :
    Lightens keys world changed := by
  refine ⟨hpacked, hafter, fun key hkey hworn => ?_, fun key hkey => ?_, fun key _ => ?_,
    fun id => ?_⟩
  · rw [h.isWorn, hworn]
    simpa using hkey
  · rw [size, h.others key hkey, size]
  · rw [h.elsewhere _ Holder.noConfusion]
  · rw [h.elsewhere _ Holder.noConfusion]

/-- Death makes no inventory heavier. -/
theorem carriedLoad_mourned_le (hsound : world.Sound) (id : InventoryId) :
    world.mourned.carriedLoad id ≤ world.carriedLoad id := by
  unfold mourned
  split
  · exact Nat.le_refl _
  · have hlaid := laidDown_scatter hsound.closed hsound.exclusive
    have hafter := (hsound.evolves world.evolves_scatter).toPacked
    rw [carriedLoad_modifyPlayer]
    exact (hlaid.lightens hsound.toPacked hafter).carriedLoad_le id

end World

variable {turn : Turn} {command : Command} {args : List Arg} {final : World}

/-- If no event has actions, nothing gets heavier in a turn after its command has been carried
out. -/
theorem Turn.Course.withinCapacity (h : turn.Course command args final)
    (hsound : turn.world.Sound) (hactionless : turn.world.Actionless)
    (hwithin : ((turn.acted? command args).getD turn.world).WithinCapacity) :
    final.WithinCapacity := by
  cases h with
  | refused pending hfinal hdeed hacted =>
    rw [hacted] at hwithin
    rw [hfinal]
    exact hwithin.modifyPlayer _
  | @completed deed acted reckoned watched hdeed hacted hwatched hreckoned hdoes hcarries hrests
      hwatches hanswers hevolves hfinal =>
    rw [hacted] at hwithin
    have hstarted : (turn.world.modifyPlayer (·.forget)).Sound :=
      hsound.evolves (.single (.player .forget))
    have hsoundActed := hstarted.carries hcarries
    have hsoundWatched := hsoundActed.evolves hwatches
    have hsetting : watched.1.world.setting = turn.world.setting :=
      (hrests.setting.trans hdoes.setting).trans (World.setting_modifyPlayer rfl)
    have hstays := hanswers.stays (hactionless.of_setting hsetting)
    have hlater := hrests.toStays.trans hstays
    rw [hfinal]
    refine hwithin.lighter (reckoned.evolves_mourned.setting.trans hlater.setting) fun id => ?_
    exact (World.carriedLoad_mourned_le (hsoundWatched.evolves hevolves) id).trans
      ((hlater.lightens hsoundActed.toPacked).carriedLoad_le id)

end Adventure
