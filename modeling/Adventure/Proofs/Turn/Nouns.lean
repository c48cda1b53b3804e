import Adventure.Proofs.Text.Words
import Adventure.Proofs.Turn.Arguments
import Adventure.Proofs.World.Operations

/-!
# Nouns

A typed word means an item in two steps. First the items with that name are found, by a comparison
that folds only the letters A to Z, although the word was lowered by the rules of Unicode. Then one
of them is chosen: one that the player holds before one that lies about. Only after that it is asked
whether the item is where the slot wants it. So a name with other capitals than A to Z is not found
as it is typed, and a held item hides one of the same name that lies about.
-/

namespace Adventure.World

variable {world : World} {slot : Slot} {name : String} {key : ItemKey}

/-! ## Items of one name -/

/-- An item has a name: it is no spent copy, and its short name is like the name. -/
def IsNamed (world : World) (name : String) (key : ItemKey) : Prop :=
  ∃ item, world.item? key = some item ∧ item.isSpent = false ∧
    Text.alike item.labels.shortname name = true

theorem isNamed_iff {item : Item} (hitem : world.item? key = some item) :
    world.IsNamed name key ↔
      item.isSpent = false ∧ Text.alike item.labels.shortname name = true := by
  simp [IsNamed, hitem]

/-- The items that are found by a name are those that have it. -/
theorem mem_itemsNamed_iff : key ∈ world.itemsNamed name ↔ world.IsNamed name key := by
  simp [itemsNamed, IsNamed, mem_keyedItems]

/-! ## Choosing among items of one name -/

/-- An item that lies about is not held. -/
theorem holds_of_isHere (h : world.isHere key = true) : world.holds key = false := by
  unfold isHere at h
  unfold holds
  rw [eq_of_beq h]

/-- A word means one of the items with that name. -/
theorem isNamed_of_itemMeant? (h : world.itemMeant? name = some key) :
    world.IsNamed name key := by
  rw [← mem_itemsNamed_iff]
  simp only [itemMeant?, Option.orElse_eq_orElse, Option.orElse_eq_or, Option.or_eq_some_iff] at h
  rcases h with hheld | ⟨-, hhere | ⟨-, hfirst⟩⟩
  · exact List.mem_of_find?_eq_some hheld
  · exact List.mem_of_find?_eq_some hhere
  · exact List.mem_of_mem_head? hfirst

/-- If the player holds an item with a name, the word means an item that is held. -/
theorem itemMeant?_of_holds (hnamed : world.IsNamed name key)
    (hheld : world.holds key = true) :
    ∃ held, world.itemMeant? name = some held ∧ world.holds held = true := by
  cases hfound : (world.itemsNamed name).find? world.holds with
  | some held => exact ⟨held, by simp [itemMeant?, hfound], List.find?_some hfound⟩
  | none =>
    have hfree := List.find?_eq_none.mp hfound key (mem_itemsNamed_iff.mpr hnamed)
    exact absurd hheld hfree

/-- If the player holds none but one lies about, the word means an item that lies about. -/
theorem itemMeant?_of_isHere (hnone : ∀ key, world.IsNamed name key → world.holds key = false)
    (hnamed : world.IsNamed name key) (hhere : world.isHere key = true) :
    ∃ lying, world.itemMeant? name = some lying ∧ world.isHere lying = true := by
  have hfree : (world.itemsNamed name).find? world.holds = none :=
    List.find?_eq_none.mpr fun other hother => by simp [hnone other (mem_itemsNamed_iff.mp hother)]
  cases hfound : (world.itemsNamed name).find? world.isHere with
  | some lying => exact ⟨lying, by simp [itemMeant?, hfree, hfound], List.find?_some hfound⟩
  | none =>
    have hgone := List.find?_eq_none.mp hfound key (mem_itemsNamed_iff.mpr hnamed)
    exact absurd hhere hgone

/-- A word is taken for a slot if the item that it means is where the slot wants it. -/
def Accepts (world : World) (slot : Slot) (name : String) : Prop :=
  ∃ key, world.itemMeant? name = some key ∧ world.misfit? slot key = none

/-- A word is taken for a slot if an item with that name is where the slot wants it, unless the item
has to lie about and another one of that name is held. -/
theorem accepts_of_isAt (hnamed : world.IsNamed name key) (hat : world.IsAt key slot.source)
    (hfree : slot.source = .location → ∀ key, world.IsNamed name key → world.holds key = false) :
    world.Accepts slot name := by
  by_cases hheld : ∃ other, world.IsNamed name other ∧ world.holds other = true
  · obtain ⟨other, hother, hholds⟩ := hheld
    obtain ⟨held, hmeant, hheld⟩ := itemMeant?_of_holds hother hholds
    refine ⟨held, hmeant, misfit?_eq_none_iff.mpr ?_⟩
    cases hsource : slot.source with
    | inventory => exact hheld
    | location =>
      rw [hfree hsource other hother] at hholds
      cases hholds
    | either => exact .inl hheld
  · have hnone (other : ItemKey) (hother : world.IsNamed name other) :
        world.holds other = false :=
      Bool.eq_false_iff.mpr fun hholds => hheld ⟨other, hother, hholds⟩
    have hhere : slot.source ≠ .inventory ∧ world.isHere key = true := by
      cases hsource : slot.source with
      | inventory =>
        rw [hsource] at hat
        cases (hnone key hnamed).symm.trans hat
      | location =>
        rw [hsource] at hat
        exact ⟨by rintro ⟨⟩, hat.1⟩
      | either =>
        rw [hsource] at hat
        refine ⟨by rintro ⟨⟩, hat.resolve_left ?_⟩
        exact ne_true_of_eq_false (hnone key hnamed)
    obtain ⟨lying, hmeant, hlying⟩ := itemMeant?_of_isHere hnone hnamed hhere.2
    refine ⟨lying, hmeant, misfit?_eq_none_iff.mpr ?_⟩
    cases hsource : slot.source with
    | inventory => exact absurd hsource hhere.1
    | location => exact ⟨hlying, holds_of_isHere hlying⟩
    | either => exact .inr hlying

/-- **Which nouns a slot takes.** An item has a name if it is no spent copy and its short name is
like the name. A word is taken for a slot exactly if some item with that name is where the slot
wants it and, should the slot want it to lie about, the player holds none of that name. The item
that is taken has the name. If the slot wants the item to lie about and the player holds one of that
name, then one that is held is refused for being carried, whatever lies about. -/
theorem accepts_iff (world : World) (slot : Slot) (name : String) :
    (world.Accepts slot name ↔
      (∃ key, world.IsNamed name key ∧ world.IsAt key slot.source) ∧
        (slot.source = .location → ∀ key, world.IsNamed name key → world.holds key = false)) ∧
      (∀ key, world.itemMeant? name = some key → world.IsNamed name key) ∧
      (slot.source = .location → ∀ key, world.IsNamed name key → world.holds key = true →
        ∃ held, world.itemMeant? name = some held ∧ world.holds held = true ∧
          world.misfit? slot held = some .alreadyHeld) := by
  have hhides (hsource : slot.source = .location) (key : ItemKey)
      (hnamed : world.IsNamed name key) (hholds : world.holds key = true) :
      ∃ held, world.itemMeant? name = some held ∧ world.holds held = true ∧
        world.misfit? slot held = some .alreadyHeld := by
    obtain ⟨held, hmeant, hheld⟩ := itemMeant?_of_holds hnamed hholds
    exact ⟨held, hmeant, hheld, by simp [misfit?, hsource, hheld]⟩
  refine ⟨⟨fun haccepts => ⟨?_, fun hsource key hnamed => ?_⟩, ?_⟩, ?_, hhides⟩
  · obtain ⟨key, hmeant, hfits⟩ := haccepts
    exact ⟨key, isNamed_of_itemMeant? hmeant, misfit?_eq_none_iff.mp hfits⟩
  · obtain ⟨taken, hmeant, hfits⟩ := haccepts
    refine Bool.eq_false_iff.mpr fun hholds => ?_
    obtain ⟨held, hheld, -, hrefused⟩ := hhides hsource key hnamed hholds
    cases hmeant.symm.trans hheld
    rw [hfits] at hrefused
    cases hrefused
  · rintro ⟨⟨key, hnamed, hat⟩, hfree⟩
    exact accepts_of_isAt hnamed hat hfree
  · exact fun key hmeant => isNamed_of_itemMeant? hmeant

/-- A coin is held, and another coin lies where the player is. -/
def change : World :=
  let hall : Location := { id := ⟨1⟩, labels := ⟨"hall", "hall", "", [], none⟩ }
  let coin (number : Nat) : Operation :=
    .addItem (.ofAttributes ⟨number⟩ ItemFlags.portable ⟨"coin", "coin", "", [], none⟩ 1)
  (new "change" ⟨1⟩).after
    [.addLocation hall, .addInventory { id := ⟨1⟩, capacity := 9, isDefault := true },
      coin 1, coin 2, .insert (.inventory ⟨1⟩) ⟨0⟩, .insert (.location ⟨1⟩) ⟨1⟩]

/-- The coin on the floor cannot be named where one from the floor is wanted, for the word means the
coin in the purse. -/
theorem not_accepts_lying :
    ¬ ∀ (world : World) (slot : Slot) (name : String),
      (∃ key, world.IsNamed name key ∧ world.IsAt key slot.source) → world.Accepts slot name := by
  intro hall
  have hlying : ∃ key, change.IsNamed "coin" key ∧ change.IsAt key .location :=
    ⟨⟨1⟩, ⟨_, rfl, rfl, rfl⟩,
      (by decide +kernel : change.isHere ⟨1⟩ = true ∧ change.holds ⟨1⟩ = false)⟩
  obtain ⟨key, hmeant, hfits⟩ := hall change { source := .location } "coin" hlying
  have hcoin : change.itemMeant? "coin" = some ⟨0⟩ := by decide +kernel
  cases hmeant.symm.trans hcoin
  revert hfits
  decide +kernel

/-- Where any coin will do, the one in the purse is taken. Where one from the floor is wanted, it is
refused for being carried. -/
theorem accepts_iff_change :
    change.Accepts { source := .either } "coin" ∧ ¬ change.Accepts { source := .location } "coin" ∧
      ∃ held, change.itemMeant? "coin" = some held ∧ change.holds held = true ∧
        change.misfit? { source := .location } held = some .alreadyHeld := by
  have hpurse : change.IsNamed "coin" ⟨0⟩ ∧ change.holds ⟨0⟩ = true :=
    ⟨⟨_, rfl, rfl, rfl⟩, by decide +kernel⟩
  obtain ⟨heither, -, -⟩ := change.accepts_iff { source := .either } "coin"
  obtain ⟨hlying, -, hhides⟩ := change.accepts_iff { source := .location } "coin"
  refine ⟨heither.mpr ⟨⟨⟨0⟩, hpurse.1, .inl hpurse.2⟩, by rintro ⟨⟩⟩, fun haccepts => ?_,
    hhides rfl ⟨0⟩ hpurse.1 hpurse.2⟩
  have hfree := (hlying.mp haccepts).2 rfl ⟨0⟩ hpurse.1
  rw [hpurse.2] at hfree
  cases hfree

/-! ## Names as they are typed -/

/-- A command is found by any of its names in lowercase as well as by the name itself. -/
theorem commandNamed?_lower (world : World) (name : String) :
    world.commandNamed? (Text.lower name) = world.commandNamed? name := by
  unfold commandNamed?
  rw [Text.lower_lower]

/-- **Which items can be named.** If the name of an item is a single word that means something, then
typing it gives one token, which is the name in lowercase. The item is found by that token exactly
if it is no spent copy and lowering does nothing to the characters of its name but to fold the
letters A to Z. A command is found by the token whenever it is found by the name. -/
theorem mem_itemsNamed_token_iff (world : World) {key : ItemKey} {item : Item}
    (hitem : world.item? key = some item)
    (hword : world.texts.vocabulary.IsWord item.labels.shortname) :
    let name := item.labels.shortname
    let token := Text.lower name
    world.texts.vocabulary.tokens name = [token] ∧
      (key ∈ world.itemsNamed token ↔
        item.isSpent = false ∧ ∀ c ∈ name.toList, Text.lowerChar c = [c.toLower]) ∧
      world.commandNamed? token = world.commandNamed? name := by
  intro name token
  refine ⟨hword.tokens_eq, ?_, world.commandNamed?_lower name⟩
  rw [mem_itemsNamed_iff, isNamed_iff hitem, Text.alike_lower_iff]

/-- An éclair and a bun, each written with a capital. -/
def bakery : World :=
  let cake (number : Nat) (name : String) : Operation :=
    .addItem (.ofAttributes ⟨number⟩ ItemFlags.portable ⟨name, name, "", [], none⟩ 1)
  (new "bakery" ⟨1⟩).after [cake 1 "Éclair", cake 2 "Bun"]

/-- The bun is found as its name is written, and the éclair is not. -/
theorem mem_itemsNamed_token_iff_bakery :
    (bakery.texts.vocabulary.tokens "Bun" = ["bun"] ∧ ⟨1⟩ ∈ bakery.itemsNamed "bun") ∧
      bakery.texts.vocabulary.tokens "Éclair" = ["éclair"] ∧ ⟨0⟩ ∉ bakery.itemsNamed "éclair" := by
  have hbun : Text.lower "Bun" = "bun" := by decide +kernel
  have heclair : Text.lower "Éclair" = "éclair" := by decide +kernel
  have hbunWord : bakery.texts.vocabulary.IsWord "Bun" :=
    Text.Vocabulary.isWord_of_checks (by decide +kernel) (by decide +kernel) (by decide +kernel)
  have heclairWord : bakery.texts.vocabulary.IsWord "Éclair" :=
    Text.Vocabulary.isWord_of_checks (by decide +kernel) (by decide +kernel) (by decide +kernel)
  obtain ⟨hbunTokens, hbunFound, -⟩ :=
    mem_itemsNamed_token_iff bakery (rfl : bakery.item? ⟨1⟩ = some _) hbunWord
  obtain ⟨heclairTokens, heclairFound, -⟩ :=
    mem_itemsNamed_token_iff bakery (rfl : bakery.item? ⟨0⟩ = some _) heclairWord
  have hplain : "Bun".toList.all (fun c => Text.lowerChar c == [c.toLower]) = true := by
    decide +kernel
  have haccent : 'É' ∈ "Éclair".toList ∧ Text.lowerChar 'É' ≠ ['É'.toLower] := by decide +kernel
  refine ⟨⟨hbunTokens.trans (congrArg (fun token => [token]) hbun), ?_⟩,
    heclairTokens.trans (congrArg (fun token => [token]) heclair), ?_⟩
  · exact hbun ▸ hbunFound.mpr ⟨rfl, fun c hc => eq_of_beq (List.all_eq_true.mp hplain c hc)⟩
  · intro hmem
    obtain ⟨-, hfolds⟩ := heclairFound.mp (heclair.symm ▸ hmem)
    exact haccent.2 (hfolds 'É' haccent.1)

end Adventure.World
