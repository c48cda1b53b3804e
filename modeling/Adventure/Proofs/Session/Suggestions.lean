import Adventure.Proofs.Loading.CommandNames
import Adventure.Proofs.Session.Reached
import Mathlib.Data.Prod.Lex
import Mathlib.Data.String.Basic

/-!
# Which name is suggested

Whatever the score is, as long as scores can be compared, the name that is suggested is the one that
scores best among the names that may be suggested, and the smallest of those that score alike. This
leaves one choice only; so the names may be gone through in any order. A name that is suggested
means a command when it is typed, since it was registered in lowercase.
-/

namespace Adventure

namespace Suggestion

variable {σ : Type}

/-! ## The best candidate -/

/-- Where a candidate stands: those with higher scores come first, and of those that score alike the
ones with smaller names. -/
def standing (candidate : String × σ) : σᵒᵈ ×ₗ String :=
  toLex (OrderDual.toDual candidate.2, candidate.1)

theorem standing_inj {candidate other : String × σ} (h : standing candidate = standing other) :
    candidate = other := by
  obtain ⟨hscore, hname⟩ := Prod.mk.inj (toLex_inj.mp h)
  exact Prod.ext hname (OrderDual.toDual_inj.mp hscore)

variable [LinearOrder σ]

/-- One candidate is better than another exactly if it stands before it. -/
theorem isBetter_iff (candidate other : String × σ) :
    isBetter candidate other = true ↔ standing candidate < standing other := by
  rw [standing, standing, Prod.Lex.toLex_lt_toLex, OrderDual.toDual_lt_toDual,
    OrderDual.toDual_inj]
  simp [isBetter]

/-- Going through candidates leaves the one of them that stands before all others. -/
theorem exists_foldl_better (candidates : List (String × σ)) (first : String × σ) :
    ∃ best ∈ first :: candidates, candidates.foldl better (some first) = some best ∧
      ∀ other ∈ first :: candidates, standing best ≤ standing other := by
  induction candidates generalizing first with
  | nil => exact ⟨first, List.mem_cons_self, rfl, by simp⟩
  | cons second rest ih =>
    -- The better of the first two is the one that goes on.
    obtain ⟨kept, hmem, hkept, hfirst, hsecond⟩ : ∃ kept ∈ [first, second],
        better (some first) second = some kept ∧
          standing kept ≤ standing first ∧ standing kept ≤ standing second := by
      by_cases hbetter : isBetter second first = true
      · have hlt := (isBetter_iff second first).mp hbetter
        exact ⟨second, by simp, if_pos hbetter, hlt.le, le_rfl⟩
      · have hle := not_lt.mp fun hlt => hbetter ((isBetter_iff second first).mpr hlt)
        exact ⟨first, by simp, if_neg hbetter, le_rfl, hle⟩
    obtain ⟨best, hbest, hfold, hleast⟩ := ih kept
    have hbefore := hleast kept List.mem_cons_self
    refine ⟨best, ?_, ?_, fun other hother => ?_⟩
    · rcases List.mem_cons.mp hbest with rfl | hrest
      · simpa [or_assoc] using List.mem_append_left rest hmem
      · simp [hrest]
    · rw [List.foldl_cons, hkept, hfold]
    · rcases List.mem_cons.mp hother with rfl | hother
      · exact hbefore.trans hfirst
      · rcases List.mem_cons.mp hother with rfl | hother
        · exact hbefore.trans hsecond
        · exact hleast other (List.mem_cons_of_mem kept hother)

/-- The best of some candidates is the one of them that stands before all others. -/
theorem best?_eq_some_iff {candidates : List (String × σ)} {best : String × σ} :
    best? candidates = some best ↔
      best ∈ candidates ∧ ∀ other ∈ candidates, standing best ≤ standing other := by
  cases candidates with
  | nil => simp [best?]
  | cons first rest =>
    obtain ⟨found, hmem, hfound, hleast⟩ := exists_foldl_better rest first
    have hfold : best? (first :: rest) = some found := hfound
    rw [hfold, Option.some.injEq]
    constructor
    · rintro rfl
      exact ⟨hmem, hleast⟩
    · rintro ⟨hbest, hbefore⟩
      exact standing_inj (le_antisymm (hleast best hbest) (hbefore found hmem))

/-- Which candidate is the best does not depend on their order. -/
theorem best?_perm {candidates others : List (String × σ)} (h : candidates.Perm others) :
    best? candidates = best? others := by
  refine Option.ext fun best => ?_
  simp only [best?_eq_some_iff, h.mem_iff]

end Suggestion

namespace World

open Suggestion

variable {σ : Type} [LinearOrder σ]

/-! ## Names that may be suggested -/

/-- A name may be suggested if it means a command that exists and is not secret. -/
def Suggestible (world : World) (name : String) : Prop :=
  ∃ id command, world.commandNames.get? name = some id ∧ world.command? id = some command ∧
    command.isSecret = false

/-- Whether the command with a number exists and is not secret. -/
def isOpen (world : World) (id : CommandId) : Bool := (world.command? id).any (!·.isSecret)

/-- The candidates among registered names, with their scores, in the order of the names. -/
def candidates (world : World) (score : String → σ) (threshold : σ)
    (registered : List (String × CommandId)) : List (String × σ) :=
  (((registered.filter fun entry => world.isOpen entry.2).map Prod.fst).map
    fun name => (name, score name)).filter fun candidate => threshold ≤ candidate.2

/-- One step of a search through the registered names: a name is taken up if its command exists and
is not secret, it scores enough, and it is better than the best one so far. -/
def considerName (world : World) (score : String → σ) (threshold : σ) (best : Option (String × σ))
    (entry : String × CommandId) : Option (String × σ) :=
  if world.isOpen entry.2 = true ∧ threshold ≤ score entry.1 ∧
      best.all (isBetter (entry.1, score entry.1)) = true then
    some (entry.1, score entry.1)
  else best

/-- The name that a search through the registered names in a certain order comes to. -/
def searchNames (world : World) (score : String → String → σ) (threshold : σ) (word : String)
    (registered : List (String × CommandId)) : Option String :=
  (registered.foldl (world.considerName (score (Text.lower word)) threshold) none).map Prod.fst

/-- The name to suggest for a word: it may be suggested, it scores enough, none that may be
suggested scores more, and none that scores as much is smaller. -/
structure Suggests (world : World) (score : String → String → σ) (threshold : σ)
    (word name : String) : Prop where
  /-- It means a command that exists and is not secret. -/
  suggestible : world.Suggestible name
  /-- It scores enough. -/
  close : threshold ≤ score (Text.lower word) name
  /-- No other one scores more. -/
  closest : ∀ other, world.Suggestible other →
    score (Text.lower word) other ≤ score (Text.lower word) name
  /-- No other one that scores as much is smaller. -/
  smallest : ∀ other, world.Suggestible other →
    score (Text.lower word) other = score (Text.lower word) name → name ≤ other

variable {world : World} {score : String → σ} {threshold : σ}
  {registered : List (String × CommandId)}

theorem isOpen_iff {id : CommandId} :
    world.isOpen id = true ↔
      ∃ command, world.command? id = some command ∧ command.isSecret = false := by
  simp [isOpen, Option.any_eq_true]

/-- The candidates are the names that may be suggested and score enough. -/
theorem mem_candidates_iff {candidate : String × σ} :
    candidate ∈ world.candidates score threshold world.commandNames.entries ↔
      world.Suggestible candidate.1 ∧ threshold ≤ score candidate.1 ∧
        candidate.2 = score candidate.1 := by
  obtain ⟨name, value⟩ := candidate
  constructor
  · intro h
    obtain ⟨hmem, hclose⟩ := List.mem_filter.mp h
    obtain ⟨found, hfound, heq⟩ := List.mem_map.mp hmem
    cases heq
    obtain ⟨⟨found, id⟩, hentry, rfl⟩ := List.mem_map.mp hfound
    obtain ⟨hentry, hopen⟩ := List.mem_filter.mp hentry
    obtain ⟨command, hcommand, hsecret⟩ := isOpen_iff.mp hopen
    exact ⟨⟨id, command, Table.mem_entries.mp hentry, hcommand, hsecret⟩,
      of_decide_eq_true hclose, rfl⟩
  · rintro ⟨⟨id, command, hname, hcommand, hsecret⟩, hclose, hvalue⟩
    have hvalue : value = score name := hvalue
    subst hvalue
    refine List.mem_filter.mpr ⟨List.mem_map.mpr ⟨name, ?_, rfl⟩, decide_eq_true hclose⟩
    have hopen := isOpen_iff.mpr ⟨command, hcommand, hsecret⟩
    exact List.mem_map.mpr
      ⟨(name, id), List.mem_filter.mpr ⟨Table.mem_entries.mpr hname, hopen⟩, rfl⟩

/-! ## Searches in any order -/

theorem candidates_cons (entry : String × CommandId) :
    world.candidates score threshold (entry :: registered) =
      if world.isOpen entry.2 = true ∧ threshold ≤ score entry.1 then
        (entry.1, score entry.1) :: world.candidates score threshold registered
      else world.candidates score threshold registered := by
  unfold candidates
  by_cases hopen : world.isOpen entry.2 = true
  · by_cases hclose : threshold ≤ score entry.1 <;> simp [hopen, hclose]
  · simp [hopen]

theorem considerName_eq (best : Option (String × σ)) (entry : String × CommandId) :
    world.considerName score threshold best entry =
      if world.isOpen entry.2 = true ∧ threshold ≤ score entry.1 then
        better best (entry.1, score entry.1)
      else best := by
  unfold considerName
  by_cases hopen : world.isOpen entry.2 = true
  · by_cases hclose : threshold ≤ score entry.1
    · cases best <;> simp [better, hopen, hclose]
    · simp [hclose]
  · simp [hopen]

/-- A search takes up the candidates only, and keeps the best of them. -/
theorem foldl_considerName (best : Option (String × σ)) :
    registered.foldl (world.considerName score threshold) best =
      (world.candidates score threshold registered).foldl better best := by
  induction registered generalizing best with
  | nil => rfl
  | cons entry rest ih =>
    rw [List.foldl_cons, ih, considerName_eq, candidates_cons]
    split <;> rfl

/-- A search comes to the best candidate. -/
theorem searchNames_eq (world : World) (score : String → String → σ) (threshold : σ)
    (word : String) (registered : List (String × CommandId)) :
    world.searchNames score threshold word registered =
      (best? (world.candidates (score (Text.lower word)) threshold registered)).map Prod.fst := by
  rw [searchNames, foldl_considerName, best?]

/-- In whatever order the names are gone through, a search comes to the same name. -/
theorem searchNames_perm {score : String → String → σ} {word : String}
    {others : List (String × CommandId)} (h : registered.Perm others) :
    world.searchNames score threshold word registered =
      world.searchNames score threshold word others := by
  rw [searchNames_eq, searchNames_eq, candidates, candidates]
  exact congrArg _ (best?_perm ((((h.filter _).map _).map _).filter _))

/-! ## Registered names -/

/-- The tables of names that come about: no name means a command at first, and commands claim names
one after the other. -/
inductive Claimed : Table String CommandId → Prop
  /-- No name means a command. -/
  | none : Claimed ∅
  /-- A command claims some names. -/
  | claim {claimed : Table String CommandId} (h : Claimed claimed) (id : CommandId)
      (names : List String) : Claimed (claimNames id claimed names).1

/-- All names in a table are in lowercase. -/
def Lowercase (claimed : Table String CommandId) : Prop :=
  ∀ name id, claimed.get? name = some id → Text.lower name = name

/-- Names are claimed in lowercase. -/
theorem Lowercase.claimNames {claimed : Table String CommandId} (h : Lowercase claimed)
    (id : CommandId) (names : List String) : Lowercase (claimNames id claimed names).1 := by
  induction names generalizing claimed with
  | nil => exact h
  | cons first rest ih =>
    rw [claimNames_cons]
    refine ih fun name found hfound => ?_
    rw [Table.get?_insert] at hfound
    split at hfound
    · rename_i hname
      rw [hname, Text.lower_lower]
    · exact h name found hfound

theorem Claimed.lowercase {claimed : Table String CommandId} (h : Claimed claimed) :
    Lowercase claimed := by
  induction h with
  | none => exact fun name id hname => nomatch hname
  | claim _ id names ih => exact ih.claimNames id names

/-- However names were claimed, the name of a command means it when it is typed. -/
theorem commandNamed?_of_suggestible (hclaimed : Claimed world.commandNames) {name : String}
    (h : world.Suggestible name) :
    ∃ command, world.commandNamed? name = some command ∧ command.isSecret = false := by
  obtain ⟨id, command, hname, hcommand, hsecret⟩ := h
  refine ⟨command, ?_, hsecret⟩
  rw [commandNamed?, hclaimed.lowercase name id hname, hname, Option.bind_some, hcommand]

/-! ## The name that is suggested -/

/-- The best candidate has the name to suggest. -/
theorem best?_candidates_iff {score : String → String → σ} {word name : String} :
    (best? (world.candidates (score (Text.lower word)) threshold
        world.commandNames.entries)).map Prod.fst = some name ↔
      world.Suggests score threshold word name := by
  rw [Option.map_eq_some_iff]
  constructor
  · rintro ⟨best, hbest, rfl⟩
    obtain ⟨hmem, hleast⟩ := best?_eq_some_iff.mp hbest
    obtain ⟨hsuggestible, hclose, hscore⟩ := mem_candidates_iff.mp hmem
    -- Any other name that scores as much is a candidate, too, and does not stand before it.
    have hbefore (other : String) (hother : world.Suggestible other)
        (hscored : score (Text.lower word) best.1 ≤ score (Text.lower word) other) :
        standing best ≤ standing (other, score (Text.lower word) other) :=
      hleast _ (mem_candidates_iff.mpr ⟨hother, hclose.trans hscored, rfl⟩)
    refine ⟨hsuggestible, hclose, fun other hother => ?_, fun other hother hequal => ?_⟩
    · by_contra hmore
      have hle := hbefore other hother (not_le.mp hmore).le
      rw [standing, standing, hscore, Prod.Lex.toLex_le_toLex, OrderDual.toDual_lt_toDual,
        OrderDual.toDual_inj] at hle
      rcases hle with hlt | ⟨heq, -⟩
      · exact hmore hlt.le
      · exact hmore heq.ge
    · have hle := hbefore other hother hequal.ge
      rw [standing, standing, hscore, Prod.Lex.toLex_le_toLex, OrderDual.toDual_lt_toDual] at hle
      rcases hle with hlt | ⟨-, hname⟩
      · exact absurd hlt hequal.not_lt
      · exact hname
  · rintro ⟨hsuggestible, hclose, hclosest, hsmallest⟩
    refine ⟨(name, score (Text.lower word) name), best?_eq_some_iff.mpr
      ⟨mem_candidates_iff.mpr ⟨hsuggestible, hclose, rfl⟩, fun other hother => ?_⟩, rfl⟩
    obtain ⟨hother, -, hscore⟩ := mem_candidates_iff.mp hother
    rw [standing, standing, hscore, Prod.Lex.toLex_le_toLex, OrderDual.toDual_lt_toDual,
      OrderDual.toDual_inj]
    rcases (hclosest other.1 hother).lt_or_eq with hlt | heq
    · exact .inl hlt
    · exact .inr ⟨heq.symm, hsmallest other.1 hother heq⟩

/-- **Which name is suggested.** Whatever the score is, a name is suggested exactly if it means a
command that exists and is not secret, scores enough, and has no better one beside it: none of these
names scores more, and none that scores as much is smaller. A search that goes through the names in
any order comes to the same name. And in every world in which commands have claimed their names, the
name that is suggested means a command that is not secret when it is typed. -/
theorem suggestBy_eq_some_iff (world : World) (score : String → String → σ) (threshold : σ)
    (word : String) :
    (∀ name, world.suggestBy score threshold word = some name ↔
      world.Suggests score threshold word name) ∧
    (∀ registered : List (String × CommandId), registered.Perm world.commandNames.entries →
      world.searchNames score threshold word registered =
        world.suggestBy score threshold word) ∧
    (Claimed world.commandNames → ∀ name, world.suggestBy score threshold word = some name →
      ∃ command, world.commandNamed? name = some command ∧ command.isSecret = false) := by
  have hsuggests (name : String) : world.suggestBy score threshold word = some name ↔
      world.Suggests score threshold word name := best?_candidates_iff
  refine ⟨hsuggests, fun registered hperm => ?_, fun hclaimed name hname => ?_⟩
  · rw [searchNames_perm hperm, searchNames_eq]
    rfl
  · exact commandNamed?_of_suggestible hclaimed ((hsuggests name).mp hname).suggestible

end World

/-- In every world that is loaded, commands have claimed their names. -/
theorem Document.claimed_load {document : Document} {loaded : Loaded}
    (h : document.load = .ok loaded) : World.Claimed loaded.world.commandNames := by
  obtain ⟨-, parts, hmakes, hworld⟩ := makes_load h
  rw [hworld, Directory.commandNames_world]
  have hsettled : World.Claimed parts.settled.commandNames :=
    hmakes.commandNames_settled ▸ .none
  exact List.foldlRecOn (motive := fun world : World => World.Claimed world.commandNames)
    parts.commands _ hsettled fun _ hclaimed command _ => hclaimed.claim command.id command.names

/-- They have done so in every game, and nobody claims a name in a game. -/
theorem Session.Reached.claimed {session : Session} (h : Session.Reached session) :
    World.Claimed session.world.commandNames := by
  induction h with
  | begin hload hstart =>
    rw [(Session.start_ok hstart).1]
    exact Document.claimed_load hload
  | @welcome session h ih =>
    have hsetting := (World.evolves_lookAround session.world true).setting
    exact (congrArg World.commandNames hsetting).symm ▸ ih
  | @answer session h line ih =>
    exact (congrArg World.commandNames (Session.setting_answer h line)).symm ▸ ih

/-- A description of three commands with names that begin alike. The second one is secret. -/
def Document.footpath : Document :=
  let command (num : Nat) (attributes name : String) (aliases : List String) : CommandDecl :=
    ⟨⟨num⟩, attributes, name, aliases, none, [], none, []⟩
  { name := "footpath"
    commands := [command 1 "" "Wander" ["walk"], command 2 "40" "wade" [], command 3 "" "wave" []]
    items := []
    locations := [⟨⟨1⟩, "3", ⟨"meadow", none, none, []⟩, ∅⟩]
    events := []
    inventories := [⟨⟨1⟩, 8, true, []⟩]
    players := [⟨⟨1⟩, ""⟩]
    inputs := ∅
    hints := ∅
    explanations := ∅
    responses := ∅ }

namespace Session

/-- The session that begins over it. -/
def footpath : Session := (Document.footpath.begin? {}).get (by decide +kernel)

/-- Scored by how words begin, three names that are not secret are as close to "WAFT" as each other,
and the secret one is, too. The smallest of the three is suggested, also if the names are gone
through backwards, and means the first command when it is typed. -/
theorem suggestBy_eq_some_iff_footpath :
    let world := footpath.world
    let score (typed name : String) : ℕ := Text.commonStart typed.toList name.toList
    World.Claimed world.commandNames ∧ world.suggestBy score 2 "WAFT" = some "walk" ∧
      world.Suggests score 2 "WAFT" "walk" ∧
      score (Text.lower "WAFT") "wade" = score (Text.lower "WAFT") "walk" ∧
      world.searchNames score 2 "WAFT" world.commandNames.entries.reverse = some "walk" ∧
      (∃ command, world.commandNamed? "walk" = some command ∧ command.isSecret = false) ∧
      world.suggestBy score 3 "WAFT" = none := by
  intro world score
  have hbegins : Document.footpath.begin? {} = some footpath := (Option.some_get _).symm
  have hclaimed := (Reached.of_begin? hbegins).claimed
  have hname : world.suggestBy score 2 "WAFT" = some "walk" := by decide +kernel
  obtain ⟨hsuggests, horder, hmeans⟩ := World.suggestBy_eq_some_iff world score 2 "WAFT"
  exact ⟨hclaimed, hname, (hsuggests "walk").mp hname, by decide +kernel,
    (horder _ world.commandNames.entries.reverse_perm).trans hname, hmeans hclaimed "walk" hname,
    by decide +kernel⟩

end Session

end Adventure
