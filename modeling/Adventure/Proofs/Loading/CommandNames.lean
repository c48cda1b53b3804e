import Adventure.Proofs.Loading.Assembly
import Adventure.Proofs.Loading.Survivors
import Adventure.Proofs.Text.Case

/-!
# Names of commands

Commands claim their names one after the other and a later claim wins, so that each name means the
last command that declares it. The world and the index of its description agree on that, although
each has the names claimed on its own. Every claim that takes a name from another command is told
with both commands, and every claim that repeats one of the same command as well.
-/

namespace Adventure

open Loading

/-! ## What is noted of names -/

/-- What is noted when a command takes a name from another one. -/
def clash (name : String) (previous id : CommandId) : Diagnostic :=
  .error s!"\"{name}\" is claimed by command {previous} and command {id}; command {id} wins"

/-- What is noted when a command claims a name that it has already. -/
def repetition (name : String) (id : CommandId) : Diagnostic :=
  .warning s!"command {id} declares \"{name}\" more than once"

/-- A problem is that some command takes a name from another one. -/
def Diagnostic.IsClash (name : String) (diagnostic : Diagnostic) : Prop :=
  ∃ previous id, diagnostic = clash name previous id

/-- A problem is that some command claims a name that it has already. -/
def Diagnostic.IsRepetition (name : String) (diagnostic : Diagnostic) : Prop :=
  ∃ id, diagnostic = repetition name id

/-- Lists that are cut at a mark which occurs in none of the first parts have the same parts. -/
theorem cut_inj {α : Type} {mark : α} {first second rest rest' : List α} (hfirst : mark ∉ first)
    (hsecond : mark ∉ second) (h : first ++ mark :: rest = second ++ mark :: rest') :
    first = second ∧ rest = rest' := by
  induction first generalizing second with
  | nil =>
    cases second with
    | nil => exact ⟨rfl, List.tail_eq_of_cons_eq h⟩
    | cons a second =>
      obtain ⟨rfl, -⟩ := List.cons.inj h
      exact absurd List.mem_cons_self hsecond
  | cons a first ih =>
    cases second with
    | nil =>
      obtain ⟨rfl, -⟩ := List.cons.inj h
      exact absurd List.mem_cons_self hfirst
    | cons b second =>
      obtain ⟨rfl, htail⟩ := List.cons.inj h
      obtain ⟨rfl, hrest⟩ := ih (List.not_mem_of_not_mem_cons hfirst)
        (List.not_mem_of_not_mem_cons hsecond) htail
      exact ⟨rfl, hrest⟩

theorem blank_notMem_digits (n : Nat) : ' ' ∉ Nat.toDigits 10 n := fun hmem =>
  absurd (Nat.isDigit_of_mem_toDigits (by decide) (by decide) hmem) (by decide)

/-- So have lists that are cut before a number, which has no blank in it. -/
theorem cut_number_inj {before before' : List Char} {m n : Nat}
    (h : before ++ ' ' :: Nat.toDigits 10 m = before' ++ ' ' :: Nat.toDigits 10 n) :
    before = before' := by
  have hblank (n : Nat) : ' ' ∉ (Nat.toDigits 10 n).reverse := fun hmem =>
    blank_notMem_digits n (List.mem_reverse.mp hmem)
  have hreverse := congrArg List.reverse h
  simp only [List.reverse_append, List.reverse_cons, List.append_assoc, List.singleton_append]
    at hreverse
  exact List.reverse_injective (cut_inj (hblank m) (hblank n) hreverse).2

/-- The name can be read off a clash, since all that stands behind it ends in a number. -/
theorem clash_inj {name name' : String} {previous id previous' id' : CommandId}
    (h : clash name previous id = clash name' previous' id') : name = name' := by
  have hparts (name : String) (previous id : CommandId) :
      (clash name previous id).message.toList =
        (((("\"".toList ++ name.toList ++ "\" is claimed by command".toList) ++
          ' ' :: Nat.toDigits 10 previous.num) ++ " and command".toList) ++
          ' ' :: Nat.toDigits 10 id.num) ++ "; command".toList ++
          ' ' :: Nat.toDigits 10 id.num ++ " wins".toList := by
    simp [clash, Diagnostic.error, toString, Nat.repr]
  have hlists := congrArg (fun diagnostic => diagnostic.message.toList) h
  simp only [hparts] at hlists
  have hlast := cut_number_inj (List.append_cancel_right hlists)
  have hmiddle := cut_number_inj (List.append_cancel_right hlast)
  have hfirst := cut_number_inj (List.append_cancel_right hmiddle)
  exact String.toList_injective (List.append_cancel_left (List.append_cancel_right hfirst))

/-- The name can be read off a repetition, since all that stands before it begins with a number. -/
theorem repetition_inj {name name' : String} {id id' : CommandId}
    (h : repetition name id = repetition name' id') : name = name' := by
  have hparts (name : String) (id : CommandId) :
      (repetition name id).message.toList =
        "command ".toList ++ (Nat.toDigits 10 id.num ++ ' ' :: ("declares \"".toList ++
          (name.toList ++ "\" more than once".toList))) := by
    simp [repetition, Diagnostic.warning, toString, Nat.repr]
  have hlists := congrArg (fun diagnostic => diagnostic.message.toList) h
  simp only [hparts] at hlists
  obtain ⟨-, hrest⟩ := cut_inj (blank_notMem_digits _) (blank_notMem_digits _)
    (List.append_cancel_left hlists)
  exact String.toList_injective (List.append_cancel_right (List.append_cancel_left hrest))

theorem isClash_clash (name : String) (previous id : CommandId) :
    (clash name previous id).IsClash name := ⟨previous, id, rfl⟩

theorem isRepetition_repetition (name : String) (id : CommandId) :
    (repetition name id).IsRepetition name := ⟨id, rfl⟩

theorem Diagnostic.IsClash.isError {name : String} {diagnostic : Diagnostic}
    (h : diagnostic.IsClash name) : diagnostic.isError = true := by
  obtain ⟨previous, id, rfl⟩ := h
  rfl

theorem Diagnostic.IsRepetition.not_isError {name : String} {diagnostic : Diagnostic}
    (h : diagnostic.IsRepetition name) : diagnostic.isError = false := by
  obtain ⟨id, rfl⟩ := h
  rfl

/-- Nothing is told both ways. -/
theorem Diagnostic.IsClash.not_isRepetition {name name' : String} {diagnostic : Diagnostic}
    (h : diagnostic.IsClash name) : ¬ diagnostic.IsRepetition name' := fun h' =>
  Bool.noConfusion (h.isError.symm.trans h'.not_isError)

/-! ## Claims -/

theorem claimNote_none {claimed : Table String CommandId} {name : String} (id : CommandId)
    (h : claimed.get? name = none) : claimNote claimed id name = [] := by
  rw [claimNote, h]

theorem claimNote_some {claimed : Table String CommandId} {name : String} {previous : CommandId}
    (id : CommandId) (h : claimed.get? name = some previous) : claimNote claimed id name =
      if previous = id then [repetition name id] else [clash name previous id] := by
  rw [claimNote, h]
  rfl

/-- Claims may be made in two parts. -/
theorem claimAll_append (claimed : Table String CommandId)
    (first second : List (CommandId × String)) : claimAll claimed (first ++ second) =
      ((claimAll (claimAll claimed first).1 second).1,
        (claimAll claimed first).2 ++ (claimAll (claimAll claimed first).1 second).2) := by
  induction first generalizing claimed with
  | nil => rfl
  | cons claim rest ih =>
    obtain ⟨id, name⟩ := claim
    simp only [List.cons_append, claimAll, ih, List.append_assoc]

/-- The claims of one command. -/
def claimsOf (id : CommandId) (names : List String) : List (CommandId × String) :=
  names.map fun name => (id, name)

theorem get?_claimsOf (claimed : Table String CommandId) (id : CommandId) (names : List String)
    (name : String) : (claimAll claimed (claimsOf id names)).1.get? name =
      if name ∈ names then some id else claimed.get? name := by
  induction names generalizing claimed with
  | nil => simp [claimsOf, claimAll]
  | cons first rest ih =>
    have hnext : (claimAll claimed (claimsOf id (first :: rest))).1 =
        (claimAll (claimed.insert first id) (claimsOf id rest)).1 := rfl
    rw [hnext, ih, Table.get?_insert]
    by_cases heq : name = first <;> simp [heq]

section Telling

open scoped Classical

variable (claimed : Table String CommandId) (id : CommandId) (name : String)

/-- What is told of a name when a command claims the name. -/
theorem filter_claimNote_self :
    (claimNote claimed id name).filter (·.IsClash name) =
        ((claimed.get? name).toList.filter (· ≠ id)).map (clash name · id) ∧
      (claimNote claimed id name).filter (·.IsRepetition name) =
        List.replicate (if claimed.get? name = some id then 1 else 0) (repetition name id) := by
  cases hbefore : claimed.get? name with
  | none => simp [claimNote_none id hbefore]
  | some previous =>
    rw [claimNote_some id hbefore]
    by_cases heq : previous = id
    · have hrepetition := isRepetition_repetition name id
      have hclash : ¬ (repetition name id).IsClash name := fun h => h.not_isRepetition hrepetition
      simp [heq, hrepetition, hclash]
    · have hclash := isClash_clash name previous id
      simp [heq, hclash, hclash.not_isRepetition]

/-- Nothing is told of a name when a command claims another one. -/
theorem filter_claimNote_of_ne {other : String} (hne : other ≠ name) :
    (claimNote claimed id other).filter (·.IsClash name) = [] ∧
      (claimNote claimed id other).filter (·.IsRepetition name) = [] := by
  cases hbefore : claimed.get? other with
  | none => simp [claimNote_none id hbefore]
  | some previous =>
    rw [claimNote_some id hbefore]
    by_cases heq : previous = id
    · have hclash : ¬ (repetition other id).IsClash name := fun h =>
        h.not_isRepetition (isRepetition_repetition other id)
      have hrepetition : ¬ (repetition other id).IsRepetition name := fun ⟨_, h⟩ =>
        hne (repetition_inj h)
      simp [heq, hclash, hrepetition]
    · have hclash : ¬ (clash other previous id).IsClash name := fun ⟨_, _, h⟩ =>
        hne (clash_inj h)
      have hrepetition : ¬ (clash other previous id).IsRepetition name :=
        (isClash_clash other previous id).not_isRepetition
      simp [heq, hclash, hrepetition]

/-- What is told of a name when a command makes all of its claims: that it takes the name from
another command, if it does, and each further claim. -/
theorem filter_claimsOf (names : List String) :
    (claimAll claimed (claimsOf id names)).2.filter (·.IsClash name) =
        (if name ∈ names then
          ((claimed.get? name).toList.filter (· ≠ id)).map (clash name · id) else []) ∧
      (claimAll claimed (claimsOf id names)).2.filter (·.IsRepetition name) =
        List.replicate (names.count name - if claimed.get? name = some id then 0 else 1)
          (repetition name id) := by
  induction names generalizing claimed with
  | nil => simp [claimsOf, claimAll]
  | cons first rest ih =>
    have hnext : (claimAll claimed (claimsOf id (first :: rest))).2 =
        claimNote claimed id first ++
          (claimAll (claimed.insert first id) (claimsOf id rest)).2 := rfl
    obtain ⟨hclashes, hrepetitions⟩ := ih (claimed.insert first id)
    rw [hnext, List.filter_append, List.filter_append, hclashes, hrepetitions, Table.get?_insert]
    by_cases heq : first = name
    · subst heq
      obtain ⟨hclash, hrepetition⟩ := filter_claimNote_self claimed id first
      rw [hclash, hrepetition, List.replicate_append_replicate, List.count_cons_self]
      refine ⟨by simp, congrArg (List.replicate · _) ?_⟩
      by_cases hself : claimed.get? first = some id
      · simp [hself, Nat.add_comm]
      · simp [hself]
    · obtain ⟨hclash, hrepetition⟩ := filter_claimNote_of_ne claimed id name heq
      rw [hclash, hrepetition, if_neg (Ne.symm heq), List.count_cons_of_ne heq]
      simp [Ne.symm heq]

end Telling

/-! ## The claims of all commands -/

/-- The names by which a declared command is called, in lowercase. -/
def CommandDecl.calls (declared : CommandDecl) : List String :=
  (declared.name :: declared.aliases).map Text.lower

namespace CommandDecl

/-- The claims that declared commands make one after the other. -/
def claims (commands : List CommandDecl) : List (CommandId × String) :=
  commands.flatMap fun declared => claimsOf declared.id declared.calls

/-- The commands that claim a name. -/
def claimants (commands : List CommandDecl) (name : String) : List CommandId :=
  (commands.filter (·.calls.contains name)).map (·.id)

/-- The last command that claims a name. -/
def lastCalled? (commands : List CommandDecl) (name : String) : Option CommandDecl :=
  commands.reverse.find? (·.calls.contains name)

/-- A name means the last command that claims it. -/
theorem get?_claims (claimed : Table String CommandId) (commands : List CommandDecl)
    (name : String) : (claimAll claimed (claims commands)).1.get? name =
      ((lastCalled? commands name).map (·.id)).or (claimed.get? name) := by
  induction commands generalizing claimed with
  | nil => rfl
  | cons declared rest ih =>
    have hlast : lastCalled? (declared :: rest) name = (lastCalled? rest name).or
        (if name ∈ declared.calls then some declared else none) := by
      simp [lastCalled?, List.find?_append, List.find?_singleton]
    rw [claims, List.flatMap_cons, claimAll_append, ← claims, ih, get?_claimsOf, hlast]
    cases lastCalled? rest name with
    | some last => rfl
    | none =>
      by_cases hcalled : name ∈ declared.calls
      · rw [if_pos hcalled, if_pos hcalled]
        rfl
      · rw [if_neg hcalled, if_neg hcalled]
        rfl

/-- The claims of a name are those that take it from nobody and those that are told of: every
claimant but the first takes the name from the one before, and every further claim of a claimant is
a repetition. -/
theorem sum_count_eq (commands : List CommandDecl) (name : String) :
    (commands.map fun declared => declared.calls.count name - 1).sum +
      (claimants commands name).length =
        (commands.map fun declared => declared.calls.count name).sum := by
  induction commands with
  | nil => rfl
  | cons declared rest ih =>
    simp only [claimants, List.map_cons, List.sum_cons, List.filter_cons, List.length_map] at ih ⊢
    split
    · rename_i hcalled
      have hpositive := List.count_pos_iff.mpr (List.contains_iff_mem.mp hcalled)
      rw [List.length_cons]
      omega
    · rename_i hmissing
      have hzero := List.count_eq_zero.mpr (mt List.contains_iff_mem.mpr hmissing)
      rw [hzero]
      omega

open scoped Classical in
theorem filter_claims {claimed : Table String CommandId} {commands : List CommandDecl}
    {name : String} (hnodup : (commands.map (·.id)).Nodup)
    (hfresh : ∀ declared ∈ commands, claimed.get? name ≠ some declared.id) :
    let owners := (claimed.get? name).toList ++ claimants commands name
    (claimAll claimed (claims commands)).2.filter (·.IsClash name) =
        ((owners.zip owners.tail).map fun pair => clash name pair.1 pair.2) ∧
      (claimAll claimed (claims commands)).2.filter (·.IsRepetition name) =
        commands.flatMap fun declared =>
          List.replicate (declared.calls.count name - 1) (repetition name declared.id) := by
  induction commands generalizing claimed with
  | nil => cases claimed.get? name <;> exact ⟨rfl, rfl⟩
  | cons declared rest ih =>
    obtain ⟨hnew, hrest⟩ := List.nodup_cons.mp hnodup
    obtain ⟨hfirst, hlater⟩ := List.forall_mem_cons.mp hfresh
    obtain ⟨hclash, hrepetition⟩ := filter_claimsOf claimed declared.id name declared.calls
    have hafter := get?_claimsOf claimed declared.id declared.calls name
    generalize hclaimed : (claimAll claimed (claimsOf declared.id declared.calls)).1 = after
      at hafter
    have hfreshAfter : ∀ other ∈ rest, after.get? name ≠ some other.id := by
      intro other hother
      rw [hafter]
      split
      · intro heq
        exact hnew (List.mem_map.mpr ⟨other, hother, (Option.some.inj heq).symm⟩)
      · exact hlater other hother
    obtain ⟨hclashes, hrepetitions⟩ := ih hrest hfreshAfter
    rw [claims, List.flatMap_cons, claimAll_append, ← claims, hclaimed, List.filter_append,
      List.filter_append, hclash, hrepetition, hclashes, hrepetitions, hafter, if_neg hfirst,
      List.flatMap_cons]
    refine ⟨?_, rfl⟩
    by_cases hcalled : name ∈ declared.calls
    · have hclaimants : claimants (declared :: rest) name = declared.id :: claimants rest name := by
        simp [claimants, hcalled]
      rw [if_pos hcalled, if_pos hcalled, hclaimants]
      cases hbefore : claimed.get? name with
      | none => rfl
      | some previous =>
        have hother : previous ≠ declared.id := fun heq => hfirst (hbefore.trans (congrArg _ heq))
        simp [hother]
    · have hclaimants : claimants (declared :: rest) name = claimants rest name := by
        simp [claimants, hcalled]
      rw [if_neg hcalled, if_neg hcalled, hclaimants]
      rfl

end CommandDecl

/-! ## The index -/

/-- The declarations of commands that count. -/
def Document.survivingCommands (document : Document) : List CommandDecl :=
  Registry.survivors CommandDecl.id document.commands

namespace Directory

theorem nameClaims_collect (document : Document) :
    nameClaims (Registry.collect "command" (·.id) document.commands).1 =
      CommandDecl.claims document.survivingCommands := by
  unfold nameClaims
  rw [Registry.entries_collect, List.flatMap_map]
  refine List.flatMap_congr fun declared _ => ?_
  exact (List.map_map ..).symm

/-- What is noted of declarations with the same number is nothing about names. -/
theorem filter_collect {kind : Kind} {α : Type} (noun : String) (idOf : α → Id kind)
    (declarations : List α) {p : Diagnostic → Prop} [DecidablePred p]
    (h : ∀ id : Id kind, ¬ p (Registry.duplicate noun id)) :
    (Registry.collect noun idOf declarations).2.filter p = [] := by
  refine List.filter_eq_nil_iff.mpr fun diagnostic hmem => ?_
  obtain ⟨id, rfl⟩ := Registry.mem_declareAll hmem
  simpa using h id

theorem not_isClash_duplicate {kind : Kind} (noun name : String) (id : Id kind) :
    ¬ (Registry.duplicate noun id).IsClash name := by
  rintro ⟨previous, other, h⟩
  have hmessage := congrArg (fun diagnostic => diagnostic.message.toList.head?) h
  simp [Registry.duplicate, clash, Diagnostic.error, toString] at hmessage

theorem not_isRepetition_duplicate {kind : Kind} (noun name : String) (id : Id kind) :
    ¬ (Registry.duplicate noun id).IsRepetition name := fun h => Bool.noConfusion h.not_isError

/-- In the index a name means the last command that claims it. -/
theorem get?_commandNames (document : Document) (name : String) :
    (ofDocument document).1.commandNames.get? name =
      (CommandDecl.lastCalled? document.survivingCommands name).map (·.id) := by
  have hnames : (ofDocument document).1.commandNames =
      (claimAll ∅ (CommandDecl.claims document.survivingCommands)).1 := by
    rw [← nameClaims_collect]
    rfl
  rw [hnames, CommandDecl.get?_claims]
  exact Option.or_none

open scoped Classical in
/-- What is noted of a name while a description is indexed. -/
theorem filter_ofDocument (document : Document) (name : String) :
    let owners := CommandDecl.claimants document.survivingCommands name
    (ofDocument document).2.filter (·.IsClash name) =
        ((owners.zip owners.tail).map fun pair => clash name pair.1 pair.2) ∧
      (ofDocument document).2.filter (·.IsRepetition name) =
        document.survivingCommands.flatMap fun declared =>
          List.replicate (declared.calls.count name - 1) (repetition name declared.id) := by
  have hfresh : ∀ declared ∈ document.survivingCommands,
      (∅ : Table String CommandId).get? name ≠ some declared.id := fun _ _ h => nomatch h
  obtain ⟨hclashes, hrepetitions⟩ :=
    CommandDecl.filter_claims (Registry.nodup_survivors document.commands) hfresh
  simp only [ofDocument, List.filter_append,
    filter_collect _ _ _ (not_isClash_duplicate _ name),
    filter_collect _ _ _ (not_isRepetition_duplicate _ name), List.nil_append]
  rw [nameClaims_collect]
  exact ⟨hclashes, hrepetitions⟩

end Directory

/-! ## The world -/

namespace World

/-- In a world a command claims its names as in the index, in lowercase. -/
theorem claimNames_eq (id : CommandId) (claimed : Table String CommandId) (names : List String) :
    (claimNames id claimed names).1 =
      (claimAll claimed (claimsOf id (names.map Text.lower))).1 := by
  induction names generalizing claimed with
  | nil => rfl
  | cons first rest ih =>
    rw [claimNames_cons, ih]
    rfl

theorem commandNames_addCommands (world : World) (commands : List Command) :
    (commands.foldl (fun world command => (world.addCommand command).1) world).commandNames =
      (claimAll world.commandNames (commands.flatMap fun command =>
        claimsOf command.id (command.names.map Text.lower))).1 := by
  induction commands generalizing world with
  | nil => rfl
  | cons command rest ih =>
    rw [List.foldl_cons, ih, List.flatMap_cons, claimAll_append, ← claimNames_eq]
    rfl

end World

namespace Directory

variable {directory : Directory}

/-- A built command has its number and the names by which it is declared to be called. -/
structure Named (entry : CommandId × CommandDecl) (command : Command) : Prop where
  /-- It has its number. -/
  id_eq : command.id = entry.1
  /-- It has its names, in lowercase. -/
  names_eq : command.names = entry.2.calls

theorem yields_named_addTeleport {entry : CommandId × CommandDecl} {command : Command}
    (h : Named entry command) (way : TeleportDecl) :
    Yields (directory.addTeleport command way) (Named entry) := by
  unfold addTeleport
  refine .after fun origin? => .after fun destination? => ?_
  split
  · exact .pure ⟨h.id_eq, h.names_eq⟩
  · exact .pure h

theorem yields_named (entry : CommandId × CommandDecl) :
    Yields (directory.buildCommand entry.1 entry.2) (Named entry) := by
  have hways (command : Command) (hcommand : Named entry command) :
      Yields (entry.2.teleport.foldlM directory.addTeleport command) (Named entry) :=
    .foldlM hcommand fun command way _ hbuilt => yields_named_addTeleport hbuilt way
  unfold buildCommand
  refine .after fun attributes => ?_
  simp only []
  split
  · exact .after fun switch => hways _ ⟨rfl, rfl⟩
  · exact .after fun flag => .after fun switch => hways _ ⟨rfl, rfl⟩

/-- All commands that are built claim the names that are declared, which are in lowercase
already. -/
theorem claims_of_named {commands : List Command} {declarations : List CommandDecl}
    (h : List.Forall₂ Named (declarations.map fun declared => (declared.id, declared)) commands) :
    (commands.flatMap fun command => claimsOf command.id (command.names.map Text.lower)) =
      CommandDecl.claims declarations := by
  induction declarations generalizing commands with
  | nil =>
    cases h
    rfl
  | cons declared rest ih =>
    cases h with
    | @cons _ command _ commands hnamed hrest =>
      have hlower : declared.calls.map Text.lower = declared.calls := by
        unfold CommandDecl.calls
        rw [List.map_map]
        exact List.map_congr_left fun name _ => Text.lower_lower name
      have hnames : command.names.map Text.lower = declared.calls :=
        (congrArg (List.map Text.lower) hnamed.names_eq).trans hlower
      rw [List.flatMap_cons, hnamed.id_eq, hnames, ih hrest]
      rfl

variable {document : Document} {all : List Diagnostic} {parts : Parts}

theorem Makes.named (h : (ofDocument document).1.Makes document all parts) :
    List.Forall₂ Named (document.survivingCommands.map fun declared => (declared.id, declared))
      parts.commands := by
  have hcommands := h.commands.yields <| Yields.mapM fun entry _ => yields_named entry
  have hentries : (ofDocument document).1.commands.entries =
      document.survivingCommands.map fun declared => (declared.id, declared) :=
    Registry.entries_collect "command" CommandDecl.id document.commands
  rwa [hentries] at hcommands

/-- Events do not change which command a name means. -/
theorem commandNames_world (parts : Parts) (texts : Texts) :
    (parts.world texts).commandNames = parts.ordered.commandNames :=
  World.view_foldl World.commandNames (fun _ _ => by rfl) _ _

/-- Before the commands are added, no name means one. -/
theorem Makes.commandNames_settled (h : directory.Makes document all parts) :
    parts.settled.commandNames = ∅ := by
  rw [h.settles.commandNames, Parts.furnished,
    World.view_furnish World.commandNames (fun _ _ => rfl) (fun _ _ => rfl) fun _ _ => rfl]
  rfl

/-- The world and the index agree on which command a name means. -/
theorem Makes.commandNames (h : (ofDocument document).1.Makes document all parts) :
    (parts.world document.texts).commandNames = (ofDocument document).1.commandNames := by
  calc
    (parts.world document.texts).commandNames = parts.ordered.commandNames :=
      commandNames_world parts document.texts
    _ = (claimAll ∅ (CommandDecl.claims document.survivingCommands)).1 := by
        rw [Parts.ordered, World.commandNames_addCommands, claims_of_named h.named,
          h.commandNames_settled]
    _ = (ofDocument document).1.commandNames := by
        rw [← nameClaims_collect]
        rfl

/-- A declaration of a command that counts has its command in the world. -/
theorem Makes.exists_command? (h : (ofDocument document).1.Makes document all parts)
    {declared : CommandDecl} (hmem : declared ∈ document.survivingCommands) :
    ∃ command, (parts.world document.texts).command? declared.id = some command ∧
      Named (declared.id, declared) command := by
  have hcommands := h.commands.yields <| Yields.mapM fun entry _ => yields_named entry
  have hentry : (declared.id, declared) ∈ (ofDocument document).1.commands.entries := by
    change _ ∈ (Registry.collect "command" CommandDecl.id document.commands).1.entries
    rw [Registry.entries_collect]
    exact List.mem_map_of_mem hmem
  obtain ⟨command, hfound, hnamed⟩ := (ofDocument document).1.exists_command
    (fun _ _ h => h.id_eq) hcommands parts.settled hentry
  obtain ⟨-, -, hkept⟩ := parts.ordered.kept_addEvents parts.events
  exact ⟨command, (congrArg (Table.get? · declared.id) hkept).trans hfound, hnamed⟩

end Directory

namespace Document

variable {document : Document} {loaded : Loaded}

open scoped Classical in
/-- **What names of commands mean.** A word means the last of the commands that count to declare it,
in any case, as its name or as another one, and it means none if none does; the world and the index
agree on that. While the description is indexed it is told of each name once for every claimant but
the first that it takes the name from the claimant before, and once for each further claim of a
claimant that the claim repeats one. -/
theorem names_of_load (hload : document.load = .ok loaded) :
    let directory := (Directory.ofDocument document).1
    let noted := (Directory.ofDocument document).2
    let commands := document.survivingCommands
    (∀ word, (loaded.world.commandNamed? word).map
        (fun command => (command.id, command.names)) =
      (CommandDecl.lastCalled? commands (Text.lower word)).map
        fun declared => (declared.id, declared.calls)) ∧
    loaded.world.commandNames = directory.commandNames ∧
    (∀ word, (loaded.world.commandNamed? word).map (·.id) =
      directory.commandNames.get? (Text.lower word)) ∧
    noted ⊆ loaded.diagnostics ∧
    ∀ name,
      let owners := CommandDecl.claimants commands name
      let claims := (commands.map fun declared => declared.calls.count name).sum
      owners.Nodup ∧
      noted.filter (·.IsClash name) =
        ((owners.zip owners.tail).map fun pair => clash name pair.1 pair.2) ∧
      (noted.filter (·.IsClash name)).length = owners.length - 1 ∧
      (noted.filter (·.IsRepetition name)).length = claims - owners.length := by
  intro directory noted commands
  obtain ⟨hnoted, parts, hmakes, hworld⟩ := makes_load hload
  have hnames : loaded.world.commandNames = directory.commandNames := by
    rw [hworld]
    exact hmakes.commandNames
  have hmeans (word : String) : (loaded.world.commandNamed? word).map
      (fun command => (command.id, command.names)) =
        (CommandDecl.lastCalled? commands (Text.lower word)).map
          fun declared => (declared.id, declared.calls) := by
    rw [World.commandNamed?, hnames, Directory.get?_commandNames]
    cases hlast : CommandDecl.lastCalled? commands (Text.lower word) with
    | none => rfl
    | some declared =>
      have hmem : declared ∈ commands := List.mem_reverse.mp (List.mem_of_find?_eq_some hlast)
      obtain ⟨command, hfound, hnamed⟩ := hmakes.exists_command? hmem
      change (loaded.world.command? declared.id).map _ = _
      rw [hworld, hfound]
      exact congrArg some (Prod.ext hnamed.id_eq hnamed.names_eq)
  refine ⟨hmeans, hnames, fun word => ?_, hnoted, fun name => ?_⟩
  · have hids := congrArg (Option.map Prod.fst) (hmeans word)
    rw [Option.map_map, Option.map_map] at hids
    exact hids.trans (Directory.get?_commandNames document _).symm
  · intro owners claims
    obtain ⟨hclashes, hrepetitions⟩ := Directory.filter_ofDocument document name
    have hsum : _ + owners.length = claims := CommandDecl.sum_count_eq commands name
    have howners : owners.Nodup := (Registry.nodup_survivors document.commands).sublist
      (List.filter_sublist.map CommandDecl.id)
    refine ⟨howners, hclashes, ?_, ?_⟩
    · have hlength : (owners.zip owners.tail).length = owners.length - 1 := by
        rw [List.length_zip, List.length_tail]
        omega
      rw [hclashes, List.length_map]
      exact hlength
    · rw [hrepetitions, List.length_flatMap, ← hsum, Nat.add_sub_cancel]
      simp only [List.length_replicate]
      rfl

/-- A description of commands of which the first is declared again and three are called the same. -/
def parade : Document :=
  let command (num : Nat) (name : String) (aliases : List String) : CommandDecl :=
    ⟨⟨num⟩, "", name, aliases, none, [], none, []⟩
  { name := "parade"
    commands := [command 1 "march" ["walk"], command 2 "walk" [],
      command 1 "stride" ["Walk", "WALK"], command 3 "run" ["wALk"]]
    items := []
    locations := [⟨⟨1⟩, "3", ⟨"square", none, none, []⟩, ∅⟩]
    events := []
    inventories := [⟨⟨1⟩, 8, true, []⟩]
    players := [⟨⟨1⟩, ""⟩]
    inputs := ∅
    hints := ∅
    explanations := ∅
    responses := ∅ }

/-- What is loaded from it. -/
def loadedParade : Loaded := parade.load.toOption.get (by decide +kernel)

open scoped Classical in
/-- To walk means the third command, and to march means none, since the first one is declared
without that name in the end. Two commands take the name from another one and the first repeats
it. -/
theorem names_of_load_parade :
    parade.load = .ok loadedParade ∧
      (loadedParade.world.commandNamed? "WAlk").map (·.id) = some ⟨3⟩ ∧
      (loadedParade.world.commandNamed? "march").map (·.id) = none ∧
      (Directory.ofDocument parade).2.filter (·.IsClash "walk") =
        [clash "walk" ⟨1⟩ ⟨2⟩, clash "walk" ⟨2⟩ ⟨3⟩] ∧
      ((Directory.ofDocument parade).2.filter (·.IsRepetition "walk")).length = 1 := by
  have hload : parade.load = .ok loadedParade := load_get _
  obtain ⟨-, -, hmeans, -, hnoted⟩ := names_of_load hload
  obtain ⟨-, hclashes, -, hrepetitions⟩ := hnoted "walk"
  exact ⟨hload, (hmeans "WAlk").trans (by decide +kernel),
    (hmeans "march").trans (by decide +kernel),
    hclashes.trans (by decide +kernel), hrepetitions.trans (by decide +kernel)⟩

end Document

end Adventure
