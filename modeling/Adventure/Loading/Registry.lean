import Adventure.Diagnostic
import Adventure.Document
import Adventure.Text.Case

/-!
# Registries

The declarations of each kind are first indexed by their numbers. Where a number is declared again,
the later declaration counts but stands where the earlier one stood. Names of commands are claimed
in that order, and a later claim wins.
-/

namespace Adventure

/-- The declarations of one kind by their numbers, beside the order in which the numbers were first
declared. -/
structure Registry (kind : Kind) (α : Type) where
  /-- The declared numbers, in the order in which they were first declared. -/
  order : List (Id kind) := []
  /-- The declarations by their numbers. -/
  records : Table (Id kind) α := ∅
  /-- No number stands in the order twice. -/
  order_nodup : order.Nodup := by exact .nil
  /-- The order and the table are of the same numbers. -/
  mem_order : ∀ id, id ∈ order ↔ records.contains id = true := by
    exact fun _ => iff_of_false List.not_mem_nil Bool.noConfusion

namespace Registry

variable {kind : Kind} {α : Type}

/-- The declaration of a number. -/
def get? (registry : Registry kind α) (id : Id kind) : Option α := registry.records.get? id

/-- Whether a number is declared. -/
def contains (registry : Registry kind α) (id : Id kind) : Bool := registry.records.contains id

/-- Each number with its declaration, in the order in which the numbers were first declared. -/
def entries (registry : Registry kind α) : List (Id kind × α) :=
  registry.order.filterMap fun id => (registry.get? id).map fun declaration => (id, declaration)

/-- Enter a declaration, in place of an earlier one with the same number. Only a new number is put
at the end of the order. -/
def declare (registry : Registry kind α) (id : Id kind) (declaration : α) : Registry kind α where
  order := if registry.contains id then registry.order else registry.order ++ [id]
  records := registry.records.insert id declaration
  order_nodup := by
    split
    · exact registry.order_nodup
    · rename_i hnew
      refine List.nodup_append.mpr ⟨registry.order_nodup, List.pairwise_singleton _ id, ?_⟩
      rintro other hother last hlast rfl
      rw [List.mem_singleton.mp hlast] at hother
      exact hnew ((registry.mem_order id).mp hother)
  mem_order other := by
    rw [Table.contains_insert, ← registry.mem_order]
    split
    · rename_i hknown
      have hmem : id ∈ registry.order := (registry.mem_order id).mpr hknown
      exact ⟨.inr, fun h => h.elim (fun heq => heq ▸ hmem) fun h => h⟩
    · rw [List.mem_append, List.mem_singleton, or_comm]

/-- What is said of a number that is declared again. -/
def duplicate (noun : String) (id : Id kind) : Diagnostic :=
  .error s!"duplicate {noun} id {id}; the later declaration wins"

/-- Enter declarations after those of a registry, and note the numbers declared again. -/
def declareAll (noun : String) (idOf : α → Id kind) (registry : Registry kind α) :
    List α → Registry kind α × List Diagnostic
  | [] => (registry, [])
  | declaration :: rest =>
    let id := idOf declaration
    let (result, noted) := declareAll noun idOf (registry.declare id declaration) rest
    (result, if registry.contains id then duplicate noun id :: noted else noted)

/-- Index declarations by their numbers, and note the numbers declared again. -/
def collect (noun : String) (idOf : α → Id kind) (declarations : List α) :
    Registry kind α × List Diagnostic :=
  declareAll noun idOf {} declarations

end Registry

/-- What is noted when the command `id` claims a name, if the name was claimed before. -/
def claimNote (claimed : Table String CommandId) (id : CommandId) (name : String) :
    List Diagnostic :=
  match claimed.get? name with
  | none => []
  | some previous =>
    if previous = id then [.warning s!"command {id} declares \"{name}\" more than once"]
    else
      [.error s!"\"{name}\" is claimed by command {previous} and command {id}; command {id} wins"]

/-- Let commands claim lowercase names one after the other, and note repeated claims. -/
def claimAll (claimed : Table String CommandId) :
    List (CommandId × String) → Table String CommandId × List Diagnostic
  | [] => (claimed, [])
  | (id, name) :: rest =>
    let (result, noted) := claimAll (claimed.insert name id) rest
    (result, claimNote claimed id name ++ noted)

/-- All declarations by their numbers. -/
structure Directory where
  /-- The locations. -/
  locations : Registry .location LocationDecl
  /-- The items. -/
  items : Registry .item ItemDecl
  /-- The commands. -/
  commands : Registry .command CommandDecl
  /-- The events. -/
  events : Registry .event EventDecl
  /-- The inventories. -/
  inventories : Registry .inventory InventoryDecl
  /-- Which command each lowercase name means. -/
  commandNames : Table String CommandId

namespace Directory

/-- The lowercase names that declared commands claim, in order. -/
def nameClaims (commands : Registry .command CommandDecl) : List (CommandId × String) :=
  commands.entries.flatMap fun (id, declaration) =>
    (declaration.name :: declaration.aliases).map fun name => (id, Text.lower name)

/-- Index a world description, and note repeated numbers and names. -/
def ofDocument (document : Document) : Directory × List Diagnostic :=
  let (locations, locationNotes) := Registry.collect "location" (·.id) document.locations
  let (items, itemNotes) := Registry.collect "item" (·.id) document.items
  let (commands, commandNotes) := Registry.collect "command" (·.id) document.commands
  let (events, eventNotes) := Registry.collect "event" (·.id) document.events
  let (inventories, inventoryNotes) :=
    Registry.collect "inventory" (·.id) document.inventories
  let (commandNames, nameNotes) := claimAll ∅ (nameClaims commands)
  ({ locations, items, commands, events, inventories, commandNames },
    locationNotes ++ itemNotes ++ commandNotes ++ eventNotes ++ inventoryNotes ++ nameNotes)

/-- The key that a declared item gets: items come about in the order of the directory. -/
def itemKey? (directory : Directory) (id : DataId) : Option ItemKey :=
  (directory.items.entries.findIdx? (·.1 == id)).map ItemKey.mk

end Directory

end Adventure
