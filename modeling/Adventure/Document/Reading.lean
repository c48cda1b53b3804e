import Adventure.Document

/-!
# Reading world descriptions

The fields of each declaration, in the order in which they may be written without their names.
-/

namespace Adventure

open Json

/-- Read the number of something. -/
def Id.decode {kind : Kind} : Decoder (Id kind) := fun value => (nat32 value).map Id.mk

/-- Read names and descriptions. -/
def LabelsDecl.decode : Decoder LabelsDecl :=
  record ["shortname", "longname", "description", "extended_descriptions"] fun f => do
    return {
      shortname := ← f.required "shortname" string
      longname := ← f.orNull "longname" string
      description := ← f.orNull "description" string
      extendedDescriptions := ← f.orElse "extended_descriptions" [] (list string) }

/-- Read a location. -/
def LocationDecl.decode : Decoder LocationDecl :=
  record ["data_id", "attributes", "labels", "directions"] fun f => do
    return {
      id := ← f.required "data_id" Id.decode
      attributes := ← f.orElse "attributes" "" string
      labels := ← f.required "labels" LabelsDecl.decode
      directions := ← f.orElse "directions" ∅ (table Id.decode) }

/-- Read a holder. -/
def HolderDecl.decode : Decoder HolderDecl :=
  choice [
    ("location", fun v => (Id.decode v).map .location),
    ("item", fun v => (Id.decode v).map .item),
    ("inventory", fun v => (Id.decode v).map .inventory)]

/-- Read what a switch acts on. -/
def SwitchTargetDecl.decode : Decoder SwitchTargetDecl :=
  choice [
    ("item", fun v => (Id.decode v).map .item),
    ("location", fun v => (Id.decode v).map .location)]

/-- Read a switch of an item. -/
def SwitchDecl.decode : Decoder SwitchDecl :=
  record ["target", "attribute", "on", "off"] fun f => do
    return {
      target := ← f.required "target" SwitchTargetDecl.decode
      flag := ← f.required "attribute" string
      on := ← f.orNull "on" string
      off := ← f.orNull "off" string }

/-- Read an item. -/
def ItemDecl.decode : Decoder ItemDecl :=
  record ["data_id", "attributes", "labels", "size", "writing", "placement", "switch",
      "activated"] fun f => do
    return {
      id := ← f.required "data_id" Id.decode
      attributes := ← f.orElse "attributes" "" string
      labels := ← f.required "labels" LabelsDecl.decode
      size := ← f.orElse "size" 0 nat32
      writing := ← f.orNull "writing" string
      placement := ← f.orNull "placement" HolderDecl.decode
      switch := ← f.orNull "switch" SwitchDecl.decode
      activated := ← f.orNull "activated" string }

/-- Read where the item of a slot has to be. -/
def Source.decode : Decoder Source :=
  oneOf [("inventory", .inventory), ("location", .location), ("either", .either)]

/-- Read a slot of a command. -/
def SlotDecl.decode : Decoder SlotDecl :=
  record ["mandatory", "item", "source", "linkers"] fun f => do
    return {
      mandatory := ← f.orElse "mandatory" true bool
      isItem := ← f.orElse "item" true bool
      source := ← f.orElse "source" .either Source.decode
      linkers := ← f.orElse "linkers" [] (list string) }

/-- Read a switch of a command. -/
def CommandSwitchDecl.decode : Decoder CommandSwitchDecl :=
  record ["on", "off", "attribute"] fun f => do
    return {
      on := ← f.orNull "on" string
      off := ← f.orNull "off" string
      flag := ← f.required "attribute" string }

/-- Read an entry of a teleport table. -/
def TeleportDecl.decode : Decoder TeleportDecl :=
  record ["from", "to"] fun f => do
    return {
      origin := ← f.required "from" Id.decode
      destination := ← f.required "to" Id.decode }

/-- Read a command. -/
def CommandDecl.decode : Decoder CommandDecl :=
  record ["data_id", "attributes", "name", "aliases", "handler", "arguments", "switch",
      "teleport"] fun f => do
    return {
      id := ← f.required "data_id" Id.decode
      attributes := ← f.orElse "attributes" "" string
      name := ← f.required "name" string
      aliases := ← f.orElse "aliases" [] (list string)
      handler := ← f.orNull "handler" string
      slots := ← f.orElse "arguments" [] (list SlotDecl.decode)
      switch := ← f.orNull "switch" CommandSwitchDecl.decode
      teleport := ← f.orElse "teleport" [] (list TeleportDecl.decode) }

/-- Read what an event asks of an argument. -/
def MatchDecl.decode : Decoder MatchDecl :=
  choice [
    ("text", fun v => (string v).map .text),
    ("item", fun v => (Id.decode v).map .item)]

/-- Read a prerequisite. -/
def PrerequisiteDecl.decode : Decoder PrerequisiteDecl :=
  tagged "kind" [
    ("item_in", record ["item", "container"] fun f => do
      return .itemIn (← f.required "item" Id.decode)
        (← f.required "container" HolderDecl.decode)),
    ("item_held", record ["item"] fun f => do
      return .itemHeld (← f.required "item" Id.decode)),
    ("player_at", record ["location"] fun f => do
      return .playerAt (← f.required "location" Id.decode)),
    ("event_fired", record ["event"] fun f => do
      return .eventFired (← f.required "event" Id.decode)),
    ("event_not_fired", record ["event"] fun f => do
      return .eventNotFired (← f.required "event" Id.decode))]

/-- Read an action. -/
def ActionDecl.decode : Decoder ActionDecl :=
  tagged "kind" [
    ("destroy_item", record ["item"] fun f => do
      return .destroyItem (← f.required "item" Id.decode)),
    ("move_item", record ["item", "to"] fun f => do
      return .moveItem (← f.required "item" Id.decode) (← f.required "to" HolderDecl.decode)),
    ("give_item", record ["item"] fun f => do
      return .giveItem (← f.required "item" Id.decode)),
    ("replace_item", record ["old", "new"] fun f => do
      return .replaceItem (← f.required "old" Id.decode) (← f.required "new" Id.decode)),
    ("set_player_attribute", record ["attribute", "on"] fun f => do
      return .setPlayerAttribute (← f.required "attribute" string) (← f.orElse "on" true bool)),
    ("set_location_attribute", record ["location", "attribute", "on"] fun f => do
      return .setLocationAttribute (← f.required "location" Id.decode)
        (← f.required "attribute" string) (← f.orElse "on" true bool)),
    ("set_item_attribute", record ["item", "attribute", "on"] fun f => do
      return .setItemAttribute (← f.required "item" Id.decode)
        (← f.required "attribute" string) (← f.orElse "on" true bool)),
    ("link_direction", record ["location", "direction", "destination"] fun f => do
      return .linkDirection (← f.required "location" Id.decode)
        (← f.required "direction" string) (← f.orNull "destination" Id.decode)),
    ("describe_location", record ["location", "extension"] fun f => do
      return .describeLocation (← f.required "location" Id.decode)
        (← f.orNull "extension" nat64)),
    ("move_player", record ["location"] fun f => do
      return .movePlayer (← f.required "location" Id.decode))]

/-- Read an event. -/
def EventDecl.decode : Decoder EventDecl :=
  record ["data_id", "attributes", "command", "matches", "prerequisites", "text", "score",
      "actions"] fun f => do
    return {
      id := ← f.required "data_id" Id.decode
      attributes := ← f.orElse "attributes" "" string
      command := ← f.required "command" Id.decode
      pattern := ← f.orElse "matches" [] (list MatchDecl.decode)
      prerequisites := ← f.orElse "prerequisites" [] (list PrerequisiteDecl.decode)
      text := ← f.orElse "text" "" string
      score := ← f.orElse "score" 0 nat32
      actions := ← f.orElse "actions" [] (list ActionDecl.decode) }

/-- Read an inventory. -/
def InventoryDecl.decode : Decoder InventoryDecl :=
  record ["data_id", "capacity", "default", "location_ids"] fun f => do
    return {
      id := ← f.required "data_id" Id.decode
      capacity := ← f.required "capacity" nat32
      isDefault := ← f.orElse "default" false bool
      locations := ← f.orElse "location_ids" [] (list Id.decode) }

/-- Read a player. -/
def PlayerDecl.decode : Decoder PlayerDecl :=
  record ["location", "attributes"] fun f => do
    return {
      location := ← f.required "location" Id.decode
      attributes := ← f.orElse "attributes" "" string }

namespace Document

/-- The fields of a world description. No others may be written. -/
def fieldNames : List String :=
  ["name", "commands", "items", "locations", "events", "inventories", "players", "inputs", "hints",
    "explanations", "responses"]

/-- Read a world description. -/
def decode : Decoder Document := fun value => do
  let f ← fields fieldNames true value
  return {
    name := ← f.orElse "name" "Untitled" string
    commands := ← f.orElse "commands" [] (list CommandDecl.decode)
    items := ← f.orElse "items" [] (list ItemDecl.decode)
    locations := ← f.orElse "locations" [] (list LocationDecl.decode)
    events := ← f.orElse "events" [] (list EventDecl.decode)
    inventories := ← f.orElse "inventories" [] (list InventoryDecl.decode)
    players := ← f.orElse "players" [] (list PlayerDecl.decode)
    inputs := ← f.orElse "inputs" ∅ (table (list string))
    hints := ← f.orElse "hints" ∅ (table string)
    explanations := ← f.orElse "explanations" ∅ (table string)
    responses := ← f.orElse "responses" ∅ (table string) }

/-- Read the text of a world description. -/
def parse? (source : String) : Option Document := (Json.parse? source).bind decode

end Document

end Adventure
