import Adventure.Turn.Handler.Things

/-!
# Telling

Commands that tell something: the surroundings, an item, the score, hints and the like. Quitting
belongs here too, since all it does is to tell the score and stop.
-/

namespace Adventure.Stage

/-- Tell the surroundings in full. -/
def look : Stage := fun turn _ args =>
  let (world, text) := turn.world.lookAround true
  (turn.withWorld world, .tell text args)

/-- Describe an item and tell what it holds. Without an item, tell the surroundings. -/
def describe : Stage := fun turn command args =>
  match itemAt args 0 with
  | none => look turn command args
  | some key =>
    match turn.world.item? key with
    | none => nothingHappens turn
    | some item =>
      let description := item.labels.fullDescription
      let text := if description.isEmpty then item.labels.longname else description
      match item.contents with
      | none => (turn, .tell text args)
      | some inner =>
        let contents := turn.world.texts.responses.format "describe_contents"
          [item.labels.shortname, turn.world.listName inner]
        (turn, .tell (text ++ "\n" ++ contents) args)

/-- Tell what is written on an item. -/
def read : Stage := fun turn _ args =>
  match itemAt args 0 with
  | none => nothingHappens turn
  | some key =>
    match (turn.world.item? key).bind (·.writing) with
    | some writing => (turn, turn.say "describe_writing" [writing] args)
    | none => (turn, turn.refuse "reject_no_writing" [turn.world.itemName key])

/-- List what the player carries. -/
def inventory : Stage := fun turn _ args =>
  match turn.world.carried with
  | [] => (turn, turn.say "inventory_empty" [] args)
  | carried =>
    let lines := carried.map fun key => "  " ++ turn.world.listName key
    (turn, turn.say "inventory_list" ["\n".intercalate lines] args)

/-- The score and the number of moves. -/
def standing (turn : Turn) : List String :=
  [toString turn.world.player.score, toString turn.world.player.moves]

/-- Tell the score. -/
def score : Stage := fun turn _ args => (turn, turn.say "describe_score" (standing turn) args)

/-- Tell how to play. -/
def help : Stage := fun turn _ args => (turn, turn.say "describe_help" [] args)

/-- Tell the text on a topic, which is the first text among the arguments or else the words left.
Without a topic the known ones are listed. -/
def topic (table : Table String String) (missing : String) : Stage := fun turn _ args =>
  let words := if turn.tokens.isEmpty then none else some (" ".intercalate turn.tokens)
  match args.findSome? (·.text?) <|> words with
  | none => (turn, turn.say "describe_topics" [", ".intercalate table.keys] args)
  | some typed =>
    let name := Text.lower typed
    match table.get? name with
    | some text => (turn, .say text [name] args)
    | none => (turn, turn.refuse missing [name])

/-- Give a hint on a topic. -/
def hint : Stage := fun turn => topic turn.world.texts.hints "reject_no_hint" turn

/-- Explain a topic. -/
def explain : Stage := fun turn => topic turn.world.texts.explanations "reject_no_explanation" turn

/-- The names of the commands that are not secret, each once and sorted. -/
def verbs (world : World) : List String :=
  let shown := world.commands.values.filter (!·.isSecret)
  (Table.ofList (shown.map fun command => (command.name, ()))).keys

/-- List the verbs. -/
def commands : Stage := fun turn _ args =>
  (turn, turn.say "describe_commands" [", ".intercalate (verbs turn.world)] args)

/-- End the game. -/
def quit : Stage := fun turn _ args =>
  (turn.modifyPlayer fun player => { player with playing := false, pending := .idle },
    turn.say "confirm_quit" (standing turn) args)

end Adventure.Stage
