import Adventure.Table
import Adventure.Text.Template

/-!
# Responses

Everything the game says in its own voice is a template found under a key. A world description may
supply templates; a key it leaves out has a built-in one, and a key that nobody knows says itself.
-/

namespace Adventure.Text

/-- The built-in templates by their keys. -/
def builtinResponses : List (String × String) :=
  [("start", "Welcome, adventurer."),
   ("unknown_command", "I don't understand \"\x7b0\x7d\"."),
   ("unknown_command_suggest", "I don't understand \"\x7b0\x7d\". Did you mean \"\x7b1\x7d\"?"),
   ("request_argument", "What do you want to \x7b0\x7d?"),
   ("nothing_happens", "Nothing happens."),
   ("game_over", "The game is over."),
   ("reject_unknown_item", "I don't know what \"\x7b0\x7d\" is."),
   ("reject_not_holding", "You are not holding the \x7b0\x7d."),
   ("reject_carrying", "You are already carrying the \x7b0\x7d."),
   ("reject_not_here", "There is no \x7b0\x7d here."),
   ("reject_no_direction", "You can't go that way."),
   ("reject_obstruction", "The \x7b0\x7d blocks your way."),
   ("reject_teleport", "Nothing happens."),
   ("reject_too_dark", "It is too dark to see."),
   ("reject_switch_vocabulary", "You can switch the \x7b0\x7d \"\x7b1\x7d\" or \"\x7b2\x7d\"."),
   ("reject_not_switchable", "The \x7b0\x7d cannot be switched."),
   ("reject_already_switched", "The \x7b0\x7d is already \x7b1\x7d."),
   ("confirm_switched", "The \x7b0\x7d is now \x7b1\x7d."),
   ("confirm_player_switched", "\x7b0\x7d is now \x7b1\x7d."),
   ("reject_owned", "The \x7b1\x7d will not let you take the \x7b0\x7d."),
   ("reject_not_portable", "You cannot take the \x7b0\x7d."),
   ("reject_liquid", "The \x7b0\x7d runs through your fingers."),
   ("reject_too_heavy", "The \x7b0\x7d is too heavy to carry with everything else."),
   ("confirm_taken", "Taken."),
   ("confirm_dropped", "Dropped."),
   ("confirm_poured", "The \x7b0\x7d pours away."),
   ("reject_not_container", "The \x7b0\x7d cannot hold anything."),
   ("reject_container_full", "The \x7b0\x7d already holds the \x7b1\x7d."),
   ("reject_wrong_contents", "The \x7b0\x7d cannot hold the \x7b1\x7d."),
   ("reject_too_big", "The \x7b0\x7d does not fit in the \x7b1\x7d."),
   ("reject_insert_self", "You cannot put the \x7b0\x7d inside itself."),
   ("confirm_inserted", "You put the \x7b0\x7d into the \x7b1\x7d."),
   ("reject_not_wearable", "You cannot wear the \x7b0\x7d."),
   ("reject_already_worn", "You are already wearing the \x7b0\x7d."),
   ("confirm_worn", "You are now wearing the \x7b0\x7d."),
   ("reject_not_worn", "You are not wearing the \x7b0\x7d."),
   ("confirm_removed", "You take off the \x7b0\x7d."),
   ("reject_not_consumable", "You cannot consume the \x7b0\x7d."),
   ("confirm_consumed", "You consume the \x7b0\x7d."),
   ("reject_not_liquid", "You cannot pour the \x7b0\x7d."),
   ("reject_no_writing", "There is nothing written on the \x7b0\x7d."),
   ("describe_writing", "It reads: \"\x7b0\x7d\""),
   ("describe_dark", "It is pitch dark."),
   ("describe_item_here", "There is \x7b0\x7d here."),
   ("describe_exits", "Exits: \x7b0\x7d."),
   ("describe_contents", "The \x7b0\x7d contains \x7b1\x7d."),
   ("describe_topics", "You can ask about: \x7b0\x7d."),
   ("inventory_empty", "You are not carrying anything."),
   ("inventory_list", "You are carrying:\n\x7b0\x7d"),
   ("describe_score", "You have scored \x7b0\x7d points in \x7b1\x7d moves."),
   ("describe_help",
     "Type a verb and what to use it on, such as \"take lamp\" or \"north\". " ++
       "Type \"commands\" to list the verbs."),
   ("describe_commands", "I know these verbs: \x7b0\x7d."),
   ("reject_no_hint", "There is no hint about \"\x7b0\x7d\"."),
   ("reject_no_explanation", "There is no explanation of \"\x7b0\x7d\"."),
   ("confirm_quit", "You scored \x7b0\x7d points in \x7b1\x7d moves. Goodbye."),
   ("death_darkness", "You stumble around in the dark and fall into a pit. You are dead."),
   ("death_drowning", "You cannot breathe here. You drown."),
   ("death_generic", "You are dead."),
   ("reincarnation_prompt", "Do you want to be reincarnated?"),
   ("reincarnation_yes", "You are reincarnated."),
   ("reincarnation_no", "Rest in peace."),
   ("reincarnation_unclear", "Please answer yes or no.")]

/-- The response templates that a world description supplies. -/
structure Responses where
  /-- The templates by their keys. -/
  supplied : Table String String := ∅

namespace Responses

/-- Supply the template of a key, in place of an earlier one. -/
def insert (responses : Responses) (key template : String) : Responses :=
  ⟨responses.supplied.insert key template⟩

/-- The template of a key: a supplied one before the built-in one, else the key itself. -/
def get (responses : Responses) (key : String) : String :=
  match responses.supplied.get? key with
  | some template => template
  | none => (builtinResponses.lookup key).getD key

/-- The template of a key with values in its places. -/
def format (responses : Responses) (key : String) (values : List String) : String :=
  Text.format (responses.get key) values

/-- The number of supplied templates. -/
def size (responses : Responses) : Nat := responses.supplied.size

end Responses

end Adventure.Text
