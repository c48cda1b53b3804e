import Adventure.Text.Case

/-!
# Switching

A switch is on or off. Each switch has words of its own for the two states; one word for flipping
it is common to all.
-/

namespace Adventure

/-- What a switch is asked to do. -/
inductive Transition
  | on
  | off
  | toggle
  deriving DecidableEq

namespace Transition

/-- The state after a transition. -/
def apply : Transition → Bool → Bool
  | on, _ => true
  | off, _ => false
  | toggle, state => !state

/-- The word for a transition where no switch has a say. -/
def word : Transition → String
  | on => "on"
  | off => "off"
  | toggle => "toggle"

end Transition

/-- The words of a switch for its states. -/
structure SwitchWords where
  /-- The word for being on. -/
  on : String := "on"
  /-- The word for being off. -/
  off : String := "off"
  deriving DecidableEq

namespace SwitchWords

/-- The transition that a word asks for. When both states have the same word, it means on. -/
def transition? (words : SwitchWords) (token : String) : Option Transition :=
  if Text.alike token words.on then some .on
  else if Text.alike token words.off then some .off
  else if Text.alike token Transition.toggle.word then some .toggle
  else none

/-- The word for a state. -/
def wordFor (words : SwitchWords) (state : Bool) : String := if state then words.on else words.off

end SwitchWords

end Adventure
