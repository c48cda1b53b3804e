import Adventure.World.Basic

/-!
# Suggestions

A verb that means nothing may be close to the name of a command. The closest name is suggested, if
it is close enough. How close two words are is left to a score that is given.
-/

namespace Adventure

namespace Suggestion

variable {σ : Type} [LT σ] [DecidableLT σ] [BEq σ]

/-- Whether a name with its score is a better suggestion than another: a higher score, or the same
score and the smaller name. -/
def isBetter (candidate other : String × σ) : Bool :=
  other.2 < candidate.2 || (candidate.2 == other.2 && candidate.1 < other.1)

/-- The better of the best candidate so far and another one. -/
def better (best : Option (String × σ)) (candidate : String × σ) : Option (String × σ) :=
  match best with
  | none => some candidate
  | some other => if isBetter candidate other then some candidate else some other

/-- The best of the candidates. -/
def best? (candidates : List (String × σ)) : Option (String × σ) := candidates.foldl better none

end Suggestion

namespace World

/-- The names that may be suggested: those of commands that exist and are not secret. -/
def suggestibleNames (world : World) : List String :=
  (world.commandNames.entries.filter fun (_, id) =>
    (world.command? id).any (!·.isSecret)).map Prod.fst

/-- The name that scores best against a word, among those that score `threshold` or more. -/
def suggestBy {σ : Type} [LT σ] [DecidableLT σ] [LE σ] [DecidableLE σ] [BEq σ] (world : World)
    (score : String → String → σ) (threshold : σ) (word : String) : Option String :=
  let typed := Text.lower word
  let scored := world.suggestibleNames.map fun name => (name, score typed name)
  (Suggestion.best? (scored.filter fun candidate => threshold ≤ candidate.2)).map Prod.fst

end World

end Adventure
