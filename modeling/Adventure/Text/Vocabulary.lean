import Adventure.Table
import Adventure.Text.Blank
import Adventure.Text.Case

/-!
# Vocabulary

Some words have a meaning whatever the command: those that say yes, those that say no, and filler
words that are dropped from a typed line. All of them are stored and looked up in lowercase.
-/

namespace Adventure.Text

/-- Named sets of lowercase words. -/
structure Vocabulary where
  /-- The words of each set, by the lowercase name of the set. -/
  sets : Table String (List String)

namespace Vocabulary

/-- The name of the set of words that answer yes. -/
def yes : String := "yes"

/-- The name of the set of words that answer no. -/
def no : String := "no"

/-- The name of the set of words that a typed line may contain without meaning. -/
def filler : String := "filler"

/-- Make `words` the whole set called `name`. -/
def set (vocabulary : Vocabulary) (name : String) (words : List String) : Vocabulary :=
  ⟨vocabulary.sets.insert (lower name) (words.map lower)⟩

/-- Add `words` to the set called `name`. -/
def extend (vocabulary : Vocabulary) (name : String) (words : List String) : Vocabulary :=
  let known := (vocabulary.sets.get? (lower name)).getD []
  ⟨vocabulary.sets.insert (lower name) (known ++ words.map lower)⟩

/-- Whether `word` belongs to the set called `name`, which is given in lowercase. -/
def contains (vocabulary : Vocabulary) (name word : String) : Bool :=
  ((vocabulary.sets.get? name).getD []).contains (lower word)

/-- The vocabulary of a world that declares no words of its own. -/
def standard : Vocabulary :=
  ⟨.ofList [(yes, ["y", "yes"]), (no, ["n", "no"]), (filler, ["the", "a", "an"])]⟩

/-- The words of a typed line in lowercase, without filler words. -/
def tokens (vocabulary : Vocabulary) (line : String) : List String :=
  ((words line.toList).map fun word => lower (String.ofList word)).filter
    fun word => !vocabulary.contains filler word

end Vocabulary

end Adventure.Text
