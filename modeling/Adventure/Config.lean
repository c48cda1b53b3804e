import Adventure.Text.Similarity

/-!
# Settings

The settings of a game that do not belong to its world. The measure by which words are similar is
one of them: nothing but the program on the console depends on which it is.
-/

namespace Adventure

/-- The settings of a game. -/
structure Config where
  /-- Whether the player begins with full descriptions on every visit. -/
  verbose : Bool := false
  /-- Whether the player begins as one who cannot die. -/
  immune : Bool := false
  /-- What stands between the fragments of an answer. -/
  separator : String := "\n"
  /-- The points that a reincarnation costs. -/
  penalty : Nat := 10
  /-- The similarity that a known verb needs to be suggested. -/
  threshold : Float := 0.8
  /-- How similar a verb is to the name of a command. -/
  similarity : String → String → Float := Text.similarity

namespace Config

/-- Set the similarity that a suggestion needs, which lies between zero and one. -/
def withThreshold (config : Config) (threshold : Float) : Config :=
  { config with
    threshold := if threshold < 0.0 then 0.0 else if threshold > 1.0 then 1.0 else threshold }

end Config

end Adventure
