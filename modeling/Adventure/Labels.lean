/-!
# Labels

Locations and items are named and described by texts of the world description.
-/

namespace Adventure

/-- The names and descriptions of a location or an item. -/
structure Labels where
  /-- The word that a player types for it. -/
  shortname : String
  /-- The name in listings. -/
  longname : String
  /-- The description that always holds. -/
  description : String
  /-- Further descriptions, of which events attach one at a time. -/
  extendedDescriptions : List String := []
  /-- The position of the attached one. -/
  extension : Option Nat := none
  deriving DecidableEq

namespace Labels

/-- The attached further description, if the position has one. -/
def attached (labels : Labels) : Option String :=
  labels.extension.bind fun index => labels.extendedDescriptions[index]?

/-- The description with the attached further description after it. -/
def fullDescription (labels : Labels) : String :=
  match labels.attached with
  | none => labels.description
  | some extra =>
    if labels.description.isEmpty then extra else labels.description ++ " " ++ extra

end Labels

end Adventure
