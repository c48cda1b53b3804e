import Adventure.Turn.Stage

/-!
# Life and death

Every turn ends by looking whether the player still lives. A player who died loses what was carried
at the place of death, and is asked about reincarnation.
-/

namespace Adventure

namespace World

/-- Lay an item down at a location, no longer worn. If the location refuses it, it stays held. -/
def layDown (location : LocationId) (world : World) (key : ItemKey) : World :=
  ((world.modifyItem key (·.withWorn false)).tryInsert (.location location) key).1

/-- Lay down everything that the player carries. -/
def scatter (world : World) : World :=
  world.carried.foldl (layDown world.player.location) world

end World

namespace Stage

/-- If the player has died, scatter what was carried and ask about reincarnation. -/
def life : Stage := fun turn _ args =>
  if turn.world.player.alive then (turn, .silent args)
  else
    let turn := (turn.withWorld turn.world.scatter).modifyPlayer (·.forget)
    let prompt := turn.world.response "reincarnation_prompt"
    let lines := if turn.deathNarrated then [prompt]
      else [turn.world.response "death_generic", prompt]
    (turn, .tell (turn.config.separator.intercalate lines) args)

end Stage

end Adventure
