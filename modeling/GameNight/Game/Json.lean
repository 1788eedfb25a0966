import GameNight.Fault
import GameNight.Json.Field
import GameNight.Json.Reader

/-!
# GameNight.Game.Json

The record of a game as JSON: an object with a member for every column, under
the column's name, the identifier first.
-/

namespace GameNight

/-- A value of a kind as JSON. -/
def Kind.toJson : (k : Kind) → k.Value → Json
  | .text, s => .text (some s)
  | .integer, n => .ofInt n
  | .float, x => .ofBinary64 x

namespace Game

/-- The columns in the order of a record's members. -/
def recordColumns : List Column :=
  [.id, .name, .minPlayers, .maxPlayers, .minPlayTime, .maxPlayTime, .difficulty, .rank, .rating,
   .yearPublished]

/-- The JSON of a game. -/
def toJson (g : Game) : Json :=
  .record (recordColumns.map fun c => (c.canonicalName, c.kind.toJson (c.value g)))

/-- The game some JSON stands for.  No field may be left out. -/
def ofJson? (x : Json) : Option Game := do
  let fields ← x.fields? (recordColumns.map Column.canonicalName)
  let [some id, some name, some minPlayers, some maxPlayers, some minPlayTime, some maxPlayTime,
    some difficulty, some rank, some rating, some yearPublished] := fields | none
  return {
    id := ← id.word?
    name := ← name.text?
    minPlayers := ← minPlayers.word?
    maxPlayers := ← maxPlayers.word?
    minPlayTime := ← minPlayTime.word?
    maxPlayTime := ← maxPlayTime.word?
    difficulty := ← difficulty.binary64?
    rank := ← rank.word?
    rating := ← rating.binary64?
    yearPublished := ← yearPublished.signed? }

/-- Writes a game as JSON text. -/
def render (g : Game) : String := String.ofList g.toJson.render

/-- Reads a game from JSON text. -/
def parse (text : String) : Except Fault Game :=
  match (Json.parse? text.toList).bind ofJson? with
  | some g => .ok g
  | none => .error .unreadableJson

end Game

end GameNight
