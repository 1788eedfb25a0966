import GameNight.Number.Binary64
import GameNight.Text.Lower

/-!
# GameNight.Game

The record of one board game, and the columns of a catalog of games, by which
games are asked for and listed.

Two records are the same game exactly when all ten fields agree, floats bit for
bit, so records can be the members of a set.

A column has a *kind*, and the kind says what its values are, so that a value
read from a game and a value to compare it with have one type and no
comparison can meet a value of the wrong kind.  A column answers to its name in
any letter case, and to its aliases.
-/

namespace GameNight

/-! ## records -/

/-- A board game: counts are words of 32 bits, and a negative year is a year
before the common era. -/
structure Game where
  id : UInt32 := 0
  name : String := ""
  minPlayers : UInt32 := 0
  maxPlayers : UInt32 := 0
  minPlayTime : UInt32 := 0
  maxPlayTime : UInt32 := 0
  difficulty : Binary64 := .zero
  rank : UInt32 := 0
  rating : Binary64 := .zero
  yearPublished : Int32 := 0
deriving DecidableEq

instance : Inhabited Game := ⟨{}⟩

/-- A game is shown by its name. -/
instance : ToString Game := ⟨Game.name⟩

/-! ## kinds of values -/

/-- What the values of a column are. -/
inductive Kind where
  | text
  | integer
  | float
deriving DecidableEq, Repr

namespace Kind

def all : List Kind := [.text, .integer, .float]

/-- The name of a kind. -/
def name : Kind → String
  | .text => "string"
  | .integer => "integer"
  | .float => "float"

/-- The values of a kind. -/
abbrev Value : Kind → Type
  | .text => List Char
  | .integer => Int
  | .float => Binary64

end Kind

/-! ## columns -/

/-- A column of the catalog. -/
inductive Column where
  | name
  | minPlayers
  | maxPlayers
  | minPlayTime
  | maxPlayTime
  | difficulty
  | rank
  | rating
  | yearPublished
  | id
deriving DecidableEq, Repr

namespace Column

/-- Every column, in the order in which tables show them. -/
def all : List Column :=
  [.name, .minPlayers, .maxPlayers, .minPlayTime, .maxPlayTime, .difficulty, .rank, .rating,
   .yearPublished, .id]

theorem mem_all (c : Column) : c ∈ all := by cases c <;> decide

/-- The name under which a column is written out. -/
def canonicalName : Column → String
  | .name => "name"
  | .minPlayers => "minPlayers"
  | .maxPlayers => "maxPlayers"
  | .minPlayTime => "minPlayTime"
  | .maxPlayTime => "maxPlayTime"
  | .difficulty => "difficulty"
  | .rank => "rank"
  | .rating => "rating"
  | .yearPublished => "yearPublished"
  | .id => "id"

/-- Other names a person may use for a column, in small letters. -/
def aliases : Column → List String
  | .name => ["objectname"]
  | .minPlayers => ["min_players"]
  | .maxPlayers => ["max_players"]
  | .minPlayTime => ["min_play_time", "min_time", "mintime"]
  | .maxPlayTime => ["max_play_time", "max_time", "maxtime"]
  | .difficulty => ["avgweight", "weight"]
  | .rank => []
  | .rating => ["average", "avgrating"]
  | .yearPublished => ["year_published", "year"]
  | .id => []

/-- The kind of a column's values. -/
def kind : Column → Kind
  | .name => .text
  | .difficulty | .rating => .float
  | .minPlayers | .maxPlayers | .minPlayTime | .maxPlayTime | .rank | .yearPublished | .id =>
    .integer

/-- Whether games can be asked for and listed by a column.  The identifier
tells records apart and says nothing about the game. -/
def isQueryable (c : Column) : Bool := c != .id

/-- The value of a game in a column. -/
def value : (c : Column) → Game → c.kind.Value
  | .name, g => g.name.toList
  | .minPlayers, g => (g.minPlayers.toNat : Int)
  | .maxPlayers, g => (g.maxPlayers.toNat : Int)
  | .minPlayTime, g => (g.minPlayTime.toNat : Int)
  | .maxPlayTime, g => (g.maxPlayTime.toNat : Int)
  | .difficulty, g => g.difficulty
  | .rank, g => (g.rank.toNat : Int)
  | .rating, g => g.rating
  | .yearPublished, g => g.yearPublished.toInt
  | .id, g => (g.id.toNat : Int)

/-! ## names -/

/-- Whether a column answers to a key, which is a name in small letters. -/
def answersTo (c : Column) (key : List Char) : Bool :=
  Text.lower c.canonicalName.toList == key || c.aliases.any (·.toList == key)

/-- The column that answers to a key. -/
def named? (key : List Char) : Option Column := all.find? (·.answersTo key)

/-- The column whose canonical name is exactly this text. -/
def ofCanonicalName? (s : List Char) : Option Column := all.find? (·.canonicalName.toList == s)

end Column

end GameNight
