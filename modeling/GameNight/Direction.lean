import GameNight.Fault

/-!
# GameNight.Direction

The two directions in which games can be listed, and their names.
-/

namespace GameNight

/-- Whether small values come first or last. -/
inductive Direction where
  | ascending
  | descending
deriving DecidableEq, Repr

namespace Direction

def all : List Direction := [.ascending, .descending]

/-- The name under which a direction is written out. -/
def name : Direction → String
  | .ascending => "ascending"
  | .descending => "descending"

/-- The names a person may use for a direction, in small letters. -/
def aliases : Direction → List String
  | .ascending => ["asc", "ascending"]
  | .descending => ["desc", "descending"]

/-- The direction a person names, in any letter case. -/
def resolve (s : String) : Except Fault Direction :=
  let key := Text.lower s.toList
  match all.find? (·.aliases.any (·.toList == key)) with
  | some d => .ok d
  | none => .error (.invalidSortOrder s)

/-- The direction whose name is exactly this text. -/
def ofName? (s : List Char) : Option Direction := all.find? (·.name.toList == s)

/-- An order as it appears in a direction. -/
def orient : Direction → Ordering → Ordering
  | .ascending, o => o
  | .descending, o => o.swap

@[simp] theorem orient_ascending (o : Ordering) : ascending.orient o = o := rfl

@[simp] theorem orient_descending (o : Ordering) : descending.orient o = o.swap := rfl

end Direction

end GameNight
