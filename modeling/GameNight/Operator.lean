import GameNight.Game

/-!
# GameNight.Operator

The comparison operators of a filter clause, and where a clause is divided.

`split?` divides a text at its leftmost operator.  Where two operators start at
one place, as `>` and `>=` do, the longer one is meant: `all` lists every
operator before those whose token begins its own.
-/

namespace GameNight

/-- A comparison of a game's value with a literal. -/
inductive Operator where
  | equal
  | notEqual
  | contains
  | atLeast
  | atMost
  | greater
  | less
deriving DecidableEq, Repr

namespace Operator

/-- Every operator, longer tokens before the tokens they begin with. -/
def all : List Operator := [.equal, .notEqual, .contains, .atLeast, .atMost, .greater, .less]

theorem mem_all (op : Operator) : op ∈ all := by cases op <;> decide

/-- The characters of an operator. -/
def token : Operator → List Char
  | .equal => ['=', '=']
  | .notEqual => ['!', '=']
  | .contains => ['~', '=']
  | .atLeast => ['>', '=']
  | .atMost => ['<', '=']
  | .greater => ['>']
  | .less => ['<']

/-- Whether an operator can be used on a kind of values: only text contains
other text. -/
def admits (op : Operator) (k : Kind) : Bool := op != .contains || k == .text

/-- Whether an operator holds of a value that stands in an order to the
literal.  Containment is no question of order. -/
def holds : Operator → Ordering → Bool
  | .equal, o => o == .eq
  | .notEqual, o => o != .eq
  | .atLeast, o => o != .lt
  | .atMost, o => o != .gt
  | .greater, o => o == .gt
  | .less, o => o == .lt
  | .contains, _ => false

/-- The operator with a given token. -/
def ofToken? (s : List Char) : Option Operator := all.find? (·.token == s)

/-! ## dividing a text -/

/-- A text divided at an operator. -/
structure Split where
  before : List Char
  operator : Operator
  after : List Char
deriving DecidableEq

namespace Split

/-- The text that was divided. -/
def text (s : Split) : List Char := s.before ++ s.operator.token ++ s.after

/-- Bytes in front of the operator, in UTF-8. -/
def offset (s : Split) : Nat := (String.ofList s.before).utf8ByteSize

end Split

/-- The operator a text begins with. -/
def start? (cs : List Char) : Option Operator := all.find? (·.token.isPrefixOf cs)

/-- Divides a text at its leftmost operator. -/
def split? : List Char → Option Split
  | [] => none
  | c :: cs =>
    match start? (c :: cs) with
    | some op => some ⟨[], op, (c :: cs).drop op.token.length⟩
    | none => (split? cs).map fun s => { s with before := c :: s.before }

/-- The operator a text begins with stands at its beginning. -/
theorem token_append_of_start? {cs : List Char} {op : Operator} (h : start? cs = some op) :
    op.token ++ cs.drop op.token.length = cs := by
  have hp : op.token.isPrefixOf cs = true := by simpa using List.find?_some h
  obtain ⟨rest, rfl⟩ := List.isPrefixOf_iff_prefix.mp hp
  simp

/-- Dividing loses nothing. -/
theorem text_of_split? {cs : List Char} {s : Split} (h : split? cs = some s) : s.text = cs := by
  induction cs generalizing s with
  | nil => simp [split?] at h
  | cons c cs ih =>
    rw [split?] at h
    split at h
    · next op hs =>
      obtain rfl := Option.some.inj h
      simpa [Split.text] using token_append_of_start? hs
    · obtain ⟨t, ht, rfl⟩ := Option.map_eq_some_iff.mp h
      simpa [Split.text] using ih ht

end Operator

end GameNight
