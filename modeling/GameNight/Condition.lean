import GameNight.Fault
import GameNight.Text.Blank
import GameNight.Text.Pieces

/-!
# GameNight.Condition

One clause of a query: a column, an operator and a literal.

A `Condition` can only be had with a queryable column, an operator that the
column's kind admits, and a text that reads as a literal of that kind; all
three are fields of the type, so a condition can be tested without a case that
fails.  The literal is determined by the text, so two conditions are equal when
column, operator and text are.

The column is found by the name that a person gives it (`Column.resolve`).
`parse` reads a clause and `render` writes it; the text is kept as written.
-/

namespace GameNight

/-! ## the column that is meant -/

namespace Column

/-- The column with a given name or alias, in any letter case and with any
white space around it.  A name nothing answers to is reported trimmed. -/
def resolve (name : String) : Except Fault Column :=
  let written := Text.trim name.toList
  match named? (Text.lower written) with
  | some c => .ok c
  | none => .error (.unknownColumn (String.ofList written))

/-- A column is found exactly when one answers to the trimmed name in small
letters. -/
theorem resolve_eq_ok_iff {name : String} {c : Column} :
    resolve name = .ok c ↔ named? (Text.lower (Text.trim name.toList)) = some c := by
  simp only [resolve]
  split <;> simp_all

end Column

/-! ## literals -/

namespace Kind

/-- Reads a literal of a kind.  Text is kept in small letters, since names are
compared ignoring case. -/
def read? : (k : Kind) → List Char → Option k.Value
  | .text, cs => some (Text.lower cs)
  | .integer, cs => word? cs
  | .float, cs => finite? cs

/-- Whether an operator holds between a game's value and a literal.  Floats
are equal when their distance is below the tolerance, and different when it is
not; a NaN is neither.  All other comparisons are exact. -/
def test (tolerance : Binary64) (op : Operator) : (k : Kind) → k.Value → k.Value → Bool
  | .text, value, literal =>
    match op with
    | .contains => Text.occurs literal (Text.lower value)
    | op => op.holds (Text.compareFolded value literal)
  | .integer, value, literal => op.holds (Ord.compare value literal)
  | .float, value, literal =>
    match op with
    | .equal => (value.distance literal).lt tolerance
    | .notEqual => tolerance.le (value.distance literal)
    | op => (value.compare? literal).any op.holds

end Kind

/-- A clause that has been read. -/
structure Condition where
  column : Column
  operator : Operator
  /-- The literal as it was written, trimmed. -/
  value : String
  /-- The literal as a value of the column's kind. -/
  literal : column.kind.Value
  queryable : column.isQueryable = true
  admitted : operator.admits column.kind = true
  reads : column.kind.read? value.toList = some literal

namespace Condition

/-- Column, operator and text determine a condition. -/
theorem ext {a b : Condition} (hc : a.column = b.column) (ho : a.operator = b.operator)
    (hv : a.value = b.value) : a = b := by
  obtain ⟨c, o, v, l, _, _, hl⟩ := a
  obtain ⟨c', o', v', l', _, _, hl'⟩ := b
  obtain rfl : c = c' := hc
  obtain rfl : o = o' := ho
  obtain rfl : v = v' := hv
  obtain rfl : l = l' := Option.some.inj (hl.symm.trans hl')
  rfl

theorem ext_iff {a b : Condition} :
    a = b ↔ a.column = b.column ∧ a.operator = b.operator ∧ a.value = b.value :=
  ⟨fun h => h ▸ ⟨rfl, rfl, rfl⟩, fun ⟨hc, ho, hv⟩ => ext hc ho hv⟩

instance : DecidableEq Condition := fun _ _ => decidable_of_iff _ ext_iff.symm

/-! ## reading and writing -/

/-- The condition with a column, an operator and a literal text. -/
def ofParts (column : Column) (operator : Operator) (text : String) : Except Fault Condition :=
  if hq : column.isQueryable = true then
    if ha : operator.admits column.kind = true then
      let value := String.ofList (Text.trim text.toList)
      match hr : column.kind.read? value.toList with
      | some literal => .ok ⟨column, operator, value, literal, hq, ha, hr⟩
      | none => .error (.invalidLiteral column value)
    else .error (.invalidOperator operator column.kind)
  else .error (.unsupportedColumn column)

/-- Reads a clause such as `maxPlayTime <= 60`.  A clause needs an operator and
something other than white space on each side of it. -/
def parse (clause : String) : Except Fault Condition := do
  let written := Text.trim clause.toList
  let malformed := Fault.malformedClause (String.ofList written)
  let some split := Operator.split? written | .error malformed
  let name := Text.trim split.before
  let value := Text.trim split.after
  if name.isEmpty || value.isEmpty then .error malformed
  else
    let column ← Column.resolve (String.ofList name)
    ofParts column split.operator (String.ofList value)

/-- Writes a clause, with nothing between its three parts. -/
def render (c : Condition) : String :=
  c.column.canonicalName ++ String.ofList c.operator.token ++ c.value

instance : ToString Condition := ⟨render⟩

/-! ## testing -/

/-- Whether a game meets a condition, floats being equal up to a tolerance. -/
def matchesGame (c : Condition) (tolerance : Binary64) (g : Game) : Bool :=
  c.column.kind.test tolerance c.operator (c.column.value g) c.literal

end Condition

end GameNight
