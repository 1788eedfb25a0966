import GameNight.Proofs.Condition.Acceptance
import GameNight.Proofs.Number.Signed

/-!
# GameNight.Proofs.Condition.WholeNumbers

Conditions on columns of whole numbers are exact.

A literal is a whole number, written in any length, that fits a signed word of 64 bits;
anything else is refused (`Kind.exists_read?_iff`).  The counts and the year of a game are
whole numbers of fewer bits, so they are compared with it as what they are, and an operator
holds if the relation it is named for holds of the two numbers (`Kind.test_iff_of_whole?`).
The tolerance, which is for floats, has no part in it.
-/

namespace GameNight

/-! ## relations -/

/-- The relation of whole numbers that an operator is named for. -/
def Operator.relation : Operator → Int → Int → Prop
  | .equal, m, n => m = n
  | .notEqual, m, n => m ≠ n
  | .atLeast, m, n => n ≤ m
  | .atMost, m, n => m ≤ n
  | .greater, m, n => n < m
  | .less, m, n => m < n
  | .contains, _, _ => False

theorem Operator.holds_compare_iff {op : Operator} {m n : Int} :
    op.holds (compare m n) = true ↔ op.relation m n := by
  cases op <;> simp [holds, relation, Std.compare_eq_lt, Std.compare_eq_gt]

/-! ## values that are whole numbers -/

/-- The whole number that a value is, if the values of the kind are whole numbers. -/
def Kind.whole? : (k : Kind) → k.Value → Option Int
  | .integer, n => some n
  | .text, _ => none
  | .float, _ => none

/-- The whole number of a game in a column of whole numbers: counts have no sign, and a
year before the common era has one. -/
def Game.whole? (g : Game) : Column → Option Int
  | .minPlayers => some g.minPlayers.toNat
  | .maxPlayers => some g.maxPlayers.toNat
  | .minPlayTime => some g.minPlayTime.toNat
  | .maxPlayTime => some g.maxPlayTime.toNat
  | .rank => some g.rank.toNat
  | .yearPublished => some g.yearPublished.toInt
  | .id => some g.id.toNat
  | .name | .difficulty | .rating => none

theorem Column.whole?_value (c : Column) (g : Game) : c.kind.whole? (c.value g) = g.whole? c := by
  cases c <;> rfl

namespace Kind

variable {k : Kind} {op : Operator} {cs : List Char} {x literal : k.Value} {m n : Int}

theorem exists_whole? (hk : k = .integer) (x : k.Value) : ∃ n, k.whole? x = some n := by
  subst hk
  exact ⟨x, rfl⟩

/-- What is read as a literal is a whole number that fits the word. -/
theorem exists_read?_iff (hk : k = .integer) :
    (∃ literal, k.read? cs = some literal) ↔
      ∃ n, WritesSigned cs n ∧ -2 ^ 63 ≤ n ∧ n < 2 ^ 63 := by
  subst hk
  simp [read?, word?_eq_some_iff]

/-- It is read as the number that is written. -/
theorem whole?_of_read? (hk : k = .integer) (hread : k.read? cs = some literal)
    (hwrites : WritesSigned cs n) : k.whole? literal = some n := by
  subst hk
  exact congrArg some ((word?_eq_some_iff.mp hread).1.unique hwrites)

/-- An operator holds if the two numbers are in its relation, whatever the tolerance. -/
theorem test_iff_of_whole? (hx : k.whole? x = some m) (hliteral : k.whole? literal = some n)
    (tolerance : Binary64) : k.test tolerance op x literal = true ↔ op.relation m n := by
  cases k with
  | integer =>
    obtain rfl := Option.some.inj hx
    obtain rfl := Option.some.inj hliteral
    exact Operator.holds_compare_iff
  | text => contradiction
  | float => contradiction

end Kind

namespace Condition

variable {c : Column} {op : Operator}

/-- A text is a literal of a queryable column of whole numbers if it writes, without the
white space around it, a whole number that fits a signed word of 64 bits, and otherwise
that literal is refused.  A game meets the condition if its own number in the column is
related to the one that is written as the operator says. -/
theorem whole_number_clauses_are_exact (hqueryable : c.isQueryable = true)
    (hkind : c.kind = .integer) (hop : op ≠ .contains) (text : String) :
    let written := Text.trim text.toList
    ((∃ cond, ofParts c op text = .ok cond) ↔
      ∃ n, WritesSigned written n ∧ -2 ^ 63 ≤ n ∧ n < 2 ^ 63) ∧
    ((¬ ∃ n, WritesSigned written n ∧ -2 ^ 63 ≤ n ∧ n < 2 ^ 63) →
      ofParts c op text = .error (.invalidLiteral c (String.ofList written))) ∧
    ∀ cond n, ofParts c op text = .ok cond → WritesSigned written n →
      ∀ (tolerance : Binary64) (g : Game), ∃ m, g.whole? c = some m ∧
        (cond.matchesGame tolerance g = true ↔ op.relation m n) := by
  intro written
  have hadmitted : op.admits c.kind = true := Operator.admits_of_ne hop _
  have hreads : (∃ literal, c.kind.read? written = some literal) ↔
      ∃ n, WritesSigned written n ∧ -2 ^ 63 ≤ n ∧ n < 2 ^ 63 := Kind.exists_read?_iff hkind
  refine ⟨(exists_ofParts_iff hqueryable hadmitted).trans hreads, ?_, ?_⟩
  · intro hn
    exact ofParts_eq_invalidLiteral hqueryable hadmitted (hreads.not.mpr hn)
  · intro cond n hcond hwrites tolerance g
    have hread := read?_of_ofParts hcond
    obtain ⟨rfl, rfl, -⟩ := ofParts_eq_ok_iff.mp hcond
    obtain ⟨m, hm⟩ := Kind.exists_whole? hkind (cond.column.value g)
    refine ⟨m, by rw [← Column.whole?_value, hm], ?_⟩
    exact Kind.test_iff_of_whole? hm (Kind.whole?_of_read? hkind hread hwrites) tolerance

/-- The lowest number of the word, with a zero in front, which all years are above, and
the number after the highest one. -/
theorem whole_number_clauses_are_exact_at_limits :
    Column.yearPublished.isQueryable = true ∧ Column.yearPublished.kind = .integer ∧
      Operator.greater ≠ .contains ∧
      (∃ cond, ofParts .yearPublished .greater " -09223372036854775808 " = .ok cond ∧
        ∀ tolerance g, cond.matchesGame tolerance g = true) ∧
      ofParts .yearPublished .greater "+9223372036854775808" =
        .error (.invalidLiteral .yearPublished "+9223372036854775808") := by
  have hop : Operator.greater ≠ .contains := by decide
  have exact_of := fun text =>
    @whole_number_clauses_are_exact .yearPublished .greater rfl rfl hop text
  have hlowest : WritesSigned (Text.trim " -09223372036854775808 ".toList) (-2 ^ 63) := by decide
  have hbeyond : WritesSigned (Text.trim "+9223372036854775808".toList) (2 ^ 63) := by decide
  refine ⟨rfl, rfl, hop, ?_, ?_⟩
  · obtain ⟨hok, -, hmatches⟩ := exact_of " -09223372036854775808 "
    obtain ⟨cond, hcond⟩ := hok.mpr ⟨_, hlowest, by decide, by decide⟩
    refine ⟨cond, hcond, fun tolerance g => ?_⟩
    obtain ⟨m, hm, hiff⟩ := hmatches cond _ hcond hlowest tolerance g
    obtain rfl : g.yearPublished.toInt = m := Option.some.inj hm
    have hyear := g.yearPublished.le_toInt
    refine hiff.mpr (show -2 ^ 63 < g.yearPublished.toInt from ?_)
    omega
  · apply (exact_of "+9223372036854775808").2.1
    rintro ⟨n, hwrites, -, hlt⟩
    obtain rfl := hwrites.unique hbeyond
    exact absurd hlt (by decide)

end Condition

end GameNight
