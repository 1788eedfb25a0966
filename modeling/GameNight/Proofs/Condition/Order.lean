import GameNight.Listing
import GameNight.Proofs.Condition.Acceptance

/-!
# GameNight.Proofs.Condition.Order

The order that conditions ask for, and the order of listings.

The four operators `<`, `<=`, `>` and `>=` read one comparison of a value with
the literal, `Kind.order?`.  It is the comparison of listings on text and on
whole numbers.  On floats it is not: a NaN stands in no order to a literal, and
the two zeros are equal to it.  Where it does find a value below the literal
and another one not below it, a listing has the two in that order
(`compare_eq_lt_of_order?`), zeros and infinities included.
-/

namespace GameNight

/-! ## floats -/

namespace Binary64

theorem compare?_eq_some {x y : Binary64} (hx : x.isNaN = false) (hy : y.isNaN = false) :
    x.compare? y = some (compare x.valueKey y.valueKey) := by
  simp [compare?, hx, hy]

theorem compare?_eq_some_iff {x y : Binary64} {o : Ordering} :
    x.compare? y = some o ↔
      x.isNaN = false ∧ y.isNaN = false ∧ compare x.valueKey y.valueKey = o := by
  cases hx : x.isNaN <;> cases hy : y.isNaN <;> simp [compare?, hx, hy]

/-- A listing has numbers of different values in the order of their values:
only the two zeros differ in place and not in value. -/
theorem totalKey_lt {x y : Binary64} (h : x.valueKey < y.valueKey) : x.totalKey < y.totalKey := by
  obtain ⟨s, m, _⟩ := x
  obtain ⟨t, n, _⟩ := y
  simp only [valueKey] at h
  simp only [totalKey]
  -- a place is one below the value where the sign is negative, and what lies below a number
  -- with a negative sign has one too
  cases s <;> cases t <;> simp only [Bool.false_eq_true, if_true, if_false] at h ⊢
  all_goals omega

end Binary64

/-! ## kinds -/

namespace Kind

/-- Whether a value is a float that is no number. -/
def isNaN : (k : Kind) → k.Value → Bool
  | .text, _ => false
  | .integer, _ => false
  | .float, x => x.isNaN

/-- How a value stands to a literal, if they stand in an order. -/
def order? : (k : Kind) → k.Value → k.Value → Option Ordering
  | .text, x, y => some (Text.compareFolded x y)
  | .integer, x, y => some (Ord.compare x y)
  | .float, x, y => x.compare? y

/-- A float that was read is a finite number. -/
theorem isFinite_of_read? {cs : List Char} {x : Binary64} (h : Kind.float.read? cs = some x) :
    x.isFinite = true :=
  (Option.filter_eq_some_iff.mp h).2

theorem isNaN_of_read? {k : Kind} {cs : List Char} {v : k.Value} (h : k.read? cs = some v) :
    k.isNaN v = false := by
  cases k with
  | text => rfl
  | integer => rfl
  | float => exact Binary64.isNaN_of_isFinite (isFinite_of_read? h)

theorem exists_order? {k : Kind} {x y : k.Value} (hx : k.isNaN x = false)
    (hy : k.isNaN y = false) : ∃ o, k.order? x y = some o := by
  cases k with
  | text => exact ⟨_, rfl⟩
  | integer => exact ⟨_, rfl⟩
  | float => exact ⟨_, Binary64.compare?_eq_some hx hy⟩

/-- A value below a literal stands before one that is not below it. -/
theorem compare_eq_lt_of_order? {k : Kind} {x y literal : k.Value} {o : Ordering}
    (hx : k.order? x literal = some .lt) (hy : k.order? y literal = some o) (ho : o ≠ .lt) :
    k.compare x y = .lt := by
  cases k with
  | text =>
    obtain rfl := Option.some.inj hy
    have hge : (Text.compareFolded literal y).isLE = true :=
      Std.OrientedCmp.isLE_of_isGE (Ordering.isGE_iff_ne_lt.mpr ho)
    show Text.compareFolded x y = .lt
    exact Std.TransCmp.lt_of_lt_of_isLE (Option.some.inj hx) hge
  | integer =>
    obtain rfl := Option.some.inj hy
    have hlt : x < literal := Std.compare_eq_lt.mp (Option.some.inj hx)
    have hge : literal ≤ y := Int.not_lt.mp fun h => ho (Std.compare_eq_lt.mpr h)
    exact Std.compare_eq_lt.mpr (Int.lt_of_lt_of_le hlt hge)
  | float =>
    obtain ⟨-, -, hx⟩ := Binary64.compare?_eq_some_iff.mp hx
    obtain ⟨-, -, rfl⟩ := Binary64.compare?_eq_some_iff.mp hy
    have hlt : x.valueKey < literal.valueKey := Std.compare_eq_lt.mp hx
    have hge : literal.valueKey ≤ y.valueKey := Int.not_lt.mp fun h => ho (Std.compare_eq_lt.mpr h)
    exact Std.compare_eq_lt.mpr (Binary64.totalKey_lt (Int.lt_of_lt_of_le hlt hge))

end Kind

/-! ## order operators -/

/-- Whether an operator asks for an order. -/
def Operator.isOrder : Operator → Bool
  | .atLeast | .atMost | .greater | .less => true
  | .equal | .notEqual | .contains => false

/-- Order operators are decided by the order of value and literal alone, on
every kind. -/
theorem Kind.test_of_isOrder {op : Operator} (h : op.isOrder = true) (tolerance : Binary64)
    (k : Kind) (x literal : k.Value) :
    k.test tolerance op x literal = (k.order? x literal).any op.holds := by
  cases k <;> cases op <;> first | rfl | contradiction

end GameNight
