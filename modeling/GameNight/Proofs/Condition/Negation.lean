import GameNight.Proofs.Condition.Order
import GameNight.Settings

/-!
# GameNight.Proofs.Condition.Negation

Being different, and not being equal.

Text and whole numbers are different when they are not equal.  For floats there are
two tests, `<` and `≥` on the distance from the literal, and each is the negation of
the other between numbers (`Binary64.le_eq_not_lt`).  A tolerance that can be used is
no NaN, and neither is the distance if the value is none
(`Binary64.isNaN_distance`).  So a game meets one of `==` and `!=` if it has no NaN in
the column (`Kind.test_notEqual`), and with a NaN it meets neither
(`Kind.test_of_isNaN`).
-/

namespace GameNight

/-! ## floats -/

namespace Binary64

theorem le_eq_not_lt {x y : Binary64} (hx : x.isNaN = false) (hy : y.isNaN = false) :
    y.le x = !x.lt y := by
  rw [le, lt, compare?_eq_some hx hy, compare?_eq_some hy hx,
    show compare y.valueKey x.valueKey = (compare x.valueKey y.valueKey).swap from
      Std.OrientedCmp.eq_swap]
  cases compare x.valueKey y.valueKey <;> rfl

/-- A NaN is not below anything. -/
theorem lt_of_isNaN {x : Binary64} (h : x.isNaN = true) (y : Binary64) : x.lt y = false := by
  simp [lt, compare?, h]

/-- A NaN is not above anything. -/
theorem le_of_isNaN {x : Binary64} (h : x.isNaN = true) (y : Binary64) : y.le x = false := by
  simp [le, compare?, h]

/-- The distance from a finite number is a NaN only at a NaN. -/
theorem isNaN_distance {x y : Binary64} (hy : y.isFinite = true) :
    (x.distance y).isNaN = x.isNaN := by
  have hinf : y.isInfinite = false := isInfinite_of_isFinite hy
  rw [distance, isNaN_of_isFinite hy, hinf, Bool.or_false, Bool.or_false]
  cases hx : x.isNaN with
  | true => rfl
  | false =>
    cases hxinf : x.isInfinite with
    | true =>
      have hne : x ≠ y := by
        rintro rfl
        rw [hinf] at hxinf
        contradiction
      simp [hne, infinity, isNaN]
    | false =>
      simpa [ofUnits, isNaN] using Magnitude.round_le_infinity _ 1

end Binary64

/-- The tolerance of settings that can be used is a number. -/
theorem Settings.isNaN_tolerance {s : Settings} (h : s.validate = .ok s) :
    s.tolerance.isNaN = false :=
  Binary64.isNaN_of_isFinite (validate_eq_ok_iff.mp h).1

/-! ## kinds -/

namespace Kind

variable {tolerance : Binary64} {k : Kind} {cs : List Char} {x literal : k.Value}

/-- One of the two operators holds of a value that is no NaN. -/
theorem test_notEqual (htolerance : tolerance.isNaN = false) (hread : k.read? cs = some literal)
    (hx : k.isNaN x = false) :
    k.test tolerance .notEqual x literal = !k.test tolerance .equal x literal := by
  cases k with
  | text => rfl
  | integer => rfl
  | float =>
    have hdistance : (Binary64.distance x literal).isNaN = false :=
      (Binary64.isNaN_distance (isFinite_of_read? hread)).trans hx
    exact Binary64.le_eq_not_lt hdistance htolerance

/-- Neither of them holds of a NaN. -/
theorem test_of_isNaN (hread : k.read? cs = some literal) (hx : k.isNaN x = true) :
    k.test tolerance .equal x literal = false ∧ k.test tolerance .notEqual x literal = false := by
  cases k with
  | text => contradiction
  | integer => contradiction
  | float =>
    have hdistance : (Binary64.distance x literal).isNaN = true :=
      (Binary64.isNaN_distance (isFinite_of_read? hread)).trans hx
    exact ⟨Binary64.lt_of_isNaN hdistance tolerance, Binary64.le_of_isNaN hdistance tolerance⟩

end Kind

namespace Condition

variable {c : Column} {op : Operator} {text : String} {accepted : Condition} {s : Settings}

/-- With a text that is accepted for a column there are the two conditions `==` and `!=`.
In settings that can be used, a game whose value is no NaN meets exactly one of them, and
a game whose value is a NaN meets neither. -/
theorem equal_xor_notEqual (h : ofParts c op text = .ok accepted) (hs : s.validate = .ok s) :
    ∃ equal notEqual : Condition,
      ofParts c .equal text = .ok equal ∧ ofParts c .notEqual text = .ok notEqual ∧
      ∀ g : Game,
        (c.kind.isNaN (c.value g) = false →
          notEqual.matchesGame s.tolerance g = !equal.matchesGame s.tolerance g) ∧
        (c.kind.isNaN (c.value g) = true →
          equal.matchesGame s.tolerance g = false ∧
            notEqual.matchesGame s.tolerance g = false) := by
  have hequal : Operator.equal.admits accepted.column.kind = true :=
    Operator.admits_of_ne (by decide) _
  have hnotEqual : Operator.notEqual.admits accepted.column.kind = true :=
    Operator.admits_of_ne (by decide) _
  refine ⟨accepted.withOperator .equal hequal, accepted.withOperator .notEqual hnotEqual,
    ofParts_withOperator h hequal, ofParts_withOperator h hnotEqual, ?_⟩
  obtain ⟨rfl, -, -⟩ := ofParts_eq_ok_iff.mp h
  intro g
  rw [matchesGame_withOperator, matchesGame_withOperator]
  exact ⟨Kind.test_notEqual (Settings.isNaN_tolerance hs) accepted.reads,
    Kind.test_of_isNaN accepted.reads⟩

/-- The condition that is written `rating==5`. -/
def ratingIsFive : Condition :=
  ⟨.rating, .equal, "5", Decimal.toBinary64 false ⟨5, 0⟩, rfl, rfl,
    show finite? "5".toList = some _ by decide +kernel⟩

theorem ofParts_ratingIsFive : ofParts .rating .equal "5" = .ok ratingIsFive :=
  ofParts_eq_ok_iff.mpr ⟨rfl, rfl, by decide⟩

/-- Ratings at the distance of the tolerance are different, and at an infinite distance
they are too. -/
theorem equal_xor_notEqual_far_away :
    let s : Settings := { tolerance := Decimal.toBinary64 false ⟨1, 0⟩ }
    s.validate = .ok s ∧
      ∃ notEqual : Condition, ofParts .rating .notEqual "5" = .ok notEqual ∧
        ∀ rating ∈ [Decimal.toBinary64 false ⟨4, 0⟩, .infinity],
          ratingIsFive.matchesGame s.tolerance { rating := rating } = false ∧
            notEqual.matchesGame s.tolerance { rating := rating } = true := by
  intro s
  have hs : s.validate = .ok s := if_pos (by decide +kernel)
  obtain ⟨equal, notEqual, hequal, hnotEqual, h⟩ := equal_xor_notEqual ofParts_ratingIsFive hs
  obtain rfl : ratingIsFive = equal := Except.ok.inj (ofParts_ratingIsFive.symm.trans hequal)
  refine ⟨hs, notEqual, hnotEqual, ?_⟩
  intro rating hrating
  have hfar : rating.isNaN = false ∧
      ratingIsFive.matchesGame s.tolerance { rating := rating } = false := by
    revert rating
    decide +kernel
  refine ⟨hfar.2, ?_⟩
  rw [(h { rating := rating }).1 hfar.1, hfar.2]
  rfl

/-- A game with a NaN as its rating is not rated five, and its rating is not different
from five. -/
theorem nan_neither_equal_nor_notEqual :
    let s : Settings := {}
    let g : Game := { rating := .nan }
    s.validate = .ok s ∧
      ∃ equal notEqual : Condition,
        ofParts .rating .equal "5" = .ok equal ∧ ofParts .rating .notEqual "5" = .ok notEqual ∧
        equal.matchesGame s.tolerance g = false ∧ notEqual.matchesGame s.tolerance g = false :=
  ⟨if_pos (by decide +kernel), ratingIsFive, ratingIsFive.withOperator .notEqual rfl,
    ofParts_ratingIsFive, ofParts_withOperator ofParts_ratingIsFive rfl, by decide +kernel,
    by decide +kernel⟩

end Condition

end GameNight
