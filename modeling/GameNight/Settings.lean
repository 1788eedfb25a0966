import GameNight.Listing
import GameNight.Number.Decimal

/-!
# GameNight.Settings

How a catalog is listed when nothing is said about it, and how near two floats
have to be to count as equal.
-/

namespace GameNight

/-- The settings of a browser. -/
structure Settings where
  /-- How games are listed. -/
  arrangement : Arrangement := {}
  /-- Floats nearer than this are equal; a thousandth, if nothing is said. -/
  tolerance : Binary64 := Decimal.toBinary64 false ⟨1, -3⟩
deriving DecidableEq

namespace Settings

/-- Settings can be used when their tolerance is a positive finite number. -/
def validate (s : Settings) : Except Fault Settings :=
  if s.tolerance.isFinite && Binary64.zero.lt s.tolerance then .ok s
  else .error (.invalidTolerance s.tolerance)

theorem validate_eq_ok_iff {s : Settings} :
    s.validate = .ok s ↔
      s.tolerance.isFinite = true ∧ s.tolerance.negative = false ∧ s.tolerance.magnitude ≠ 0 := by
  rw [validate]
  split
  · next h =>
    rw [Bool.and_eq_true] at h
    simp [h.1, (Binary64.zero_lt_iff h.1).mp h.2]
  · next h =>
    rw [Bool.and_eq_true] at h
    simp only [reduceCtorEq, false_iff]
    exact fun ⟨hfinite, hpos⟩ => h ⟨hfinite, (Binary64.zero_lt_iff hfinite).mpr hpos⟩

/-- The tolerance of settings that can be used is above zero. -/
theorem zero_lt_tolerance {s : Settings} (h : s.validate = .ok s) :
    Binary64.zero.lt s.tolerance = true := by
  obtain ⟨hfinite, hpositive⟩ := validate_eq_ok_iff.mp h
  exact (Binary64.zero_lt_iff hfinite).mpr hpositive

end Settings

end GameNight
