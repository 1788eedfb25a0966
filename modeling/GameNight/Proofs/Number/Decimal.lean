import GameNight.Proofs.Number.Digits
import GameNight.Proofs.Number.Precision

/-!
# GameNight.Proofs.Number.Decimal

The size of a decimal, in units, and the magnitude nearest to it.
-/

namespace GameNight

open Magnitude (one infinity nearestTo nearestTo_div nearestTo_mono)

theorem powerOfTen_pos (k : Nat) : 0 < powerOfTen k := Nat.pow_pos (Nat.succ_pos 9)

theorem cast_powerOfTen (k : Nat) : ((powerOfTen k : Nat) : ℚ) = 10 ^ k := by
  rw [powerOfTen, Nat.pow_eq]
  push_cast
  rfl

theorem Magnitude.cast_one_pos : (0 : ℚ) < one := Nat.cast_pos.mpr (by decide)

namespace Decimal

/-- The number a decimal stands for, in units. -/
def size (d : Decimal) : ℚ := d.significand * 10 ^ d.exponent * one

variable {d : Decimal}

end Decimal

end GameNight
