/-!
# GameNight.Number.Magnitude

The size of a double-precision number, without its sign.

A magnitude is the 63-bit code of such a size: eleven bits of exponent above
fifty-two bits of fraction.  The codes are ordered as the sizes are, and every
finite size is a whole number of *units* of 2⁻¹⁰⁷⁴, so `units` and `round`
settle all of the arithmetic in natural numbers:

* `units` gives the exact size of a finite code;
* `round` gives the code nearest to a quotient of natural numbers, a tie going
  to the even code, and infinity from half a step above the largest finite
  size on.
-/

namespace GameNight.Magnitude

/-- Codes lie below 2⁶³, so that a sign fits beside them. -/
def limit : Nat := 1 <<< 63

/-- Fractions lie below 2⁵². -/
def fractionLimit : Nat := 1 <<< 52

/-- The code of infinity.  The codes above it are no numbers. -/
def infinity : Nat := 2047 * fractionLimit

/-- Units in the number one. -/
def one : Nat := 1 <<< 1074

/-- The exact size of a finite code, in units. -/
def units (code : Nat) : Nat :=
  let exponent := code / fractionLimit
  let fraction := code % fractionLimit
  if exponent = 0 then fraction else (fractionLimit + fraction) <<< (exponent - 1)

/-- The natural number nearest to a quotient, a half going to the even one. -/
def roundDiv (num den : Nat) : Nat :=
  let q := num / den
  let r := num % den
  if 2 * r < den ∨ (2 * r = den ∧ q % 2 = 0) then q else q + 1

/-- The code nearest to `num / den` units.

The quotient is rounded at the weight of its fifty-third binary digit, so that
the rounded significand, added to `step` whole fraction ranges, *is* the code:
a carry out of the significand moves on to the next exponent by itself. -/
def round (num den : Nat) : Nat :=
  let step := (num / den).log2 + 1 - 53
  min infinity (step * fractionLimit + roundDiv num (den <<< step))

/-- The code nearest to a natural number. -/
def ofNat (n : Nat) : Nat := round (n * one) 1

/-- The code nearest to the product of two finite sizes. -/
def mul (a b : Nat) : Nat := round (units a * units b) one

/-- The code nearest to the quotient of two finite sizes. -/
def div (a b : Nat) : Nat := round (units a * one) (units b)

/-! ## bounds -/

theorem round_le_infinity (num den : Nat) : round num den ≤ infinity := Nat.min_le_left _ _

theorem infinity_lt : infinity < limit := by decide

/-- A rounded code fits beside a sign. -/
theorem round_lt (num den : Nat) : round num den < limit :=
  Nat.lt_of_le_of_lt (round_le_infinity num den) infinity_lt

@[simp] theorem units_zero : units 0 = 0 := rfl

end GameNight.Magnitude
