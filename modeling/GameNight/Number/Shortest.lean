import GameNight.Number.Decimal

/-!
# GameNight.Number.Shortest

The fewest decimal digits that read back as the same magnitude.

Every real number nearer to a magnitude than to its neighbours reads back as
it; these numbers form an interval around its exact size, with its two ends
when the code is even, because a tie goes to the even code.  `shortest` lays
ever finer decimal grids over the interval, of one digit, two digits and so
on, and tests the two grid points next to the exact size: if any point of a
grid lies in the interval, one of these two does.

All comparisons are made in natural numbers, in *grains* of
2⁻¹⁰⁷⁶ · 10⁻³⁴⁰: a quarter of a unit, so that the ends of the interval are
whole, divided so finely that the points of every grid needed are whole too.
-/

namespace GameNight

/-- Which of two decimals just as near is taken: the one whose last digit is
even, or the larger one. -/
inductive Tie where
  | even
  | away
deriving DecidableEq, Repr

namespace Shortest

/-- Digits after the point at which the finest grid ends. -/
def places : Nat := 340

/-- Grains in a quarter of a unit. -/
def quarter : Nat := powerOfTen places

/-- Grains in the number 10⁻³⁴⁰. -/
def finest : Nat := 4 * Magnitude.one

/-- The exact size of a magnitude, in grains. -/
def exact (code : Nat) : Nat := 4 * Magnitude.units code * quarter

/-- Half the distance to the next larger magnitude, in grains. -/
def halfAbove (code : Nat) : Nat :=
  2 <<< (code / Magnitude.fractionLimit - 1) * quarter

/-- Half the distance to the next smaller magnitude, in grains.  Below a power
of two the magnitudes lie twice as densely. -/
def halfBelow (code : Nat) : Nat :=
  if code % Magnitude.fractionLimit = 0 ∧ 1 < code / Magnitude.fractionLimit then
    halfAbove code / 2
  else halfAbove code

/-- Whether a number of grains reads back as the magnitude. -/
def readsBack (code grains : Nat) : Bool :=
  if code % 2 = 0 then
    exact code - halfBelow code ≤ grains && grains ≤ exact code + halfAbove code
  else exact code - halfBelow code < grains && grains < exact code + halfAbove code

/-- The grid point to take among those next to the exact size, if one of them
reads back: of two the nearer, and of two just as near the one `tie` says.
The grid has its points at the multiples of `step` grains. -/
def onGrid? (tie : Tie) (code step : Nat) : Option Nat :=
  let below := exact code / step
  let above := below + 1
  match readsBack code (below * step), readsBack code (above * step) with
  | false, false => none
  | true, false => some below
  | false, true => some above
  | true, true =>
    match compare (2 * exact code) ((below + above) * step), tie with
    | .lt, _ => some below
    | .gt, _ => some above
    | .eq, .even => some (if below % 2 = 0 then below else above)
    | .eq, .away => some above

end Shortest

namespace Decimal

/-- The same number with no trailing zero in its significand. -/
def strip (d : Decimal) : Decimal :=
  if h : d.significand ≠ 0 ∧ d.significand % 10 = 0 then
    strip ⟨d.significand / 10, d.exponent + 1⟩
  else d
termination_by d.significand
decreasing_by omega

/-- The exact size of a finite magnitude: 2⁻¹⁰⁷⁴ is 5¹⁰⁷⁴ · 10⁻¹⁰⁷⁴. -/
def exact (code : Nat) : Decimal := ⟨Magnitude.units code * Nat.pow 5 1074, -1074⟩

/-- The decimal with the fewest digits that reads back as a finite magnitude,
and of those the nearest.  Seventeen digits always suffice. -/
def shortest (tie : Tie) (code : Nat) : Decimal :=
  if code = 0 then ⟨0, 0⟩
  else
    let leading := (digits (Shortest.exact code / Shortest.finest)).length - 1
    let found := (List.range 17).findSome? fun more =>
      let place := leading - more
      (Shortest.onGrid? tie code (powerOfTen place * Shortest.finest)).map fun n =>
        (⟨n, (place : Int) - Shortest.places⟩ : Decimal)
    (found.getD (exact code)).strip

end Decimal

end GameNight
