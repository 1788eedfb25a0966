import GameNight.Number.Numeral

/-!
# GameNight.Json.Amount

Numbers in JSON text: how they are written, and which double-precision number
a written one stands for.

Reading is quick rather than exact.  The leading digits that fit a word of 64
bits make the significand; later digits of the whole part count only for the
power of ten, and those of the fraction not at all.  The rounded significand is
then multiplied by, or divided by, the rounded power of ten.  Short numbers
with small powers come out as the nearest number; a long one may come out as a
neighbour of it.
-/

namespace GameNight.Json

/-- Numbers are written without a power of ten for leading digits of weight
`10⁻⁵` to `10¹⁵`, always with a point, and the even one is taken of two
decimals just as short and just as near. -/
def amount : Layout := ⟨.even, fun weight => -5 ≤ weight && weight < 16, true⟩

end GameNight.Json

namespace GameNight.Magnitude

/-! ## powers of ten -/

/-- The largest power of ten that is a finite number. -/
def largestPower : Nat := 308

/-- The magnitude nearest to a power of ten. -/
def tenTo (power : Nat) : Nat := ofNat (powerOfTen power)

/-- A magnitude divided by a power of ten, in steps of the largest one. -/
def scaleDown (m power : Nat) : Nat :=
  if power ≤ largestPower then div m (tenTo power)
  else if m = 0 then 0
  else scaleDown (div m (tenTo largestPower)) (power - largestPower)
termination_by power
decreasing_by simp only [largestPower] at *; omega

/-- A magnitude multiplied by a power of ten, if the product is finite. -/
def scaleUp? (m power : Nat) : Option Nat :=
  if power ≤ largestPower then
    let product := mul m (tenTo power)
    if product = infinity then none else some product
  else if m = 0 then some 0
  else none

theorem scaleDown_lt (m power : Nat) : scaleDown m power < limit := by
  fun_induction scaleDown m power with
  | case1 => exact round_lt _ _
  | case2 => decide
  | case3 => assumption

theorem lt_of_scaleUp? {m power r : Nat} (h : scaleUp? m power = some r) : r < limit := by
  simp only [scaleUp?] at h
  split at h
  · obtain ⟨-, h⟩ := Option.ite_none_left_eq_some.mp h
    exact Option.some.inj h ▸ round_lt _ _
  · obtain ⟨-, h⟩ := Option.ite_none_right_eq_some.mp h
    exact Option.some.inj h ▸ by decide

end GameNight.Magnitude

namespace GameNight.Numeral

/-! ## scanning -/

/-- The power of ten a text begins with, if there is one. -/
def scanExponent? (cs : List Char) : Option (Option Int × List Char) :=
  match cs with
  | [] => some (none, [])
  | c :: rest =>
    if c = 'e' ∨ c = 'E' then
      let (negative, ds) := splitSign rest
      let run := ds.takeWhile Char.isDigit
      if run = [] then none
      else
        let n := digitsValue run
        some (some (if negative then -(n : Int) else n), ds.dropWhile Char.isDigit)
    else some (none, cs)

/-- The fraction a text begins with, if there is one.  A point needs a digit
after it. -/
def scanFraction? (cs : List Char) : Option (List Char × List Char) :=
  match cs with
  | '.' :: ds =>
    let run := ds.takeWhile Char.isDigit
    if run = [] then none else some (run, ds.dropWhile Char.isDigit)
  | _ => some ([], cs)

/-- The whole part a text begins with.  It starts with a zero only when it is
zero. -/
def scanWhole? (cs : List Char) : Option (List Char × List Char) :=
  let run := cs.takeWhile Char.isDigit
  if run = [] ∨ (run.head? = some '0' ∧ run ≠ ['0']) then none
  else some (run, cs.dropWhile Char.isDigit)

/-- The sign a text begins with; a plus sign is not one. -/
def scanMinus : List Char → Bool × List Char
  | '-' :: cs => (true, cs)
  | cs => (false, cs)

/-- The number a text begins with, and what follows it. -/
def scan? (cs : List Char) : Option (Numeral × List Char) := do
  let (negative, cs) := scanMinus cs
  let (whole, cs) ← scanWhole? cs
  let (fraction, cs) ← scanFraction? cs
  let (exponent, cs) ← scanExponent? cs
  return (⟨negative, whole, fraction, exponent⟩, cs)

/-! ## whole numbers -/

/-- The whole number a numeral stands for, if it is written as one.  A zero
with a minus sign is no whole number. -/
def toInt? (n : Numeral) : Option Int :=
  let size := digitsValue n.whole
  if n.fraction ≠ [] ∨ n.exponent ≠ none ∨ (n.negative ∧ size = 0) then none
  else some (if n.negative then -(size : Int) else size)

/-- A natural number below `limit`. -/
def toNat? (limit : Nat) (n : Numeral) : Option Nat :=
  (n.toInt?.filter fun i : Int => 0 ≤ i ∧ i < limit).map Int.toNat

/-! ## double-precision numbers -/

/-- Adds digits to a significand while it stays below 2⁶⁴: the significand,
and how many digits were added. -/
def extend (significand : Nat) : List Char → Nat × Nat
  | [] => (significand, 0)
  | c :: cs =>
    let next := 10 * significand + digitValue c
    if 0x10000000000000000 ≤ next then (significand, 0)
    else
      let (s, n) := extend next cs
      (s, n + 1)

/-- The leading digits of a numeral that fit a word, with their power of ten. -/
def leading (n : Numeral) : Decimal :=
  let (s, taken) := extend 0 n.whole
  let (s, more) := extend s n.fraction
  ⟨s, (n.whole.length - taken : Nat) - (more : Int) + n.exponent.getD 0⟩

/-- The magnitude of a numeral, if it is finite. -/
def magnitude? (n : Numeral) : Option Nat :=
  let d := n.leading
  let m := Magnitude.ofNat d.significand
  if 0 ≤ d.exponent then Magnitude.scaleUp? m d.exponent.toNat
  else some (Magnitude.scaleDown m d.exponent.natAbs)

/-- A finite magnitude fits beside a sign. -/
theorem lt_of_magnitude? {n : Numeral} {m : Nat} (h : n.magnitude? = some m) :
    m < Magnitude.limit := by
  simp only [magnitude?] at h
  split at h
  · exact Magnitude.lt_of_scaleUp? h
  · exact Option.some.inj h ▸ Magnitude.scaleDown_lt _ _

/-- The double-precision number a numeral stands for, if it is finite. -/
def toBinary64? (n : Numeral) : Option Binary64 :=
  match h : n.magnitude? with
  | some m => some ⟨n.negative, m, lt_of_magnitude? h⟩
  | none => none

end GameNight.Numeral
