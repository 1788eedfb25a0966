import GameNight.Number.Shortest

/-!
# GameNight.Number.Numeral

The written form of a number: its sign, the digits before and after the point,
and the power of ten if one is written.

A `Layout` holds the choices one output format makes when it writes a
double-precision number; the digits themselves are the fewest that read back.
-/

namespace GameNight

/-- A number as it is written.  No digits after the point means no point. -/
structure Numeral where
  negative : Bool
  whole : List Char
  fraction : List Char
  exponent : Option Int
deriving DecidableEq, Repr

namespace Numeral

/-- A whole number, written without point and power. -/
def ofInt (n : Int) : Numeral := ⟨n < 0, digits n.natAbs, [], none⟩

/-- A written power of ten always has a sign. -/
def renderExponent (e : Int) : List Char :=
  'e' :: (if e < 0 then '-' else '+') :: digits e.natAbs

/-- The characters of a number. -/
def render (n : Numeral) : List Char :=
  (if n.negative then ['-'] else []) ++ n.whole ++
    (if n.fraction = [] then [] else '.' :: n.fraction) ++
    (match n.exponent with
      | some e => renderExponent e
      | none => [])

end Numeral

/-- How a format writes double-precision numbers. -/
structure Layout where
  /-- The choice between two equally short and equally near decimals. -/
  tie : Tie
  /-- The powers of ten of a leading digit for which the number is written
  without a power of ten. -/
  positional : Int → Bool
  /-- Whether a whole number written without a power gets the fraction `.0`. -/
  pointZero : Bool

namespace Layout

/-- Digits around the point, for a leading digit of weight `10 ^ weight`. -/
def aroundPoint (weight : Int) (ds : List Char) : List Char × List Char :=
  if weight < 0 then (['0'], .replicate (weight.natAbs - 1) '0' ++ ds)
  else
    let n := weight.toNat + 1
    (ds.take n ++ .replicate (n - ds.length) '0', ds.drop n)

/-- The written form of a finite number. -/
def numeral (l : Layout) (x : Binary64) : Numeral :=
  let d := Decimal.shortest l.tie x.magnitude
  let ds := digits d.significand
  let weight := d.order - 1
  if l.positional weight then
    let (whole, fraction) := aroundPoint weight ds
    ⟨x.negative, whole, if fraction = [] ∧ l.pointZero then ['0'] else fraction, none⟩
  else ⟨x.negative, ds.take 1, ds.drop 1, some weight⟩

end Layout

end GameNight
