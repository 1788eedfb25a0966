import GameNight.Number.Binary64

/-!
# GameNight.Number.Decimal

Numbers written in decimal digits.

* `digitsValue` — the natural number a run of digits stands for;
* `integer?` — whole numbers: an optional sign and at least one digit;
* `Decimal` — a significand and a power of ten, with the double-precision
  number nearest to it;
* `decimal?` — decimal fractions: an optional sign, digits with an optional
  point among or beside them, and an optional power of ten.

Only the ten ASCII digits count as digits, and nothing may stand before or
after the number: a reader trims first if it allows white space.
-/

namespace GameNight

/-! ## digits -/

/-- The value of one decimal digit. -/
def digitValue (c : Char) : Nat := c.toNat - '0'.toNat

/-- The natural number that digits stand for, the most significant first. -/
def digitsValue (ds : List Char) : Nat := ds.foldl (fun n c => 10 * n + digitValue c) 0

/-- The decimal digits of a natural number. -/
def digits (n : Nat) : List Char := Nat.toDigits 10 n

/-- Ten to a power. -/
def powerOfTen (k : Nat) : Nat := Nat.pow 10 k

/-- The sign in front of a number, and what follows it. -/
def splitSign : List Char → Bool × List Char
  | '-' :: cs => (true, cs)
  | '+' :: cs => (false, cs)
  | cs => (false, cs)

/-! ## whole numbers -/

/-- Reads digits, at least one, to the end of the text. -/
def natural? (cs : List Char) : Option Nat :=
  if cs ≠ [] ∧ cs.all Char.isDigit then some (digitsValue cs) else none

/-- Reads a whole number with an optional sign. -/
def integer? (cs : List Char) : Option Int :=
  let (negative, ds) := splitSign cs
  (natural? ds).map fun n => if negative then -(n : Int) else n

/-- Reads a whole number that fits a signed word of 64 bits. -/
def word? (cs : List Char) : Option Int :=
  (integer? cs).filter fun n => -0x8000000000000000 ≤ n ∧ n < 0x8000000000000000

/-- Reads a natural number with an optional plus sign that fits an unsigned
word of 64 bits. -/
def position? (cs : List Char) : Option Nat :=
  let ds := match cs with
    | '+' :: ds => ds
    | ds => ds
  (natural? ds).filter (· < 0x10000000000000000)

/-! ## decimal fractions -/

/-- The number `significand · 10 ^ exponent`. -/
structure Decimal where
  significand : Nat
  exponent : Int
deriving DecidableEq, Repr

namespace Decimal

/-- One more than the power of ten of the leading digit: the number lies below
ten to this power, and not below a tenth of that. -/
def order (d : Decimal) : Int := (digits d.significand).length + d.exponent

/-- The magnitude nearest to the number.  Beyond the orders that have finite
magnitudes the answer needs no arithmetic. -/
def magnitude (d : Decimal) : Nat :=
  if d.significand = 0 then 0
  else if 310 < d.order then Magnitude.infinity
  else if d.order < -330 then 0
  else if 0 ≤ d.exponent then
    Magnitude.round (d.significand * powerOfTen d.exponent.toNat * Magnitude.one) 1
  else Magnitude.round (d.significand * Magnitude.one) (powerOfTen (-d.exponent).toNat)

theorem magnitude_lt (d : Decimal) : d.magnitude < Magnitude.limit := by
  have := Magnitude.infinity_lt
  have := fun n m => Magnitude.round_lt n m
  unfold magnitude
  split
  · decide
  split
  · assumption
  split
  · decide
  split <;> apply this

/-- The number nearest to a signed decimal fraction. -/
def toBinary64 (negative : Bool) (d : Decimal) : Binary64 :=
  ⟨negative, d.magnitude, d.magnitude_lt⟩

end Decimal

/-- Reads a power of ten, if one is written, to the end of the text. -/
def exponent? : List Char → Option Int
  | [] => some 0
  | c :: cs => if c = 'e' ∨ c = 'E' then integer? cs else none

/-- Reads a signed decimal fraction. -/
def decimal? (cs : List Char) : Option (Bool × Decimal) :=
  let (negative, cs) := splitSign cs
  let whole := cs.takeWhile Char.isDigit
  let rest := cs.dropWhile Char.isDigit
  let (fraction, rest) := match rest with
    | '.' :: rest => (rest.takeWhile Char.isDigit, rest.dropWhile Char.isDigit)
    | rest => ([], rest)
  if whole = [] ∧ fraction = [] then none
  else (exponent? rest).map fun e =>
    (negative, ⟨digitsValue (whole ++ fraction), e - fraction.length⟩)

/-- Reads the finite number nearest to a decimal fraction. -/
def finite? (cs : List Char) : Option Binary64 :=
  (decimal? cs).map (fun (s, d) => d.toBinary64 s) |>.filter Binary64.isFinite

end GameNight
