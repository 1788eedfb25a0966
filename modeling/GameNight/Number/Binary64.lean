import GameNight.Number.Magnitude

/-!
# GameNight.Number.Binary64

Double-precision numbers as sign and magnitude.

The type tells apart everything the 64 bits tell apart: the two zeros, the
infinities, and every NaN with its sign and payload, so equality of values is
equality of bits.  Three relations are built on it:

* `=` — the same bits, which is how records are compared;
* `totalCompare` — the order of listings, in which every value has a place;
* `compare?` — the order of numbers, in which the two zeros are equal and a
  NaN stands beside nothing.
-/

namespace GameNight

/-- A double-precision number: a sign and the 63-bit code of its size. -/
structure Binary64 where
  negative : Bool
  magnitude : Nat
  magnitude_lt : magnitude < Magnitude.limit := by decide
deriving DecidableEq

namespace Binary64

instance : Inhabited Binary64 := ⟨⟨false, 0, by decide⟩⟩

/-! ## bits -/

/-- The number with the given 64 bits. -/
def ofBits (bits : UInt64) : Binary64 :=
  ⟨Magnitude.limit ≤ bits.toNat, bits.toNat % Magnitude.limit, Nat.mod_lt _ (by decide)⟩

/-- The 64 bits of a number. -/
def toBits (x : Binary64) : UInt64 :=
  .ofNat ((if x.negative then Magnitude.limit else 0) + x.magnitude)

theorem toNat_toBits (x : Binary64) :
    x.toBits.toNat = (if x.negative then Magnitude.limit else 0) + x.magnitude := by
  have := x.magnitude_lt
  have hl : Magnitude.limit = 0x8000000000000000 := by decide
  rw [toBits, UInt64.toNat_ofNat', Nat.mod_eq_of_lt]
  split <;> omega

@[simp] theorem ofBits_toBits (x : Binary64) : ofBits x.toBits = x := by
  have hn := toNat_toBits x
  obtain ⟨s, m, h⟩ := x
  cases s
  · rw [if_neg Bool.false_ne_true] at hn
    simp only [ofBits, hn, mk.injEq, decide_eq_false_iff_not]
    rw [Nat.zero_add]
    exact ⟨Nat.not_le.mpr h, Nat.mod_eq_of_lt h⟩
  · rw [if_pos rfl] at hn
    simp only [ofBits, hn, mk.injEq, decide_eq_true_eq]
    exact ⟨Nat.le_add_right _ _, by rw [Nat.add_mod_left, Nat.mod_eq_of_lt h]⟩

@[simp] theorem toBits_ofBits (bits : UInt64) : (ofBits bits).toBits = bits := by
  apply UInt64.toNat_inj.mp
  have := bits.toNat_lt
  have hl : Magnitude.limit = 0x8000000000000000 := by decide
  rw [toNat_toBits]
  simp only [ofBits, decide_eq_true_eq, hl]
  split <;> omega

theorem toBits_inj {x y : Binary64} : x.toBits = y.toBits ↔ x = y := by
  constructor
  · intro h
    rw [← ofBits_toBits x, h, ofBits_toBits]
  · rintro rfl
    rfl

/-! ## classes -/

def isNaN (x : Binary64) : Bool := Magnitude.infinity < x.magnitude

def isInfinite (x : Binary64) : Bool := x.magnitude == Magnitude.infinity

def isFinite (x : Binary64) : Bool := x.magnitude < Magnitude.infinity

theorem isNaN_of_isFinite {x : Binary64} (h : x.isFinite = true) : x.isNaN = false := by
  simp only [isFinite, isNaN, decide_eq_true_eq, decide_eq_false_iff_not] at *
  omega

theorem isInfinite_of_isFinite {x : Binary64} (h : x.isFinite = true) :
    x.isInfinite = false := by
  simp only [isFinite, isInfinite, decide_eq_true_eq, beq_eq_false_iff_ne] at *
  omega

/-- The number with a sign and the size `num / den` units, rounded. -/
def ofUnits (negative : Bool) (num den : Nat) : Binary64 :=
  ⟨negative, Magnitude.round num den, Magnitude.round_lt num den⟩

/-- Positive infinity. -/
def infinity : Binary64 := ⟨false, Magnitude.infinity, Magnitude.infinity_lt⟩

/-- A value that is no number. -/
def nan : Binary64 := ⟨false, Magnitude.infinity + Magnitude.fractionLimit / 2, by decide⟩

/-- The zero without a sign. -/
def zero : Binary64 := ⟨false, 0, by decide⟩

/-! ## the order of listings -/

/-- A whole number for every value: NaNs lie outside the infinities, and the
negative zero just below the positive one. -/
def totalKey (x : Binary64) : Int :=
  if x.negative then -(x.magnitude : Int) - 1 else x.magnitude

/-- The order in which every value has its place. -/
def totalCompare (x y : Binary64) : Ordering := compare x.totalKey y.totalKey

instance : Std.TransCmp totalCompare := inferInstanceAs (Std.TransCmp (compareOn totalKey))

theorem totalKey_inj {x y : Binary64} (h : x.totalKey = y.totalKey) : x = y := by
  obtain ⟨s, m, _⟩ := x
  obtain ⟨t, n, _⟩ := y
  cases s <;> cases t <;> simp only [totalKey] at h <;> simp at h ⊢ <;> omega

/-- Only equal values share a place. -/
theorem totalCompare_eq_iff {x y : Binary64} : totalCompare x y = .eq ↔ x = y :=
  ⟨fun h => totalKey_inj (Std.compare_eq_iff_eq.mp h), fun h => h ▸ Std.ReflCmp.compare_self⟩

/-! ## the order of numbers -/

/-- A whole number that orders the values that are numbers; both zeros get 0. -/
def valueKey (x : Binary64) : Int := if x.negative then -(x.magnitude : Int) else x.magnitude

/-- How two numbers compare; a NaN compares to nothing. -/
def compare? (x y : Binary64) : Option Ordering :=
  if x.isNaN || y.isNaN then none else some (compare x.valueKey y.valueKey)

/-- Whether `x` is below `y`. -/
def lt (x y : Binary64) : Bool := x.compare? y == some .lt

/-- Whether `x` is not above `y`, both being numbers. -/
def le (x y : Binary64) : Bool := (x.compare? y).any (·.isLE)

/-- The finite numbers above zero are those without a minus sign that are not zero. -/
theorem zero_lt_iff {x : Binary64} (hx : x.isFinite = true) :
    zero.lt x = true ↔ x.negative = false ∧ x.magnitude ≠ 0 := by
  have hzero : zero.isNaN = false := by decide
  have hkey : zero.valueKey = 0 := by decide
  rw [lt, compare?, isNaN_of_isFinite hx, hzero, hkey]
  cases hneg : x.negative
  · simp [valueKey, hneg, Int.compare_eq_lt]
    omega
  · simp [valueKey, hneg, Int.compare_eq_lt]

/-! ## distance -/

/-- The exact value of a finite number, in units of 2⁻¹⁰⁷⁴. -/
def units (x : Binary64) : Int :=
  if x.negative then -(Magnitude.units x.magnitude : Int) else Magnitude.units x.magnitude

/-- The distance of two numbers: the size of their difference, rounded once.
There is none from a NaN, nor between equal infinities. -/
def distance (x y : Binary64) : Binary64 :=
  if x.isNaN || y.isNaN then nan
  else if x.isInfinite || y.isInfinite then
    if x = y then nan else infinity
  else ofUnits false (x.units - y.units).natAbs 1

end Binary64

end GameNight
