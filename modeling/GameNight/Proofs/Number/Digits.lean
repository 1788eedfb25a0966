import GameNight.Number.Decimal
import Mathlib.Tactic.Ring

/-!
# GameNight.Proofs.Number.Digits

The decimal digits of a natural number: what they stand for, how many they are, and that the first
of them is a zero only when the number is zero.  A person may write more zeros in front (`Writes`).
-/

namespace GameNight

theorem digitsValue_eq (ds : List Char) : digitsValue ds = Nat.ofDigitChars 10 ds 0 := by
  rw [Nat.ofDigitChars_eq_foldl]
  rfl

@[simp] theorem digitsValue_digits (n : Nat) : digitsValue (digits n) = n := by
  rw [digitsValue_eq, digits, Nat.ofDigitChars_ten_toDigits]

@[simp] theorem digitsValue_nil : digitsValue [] = 0 := rfl

theorem digitsValue_append (ds es : List Char) :
    digitsValue (ds ++ es) = 10 ^ es.length * digitsValue ds + digitsValue es := by
  simp only [digitsValue_eq]
  rw [Nat.ofDigitChars_append, Nat.ofDigitChars_eq_ofDigitChars_zero]

@[simp] theorem digitsValue_replicate_zero (k : Nat) : digitsValue (.replicate k '0') = 0 := by
  rw [digitsValue_eq, Nat.ofDigitChars_replicate_zero, Nat.mul_zero]

/-- Zeros in front of digits do not count. -/
@[simp] theorem digitsValue_zeros_append (k : Nat) (ds : List Char) :
    digitsValue (.replicate k '0' ++ ds) = digitsValue ds := by
  simp [digitsValue_append]

theorem digitValue_lt {c : Char} (h : c.isDigit = true) : digitValue c < 10 := by
  have hle : c.toNat ≤ 57 := (Char.isDigit_iff_toNat.mp h).2
  rw [digitValue, show '0'.toNat = 48 from rfl]
  omega

theorem digitsValue_lt {ds : List Char} (h : ∀ c ∈ ds, c.isDigit = true) :
    digitsValue ds < 10 ^ ds.length := by
  induction ds with
  | nil => simp
  | cons c ds ih =>
    have hc := digitValue_lt (h c List.mem_cons_self)
    have hds := ih fun d hd => h d (List.mem_cons_of_mem c hd)
    have hcons : digitsValue (c :: ds) = 10 ^ ds.length * digitValue c + digitsValue ds := by
      rw [← List.singleton_append, digitsValue_append]
      simp [digitsValue]
    calc
      digitsValue (c :: ds) < 10 ^ ds.length * digitValue c + 10 ^ ds.length := by
        rw [hcons]
        exact Nat.add_lt_add_left hds _
      _ = 10 ^ ds.length * (digitValue c + 1) := by ring
      _ ≤ 10 ^ ds.length * 10 := Nat.mul_le_mul_left _ hc
      _ = 10 ^ (c :: ds).length := (Nat.pow_succ ..).symm

/-! ## the digits of a number -/

theorem isDigit_of_mem_digits {n : Nat} {c : Char} (h : c ∈ digits n) : c.isDigit = true :=
  Nat.isDigit_of_mem_toDigits (by decide) (by decide) h

/-- Text that writes a natural number: its digits, with any number of zeros in front. -/
structure Writes (ds : List Char) (n : Nat) : Prop where
  ne_nil : ds ≠ []
  isDigit : ∀ c ∈ ds, c.isDigit = true
  value_eq : digitsValue ds = n

/-- What is read as a natural number is what writes one. -/
theorem natural?_eq_some_iff {ds : List Char} {n : Nat} : natural? ds = some n ↔ Writes ds n := by
  rw [natural?]
  constructor
  · intro h
    split at h
    · next hds => exact ⟨hds.1, List.all_eq_true.mp hds.2, Option.some.inj h⟩
    · contradiction
  · rintro ⟨hne, hdigits, hvalue⟩
    rw [if_pos ⟨hne, List.all_eq_true.mpr hdigits⟩, hvalue]

instance (ds : List Char) (n : Nat) : Decidable (Writes ds n) :=
  decidable_of_iff _ natural?_eq_some_iff

theorem length_digits_pos (n : Nat) : 0 < (digits n).length := Nat.length_toDigits_pos

theorem digits_ne_nil (n : Nat) : digits n ≠ [] := List.ne_nil_of_length_pos (length_digits_pos n)

theorem writes_digits (n : Nat) : Writes (digits n) n where
  ne_nil := digits_ne_nil n
  isDigit _ hc := isDigit_of_mem_digits hc
  value_eq := digitsValue_digits n

theorem length_digits_le_iff {n k : Nat} (hk : 0 < k) : (digits n).length ≤ k ↔ n < 10 ^ k :=
  Nat.length_toDigits_le_iff (by decide) hk

theorem lt_pow_length_digits (n : Nat) : n < 10 ^ (digits n).length :=
  (length_digits_le_iff (length_digits_pos n)).mp (Nat.le_refl _)

theorem pow_length_digits_le {n : Nat} (hn : 0 < n) : 10 ^ ((digits n).length - 1) ≤ n := by
  by_contra h
  have hlt := Nat.lt_of_not_le h
  rcases Nat.eq_zero_or_pos ((digits n).length - 1) with h0 | hpos
  · rw [h0, Nat.pow_zero] at hlt
    omega
  · have := (length_digits_le_iff hpos).mpr hlt
    omega

/-- Only the digits of zero begin with a zero. -/
theorem head?_digits_ne {n : Nat} (hn : 0 < n) : (digits n).head? ≠ some '0' := by
  intro h
  obtain ⟨ds, hds⟩ := List.head?_eq_some_iff.mp h
  have hvalue : digitsValue ds = n := by
    have := digitsValue_digits n
    rwa [hds, show '0' :: ds = .replicate 1 '0' ++ ds from rfl, digitsValue_zeros_append] at this
  have hlow := pow_length_digits_le hn
  rw [hds, List.length_cons, Nat.add_sub_cancel] at hlow
  have hlt : digitsValue ds < 10 ^ ds.length :=
    digitsValue_lt fun c hc => isDigit_of_mem_digits (hds ▸ List.mem_cons_of_mem '0' hc)
  omega

end GameNight
