import GameNight.Number.Magnitude
import Mathlib.Tactic.Ring

/-!
# GameNight.Proofs.Number.Rounding

Rounding a quotient to a magnitude.

Twice the middle between the size of a code and the next larger one is a whole number of units, so
that the quotients rounded to a code are told by two comparisons of natural numbers
(`nearest_le_iff`): those up to the middle above it, the middle itself only when the code is even.
That rounding is monotone, that it takes the size of a code to the code, and that it moves a
quotient by at most one part in 2⁵³, follow from these comparisons.
-/

namespace GameNight.Magnitude

/-! ## sizes of codes -/

/-- The distance from a code's size to the next larger one, in units. -/
def gap (code : Nat) : Nat := 2 ^ (code / fractionLimit - 1)

theorem gap_pos (c : Nat) : 0 < gap c := Nat.two_pow_pos _

theorem fractionLimit_pos : 0 < fractionLimit := by decide

theorem units_mul_add {r : Nat} (e : Nat) (hr : r < fractionLimit) :
    units (e * fractionLimit + r) = if e = 0 then r else (fractionLimit + r) * 2 ^ (e - 1) := by
  have hdiv : (e * fractionLimit + r) / fractionLimit = e := by
    rw [Nat.mul_comm, Nat.mul_add_div fractionLimit_pos, Nat.div_eq_of_lt hr, Nat.add_zero]
  have hmod : (e * fractionLimit + r) % fractionLimit = r := by
    rw [Nat.mul_comm, Nat.mul_add_mod, Nat.mod_eq_of_lt hr]
  simp only [units, hdiv, hmod, Nat.shiftLeft_eq]

/-- A significand and a power of two that belong together in a code. -/
structure Scaled (significand scale : Nat) : Prop where
  lt : significand < 2 * fractionLimit
  normal : scale = 0 ∨ fractionLimit ≤ significand

theorem Scaled.units_eq {s e : Nat} (h : Scaled s e) :
    units (e * fractionLimit + s) = s * 2 ^ e := by
  obtain ⟨hlt, hnormal⟩ := h
  rcases Nat.lt_or_ge s fractionLimit with hs | hs
  · obtain rfl : e = 0 := by omega
    rw [units_mul_add 0 hs, if_pos rfl, Nat.pow_zero, Nat.mul_one]
  · have he : e * fractionLimit + s = (e + 1) * fractionLimit + (s - fractionLimit) := by
      rw [Nat.succ_mul]
      omega
    rw [he, units_mul_add (e + 1) (by omega), if_neg (Nat.succ_ne_zero e),
      Nat.add_sub_cancel' hs, Nat.add_sub_cancel]

theorem Scaled.gap_eq {s e : Nat} (h : Scaled s e) : gap (e * fractionLimit + s) = 2 ^ e := by
  obtain ⟨hlt, hnormal⟩ := h
  rw [gap, Nat.mul_comm, Nat.mul_add_div fractionLimit_pos]
  rcases Nat.lt_or_ge s fractionLimit with hs | hs
  · obtain rfl : e = 0 := by omega
    rw [Nat.div_eq_of_lt hs]
  · have hdiv : s / fractionLimit = 1 := by
      rw [Nat.div_eq_iff fractionLimit_pos]
      omega
    rw [hdiv, Nat.add_sub_cancel]

/-- Every code is the code of a significand and a power of two. -/
theorem exists_scaled (c : Nat) : ∃ s e, Scaled s e ∧ c = e * fractionLimit + s := by
  have hmod := Nat.mod_lt c fractionLimit_pos
  have hdiv := Nat.div_add_mod c fractionLimit
  rw [Nat.mul_comm] at hdiv
  rcases Nat.eq_zero_or_pos (c / fractionLimit) with he | he
  · rw [he, Nat.zero_mul, Nat.zero_add] at hdiv
    exact ⟨c, 0, ⟨by omega, .inl rfl⟩, by omega⟩
  · refine ⟨fractionLimit + c % fractionLimit, c / fractionLimit - 1,
      ⟨by omega, .inr (by omega)⟩, ?_⟩
    rw [Nat.sub_mul]
    have : fractionLimit ≤ c / fractionLimit * fractionLimit := Nat.le_mul_of_pos_left _ he
    omega

theorem units_add_one (c : Nat) : units (c + 1) = units c + gap c := by
  obtain ⟨s, e, h, rfl⟩ := exists_scaled c
  rw [h.units_eq, h.gap_eq]
  rcases Nat.lt_or_ge (s + 1) (2 * fractionLimit) with hs | hs
  · have hnext : Scaled (s + 1) e := ⟨hs, h.normal.imp_right Nat.le_succ_of_le⟩
    rw [Nat.add_assoc, hnext.units_eq, Nat.succ_mul]
  · -- the significand is the largest one, so the next code has the next power
    have hpos := fractionLimit_pos
    have hnext : Scaled fractionLimit (e + 1) := ⟨by omega, .inr (Nat.le_refl _)⟩
    have hlast : s + 1 = 2 * fractionLimit := Nat.le_antisymm h.lt hs
    have he : e * fractionLimit + s + 1 = (e + 1) * fractionLimit + fractionLimit := by
      rw [Nat.add_assoc, hlast]
      ring
    calc
      units (e * fractionLimit + s + 1) = fractionLimit * 2 ^ (e + 1) := by rw [he, hnext.units_eq]
      _ = (s + 1) * 2 ^ e := by rw [hlast, Nat.pow_succ]; ring
      _ = s * 2 ^ e + 2 ^ e := Nat.succ_mul _ _

theorem units_lt_units {a b : Nat} (h : a < b) : units a < units b := by
  induction b, h using Nat.le_induction with
  | base =>
    rw [units_add_one]
    exact Nat.lt_add_of_pos_right (gap_pos a)
  | succ b _ ih =>
    rw [units_add_one]
    exact Nat.lt_add_right _ ih

theorem units_le_units {a b : Nat} (h : a ≤ b) : units a ≤ units b := by
  rcases Nat.eq_or_lt_of_le h with rfl | h
  · exact Nat.le_refl _
  · exact Nat.le_of_lt (units_lt_units h)

/-- A size and the gap above it make at most 2⁵³ gaps. -/
theorem units_add_gap_le (c : Nat) : units c + gap c ≤ 2 * fractionLimit * gap c := by
  obtain ⟨s, e, h, rfl⟩ := exists_scaled c
  rw [h.units_eq, h.gap_eq, ← Nat.succ_mul]
  exact Nat.mul_le_mul_right _ h.lt

/-- From the smallest code with a full significand on, a size is at least 2⁵² of its gaps. -/
theorem gap_le_units {c : Nat} (hc : fractionLimit ≤ c) : fractionLimit * gap c ≤ units c := by
  obtain ⟨s, e, h, rfl⟩ := exists_scaled c
  rw [h.units_eq, h.gap_eq]
  refine Nat.mul_le_mul_right _ (h.normal.elim (fun he => ?_) id)
  rw [he] at hc
  omega

/-- The code nearest to `num / den` units, had codes no end. -/
def nearest (num den : Nat) : Nat :=
  let step := (num / den).log2 + 1 - 53
  step * fractionLimit + roundDiv num (den <<< step)

theorem round_eq (num den : Nat) : round num den = min infinity (nearest num den) := rfl

theorem roundDiv_le (num : Nat) {den : Nat} (hden : 0 < den) :
    2 * num ≤ (2 * roundDiv num den + 1) * den ∧
      (2 * num = (2 * roundDiv num den + 1) * den → roundDiv num den % 2 = 0) := by
  have hmod := Nat.mod_lt num hden
  have hdiv := Nat.div_add_mod num den
  have hexpand : (2 * (num / den) + 1) * den = 2 * (den * (num / den)) + den := by ring
  unfold roundDiv
  dsimp only
  split
  · rw [hexpand]
    omega
  · rw [show (2 * (num / den + 1) + 1) * den = 2 * (den * (num / den)) + 3 * den by ring]
    omega

theorem le_roundDiv (num : Nat) {den : Nat} (hden : 0 < den) :
    2 * roundDiv num den * den ≤ 2 * num + den ∧
      (2 * roundDiv num den * den = 2 * num + den → roundDiv num den % 2 = 0) := by
  have hmod := Nat.mod_lt num hden
  have hdiv := Nat.div_add_mod num den
  unfold roundDiv
  dsimp only
  split
  · rw [show 2 * (num / den) * den = 2 * (den * (num / den)) by ring]
    omega
  · rw [show 2 * (num / den + 1) * den = 2 * (den * (num / den)) + 2 * den by ring]
    omega

/-- What rounding does, told by the significand and the scale it arrives at. -/
structure Rounds (num den s e : Nat) : Prop where
  le : s ≤ 2 * fractionLimit
  normal : e = 0 ∨ fractionLimit ≤ s ∧ fractionLimit * (den * 2 ^ e) ≤ num
  upper : 2 * num ≤ (2 * s + 1) * (den * 2 ^ e)
  upper_even : 2 * num = (2 * s + 1) * (den * 2 ^ e) → s % 2 = 0
  lower : 2 * s * (den * 2 ^ e) ≤ 2 * num + den * 2 ^ e
  lower_even : 2 * s * (den * 2 ^ e) = 2 * num + den * 2 ^ e → s % 2 = 0

theorem exists_rounds (num : Nat) {den : Nat} (hden : 0 < den) :
    ∃ s e, Rounds num den s e ∧ nearest num den = e * fractionLimit + s := by
  refine ⟨_, _, ?_, rfl⟩
  generalize he : (num / den).log2 + 1 - 53 = e
  rw [Nat.shiftLeft_eq]
  have hscaled : 0 < den * 2 ^ e := Nat.mul_pos hden (Nat.two_pow_pos e)
  have hlimit : fractionLimit = 2 ^ 52 := by decide
  -- the quotient has 53 binary digits more than the scale, or fewer
  have hlt : num < 2 * fractionLimit * (den * 2 ^ e) := by
    have hlog : num / den < 2 ^ (53 + e) :=
      Nat.lt_of_lt_of_le Nat.lt_log2_self (Nat.pow_le_pow_right (by decide) (by omega))
    rw [Nat.div_lt_iff_lt_mul hden] at hlog
    calc
      num < 2 ^ (53 + e) * den := hlog
      _ = 2 * fractionLimit * (den * 2 ^ e) := by rw [hlimit, Nat.pow_add]; ring
  have hge : e = 0 ∨ fractionLimit * (den * 2 ^ e) ≤ num := by
    rcases Nat.eq_zero_or_pos e with h | h
    · exact .inl h
    · right
      have hne : num / den ≠ 0 := by
        intro h0
        rw [h0, Nat.log2_zero] at he
        omega
      have hlog : 2 ^ (52 + e) ≤ num / den :=
        Nat.le_trans (Nat.pow_le_pow_right (by decide) (by omega)) (Nat.log2_self_le hne)
      rw [Nat.le_div_iff_mul_le hden] at hlog
      calc
        fractionLimit * (den * 2 ^ e) = 2 ^ (52 + e) * den := by rw [hlimit, Nat.pow_add]; ring
        _ ≤ num := hlog
  obtain ⟨hupper, hupper'⟩ := roundDiv_le num hscaled
  obtain ⟨hlower, hlower'⟩ := le_roundDiv num hscaled
  refine ⟨?_, hge.imp_right fun h => ⟨?_, h⟩, hupper, hupper', hlower, hlower'⟩
  · by_contra hs
    have := Nat.mul_le_mul_right (den * 2 ^ e) (Nat.lt_of_not_le hs)
    rw [Nat.succ_mul] at this
    rw [Nat.mul_assoc 2] at hlower
    omega
  · by_contra hs
    have := Nat.mul_le_mul_right (den * 2 ^ e) (Nat.lt_of_not_le hs)
    rw [Nat.succ_mul] at this
    rw [Nat.add_mul, Nat.one_mul, Nat.mul_assoc 2] at hupper
    omega

namespace Rounds

variable {num den s e : Nat}

/-- A significand that is too large by one belongs to the next power of two. -/
theorem scaled (h : Rounds num den s e) :
    Scaled s e ∨ s = 2 * fractionLimit ∧ Scaled fractionLimit (e + 1) ∧
      e * fractionLimit + s = (e + 1) * fractionLimit + fractionLimit := by
  have hpos := fractionLimit_pos
  rcases Nat.lt_or_eq_of_le h.le with hs | rfl
  · exact .inl ⟨hs, h.normal.imp_right And.left⟩
  · exact .inr ⟨rfl, ⟨by omega, .inr (Nat.le_refl _)⟩, by ring⟩

theorem units_eq (h : Rounds num den s e) : units (e * fractionLimit + s) = s * 2 ^ e := by
  rcases h.scaled with hs | ⟨rfl, hs, heq⟩
  · exact hs.units_eq
  · rw [heq, hs.units_eq, Nat.pow_succ]
    ring

theorem le_gap (h : Rounds num den s e) : 2 ^ e ≤ gap (e * fractionLimit + s) := by
  rcases h.scaled with hs | ⟨rfl, hs, heq⟩
  · exact Nat.le_of_eq hs.gap_eq.symm
  · rw [heq, hs.gap_eq]
    exact Nat.pow_le_pow_right (by decide) (Nat.le_succ e)

end Rounds

/-- The parity of a code is that of its significand. -/
theorem code_mod_two (s e : Nat) : (e * fractionLimit + s) % 2 = s % 2 := by
  have hlimit : fractionLimit = 2 * 2 ^ 51 := by decide
  rw [hlimit, show e * (2 * 2 ^ 51) = 2 * (e * 2 ^ 51) by ring, Nat.mul_add_mod]

/-- Twice the middle between a size and the next larger one. -/
def middle (code : Nat) : Nat := units code + units (code + 1)

theorem le_middle_nearest (num : Nat) {den : Nat} (hden : 0 < den) :
    2 * num ≤ middle (nearest num den) * den ∧
      (2 * num = middle (nearest num den) * den → nearest num den % 2 = 0) := by
  obtain ⟨s, e, h, hr⟩ := exists_rounds num hden
  have hgap := Nat.mul_le_mul_right den h.le_gap
  have hmiddle : middle (nearest num den) * den =
      2 * s * (den * 2 ^ e) + gap (nearest num den) * den := by
    rw [middle, units_add_one, hr, h.units_eq]
    ring
  rw [hr, code_mod_two, ← hr, hmiddle]
  rw [← hr] at hgap
  have hupper := h.upper
  have heven := h.upper_even
  rw [show (2 * s + 1) * (den * 2 ^ e) = 2 * s * (den * 2 ^ e) + 2 ^ e * den by ring]
    at hupper heven
  omega

/-- Right below a rounded code the gap is that of the scale, except below a power of two that was
not rounded up to. -/
theorem Rounds.gap_pred {num den s e c : Nat} (h : Rounds num den s e)
    (hc : e * fractionLimit + s = c + 1) : gap c = 2 ^ e ∨ s = fractionLimit ∧ 0 < e := by
  have hle := h.le
  have hpos := fractionLimit_pos
  rcases Nat.eq_zero_or_pos s with rfl | hs
  · rcases h.normal with rfl | hn <;> omega
  · by_cases hn : e = 0 ∨ fractionLimit ≤ s - 1
    · have hprev : Scaled (s - 1) e := ⟨by omega, hn⟩
      have hcode : c = e * fractionLimit + (s - 1) := by omega
      exact .inl (hcode ▸ hprev.gap_eq)
    · exact .inr (by have := h.normal; omega)

theorem middle_le_nearest (num : Nat) {den c : Nat} (hden : 0 < den)
    (hc : nearest num den = c + 1) :
    middle c * den ≤ 2 * num ∧ (2 * num = middle c * den → c % 2 = 1) := by
  obtain ⟨s, e, h, hr⟩ := exists_rounds num hden
  rw [hr] at hc
  have hunits : units c + gap c = s * 2 ^ e := by rw [← units_add_one, ← hc, h.units_eq]
  have hmiddle : middle c * den + gap c * den = 2 * s * (den * 2 ^ e) := by
    rw [middle, units_add_one, ← Nat.add_mul]
    calc
      _ = 2 * (units c + gap c) * den := by ring
      _ = 2 * s * (den * 2 ^ e) := by rw [hunits]; ring
  rcases h.gap_pred hc with hgap | ⟨rfl, he⟩
  · have hparity := code_mod_two s e
    rw [hc] at hparity
    rw [hgap, Nat.mul_comm (2 ^ e)] at hmiddle
    have hlower := h.lower
    have heven := h.lower_even
    omega
  · -- a power of two that was not rounded up to is not above the quotient
    have hnum : fractionLimit * (den * 2 ^ e) ≤ num := (h.normal.resolve_left (by omega)).2
    have hgap : 0 < gap c * den := Nat.mul_pos (gap_pos c) hden
    rw [Nat.mul_assoc 2] at hmiddle
    omega

/-! ## where quotients are rounded to -/

theorem middle_lt_middle {a b : Nat} (h : a < b) : middle a < middle b :=
  Nat.add_lt_add (units_lt_units h) (units_lt_units (Nat.succ_lt_succ h))

theorem middle_le_middle {a b : Nat} (h : a ≤ b) : middle a ≤ middle b :=
  Nat.add_le_add (units_le_units h) (units_le_units (Nat.succ_le_succ h))

/-- Quotients up to the middle above a code are rounded to it or below, the middle itself only
when the code is even. -/
theorem nearest_le_iff (num : Nat) {den c : Nat} (hden : 0 < den) :
    nearest num den ≤ c ↔
      2 * num < middle c * den ∨ 2 * num = middle c * den ∧ c % 2 = 0 := by
  constructor
  · intro h
    obtain ⟨hle, heven⟩ := le_middle_nearest num hden
    rcases Nat.eq_or_lt_of_le h with rfl | hlt
    · rcases Nat.eq_or_lt_of_le hle with heq | hlt
      · exact .inr ⟨heq, heven heq⟩
      · exact .inl hlt
    · exact .inl (Nat.lt_of_le_of_lt hle (Nat.mul_lt_mul_of_pos_right (middle_lt_middle hlt) hden))
  · intro h
    by_contra hlt
    obtain ⟨k, hk⟩ : ∃ k, nearest num den = k + 1 := Nat.exists_eq_succ_of_ne_zero (by omega)
    obtain ⟨hle, hodd⟩ := middle_le_nearest num hden hk
    have hck : middle c * den ≤ middle k * den :=
      Nat.mul_le_mul_right den (middle_le_middle (by omega))
    rcases h with h | ⟨h, heven⟩
    · omega
    · have heq : middle c * den = middle k * den := by omega
      have hcode : c = k := by
        by_contra hne
        exact absurd heq (Nat.ne_of_lt
          (Nat.mul_lt_mul_of_pos_right (middle_lt_middle (by omega)) hden))
      have := hodd (h.trans heq)
      omega

/-- Larger quotients are rounded to larger codes. -/
theorem nearest_mono {a b c d : Nat} (hb : 0 < b) (hd : 0 < d) (h : a * d ≤ c * b) :
    nearest a b ≤ nearest c d := by
  obtain hlt | ⟨heq, heven⟩ := (nearest_le_iff c hd).mp (Nat.le_refl _)
  all_goals
    rw [nearest_le_iff a hb]
    generalize middle (nearest c d) = m at *
    have hle : 2 * a * d ≤ 2 * c * b := by rw [Nat.mul_assoc, Nat.mul_assoc]; omega
  · left
    refine Nat.lt_of_mul_lt_mul_right (a := d) (Nat.lt_of_le_of_lt hle ?_)
    calc
      2 * c * b < m * d * b := Nat.mul_lt_mul_of_pos_right hlt hb
      _ = m * b * d := Nat.mul_right_comm m d b
  · have hle' : 2 * a ≤ m * b := by
      refine Nat.le_of_mul_le_mul_right (c := d) ?_ hd
      rwa [heq, Nat.mul_right_comm m] at hle
    exact (Nat.eq_or_lt_of_le hle').symm.imp_right fun h => ⟨h, heven⟩

theorem nearest_congr {a b c d : Nat} (hb : 0 < b) (hd : 0 < d) (h : a * d = c * b) :
    nearest a b = nearest c d :=
  Nat.le_antisymm (nearest_mono hb hd (Nat.le_of_eq h)) (nearest_mono hd hb (Nat.le_of_eq h.symm))

/-- The size of a code is rounded to the code. -/
theorem nearest_units (c : Nat) : nearest (units c) 1 = c := by
  have hmiddle : ∀ k, units k < units (k + 1) := fun k => units_lt_units (Nat.lt_succ_self k)
  apply Nat.le_antisymm
  · rw [nearest_le_iff _ Nat.one_pos]
    have := hmiddle c
    simp only [middle]
    omega
  · by_contra h
    obtain ⟨k, rfl⟩ : ∃ k, c = k + 1 := Nat.exists_eq_succ_of_ne_zero (by omega)
    have := hmiddle k
    have := (nearest_le_iff (c := k) (units (k + 1)) Nat.one_pos).mp (by omega)
    simp only [middle] at this
    omega

/-! ## the error of rounding -/

section

variable {num den : Nat} (hden : 0 < den) (h : fractionLimit * den ≤ num)

include hden h

theorem fractionLimit_le_nearest : fractionLimit ≤ nearest num den := by
  have hunits : nearest fractionLimit 1 = fractionLimit := nearest_units fractionLimit
  rw [← hunits]
  exact nearest_mono Nat.one_pos hden (by rwa [Nat.mul_one])

/-- Rounding adds at most one part in 2⁵³. -/
theorem units_nearest_le :
    2 * fractionLimit * (units (nearest num den) * den) ≤ (2 * fractionLimit + 1) * num := by
  rcases Nat.eq_or_lt_of_le (fractionLimit_le_nearest hden h) with heq | hlt
  · have hunits : units fractionLimit = fractionLimit := by decide
    rw [← heq, hunits, Nat.add_mul]
    exact Nat.le_add_right_of_le (Nat.mul_le_mul_left _ h)
  · obtain ⟨k, hk⟩ : ∃ k, nearest num den = k + 1 := Nat.exists_eq_succ_of_ne_zero (by omega)
    have hle := (middle_le_nearest num hden hk).1
    have hgap : fractionLimit * gap k ≤ units k := gap_le_units (by omega)
    rw [hk, units_add_one]
    rw [middle, units_add_one, ← Nat.add_assoc, ← Nat.two_mul] at hle
    have hexcess : 2 * (fractionLimit * gap k) * den ≤ (2 * units k + gap k) * den :=
      Nat.mul_le_mul_right den (by omega)
    refine Nat.le_of_mul_le_mul_left (c := 2) ?_ (by decide)
    calc
      2 * (2 * fractionLimit * ((units k + gap k) * den)) =
          2 * fractionLimit * ((2 * units k + gap k) * den) +
            2 * (fractionLimit * gap k) * den := by ring
      _ ≤ 2 * fractionLimit * ((2 * units k + gap k) * den) + (2 * units k + gap k) * den :=
        Nat.add_le_add_left hexcess _
      _ = (2 * fractionLimit + 1) * ((2 * units k + gap k) * den) := (Nat.succ_mul _ _).symm
      _ ≤ (2 * fractionLimit + 1) * (2 * num) := Nat.mul_le_mul_left _ hle
      _ = 2 * ((2 * fractionLimit + 1) * num) := Nat.mul_left_comm _ _ _

/-- Rounding takes away at most one part in 2⁵³. -/
theorem le_units_nearest :
    2 * fractionLimit * num ≤ (2 * fractionLimit + 1) * (units (nearest num den) * den) := by
  have hle := (le_middle_nearest num hden).1
  have hgap := Nat.mul_le_mul_right den (gap_le_units (fractionLimit_le_nearest hden h))
  rw [middle, units_add_one, ← Nat.add_assoc, ← Nat.two_mul] at hle
  generalize nearest num den = k at *
  refine Nat.le_of_mul_le_mul_left (c := 2) ?_ (by decide)
  calc
    2 * (2 * fractionLimit * num) = 2 * fractionLimit * (2 * num) := Nat.mul_left_comm _ _ _
    _ ≤ 2 * fractionLimit * ((2 * units k + gap k) * den) := Nat.mul_le_mul_left _ hle
    _ = 4 * fractionLimit * (units k * den) + 2 * (fractionLimit * gap k * den) := by ring
    _ ≤ 4 * fractionLimit * (units k * den) + 2 * (units k * den) :=
      Nat.add_le_add_left (Nat.mul_le_mul_left 2 hgap) _
    _ = 2 * ((2 * fractionLimit + 1) * (units k * den)) := by ring

end

end GameNight.Magnitude
