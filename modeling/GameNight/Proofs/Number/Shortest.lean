import GameNight.Number.Shortest
import GameNight.Proofs.Number.Decimal

/-!
# GameNight.Proofs.Number.Shortest

The fewest digits that read back do read back.

`readsBack_iff` says that the interval a grid is tested against is the one of all sizes nearest to
the code.  A grid whose step is less than the interval is wide has a point in it
(`onGrid?_isSome`), and the grid of seventeen digits is fine enough for every code, so that the
search always ends with a decimal of at most seventeen digits whose nearest code is the one that
was searched for (`nearestTo_size_shortest`).
-/

namespace GameNight

open Magnitude (fractionLimit fractionLimit_pos gap gap_pos middle units units_add_one
  units_add_gap_le units_mul_add nearest_le_iff nearestTo nearestTo_div)

namespace Shortest

/-! ## the interval around a magnitude -/

theorem quarter_pos : 0 < quarter := powerOfTen_pos places

theorem finest_pos : 0 < finest := by decide

theorem halfAbove_eq (c : Nat) : halfAbove c = 2 * gap c * quarter := by
  rw [halfAbove, gap, Nat.shiftLeft_eq]

theorem halfAbove_pos (c : Nat) : 0 < halfAbove c := by
  rw [halfAbove_eq]
  exact Nat.mul_pos (Nat.mul_pos (by decide) (gap_pos c)) quarter_pos

theorem exact_add_halfAbove (c : Nat) : exact c + halfAbove c = middle c * (2 * quarter) := by
  rw [exact, halfAbove_eq, middle, units_add_one]
  ring

/-- Below a power of two the gap is half as wide. -/
theorem halfBelow_succ (c : Nat) : halfBelow (c + 1) = halfAbove c := by
  have hdiv : (c + 1) / fractionLimit =
      c / fractionLimit + if fractionLimit ∣ c + 1 then 1 else 0 :=
    Nat.succ_div
  simp only [halfBelow, ← Nat.dvd_iff_mod_eq_zero]
  by_cases h : fractionLimit ∣ c + 1
  · rw [if_pos h] at hdiv
    by_cases hone : 1 < (c + 1) / fractionLimit
    · have hgap : gap (c + 1) = 2 * gap c := by
        rw [gap, gap, hdiv, Nat.add_sub_cancel, ← Nat.pow_succ']
        congr 1
        omega
      rw [if_pos ⟨h, hone⟩, halfAbove_eq, halfAbove_eq, hgap, Nat.mul_assoc 2,
        Nat.mul_div_cancel_left _ (by decide)]
    · have hzero : c / fractionLimit = 0 := by
        rw [hdiv] at hone
        exact Nat.le_zero.mp (Nat.le_of_succ_le_succ (Nat.le_of_not_lt hone))
      rw [if_neg (by tauto), halfAbove, halfAbove, hdiv, hzero]
  · rw [if_neg (by tauto), halfAbove, halfAbove, hdiv, if_neg h, Nat.add_zero]

theorem exact_sub_halfBelow (c : Nat) :
    exact (c + 1) - halfBelow (c + 1) = middle c * (2 * quarter) := by
  rw [halfBelow_succ, exact, halfAbove_eq, middle, units_add_one, Nat.sub_eq_iff_eq_add]
  · ring
  · calc
      2 * gap c * quarter ≤ 4 * gap c * quarter := by gcongr; decide
      _ ≤ 4 * (units c + gap c) * quarter := by gcongr; exact Nat.le_add_left _ _

/-- The sizes tested for are those whose nearest code is the given one. -/
theorem readsBack_iff {c : Nat} (hc : 0 < c) (grains : Nat) :
    readsBack c grains = true ↔ nearestTo (grains / (4 * quarter : Nat)) = c := by
  obtain ⟨k, rfl⟩ : ∃ k, c = k + 1 := Nat.exists_eq_succ_of_ne_zero hc.ne'
  have hpos : 0 < 4 * quarter := Nat.mul_pos (by decide) quarter_pos
  have hupper := nearest_le_iff grains (c := k + 1) hpos
  have hlower := nearest_le_iff grains (c := k) hpos
  rw [show ∀ m, m * (4 * quarter) = 2 * (m * (2 * quarter)) by intro m; ring] at hupper hlower
  rw [nearestTo_div grains hpos, readsBack, exact_sub_halfBelow, exact_add_halfAbove]
  generalize middle (k + 1) * (2 * quarter) = high at *
  generalize middle k * (2 * quarter) = low at *
  split <;> simp only [Bool.and_eq_true, decide_eq_true_eq] <;> omega

/-- The exact size lies within the interval, and not at its ends. -/
theorem exact_mem_interval {c : Nat} (hc : 0 < c) :
    exact c - halfBelow c < exact c ∧ exact c < exact c + halfAbove c := by
  obtain ⟨k, rfl⟩ : ∃ k, c = k + 1 := Nat.exists_eq_succ_of_ne_zero hc.ne'
  have hexact : 0 < exact (k + 1) := by
    rw [exact, units_add_one]
    exact Nat.mul_pos (Nat.mul_pos (by decide) (Nat.add_pos_right _ (gap_pos k))) quarter_pos
  have hbelow := halfAbove_pos k
  rw [← halfBelow_succ] at hbelow
  exact ⟨Nat.sub_lt hexact hbelow, Nat.lt_add_of_pos_right (halfAbove_pos _)⟩

theorem readsBack_of_lt {c grains : Nat} (hlow : exact c - halfBelow c < grains)
    (hhigh : grains < exact c + halfAbove c) : readsBack c grains = true := by
  rw [readsBack]
  split <;> simp only [Bool.and_eq_true, decide_eq_true_eq] <;> omega

/-- The choice between the two grid points next to any size, by any test. -/
def choose? (tie : Tie) (test : Nat → Bool) (size step : Nat) : Option Nat :=
  let below := size / step
  let above := below + 1
  match test (below * step), test (above * step) with
  | false, false => none
  | true, false => some below
  | false, true => some above
  | true, true =>
    match compare (2 * size) ((below + above) * step), tie with
    | .lt, _ => some below
    | .gt, _ => some above
    | .eq, .even => some (if below % 2 = 0 then below else above)
    | .eq, .away => some above

/-- Stated of any test, since the grains in a size are too many to be unfolded. -/
theorem onGrid?_eq (tie : Tie) (c step : Nat) :
    onGrid? tie c step = choose? tie (readsBack c) (exact c) step := rfl

theorem of_choose? {tie : Tie} {test : Nat → Bool} {size step n : Nat}
    (h : choose? tie test size step = some n) :
    test (n * step) = true ∧ (n = size / step ∨ n = size / step + 1) := by
  simp only [choose?] at h
  split at h
  · cases h
  · obtain rfl := Option.some.inj h
    exact ⟨‹_›, .inl rfl⟩
  · obtain rfl := Option.some.inj h
    exact ⟨‹_›, .inr rfl⟩
  · have hn : n = size / step ∨ n = size / step + 1 := by
      split at h
      · exact .inl (Option.some.inj h).symm
      · exact .inr (Option.some.inj h).symm
      · split at h
        · exact .inl (Option.some.inj h).symm
        · exact .inr (Option.some.inj h).symm
      · exact .inr (Option.some.inj h).symm
    rcases hn with rfl | rfl
    · exact ⟨‹_›, .inl rfl⟩
    · exact ⟨‹_›, .inr rfl⟩

theorem choose?_isSome_iff {tie : Tie} {test : Nat → Bool} {size step : Nat} :
    (choose? tie test size step).isSome = true ↔
      test (size / step * step) = true ∨ test ((size / step + 1) * step) = true := by
  simp only [choose?]
  split
  · simp_all
  · simp_all
  · simp_all
  · split <;> simp_all

section

variable {tie : Tie} {c step n : Nat}

/-- The interval is wide enough for grids of seventeen digits. -/
theorem step_lt_of_fine (hfine : 10 ^ 16 * step ≤ exact c) :
    step < halfAbove c ∨ halfBelow c = halfAbove c ∧ step < 2 * halfAbove c := by
  have hpos := halfAbove_pos c
  by_cases hpow : c % fractionLimit = 0 ∧ 1 < c / fractionLimit
  · -- the size of a power of two is as small as it can be against the gap above it
    left
    have hunits : units c = fractionLimit * gap c := by
      have hc := Nat.div_add_mod' c fractionLimit
      rw [hpow.1] at hc
      rw [← hc, units_mul_add _ fractionLimit_pos, if_neg (by omega), Nat.add_zero, Nat.add_zero,
        gap, Nat.mul_div_cancel _ fractionLimit_pos]
    have hexact : exact c = 2 ^ 53 * halfAbove c := by
      rw [exact, hunits, halfAbove_eq, show fractionLimit = 2 ^ 52 by decide]
      ring
    omega
  · right
    refine ⟨if_neg hpow, ?_⟩
    have hexact : exact c + 2 * halfAbove c ≤ 2 ^ 54 * halfAbove c := by
      calc
        exact c + 2 * halfAbove c = 4 * (units c + gap c) * quarter := by
          rw [exact, halfAbove_eq]
          ring
        _ ≤ 4 * (2 * fractionLimit * gap c) * quarter := by
          gcongr
          exact units_add_gap_le c
        _ = 2 ^ 54 * halfAbove c := by
          rw [halfAbove_eq, show fractionLimit = 2 ^ 52 by decide]
          ring
    omega

/-- A grid whose step is small against the exact size has a point that reads back. -/
theorem onGrid?_isSome (hc : 0 < c) (hstep : 0 < step) (hfine : 10 ^ 16 * step ≤ exact c) :
    (onGrid? tie c step).isSome = true := by
  have hbelow : exact c / step * step ≤ exact c := Nat.div_mul_le_self _ _
  have habove : exact c < (exact c / step + 1) * step :=
    Nat.lt_mul_of_div_lt (Nat.lt_succ_self _) hstep
  obtain ⟨hlow, hhigh⟩ := exact_mem_interval hc
  have hwide := step_lt_of_fine hfine
  rw [onGrid?_eq, choose?_isSome_iff]
  rw [Nat.succ_mul] at habove ⊢
  generalize exact c / step * step = below at *
  by_cases hnear : exact c < below + halfAbove c ∧ halfBelow c = halfAbove c
  · exact .inl (readsBack_of_lt (by omega) (by omega))
  · exact .inr (readsBack_of_lt (by omega) (by omega))

end

/-! ## the search -/

/-- The power of ten of the leading digit of an exact size, as a number of grains. -/
def leading (c : Nat) : Nat := (digits (exact c / finest)).length - 1

/-- What the search finds on the grid of `more` digits after the leading one. -/
def attempt (tie : Tie) (c more : Nat) : Option Decimal :=
  (onGrid? tie c (powerOfTen (leading c - more) * finest)).map fun n =>
    ⟨n, ((leading c - more : Nat) : Int) - places⟩

theorem shortest_eq (tie : Tie) {c : Nat} (hc : 0 < c) :
    Decimal.shortest tie c =
      (((List.range 17).findSome? (attempt tie c)).getD (.exact c)).strip :=
  if_neg hc.ne'

/-- The search ends no later than on the first grid that is known to have a point. -/
theorem exists_attempt {tie : Tie} {c more : Nat} (hmore : more < 17)
    (h : (attempt tie c more).isSome = true) :
    ∃ k ≤ more, ∃ d, attempt tie c k = some d ∧
      (List.range 17).findSome? (attempt tie c) = some d := by
  have hsome : ((List.range (more + 1)).findSome? (attempt tie c)).isSome = true :=
    List.findSome?_isSome_iff.mpr ⟨more, List.mem_range.mpr (Nat.lt_succ_self _), h⟩
  obtain ⟨d, hd⟩ := Option.isSome_iff_exists.mp hsome
  obtain ⟨k, hk, hkd⟩ := List.exists_of_findSome?_eq_some hd
  have hrange : List.range (more + 1) <+: List.range 17 := by
    have hsum : more + 1 + (16 - more) = 17 := by omega
    exact ⟨_, hsum ▸ List.range_add.symm⟩
  exact ⟨k, Nat.le_of_lt_succ (List.mem_range.mp hk), d, hkd, hrange.findSome?_eq_some hd⟩

theorem sixteen_le_leading {c : Nat} (hc : 0 < c) : 16 ≤ leading c := by
  have hsmall : 10 ^ 16 * finest ≤ 4 * 1 * quarter := by decide +kernel
  have hunits : 0 < units c := Nat.zero_lt_of_lt (Magnitude.units_lt_units hc)
  have hle : 10 ^ 16 * finest ≤ exact c :=
    hsmall.trans (Nat.mul_le_mul_right _ (Nat.mul_le_mul_left 4 hunits))
  have hdigits : ¬(digits (exact c / finest)).length ≤ 16 := by
    rw [length_digits_le_iff (by decide), Nat.not_lt, Nat.le_div_iff_mul_le finest_pos]
    exact hle
  rw [leading]
  omega

theorem pow_leading_le {c : Nat} (hc : 0 < c) : 10 ^ leading c * finest ≤ exact c := by
  have hleading := sixteen_le_leading hc
  have hpos : 0 < exact c / finest := by
    by_contra h
    rw [leading, Nat.eq_zero_of_not_pos h] at hleading
    exact absurd hleading (by decide)
  rw [← Nat.le_div_iff_mul_le finest_pos]
  exact pow_length_digits_le hpos

theorem lt_pow_leading (c : Nat) : exact c < 10 ^ (leading c + 1) * finest := by
  have hlt := lt_pow_length_digits (exact c / finest)
  rw [leading, Nat.sub_add_cancel (length_digits_pos _)]
  exact Nat.lt_mul_of_div_lt hlt finest_pos

/-- The grid of seventeen digits always has a point. -/
theorem attempt_isSome (tie : Tie) {c : Nat} (hc : 0 < c) : (attempt tie c 16).isSome = true := by
  rw [attempt, Option.isSome_map]
  refine onGrid?_isSome hc (Nat.mul_pos (powerOfTen_pos _) finest_pos) ?_
  calc
    10 ^ 16 * (powerOfTen (leading c - 16) * finest) = 10 ^ leading c * finest := by
      rw [← Nat.mul_assoc, powerOfTen, Nat.pow_eq, ← Nat.pow_add,
        Nat.add_sub_cancel' (sixteen_le_leading hc)]
    _ ≤ exact c := pow_leading_le hc

/-- What a grid point stands for. -/
theorem size_grid (n place : Nat) :
    Decimal.size ⟨n, (place : Int) - places⟩ =
      ((n * (powerOfTen place * finest) : Nat) : ℚ) / (4 * quarter : Nat) := by
  rw [Decimal.size, zpow_sub₀ (by norm_num), zpow_natCast, zpow_natCast, finest, quarter]
  generalize Magnitude.one = one
  push_cast [cast_powerOfTen]
  field_simp

section

variable {tie : Tie} {c k : Nat} {d : Decimal}

/-- What is found reads back, and has at most one digit more than the grid. -/
theorem of_attempt (hc : 0 < c) (hk : k ≤ 16) (h : attempt tie c k = some d) :
    nearestTo d.size = c ∧ 0 < d.significand ∧ d.significand ≤ 10 ^ (k + 1) ∧
      d.exponent = (leading c : Int) - k - places := by
  obtain ⟨n, hn, rfl⟩ := Option.map_eq_some_iff.mp h
  have hleading := sixteen_le_leading hc
  obtain ⟨hreads, hnext⟩ := of_choose? hn
  have hnearest : nearestTo (Decimal.size ⟨n, ((leading c - k : Nat) : Int) - places⟩) = c := by
    rw [size_grid]
    exact (readsBack_iff hc _).mp hreads
  have hstep : 0 < powerOfTen (leading c - k) * finest :=
    Nat.mul_pos (powerOfTen_pos _) finest_pos
  have hbelow : exact c / (powerOfTen (leading c - k) * finest) < 10 ^ (k + 1) := by
    rw [Nat.div_lt_iff_lt_mul hstep, ← Nat.mul_assoc, powerOfTen, Nat.pow_eq, ← Nat.pow_add,
      show k + 1 + (leading c - k) = leading c + 1 by omega]
    exact lt_pow_leading c
  have hle : n ≤ 10 ^ (k + 1) := by
    rcases hnext with h | h <;> rw [h]
    exacts [hbelow.le, hbelow]
  refine ⟨hnearest, ?_, hle, by simp only; omega⟩
  rcases Nat.eq_zero_or_pos n with rfl | hpos
  · have : nearestTo (units 0) = 0 := Magnitude.nearestTo_units 0
    rw [Magnitude.units_zero] at this
    simp [Decimal.size] at hnearest this
    omega
  · exact hpos

end

end Shortest

/-! ## trailing zeros -/

namespace Decimal

theorem size_strip (d : Decimal) : d.strip.size = d.size := by
  fun_induction strip d with
  | case1 d h ih =>
    rw [ih, size, size, zpow_add_one₀ (by norm_num)]
    have hdvd : (d.significand : ℚ) = 10 * (d.significand / 10 : Nat) := by
      exact_mod_cast (Nat.mul_div_cancel' (Nat.dvd_of_mod_eq_zero h.2)).symm
    rw [hdvd]
    push_cast
    ring
  | case2 => rfl

theorem exponent_le_strip (d : Decimal) : d.exponent ≤ d.strip.exponent := by
  fun_induction strip d with
  | case1 d h ih => exact (Int.le_add_one (Int.le_refl _)).trans ih
  | case2 => exact Int.le_refl _

theorem strip_significand_le (d : Decimal) : d.strip.significand ≤ d.significand := by
  fun_induction strip d with
  | case1 d h ih => exact ih.trans (Nat.div_le_self _ _)
  | case2 => exact Nat.le_refl _

theorem strip_significand_pos {d : Decimal} (h : 0 < d.significand) :
    0 < d.strip.significand := by
  fun_induction strip d with
  | case1 d hd ih => exact ih (by simp only; omega)
  | case2 => exact h

/-- A power of ten has fewer digits without its zeros. -/
theorem strip_significand_lt {d : Decimal} {k : Nat} (h : d.significand ≤ 10 ^ (k + 1)) :
    d.strip.significand < 10 ^ (k + 1) := by
  rcases Nat.lt_or_eq_of_le h with hlt | heq
  · exact Nat.lt_of_le_of_lt (strip_significand_le d) hlt
  · have hpos : 0 < 10 ^ k := Nat.pow_pos (by decide)
    have hstrip : d.significand ≠ 0 ∧ d.significand % 10 = 0 := by
      rw [heq, Nat.pow_succ]
      omega
    rw [strip, dif_pos hstrip]
    refine Nat.lt_of_le_of_lt (strip_significand_le _) ?_
    simp only [heq, Nat.pow_succ]
    omega

/-! ## the decimal with the fewest digits -/

/-- The shortest decimal, with what the search says about it: the search ends no later than on a
grid that has a point. -/
theorem exists_shortest (tie : Tie) {c more : Nat} (hc : 0 < c) (hmore : more ≤ 16)
    (h : (Shortest.attempt tie c more).isSome = true) :
    ∃ k ≤ more, nearestTo (shortest tie c).size = c ∧ 0 < (shortest tie c).significand ∧
      (shortest tie c).significand < 10 ^ (k + 1) ∧
      (Shortest.leading c : Int) - k - Shortest.places ≤ (shortest tie c).exponent := by
  obtain ⟨k, hk, d, hd, hfound⟩ := Shortest.exists_attempt (Nat.lt_succ_of_le hmore) h
  obtain ⟨hnearest, hpos, hle, hexponent⟩ := Shortest.of_attempt hc (hk.trans hmore) hd
  rw [Shortest.shortest_eq tie hc, hfound, Option.getD_some]
  refine ⟨k, hk, ?_, strip_significand_pos hpos, strip_significand_lt hle, ?_⟩
  · rw [size_strip, hnearest]
  · rw [← hexponent]
    exact exponent_le_strip d

/-- The shortest decimal of a code reads back as the code, and seventeen digits suffice for it. -/
theorem nearestTo_size_shortest (tie : Tie) {c : Nat} (hc : 0 < c) :
    nearestTo (shortest tie c).size = c ∧ 0 < (shortest tie c).significand ∧
      (shortest tie c).significand < 10 ^ 17 ∧ -340 ≤ (shortest tie c).exponent := by
  obtain ⟨k, hk, hnearest, hpos, hlt, hexponent⟩ :=
    exists_shortest tie hc (Nat.le_refl 16) (Shortest.attempt_isSome tie hc)
  have hleading := Shortest.sixteen_le_leading hc
  refine ⟨hnearest, hpos, hlt.trans_le (Nat.pow_le_pow_right (by decide) (by omega)), ?_⟩
  have : (Shortest.places : Int) = 340 := rfl
  omega

/-! ## decimals that are short -/

end Decimal

end GameNight
