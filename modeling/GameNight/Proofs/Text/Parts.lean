import GameNight.Proofs.Text.Casing
import Mathlib.Data.List.TakeWhile

/-!
# GameNight.Proofs.Text.Parts

The lower-case form of a part of a text.

Only a capital sigma looks around itself, so a part that is lower-cased by itself reads
as it does within the text, its sigmas apart (`lowerBetween_eq_iff`).  A sigma sees less
in the part than in the text, and all that it sees there is nearer than what it misses.
So it is lower-cased in another way only if one side of it, up to the end of the part,
has nothing but characters that are passed over (`lowerSigma_append_iff`): the part
begins with a sigma that ends a word of the text, or it ends with one that stands within
a word.  These are the two ways in `CutAtSigma`.
-/

namespace GameNight.Text

/-! ## a part within a text -/

/-- The lower-case form of a part between `before`, given nearest character first, and
`after`. -/
def lowerBetween (before : List Char) : List Char → List Char → List Char
  | [], _ => []
  | c :: cs, after =>
    (if c = 'Σ' then [lowerSigma before (cs ++ after)] else lowerChar c) ++
      lowerBetween (c :: before) cs after

/-- The lower-case form of a text is made of those of its parts. -/
theorem lowerAfter_append (before part after : List Char) :
    lowerAfter before (part ++ after) =
      lowerBetween before part after ++ lowerAfter (part.reverse ++ before) after := by
  induction part generalizing before with
  | nil => rfl
  | cons c cs ih => simp [lowerAfter, lowerBetween, ih]

theorem lower_append_append (before part after : List Char) :
    lower (before ++ part ++ after) = lowerBetween [] before (part ++ after) ++
      lowerBetween before.reverse part after ++
        lowerAfter (part.reverse ++ before.reverse) after := by
  rw [lower, List.append_assoc, lowerAfter_append, lowerAfter_append, List.append_nil,
    List.append_assoc]

theorem lowerBetween_nil (part : List Char) : lowerBetween [] part [] = lower part := by
  have h := lowerAfter_append [] part []
  rw [List.append_nil, lowerAfter, List.append_nil] at h
  exact h.symm

/-- Where a part stands has no influence on how long its lower-case form is. -/
theorem length_lowerBetween (before part after : List Char) :
    (lowerBetween before part after).length = (fold part).length := by
  have h := congrArg List.length (lowerAfter_append before part after)
  rw [List.length_append, length_lowerAfter, length_lowerAfter, fold_append,
    List.length_append] at h
  exact (Nat.add_right_cancel h).symm

/-- At two places a part has one lower-case form if each of its capital sigmas has. -/
theorem lowerBetween_eq_iff {part before before' after after' : List Char} :
    lowerBetween before part after = lowerBetween before' part after' ↔
      ∀ as bs, part = as ++ 'Σ' :: bs →
        lowerSigma (as.reverse ++ before) (bs ++ after) =
          lowerSigma (as.reverse ++ before') (bs ++ after') := by
  induction part generalizing before before' with
  | nil => simp [lowerBetween]
  | cons c cs ih =>
    rw [forall_eq_append_cons_iff, lowerBetween, lowerBetween]
    by_cases hc : c = 'Σ'
    · simp [hc, ih]
    · simp [hc, ih]

/-! ## what a sigma sees -/

/-- Whoever passes over everything nearby looks further. -/
theorem meetsLetter_append (as bs : List Char) :
    meetsLetter (as ++ bs) =
      if as.all isCaseIgnorable = true then meetsLetter bs else meetsLetter as := by
  unfold meetsLetter
  rw [List.dropWhile_append]
  by_cases h : as.all isCaseIgnorable = true
  · have hnil : as.dropWhile isCaseIgnorable = [] :=
      List.dropWhile_eq_nil_iff.mpr (List.all_eq_true.mp h)
    simp [h, hnil]
  · obtain ⟨c, cs, hcons⟩ := List.exists_cons_of_ne_nil
      (mt List.dropWhile_eq_nil_iff.mp (mt List.all_eq_true.mpr h))
    simp [h, hcons]

theorem meetsLetter_eq_false {cs : List Char} (h : cs.all isCaseIgnorable = true) :
    meetsLetter cs = false := by
  rw [← List.append_nil cs, meetsLetter_append, if_pos h]
  rfl

/-- A sigma between `as` and `bs` has another small letter in a text that goes on on both
sides if it begins what was cut out and ends a word of the text, or ends what was cut out
and stands within a word of the text. -/
theorem lowerSigma_append_iff {as bs before after : List Char} :
    lowerSigma (as ++ before) (bs ++ after) ≠ lowerSigma as bs ↔
      as.all isCaseIgnorable = true ∧ meetsLetter before = true ∧
          meetsLetter (bs ++ after) = false ∨
        bs.all isCaseIgnorable = true ∧ meetsLetter as = true ∧ meetsLetter after = true := by
  have hsigma : ∀ {m m' n n' : Bool},
      (if m && !n then 'ς' else 'σ') ≠ (if m' && !n' then 'ς' else 'σ') ↔
        (m && !n) ≠ (m' && !n') := by decide
  rw [lowerSigma, lowerSigma, hsigma, meetsLetter_append as, meetsLetter_append bs]
  by_cases has : as.all isCaseIgnorable = true
  · -- nothing before it counts within the part, so it has the medial form there
    rw [if_pos has, meetsLetter_eq_false has]
    simp [has]
  · rw [if_neg has]
    by_cases hbs : bs.all isCaseIgnorable = true
    · rw [if_pos hbs, meetsLetter_eq_false hbs]
      cases meetsLetter as <;> simp [has, hbs]
    · simp [has, hbs]

/-! ## parts that are cut out beside a sigma -/

/-- The ways in which a part can be cut out of a text so that a capital sigma of it has
another small letter in the part. -/
inductive CutAtSigma (before : List Char) : List Char → List Char → Prop where
  /-- The part begins with a sigma that ends a word of the text. -/
  | atStart {marks rest after : List Char} (passed : marks.all isCaseIgnorable = true)
    (letter : meetsLetter before.reverse = true) (last : meetsLetter (rest ++ after) = false) :
    CutAtSigma before (marks ++ 'Σ' :: rest) after
  /-- The part ends with a sigma that stands within a word of the text, and there is a
  letter before it in the part. -/
  | atEnd {front marks after : List Char} (passed : marks.all isCaseIgnorable = true)
    (letter : meetsLetter front.reverse = true) (next : meetsLetter after = true) :
    CutAtSigma before (front ++ 'Σ' :: marks) after

theorem cutAtSigma_iff {before part after : List Char} :
    CutAtSigma before part after ↔ ∃ as bs, part = as ++ 'Σ' :: bs ∧
      lowerSigma (as.reverse ++ before.reverse) (bs ++ after) ≠ lowerSigma as.reverse bs := by
  simp only [lowerSigma_append_iff, List.all_reverse]
  constructor
  · rintro (⟨hpassed, hletter, hlast⟩ | ⟨hpassed, hletter, hnext⟩)
    · exact ⟨_, _, rfl, .inl ⟨hpassed, hletter, hlast⟩⟩
    · exact ⟨_, _, rfl, .inr ⟨hpassed, hletter, hnext⟩⟩
  · rintro ⟨as, bs, rfl, ⟨hpassed, hletter, hlast⟩ | ⟨hpassed, hletter, hnext⟩⟩
    · exact .atStart hpassed hletter hlast
    · exact .atEnd hpassed hletter hnext

theorem CutAtSigma.mem {before part after : List Char} (h : CutAtSigma before part after) :
    'Σ' ∈ part := by
  obtain ⟨as, bs, rfl, -⟩ := cutAtSigma_iff.mp h
  simp

/-- Unless it is cut out beside a sigma, a part has its own lower-case form within the
text. -/
theorem lowerBetween_eq_lower_iff {before part after : List Char} :
    lowerBetween before.reverse part after = lower part ↔ ¬ CutAtSigma before part after := by
  rw [← lowerBetween_nil, lowerBetween_eq_iff, cutAtSigma_iff]
  simp only [List.append_nil, not_exists, not_and, ne_eq, Classical.not_not]

/-- The lower-case form of a part stands in that of the text, at the place of the part,
unless the part is cut out beside a sigma. -/
theorem lower_at_place_iff {before part after : List Char} :
    (∃ as bs, lower (before ++ part ++ after) = as ++ lower part ++ bs ∧
      as.length = (fold before).length) ↔ ¬ CutAtSigma before part after := by
  rw [← lowerBetween_eq_lower_iff, lower_append_append]
  constructor
  · rintro ⟨as, bs, h, hlength⟩
    rw [List.append_assoc, List.append_assoc] at h
    obtain ⟨-, hrest⟩ := List.append_inj h (by rw [hlength, length_lowerBetween])
    have hpart : (lowerBetween before.reverse part after).length = (lower part).length := by
      rw [length_lowerBetween, length_lower]
    exact (List.append_inj hrest hpart).1
  · intro h
    exact ⟨_, _, by rw [h], length_lowerBetween _ _ _⟩

end GameNight.Text
