import GameNight.Text.Lower
import Mathlib.Data.List.Chain

/-!
# GameNight.Proofs.Text.Casing

The two lower-case forms of a text.

Small letters are no capitals (`lowerChar_of_mem`), so a text in small letters
is its own folded form (`fold_lower`).  The two forms of a text differ exactly
where a capital sigma ends a word (`lower_eq_fold_iff`): the letter is final in
the one and medial in the other.
-/

namespace GameNight.Text

/-! ## runs of capitals -/

namespace LetterRun

/-- The last small letter of the run. -/
def lastLower (r : LetterRun) : Nat := r.lower + (r.last - r.first)

/-- Whether the small letters of one run can be told from the capitals of
another by where they lie, or by being odd where those are even.  It is asked of
many pairs of runs, and `Nat.blt` is the comparison of numerals that evaluates
fastest. -/
def apart (r s : LetterRun) : Bool :=
  Nat.blt r.lastLower s.first || Nat.blt s.last r.lower ||
    ((r.step == 2 || r.first == r.last) && s.step == 2 && (r.lower + s.first) % 2 == 1)

/-- The runs of a table whose capitals may lie among the small letters of this one:
none of those that end before these letters, and none after the first that begins
after them. -/
def near (r : LetterRun) (runs : List LetterRun) : List LetterRun :=
  (runs.dropWhile fun s => Nat.blt s.last r.lower).takeWhile fun s => Nat.ble s.first r.lastLower

/-- Whether the small letters of the run are characters, none of them the
capital I with a dot. -/
def lowersToText (r : LetterRun) : Bool :=
  (r.lastLower < 0xD800 || 0xDFFF < r.lower && r.lastLower < 0x110000) &&
    (r.lastLower < 'İ'.toNat || 'İ'.toNat < r.lower)

variable {r s : LetterRun} {n : Nat}

theorem covers_iff :
    r.covers n = true ↔ r.first ≤ n ∧ n ≤ r.last ∧ (n - r.first) % r.step = 0 := by
  simp [covers, and_assoc]

theorem toLower_le (h : r.covers n = true) : r.lower ≤ r.toLower n ∧ r.toLower n ≤ r.lastLower := by
  obtain ⟨hfirst, hlast, -⟩ := covers_iff.mp h
  unfold toLower lastLower
  omega

theorem not_covers_of_apart (h : r.apart s = true) (hr : r.covers n = true) :
    s.covers (r.toLower n) = false := by
  obtain ⟨hge, hle⟩ := toLower_le hr
  obtain ⟨hfirst, hlast, hstep⟩ := covers_iff.mp hr
  rw [Bool.eq_false_iff, ne_eq, covers_iff]
  simp only [apart, Bool.or_eq_true, Bool.and_eq_true, Nat.blt_eq, beq_iff_eq] at h
  rcases h with (h | h) | ⟨⟨h, hs⟩, hodd⟩
  · omega
  · omega
  · -- the small letters all lie at even distances from the first one
    have heven : (n - r.first) % 2 = 0 := by
      rcases h with h | h
      · rwa [h] at hstep
      · omega
    rw [hs]
    unfold toLower at *
    omega

theorem apart_of_lastLower_lt (h : r.lastLower < s.first) : r.apart s = true := by
  simp [apart, h]

theorem apart_of_last_lt (h : s.last < r.lower) : r.apart s = true := by
  simp [apart, h]

/-- The order of the capitals of two runs. -/
def Before (r s : LetterRun) : Prop := r.first ≤ s.first

instance : DecidableRel Before := fun r s => inferInstanceAs (Decidable (r.first ≤ s.first))

instance : IsTrans LetterRun Before := ⟨fun _ _ _ => Nat.le_trans⟩

instance : Std.Refl Before := ⟨fun r => Nat.le_refl r.first⟩

/-- A table in the order of its capitals, in which capitals have characters for small
letters, and none of these is near a capital. -/
structure IsTable (runs : List LetterRun) : Prop where
  ordered : runs.IsChain Before
  lowersToText : ∀ r ∈ runs, r.lowersToText = true
  near_apart : ∀ r ∈ runs, (r.near runs).all r.apart = true

variable {runs : List LetterRun}

theorem IsTable.pairwise (h : IsTable runs) : runs.Pairwise Before :=
  List.isChain_iff_pairwise.mp h.ordered

/-- No small letter of a table is a capital of it. -/
theorem IsTable.apart (h : IsTable runs) (hr : r ∈ runs) (hs : s ∈ runs) : r.apart s = true := by
  have hpairwise := h.pairwise
  have hapart := h.near_apart r hr
  have hsplit := List.takeWhile_append_dropWhile (p := fun s => Nat.blt s.last r.lower) (l := runs)
  rw [near] at hapart
  generalize List.dropWhile (fun s => Nat.blt s.last r.lower) runs = later at hapart hsplit
  rw [← hsplit] at hs hpairwise
  rcases List.mem_append.mp hs with hearlier | hlater
  · have hlast := List.all_eq_true.mp List.all_takeWhile s hearlier
    exact apart_of_last_lt (Nat.blt_eq.mp hlast)
  have hsorted : later.Pairwise Before := (List.pairwise_append.mp hpairwise).2.1
  rw [← List.takeWhile_append_dropWhile (p := fun s => Nat.ble s.first r.lastLower) (l := later)]
    at hlater hsorted
  rcases List.mem_append.mp hlater with hnear | hafter
  · exact List.all_eq_true.mp hapart s hnear
  · -- the first run after the small letters begins after them, and this one not before it
    have hhead := List.head_dropWhile_not _ (List.ne_nil_of_mem hafter)
    have hle : Before _ s := (List.pairwise_append.mp hsorted).2.1.rel_head hafter
    apply apart_of_lastLower_lt
    rw [← Bool.not_eq_true, Nat.ble_eq, Nat.not_le] at hhead
    exact hhead.trans_le hle

theorem toNat_toLower (h : r.lowersToText = true) (hr : r.covers n = true) :
    (Char.ofNat (r.toLower n)).toNat = r.toLower n ∧ r.toLower n ≠ 'İ'.toNat := by
  obtain ⟨hge, hle⟩ := toLower_le hr
  simp only [lowersToText, Bool.or_eq_true, Bool.and_eq_true, decide_eq_true_eq] at h
  have hvalid : (r.toLower n).isValidChar := by
    unfold Nat.isValidChar
    omega
  constructor
  · rw [Char.ofNat, dif_pos hvalid]
    rfl
  · omega

end LetterRun

theorem isTable_lowerRuns : LetterRun.IsTable lowerRuns := by
  have h : lowerRuns.IsChain LetterRun.Before ∧
      ∀ r ∈ lowerRuns, r.lowersToText = true ∧ (r.near lowerRuns).all r.apart = true := by
    decide +kernel
  exact ⟨h.1, fun r hr => (h.2 r hr).1, fun r hr => (h.2 r hr).2⟩

/-! ## small letters -/

theorem lowerChar_eq_self {c : Char} (hc : c ≠ 'İ')
    (h : ∀ r ∈ lowerRuns, r.covers c.toNat = false) : lowerChar c = [c] := by
  have hnone : lowerRuns.find? (·.covers c.toNat) = none := by
    simpa using h
  rw [lowerChar, if_neg hc, hnone]

/-- The lower-case form of a character stays as it is when it is lower-cased
again. -/
theorem lowerChar_of_mem {c d : Char} (h : d ∈ lowerChar c) : lowerChar d = [d] := by
  unfold lowerChar at h
  split at h
  · simp only [List.mem_cons, List.not_mem_nil, or_false] at h
    rcases h with rfl | rfl <;> rfl
  · next hc =>
    split at h
    · next r hr =>
      obtain rfl := List.mem_singleton.mp h
      have hmem := List.mem_of_find?_eq_some hr
      have hcovers : r.covers c.toNat = true := by simpa using List.find?_some hr
      obtain ⟨hnat, hne⟩ := LetterRun.toNat_toLower (isTable_lowerRuns.lowersToText r hmem) hcovers
      apply lowerChar_eq_self
      · intro he
        exact hne (hnat.symm.trans (congrArg Char.toNat he))
      · intro s hs
        rw [hnat]
        exact LetterRun.not_covers_of_apart (isTable_lowerRuns.apart hmem hs) hcovers
    · next hnone =>
      obtain rfl := List.mem_singleton.mp h
      exact lowerChar_eq_self hc (by simpa using hnone)

theorem lowerChar_lowerSigma (before after : List Char) :
    lowerChar (lowerSigma before after) = [lowerSigma before after] := by
  unfold lowerSigma
  split <;> rfl

theorem lowerChar_capitalSigma : lowerChar 'Σ' = ['σ'] := rfl

/-- Text whose characters each have one small letter is folded letter by
letter. -/
theorem fold_eq_map {f : Char → Char} {cs : List Char} (h : ∀ c ∈ cs, lowerChar c = [f c]) :
    fold cs = cs.map f := by
  induction cs with
  | nil => rfl
  | cons c cs ih =>
    rw [fold_cons, h c List.mem_cons_self, ih fun d hd => h d (List.mem_cons_of_mem c hd)]
    rfl

/-- A character of a text in small letters stays as it is when it is
lower-cased. -/
theorem lowerChar_of_mem_lowerAfter {before cs : List Char} {d : Char}
    (h : d ∈ lowerAfter before cs) : lowerChar d = [d] := by
  induction cs generalizing before with
  | nil => exact absurd h List.not_mem_nil
  | cons c cs ih =>
    rw [lowerAfter, List.mem_append] at h
    rcases h with h | h
    · split at h
      · obtain rfl := List.mem_singleton.mp h
        exact lowerChar_lowerSigma before cs
      · exact lowerChar_of_mem h
    · exact ih h

@[simp] theorem fold_lower (cs : List Char) : fold (lower cs) = lower cs := by
  have hself : ∀ c ∈ lower cs, lowerChar c = [id c] := fun _ h => lowerChar_of_mem_lowerAfter h
  rw [fold_eq_map hself, List.map_id]

/-- Lower-casing keeps the lower-case form of every character that is no
capital sigma. -/
theorem mem_lower {cs : List Char} {c d : Char} (hc : c ∈ cs) (hne : c ≠ 'Σ')
    (hd : d ∈ lowerChar c) : d ∈ lower cs := by
  have hafter : ∀ before, d ∈ lowerAfter before cs := by
    induction cs with
    | nil => exact absurd hc List.not_mem_nil
    | cons a cs ih =>
      intro before
      rw [lowerAfter, List.mem_append]
      rcases List.mem_cons.mp hc with rfl | hc
      · left
        rwa [if_neg hne]
      · exact .inr (ih hc _)
  exact hafter []

/-! ## length -/

theorem lowerChar_ne_nil (c : Char) : lowerChar c ≠ [] := by
  unfold lowerChar
  split
  · exact List.cons_ne_nil _ _
  · split <;> exact List.cons_ne_nil _ _

/-- Lower-casing takes no characters away. -/
theorem length_le_length_fold (cs : List Char) : cs.length ≤ (fold cs).length := by
  induction cs with
  | nil => exact Nat.le_refl 0
  | cons c cs ih =>
    have hpos := List.length_pos_iff.mpr (lowerChar_ne_nil c)
    rw [fold_cons, List.length_append, List.length_cons]
    omega

/-- The two lower-case forms of a text are equally long, whatever stands before it. -/
theorem length_lowerAfter (before cs : List Char) :
    (lowerAfter before cs).length = (fold cs).length := by
  induction cs generalizing before with
  | nil => rfl
  | cons c cs ih =>
    rw [lowerAfter, fold_cons, List.length_append, List.length_append, ih]
    by_cases hc : c = 'Σ'
    · rw [if_pos hc, hc, lowerChar_capitalSigma]
      rfl
    · rw [if_neg hc]

theorem length_lower (cs : List Char) : (lower cs).length = (fold cs).length :=
  length_lowerAfter [] cs

/-! ## ASCII -/

/-- Text without characters beyond ASCII. -/
def Ascii (cs : List Char) : Prop := ∀ c ∈ cs, c.toNat < 0x80

instance (cs : List Char) : Decidable (Ascii cs) :=
  decidable_of_iff (cs.all (·.toNat < 0x80) = true) <| by
    simp only [List.all_eq_true, decide_eq_true_eq]
    rfl

theorem toNat_toLower {c : Char} : c.toLower.toNat =
    if 0x41 ≤ c.toNat ∧ c.toNat ≤ 0x5A then c.toNat + 0x20 else c.toNat := by
  unfold Char.toLower
  split
  · next h =>
    rw [if_pos (show 0x41 ≤ c.toNat ∧ c.toNat ≤ 0x5A from h)]
    have hle : c.val.toNat ≤ 0x5A := h.2
    change (c.val + 32).toNat = c.val.toNat + 32
    rw [UInt32.toNat_add]
    change (c.val.toNat + 32) % 4294967296 = _
    omega
  · next h => rw [if_neg (show ¬ (0x41 ≤ c.toNat ∧ c.toNat ≤ 0x5A) from h)]

/-- Of the ASCII characters the capitals are the 26 letters. -/
theorem lowerChar_ascii {c : Char} (h : c.toNat < 0x80) : lowerChar c = [c.toLower] := by
  have hdot : c ≠ 'İ' := by
    rintro rfl
    contradiction
  -- all other runs lie beyond ASCII, since the second one does
  have hfirst : ∀ r ∈ lowerRuns.tail, 0xC0 ≤ r.first := by
    exact fun r hr => isTable_lowerRuns.pairwise.tail.rel_head hr
  have hnone : lowerRuns.tail.find? (·.covers c.toNat) = none := by
    apply List.find?_eq_none.mpr
    intro r hr
    have := hfirst r hr
    rw [LetterRun.covers_iff]
    omega
  have hruns : lowerRuns = ⟨0x41, 0x5A, 1, 0x61⟩ :: lowerRuns.tail := rfl
  have hcovers : LetterRun.covers ⟨0x41, 0x5A, 1, 0x61⟩ c.toNat =
      decide (0x41 ≤ c.toNat ∧ c.toNat ≤ 0x5A) := by
    simp [LetterRun.covers, Nat.mod_one]
  rw [← Char.ofNat_toNat c.toLower, toNat_toLower, lowerChar, if_neg hdot, hruns, List.find?_cons,
    hcovers, hnone]
  by_cases hletter : 0x41 ≤ c.toNat ∧ c.toNat ≤ 0x5A
  · have hdistance : 0x61 + (c.toNat - 0x41) = c.toNat + 0x20 := by omega
    simp [hletter, LetterRun.toLower, hdistance]
  · simp [hletter]

theorem lower_ascii {cs : List Char} (h : Ascii cs) :
    lower cs = cs.map Char.toLower := by
  have hsigma : 'Σ' ∉ cs := fun hmem => absurd (h 'Σ' hmem) (by decide)
  rw [lower_eq_fold hsigma, fold_eq_map fun c hc => lowerChar_ascii (h c hc)]

/-! ## final sigmas -/

/-- Text in which a capital sigma ends a word. -/
def HasFinalSigma (cs : List Char) : Prop :=
  ∃ before after, cs = before ++ 'Σ' :: after ∧ lowerSigma before.reverse after = 'ς'

/-- A character of a text is the first one or stands after it. -/
theorem forall_eq_append_cons_iff {c d : Char} {cs : List Char}
    {p : List Char → List Char → Prop} :
    (∀ as bs, c :: cs = as ++ d :: bs → p as bs) ↔
      (c = d → p [] cs) ∧ ∀ as bs, cs = as ++ d :: bs → p (c :: as) bs := by
  constructor
  · intro h
    constructor
    · rintro rfl
      exact h [] cs rfl
    · rintro as bs rfl
      exact h (c :: as) bs rfl
  · rintro ⟨hfirst, hrest⟩ as bs he
    cases as with
    | nil =>
      obtain ⟨rfl, rfl⟩ := List.cons.inj he
      exact hfirst rfl
    | cons a as =>
      obtain ⟨rfl, rfl⟩ := List.cons.inj he
      exact hrest as bs rfl

/-- What follows `before` has one lower-case form unless a capital sigma of it
ends a word. -/
theorem lowerAfter_eq_fold_iff {before cs : List Char} :
    lowerAfter before cs = fold cs ↔
      ∀ as bs, cs = as ++ 'Σ' :: bs → lowerSigma (as.reverse ++ before) bs ≠ 'ς' := by
  induction cs generalizing before with
  | nil => simp [lowerAfter]
  | cons c cs ih =>
    rw [forall_eq_append_cons_iff, lowerAfter, fold_cons]
    by_cases hc : c = 'Σ'
    · subst hc
      rw [if_pos rfl, lowerChar_capitalSigma]
      have hsigma : lowerSigma before cs = 'σ' ↔ lowerSigma before cs ≠ 'ς' := by
        unfold lowerSigma
        split <;> decide
      simp [hsigma, ih]
    · simp [hc, ih]

/-- The two lower-case forms of a text agree unless a capital sigma ends a
word of it. -/
theorem lower_eq_fold_iff {cs : List Char} : lower cs = fold cs ↔ ¬ HasFinalSigma cs := by
  rw [lower, lowerAfter_eq_fold_iff]
  simp [HasFinalSigma]

theorem hasFinalSigma_iff {cs : List Char} : HasFinalSigma cs ↔ lower cs ≠ fold cs := by
  rw [ne_eq, lower_eq_fold_iff, Classical.not_not]

end GameNight.Text
