import GameNight.Proofs.Text.Casing
import GameNight.Proofs.Text.Trimming
import GameNight.Text.Pieces

/-!
# GameNight.Proofs.Text.AsciiCase

Text in which ASCII letters are made small.

`Char.toLower` of the core library knows the 26 capitals of ASCII and leaves every
other character as it is.  What this library asks of a character is the same for a
capital and its small letter (`apply_toLower`): both are cased letters, neither is
passed over, and both have one lower-case form.  So making ASCII letters small
goes through trimming and cutting (`trim_map_toLower`, `pieces_map_toLower`), and a
text has the lower-case forms that it had before (`lower_map_toLower`,
`fold_map_toLower`), whatever stands around the letters.
-/

namespace GameNight.Text

/-! ## characters -/

/-- What holds of each of some successive code points holds of a character among
them. -/
theorem of_forall_lt {p : Char → Prop} (first count : Nat)
    (h : ∀ i < count, p (Char.ofNat (first + i))) {c : Char} (hfirst : first ≤ c.toNat)
    (hcount : c.toNat < first + count) : p c := by
  have hc := h (c.toNat - first) (by omega)
  rwa [Nat.add_sub_cancel' hfirst, Char.ofNat_toNat] at hc

/-- A digit is no letter, no white space and no sign. -/
theorem of_isDigit {c : Char} (h : c.isDigit = true) :
    c.toLower = c ∧ isBlank c = false ∧ c.toNat < 0x80 ∧ c ≠ '-' ∧ c ≠ '+' := by
  obtain ⟨hfirst, hlast⟩ := Char.isDigit_iff_toNat.mp h
  exact of_forall_lt
    (p := fun c => c.toLower = c ∧ isBlank c = false ∧ c.toNat < 0x80 ∧ c ≠ '-' ∧ c ≠ '+')
    '0'.toNat 10 (by decide) hfirst (Nat.lt_succ_of_le hlast)

/-- Making a character small leaves it, or takes a capital to its small letter. -/
theorem toLower_eq_self_or (c : Char) :
    c.toLower = c ∨
      0x41 ≤ c.toNat ∧ c.toNat ≤ 0x5A ∧ c.toLower.toNat = c.toNat + 0x20 := by
  have hnat := @toNat_toLower c
  by_cases hc : 0x41 ≤ c.toNat ∧ c.toNat ≤ 0x5A
  · rw [if_pos hc] at hnat
    exact .inr ⟨hc.1, hc.2, hnat⟩
  · rw [if_neg hc] at hnat
    exact .inl (Char.toNat_inj.mp hnat)

/-- A function that does not tell the capitals of ASCII from their small letters
has one value at a character and at the small letter of it. -/
theorem apply_toLower {α : Type} {f : Char → α}
    (h : ∀ i < 26, f (Char.ofNat (0x41 + i)).toLower = f (Char.ofNat (0x41 + i))) (c : Char) :
    f c.toLower = f c := by
  rcases toLower_eq_self_or c with hc | ⟨hfirst, hlast, -⟩
  · rw [hc]
  · exact of_forall_lt (p := fun c => f c.toLower = f c) 0x41 26 h hfirst
      (Nat.lt_succ_of_le hlast)

@[simp] theorem isBlank_toLower (c : Char) : isBlank c.toLower = isBlank c :=
  apply_toLower (by decide) c

@[simp] theorem isCased_toLower (c : Char) : isCased c.toLower = isCased c :=
  apply_toLower (by decide) c

/-- No letter of ASCII is passed over. -/
theorem isCaseIgnorable_eq_false {c : Char}
    (hc : 0x41 ≤ c.toNat ∧ c.toNat ≤ 0x5A ∨ 0x61 ≤ c.toNat ∧ c.toNat ≤ 0x7A) :
    isCaseIgnorable c = false := by
  have hspans : ∀ s ∈ caseIgnorableSpans,
      s.last < 0x41 ∨ 0x5A < s.first ∧ s.last < 0x61 ∨ 0x7A < s.first := by decide +kernel
  simp only [isCaseIgnorable, inSpans, List.any_eq_false, Span.covers_iff]
  intro s hs
  have := hspans s hs
  omega

@[simp] theorem isCaseIgnorable_toLower (c : Char) :
    isCaseIgnorable c.toLower = isCaseIgnorable c := by
  rcases toLower_eq_self_or c with hc | ⟨hfirst, hlast, hsmall⟩
  · rw [hc]
  · rw [isCaseIgnorable_eq_false (.inl ⟨hfirst, hlast⟩), isCaseIgnorable_eq_false (by omega)]

@[simp] theorem lowerChar_toLower (c : Char) : lowerChar c.toLower = lowerChar c := by
  rcases toLower_eq_self_or c with hc | ⟨hfirst, hlast, hsmall⟩
  · rw [hc]
  · have htwice : c.toLower.toLower = c.toLower :=
      (toLower_eq_self_or c.toLower).resolve_right (by omega)
    rw [lowerChar_ascii (show c.toNat < 0x80 by omega),
      lowerChar_ascii (show c.toLower.toNat < 0x80 by omega), htwice]

@[simp] theorem isDigit_toLower (c : Char) : c.toLower.isDigit = c.isDigit :=
  apply_toLower (by decide) c

/-- A character that is no ASCII letter is the small letter of nothing else. -/
theorem toLower_eq_iff {c d : Char} (hd : d.isAlpha = false) : c.toLower = d ↔ c = d := by
  have hletter : ∀ i < 26, (Char.ofNat (0x41 + i)).toLower.isAlpha = true ∧
      (Char.ofNat (0x41 + i)).isAlpha = true := by decide
  have hdecide := apply_toLower (f := fun c => decide (c = d)) (fun i hi => by
    have hcapital : Char.ofNat (0x41 + i) ≠ d := by
      rintro rfl
      simp [(hletter i hi).2] at hd
    have hsmall : (Char.ofNat (0x41 + i)).toLower ≠ d := by
      rintro rfl
      simp [(hletter i hi).1] at hd
    simp [hcapital, hsmall]) c
  simpa using hdecide

/-! ## texts -/

theorem toList_toLower (s : String) : s.toLower.toList = s.toList.map Char.toLower :=
  String.toList_map

theorem ofList_map_toLower (cs : List Char) :
    String.ofList (cs.map Char.toLower) = (String.ofList cs).toLower := by
  rw [← String.toList_inj, toList_toLower, String.toList_ofList, String.toList_ofList]

theorem trimStart_map_toLower (cs : List Char) :
    trimStart (cs.map Char.toLower) = (trimStart cs).map Char.toLower := by
  simp [trimStart, List.dropWhile_map, Function.comp_def]

theorem trimEnd_map_toLower (cs : List Char) :
    trimEnd (cs.map Char.toLower) = (trimEnd cs).map Char.toLower := by
  rw [trimEnd_eq, ← List.map_reverse, trimStart_map_toLower, ← List.map_reverse, trimEnd_eq]

theorem trim_map_toLower (cs : List Char) :
    trim (cs.map Char.toLower) = (trim cs).map Char.toLower := by
  rw [trim, trimStart_map_toLower, trimEnd_map_toLower, trim]

/-- Text is cut at the same places, if it is not cut at a letter. -/
theorem pieces_map_toLower {sep : Char} (hsep : sep.isAlpha = false) (cs : List Char) :
    pieces sep (cs.map Char.toLower) = (pieces sep cs).map (List.map Char.toLower) := by
  induction cs with
  | nil => rfl
  | cons c cs ih =>
    rw [List.map_cons, pieces, pieces, ih]
    by_cases hc : c = sep
    · rw [if_pos hc, if_pos ((toLower_eq_iff hsep).mpr hc)]
      rfl
    · rw [if_neg hc, if_neg (mt (toLower_eq_iff hsep).mp hc)]
      cases pieces sep cs <;> rfl

/-- Two texts that differ in nothing but the case of ASCII letters: they are the
same text when each capital of ASCII is replaced by its small letter, and every
other character is kept. -/
def SameLetters (s t : String) : Prop := s.toLower = t.toLower

theorem sameLetters_iff {s t : String} :
    SameLetters s t ↔ s.toList.map Char.toLower = t.toList.map Char.toLower := by
  rw [SameLetters, ← String.toList_inj, toList_toLower, toList_toLower]

instance (s t : String) : Decidable (SameLetters s t) :=
  decidable_of_iff _ sameLetters_iff.symm

/-! ## lower-case forms -/

theorem fold_map_toLower (cs : List Char) : fold (cs.map Char.toLower) = fold cs := by
  simp [fold, List.flatMap_map]

theorem meetsLetter_map_toLower (cs : List Char) :
    meetsLetter (cs.map Char.toLower) = meetsLetter cs := by
  have hignorable : isCaseIgnorable ∘ Char.toLower = isCaseIgnorable :=
    funext isCaseIgnorable_toLower
  rw [meetsLetter, meetsLetter, List.dropWhile_map, hignorable]
  cases cs.dropWhile isCaseIgnorable <;> simp

/-- A capital sigma ends a word as before: ASCII letters around it are letters in
either case. -/
theorem lowerSigma_map_toLower (before after : List Char) :
    lowerSigma (before.map Char.toLower) (after.map Char.toLower) = lowerSigma before after := by
  simp only [lowerSigma, meetsLetter_map_toLower]

theorem lowerAfter_map_toLower (before cs : List Char) :
    lowerAfter (before.map Char.toLower) (cs.map Char.toLower) = lowerAfter before cs := by
  induction cs generalizing before with
  | nil => rfl
  | cons c cs ih =>
    have hsigma : c.toLower = 'Σ' ↔ c = 'Σ' := toLower_eq_iff rfl
    have hrest := ih (c :: before)
    rw [List.map_cons] at hrest
    simp only [List.map_cons, lowerAfter, hsigma, lowerSigma_map_toLower, lowerChar_toLower, hrest]

theorem lower_map_toLower (cs : List Char) : lower (cs.map Char.toLower) = lower cs :=
  lowerAfter_map_toLower [] cs

end GameNight.Text
