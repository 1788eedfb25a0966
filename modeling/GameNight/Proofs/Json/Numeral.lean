import GameNight.Json.Token
import GameNight.Proofs.Number.Digits

/-!
# GameNight.Proofs.Json.Numeral

Written numbers are scanned again.

A numeral is well formed when its parts are digits and its whole part begins with a zero only when
it is zero.  Its characters, followed by anything that does not go on with a number, are taken apart
into the numeral and what follows (`scan?_render`).
-/

namespace GameNight.Numeral

/-- The rules by which numbers are written. -/
structure WellFormed (n : Numeral) : Prop where
  whole_ne_nil : n.whole ≠ []
  whole : ∀ c ∈ n.whole, c.isDigit = true
  leading_zero : n.whole.head? = some '0' → n.whole = ['0']
  fraction : ∀ c ∈ n.fraction, c.isDigit = true

/-- A text with which no number goes on. -/
def Stops (cs : List Char) : Prop :=
  ∀ c ∈ cs.head?, c.isDigit = false ∧ c ≠ '.' ∧ c ≠ 'e' ∧ c ≠ 'E'

/-! ## parts of a number -/

/-- The characters of a fraction. -/
def fractionText (ds : List Char) : List Char := if ds = [] then [] else '.' :: ds

/-- The characters of a power of ten, if one is written. -/
def exponentText : Option Int → List Char
  | some e => renderExponent e
  | none => []

theorem render_eq (n : Numeral) :
    n.render = (if n.negative then ['-'] else []) ++
      (n.whole ++ (fractionText n.fraction ++ exponentText n.exponent)) := by
  rw [render, fractionText]
  cases n.exponent <;> simp [exponentText]

theorem not_isDigit_of_stops {rest : List Char} (h : Stops rest) :
    ∀ c ∈ rest.head?, c.isDigit = false := fun c hc => (h c hc).1

/-- A run of digits ends where something else follows. -/
theorem span_digits {ds rest : List Char} (hds : ∀ c ∈ ds, c.isDigit = true)
    (hrest : ∀ c ∈ rest.head?, c.isDigit = false) :
    (ds ++ rest).takeWhile Char.isDigit = ds ∧ (ds ++ rest).dropWhile Char.isDigit = rest := by
  rw [List.takeWhile_append_of_pos hds, List.dropWhile_append_of_pos hds]
  cases rest with
  | nil => simp
  | cons c rest => simp [hrest c rfl]

theorem scanExponent?_exponentText {rest : List Char} (e : Option Int) (hrest : Stops rest) :
    scanExponent? (exponentText e ++ rest) = some (e, rest) := by
  cases e with
  | none =>
    cases rest with
    | nil => rfl
    | cons c rest =>
      obtain ⟨-, -, he, hE⟩ := hrest c rfl
      simp [exponentText, scanExponent?, he, hE]
  | some e =>
    obtain ⟨htake, hdrop⟩ := span_digits (fun c hc => isDigit_of_mem_digits (n := e.natAbs) hc)
      (not_isDigit_of_stops hrest)
    rcases lt_or_ge e 0 with hneg | hnonneg
    · have habs : -(e.natAbs : Int) = e := by omega
      simp only [exponentText, renderExponent, hneg, if_true, List.cons_append, scanExponent?,
        true_or, splitSign, htake, hdrop, digits_ne_nil, if_false, digitsValue_digits, habs]
    · have habs : (e.natAbs : Int) = e := by omega
      simp only [exponentText, renderExponent, hnonneg.not_gt, if_false, List.cons_append,
        scanExponent?, true_or, if_true, splitSign, htake, hdrop, digits_ne_nil,
        digitsValue_digits, Bool.false_eq_true, habs]

/-- Neither a power of ten nor what follows a number begins with a digit or a point. -/
theorem head?_exponentText {rest : List Char} (e : Option Int) (hrest : Stops rest) :
    ∀ c ∈ (exponentText e ++ rest).head?, c.isDigit = false ∧ c ≠ '.' := by
  cases e with
  | none => exact fun c hc => ⟨(hrest c hc).1, (hrest c hc).2.1⟩
  | some e =>
    rintro c ⟨⟩
    decide

theorem scanFraction?_fractionText {ds rest : List Char} (hds : ∀ c ∈ ds, c.isDigit = true)
    (hrest : ∀ c ∈ rest.head?, c.isDigit = false ∧ c ≠ '.') :
    scanFraction? (fractionText ds ++ rest) = some (ds, rest) := by
  rw [fractionText]
  split
  · next h =>
    rw [h, List.nil_append, scanFraction?]
    rintro ds rfl
    exact absurd rfl (hrest '.' rfl).2
  · next h =>
    obtain ⟨htake, hdrop⟩ := span_digits hds fun c hc => (hrest c hc).1
    simp [scanFraction?, htake, hdrop, h]

theorem head?_fractionText (ds : List Char) {rest : List Char}
    (hrest : ∀ c ∈ rest.head?, c.isDigit = false ∧ c ≠ '.') :
    ∀ c ∈ (fractionText ds ++ rest).head?, c.isDigit = false := by
  rw [fractionText]
  split
  · exact fun c hc => (hrest c hc).1
  · rintro c ⟨⟩
    decide

theorem scanWhole?_append {n : Numeral} {rest : List Char} (h : n.WellFormed)
    (hrest : ∀ c ∈ rest.head?, c.isDigit = false) :
    scanWhole? (n.whole ++ rest) = some (n.whole, rest) := by
  obtain ⟨htake, hdrop⟩ := span_digits h.whole hrest
  have hzero : ¬(n.whole = [] ∨ n.whole.head? = some '0' ∧ n.whole ≠ ['0']) := by
    rintro (hnil | ⟨hzero, hne⟩)
    · exact h.whole_ne_nil hnil
    · exact hne (h.leading_zero hzero)
  simp only [scanWhole?, htake, hdrop, if_neg hzero]

theorem scanMinus_append {n : Numeral} (h : n.WellFormed) (rest : List Char) :
    scanMinus ((if n.negative then ['-'] else []) ++ (n.whole ++ rest)) =
      (n.negative, n.whole ++ rest) := by
  cases hneg : n.negative with
  | true => rfl
  | false =>
    obtain ⟨c, cs, hc⟩ := List.exists_cons_of_ne_nil h.whole_ne_nil
    have hdigit : c.isDigit = true := h.whole c (by rw [hc]; exact List.mem_cons_self)
    have hminus : c ≠ '-' := by
      rintro rfl
      exact absurd hdigit (by decide)
    rw [hc]
    simp only [Bool.false_eq_true, if_false, List.nil_append, List.cons_append, scanMinus]
    split
    · next heq => exact absurd (List.cons.inj heq).1 hminus
    · rfl

/-! ## numbers as a whole -/

/-- A written number is scanned again. -/
theorem scan?_render {n : Numeral} {rest : List Char} (h : n.WellFormed) (hrest : Stops rest) :
    scan? (n.render ++ rest) = some (n, rest) := by
  have hexponent := head?_exponentText n.exponent hrest
  have hfraction := head?_fractionText n.fraction hexponent
  have htext : n.render ++ rest = (if n.negative then ['-'] else []) ++ (n.whole ++
      (fractionText n.fraction ++ (exponentText n.exponent ++ rest))) := by
    simp [render_eq]
  rw [htext, scan?, scanMinus_append h]
  simp only [scanWhole?_append h hfraction, Option.bind_eq_bind, Option.bind_some,
    scanFraction?_fractionText h.fraction hexponent, scanExponent?_exponentText _ hrest,
    Option.pure_def]

/-- A written number begins with a minus sign or a digit. -/
theorem head?_render {n : Numeral} (h : n.WellFormed) :
    ∃ c cs, n.render = c :: cs ∧ (c = '-' ∨ c.isDigit = true) := by
  obtain ⟨c, cs, hc⟩ := List.exists_cons_of_ne_nil h.whole_ne_nil
  have hdigit : c.isDigit = true := h.whole c (by rw [hc]; exact List.mem_cons_self)
  rw [render_eq, hc]
  cases n.negative with
  | true => exact ⟨'-', _, rfl, .inl rfl⟩
  | false => exact ⟨c, _, rfl, .inr hdigit⟩

/-! ## whole numbers -/

theorem wellFormed_ofInt (i : Int) : (ofInt i).WellFormed where
  whole_ne_nil := digits_ne_nil _
  whole := fun _ => isDigit_of_mem_digits
  leading_zero := fun h => by
    rcases Nat.eq_zero_or_pos i.natAbs with hzero | hpos
    · rw [ofInt, hzero]
      rfl
    · exact absurd h (head?_digits_ne hpos)
  fraction := fun _ hc => absurd hc List.not_mem_nil

theorem toInt?_ofInt (i : Int) : (ofInt i).toInt? = some i := by
  rcases lt_or_ge i 0 with hneg | hnonneg
  · have habs : -(i.natAbs : Int) = i := by omega
    have hpos : i.natAbs ≠ 0 := by omega
    simp only [toInt?, ofInt, hneg, digitsValue_digits, hpos, decide_true, ne_eq,
      not_true_eq_false, and_false, or_self, if_false, if_true, habs]
  · have habs : (i.natAbs : Int) = i := by omega
    simp only [toInt?, ofInt, hnonneg.not_gt, digitsValue_digits, decide_false, ne_eq,
      not_true_eq_false, Bool.false_eq_true, false_and, or_self, if_false, habs]

end GameNight.Numeral
