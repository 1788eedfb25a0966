import GameNight.Proofs.Number.Digits

/-!
# GameNight.Proofs.Number.Signed

Whole numbers as a person writes them: digits with a sign in front, or with none.

A text writes at most one number (`WritesSigned.unique`), and it is read as that number,
of any size (`integer?_eq_some_iff`), or refused if it does not fit the word
(`word?_eq_some_iff`).
-/

namespace GameNight

/-- Text that writes a whole number.  Zeros may stand in front of the digits, but nothing
between them and the sign. -/
inductive WritesSigned : List Char → Int → Prop where
  | unsigned {ds : List Char} {n : Nat} : Writes ds n → WritesSigned ds n
  | plus {ds : List Char} {n : Nat} : Writes ds n → WritesSigned ('+' :: ds) n
  | minus {ds : List Char} {n : Nat} : Writes ds n → WritesSigned ('-' :: ds) (-n)

variable {cs ds : List Char} {m n : Int}

/-- There is no sign among digits. -/
theorem Writes.splitSign_eq {k : Nat} (h : Writes ds k) : splitSign ds = (false, ds) := by
  unfold splitSign
  split
  · exact absurd (h.isDigit '-' List.mem_cons_self) (by decide)
  · exact absurd (h.isDigit '+' List.mem_cons_self) (by decide)
  · rfl

theorem integer?_eq_some_iff : integer? cs = some n ↔ WritesSigned cs n := by
  constructor
  · intro h
    cases hnatural : natural? (splitSign cs).2 with
    | none => simp [integer?, hnatural] at h
    | some k =>
      have hwrites := natural?_eq_some_iff.mp hnatural
      obtain rfl : (if (splitSign cs).1 then -(k : Int) else k) = n := by
        simpa [integer?, hnatural] using h
      unfold splitSign at hwrites ⊢
      split at hwrites
      · exact .minus hwrites
      · exact .plus hwrites
      · exact .unsigned hwrites
  · rintro (h | h | h)
    · simp [integer?, h.splitSign_eq, natural?_eq_some_iff.mpr h]
    · simp [integer?, splitSign, natural?_eq_some_iff.mpr h]
    · simp [integer?, splitSign, natural?_eq_some_iff.mpr h]

instance (cs : List Char) (n : Int) : Decidable (WritesSigned cs n) :=
  decidable_of_iff _ integer?_eq_some_iff

theorem WritesSigned.unique (hm : WritesSigned cs m) (hn : WritesSigned cs n) : m = n :=
  Option.some.inj ((integer?_eq_some_iff.mpr hm).symm.trans (integer?_eq_some_iff.mpr hn))

/-- A number is read if it fits a signed word of 64 bits. -/
theorem word?_eq_some_iff : word? cs = some n ↔ WritesSigned cs n ∧ -2 ^ 63 ≤ n ∧ n < 2 ^ 63 := by
  simp [word?, Option.filter_eq_some_iff, integer?_eq_some_iff]

end GameNight
