import GameNight.Json.Amount
import GameNight.Json.Quoted

/-!
# GameNight.Json.Token

The tokens of JSON text.

A token takes at least one character (`length_lt_of_scan`), so a text is taken
apart by recursion on its length.  Between tokens stand only the four blanks
that JSON allows.
-/

namespace GameNight.Json

/-- A token.  A quoted text whose escapes leave half a character alone stands
for no text. -/
inductive Token where
  | openArray
  | closeArray
  | openObject
  | closeObject
  | comma
  | colon
  | null
  | bool (b : Bool)
  | number (n : Numeral)
  | text (s : Option (List Char))
deriving DecidableEq

namespace Token

/-- The four characters that may stand between tokens. -/
def isBlank (c : Char) : Bool := c == ' ' || c == '\t' || c == '\n' || c == '\r'

/-- The characters that are tokens by themselves. -/
def mark? (c : Char) : Option Token :=
  if c = '[' then some .openArray
  else if c = ']' then some .closeArray
  else if c = '\x7b' then some .openObject
  else if c = '\x7d' then some .closeObject
  else if c = ',' then some .comma
  else if c = ':' then some .colon
  else none

/-- The words that are tokens. -/
def words : List (List Char × Token) :=
  [(['n', 'u', 'l', 'l'], .null), (['t', 'r', 'u', 'e'], .bool true),
   (['f', 'a', 'l', 's', 'e'], .bool false)]

/-- The word a text begins with, and what follows it. -/
def scanWord? (cs : List Char) : Option (Token × List Char) :=
  (words.find? (·.1.isPrefixOf cs)).map fun w => (w.2, cs.drop w.1.length)

/-- The token a text begins with, and what follows it. -/
def scan? : List Char → Option (Token × List Char)
  | [] => none
  | c :: cs =>
    match mark? c with
    | some t => some (t, cs)
    | none =>
      if c = '"' then (Quoted.scan? cs).map fun (ps, rest) => (.text (Quoted.join? ps), rest)
      else if c = '-' ∨ c.isDigit then
        (Numeral.scan? (c :: cs)).map fun (n, rest) => (.number n, rest)
      else scanWord? (c :: cs)

/-! ## every token takes characters -/

theorem length_lt_of_scanWord {cs rest : List Char} {t : Token}
    (h : scanWord? cs = some (t, rest)) : rest.length < cs.length := by
  obtain ⟨w, hw, he⟩ := Option.map_eq_some_iff.mp h
  have hp : w.1.isPrefixOf cs = true := by simpa using List.find?_some hw
  obtain ⟨r, rfl⟩ := List.isPrefixOf_iff_prefix.mp hp
  obtain ⟨-, rfl⟩ := Prod.mk.inj he
  have : 0 < w.1.length := by
    have := List.mem_of_find?_eq_some hw
    simp [words] at this
    rcases this with rfl | rfl | rfl <;> decide
  simpa using this

theorem length_le_of_scanExponent {cs rest : List Char} {e : Option Int}
    (h : Numeral.scanExponent? cs = some (e, rest)) : rest.length ≤ cs.length := by
  have drop_le : ∀ l : List Char, (l.dropWhile Char.isDigit).length ≤ l.length :=
    fun l => (List.dropWhile_sublist _).length_le
  have sign_le : ∀ l : List Char, (splitSign l).2.length ≤ l.length := fun l => by
    unfold splitSign
    split <;> simp
  unfold Numeral.scanExponent? at h
  split at h
  · simp_all
  · next c r =>
    split at h
    · simp only at h
      split at h
      · cases h
      · obtain ⟨-, rfl⟩ := Prod.mk.inj (Option.some.inj h)
        have h1 := drop_le (splitSign r).2
        have h2 := sign_le r
        simp only [List.length_cons]
        omega
    · simp_all

theorem length_le_of_scanFraction {cs rest run : List Char}
    (h : Numeral.scanFraction? cs = some (run, rest)) : rest.length ≤ cs.length := by
  unfold Numeral.scanFraction? at h
  split at h
  · next ds =>
    simp only at h
    split at h
    · cases h
    · obtain ⟨-, rfl⟩ := Prod.mk.inj (Option.some.inj h)
      have := (List.dropWhile_sublist Char.isDigit (l := ds)).length_le
      simp only [List.length_cons]
      omega
  · simp_all

theorem length_lt_of_scanWhole {cs rest run : List Char}
    (h : Numeral.scanWhole? cs = some (run, rest)) : rest.length < cs.length := by
  simp only [Numeral.scanWhole?] at h
  split at h
  · cases h
  · next hr =>
    obtain ⟨rfl, rfl⟩ := Prod.mk.inj (Option.some.inj h)
    have hl := congrArg List.length (List.takeWhile_append_dropWhile (p := Char.isDigit) (l := cs))
    have hpos : 0 < (cs.takeWhile Char.isDigit).length :=
      List.length_pos_iff.mpr fun e => hr (.inl e)
    rw [List.length_append] at hl
    omega

theorem length_lt_of_scanNumeral {cs rest : List Char} {n : Numeral}
    (h : Numeral.scan? cs = some (n, rest)) : rest.length < cs.length := by
  simp only [Numeral.scan?, Option.bind_eq_bind, Option.bind_eq_some_iff, Option.pure_def] at h
  obtain ⟨⟨whole, r₁⟩, h₁, ⟨fraction, r₂⟩, h₂, ⟨e, r₃⟩, h₃, h⟩ := h
  obtain ⟨-, rfl⟩ := Prod.mk.inj (Option.some.inj h)
  have l₁ := length_lt_of_scanWhole h₁
  have l₂ := length_le_of_scanFraction h₂
  have l₃ := length_le_of_scanExponent h₃
  have l₀ : (Numeral.scanMinus cs).2.length ≤ cs.length := by
    unfold Numeral.scanMinus
    split <;> simp
  exact Nat.lt_of_le_of_lt (Nat.le_trans l₃ l₂) (Nat.lt_of_lt_of_le l₁ l₀)

/-- A token takes at least one character. -/
theorem length_lt_of_scan {cs rest : List Char} {t : Token} (h : scan? cs = some (t, rest)) :
    rest.length < cs.length := by
  unfold scan? at h
  split at h
  · cases h
  · next c cs =>
    split at h
    · simp_all
    · split at h
      · obtain ⟨⟨ps, r⟩, hq, he⟩ := Option.map_eq_some_iff.mp h
        obtain ⟨-, rfl⟩ := Prod.mk.inj he
        exact Nat.lt_succ_of_lt (Quoted.length_lt_of_scan hq)
      · split at h
        · obtain ⟨⟨n, r⟩, hn, he⟩ := Option.map_eq_some_iff.mp h
          obtain ⟨-, rfl⟩ := Prod.mk.inj he
          exact length_lt_of_scanNumeral hn
        · exact length_lt_of_scanWord h

/-! ## whole texts -/

/-- The tokens of a text. -/
def scanAll? (cs : List Char) : Option (List Token) :=
  if cs.dropWhile isBlank = [] then some []
  else match h : scan? (cs.dropWhile isBlank) with
    | none => none
    | some (t, rest) =>
      have : rest.length < cs.length :=
        Nat.lt_of_lt_of_le (length_lt_of_scan h) (List.dropWhile_sublist _).length_le
      (scanAll? rest).map (t :: ·)
termination_by cs.length

/-- The characters of a token.  Text that is none is written as half a
character. -/
def render : Token → List Char
  | .openArray => ['[']
  | .closeArray => [']']
  | .openObject => ['\x7b']
  | .closeObject => ['\x7d']
  | .comma => [',']
  | .colon => [':']
  | .null => ['n', 'u', 'l', 'l']
  | .bool true => ['t', 'r', 'u', 'e']
  | .bool false => ['f', 'a', 'l', 's', 'e']
  | .number n => n.render
  | .text (some s) => Quoted.encode s
  | .text none => ['"', '\\', 'u', 'd', '8', '0', '0', '"']

end Token

end GameNight.Json
