/-!
# GameNight.Json.Quoted

Text between quotes.

`encode` escapes the quote, the backslash and the control characters, and
writes everything else as it is.  Reading is done in two steps.  `scan?` finds
the end of the quoted text and takes it apart into characters and the 16-bit
units that escapes may write; `join?` then puts units together to characters.
A unit that is half of a character without its other half makes the text
unreadable as text, yet its end is found: such a text can be passed over.
-/

namespace GameNight.Json.Quoted

/-! ## writing -/

/-- The two hexadecimal digits of a code point below 256. -/
def hexPair (n : Nat) : List Char := [Nat.digitChar (n / 16), Nat.digitChar (n % 16)]

/-- The letters that stand for a character after a backslash. -/
def escapes : List (Char × Char) :=
  [('"', '"'), ('\\', '\\'), ('/', '/'), ('b', '\x08'), ('f', '\x0C'), ('n', '\n'), ('r', '\r'),
   ('t', '\t')]

/-- A character as it is written between quotes.  A slash needs no escape. -/
def encodeChar (c : Char) : List Char :=
  match escapes.find? fun e => e.2 == c && c != '/' with
  | some (letter, _) => ['\\', letter]
  | none => if c < ' ' then '\\' :: 'u' :: '0' :: '0' :: hexPair c.toNat else [c]

/-- A text between quotes. -/
def encode (cs : List Char) : List Char := '"' :: cs.flatMap encodeChar ++ ['"']

/-! ## reading -/

/-- A part of a quoted text: a character, or a 16-bit unit. -/
inductive Piece where
  | char (c : Char)
  | unit (n : Nat)
deriving DecidableEq, Repr

/-- The value of a hexadecimal digit in either letter case. -/
def hexDigit? (c : Char) : Option Nat :=
  if c.isDigit then some (c.toNat - '0'.toNat)
  else if 'a' ≤ c ∧ c ≤ 'f' then some (c.toNat - 'a'.toNat + 10)
  else if 'A' ≤ c ∧ c ≤ 'F' then some (c.toNat - 'A'.toNat + 10)
  else none

/-- The value of four hexadecimal digits. -/
def unit? (a b c d : Char) : Option Nat := do
  let a ← hexDigit? a
  let b ← hexDigit? b
  let c ← hexDigit? c
  let d ← hexDigit? d
  return ((a * 16 + b) * 16 + c) * 16 + d

/-- The character a letter stands for after a backslash. -/
def escaped? (letter : Char) : Option Char := escapes.lookup letter

/-- The parts of a quoted text up to its closing quote, and what follows. -/
def scan? : List Char → Option (List Piece × List Char)
  | [] => none
  | '"' :: rest => some ([], rest)
  | '\\' :: 'u' :: a :: b :: c :: d :: rest => do
    let n ← unit? a b c d
    let (ps, rest) ← scan? rest
    return (.unit n :: ps, rest)
  | '\\' :: letter :: rest => do
    let c ← escaped? letter
    let (ps, rest) ← scan? rest
    return (.char c :: ps, rest)
  | c :: rest =>
    if c < ' ' then none
    else do
      let (ps, rest) ← scan? rest
      return (.char c :: ps, rest)

/-- Whether a unit is the first half of a character. -/
def isHigh (n : Nat) : Bool := 0xD800 ≤ n && n < 0xDC00

/-- Whether a unit is the second half of a character. -/
def isLow (n : Nat) : Bool := 0xDC00 ≤ n && n < 0xE000

/-- The characters of a quoted text, unless half a character stands alone. -/
def join? : List Piece → Option (List Char)
  | [] => some []
  | .char c :: ps => (join? ps).map (c :: ·)
  | .unit n :: .unit m :: ps =>
    if isHigh n && isLow m then
      (join? ps).map (Char.ofNat (0x10000 + (n - 0xD800) * 0x400 + (m - 0xDC00)) :: ·)
    else if isHigh n || isLow n then none
    else (join? (.unit m :: ps)).map (Char.ofNat n :: ·)
  | .unit n :: ps =>
    if isHigh n || isLow n then none else (join? ps).map (Char.ofNat n :: ·)

/-- Reading takes characters away. -/
theorem length_lt_of_scan {cs rest : List Char} {ps : List Piece} (h : scan? cs = some (ps, rest)) :
    rest.length < cs.length := by
  fun_induction scan? cs generalizing ps rest with
  | case1 => simp at h
  | case2 => simp_all
  | case3 a b c d cs ih =>
    simp only [Option.bind_eq_bind, Option.bind_eq_some_iff, Option.pure_def] at h
    obtain ⟨n, -, ⟨qs, r⟩, hq, he⟩ := h
    have := ih hq
    simp_all
    omega
  | case4 letter cs _ ih =>
    simp only [Option.bind_eq_bind, Option.bind_eq_some_iff, Option.pure_def] at h
    obtain ⟨n, -, ⟨qs, r⟩, hq, he⟩ := h
    have := ih hq
    simp_all
    omega
  | case5 => simp at h
  | case6 c cs _ _ _ _ ih =>
    simp only [Option.bind_eq_bind, Option.bind_eq_some_iff, Option.pure_def] at h
    obtain ⟨⟨qs, r⟩, hq, he⟩ := h
    have := ih hq
    simp_all
    omega

end GameNight.Json.Quoted
