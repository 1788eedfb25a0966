/-!
# GameNight.Text.Blank

White space, and text without the white space around it.

Everything a person types (a clause, a column name, a command) is read up to
the white space at its two ends, so `trim` is the first step of every reader
of this library.  White space here is the Unicode property `White_Space`: it
holds the no-break spaces and the line separators, and leaves out the
zero-width characters and the four information separators.

A property of characters is a short list of runs of code points (`Span`), in the
order of their code points.
-/

namespace GameNight.Text

/-! ## runs of code points -/

/-- The code points from `first` to `last`, both included. -/
structure Span where
  first : Nat
  last : Nat
deriving DecidableEq, Repr

namespace Span

/-- Whether a code point lies in the run. -/
def covers (s : Span) (n : Nat) : Bool := s.first ≤ n && n ≤ s.last

theorem covers_iff {s : Span} {n : Nat} : s.covers n = true ↔ s.first ≤ n ∧ n ≤ s.last := by
  simp [covers]

end Span

/-- Whether a character lies in one of the runs. -/
def inSpans (c : Char) (spans : List Span) : Bool := spans.any (·.covers c.toNat)

/-! ## white space -/

/-- The code points with the property `White_Space`. -/
def blankSpans : List Span :=
  [⟨0x9, 0xD⟩, ⟨0x20, 0x20⟩, ⟨0x85, 0x85⟩, ⟨0xA0, 0xA0⟩, ⟨0x1680, 0x1680⟩, ⟨0x2000, 0x200A⟩,
   ⟨0x2028, 0x2029⟩, ⟨0x202F, 0x202F⟩, ⟨0x205F, 0x205F⟩, ⟨0x3000, 0x3000⟩]

/-- Whether a character is white space. -/
def isBlank (c : Char) : Bool := inSpans c blankSpans

/-- Text without its leading white space. -/
def trimStart (cs : List Char) : List Char := cs.dropWhile isBlank

/-- Text without its trailing white space. -/
def trimEnd (cs : List Char) : List Char := (cs.reverse.dropWhile isBlank).reverse

/-- Text without the white space at its two ends.  Inner white space stays. -/
def trim (cs : List Char) : List Char := trimEnd (trimStart cs)

/-! ## what trimming leaves -/

@[simp] theorem trim_nil : trim [] = [] := rfl

@[simp] theorem trimStart_nil : trimStart [] = [] := rfl

/-- A first character that stays is no white space. -/
theorem isBlank_head_of_trimStart {cs r : List Char} {c : Char} (h : trimStart cs = c :: r) :
    isBlank c = false := by
  have := List.head?_dropWhile_not isBlank cs
  simp_all [trimStart]

end GameNight.Text
