import GameNight.Text.LetterCase

/-!
# GameNight.Text.Lower

Two ways to take the letter case out of a text.

* `lower` is the lower-case form of a text as a reader would write it.  It
  looks at the letters around a capital sigma, whose small form differs at the
  end of a word.
* `fold` lower-cases each character by itself.  It is what listings are
  ordered by: the key of a text never depends on where a letter stands.

The two agree on every text without a capital sigma.  Two texts may be equal in
the order of listings, by the code points of their keys, without being the same
text.
-/

namespace GameNight.Text

/-! ## single characters -/

/-- The lower-case form of a character on its own.  The capital I with a dot
is the one character whose form has two characters. -/
def lowerChar (c : Char) : List Char :=
  if c = 'İ' then ['i', '\u0307']
  else match lowerRuns.find? (·.covers c.toNat) with
    | some r => [Char.ofNat (r.toLower c.toNat)]
    | none => [c]

/-- Text with each character lower-cased by itself. -/
def fold (cs : List Char) : List Char := cs.flatMap lowerChar

@[simp] theorem fold_nil : fold [] = [] := rfl

@[simp] theorem fold_cons (c : Char) (cs : List Char) : fold (c :: cs) = lowerChar c ++ fold cs :=
  rfl

@[simp] theorem fold_append (as bs : List Char) : fold (as ++ bs) = fold as ++ fold bs := by
  simp [fold]

/-! ## the order of listings -/

/-- Compares two texts ignoring letter case. -/
def compareFolded (as bs : List Char) : Ordering := compare (fold as) (fold bs)

theorem compareFolded_eq_iff {as bs : List Char} : compareFolded as bs = .eq ↔ fold as = fold bs :=
  Std.compare_eq_iff_eq

instance : Std.TransCmp compareFolded := inferInstanceAs (Std.TransCmp (compareOn fold))

/-! ## words -/

/-- Whether the nearest character that is not passed over is a cased letter.
The characters are given in the order in which one meets them. -/
def meetsLetter (cs : List Char) : Bool :=
  match cs.dropWhile isCaseIgnorable with
  | c :: _ => isCased c
  | [] => false

/-- The small form of a capital sigma between `before`, nearest character
first, and `after`: final at the end of a word, and medial elsewhere. -/
def lowerSigma (before after : List Char) : Char :=
  if meetsLetter before && !meetsLetter after then 'ς' else 'σ'

/-- The lower-case form of a text that follows `before`, given nearest
character first. -/
def lowerAfter (before : List Char) : List Char → List Char
  | [] => []
  | c :: cs =>
    (if c = 'Σ' then [lowerSigma before cs] else lowerChar c) ++ lowerAfter (c :: before) cs

/-- The lower-case form of a text. -/
def lower (cs : List Char) : List Char := lowerAfter [] cs

@[simp] theorem lower_nil : lower [] = [] := rfl

/-- Only a capital sigma looks around itself. -/
theorem lowerAfter_eq_fold {cs : List Char} (h : 'Σ' ∉ cs) (before : List Char) :
    lowerAfter before cs = fold cs := by
  induction cs generalizing before with
  | nil => rfl
  | cons c cs ih =>
    have hc : c ≠ 'Σ' := fun e => h (by simp [e])
    have hcs : 'Σ' ∉ cs := fun e => h (by simp [e])
    simp [lowerAfter, hc, ih hcs]

/-- Without a capital sigma the two lower-case forms agree. -/
theorem lower_eq_fold {cs : List Char} (h : 'Σ' ∉ cs) : lower cs = fold cs :=
  lowerAfter_eq_fold h []

end GameNight.Text
