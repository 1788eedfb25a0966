import GameNight.Json.Quoted

/-!
# GameNight.Proofs.Json.Quoted

Text between quotes is read as it was written, whatever its characters are.

A written character is read as one part of the text: as the 16-bit unit of its code point when it
is a control character without a letter of its own, else as itself (`scan?_encodeChar`).  Control
characters are no halves of characters, so the parts are put together again (`join?_pieces`).
-/

namespace GameNight.Json.Quoted

/-- Whether a character is written by its code point. -/
def isByCode (c : Char) : Bool :=
  (escapes.find? fun e => e.2 == c && c != '/').isNone && c < ' '

/-- What a written character is read as. -/
def piece (c : Char) : Piece := if isByCode c then .unit c.toNat else .char c

/-! ## one character -/

/-- The characters that are written with a letter of their own. -/
theorem scan?_escape {e : Char × Char} (he : e ∈ escapes) (rest : List Char) :
    scan? ('\\' :: e.1 :: rest) = (scan? rest).map fun (ps, r) => (.char e.2 :: ps, r) := by
  simp only [escapes, List.mem_cons, List.not_mem_nil, or_false] at he
  rcases he with rfl | rfl | rfl | rfl | rfl | rfl | rfl | rfl <;>
    simp [scan?, escaped?, escapes, Option.bind_eq_bind, Option.map_eq_bind] <;> rfl

/-- Two hexadecimal digits are read as the code point they were written for. -/
theorem unit?_hexPair : ∀ n < 32,
    unit? '0' '0' (Nat.digitChar (n / 16)) (Nat.digitChar (n % 16)) = some n := by
  decide

theorem scan?_byCode {n : Nat} (hn : n < 32) (rest : List Char) :
    scan? ('\\' :: 'u' :: '0' :: '0' :: (hexPair n ++ rest)) =
      (scan? rest).map fun (ps, r) => (.unit n :: ps, r) := by
  simp only [hexPair, List.cons_append, List.nil_append, scan?, unit?_hexPair n hn,
    Option.bind_eq_bind, Option.bind_some, Option.map_eq_bind]
  rfl

theorem scan?_plain {c : Char} (hquote : c ≠ '"') (hslash : c ≠ '\\') (hc : ¬c < ' ')
    (rest : List Char) :
    scan? (c :: rest) = (scan? rest).map fun (ps, r) => (.char c :: ps, r) := by
  rw [scan?.eq_def]
  split
  · contradiction
  · next heq => exact absurd (List.cons.inj heq).1 hquote
  · next heq => exact absurd (List.cons.inj heq).1 hslash
  · next heq => exact absurd (List.cons.inj heq).1 hslash
  · next heq =>
    obtain ⟨rfl, rfl⟩ := List.cons.inj heq
    rw [if_neg hc, Option.map_eq_bind]
    rfl

theorem toNat_lt_of_lt_blank {c : Char} (h : c < ' ') : c.toNat < 32 := h

/-- A written character is read as its piece. -/
theorem scan?_encodeChar (c : Char) (rest : List Char) :
    scan? (encodeChar c ++ rest) = (scan? rest).map fun (ps, r) => (piece c :: ps, r) := by
  cases hfind : escapes.find? fun e => e.2 == c && c != '/' with
  | some e =>
    have hletter : e.2 = c := by
      have := List.find?_some hfind
      simp only [Bool.and_eq_true, beq_iff_eq] at this
      exact this.1
    have hencode : encodeChar c = ['\\', e.1] := by rw [encodeChar, hfind]
    have hpiece : piece c = .char e.2 := by rw [piece, isByCode, hfind, hletter]; rfl
    rw [hencode, hpiece]
    exact scan?_escape (List.mem_of_find?_eq_some hfind) rest
  | none =>
    by_cases hc : c < ' '
    · have hencode : encodeChar c = '\\' :: 'u' :: '0' :: '0' :: hexPair c.toNat := by
        rw [encodeChar, hfind]
        exact if_pos hc
      have hpiece : piece c = .unit c.toNat := by
        rw [piece, isByCode, hfind]
        exact if_pos (by simpa using hc)
      rw [hencode, hpiece]
      exact scan?_byCode (toNat_lt_of_lt_blank hc) rest
    · have hencode : encodeChar c = [c] := by
        rw [encodeChar, hfind]
        exact if_neg hc
      have hpiece : piece c = .char c := by
        rw [piece, isByCode, hfind]
        exact if_neg (by simpa using hc)
      rw [hencode, hpiece]
      refine scan?_plain ?_ ?_ hc rest
      · rintro rfl
        exact absurd hfind (by decide)
      · rintro rfl
        exact absurd hfind (by decide)

/-! ## a whole text -/

theorem scan?_encode (cs rest : List Char) :
    scan? (cs.flatMap encodeChar ++ '"' :: rest) = some (cs.map piece, rest) := by
  induction cs with
  | nil => rfl
  | cons c cs ih =>
    rw [List.flatMap_cons, List.append_assoc, scan?_encodeChar, ih]
    rfl

theorem join?_char (c : Char) (ps : List Piece) :
    join? (.char c :: ps) = (join? ps).map (c :: ·) := rfl

/-- A unit of a control character stands for it, whatever follows. -/
theorem join?_unit {n : Nat} (hn : n < 32) (ps : List Piece) :
    join? (.unit n :: ps) = (join? ps).map (Char.ofNat n :: ·) := by
  have hhigh : isHigh n = false := by
    rw [isHigh, Bool.and_eq_false_iff, decide_eq_false_iff_not]
    exact .inl (by omega)
  have hlow : isLow n = false := by
    rw [isLow, Bool.and_eq_false_iff, decide_eq_false_iff_not]
    exact .inl (by omega)
  cases ps with
  | nil => simp [join?, hhigh, hlow]
  | cons p ps => cases p <;> simp [join?, hhigh, hlow]

/-- The parts of a written text are put together again. -/
theorem join?_pieces (cs : List Char) : join? (cs.map piece) = some cs := by
  induction cs with
  | nil => rfl
  | cons c cs ih =>
    rw [List.map_cons, piece]
    split
    · next hc =>
      have hlt : c < ' ' := by
        rw [isByCode, Bool.and_eq_true, decide_eq_true_eq] at hc
        exact hc.2
      rw [join?_unit (toNat_lt_of_lt_blank hlt), ih, Char.ofNat_toNat]
      rfl
    · rw [join?_char, ih]
      rfl

end GameNight.Json.Quoted
