/-!
# GameNight.Text.Pieces

The parts of a text: a text within another one, and text cut at every occurrence
of a separator.  There is always one piece more than there are separators, and
pieces may be empty.  Cutting undoes joining pieces that are free of the
separator (`pieces_intercalate`).
-/

namespace GameNight.Text

/-! ## texts within texts -/

/-- Whether a text occurs somewhere in another one. -/
def occurs (pattern : List Char) : List Char → Bool
  | [] => pattern.isEmpty
  | c :: cs => pattern.isPrefixOf (c :: cs) || occurs pattern cs

/-- A text occurs exactly where other text can be put before and after it. -/
theorem occurs_iff {pattern cs : List Char} : occurs pattern cs = true ↔ pattern <:+: cs := by
  induction cs with
  | nil => simp [occurs]
  | cons c cs ih => simp [occurs, ih, List.infix_cons_iff]

/-! ## cutting -/

/-- The parts of a text between separators. -/
def pieces (sep : Char) : List Char → List (List Char)
  | [] => [[]]
  | c :: cs =>
    if c = sep then [] :: pieces sep cs
    else match pieces sep cs with
      | p :: ps => (c :: p) :: ps
      | [] => [[c]]

@[simp] theorem pieces_nil (sep : Char) : pieces sep [] = [[]] := rfl

theorem pieces_ne_nil (sep : Char) (cs : List Char) : pieces sep cs ≠ [] := by
  cases cs with
  | nil => simp
  | cons c cs =>
    rw [pieces]
    split
    · simp
    · split <;> simp

/-- A separator between two texts separates their pieces. -/
theorem pieces_append (sep : Char) (as bs : List Char) :
    pieces sep (as ++ sep :: bs) = pieces sep as ++ pieces sep bs := by
  induction as with
  | nil => simp [pieces]
  | cons a as ih =>
    by_cases h : a = sep
    · simp [pieces, h, ih]
    · obtain ⟨p, ps, hp⟩ := List.exists_cons_of_ne_nil (pieces_ne_nil sep as)
      simp [pieces, h, ih, hp]

/-! ## pieces and separators -/

/-- A text free of separators is a single piece. -/
theorem pieces_of_notMem {sep : Char} {cs : List Char} (h : sep ∉ cs) : pieces sep cs = [cs] := by
  induction cs with
  | nil => rfl
  | cons c cs ih =>
    have hc : c ≠ sep := fun e => h (by simp [e])
    have hcs : sep ∉ cs := fun e => h (by simp [e])
    simp [pieces, hc, ih hcs]

/-- No piece has a separator in it. -/
theorem notMem_of_mem_pieces {sep : Char} {cs p : List Char} (h : p ∈ pieces sep cs) :
    sep ∉ p := by
  induction cs generalizing p with
  | nil =>
    obtain rfl : p = [] := by simpa using h
    exact List.not_mem_nil
  | cons c cs ih =>
    by_cases hc : c = sep
    · rw [pieces, if_pos hc, List.mem_cons] at h
      rcases h with rfl | h
      · exact List.not_mem_nil
      · exact ih h
    · obtain ⟨q, qs, hq⟩ := List.exists_cons_of_ne_nil (pieces_ne_nil sep cs)
      rw [hq] at ih
      simp only [pieces, if_neg hc, hq, List.mem_cons] at h
      rcases h with rfl | h
      · simpa [Ne.symm hc] using ih List.mem_cons_self
      · exact ih (List.mem_cons_of_mem q h)

/-- Pieces joined by separators are cut apart again. -/
theorem pieces_intercalate {sep : Char} {ps : List (List Char)} (hne : ps ≠ [])
    (h : ∀ p ∈ ps, sep ∉ p) : pieces sep ([sep].intercalate ps) = ps := by
  induction ps with
  | nil => contradiction
  | cons p ps ih =>
    have hp : pieces sep p = [p] := pieces_of_notMem (h p List.mem_cons_self)
    cases ps with
    | nil => rw [List.intercalate_singleton, hp]
    | cons q qs =>
      have hrest : pieces sep ([sep].intercalate (q :: qs)) = q :: qs :=
        ih (List.cons_ne_nil q qs) fun r hr => h r (List.mem_cons_of_mem p hr)
      calc
        pieces sep ([sep].intercalate (p :: q :: qs)) =
            pieces sep (p ++ sep :: [sep].intercalate (q :: qs)) := by simp
        _ = pieces sep p ++ pieces sep ([sep].intercalate (q :: qs)) := pieces_append sep p _
        _ = p :: q :: qs := by rw [hp, hrest]; rfl

end GameNight.Text
