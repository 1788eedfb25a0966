import GameNight.Proofs.Number.Digits
import GameNight.Proofs.Text.AsciiCase
import GameNight.Selector
import Mathlib.Data.Finset.SDiff

/-!
# GameNight.Proofs.Selector.Spans

Commands with positions, and the parts of a list that they name.

Two positions name a part of a list if they lie in it, the first one not after the last
one (`IsSpan`).  A command writes each of them in decimal, with zeros in front or not
(`Writes`), and it is read as these positions as long as they are words of 64 bits
(`parse_spanCommand`, `parse_positionCommand`).  What is picked are the games between the
positions (`mem_slice_iff`), as many as there are positions (`length_slice`), and they cut
the list in three (`take_slice_drop`).
-/

namespace GameNight

/-! ## positions in decimal -/

namespace Writes

variable {ds : List Char} {n : Nat}

/-- A position is read if it fits the word. -/
theorem position?_eq (h : Writes ds n) :
    position? ds = if n < 2 ^ 64 then some n else none := by
  obtain ⟨d, rest, hds⟩ := List.exists_cons_of_ne_nil h.ne_nil
  have hplus : d ≠ '+' := (Text.of_isDigit (h.isDigit d (hds ▸ List.mem_cons_self))).2.2.2.2
  have hunsigned : ∀ ds', d :: rest = '+' :: ds' → False := fun _ he => hplus (List.cons.inj he).1
  have hread : natural? (d :: rest) = some n := hds ▸ natural?_eq_some_iff.mpr h
  rw [hds, position?, hread, Option.filter_some]
  · simp only [decide_eq_true_eq, Nat.reducePow]
  · exact hunsigned

theorem trimmed (h : Writes ds n) : Text.Trimmed ds where
  head c hc := (Text.of_isDigit (h.isDigit c (List.mem_of_mem_head? hc))).2.1
  last c hc := (Text.of_isDigit (h.isDigit c (List.mem_of_mem_getLast? hc))).2.1

theorem ascii (h : Writes ds n) : Text.Ascii ds :=
  fun c hc => (Text.of_isDigit (h.isDigit c hc)).2.2.1

theorem map_toLower (h : Writes ds n) : ds.map Char.toLower = ds :=
  (List.map_congr_left fun c hc => (Text.of_isDigit (h.isDigit c hc)).1).trans (List.map_id ds)

theorem hyphen_notMem (h : Writes ds n) : '-' ∉ ds :=
  fun hc => (Text.of_isDigit (h.isDigit _ hc)).2.2.2.1 rfl

end Writes

namespace Selector

variable {ds es : List Char} {n first last : Nat}

/-- The command for the games from one position to another. -/
def spanCommand (ds es : List Char) : String := String.ofList (ds ++ ['-'] ++ es)

/-- The command for the game at one position. -/
def positionCommand (ds : List Char) : String := String.ofList ds

/-- A command in small letters of ASCII is read as it stands, if there is nothing to trim. -/
theorem lower_trim_eq_self {cs : List Char} (htrimmed : Text.Trimmed cs) (hascii : Text.Ascii cs)
    (hsmall : cs.map Char.toLower = cs) : Text.lower (Text.trim cs) = cs := by
  rw [Text.trim_eq_self htrimmed, Text.lower_ascii hascii, hsmall]

theorem lower_trim_span (hfirst : Writes ds first) (hlast : Writes es last) :
    Text.lower (Text.trim (ds ++ ['-'] ++ es)) = ds ++ ['-'] ++ es := by
  refine lower_trim_eq_self (hfirst.trimmed.append hlast.trimmed hfirst.ne_nil hlast.ne_nil _) ?_ ?_
  · intro c hc
    rw [List.mem_append, List.mem_append, List.mem_singleton] at hc
    rcases hc with (hc | rfl) | hc
    · exact hfirst.ascii c hc
    · decide
    · exact hlast.ascii c hc
  · rw [List.map_append, List.map_append, hfirst.map_toLower, hlast.map_toLower]
    rfl

theorem pieces_span (hfirst : Writes ds first) (hlast : Writes es last) :
    Text.pieces '-' (ds ++ ['-'] ++ es) = [ds, es] := by
  rw [List.append_assoc, List.singleton_append, Text.pieces_append,
    Text.pieces_of_notMem hfirst.hyphen_notMem, Text.pieces_of_notMem hlast.hyphen_notMem]
  rfl

/-- Two positions are read if both fit the word. -/
theorem parse_spanCommand (hfirst : Writes ds first) (hlast : Writes es last) :
    parse (spanCommand ds es) =
      if first < 2 ^ 64 ∧ last < 2 ^ 64 then .ok (.range first last)
      else .error (.invalidRange (.notNumbers (spanCommand ds es))) := by
  have hhyphen : '-' ∈ ds ++ ['-'] ++ es := by simp
  have hnil : ds ++ ['-'] ++ es ≠ [] := List.ne_nil_of_mem hhyphen
  have hall : ds ++ ['-'] ++ es ≠ ['a', 'l', 'l'] := by
    intro h
    rw [h] at hhyphen
    contradiction
  simp only [parse, spanCommand, String.toList_ofList, lower_trim_span hfirst hlast, if_neg hnil,
    if_neg hall, if_pos hhyphen, range?, pieces_span hfirst hlast,
    Text.trim_eq_self hfirst.trimmed, Text.trim_eq_self hlast.trimmed, hfirst.position?_eq,
    hlast.position?_eq]
  by_cases hf : first < 2 ^ 64
  · by_cases hl : last < 2 ^ 64 <;> simp only [hf, hl, if_true, if_false, and_self, and_false]
  · simp only [hf, if_false, false_and]

theorem parse_positionCommand (h : Writes ds n) (hn : n < 2 ^ 64) :
    parse (positionCommand ds) = .ok (.index n) := by
  have hlower : Text.lower (Text.trim ds) = ds := lower_trim_eq_self h.trimmed h.ascii h.map_toLower
  have hall : ds ≠ ['a', 'l', 'l'] := by
    rintro rfl
    exact absurd (h.isDigit 'a' List.mem_cons_self) (by decide)
  simp only [parse, positionCommand, String.toList_ofList, hlower, if_neg h.ne_nil, if_neg hall,
    if_neg h.hyphen_notMem, h.position?_eq, if_pos hn]

theorem parse_all : parse "all" = .ok .all := by
  have hlower : Text.lower (Text.trim "all".toList) = ['a', 'l', 'l'] :=
    lower_trim_eq_self (by decide) (by decide) (by decide)
  simp only [parse, hlower]
  rfl

/-! ## positions in a list -/

/-- Positions of a list of this length, the first one not after the last one. -/
structure IsSpan (first last length : Nat) : Prop where
  one_le : 1 ≤ first
  le : first ≤ last
  le_length : last ≤ length

theorem isSpan_iff : IsSpan first last n ↔ 1 ≤ first ∧ first ≤ last ∧ last ≤ n :=
  ⟨fun h => ⟨h.one_le, h.le, h.le_length⟩, fun h => ⟨h.1, h.2.1, h.2.2⟩⟩

instance (first last length : Nat) : Decidable (IsSpan first last length) :=
  decidable_of_iff' _ isSpan_iff

/-- A game at one of the positions from `first` to `last`. -/
def Between (games : List Game) (first last : Nat) (g : Game) : Prop :=
  ∃ i, first ≤ i ∧ i ≤ last ∧ games[i - 1]? = some g

variable {games : List Game}

theorem select_range (h : IsSpan first last games.length) :
    select games (.range first last) = .ok (slice games first last) := by
  obtain ⟨hone, hle, hlength⟩ := h
  rw [select, if_neg (by omega), if_neg (by omega)]

/-- Two positions that name no part of the list are refused. -/
theorem exists_select_range_eq_error (h : ¬ IsSpan first last games.length) :
    ∃ cause, select games (.range first last) = .error (.invalidRange cause) := by
  simp only [select]
  split
  · exact ⟨_, rfl⟩
  split
  · exact ⟨_, rfl⟩
  · exact absurd ⟨by omega, by omega, by omega⟩ h

theorem select_index (h : IsSpan n n games.length) :
    select games (.index n) = .ok (slice games n n) := by
  obtain ⟨hone, -, hlength⟩ := h
  rw [select, if_neg (by omega)]

theorem select_index_eq_error (h : ¬ IsSpan n n games.length) :
    select games (.index n) = .error (.indexOutOfRange n games.length) := by
  rw [select, if_pos]
  by_contra hin
  exact h ⟨by omega, Nat.le_refl n, by omega⟩

/-! ## slices -/

/-- There are as many games in a slice as there are positions. -/
theorem length_slice (h : IsSpan first last games.length) :
    (slice games first last).length = last - first + 1 := by
  obtain ⟨hone, hle, hlength⟩ := h
  rw [slice, List.length_drop, List.length_take]
  omega

/-- No position lies outside the list if a range is picked from it. -/
theorem of_select_range {picked : List Game} (h : select games (.range first last) = .ok picked) :
    IsSpan first last games.length ∧ picked.length = last - first + 1 := by
  by_cases hspan : IsSpan first last games.length
  · rw [select_range hspan] at h
    cases h
    exact ⟨hspan, length_slice hspan⟩
  · obtain ⟨cause, herror⟩ := exists_select_range_eq_error hspan
    rw [herror] at h
    contradiction

theorem of_select_index {picked : List Game} (h : select games (.index n) = .ok picked) :
    IsSpan n n games.length ∧ picked.length = 1 := by
  by_cases hspan : IsSpan n n games.length
  · rw [select_index hspan] at h
    cases h
    exact ⟨hspan, (length_slice hspan).trans (by omega)⟩
  · rw [select_index_eq_error hspan] at h
    contradiction

theorem mem_slice_iff (hfirst : 1 ≤ first) {g : Game} :
    g ∈ slice games first last ↔ Between games first last g := by
  rw [slice, List.mem_iff_getElem?]
  simp only [List.getElem?_drop, List.getElem?_take]
  constructor
  · rintro ⟨i, hi⟩
    split at hi
    · exact ⟨first + i, by omega, by omega, by rwa [show first + i - 1 = first - 1 + i by omega]⟩
    · contradiction
  · rintro ⟨i, hle, hlast, hi⟩
    refine ⟨i - first, ?_⟩
    rw [if_pos (by omega), show first - 1 + (i - first) = i - 1 by omega, hi]

/-- A list is what stands before a slice, the slice, and what stands after it. -/
theorem take_slice_drop (games : List Game) {first last : Nat} (hle : first ≤ last) :
    games.take (first - 1) ++ slice games first last ++ games.drop last = games := by
  have htake : (games.take last).take (first - 1) = games.take (first - 1) := by
    rw [List.take_take, Nat.min_eq_left (by omega)]
  rw [slice, ← htake, List.take_append_drop, List.take_append_drop]

theorem slice_sublist (games : List Game) (first last : Nat) :
    (slice games first last).Sublist games :=
  (List.drop_sublist _ _).trans (List.take_sublist _ _)

theorem around_slice_sublist (games : List Game) {first last : Nat} (hle : first ≤ last) :
    (games.take (first - 1) ++ games.drop last).Sublist games := by
  conv_rhs => rw [← take_slice_drop games hle]
  simp

/-- Games that occur once are beside a slice if they are not in it. -/
theorem toFinset_sdiff_slice {games : List Game} (hnodup : games.Nodup) {first last : Nat}
    (hle : first ≤ last) :
    games.toFinset \ (slice games first last).toFinset =
      (games.take (first - 1) ++ games.drop last).toFinset := by
  have hsplit := take_slice_drop games hle
  rw [← hsplit, List.nodup_append', List.nodup_append'] at hnodup
  obtain ⟨⟨-, -, hbefore⟩, -, hafter⟩ := hnodup
  ext g
  have hmem : g ∈ games ↔
      (g ∈ games.take (first - 1) ∨ g ∈ slice games first last) ∨ g ∈ games.drop last := by
    rw [← List.mem_append, ← List.mem_append, hsplit]
  simp only [Finset.mem_sdiff, List.mem_toFinset, List.mem_append, hmem]
  constructor
  · rintro ⟨(hg | hg) | hg, hnot⟩
    · exact .inl hg
    · contradiction
    · exact .inr hg
  · rintro (hg | hg)
    · exact ⟨.inl (.inl hg), fun hslice => hbefore hg hslice⟩
    · exact ⟨.inr hg, fun hslice => hafter (List.mem_append_right _ hslice) hg⟩

end Selector

end GameNight
