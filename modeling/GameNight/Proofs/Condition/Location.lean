import GameNight.Condition
import GameNight.Proofs.Condition.Division
import GameNight.Proofs.Text.Bytes

/-!
# GameNight.Proofs.Condition.Location

Where in the bytes of a text its operator stands.

Where the bytes of an operator stand among those of a text, the text can be divided at it
(`standsAt_iff`).  Of all divisions of a text, the one that is taken has the least before it
(`before_prefix_of_split?`), and at its place no longer operator stands
(`length_lt_of_split?`).  So the offset that is reported is the least one at which an operator
stands, and the operator is the longest there (`isFirst_of_split?`).  A clause can be cut at both
ends of its operator, and what is cut off is what it is divided into (`parseSliced?_eq`).
-/

namespace GameNight.Operator

/-- Where the operator of a text stands, in bytes from the start, and which it is. -/
def find? (text : String) : Option (Nat × Operator) :=
  (split? text.toList).map fun s => (s.offset, s.operator)

/-- Whether the bytes of an operator stand in a text at an offset. -/
def StandsAt (op : Operator) (text : String) (offset : Nat) : Prop :=
  text.toUTF8.extract offset (offset + op.token.length) = (String.ofList op.token).toUTF8

/-- The first place in a text at which an operator stands, and the longest operator there. -/
structure IsFirst (text : String) (offset : Nat) (op : Operator) : Prop where
  stands : op.StandsAt text offset
  leftmost : ∀ other place, StandsAt other text place → offset ≤ place
  longest : ∀ other, other.StandsAt text offset → other ≠ op →
    other.token.length < op.token.length

theorem IsFirst.unique {text : String} {p q : Nat} {op other : Operator}
    (h : IsFirst text p op) (h' : IsFirst text q other) : p = q ∧ op = other := by
  obtain rfl : p = q :=
    Nat.le_antisymm (h.leftmost other q h'.stands) (h'.leftmost op p h.stands)
  refine ⟨rfl, Decidable.byContradiction fun hne => ?_⟩
  exact Nat.lt_asymm (h.longest other h'.stands (Ne.symm hne)) (h'.longest op h.stands hne)

/-! ## divisions of one text -/

namespace Split

variable {s t : Split}

theorem offset_of_append {r : List Char} (h : s.before ++ r = t.before) :
    t.offset = s.offset + (String.ofList r).utf8ByteSize := by
  simp [offset, ← h]

/-- Of two divisions of one text, the one with less before it lies at the lesser offset. -/
theorem before_prefix_iff (h : s.text = t.text) :
    s.before <+: t.before ↔ s.offset ≤ t.offset := by
  constructor
  · rintro ⟨r, hr⟩
    rw [offset_of_append hr]
    exact Nat.le_add_right _ _
  · intro hle
    have hs : s.before <+: t.text := h ▸ ⟨_, (List.append_assoc ..).symm⟩
    have ht : t.before <+: t.text := ⟨_, (List.append_assoc ..).symm⟩
    rcases List.prefix_or_prefix_of_prefix hs ht with hpre | ⟨r, hr⟩
    · exact hpre
    · -- what is left over takes no bytes
      have hsize : (String.ofList r).utf8ByteSize = 0 := by
        have := offset_of_append hr
        omega
      obtain rfl : r = [] := by simpa using hsize
      exact ⟨[], by simpa using hr.symm⟩

/-- Two divisions at one offset have the same before them. -/
theorem before_eq_of_offset_eq (h : s.text = t.text) (hoffset : s.offset = t.offset) :
    s.before = t.before := by
  have hst := (before_prefix_iff h).mpr (Nat.le_of_eq hoffset)
  have hts := (before_prefix_iff h.symm).mpr (Nat.le_of_eq hoffset.symm)
  exact hst.eq_of_length_le hts.length_le

end Split

section

variable {cs : List Char} {s t : Split}

/-- A text is divided where it has the least before it. -/
theorem before_prefix_of_split? (h : split? cs = some s) (ht : t.text = cs) :
    s.before <+: t.before := by
  obtain ⟨hs, -, hnone⟩ := split?_eq_some_iff.mp h
  have hsame : s.text = t.text := hs.symm.trans ht.symm
  have hpre : s.before <+: s.text := ⟨_, (List.append_assoc ..).symm⟩
  have hpre' : t.before <+: s.text := hsame ▸ ⟨_, (List.append_assoc ..).symm⟩
  rcases List.prefix_or_prefix_of_prefix hpre hpre' with hle | ⟨r, hr⟩
  · exact hle
  · by_cases hne : r = []
    · exact ⟨[], by simpa [hne] using hr.symm⟩
    · -- the other operator would stand before the first one
      have hrest : r ++ s.operator.token ++ s.after = t.operator.token ++ t.after := by
        apply (List.append_right_inj t.before).mp
        simpa [Split.text, ← hr] using hsame
      have hstart := hnone r ⟨t.before, hr⟩ hne
      rw [hrest] at hstart
      exact absurd (List.prefix_append _ _) (start?_eq_none_iff.mp hstart t.operator)

/-- A text is divided at the longest operator of the place. -/
theorem length_lt_of_split? (h : split? cs = some s) (ht : t.text = cs)
    (hbefore : t.before = s.before) (hne : t.operator ≠ s.operator) :
    t.operator.token.length < s.operator.token.length := by
  obtain ⟨hs, hstart, -⟩ := split?_eq_some_iff.mp h
  have hrest : t.operator.token ++ t.after = s.operator.token ++ s.after := by
    apply (List.append_right_inj s.before).mp
    simpa [Split.text, hbefore] using ht.trans hs
  rw [← hrest] at hstart
  exact length_lt_of_start? hstart (List.prefix_append _ _) hne

end

/-! ## bytes -/

section

variable {text : String} {op : Operator} {s : Split}

/-- Tokens have one byte for each character. -/
theorem utf8ByteSize_token (op : Operator) :
    (String.ofList op.token).utf8ByteSize = op.token.length := by
  cases op <;> decide

/-- A text that is divided is made of three texts. -/
theorem eq_append_of_text (h : s.text = text.toList) :
    text = String.ofList s.before ++ String.ofList s.operator.token ++ String.ofList s.after := by
  rw [← String.ofList_toList (s := text), ← h, Split.text, String.ofList_append,
    String.ofList_append]

/-- Operators stand where a text can be divided at them. -/
theorem standsAt_iff {p : Nat} :
    op.StandsAt text p ↔ ∃ s : Split, s.text = text.toList ∧ s.operator = op ∧ s.offset = p := by
  rw [StandsAt, ← utf8ByteSize_token]
  constructor
  · intro h
    have htoken : String.ofList op.token ≠ "" := by cases op <;> decide
    obtain ⟨a, b, rfl, rfl⟩ := Text.exists_append_of_extract htoken h
    exact ⟨⟨a.toList, op, b.toList⟩, by simp [Split.text], rfl, by simp [Split.offset]⟩
  · rintro ⟨s, hs, rfl, rfl⟩
    rw [eq_append_of_text hs]
    exact Text.extract_between _ _ _

theorem isFirst_of_split? (h : split? text.toList = some s) :
    IsFirst text s.offset s.operator where
  stands := standsAt_iff.mpr ⟨s, text_of_split? h, rfl, rfl⟩
  leftmost other place hother := by
    obtain ⟨t, ht, -, rfl⟩ := standsAt_iff.mp hother
    exact (Split.before_prefix_iff ((text_of_split? h).trans ht.symm)).mp
      (before_prefix_of_split? h ht)
  longest other hother hne := by
    obtain ⟨t, ht, rfl, hoffset⟩ := standsAt_iff.mp hother
    have hbefore := Split.before_eq_of_offset_eq (ht.trans (text_of_split? h).symm) hoffset
    exact length_lt_of_split? h ht hbefore hne

theorem find?_eq_none_iff : find? text = none ↔ ∀ op : Operator, ¬ op.token <:+: text.toList := by
  rw [find?, Option.map_eq_none_iff, split?_eq_none_iff]

theorem find?_eq_some_iff {p : Nat} : find? text = some (p, op) ↔ IsFirst text p op := by
  constructor
  · intro h
    obtain ⟨s, hs, hpair⟩ := Option.map_eq_some_iff.mp h
    obtain ⟨rfl, rfl⟩ := Prod.mk.inj hpair
    exact isFirst_of_split? hs
  · intro h
    obtain ⟨t, ht, -, -⟩ := standsAt_iff.mp h.stands
    cases hs : split? text.toList with
    | none =>
      have hnot := split?_eq_none_iff.mp hs t.operator
      exact absurd ⟨t.before, t.after, ht⟩ hnot
    | some s =>
      obtain ⟨rfl, rfl⟩ := h.unique (isFirst_of_split? hs)
      rw [find?, hs, Option.map_some]

/-! ## cutting a text at its operator -/

/-- A text is cut into what a clause has before and after its operator. -/
theorem slice?_of_text (h : s.text = text.toList) :
    Text.slice? text 0 s.offset = some (String.ofList s.before) ∧
      Text.slice? text (s.offset + s.operator.token.length) text.utf8ByteSize =
        some (String.ofList s.after) := by
  rw [eq_append_of_text h, ← utf8ByteSize_token]
  constructor
  · have hcut := Text.slice?_append "" (String.ofList s.before)
      (String.ofList s.operator.token ++ String.ofList s.after)
    simpa [String.append_assoc, Split.offset] using hcut
  · have hcut := Text.slice?_append (String.ofList s.before ++ String.ofList s.operator.token)
      (String.ofList s.after) ""
    simpa [Nat.add_assoc, Split.offset] using hcut

/-- Both ends of the operator that is found lie between characters of the text. -/
theorem isValid_of_find? {p : Nat} (h : find? text = some (p, op)) :
    (⟨p⟩ : String.Pos.Raw).IsValid text ∧
      (⟨p + op.token.length⟩ : String.Pos.Raw).IsValid text := by
  obtain ⟨s, hs, hpair⟩ := Option.map_eq_some_iff.mp h
  obtain ⟨rfl, rfl⟩ := Prod.mk.inj hpair
  rw [eq_append_of_text (text_of_split? hs), ← utf8ByteSize_token]
  exact Text.isValid_append ..

/-- Reads a clause by cutting its bytes at the operator that is found; no result means that they
cannot be cut there. -/
def parseSliced? (clause : String) : Option (Except Fault Condition) :=
  let written := String.ofList (Text.trim clause.toList)
  let malformed := Fault.malformedClause written
  match find? written with
  | none => some (.error malformed)
  | some (offset, op) => do
    let before ← Text.slice? written 0 offset
    let after ← Text.slice? written (offset + op.token.length) written.utf8ByteSize
    let name := Text.trim before.toList
    let value := Text.trim after.toList
    return if name.isEmpty || value.isEmpty then .error malformed
      else do
        let column ← Column.resolve (String.ofList name)
        Condition.ofParts column op (String.ofList value)

/-- Clauses can always be cut, and cutting them is dividing them. -/
theorem parseSliced?_eq (clause : String) :
    parseSliced? clause = some (Condition.parse clause) := by
  rw [parseSliced?, Condition.parse, find?, String.toList_ofList]
  cases hs : split? (Text.trim clause.toList) with
  | none => rfl
  | some s =>
    have htext : s.text = (String.ofList (Text.trim clause.toList)).toList := by
      rw [String.toList_ofList, text_of_split? hs]
    obtain ⟨hbefore, hafter⟩ := slice?_of_text htext
    simp only [Option.map_some, hbefore, hafter, Option.bind_eq_bind, Option.bind_some,
      String.toList_ofList]
    rfl

/-- No operator is found in a text exactly if none occurs in it.  Else the operator that is
found stands at the least offset at which the bytes of any operator stand, and is the longest
that stands there.  Both of its ends lie between characters, within the text, so that a clause can
be cut there, whatever it is. -/
theorem found_leftmost_and_longest (text : String) :
    (find? text = none ↔ ∀ op : Operator, ¬ op.token <:+: text.toList) ∧
    (∀ p op, find? text = some (p, op) ↔ IsFirst text p op) ∧
    (∀ p op, find? text = some (p, op) →
      (⟨p⟩ : String.Pos.Raw).IsValid text ∧
      (⟨p + op.token.length⟩ : String.Pos.Raw).IsValid text ∧
      p + op.token.length ≤ text.utf8ByteSize) ∧
    parseSliced? text = some (Condition.parse text) := by
  refine ⟨find?_eq_none_iff, fun p op => find?_eq_some_iff, ?_, parseSliced?_eq text⟩
  intro p op h
  obtain ⟨hstart, hend⟩ := isValid_of_find? h
  exact ⟨hstart, hend, hend.le_utf8ByteSize⟩

/-- Behind two characters of three bytes each, in front of another operator that runs on. -/
theorem found_leftmost_and_longest_behind_six_bytes :
    let text := "名前>==>Go"
    find? text = some (6, .atLeast) ∧ IsFirst text 6 .atLeast ∧
      (⟨6⟩ : String.Pos.Raw).IsValid text ∧ (⟨8⟩ : String.Pos.Raw).IsValid text ∧
      parseSliced? text = some (Condition.parse text) := by
  intro text
  have hfound : find? text = some (6, .atLeast) := by decide
  obtain ⟨-, hfirst, hends, hsliced⟩ := found_leftmost_and_longest text
  obtain ⟨hstart, hend, -⟩ := hends 6 .atLeast hfound
  exact ⟨hfound, (hfirst 6 .atLeast).mp hfound, hstart, hend, hsliced⟩

end

end GameNight.Operator
