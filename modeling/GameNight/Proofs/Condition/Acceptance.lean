import GameNight.Condition

/-!
# GameNight.Proofs.Condition.Acceptance

Which parts make a condition.

A condition carries the proofs that its column is queryable, that its operator
is admitted and that its text reads, so `ofParts` accepts a column, an operator
and a text exactly when some condition has them (`ofParts_eq_ok_iff`).  Where
column and operator are accepted, the text alone decides (`exists_ofParts_iff`),
and one accepted operator stands for every other that the column admits
(`ofParts_withOperator`).
-/

namespace GameNight

theorem Operator.admits_of_ne {op : Operator} (h : op ≠ .contains) (k : Kind) :
    op.admits k = true := by
  simp [admits, h]

namespace Condition

/-- Parts are accepted as the condition that has them, its text trimmed. -/
theorem ofParts_eq_ok_iff {c : Column} {op : Operator} {text : String} {cond : Condition} :
    ofParts c op text = .ok cond ↔
      cond.column = c ∧ cond.operator = op ∧
        cond.value = String.ofList (Text.trim text.toList) := by
  unfold ofParts
  constructor
  · intro h
    split at h
    · split at h
      · dsimp only at h
        split at h
        · cases h
          exact ⟨rfl, rfl, rfl⟩
        · contradiction
      · contradiction
    · contradiction
  · rintro ⟨rfl, rfl, hv⟩
    rw [dif_pos cond.queryable, dif_pos cond.admitted]
    dsimp only
    split
    · exact congrArg Except.ok (ext rfl rfl hv.symm)
    · next hr =>
      rw [← hv, cond.reads] at hr
      contradiction

/-! ## literals -/

section Literal

variable {c : Column} {op : Operator} {text : String}

/-- The literal of a condition is what its text reads as. -/
theorem read?_of_ofParts {cond : Condition} (h : ofParts c op text = .ok cond) :
    cond.column.kind.read? (Text.trim text.toList) = some cond.literal := by
  obtain ⟨-, -, hv⟩ := ofParts_eq_ok_iff.mp h
  rw [← cond.reads, hv, String.toList_ofList]

/-- A queryable column and an operator that it admits are accepted with the texts that
read. -/
theorem exists_ofParts_iff (hq : c.isQueryable = true) (ha : op.admits c.kind = true) :
    (∃ cond, ofParts c op text = .ok cond) ↔
      ∃ literal, c.kind.read? (Text.trim text.toList) = some literal := by
  constructor
  · rintro ⟨cond, hcond⟩
    have hread := read?_of_ofParts hcond
    obtain ⟨rfl, -, -⟩ := ofParts_eq_ok_iff.mp hcond
    exact ⟨_, hread⟩
  · rintro ⟨literal, hread⟩
    have hvalue : c.kind.read? (String.ofList (Text.trim text.toList)).toList = some literal := by
      rw [String.toList_ofList, hread]
    exact ⟨⟨c, op, _, literal, hq, ha, hvalue⟩, ofParts_eq_ok_iff.mpr ⟨rfl, rfl, rfl⟩⟩

/-- With a text that does not read, it is the literal that is refused. -/
theorem ofParts_eq_invalidLiteral (hq : c.isQueryable = true) (ha : op.admits c.kind = true)
    (hr : ¬ ∃ literal, c.kind.read? (Text.trim text.toList) = some literal) :
    ofParts c op text =
      .error (.invalidLiteral c (String.ofList (Text.trim text.toList))) := by
  rw [ofParts, dif_pos hq, dif_pos ha]
  dsimp only
  split
  · next literal hread =>
    rw [String.toList_ofList] at hread
    exact absurd ⟨literal, hread⟩ hr
  · rfl

end Literal

/-! ## the operators of one literal -/

/-- A condition on the same column and literal with another operator. -/
def withOperator (cond : Condition) (op : Operator) (h : op.admits cond.column.kind = true) :
    Condition :=
  { cond with operator := op, admitted := h }

/-- What is accepted with one operator is accepted with every operator of the
column's kind. -/
theorem ofParts_withOperator {c : Column} {op op' : Operator} {text : String} {cond : Condition}
    (h : ofParts c op text = .ok cond) (h' : op'.admits cond.column.kind = true) :
    ofParts c op' text = .ok (cond.withOperator op' h') := by
  obtain ⟨hc, -, hv⟩ := ofParts_eq_ok_iff.mp h
  exact ofParts_eq_ok_iff.mpr ⟨hc, rfl, hv⟩

theorem matchesGame_withOperator (cond : Condition) {op : Operator}
    (h : op.admits cond.column.kind = true) (tolerance : Binary64) (g : Game) :
    (cond.withOperator op h).matchesGame tolerance g =
      cond.column.kind.test tolerance op (cond.column.value g) cond.literal := rfl

end Condition

end GameNight
