import GameNight.Proofs.Condition.Grammar

/-!
# GameNight.Proofs.Condition.Printing

Conditions that survive being written and read.

A condition is written without white space, under the name of its column.  That
is a clause again (`isClause_wording`), unless its operator runs on into its
literal: `name > =x` is written as `name>=x`, which asks for something else.
-/

namespace GameNight.Condition

variable {clause : String} {cond : Condition}

/-- The parts of a condition as it is written. -/
def wording (cond : Condition) : Wording :=
  ⟨[], cond.column.canonicalName.toList, [], cond.operator, [], cond.value.toList, []⟩

theorem text_wording (cond : Condition) : cond.wording.text = cond.render.toList := by
  simp [Wording.text, wording, render]

/-- The literal of a condition that was read is trimmed, and there is something
of it. -/
theorem trimmed_value_of_parse (h : parse clause = .ok cond) :
    Text.Trimmed cond.value.toList ∧ cond.value.toList ≠ [] := by
  obtain ⟨w, -, hw, -, hvalue⟩ := exists_isClause_of_parse h
  exact hvalue ▸ ⟨hw.trimmed_value, hw.value_ne_nil⟩

theorem isClause_wording (hvalue : Text.Trimmed cond.value.toList) (hne : cond.value.toList ≠ [])
    (hop : ¬ cond.operator.RunsOn cond.value.toList) : cond.wording.IsClause cond.column where
  blank_lead := Text.blank_nil
  blank_beforeOperator := Text.blank_nil
  blank_afterOperator := Text.blank_nil
  blank_trail := Text.blank_nil
  trimmed_name := (Column.trimmed_canonicalName cond.column).1
  name_ne_nil := (Column.trimmed_canonicalName cond.column).2
  trimmed_value := hvalue
  value_ne_nil := hne
  separate := fun ⟨hsign, _, hhead⟩ => hop ⟨hsign, hhead⟩
  resolves := by
    rw [wording, String.ofList_toList]
    exact Column.resolve_canonicalName cond.column
  queryable := cond.queryable
  admitted := cond.admitted
  literal := Kind.isLiteral_iff.mpr ⟨cond.literal, cond.reads⟩

/-- What is written of a condition is read as that condition. -/
theorem parse_render (hvalue : Text.Trimmed cond.value.toList) (hne : cond.value.toList ≠ [])
    (hop : ¬ cond.operator.RunsOn cond.value.toList) :
    parse cond.render = .ok cond ∧ ofParts cond.column cond.operator cond.value = .ok cond := by
  obtain ⟨again, hagain, ⟨hcolumn, hoperator, hliteral⟩, hparts⟩ :=
    parse_eq_ok_of_isClause (isClause_wording hvalue hne hop) (text_wording cond)
  obtain rfl : again = cond := ext hcolumn hoperator (hliteral.trans String.ofList_toList)
  exact ⟨hagain, hliteral ▸ hparts⟩

/-- A clause in which the operator runs on is divided at another operator. -/
theorem parse_render_ne (hop : cond.operator.RunsOn cond.value.toList) :
    parse cond.render ≠ .ok cond := by
  intro h
  obtain ⟨w, ht, hw, hoperator, -⟩ := exists_isClause_of_parse h
  obtain ⟨longer, rest, hne, htoken, hrest⟩ := Operator.exists_longer_of_runsOn hop
  have hrender : cond.render.toList = cond.column.canonicalName.toList ++ longer.token ++ rest := by
    rw [List.append_assoc, ← htoken]
    simp [render]
  have hplain := Operator.opens_eq_false_of_resolve (Column.trimmed_canonicalName cond.column).1
    (by rw [String.ofList_toList]; exact Column.resolve_canonicalName cond.column)
  have hsplit := Wording.split?_text hw
  rw [ht, hrender, Operator.split?_append hplain hrest] at hsplit
  apply hne
  rw [← hoperator]
  exact congrArg Operator.Split.operator (Option.some.inj hsplit)

/-- A condition that was read is read again from what is written of it, unless
its operator is `>` or `<` and its literal begins with an equals sign. -/
theorem parse_render_iff (h : parse clause = .ok cond) :
    parse cond.render = .ok cond ↔
      ¬ ((cond.operator = .greater ∨ cond.operator = .less) ∧
        cond.value.toList.head? = some '=') :=
  ⟨fun hread hop => parse_render_ne hop hread, fun hop =>
    (parse_render (trimmed_value_of_parse h).1 (trimmed_value_of_parse h).2 hop).1⟩

/-- An equals sign at the beginning of a literal does no harm behind `==`. -/
theorem parse_render_iff_of_three_equals_signs :
    ∃ cond, parse "objectname == =x " = .ok cond ∧ cond.render = "name===x" ∧
      parse cond.render = .ok cond := by
  let cond : Condition := ⟨.name, .equal, "=x", Text.lower "=x".toList, rfl, rfl, rfl⟩
  have h : parse "objectname == =x " = .ok cond := by decide +kernel
  exact ⟨cond, h, by decide +kernel, (parse_render_iff h).mpr (by decide)⟩

/-- Behind `>` it becomes part of the operator. -/
theorem parse_render_of_greater_equals_sign :
    ∃ cond other, parse "name > =x" = .ok cond ∧ cond.render = "name>=x" ∧
      parse cond.render = .ok other ∧ cond ≠ other := by
  let cond : Condition := ⟨.name, .greater, "=x", Text.lower "=x".toList, rfl, rfl, rfl⟩
  let other : Condition := ⟨.name, .atLeast, "x", Text.lower "x".toList, rfl, rfl, rfl⟩
  exact ⟨cond, other, by decide +kernel, by decide +kernel, by decide +kernel, by decide +kernel⟩

end GameNight.Condition
