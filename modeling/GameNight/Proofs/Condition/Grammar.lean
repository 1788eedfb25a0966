import GameNight.Proofs.Column.Names
import GameNight.Proofs.Condition.Acceptance
import GameNight.Proofs.Condition.Division

/-!
# GameNight.Proofs.Condition.Grammar

The texts that are clauses.

A clause is a column's name, an operator and a literal, with white space around
each of them.  `Wording` holds these parts, and `Wording.IsClause` says which
wordings are clauses, without any reference to how a clause is divided.

* `Wording.split?_text` — a clause is divided at its operator;
* `Wording.eq_of_text_eq` — a text is a clause in one way only;
* `Condition.parse_eq_ok_of_isClause`, `Condition.exists_isClause_of_parse` — clauses
  are read, and nothing else is;
* `Condition.reads_exactly_clauses` — all of this of every text.
-/

namespace GameNight

open Text (Blank Trimmed)

/-! ## literals -/

/-- The texts that write a literal of a kind: every text does for text, and the
others write a whole number of 64 bits or a number that is finite. -/
def Kind.IsLiteral : Kind → List Char → Prop
  | .text, _ => True
  | .integer, cs => ∃ n, word? cs = some n
  | .float, cs => ∃ negative d, decimal? cs = some (negative, d) ∧
      (d.toBinary64 negative).isFinite = true

theorem Kind.isLiteral_iff {k : Kind} {cs : List Char} :
    k.IsLiteral cs ↔ ∃ v, k.read? cs = some v := by
  cases k with
  | text => exact ⟨fun _ => ⟨_, rfl⟩, fun _ => trivial⟩
  | integer => rfl
  | float =>
    simp only [IsLiteral, read?, finite?, Option.filter_eq_some_iff, Option.map_eq_some_iff]
    constructor
    · rintro ⟨negative, d, hd, hfinite⟩
      exact ⟨_, ⟨(negative, d), hd, rfl⟩, hfinite⟩
    · rintro ⟨_, ⟨⟨negative, d⟩, hd, rfl⟩, hfinite⟩
      exact ⟨negative, d, hd, hfinite⟩

/-! ## signs -/

namespace Operator

/-- The signs that begin operators are no white space and stand in no name. -/
theorem of_opens {c : Char} (h : opens c = true) :
    Text.isBlank c = false ∧ c.toNat < 0x80 ∧ Column.isWordChar c.toLower = false := by
  obtain ⟨op, -, hop⟩ := List.any_eq_true.mp h
  have hc : op.token.head? = some c := beq_iff_eq.mp hop
  cases op <;> obtain rfl := Option.some.inj hc <;> decide

theorem opens_eq_false_of_blank {cs : List Char} (h : Blank cs) : ∀ c ∈ cs, opens c = false := by
  intro c hc
  apply Bool.eq_false_iff.mpr
  intro hopens
  exact Bool.false_ne_true ((of_opens hopens).1.symm.trans (h c hc))

theorem opens_eq_false_of_resolve {name : List Char} {col : Column} (h : Trimmed name)
    (hname : Column.resolve (String.ofList name) = .ok col) : ∀ c ∈ name, opens c = false := by
  intro c hc
  apply Bool.eq_false_iff.mpr
  intro hopens
  obtain ⟨-, hascii, hword⟩ := of_opens hopens
  exact Column.notMem_of_resolve hname h hascii hword hc

/-- White space keeps an operator from running on into a literal. -/
theorem runsOn_append {op : Operator} {gap value : List Char} (hgap : Blank gap) (hne : value ≠ [])
    (rest : List Char) : op.RunsOn (gap ++ value ++ rest) ↔ gap = [] ∧ op.RunsOn value := by
  cases gap with
  | nil =>
    obtain ⟨v, value, rfl⟩ := List.exists_cons_of_ne_nil hne
    simp [RunsOn]
  | cons b gap =>
    have hb : b ≠ '=' := by
      rintro rfl
      exact absurd (hgap '=' List.mem_cons_self) (by decide)
    simp [RunsOn, hb]

end Operator

/-! ## wordings -/

/-- A clause as it is written, part by part. -/
structure Wording where
  lead : List Char
  name : List Char
  /-- What stands between the name and the operator. -/
  beforeOperator : List Char
  operator : Operator
  /-- What stands between the operator and the literal. -/
  afterOperator : List Char
  value : List Char
  trail : List Char

namespace Wording

/-- The text that is written. -/
def text (w : Wording) : List Char :=
  (w.lead ++ w.name ++ w.beforeOperator) ++ w.operator.token ++
    (w.afterOperator ++ w.value ++ w.trail)

/-- The wordings that are clauses on a column. -/
structure IsClause (w : Wording) (c : Column) : Prop where
  blank_lead : Blank w.lead
  blank_beforeOperator : Blank w.beforeOperator
  blank_afterOperator : Blank w.afterOperator
  blank_trail : Blank w.trail
  trimmed_name : Trimmed w.name
  name_ne_nil : w.name ≠ []
  trimmed_value : Trimmed w.value
  value_ne_nil : w.value ≠ []
  /-- The signs `>` and `<` do not touch an equals sign. -/
  separate : ¬ ((w.operator = .greater ∨ w.operator = .less) ∧ w.afterOperator = [] ∧
    w.value.head? = some '=')
  resolves : Column.resolve (String.ofList w.name) = .ok c
  queryable : c.isQueryable = true
  admitted : w.operator.admits c.kind = true
  literal : c.kind.IsLiteral w.value

variable {w w' : Wording} {c c' : Column}

theorem IsClause.not_runsOn (h : w.IsClause c) (rest : List Char) :
    ¬ w.operator.RunsOn (w.afterOperator ++ w.value ++ rest) := by
  rw [Operator.runsOn_append h.blank_afterOperator h.value_ne_nil]
  rintro ⟨hgap, hop, hhead⟩
  exact h.separate ⟨hop, hgap, hhead⟩

/-- No sign stands before the operator of a clause. -/
theorem IsClause.opens_eq_false (h : w.IsClause c) :
    ∀ ch ∈ w.lead ++ w.name ++ w.beforeOperator, Operator.opens ch = false := by
  intro ch hch
  rw [List.mem_append, List.mem_append] at hch
  rcases hch with (hch | hch) | hch
  · exact Operator.opens_eq_false_of_blank h.blank_lead ch hch
  · exact Operator.opens_eq_false_of_resolve h.trimmed_name h.resolves ch hch
  · exact Operator.opens_eq_false_of_blank h.blank_beforeOperator ch hch

/-- A clause is divided at its operator. -/
theorem split?_text (h : w.IsClause c) :
    Operator.split? w.text = some ⟨w.lead ++ w.name ++ w.beforeOperator, w.operator,
      w.afterOperator ++ w.value ++ w.trail⟩ :=
  Operator.split?_append h.opens_eq_false (h.not_runsOn w.trail)

/-- Trimming leaves what lies from the name to the literal. -/
theorem IsClause.trim_text (h : w.IsClause c) :
    Text.trim w.text =
      (w.name ++ w.beforeOperator) ++ w.operator.token ++ (w.afterOperator ++ w.value) := by
  have hmid := h.trimmed_name.append h.trimmed_value h.name_ne_nil h.value_ne_nil
    (w.beforeOperator ++ w.operator.token ++ w.afterOperator)
  calc
    Text.trim w.text = Text.trim (w.lead ++ (w.name ++ (w.beforeOperator ++ w.operator.token ++
        w.afterOperator) ++ w.value) ++ w.trail) := by simp [text]
    _ = w.name ++ (w.beforeOperator ++ w.operator.token ++ w.afterOperator) ++ w.value := by
      rw [Text.trim_blank h.blank_lead h.blank_trail, Text.trim_eq_self hmid]
    _ = _ := by simp

theorem IsClause.split?_trim_text (h : w.IsClause c) :
    Operator.split? (Text.trim w.text) =
      some ⟨w.name ++ w.beforeOperator, w.operator, w.afterOperator ++ w.value⟩ := by
  rw [h.trim_text]
  apply Operator.split?_append
  · intro ch hch
    apply h.opens_eq_false
    rw [List.append_assoc]
    exact List.mem_append_right _ hch
  · have hnot := h.not_runsOn []
    rwa [List.append_nil] at hnot

theorem IsClause.trim_left (h : w.IsClause c) :
    Text.trim (w.name ++ w.beforeOperator) = w.name := by
  have htrim := Text.trim_blank Text.blank_nil h.blank_beforeOperator w.name
  rwa [List.nil_append, Text.trim_eq_self h.trimmed_name] at htrim

theorem IsClause.trim_right (h : w.IsClause c) :
    Text.trim (w.afterOperator ++ w.value) = w.value := by
  have htrim := Text.trim_blank h.blank_afterOperator Text.blank_nil w.value
  rwa [List.append_nil, Text.trim_eq_self h.trimmed_value] at htrim

/-- A text is a clause in one way only. -/
theorem eq_of_text_eq (h : w.IsClause c) (h' : w'.IsClause c') (ht : w.text = w'.text) :
    w = w' ∧ c = c' := by
  have hsplit := split?_text h
  rw [ht, split?_text h'] at hsplit
  obtain ⟨hbefore, hop, hafter⟩ := Operator.Split.mk.inj (Option.some.inj hsplit)
  obtain ⟨hlead, hname, hgap⟩ := Text.eq_of_blank_trimmed_blank h.blank_lead
    h.blank_beforeOperator h'.blank_lead h'.blank_beforeOperator h.trimmed_name h'.trimmed_name
    h.name_ne_nil hbefore.symm
  obtain ⟨hgap', hvalue, htrail⟩ := Text.eq_of_blank_trimmed_blank h.blank_afterOperator
    h.blank_trail h'.blank_afterOperator h'.blank_trail h.trimmed_value h'.trimmed_value
    h.value_ne_nil hafter.symm
  have hcolumn : c = c' := by
    have hc := h.resolves
    rw [hname, h'.resolves] at hc
    exact (Except.ok.inj hc).symm
  obtain ⟨lead, name, before, op, after, value, trail⟩ := w
  obtain ⟨lead', name', before', op', after', value', trail'⟩ := w'
  simp_all

end Wording

/-! ## reading -/

namespace Condition

variable {clause : String} {cond : Condition}

/-- A clause is read as the condition of its two sides. -/
theorem parse_eq_ok_iff :
    parse clause = .ok cond ↔
      ∃ s, Operator.split? (Text.trim clause.toList) = some s ∧
        Text.trim s.before ≠ [] ∧ Text.trim s.after ≠ [] ∧
        Column.resolve (String.ofList (Text.trim s.before)) = .ok cond.column ∧
        ofParts cond.column s.operator (String.ofList (Text.trim s.after)) = .ok cond := by
  unfold parse
  dsimp only
  cases hs : Operator.split? (Text.trim clause.toList) with
  | none => simp
  | some s =>
    simp only [Option.some.injEq, exists_eq_left', Bool.or_eq_true, List.isEmpty_iff]
    split
    · next hempty =>
      rcases hempty with hempty | hempty <;> simp [hempty]
    · next hempty =>
      rw [not_or] at hempty
      cases hc : Column.resolve (String.ofList (Text.trim s.before)) with
      | error fault => simp [bind, Except.bind]
      | ok c =>
        simp only [bind, Except.bind, hempty, ne_eq, not_false_iff, true_and, Except.ok.injEq]
        constructor
        · intro h
          obtain ⟨rfl, -, -⟩ := ofParts_eq_ok_iff.mp h
          exact ⟨rfl, h⟩
        · rintro ⟨rfl, h⟩
          exact h

/-- Every clause whose column takes its operator and its literal is read, with
these as its parts. -/
theorem parse_eq_ok_of_isClause {w : Wording} {c : Column} (h : w.IsClause c)
    (ht : w.text = clause.toList) :
    ∃ cond, parse clause = .ok cond ∧
      (cond.column = c ∧ cond.operator = w.operator ∧ cond.value = String.ofList w.value) ∧
      ofParts c w.operator (String.ofList w.value) = .ok cond := by
  have htrim : Text.trim (String.ofList w.value).toList = w.value := by
    rw [String.toList_ofList, Text.trim_eq_self h.trimmed_value]
  have hreads : ∃ literal, c.kind.read? (Text.trim (String.ofList w.value).toList) = some literal :=
    htrim.symm ▸ Kind.isLiteral_iff.mp h.literal
  obtain ⟨cond, hparts⟩ := (exists_ofParts_iff h.queryable h.admitted).mpr hreads
  obtain ⟨rfl, hoperator, hvalue⟩ := ofParts_eq_ok_iff.mp hparts
  rw [htrim] at hvalue
  refine ⟨cond, ?_, ⟨rfl, hoperator, hvalue⟩, hparts⟩
  apply parse_eq_ok_iff.mpr
  rw [← ht]
  refine ⟨_, h.split?_trim_text, ?_⟩
  rw [h.trim_left, h.trim_right]
  exact ⟨h.name_ne_nil, h.value_ne_nil, h.resolves, hparts⟩

/-- Nothing is read but clauses, and their parts are the parts of the condition. -/
theorem exists_isClause_of_parse (h : parse clause = .ok cond) :
    ∃ w : Wording, w.text = clause.toList ∧ w.IsClause cond.column ∧
      w.operator = cond.operator ∧ w.value = cond.value.toList := by
  obtain ⟨s, hs, hname, hvalue, hresolve, hparts⟩ := parse_eq_ok_iff.mp h
  obtain ⟨-, hop, hwritten⟩ := ofParts_eq_ok_iff.mp hparts
  rw [String.toList_ofList, Text.trim_trim] at hwritten
  -- the white space at the two ends of the clause and of its two sides
  obtain ⟨lead, trail, hlead, htrail, hclause⟩ := Text.exists_blank_trim_blank clause.toList
  obtain ⟨lead', before, hlead', hbefore, hleft⟩ := Text.exists_blank_trim_blank s.before
  obtain ⟨after, trail', hafter, htrail', hright⟩ := Text.exists_blank_trim_blank s.after
  obtain ⟨htext, hstart, -⟩ := Operator.split?_eq_some_iff.mp hs
  refine ⟨⟨lead ++ lead', Text.trim s.before, before, s.operator, after, Text.trim s.after,
    trail' ++ trail⟩, ?_, ?_, hop.symm, ?_⟩
  · calc
      _ = lead ++ ((lead' ++ Text.trim s.before ++ before) ++ s.operator.token ++
          (after ++ Text.trim s.after ++ trail')) ++ trail := by simp [Wording.text]
      _ = lead ++ s.text ++ trail := by rw [← hleft, ← hright]; rfl
      _ = clause.toList := by rw [← htext, ← hclause]
  · have hnot := Operator.start?_token_append.mp hstart
    rw [hright, Operator.runsOn_append hafter hvalue] at hnot
    exact {
      blank_lead := hlead.append hlead'
      blank_beforeOperator := hbefore
      blank_afterOperator := hafter
      blank_trail := htrail'.append htrail
      trimmed_name := Text.trimmed_trim s.before
      name_ne_nil := hname
      trimmed_value := Text.trimmed_trim s.after
      value_ne_nil := hvalue
      separate := fun ⟨hsign, hgap, hhead⟩ => hnot ⟨hgap, hsign, hhead⟩
      resolves := hresolve
      queryable := cond.queryable
      admitted := hop ▸ cond.admitted
      literal := Kind.isLiteral_iff.mpr ⟨cond.literal, by
        simpa [Text.trim_trim] using read?_of_ofParts hparts⟩ }
  · rw [hwritten, String.toList_ofList]

/-- The texts that can be read as a condition are the clauses: white space, the
name of a queryable column, white space, an operator that its kind admits, white
space, a literal of that kind, and white space, where `>` and `<` do not touch an
equals sign.  A text is a clause in one way only, and the condition it is read as
has that column, that operator and that literal, as if they had been given one
by one. -/
theorem reads_exactly_clauses (clause : String) :
    ((∃ cond, parse clause = .ok cond) ↔
      ∃ (w : Wording) (c : Column), w.text = clause.toList ∧ w.IsClause c) ∧
    ∀ (w : Wording) (c : Column), w.text = clause.toList → w.IsClause c →
      (∀ (w' : Wording) (c' : Column), w'.text = clause.toList → w'.IsClause c' →
        w' = w ∧ c' = c) ∧
      ∃ cond, parse clause = .ok cond ∧
        (cond.column = c ∧ cond.operator = w.operator ∧ cond.value = String.ofList w.value) ∧
        ofParts c w.operator (String.ofList w.value) = .ok cond := by
  constructor
  · constructor
    · rintro ⟨cond, h⟩
      obtain ⟨w, ht, hw, -, -⟩ := exists_isClause_of_parse h
      exact ⟨w, cond.column, ht, hw⟩
    · rintro ⟨w, c, ht, hw⟩
      obtain ⟨cond, h, -, -⟩ := parse_eq_ok_of_isClause hw ht
      exact ⟨cond, h⟩
  · intro w c ht hw
    refine ⟨?_, parse_eq_ok_of_isClause hw ht⟩
    intro w' c' ht' hw'
    exact Wording.eq_of_text_eq hw' hw (ht'.trans ht.symm)

/-- A clause whose literal begins with signs of its own, kept apart from the
operator by a tab. -/
theorem reads_clause_of_signs :
    let w : Wording :=
      ⟨[' '], "OBJECTNAME".toList, [' '], .greater, ['\t'], "==x".toList, ['\u3000']⟩
    w.text = " OBJECTNAME >\t==x\u3000".toList ∧ w.IsClause .name ∧
      ∃ cond, parse " OBJECTNAME >\t==x\u3000" = .ok cond ∧
        cond.column = .name ∧ cond.operator = .greater ∧ cond.value = "==x" := by
  intro w
  have ht : w.text = " OBJECTNAME >\t==x\u3000".toList := by decide
  have hw : w.IsClause .name := {
    blank_lead := by decide
    blank_beforeOperator := by decide
    blank_afterOperator := by decide
    blank_trail := by decide
    trimmed_name := by decide
    name_ne_nil := by decide
    trimmed_value := by decide
    value_ne_nil := by decide
    separate := by decide
    resolves := by decide +kernel
    queryable := rfl
    admitted := rfl
    literal := trivial }
  obtain ⟨cond, hparse, hparts, -⟩ := ((reads_exactly_clauses _).2 w .name ht hw).2
  exact ⟨ht, hw, cond, hparse, hparts⟩

end Condition

end GameNight
