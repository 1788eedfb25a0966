import GameNight.Operator

/-!
# GameNight.Proofs.Condition.Division

Where a clause is divided.

A text is divided at the first place at which some operator stands, and at the
longest operator that stands there (`split?_eq_some_iff`).  The one way in which
an operator can be misread is that it runs on into the text behind it: `>` and
`<` do before `=` (`start?_token_append`).  Behind a text without the signs that
begin operators, every other operator is where the whole is divided
(`split?_append`).
-/

namespace GameNight.Operator

/-- Whether some operator begins with a character. -/
def opens (c : Char) : Bool := all.any fun op => op.token.head? == some c

/-- Whether an operator and the text behind it begin with a longer operator. -/
def RunsOn (op : Operator) (after : List Char) : Prop :=
  (op = .greater ∨ op = .less) ∧ after.head? = some '='

instance (op : Operator) (after : List Char) : Decidable (op.RunsOn after) :=
  inferInstanceAs (Decidable (_ ∧ _))

theorem token_ne_nil (op : Operator) : op.token ≠ [] := by cases op <;> decide

/-! ## the operator a text begins with -/

/-- A text that begins with an operator is read as beginning with it, unless
the operator runs on. -/
theorem start?_token_append {op : Operator} {after : List Char} :
    start? (op.token ++ after) = some op ↔ ¬ op.RunsOn after := by
  cases op with
  | equal | notEqual | contains | atLeast | atMost =>
    simp only [RunsOn, reduceCtorEq, or_self, false_and, not_false_iff, iff_true]
    rfl
  | greater | less =>
    cases after with
    | nil => decide
    | cons c cs =>
      by_cases hc : c = '='
      · subst hc
        simp [RunsOn, start?, all, token]
      · simp [RunsOn, start?, all, token, hc, Ne.symm hc]

/-- An operator that runs on makes a longer one with the text behind it. -/
theorem exists_longer_of_runsOn {op : Operator} {after : List Char} (h : op.RunsOn after) :
    ∃ longer rest, longer ≠ op ∧ op.token ++ after = longer.token ++ rest ∧
      ¬ longer.RunsOn rest := by
  obtain ⟨hop, hhead⟩ := h
  obtain ⟨rest, rfl⟩ := List.head?_eq_some_iff.mp hhead
  rcases hop with rfl | rfl
  · exact ⟨.atLeast, rest, by decide, rfl, by simp [RunsOn]⟩
  · exact ⟨.atMost, rest, by decide, rfl, by simp [RunsOn]⟩

theorem start?_eq_none_iff {cs : List Char} :
    start? cs = none ↔ ∀ op : Operator, ¬ op.token <+: cs := by
  simp only [start?, List.find?_eq_none, List.isPrefixOf_iff_prefix]
  exact ⟨fun h op => h op op.mem_all, fun h op _ => h op⟩

theorem start?_eq_none {cs : List Char} (h : ∀ c ∈ cs.head?, opens c = false) :
    start? cs = none := by
  rw [start?_eq_none_iff]
  rintro op ⟨rest, rfl⟩
  obtain ⟨c, cs, hc⟩ := List.exists_cons_of_ne_nil op.token_ne_nil
  have hopens : opens c = true := List.any_eq_true.mpr ⟨op, op.mem_all, by simp [hc]⟩
  rw [h c (by simp [hc])] at hopens
  contradiction

/-- Every other operator with which a text begins is shorter: it runs on. -/
theorem length_lt_of_start? {cs : List Char} {op other : Operator} (h : start? cs = some op)
    (hpre : other.token <+: cs) (hne : other ≠ op) :
    other.token.length < op.token.length := by
  obtain ⟨after, rfl⟩ := hpre
  by_cases hruns : other.RunsOn after
  · obtain ⟨hother, hhead⟩ := hruns
    obtain ⟨rest, rfl⟩ := List.head?_eq_some_iff.mp hhead
    rcases hother with rfl | rfl
    · obtain rfl : .atLeast = op := Option.some.inj h
      decide
    · obtain rfl : .atMost = op := Option.some.inj h
      decide
  · rw [start?_token_append.mpr hruns] at h
    exact absurd (Option.some.inj h) hne

/-! ## the place where a text is divided -/

section

variable {c : Char} {cs : List Char} {op : Operator} {s : Split}

theorem split?_of_start? (h : start? (c :: cs) = some op) :
    split? (c :: cs) = some ⟨[], op, (c :: cs).drop op.token.length⟩ := by
  rw [split?, h]

theorem split?_of_start?_eq_none (h : start? (c :: cs) = none) :
    split? (c :: cs) = (split? cs).map fun s => { s with before := c :: s.before } := by
  rw [split?, h]

/-- A text is not divided exactly when no operator occurs in it. -/
theorem split?_eq_none_iff : split? cs = none ↔ ∀ op : Operator, ¬ op.token <:+: cs := by
  induction cs with
  | nil => simp [split?, token_ne_nil]
  | cons c cs ih =>
    cases hstart : start? (c :: cs) with
    | some op =>
      have hpre : op.token <+: c :: cs := ⟨_, token_append_of_start? hstart⟩
      simp only [split?_of_start? hstart, reduceCtorEq, false_iff]
      exact fun h => h op hpre.isInfix
    | none =>
      have hnone := start?_eq_none_iff.mp hstart
      simp [split?_of_start?_eq_none hstart, List.infix_cons_iff, hnone, ih]

/-- A text is divided at an operator exactly when the text begins with it there,
and with none at any place before. -/
theorem split?_eq_some_iff :
    split? cs = some s ↔
      cs = s.text ∧ start? (s.operator.token ++ s.after) = some s.operator ∧
        ∀ r, r <:+ s.before → r ≠ [] → start? (r ++ s.operator.token ++ s.after) = none := by
  induction cs generalizing s with
  | nil =>
    have hne : s.text ≠ [] := by simp [Split.text, token_ne_nil]
    simp [split?, hne.symm]
  | cons c cs ih =>
    obtain ⟨before, op, after⟩ := s
    cases hstart : start? (c :: cs) with
    | some first =>
      rw [split?_of_start? hstart]
      constructor
      · rintro ⟨⟩
        have htext := token_append_of_start? hstart
        refine ⟨htext.symm, by rwa [htext], ?_⟩
        intro r hr hne
        exact absurd (List.suffix_nil.mp hr) hne
      · rintro ⟨htext, hop, hbefore⟩
        rw [htext] at hstart ⊢
        cases before with
        | nil =>
          obtain rfl : op = first := Option.some.inj (hop.symm.trans hstart)
          simp [Split.text]
        | cons b before =>
          have hnone := hbefore _ (List.suffix_refl _) (List.cons_ne_nil b before)
          exact absurd (hstart.symm.trans hnone) (Option.some_ne_none first)
    | none =>
      rw [split?_of_start?_eq_none hstart, Option.map_eq_some_iff]
      constructor
      · rintro ⟨t, ht, heq⟩
        obtain ⟨rfl, hop, hbefore⟩ := ih.mp ht
        cases heq
        refine ⟨rfl, hop, ?_⟩
        intro r hr hne
        rcases List.suffix_cons_iff.mp hr with rfl | hr
        · exact hstart
        · exact hbefore r hr hne
      · rintro ⟨htext, hop, hbefore⟩
        cases before with
        | nil =>
          rw [htext] at hstart
          exact absurd (hop.symm.trans hstart) (Option.some_ne_none op)
        | cons b before =>
          obtain ⟨rfl, hcs⟩ := List.cons.inj htext
          refine ⟨⟨before, op, after⟩, ih.mpr ⟨hcs, hop, ?_⟩, rfl⟩
          intro r hr hne
          exact hbefore r (hr.trans (List.suffix_cons c before)) hne

end

/-- Behind a text without signs, an operator that does not run on is where the
whole is divided. -/
theorem split?_append {before after : List Char} {op : Operator}
    (hbefore : ∀ c ∈ before, opens c = false) (hop : ¬ op.RunsOn after) :
    split? (before ++ op.token ++ after) = some ⟨before, op, after⟩ := by
  apply split?_eq_some_iff.mpr
  refine ⟨rfl, start?_token_append.mpr hop, ?_⟩
  intro r hr hne
  obtain ⟨c, r, rfl⟩ := List.exists_cons_of_ne_nil hne
  apply start?_eq_none
  rintro _ ⟨⟩
  exact hbefore c (hr.subset List.mem_cons_self)

end GameNight.Operator
