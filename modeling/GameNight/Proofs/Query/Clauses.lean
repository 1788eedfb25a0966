import GameNight.Query

/-!
# GameNight.Proofs.Query.Clauses

The conditions of a query, one clause at a time.

A query is read clause by clause, so its conditions are those of its clauses
(`mem_conditions_ofClauses`).  Which games meet a query only depends on the set of
its conditions (`matchesGame_congr`): neither the order nor the number of
clauses matters, nor do clauses that cannot be read.
-/

namespace GameNight.Query

/-! ## conditions -/

theorem conditions_ofClause (clause : String) :
    (ofClause clause).conditions = (Condition.parse clause).toOption.toList := by
  unfold ofClause
  cases Condition.parse clause <;> rfl

/-- The conditions of clauses are the clauses that can be read. -/
theorem mem_conditions_ofClauses {cond : Condition} {cs : List String} :
    cond ∈ (ofClauses cs).conditions ↔ ∃ c ∈ cs, Condition.parse c = .ok cond := by
  induction cs with
  | nil => simp [ofClauses, EmptyCollection.emptyCollection]
  | cons c cs ih =>
    rw [ofClauses, conditions_append, List.mem_append, ih, conditions_ofClause]
    cases hc : Condition.parse c <;> simp [hc, Except.toOption, eq_comm (a := cond)]

/-- The clauses of a text are what stands between its commas, trimmed, in the order of the text
and without what is blank. -/
theorem clauses_eq (text : List Char) :
    clauses text =
      (((Text.pieces ',' text).map Text.trim).filter (· ≠ [])).map String.ofList := by
  have hblank : (fun piece : List Char => !piece.isEmpty) = fun piece => decide (piece ≠ []) := by
    funext piece
    cases piece <;> rfl
  rw [clauses, hblank]

theorem mem_clauses {clause : String} {text : List Char} :
    clause ∈ clauses text ↔
      ∃ piece ∈ Text.pieces ',' text, Text.trim piece ≠ [] ∧
        String.ofList (Text.trim piece) = clause := by
  grind [clauses_eq]

/-! ## games that meet a query -/

theorem matchesGame_iff {q : Query} {tolerance : Binary64} {g : Game} :
    q.matchesGame tolerance g = true ↔
      ∀ cond ∈ q.conditions, cond.matchesGame tolerance g = true := by
  simp [matchesGame]

theorem matchesGame_append (p q : Query) (tolerance : Binary64) (g : Game) :
    (p ++ q).matchesGame tolerance g =
      (p.matchesGame tolerance g && q.matchesGame tolerance g) := by
  simp [matchesGame]

/-- Queries with the same set of conditions are met by the same games. -/
theorem matchesGame_congr {p q : Query} (h : ∀ cond, cond ∈ p.conditions ↔ cond ∈ q.conditions)
    (tolerance : Binary64) : p.matchesGame tolerance = q.matchesGame tolerance := by
  funext g
  rw [Bool.eq_iff_iff, matchesGame_iff, matchesGame_iff]
  simp only [h]

/-- Texts with the same set of clauses are met by the same games. -/
theorem matchesGame_parse_congr {s t : String}
    (h : ∀ clause, clause ∈ clauses s.toList ↔ clause ∈ clauses t.toList) (tolerance : Binary64) :
    (parse s).matchesGame tolerance = (parse t).matchesGame tolerance := by
  apply matchesGame_congr
  intro cond
  rw [parse, parse, mem_conditions_ofClauses, mem_conditions_ofClauses]
  simp only [h]

end GameNight.Query
