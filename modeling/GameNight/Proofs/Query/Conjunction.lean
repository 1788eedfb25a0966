import GameNight.Proofs.Query.Clauses

/-!
# GameNight.Proofs.Query.Conjunction

Narrowing games down one condition at a time, and asking them all conditions at once.

Narrowing stops as soon as no game is left, and so may never come to the last
condition.  What it leaves is nevertheless what a single look at every game leaves
(`Query.apply_eq_filter`).  A game meets a query or not by the set of its conditions,
so their order and how often they are repeated change nothing (`apply_congr`), and for
a query that is read from a text neither do the order and the repetition of clauses
(`apply_parse_congr`).
-/

namespace GameNight.Query

/-- Queries with the same set of conditions leave the same games. -/
theorem apply_congr {p q : Query} (h : ∀ cond, cond ∈ p.conditions ↔ cond ∈ q.conditions)
    (tolerance : Binary64) (games : List Game) :
    p.apply tolerance games = q.apply tolerance games := by
  rw [apply_eq_filter, apply_eq_filter, matchesGame_congr h]

/-- Texts with the same set of clauses leave the same games. -/
theorem apply_parse_congr {s t : String}
    (h : ∀ clause, clause ∈ clauses s.toList ↔ clause ∈ clauses t.toList)
    (tolerance : Binary64) (games : List Game) :
    (parse s).apply tolerance games = (parse t).apply tolerance games := by
  rw [apply_eq_filter, apply_eq_filter, matchesGame_parse_congr h]

/-- Whatever the tolerance is, a query leaves the games that meet it, each where it
stood and as often as it stood there, and a game meets a query if it meets every
condition.  A query with the same conditions in another order or number leaves the same
games, and so does a text with the same clauses in another order or number. -/
theorem apply_is_conjunction (tolerance : Binary64) (games : List Game) :
    (∀ q : Query,
      q.apply tolerance games = games.filter (q.matchesGame tolerance) ∧
      (∀ g, q.matchesGame tolerance g = true ↔
        ∀ cond ∈ q.conditions, cond.matchesGame tolerance g = true) ∧
      ∀ p : Query, (∀ cond, cond ∈ p.conditions ↔ cond ∈ q.conditions) →
        p.apply tolerance games = q.apply tolerance games) ∧
    ∀ s t : String, (∀ clause, clause ∈ clauses s.toList ↔ clause ∈ clauses t.toList) →
      (parse s).apply tolerance games = (parse t).apply tolerance games := by
  refine ⟨fun q => ⟨apply_eq_filter q tolerance games, fun g => matchesGame_iff, ?_⟩, ?_⟩
  · intro p h
    exact apply_congr h tolerance games
  · intro s t h
    exact apply_parse_congr h tolerance games

/-- Two conditions in both orders, and two clauses of which one is repeated, with a
tolerance that is no number and with a game that occurs twice. -/
theorem apply_is_conjunction_with_repeated_conditions :
    let games : List Game :=
      [{ name := "Go", rank := 3 }, { name := "Chess", rank := 3 }, { name := "Go", rank := 3 }]
    let q := parse "rank<9,name~=GO"
    let p : Query := { q with conditions := q.conditions.reverse ++ q.conditions }
    q.apply .nan games = [{ name := "Go", rank := 3 }, { name := "Go", rank := 3 }] ∧
      p.apply .nan games = q.apply .nan games ∧
      (parse "name~=GO, rank<9,,name~=GO").apply .nan games = q.apply .nan games := by
  intro games q p
  obtain ⟨hqueries, htexts⟩ := apply_is_conjunction .nan games
  have hclauses :
      clauses "name~=GO, rank<9,,name~=GO".toList = ["name~=GO", "rank<9", "name~=GO"] ∧
        clauses "rank<9,name~=GO".toList = ["rank<9", "name~=GO"] := by decide +kernel
  refine ⟨?_, (hqueries q).2.2 p fun cond => ?_, htexts _ _ fun clause => ?_⟩
  · rw [(hqueries q).1]
    decide +kernel
  · simp [p]
  · rw [hclauses.1, hclauses.2]
    simp [or_comm]

end GameNight.Query
