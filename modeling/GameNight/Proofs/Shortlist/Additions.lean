import GameNight.Proofs.Shortlist.Refinement

/-!
# GameNight.Proofs.Shortlist.Additions

Additions, in any order and any number of times.

What a command to add picks is decided by its candidates alone.  So nothing that was
done to a shortlist before has an influence on what is told about an addition
(`outcome_addition`), and a run of additions unites the members with everything that is
picked on the way (`games_run_additions`); one that is refused picks nothing.  A union
does not know in which order and how often its parts were taken, which is all there is
to the order and the repetition of additions (`additions_commute`).
-/

namespace GameNight

namespace Shortlist

/-- What is told about a change: that it is made, or why it is refused. -/
def outcome (l : Shortlist) (c : Change) : Except Fault Unit := (l.change c).map fun _ => ()

/-- A command to add games, with the candidates it picks them from. -/
structure Addition where
  command : String
  candidates : List Game

namespace Addition

/-- The change that is asked for. -/
def change (a : Addition) : Change := .add a.command a.candidates

/-- The games that are picked: none, if the addition is refused. -/
def picked (a : Addition) : List Game := (picks a.command a.candidates).toOption.getD []

end Addition

variable {l : Shortlist}

/-! ## one addition -/

/-- The shortlist has no say in whether an addition is refused. -/
theorem outcome_addition (l : Shortlist) (a : Addition) :
    l.outcome a.change = (picks a.command a.candidates).map fun _ => () := by
  rw [outcome, Addition.change, change, add_eq]
  cases picks a.command a.candidates <;> rfl

/-- The step: an addition inserts what it picks, be it nothing. -/
theorem attempt_addition (l : Shortlist) (a : Addition) :
    l.attempt a.change = l.insertAll a.picked := by
  rw [attempt, Addition.change, change, add_eq, Addition.picked]
  cases picks a.command a.candidates <;> rfl

theorem change_addition (l : Shortlist) (a : Addition) :
    l.change a.change = (l.outcome a.change).map fun _ => l.insertAll a.picked := by
  rw [outcome_addition, Addition.change, change, add_eq, Addition.picked]
  cases picks a.command a.candidates <;> rfl

/-- Inserting members changes nothing, not even the order of the members. -/
theorem insertAll_eq_self {games : List Game} (h : ∀ g ∈ games, g ∈ l) : l.insertAll games = l := by
  induction games with
  | nil => rfl
  | cons g games ih =>
    have hinsert : l.insert g = l := dif_pos (h g List.mem_cons_self)
    rw [insertAll, List.foldl_cons, hinsert]
    exact ih fun k hk => h k (List.mem_cons_of_mem g hk)

theorem insertAll_insertAll_self (l : Shortlist) (games : List Game) :
    (l.insertAll games).insertAll games = l.insertAll games :=
  insertAll_eq_self fun g hg => by simp [hg]

/-! ## runs of additions -/

/-- A run of additions unites the members with all that is picked. -/
theorem games_run_additions (l : Shortlist) (additions : List Addition) :
    (l.run (additions.map Addition.change)).games =
      l.games ∪ (additions.flatMap Addition.picked).toFinset := by
  induction additions generalizing l with
  | nil => simp [run]
  | cons a additions ih =>
    calc
      (l.run ((a :: additions).map Addition.change)).games =
          ((l.attempt a.change).run (additions.map Addition.change)).games := rfl
      _ = l.games ∪ a.picked.toFinset ∪ (additions.flatMap Addition.picked).toFinset := by
        rw [ih, attempt_addition, games_insertAll]
      _ = l.games ∪ ((a :: additions).flatMap Addition.picked).toFinset := by
        rw [List.flatMap_cons, List.toFinset_append, Finset.union_assoc]

/-- Runs of the same additions, in any order and any number, leave the same members. -/
theorem games_run_additions_congr {additions additions' : List Addition}
    (h : ∀ a, a ∈ additions ↔ a ∈ additions') (l : Shortlist) :
    (l.run (additions.map Addition.change)).games =
      (l.run (additions'.map Addition.change)).games := by
  have hpicked : (additions.flatMap Addition.picked).toFinset =
      (additions'.flatMap Addition.picked).toFinset := by
    ext g
    simp [h]
  rw [games_run_additions, games_run_additions, hpicked]

/-- Of two additions each is made or refused for the same reason, whichever comes first,
and both orders leave the same members.  An addition that is asked for again gives the
same result, and leaves the very same shortlist.  And so it is with any runs of the same
additions, in any order and any number. -/
theorem additions_commute (l : Shortlist) :
    (∀ a b : Addition,
      (l.attempt b.change).outcome a.change = l.outcome a.change ∧
      (l.attempt a.change).outcome b.change = l.outcome b.change ∧
      ((l.attempt a.change).attempt b.change).games =
        ((l.attempt b.change).attempt a.change).games) ∧
    (∀ a : Addition,
      (l.attempt a.change).change a.change = l.change a.change ∧
      (l.attempt a.change).attempt a.change = l.attempt a.change) ∧
    ∀ additions additions' : List Addition, (∀ a, a ∈ additions ↔ a ∈ additions') →
      (l.run (additions.map Addition.change)).games =
        (l.run (additions'.map Addition.change)).games := by
  refine ⟨fun a b => ⟨?_, ?_, ?_⟩, fun a => ⟨?_, ?_⟩, ?_⟩
  · rw [outcome_addition, outcome_addition]
  · rw [outcome_addition, outcome_addition]
  · have hswap : ∀ c, c ∈ [a, b] ↔ c ∈ [b, a] := by simp [or_comm]
    exact games_run_additions_congr hswap l
  · rw [change_addition, change_addition, outcome_addition, outcome_addition, attempt_addition,
      insertAll_insertAll_self]
  · rw [attempt_addition, attempt_addition, insertAll_insertAll_self]
  · intro additions additions' h
    exact games_run_additions_congr h l

/-- Three additions to a shortlist that already has one of the games: two pick games that
overlap, one of them from candidates that are repeated, and one is refused. -/
theorem additions_commute_beside_refusal :
    let go : Game := { id := 1, name := "Go" }
    let chess : Game := { id := 2, name := "Chess" }
    let range : Addition := ⟨"2-3", [chess, go, go]⟩
    let all : Addition := ⟨"all", [chess, go]⟩
    let outside : Addition := ⟨"4", [chess, go, go]⟩
    let l : Shortlist := ⟨[go], List.nodup_singleton go⟩
    l.outcome outside.change = .error (.indexOutOfRange 4 3) ∧
      (l.run ([range, outside, all].map Addition.change)).games =
        (l.run ([all, range, all, outside].map Addition.change)).games := by
  intro go chess range all outside l
  refine ⟨by decide +kernel, (additions_commute l).2.2 _ _ fun a => ?_⟩
  simp only [List.mem_cons, List.not_mem_nil, or_false]
  grind

end Shortlist

end GameNight
