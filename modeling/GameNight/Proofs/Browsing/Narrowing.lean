import GameNight.Browser
import GameNight.Proofs.Query.Clauses

/-!
# GameNight.Proofs.Browsing.Narrowing

Narrowing a view in several steps, and by the same clauses in another order.

The view that a query leaves is what its conditions leave of the games it
started from (`Browser.view_narrow`), and the next query starts from that view
unless it is empty.  So two queries in a row are one query with a comma between
them, as long as the first one leaves something: after an empty view the second
query starts from the catalog again, while the two together leave nothing.
-/

namespace GameNight.Browser

variable {b b' : Browser}

/-! ## views -/

/-- A view with games in it is what the next query starts from. -/
theorem base_of_view_ne_nil (h : b.view ≠ []) : b.base = b.view := by
  unfold base
  rw [if_neg]
  simpa using h

/-- Narrowing twice is narrowing once by both queries, if something is left in
between. -/
theorem view_narrow_narrow {q₁ q₂ : String} (h : (b.narrow q₁).view ≠ []) :
    ((b.narrow q₁).narrow q₂).view = (b.narrow (q₁ ++ "," ++ q₂)).view := by
  rw [view_narrow, base_of_view_ne_nil h, view_narrow, view_narrow, settings_narrow,
    Query.parse_append, List.filter_filter]
  apply List.filter_congr
  intro g _
  rw [Query.matchesGame_append, Bool.and_comm]

/-- The order of the clauses of a query has no influence on what it leaves. -/
theorem view_narrow_congr {q q' : String}
    (h : (Text.pieces ',' q.toList).Perm (Text.pieces ',' q'.toList)) :
    (b.narrow q).view = (b.narrow q').view := by
  have hclauses : ∀ clause,
      clause ∈ Query.clauses q.toList ↔ clause ∈ Query.clauses q'.toList := by
    simp [Query.mem_clauses, h.mem_iff]
  rw [view_narrow, view_narrow, Query.matchesGame_parse_congr hclauses]

/-! ## answers -/

theorem view_ne_nil_of_filterBy {q : String} {c : Column} {d : Direction}
    (h : (b.filterBy q c d).2 ≠ []) : (b.narrow q).view ≠ [] := by
  intro hnil
  apply h
  change Arrangement.sort ⟨c, d⟩ (b.narrow q).view = []
  rw [hnil]
  exact List.mergeSort_nil

/-- A listing shows nothing but the view. -/
theorem filterBy_congr {q q' : String} (h : (b.narrow q).view = (b'.narrow q').view) (c : Column)
    (d : Direction) :
    (b.filterBy q c d).2 = (b'.filterBy q' c d).2 ∧
      (b.filterBy q c d).1.view = (b'.filterBy q' c d).1.view :=
  ⟨congrArg (Arrangement.sort ⟨c, d⟩) h, h⟩

/-- Narrowing composes, from every state of a browser: after a query that finds
games, another one answers and leaves what both of them, with a comma between
their texts, would have answered and left; and the clauses of a query may be
put in any order. -/
theorem narrowing_composes (b : Browser) (c : Column) (d : Direction) :
    (∀ (q₁ q₂ : String) (c₁ : Column) (d₁ : Direction), (b.filterBy q₁ c₁ d₁).2 ≠ [] →
      let stepwise := (b.filterBy q₁ c₁ d₁).1.filterBy q₂ c d
      let atOnce := b.filterBy (q₁ ++ "," ++ q₂) c d
      stepwise.2 = atOnce.2 ∧ stepwise.1.view = atOnce.1.view) ∧
    ∀ (q : String) (clauses : List (List Char)), clauses.Perm (Text.pieces ',' q.toList) →
      let reordered := b.filterBy (String.ofList ([','].intercalate clauses)) c d
      let original := b.filterBy q c d
      reordered.2 = original.2 ∧ reordered.1.view = original.1.view := by
  constructor
  · intro q₁ q₂ c₁ d₁ hfound
    exact filterBy_congr (view_narrow_narrow (view_ne_nil_of_filterBy hfound)) c d
  · intro q clauses hperm
    have hne : clauses ≠ [] := by
      rintro rfl
      exact Text.pieces_ne_nil ',' q.toList (List.nil_perm.mp hperm)
    have hfree : ∀ p ∈ clauses, ',' ∉ p := fun p hp =>
      Text.notMem_of_mem_pieces (hperm.mem_iff.mp hp)
    apply filterBy_congr
    apply view_narrow_congr
    rwa [String.toList_ofList, Text.pieces_intercalate hne hfree]

/-- A browser with three games, two of which are for two or more players. -/
theorem narrowing_composes_on_three_games :
    let b := start [{ name := "Go", minPlayers := 2 }, { name := "Solo", minPlayers := 1 },
      { name := "Chess", minPlayers := 2 }] {}
    (b.filterBy "minPlayers>=2" .rank .descending).2 ≠ [] ∧
      ((b.filterBy "minPlayers>=2" .rank .descending).1.filterBy "name~=O,year" .name
        .ascending).2 = (b.filterBy ("minPlayers>=2" ++ "," ++ "name~=O,year") .name .ascending).2 := by
  intro b
  have hleft : { name := "Chess", minPlayers := 2 } ∈ (b.narrow "minPlayers>=2").view := by
    decide +kernel
  have hfound : (b.filterBy "minPlayers>=2" .rank .descending).2 ≠ [] :=
    List.ne_nil_of_mem (Arrangement.mem_sort.mpr hleft)
  exact ⟨hfound, ((narrowing_composes b .name .ascending).1 _ _ _ _ hfound).1⟩

end GameNight.Browser
