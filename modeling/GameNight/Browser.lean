import GameNight.Query
import GameNight.Settings

/-!
# GameNight.Browser

Looking for games step by step.

A browser holds a catalog and a *view* of it, the games left by the queries so
far.  Each query narrows the view further, until nothing is left: the next
query then starts from the whole catalog again.  The view keeps the order of
the catalog; only the answer to a query is sorted.
-/

namespace GameNight

/-- A catalog being looked through. -/
structure Browser where
  catalog : List Game
  settings : Settings
  /-- The games left by the queries so far, in the order of the catalog. -/
  view : List Game
  /-- The clauses of the latest query that could not be read. -/
  rejected : List Rejection
deriving DecidableEq

namespace Browser

/-- A browser that has not been asked anything. -/
def start (catalog : List Game) (settings : Settings) : Browser := ⟨catalog, settings, catalog, []⟩

/-- Forgets the queries so far.  The clauses set aside stay on show. -/
def reset (b : Browser) : Browser := { b with view := b.catalog }

/-- What the next query starts from: the view, or the catalog if nothing is
left of it. -/
def base (b : Browser) : List Game := if b.view.isEmpty then b.catalog else b.view

/-- Narrows the view by a query.  A query of which nothing could be read leaves
what it started from. -/
def narrow (b : Browser) (query : String) : Browser :=
  let q := Query.parse query
  { b with
    view := if q.isEmpty then b.base else q.apply b.settings.tolerance b.base
    rejected := q.rejected }

@[simp] theorem catalog_narrow (b : Browser) (query : String) :
    (b.narrow query).catalog = b.catalog := rfl

@[simp] theorem settings_narrow (b : Browser) (query : String) :
    (b.narrow query).settings = b.settings := rfl

@[simp] theorem rejected_narrow (b : Browser) (query : String) :
    (b.narrow query).rejected = (Query.parse query).rejected := rfl

/-- Narrowing keeps the games that meet the query, whether or not anything of
it could be read. -/
theorem view_narrow (b : Browser) (query : String) :
    (b.narrow query).view =
      b.base.filter ((Query.parse query).matchesGame b.settings.tolerance) := by
  unfold narrow
  dsimp only
  split
  · next h =>
    have hnil : (Query.parse query).conditions = [] := List.isEmpty_iff.mp h
    symm
    apply List.filter_eq_self.mpr
    intro g _
    simp [Query.matchesGame, hnil]
  · exact Query.apply_eq_filter _ _ _

/-- Narrows the view by a query, and lists it in an arrangement, or as the
settings say. -/
def search (b : Browser) (query : String) (arrangement : Option Arrangement) :
    Browser × List Game :=
  let b := b.narrow query
  (b, (arrangement.getD b.settings.arrangement).sort b.view)

/-- A search listed as the settings say. -/
def filter (b : Browser) (query : String) : Browser × List Game := b.search query none

/-- A search listed by a column, small values first. -/
def filterSorted (b : Browser) (query : String) (c : Column) : Browser × List Game :=
  b.search query (some { column := c })

/-- A search listed by a column in a direction. -/
def filterBy (b : Browser) (query : String) (c : Column) (d : Direction) : Browser × List Game :=
  b.search query (some ⟨c, d⟩)

end Browser

/-! ## runs -/

/-- What a browser can be asked. -/
inductive Request where
  /-- Narrow the view, and list it in an arrangement if one is given. -/
  | search (query : String) (arrangement : Option Arrangement)
  | reset
deriving DecidableEq, Repr

namespace Browser

/-- Answers a request.  A reset lists nothing. -/
def perform (b : Browser) : Request → Browser × List Game
  | .search query arrangement => b.search query arrangement
  | .reset => (b.reset, [])

/-- A browser after a run of requests. -/
def run (b : Browser) (requests : List Request) : Browser :=
  requests.foldl (fun b r => (b.perform r).1) b

end Browser

end GameNight
