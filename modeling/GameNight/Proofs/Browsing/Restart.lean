import GameNight.Proofs.Browsing.History

/-!
# GameNight.Proofs.Browsing.Restart

What a browser that starts over still knows of the past.

A browser starts over when it is reset, and when a search finds nothing, since
the next search then takes up the whole catalog again.  It is not in the state of
a new browser then: its view may be empty where that of a new one is the catalog,
and clauses of the past may be on show.  None of this can be told from what it
answers later.  `Alike` relates the browsers that a search cannot tell apart:

* `alike_of_startsOver` — a browser that starts over is like a new one;
* `Alike.search` — from browsers that are alike a search makes one and the same;
* `Alike.run` — so they stay alike over a run, by induction;
* `restart_forgets_history` — the whole of it.
-/

namespace GameNight.Browser

variable {a b : Browser}

/-! ## browsers that are alike -/

/-- Two browsers whose next searches take up the same games, under the same
settings.  Their views and the clauses they have on show may differ. -/
structure Alike (a b : Browser) : Prop where
  catalog_eq : a.catalog = b.catalog
  settings_eq : a.settings = b.settings
  base_eq : a.base = b.base

theorem Alike.refl (b : Browser) : Alike b b := ⟨rfl, rfl, rfl⟩

/-- Narrowing looks at nothing but what browsers that are alike have in common. -/
theorem Alike.narrow (h : Alike a b) (query : String) : a.narrow query = b.narrow query := by
  obtain ⟨catalog, settings, view, rejected⟩ := a
  obtain ⟨rfl, rfl, hbase⟩ := h
  simp only [Browser.narrow, hbase]

/-- A search answers alike, and leaves no difference behind. -/
theorem Alike.search (h : Alike a b) (query : String) (arrangement : Option Arrangement) :
    a.search query arrangement = b.search query arrangement := by
  simp only [Browser.search, h.narrow]

theorem base_reset (b : Browser) : b.reset.base = b.catalog := by
  simp [base, reset]

/-- The step: every request keeps browsers alike. -/
theorem Alike.perform (h : Alike a b) (r : Request) : Alike (a.perform r).1 (b.perform r).1 := by
  cases r with
  | search query arrangement =>
    simp only [Browser.perform, h.search]
    exact .refl _
  | reset =>
    refine ⟨h.catalog_eq, h.settings_eq, ?_⟩
    simp only [Browser.perform, base_reset, h.catalog_eq]

/-- The run: browsers stay alike. -/
theorem Alike.run (h : Alike a b) (requests : List Request) :
    Alike (a.run requests) (b.run requests) := by
  induction requests generalizing a b with
  | nil => exact h
  | cons r rs ih => exact ih (h.perform r)

/-! ## starting over -/

/-- Whether a browser starts over with a request: with every reset, and with a
search that finds nothing. -/
def StartsOver (b : Browser) : Request → Prop
  | .search query arrangement => (b.search query arrangement).2 = []
  | .reset => True

/-- A search lists nothing exactly if nothing is left of the view. -/
theorem search_eq_nil_iff {query : String} {arrangement : Option Arrangement} :
    (b.search query arrangement).2 = [] ↔ (b.narrow query).view = [] := by
  have hperm := (lists_search b query arrangement).perm
  constructor
  · intro h
    rw [h] at hperm
    exact List.nil_perm.mp hperm
  · intro h
    exact List.perm_nil.mp (hperm.trans (.of_eq h))

/-- A browser that starts over is like a new one. -/
theorem alike_of_startsOver {r : Request} (h : StartsOver b r) :
    Alike (b.perform r).1 (start b.catalog b.settings) := by
  have hstart : (start b.catalog b.settings).base = b.catalog := by
    simp [base, start]
  cases r with
  | search query arrangement =>
    refine ⟨rfl, rfl, ?_⟩
    change (b.narrow query).base = _
    rw [hstart, base, search_eq_nil_iff.mp h]
    rfl
  | reset => exact ⟨rfl, rfl, b.base_reset.trans hstart.symm⟩

theorem run_append (b : Browser) (rs rs' : List Request) :
    b.run (rs ++ rs') = (b.run rs).run rs' := List.foldl_append

/-- Whatever was asked of a browser before it started over, no run of further
requests brings it to light: every search in such a run, of each of the three
kinds, lists the games that it lists in the same run of a new browser with the same
catalog and settings, and leaves the very browser that it leaves there, that is,
the same view and the same clauses set aside. -/
theorem restart_forgets_history (catalog : List Game) (settings : Settings)
    (earlier : List Request) (last : Request)
    (hlast : StartsOver ((start catalog settings).run earlier) last) (later : List Request) :
    let old := (start catalog settings).run (earlier ++ last :: later)
    let new := (start catalog settings).run later
    (∀ query, old.filter query = new.filter query) ∧
    (∀ query c, old.filterSorted query c = new.filterSorted query c) ∧
    ∀ query c d, old.filterBy query c d = new.filterBy query c d := by
  intro old new
  have hshows := (shows_start catalog settings).run earlier
  have hrestart := alike_of_startsOver hlast
  rw [hshows.catalog_eq, hshows.settings_eq] at hrestart
  have halike : Alike old new := by
    have hrun := hrestart.run later
    rwa [show old = _ from run_append _ earlier (last :: later)]
  exact ⟨fun query => halike.search query none, fun query c => halike.search query _,
    fun query c d => halike.search query _⟩

/-- A browser in which nothing was found, and which has a clause of the past on
show until it is asked again. -/
theorem restart_forgets_unknown_column :
    let catalog : List Game := [{ name := "Go", rank := 1 }, { name := "Chess", rank := 2 }]
    let earlier : List Request := [.search "rank<2" none]
    let last : Request := .search "publisher==x,rank>1" (some ⟨.rank, .descending⟩)
    StartsOver ((start catalog {}).run earlier) last ∧
      ((start catalog {}).run (earlier ++ [last])).rejected ≠ [] ∧
      ((start catalog {}).run (earlier ++ [last])).filter "name~=E" =
        (start catalog {}).filter "name~=E" := by
  intro catalog earlier last
  have hlast : StartsOver ((start catalog {}).run earlier) last :=
    search_eq_nil_iff.mpr (by decide +kernel)
  exact ⟨hlast, by decide +kernel, (restart_forgets_history catalog {} earlier last hlast []).1 _⟩

end GameNight.Browser
