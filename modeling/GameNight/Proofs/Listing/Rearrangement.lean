import GameNight.Proofs.Listing.Stability
import Mathlib.Data.List.Forall2

/-!
# GameNight.Proofs.Listing.Rearrangement

Listings of the same games, given in different orders.

A listing keeps games that compare equal as they stood, so the order in which the games
are given shows in it; but nowhere else.  Lists in order are the same up to ties if they
have as many elements of each tie (`forall₂_of_pairwise_of_length_ties`), and the number
of ties, other than their order, is that of any rearrangement.  Where different games
never compare equal, there is only one listing of them (`listing_up_to_ties`).
-/

namespace GameNight

/-! ## lists in order -/

section Order

variable {α : Type} {cmp : α → α → Ordering} [Std.TransCmp cmp] {xs ys : List α}

/-- Two lists in order, with as many ties of every element, agree at every place up to
ties. -/
theorem forall₂_of_pairwise_of_length_ties
    (hx : xs.Pairwise fun a b => (cmp a b).isLE = true)
    (hy : ys.Pairwise fun a b => (cmp a b).isLE = true)
    (h : ∀ a, (ties cmp a xs).length = (ties cmp a ys).length) :
    List.Forall₂ (fun a b => cmp a b = .eq) xs ys := by
  induction xs generalizing ys with
  | nil =>
    cases ys with
    | nil => exact .nil
    | cons y ys => simpa using exists_tie (h y).symm List.mem_cons_self
  | cons x xs ih =>
    cases ys with
    | nil => simpa using exists_tie (h x) List.mem_cons_self
    | cons y ys =>
      have hxy : cmp x y = .eq := compare_heads hx hy h
      refine .cons hxy (ih hx.of_cons hy.of_cons fun a => ?_)
      have ha := h a
      have hcongr : cmp a x = cmp a y := Std.TransCmp.congr_right hxy
      by_cases hax : cmp a x = .eq
      · rw [ties_cons_of_eq hax, ties_cons_of_eq (hcongr ▸ hax)] at ha
        simpa using ha
      · rwa [ties_cons_of_ne hax, ties_cons_of_ne (hcongr ▸ hax)] at ha

end Order

/-! ## games that compare equal -/

/-- Values that a listing does not tell apart: texts in any letter case, and floats bit for
bit. -/
def Kind.Same : (k : Kind) → k.Value → k.Value → Prop
  | .text, x, y => Text.fold x = Text.fold y
  | .integer, x, y => x = y
  | .float, x, y => x = y

theorem Kind.compare_eq_iff {k : Kind} {x y : k.Value} : k.compare x y = .eq ↔ k.Same x y := by
  cases k with
  | text => exact Text.compareFolded_eq_iff
  | integer => exact Std.compare_eq_iff_eq
  | float => exact Binary64.totalCompare_eq_iff

namespace Arrangement

variable {games games' : List Game}

/-- Games compare equal if neither their values nor their names are told apart.  What else
differs has no influence, and by a column that is not queryable only names count. -/
theorem compare_eq_iff {a : Arrangement} {g k : Game} :
    a.compare g k = .eq ↔
      (a.column.isQueryable = true → a.column.kind.Same (a.column.value g) (a.column.value k)) ∧
        Text.fold g.name.toList = Text.fold k.name.toList := by
  have horient : ∀ o, a.direction.orient o = .eq ↔ o = .eq := by
    cases a.direction <;> simp
  rw [compare, horient, Game.compareBy, compareLex_eq_eq, Game.compareName,
    Text.compareFolded_eq_iff, Game.compareValue]
  cases a.column.isQueryable <;> simp [Kind.compare_eq_iff]

/-! ## rearranged games -/

/-- There are as many ties of a game in every listing of the same games. -/
theorem length_ties_sort (a : Arrangement) (h : games.Perm games') (g : Game) :
    (ties a.compare g (a.sort games)).length = (ties a.compare g (a.sort games')).length := by
  rw [ties_sort, ties_sort]
  exact (h.filter _).length_eq

/-- Listings of the same games, given in any two orders, have games that compare equal at
every place, and they are the same listing if different games never compare equal.  Games
compare equal if they have the same value in the column and the same name in some letter
case. -/
theorem listing_up_to_ties (a : Arrangement) (h : games.Perm games') :
    List.Forall₂ (fun g k => a.compare g k = .eq) (a.sort games) (a.sort games') ∧
    ((∀ g ∈ games, ∀ k ∈ games, a.compare g k = .eq → g = k) →
      a.sort games = a.sort games') ∧
    ∀ g k, a.compare g k = .eq ↔
      (a.column.isQueryable = true → a.column.kind.Same (a.column.value g) (a.column.value k)) ∧
        Text.fold g.name.toList = Text.fold k.name.toList := by
  refine ⟨?_, ?_, fun g k => compare_eq_iff⟩
  · exact forall₂_of_pairwise_of_length_ties (a.pairwise_sort games) (a.pairwise_sort games')
      (a.length_ties_sort h)
  · intro hties
    have hperm : (a.sort games).Perm (a.sort games') :=
      (a.sort_perm games).trans (h.trans (a.sort_perm games').symm)
    refine hperm.eq_of_pairwise ?_ (a.pairwise_sort games) (a.pairwise_sort games')
    intro g k hg hk hgk hkg
    apply hties g (mem_sort.mp hg) k (h.mem_iff.mpr (mem_sort.mp hk))
    exact Std.OrientedCmp.isLE_antisymm hgk hkg

/-- Games of one name show in which order they were given, and games of different names do
not. -/
theorem listing_up_to_ties_of_one_name :
    let a : Arrangement := { column := .rank, direction := .descending }
    let go : Game := { id := 1, name := "Go" }
    let capitals : Game := { id := 2, name := "GO" }
    let chess : Game := { id := 3, name := "Chess" }
    List.Forall₂ (fun g k => a.compare g k = .eq) (a.sort [go, chess, capitals])
        (a.sort [capitals, go, chess]) ∧
      a.sort [go, chess, capitals] ≠ a.sort [capitals, go, chess] ∧
      a.sort [go, chess] = a.sort [chess, go] := by
  intro a go capitals chess
  refine ⟨(a.listing_up_to_ties (by decide)).1, ?_, (a.listing_up_to_ties (by decide)).2.1 ?_⟩
  · -- a listing has the two in the order in which they were given
    intro hsame
    have hties := congrArg (ties a.compare go) hsame
    rw [ties_sort, ties_sort] at hties
    exact absurd hties (by decide +kernel)
  · decide +kernel

end Arrangement

end GameNight
