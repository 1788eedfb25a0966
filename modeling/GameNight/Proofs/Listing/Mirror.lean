import GameNight.Proofs.Listing.Stability

/-!
# GameNight.Proofs.Listing.Mirror

Descending listings as mirror images of ascending ones.

Read backwards, a descending listing stands in ascending order, but games that compare equal
stand in it as they were given, so backwards they stand the other way round.  It is the mirror
image of the ascending listing of the games *given backwards* (`sort_descending`).  Games none
of which compare equal have one ascending listing, from whichever end they are given
(`sort_reverse`).
-/

namespace GameNight

section

variable {α : Type} {cmp : α → α → Ordering} [Std.TransCmp cmp] {xs : List α}

/-- In a list of which no two elements compare equal, an element has at most one tie: two
of them would compare equal to each other. -/
theorem length_ties_le_one (h : xs.Pairwise fun a b => cmp a b ≠ .eq) (a : α) :
    (ties cmp a xs).length ≤ 1 := by
  have hne : (ties cmp a xs).Pairwise fun b c => cmp b c ≠ .eq := h.sublist (ties_sublist a xs)
  have heq : ∀ b ∈ ties cmp a xs, cmp a b = .eq := fun b hb => (mem_ties.mp hb).2
  match hties : ties cmp a xs with
  | [] | [_] => simp
  | b :: c :: rest =>
    rw [hties] at hne heq
    have hb : cmp b a = .eq := Std.OrientedCmp.eq_symm (heq b (by simp))
    have hc : cmp a c = .eq := heq c (by simp)
    exact absurd (Std.TransCmp.eq_trans hb hc) (List.rel_of_pairwise_cons hne (by simp))

/-- Backwards such a list has the same ties. -/
theorem ties_reverse_of_pairwise (h : xs.Pairwise fun a b => cmp a b ≠ .eq) (a : α) :
    ties cmp a xs.reverse = ties cmp a xs := by
  have hlen := length_ties_le_one h a
  rw [ties_reverse]
  match hties : ties cmp a xs with
  | [] | [_] => rfl
  | _ :: _ :: _ => simp [hties] at hlen

end

namespace Arrangement

/-- Which games compare equal does not depend on the direction. -/
theorem ties_descending (c : Column) (g : Game) (games : List Game) :
    ties (compare ⟨c, .descending⟩) g games = ties (compare ⟨c, .ascending⟩) g games := by
  apply List.filter_congr
  intro k _
  simp only [compare, Direction.orient_ascending, Direction.orient_descending]
  cases Game.compareBy c g k <;> rfl

theorem sort_descending (c : Column) (games : List Game) :
    sort ⟨c, .descending⟩ games = (sort ⟨c, .ascending⟩ games.reverse).reverse := by
  apply sort_eq_iff.mpr
  constructor
  · rw [List.pairwise_reverse]
    simp only [compare_descending]
    exact pairwise_sort ⟨c, .ascending⟩ games.reverse
  · intro g
    calc
      ties (compare ⟨c, .descending⟩) g (sort ⟨c, .ascending⟩ games.reverse).reverse
        = (ties (compare ⟨c, .ascending⟩) g (sort ⟨c, .ascending⟩ games.reverse)).reverse := by
          rw [ties_descending, ties_reverse]
      _ = (ties (compare ⟨c, .ascending⟩) g games.reverse).reverse := by rw [ties_sort]
      _ = ties (compare ⟨c, .descending⟩) g games := by
          rw [ties_reverse, List.reverse_reverse, ties_descending]

/-- Without ties, games may be given from either end. -/
theorem sort_reverse {a : Arrangement} {games : List Game}
    (h : games.Pairwise fun g k => a.compare g k ≠ .eq) :
    a.sort games.reverse = a.sort games := by
  apply sort_eq_iff.mpr
  refine ⟨a.pairwise_sort games, fun g => ?_⟩
  rw [ties_sort, ties_reverse_of_pairwise h]

/-- A descending listing is the mirror image of the ascending listing of the games given
backwards, whatever their values and names, and so of the ascending listing of the games as
they were given, if no two of them compare equal.  In it no game stands below a later one, and
in either direction games that compare equal stand as they were given. -/
theorem descending_mirrors_ascending (c : Column) (games : List Game) :
    sort ⟨c, .descending⟩ games = (sort ⟨c, .ascending⟩ games.reverse).reverse ∧
    ((games.Pairwise fun g k => compare ⟨c, .ascending⟩ g k ≠ .eq) →
      sort ⟨c, .descending⟩ games = (sort ⟨c, .ascending⟩ games).reverse) ∧
    ((sort ⟨c, .descending⟩ games).Pairwise fun g k => compare ⟨c, .ascending⟩ g k ≠ .lt) ∧
    ∀ d g, ties (compare ⟨c, d⟩) g (sort ⟨c, d⟩ games) = ties (compare ⟨c, d⟩) g games := by
  refine ⟨sort_descending c games, ?_, ?_, fun d g => ties_sort ⟨c, d⟩ g games⟩
  · intro hties
    rw [sort_descending, sort_reverse hties]
  · refine (ordered_sort ⟨c, .descending⟩ games).imp fun {g k} hgt hlt => hgt ?_
    exact Ordering.swap_eq_gt.mpr hlt

/-- Games with a NaN, with both zeros and with an infinity in the column never compare equal,
whatever their names; of two games with one rating and one name up to letter case, the first
given comes first in both directions. -/
theorem descending_mirrors_ascending_among_zeros :
    let c : Column := .rating
    let go : Game := { id := 1, name := "Go" }
    let capitals : Game := { id := 2, name := "GO" }
    let below : Game := { id := 3, name := "Go", rating := Decimal.toBinary64 true ⟨0, 0⟩ }
    let unrated : Game := { id := 4, name := "Go", rating := .nan }
    let above : Game := { id := 5, name := "Chess", rating := .infinity }
    (([unrated, go, above, below].Pairwise fun g k => compare ⟨c, .ascending⟩ g k ≠ .eq) ∧
      sort ⟨c, .descending⟩ [unrated, go, above, below] =
        (sort ⟨c, .ascending⟩ [unrated, go, above, below]).reverse) ∧
      sort ⟨c, .descending⟩ [go, below, capitals] =
        (sort ⟨c, .ascending⟩ [capitals, below, go]).reverse := by
  intro c go capitals below unrated above
  have hties : [unrated, go, above, below].Pairwise fun g k =>
      compare ⟨c, .ascending⟩ g k ≠ .eq := by decide +kernel
  exact ⟨⟨hties, (descending_mirrors_ascending c _).2.1 hties⟩,
    (descending_mirrors_ascending c [go, below, capitals]).1⟩

end Arrangement

end GameNight
