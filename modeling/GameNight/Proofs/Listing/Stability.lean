import GameNight.Listing

/-!
# GameNight.Proofs.Listing.Stability

What a listing is: the games in order, and games that compare equal as they
stood.

The order of a comparison says nothing about elements that compare equal, so a
list in order is fixed by its elements together with its *ties*: the elements
that compare equal to a given one, in the order in which they stand.

* `eq_of_pairwise_of_ties` — two lists in order with the same ties are equal;
* `ties_mergeSort` — sorting keeps all ties, that is, it is stable;
* `sort_eq_iff` — a listing is the one list in order with the ties of the
  games, which is how every equation between listings is proved.
-/

namespace GameNight

variable {α : Type} {cmp : α → α → Ordering}

/-! ## ties -/

/-- The elements of a list that compare equal to a given one, in their order. -/
def ties (cmp : α → α → Ordering) (a : α) (xs : List α) : List α :=
  xs.filter fun b => cmp a b == .eq

theorem ties_cons_of_eq {a x : α} (h : cmp a x = .eq) (xs : List α) :
    ties cmp a (x :: xs) = x :: ties cmp a xs := by
  simp [ties, h]

theorem ties_cons_of_ne {a x : α} (h : cmp a x ≠ .eq) (xs : List α) :
    ties cmp a (x :: xs) = ties cmp a xs := by
  simp [ties, h]

@[simp] theorem ties_append (a : α) (xs ys : List α) :
    ties cmp a (xs ++ ys) = ties cmp a xs ++ ties cmp a ys := by
  simp [ties]

@[simp] theorem mem_ties {a b : α} {xs : List α} :
    b ∈ ties cmp a xs ↔ b ∈ xs ∧ cmp a b = .eq := by
  simp [ties]

@[simp] theorem ties_ties (a : α) (xs : List α) : ties cmp a (ties cmp a xs) = ties cmp a xs := by
  simp [ties, List.filter_filter]

theorem ties_filter (a : α) (p : α → Bool) (xs : List α) :
    ties cmp a (xs.filter p) = (ties cmp a xs).filter p := by
  simp [ties, List.filter_filter, Bool.and_comm]

theorem ties_reverse (a : α) (xs : List α) : ties cmp a xs.reverse = (ties cmp a xs).reverse :=
  List.filter_reverse

theorem ties_sublist (a : α) (xs : List α) : (ties cmp a xs).Sublist xs := List.filter_sublist

/-! ## lists in order -/

section Order

variable [Std.TransCmp cmp]

/-- An element has a tie in every list with as many ties of it, since it is among its own
ties. -/
theorem exists_tie {xs ys : List α} {a : α}
    (h : (ties cmp a xs).length = (ties cmp a ys).length) (ha : a ∈ xs) :
    ∃ b ∈ ys, cmp a b = .eq := by
  have hself : a ∈ ties cmp a xs := mem_ties.mpr ⟨ha, Std.ReflCmp.compare_self⟩
  have hpos : 0 < (ties cmp a ys).length := h ▸ List.length_pos_of_mem hself
  obtain ⟨b, hb⟩ := List.exists_mem_of_length_pos hpos
  exact ⟨b, mem_ties.mp hb⟩

/-- The first element of a list in order is not above any element, nor above a tie of
one. -/
theorem isLE_head {x y z : α} {xs : List α}
    (hx : (x :: xs).Pairwise fun a b => (cmp a b).isLE = true) (hy : y ∈ x :: xs)
    (hzy : cmp z y = .eq) : (cmp x z).isLE = true := by
  have hyz : (cmp y z).isLE = true := by simp [Std.OrientedCmp.eq_symm hzy]
  rcases List.mem_cons.mp hy with rfl | hy
  · exact hyz
  · exact Std.TransCmp.isLE_trans (List.rel_of_pairwise_cons hx hy) hyz

/-- The first elements of two lists in order are ties, if the lists have as many ties of
each element: neither is above the other, as each has a tie in the other list. -/
theorem compare_heads {x y : α} {xs ys : List α}
    (hx : (x :: xs).Pairwise fun a b => (cmp a b).isLE = true)
    (hy : (y :: ys).Pairwise fun a b => (cmp a b).isLE = true)
    (h : ∀ a, (ties cmp a (x :: xs)).length = (ties cmp a (y :: ys)).length) :
    cmp x y = .eq := by
  obtain ⟨b, hb, hxb⟩ := exists_tie (h x) List.mem_cons_self
  obtain ⟨a, ha, hya⟩ := exists_tie (h y).symm List.mem_cons_self
  exact Std.OrientedCmp.isLE_antisymm (isLE_head hx ha hya) (isLE_head hy hb hxb)

theorem eq_of_pairwise_of_ties {xs ys : List α}
    (hx : xs.Pairwise fun a b => (cmp a b).isLE = true)
    (hy : ys.Pairwise fun a b => (cmp a b).isLE = true)
    (h : ∀ a, ties cmp a xs = ties cmp a ys) : xs = ys := by
  induction xs generalizing ys with
  | nil =>
    cases ys with
    | nil => rfl
    | cons y ys => simpa using exists_tie (congrArg List.length (h y).symm) List.mem_cons_self
  | cons x xs ih =>
    cases ys with
    | nil => simpa using exists_tie (congrArg List.length (h x)) List.mem_cons_self
    | cons y ys =>
      have hxy : cmp x y = .eq := compare_heads hx hy fun a => congrArg List.length (h a)
      have hhead := h x
      rw [ties_cons_of_eq Std.ReflCmp.compare_self, ties_cons_of_eq hxy] at hhead
      obtain rfl : x = y := (List.cons.inj hhead).1
      have htail : ∀ a, ties cmp a xs = ties cmp a ys := by
        intro a
        have ha := h a
        by_cases hax : cmp a x = .eq
        · rw [ties_cons_of_eq hax, ties_cons_of_eq hax] at ha
          exact (List.cons.inj ha).2
        · rwa [ties_cons_of_ne hax, ties_cons_of_ne hax] at ha
      rw [ih hx.of_cons hy.of_cons htail]

/-! ## sorting -/

/-- Elements that compare equal to one compare equal to each other. -/
theorem pairwise_ties (a : α) (xs : List α) :
    (ties cmp a xs).Pairwise fun b c => (cmp b c).isLE = true := by
  apply List.pairwise_iff_forall_sublist.mpr
  intro b c hsub
  have hb : cmp a b = .eq := (mem_ties.mp (hsub.subset (by simp))).2
  have hc : cmp a c = .eq := (mem_ties.mp (hsub.subset (by simp))).2
  have hbc : cmp b c = .eq := Std.TransCmp.eq_trans (Std.OrientedCmp.eq_symm hb) hc
  rw [hbc]
  rfl

theorem ties_mergeSort (a : α) (xs : List α) :
    ties cmp a (xs.mergeSort fun b c => (cmp b c).isLE) = ties cmp a xs := by
  have hsub : (ties cmp a xs).Sublist (xs.mergeSort fun b c => (cmp b c).isLE) :=
    List.sublist_mergeSort (fun _ _ _ => Std.TransCmp.isLE_trans) isLE_or_isLE
      (pairwise_ties a xs) (ties_sublist a xs)
  have hlen : (ties cmp a (xs.mergeSort fun b c => (cmp b c).isLE)).length =
      (ties cmp a xs).length :=
    ((List.mergeSort_perm _ _).filter _).length_eq
  have hties := hsub.filter fun b => cmp a b == .eq
  rw [← ties, ties_ties] at hties
  exact (hties.eq_of_length hlen.symm).symm

end Order

namespace Arrangement

@[simp] theorem ties_sort (a : Arrangement) (g : Game) (games : List Game) :
    ties a.compare g (a.sort games) = ties a.compare g games := ties_mergeSort g games

/-- A listing is the one list in order with the ties of the games. -/
theorem sort_eq_iff {a : Arrangement} {games listing : List Game} :
    a.sort games = listing ↔ (listing.Pairwise fun g h => (a.compare g h).isLE = true) ∧
      ∀ g, ties a.compare g listing = ties a.compare g games := by
  constructor
  · rintro rfl
    exact ⟨a.pairwise_sort games, fun g => a.ties_sort g games⟩
  · intro ⟨hp, ht⟩
    apply eq_of_pairwise_of_ties (a.pairwise_sort games) hp
    intro g
    rw [ties_sort, ht]

theorem sort_of_pairwise {a : Arrangement} {games : List Game}
    (h : games.Pairwise fun g h => (a.compare g h).isLE = true) : a.sort games = games :=
  sort_eq_iff.mpr ⟨h, fun _ => rfl⟩

/-! ## the laws of a listing -/

/-- Comparing games is a total preorder, on all names and on all bit patterns
of floats, and listing them is the stable sort of it: nothing is lost, no game
compares above a later one, games that compare equal stay in their order, and
listing a listing again changes nothing.  Every other way to arrange the games
stably gives the same listing. -/
theorem listing_is_stable_sort (a : Arrangement) :
    (∀ g, a.compare g g = .eq) ∧
    (∀ g h, a.compare h g = (a.compare g h).swap) ∧
    (∀ g h k, a.compare g h ≠ .gt → a.compare h k ≠ .gt → a.compare g k ≠ .gt) ∧
    ∀ games : List Game,
      (a.sort games).Perm games ∧
      ((a.sort games).Pairwise fun g h => a.compare g h ≠ .gt) ∧
      (∀ g, ties a.compare g (a.sort games) = ties a.compare g games) ∧
      a.sort (a.sort games) = a.sort games ∧
      ∀ listing : List Game, (listing.Pairwise fun g h => a.compare g h ≠ .gt) →
        (∀ g, ties a.compare g listing = ties a.compare g games) → a.sort games = listing := by
  refine ⟨fun _ => Std.ReflCmp.compare_self, fun _ _ => Std.OrientedCmp.eq_swap, ?_, ?_⟩
  · intro g h k hgh hhk
    apply Ordering.isLE_iff_ne_gt.mp
    exact Std.TransCmp.isLE_trans (Ordering.isLE_iff_ne_gt.mpr hgh)
      (Ordering.isLE_iff_ne_gt.mpr hhk)
  · intro games
    refine ⟨a.sort_perm games, a.ordered_sort games, fun g => a.ties_sort g games,
      sort_of_pairwise (a.pairwise_sort games), ?_⟩
    intro listing hordered hties
    exact sort_eq_iff.mpr ⟨hordered.imp Ordering.isLE_iff_ne_gt.mpr, hties⟩

end Arrangement

end GameNight
