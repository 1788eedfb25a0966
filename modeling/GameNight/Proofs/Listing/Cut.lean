import GameNight.Proofs.Condition.Order
import GameNight.Proofs.Listing.Stability

/-!
# GameNight.Proofs.Listing.Cut

A literal cuts a listing in two.

Conditions and listings compare games in different ways: a condition compares a
value with a literal and asks nothing of a NaN, while a listing compares values
with each other, gives each float its own place and falls back on names.  They
agree in this: the listing by a column is the listing of the games below a
literal followed by the listing of those that are not
(`sort_eq_below_append_rest`).

The step is `sort_eq_append`: a part of the games that stands before all others
comes first in the listing, as a listing of its own.
-/

namespace GameNight

/-! ## parts of a listing -/

/-- Ties that all lie on one side of a test stay together when a list is
divided by it. -/
theorem filter_append_filter_not {α : Type} {p : α → Bool} {xs : List α}
    (h : ∀ x ∈ xs, ∀ y ∈ xs, p x = true → p y = true) :
    xs.filter p ++ xs.filter (!p ·) = xs := by
  by_cases hall : ∀ x ∈ xs, p x = true
  · have hnone : xs.filter (!p ·) = [] := by
      apply List.filter_eq_nil_iff.mpr
      intro x hx
      simp [hall x hx]
    rw [hnone, List.filter_eq_self.mpr hall, List.append_nil]
  · have hno : ∀ x ∈ xs, p x = false := by
      intro x hx
      rw [← Bool.not_eq_true]
      intro hpx
      exact hall fun y hy => h x hx y hy hpx
    have hnone : xs.filter p = [] := by
      apply List.filter_eq_nil_iff.mpr
      intro x hx
      simp [hno x hx]
    have hself : xs.filter (!p ·) = xs := by
      apply List.filter_eq_self.mpr
      intro x hx
      simp [hno x hx]
    rw [hnone, hself, List.nil_append]

namespace Arrangement

/-- Games that stand before all the others come first in a listing. -/
theorem sort_eq_append {a : Arrangement} {games : List Game} {p : Game → Bool}
    (h : ∀ g ∈ games, ∀ k ∈ games, p g = true → p k = false → a.compare g k = .lt) :
    a.sort games = a.sort (games.filter p) ++ a.sort (games.filter (!p ·)) := by
  apply sort_eq_iff.mpr
  constructor
  · apply List.pairwise_append.mpr
    refine ⟨a.pairwise_sort _, a.pairwise_sort _, ?_⟩
    intro g hg k hk
    obtain ⟨hg, hpg⟩ := List.mem_filter.mp (mem_sort.mp hg)
    obtain ⟨hk, hpk⟩ := List.mem_filter.mp (mem_sort.mp hk)
    rw [h g hg k hk hpg (by simpa using hpk)]
    rfl
  · intro t
    have hside : ∀ g ∈ ties a.compare t games, ∀ k ∈ ties a.compare t games,
        p g = true → p k = true := by
      intro g hg k hk hpg
      obtain ⟨hg, htg⟩ := mem_ties.mp hg
      obtain ⟨hk, htk⟩ := mem_ties.mp hk
      have hgk : a.compare g k = .eq := Std.TransCmp.eq_trans (Std.OrientedCmp.eq_symm htg) htk
      cases hpk : p k with
      | true => rfl
      | false =>
        rw [h g hg k hk hpg hpk] at hgk
        contradiction
    rw [ties_append, ties_sort, ties_sort, ties_filter, ties_filter]
    exact filter_append_filter_not hside

end Arrangement

/-! ## below a literal, and the rest -/

namespace Condition

variable (cond : Condition) (tolerance : Binary64)

/-- The condition for values below the literal. -/
def below : Condition := cond.withOperator .less (Operator.admits_of_ne (by decide) _)

/-- The condition for values not below the literal. -/
def notBelow : Condition := cond.withOperator .atLeast (Operator.admits_of_ne (by decide) _)

theorem matchesGame_below_iff {g : Game} :
    cond.below.matchesGame tolerance g = true ↔
      cond.column.kind.order? (cond.column.value g) cond.literal = some .lt := by
  rw [below, matchesGame_withOperator, Kind.test_of_isOrder rfl]
  cases cond.column.kind.order? (cond.column.value g) cond.literal with
  | none => simp
  | some o => cases o <;> decide

/-- A value that is no NaN is below the literal or it is not. -/
theorem matchesGame_notBelow {g : Game}
    (h : cond.column.kind.isNaN (cond.column.value g) = false) :
    cond.notBelow.matchesGame tolerance g = !cond.below.matchesGame tolerance g := by
  obtain ⟨o, ho⟩ := Kind.exists_order? h (Kind.isNaN_of_read? cond.reads)
  rw [below, notBelow, matchesGame_withOperator, matchesGame_withOperator,
    Kind.test_of_isOrder rfl, Kind.test_of_isOrder rfl, ho]
  cases o <;> rfl

/-- A game below the literal is listed before one that is not below it. -/
theorem compareBy_of_below {g k : Game} (hg : cond.below.matchesGame tolerance g = true)
    (hk : cond.below.matchesGame tolerance k = false)
    (hnan : cond.column.kind.isNaN (cond.column.value k) = false) :
    Game.compareBy cond.column g k = .lt := by
  obtain ⟨o, ho⟩ := Kind.exists_order? hnan (Kind.isNaN_of_read? cond.reads)
  have hlt := (cond.matchesGame_below_iff tolerance).mp hg
  have hne : o ≠ .lt := by
    rintro rfl
    rw [(cond.matchesGame_below_iff tolerance).mpr ho] at hk
    contradiction
  have hvalue : Game.compareValue cond.column g k = .lt := by
    rw [Game.compareValue, if_pos cond.queryable]
    exact Kind.compare_eq_lt_of_order? hlt ho hne
  rw [Game.compareBy, compareLex, hvalue]
  rfl

end Condition

/-- A literal that is accepted for a column cuts every listing by that column
in two, whatever the tolerance: first the games below it and then the others,
or the other way round.  On a float column no game may have a NaN there, which
no condition finds. -/
theorem sort_eq_below_append_rest {c : Column} {op : Operator} {text : String}
    {accepted : Condition} (h : Condition.ofParts c op text = .ok accepted) :
    ∃ below rest : Condition,
      Condition.ofParts c .less text = .ok below ∧
      Condition.ofParts c .atLeast text = .ok rest ∧
      ∀ (tolerance : Binary64) (games : List Game),
        (∀ g ∈ games, c.kind.isNaN (c.value g) = false) →
        Arrangement.sort ⟨c, .ascending⟩ games =
          Arrangement.sort ⟨c, .ascending⟩ (games.filter (below.matchesGame tolerance)) ++
            Arrangement.sort ⟨c, .ascending⟩ (games.filter (rest.matchesGame tolerance)) ∧
        Arrangement.sort ⟨c, .descending⟩ games =
          Arrangement.sort ⟨c, .descending⟩ (games.filter (rest.matchesGame tolerance)) ++
            Arrangement.sort ⟨c, .descending⟩ (games.filter (below.matchesGame tolerance)) := by
  refine ⟨accepted.below, accepted.notBelow, Condition.ofParts_withOperator h _,
    Condition.ofParts_withOperator h _, ?_⟩
  obtain ⟨rfl, -, -⟩ := Condition.ofParts_eq_ok_iff.mp h
  intro tolerance games hnan
  have hrest : games.filter (accepted.notBelow.matchesGame tolerance) =
      games.filter fun g => !accepted.below.matchesGame tolerance g :=
    List.filter_congr fun g hg => accepted.matchesGame_notBelow tolerance (hnan g hg)
  constructor
  · rw [hrest]
    apply Arrangement.sort_eq_append
    intro g _ k hk hpg hpk
    exact accepted.compareBy_of_below tolerance hpg hpk (hnan k hk)
  · -- the games below the literal are those that are not among the rest
    have hbelow : games.filter (accepted.below.matchesGame tolerance) =
        games.filter fun g => !accepted.notBelow.matchesGame tolerance g := by
      apply List.filter_congr
      intro g hg
      rw [accepted.matchesGame_notBelow tolerance (hnan g hg), Bool.not_not]
    rw [hbelow]
    apply Arrangement.sort_eq_append
    intro g hg k hk hpg hpk
    rw [accepted.matchesGame_notBelow tolerance (hnan g hg), Bool.not_eq_true'] at hpg
    rw [accepted.matchesGame_notBelow tolerance (hnan k hk), Bool.not_eq_false'] at hpk
    rw [Arrangement.compare_descending]
    exact accepted.compareBy_of_below tolerance hpk hpg (hnan g hg)

/-- A cut at the negative zero, which has both zeros on its upper side though a
listing tells them apart. -/
theorem sort_cut_at_negative_zero :
    let games : List Game :=
      [{ rating := .infinity }, { rating := .zero }, { rating := ⟨true, 0, by decide⟩ },
       { rating := ⟨true, Magnitude.infinity, by decide⟩ }]
    ∃ below rest : Condition,
      Condition.ofParts .rating .less " -0 " = .ok below ∧
      Condition.ofParts .rating .atLeast " -0 " = .ok rest ∧
      (∀ g ∈ games, Kind.float.isNaN g.rating = false) ∧
      Arrangement.sort ⟨.rating, .ascending⟩ games =
        Arrangement.sort ⟨.rating, .ascending⟩ (games.filter (below.matchesGame .zero)) ++
          Arrangement.sort ⟨.rating, .ascending⟩ (games.filter (rest.matchesGame .zero)) ∧
      Arrangement.sort ⟨.rating, .descending⟩ games =
        Arrangement.sort ⟨.rating, .descending⟩ (games.filter (rest.matchesGame .zero)) ++
          Arrangement.sort ⟨.rating, .descending⟩ (games.filter (below.matchesGame .zero)) := by
  intro games
  have accepted : Condition.ofParts .rating .equal " -0 " =
      .ok ⟨.rating, .equal, "-0", ⟨true, 0, by decide⟩, rfl, rfl, rfl⟩ :=
    Condition.ofParts_eq_ok_iff.mpr ⟨rfl, rfl, by decide⟩
  obtain ⟨below, rest, hbelow, hrest, h⟩ := sort_eq_below_append_rest accepted
  have hnan : ∀ g ∈ games, Kind.float.isNaN g.rating = false := by decide
  exact ⟨below, rest, hbelow, hrest, hnan, h .zero games hnan⟩

end GameNight
