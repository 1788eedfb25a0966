import GameNight.Direction
import GameNight.Text.Lower

/-!
# GameNight.Listing

The order in which games are listed.

Games are listed by one column, and those with the same value by name; a
descending listing turns the two together around, so that its games of one
value stand in falling order of names.  The comparison is a total preorder on
all games, whatever their names and whatever their floats, and sorting is
stable: games that compare equal stay as they were.
-/

namespace GameNight

/-! ## comparing games -/

/-- The order of the values of a kind: text ignoring letter case, and floats
with a place for every value. -/
def Kind.compare : (k : Kind) → k.Value → k.Value → Ordering
  | .text => Text.compareFolded
  | .integer => Ord.compare
  | .float => Binary64.totalCompare

namespace Game

/-- Compares the names of two games. -/
def compareName (g h : Game) : Ordering := Text.compareFolded g.name.toList h.name.toList

/-- Compares the values of two games in a column.  By a column that is not
queryable all games are alike. -/
def compareValue (c : Column) (g h : Game) : Ordering :=
  if c.isQueryable then c.kind.compare (c.value g) (c.value h) else .eq

/-- Compares two games by a column, and by name where that says nothing. -/
def compareBy (c : Column) : Game → Game → Ordering := compareLex (compareValue c) compareName

end Game

/-! ## arrangements -/

/-- How a listing is arranged: by name and small values first, if nothing else
is said. -/
structure Arrangement where
  column : Column := .name
  direction : Direction := .ascending
deriving DecidableEq, Repr

namespace Arrangement

/-- Compares two games as they stand in a listing. -/
def compare (a : Arrangement) (g h : Game) : Ordering :=
  a.direction.orient (Game.compareBy a.column g h)

/-- Games in the order of a listing. -/
def sort (a : Arrangement) (games : List Game) : List Game :=
  games.mergeSort fun g h => (a.compare g h).isLE

end Arrangement

/-! ## the order is total -/

/-- Comparing by a key keeps the laws of the comparison. -/
theorem transCmp_key {α β : Type} {cmp : β → β → Ordering} [Std.TransCmp cmp] (key : α → β) :
    Std.TransCmp fun a b => cmp (key a) (key b) where
  eq_swap := Std.OrientedCmp.eq_swap
  isLE_trans := Std.TransCmp.isLE_trans

/-- Of two values one is not above the other. -/
theorem isLE_or_isLE {α : Type} {cmp : α → α → Ordering} [Std.OrientedCmp cmp] (a b : α) :
    ((cmp a b).isLE || (cmp b a).isLE) = true := by
  rw [show cmp b a = (cmp a b).swap from Std.OrientedCmp.eq_swap]
  cases cmp a b <;> rfl

instance (k : Kind) : Std.TransCmp k.compare := by
  cases k
  · exact inferInstanceAs (Std.TransCmp Text.compareFolded)
  · exact inferInstanceAs (Std.TransCmp (Ord.compare (α := Int)))
  · exact inferInstanceAs (Std.TransCmp Binary64.totalCompare)

instance : Std.TransCmp Game.compareName := transCmp_key fun g : Game => g.name.toList

instance (c : Column) : Std.TransCmp (Game.compareValue c) := by
  by_cases hc : c.isQueryable = true
  · rw [show Game.compareValue c = fun g h => c.kind.compare (c.value g) (c.value h) by
      funext g h
      simp [Game.compareValue, hc]]
    exact transCmp_key c.value
  · rw [show Game.compareValue c = fun _ _ => .eq by
      funext g h
      simp [Game.compareValue, hc]]
    exact { eq_swap := rfl, isLE_trans := fun _ _ => rfl }

instance (c : Column) : Std.TransCmp (Game.compareBy c) :=
  inferInstanceAs (Std.TransCmp (compareLex (Game.compareValue c) Game.compareName))

namespace Arrangement

/-- A descending listing compares as an ascending one with its games swapped. -/
theorem compare_descending (c : Column) (g h : Game) :
    compare ⟨c, .descending⟩ g h = compare ⟨c, .ascending⟩ h g := by
  change (Game.compareBy c g h).swap = Game.compareBy c h g
  exact Std.OrientedCmp.eq_swap.symm

instance (a : Arrangement) : Std.TransCmp a.compare := by
  obtain ⟨c, d⟩ := a
  cases d
  · exact inferInstanceAs (Std.TransCmp (Game.compareBy c))
  · rw [show compare ⟨c, .descending⟩ = fun g h => Game.compareBy c h g from
      funext fun g => funext fun h => compare_descending c g h]
    exact Std.TransCmp.opposite

/-! ## sorting -/

/-- Sorting only moves games. -/
theorem sort_perm (a : Arrangement) (games : List Game) : (a.sort games).Perm games :=
  List.mergeSort_perm _ _

@[simp] theorem mem_sort {a : Arrangement} {games : List Game} {g : Game} :
    g ∈ a.sort games ↔ g ∈ games := (a.sort_perm games).mem_iff

/-- No game of a listing compares above a later one. -/
theorem pairwise_sort (a : Arrangement) (games : List Game) :
    (a.sort games).Pairwise fun g h => (a.compare g h).isLE = true :=
  List.pairwise_mergeSort (fun _ _ _ => Std.TransCmp.isLE_trans) isLE_or_isLE games

theorem ordered_sort (a : Arrangement) (games : List Game) :
    (a.sort games).Pairwise fun g h => a.compare g h ≠ .gt :=
  (a.pairwise_sort games).imp Ordering.isLE_iff_ne_gt.mp

end Arrangement

end GameNight
