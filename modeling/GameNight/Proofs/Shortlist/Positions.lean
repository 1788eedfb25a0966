import GameNight.Proofs.Browsing.History
import GameNight.Proofs.Selector.Spans
import GameNight.Proofs.Shortlist.Refinement
import Mathlib.Data.List.Pairwise

/-!
# GameNight.Proofs.Shortlist.Positions

Positions read off a listing, and the games they pick.

A person sees a numbered listing, which a browser has sorted, and gives two
positions in it; a shortlist keeps the games as a set and sorts them itself before
it counts.  The two orders are one if no two names are the same in other letters,
since a set of such games has a single listing by name.

* `Selector.toFinset_sdiff_slice` — taking a range out of the set of games leaves what
  stands before and after it in the list;
* `IsListing.eq` — the listing of a set with different names;
* `positions_address_shown` — from the listing to the shortlist, and back.
-/

namespace GameNight

/-! ## commands with positions -/

namespace Selector

/-- The command for the games from one position to another. -/
def rangeCommand (first last : Nat) : String := toString first ++ "-" ++ toString last

theorem rangeCommand_eq (first last : Nat) :
    rangeCommand first last = spanCommand (digits first) (digits last) := by
  rw [← String.toList_inj]
  simp [rangeCommand, spanCommand, digits, toString]

end Selector

namespace Shortlist

variable {l : Shortlist} {games : List Game}

/-! ## the one listing -/

/-- Games in the order of their names, no two of which are the same in other letters. -/
def Ascending (games : List Game) : Prop := games.Pairwise fun g h => g.compareName h = .lt

theorem ascending_iff : Ascending games ↔
    (games.Pairwise fun g h => g.compareName h ≠ .gt) ∧
      games.Pairwise fun g h => g.compareName h ≠ .eq := by
  rw [← List.pairwise_and_iff]
  refine List.Pairwise.iff fun g h => ?_
  cases g.compareName h <;> decide

instance : Std.Symm fun g h : Game => g.compareName h ≠ .eq :=
  ⟨fun _ _ hne heq => hne (Std.OrientedCmp.eq_symm heq)⟩

theorem Ascending.sublist {sub : List Game} (h : Ascending games) (hsub : sub.Sublist games) :
    Ascending sub :=
  List.Pairwise.sublist hsub h

theorem Ascending.nodup (h : Ascending games) : games.Nodup :=
  h.imp fun {g h} hlt heq => by
    have hself : h.compareName h = .eq := Std.ReflCmp.compare_self
    rw [heq, hself] at hlt
    contradiction

/-- A set whose games have different names has one listing. -/
theorem IsListing.eq {s : Finset Game} {listing : List Game} (h : Ascending games)
    (hgames : games.toFinset = s) (hlisting : IsListing s listing) : listing = games := by
  obtain ⟨hordered, hnames⟩ := ascending_iff.mp h
  have hperm : listing.Perm games :=
    List.perm_of_nodup_nodup_toFinset_eq hlisting.nodup h.nodup
      (hlisting.toFinset_eq.trans hgames.symm)
  refine hperm.eq_of_pairwise ?_ hlisting.ordered hordered
  -- neither of the two is above the other, and only a game itself has its name
  intro g h hg hh hle hge
  by_contra hne
  apply hnames.forall (hperm.subset hg) hh hne
  exact Std.OrientedCmp.isLE_antisymm (Ordering.isLE_iff_ne_gt.mpr hle)
    (Ordering.isLE_iff_ne_gt.mpr hge)

/-- A shortlist that shows some games, in this order, and whose set of games has no
other listing by name. -/
structure ShowsOnly (l : Shortlist) (games : List Game) : Prop where
  names_eq : l.names = games.map Game.name
  unique : ∀ listing, IsListing l.games listing → listing = games

theorem Ascending.showsOnly (h : Ascending games) (hl : l.games = games.toFinset) :
    l.ShowsOnly games := by
  have hunique : ∀ listing, IsListing l.games listing → listing = games :=
    fun _ hlisting => hlisting.eq h hl.symm
  exact ⟨congrArg (List.map Game.name) (hunique _ l.isListing_shown), hunique⟩

/-! ## commands -/

theorem picks_all (games : List Game) : picks "all" games = .ok games := by
  rw [picks, Selector.parse_all]
  rfl

theorem picks_spanCommand {ds es : List Char} {first last : Nat} (hfirst : Writes ds first)
    (hlast : Writes es last) (hspan : Selector.IsSpan first last games.length)
    (hword : last < 2 ^ 64) :
    picks (Selector.spanCommand ds es) games = .ok (Selector.slice games first last) := by
  have hword' : first < 2 ^ 64 := hspan.le.trans_lt hword
  rw [picks, Selector.parse_spanCommand hfirst hlast, if_pos ⟨hword', hword⟩]
  exact Selector.select_range hspan

theorem picks_rangeCommand {first last : Nat} (hfirst : 1 ≤ first) (hle : first ≤ last)
    (hlast : last ≤ games.length) (hword : last < 2 ^ 64) :
    picks (Selector.rangeCommand first last) games = .ok (Selector.slice games first last) := by
  rw [Selector.rangeCommand_eq]
  exact picks_spanCommand (writes_digits first) (writes_digits last) ⟨hfirst, hle, hlast⟩ hword

/-- What is picked from games in order is what a shortlist then shows. -/
theorem exists_add_empty {command : String} {picked : List Game} (h : Ascending games)
    (hpicks : picks command games = .ok picked) (hsub : picked.Sublist games) :
    ∃ l, (∅ : Shortlist).add command games = .ok l ∧ l.games = picked.toFinset ∧
      l.ShowsOnly picked := by
  have hgames : ((∅ : Shortlist).insertAll picked).games = picked.toFinset := by
    rw [games_insertAll, games_empty, Finset.empty_union]
  exact ⟨_, add_eq_ok_iff.mpr ⟨picked, hpicks, rfl⟩, hgames, (h.sublist hsub).showsOnly hgames⟩

/-- A shortlist that shows games in order shows what stands before and after a part of
them when this part is taken off. -/
theorem showsOnly_eraseAll_slice {first last : Nat} (h : Ascending games)
    (hl : l.games = games.toFinset) (hle : first ≤ last) :
    (l.eraseAll (Selector.slice games first last)).ShowsOnly
      (games.take (first - 1) ++ games.drop last) := by
  apply Ascending.showsOnly (h.sublist (Selector.around_slice_sublist games hle))
  rw [games_eraseAll, hl, Selector.toFinset_sdiff_slice h.nodup hle]

theorem exists_remove_range {first last : Nat} (h : Ascending games)
    (hl : l.games = games.toFinset) (hfirst : 1 ≤ first) (hle : first ≤ last)
    (hlast : last ≤ games.length) (hword : last < 2 ^ 64) :
    ∃ l', l.remove (Selector.rangeCommand first last) = .ok l' ∧
      l'.ShowsOnly (games.take (first - 1) ++ games.drop last) := by
  have hshown : l.shown = games := l.isListing_shown.eq h hl.symm
  have hpicks := picks_rangeCommand hfirst hle (hshown.symm ▸ hlast) hword
  refine ⟨_, remove_eq_ok_iff.mpr ⟨_, hpicks, rfl⟩, ?_⟩
  rw [hshown]
  exact showsOnly_eraseAll_slice h hl hle

end Shortlist

namespace Browser

/-! ## listings of a browser -/

/-- If nothing else is said, games are listed by name. -/
theorem compare_default (g h : Game) : Arrangement.compare {} g h = g.compareName h := by
  change (g.compareName h).then (g.compareName h) = g.compareName h
  cases g.compareName h <;> rfl

theorem ordered_filter_default (catalog : List Game) (requests : List Request) (query : String) :
    (((start catalog {}).run requests).filter query).2.Pairwise fun g h =>
      g.compareName h ≠ .gt := by
  have hsettings : ((start catalog {}).run requests).settings = {} :=
    ((shows_start catalog {}).run requests).settings_eq
  have hordered := (lists_search ((start catalog {}).run requests) query none).ordered
  rw [hsettings] at hordered
  exact hordered.imp fun {g h} hne => compare_default g h ▸ hne

/-- Positions mean to a shortlist what they mean on the screen.  After every run, let a
search list games no two of whose names are the same in other letters.  All of them put
on an empty shortlist are shown as they were listed; so are those from one position to
another; and when these are taken off again, the rest is shown.  In no case can the games
be shown by name in any other way.  Positions are words of 64 bits, so they reach to the
end of every list that fits a memory. -/
theorem positions_address_shown (catalog : List Game) (requests : List Request) (query : String) :
    let shown := (((start catalog {}).run requests).filter query).2
    (shown.Pairwise fun g h => g.compareName h ≠ .eq) →
    ∃ l, (∅ : Shortlist).add "all" shown = .ok l ∧ l.ShowsOnly shown ∧
      ∀ first last, 1 ≤ first → first ≤ last → last ≤ shown.length → last < 2 ^ 64 →
        (∃ l', (∅ : Shortlist).add (Selector.rangeCommand first last) shown = .ok l' ∧
          l'.ShowsOnly ((shown.take last).drop (first - 1))) ∧
        ∃ l', l.remove (Selector.rangeCommand first last) = .ok l' ∧
          l'.ShowsOnly (shown.take (first - 1) ++ shown.drop last) := by
  intro shown hnames
  have hascending : Shortlist.Ascending shown :=
    Shortlist.ascending_iff.mpr ⟨ordered_filter_default catalog requests query, hnames⟩
  obtain ⟨l, hadd, hgames, hshows⟩ :=
    Shortlist.exists_add_empty hascending (Shortlist.picks_all shown) (List.Sublist.refl shown)
  refine ⟨l, hadd, hshows, ?_⟩
  intro first last hfirst hle hlast hword
  refine ⟨?_, Shortlist.exists_remove_range hascending hgames hfirst hle hlast hword⟩
  obtain ⟨l', hadd', -, hshows'⟩ := Shortlist.exists_add_empty hascending
    (Shortlist.picks_rangeCommand hfirst hle hlast hword)
    (Selector.slice_sublist shown first last)
  exact ⟨l', hadd', hshows'⟩

/-- A listing after a search and a reset, in which capitals and small letters stand side
by side.  The first two of its games are added, and are taken off the whole. -/
theorem positions_address_shown_games :
    let catalog : List Game :=
      [{ id := 1, name := "Go" }, { id := 2, name := "chess" }, { id := 3, name := "Catan" },
        { id := 4, name := "go fish" }]
    let requests : List Request := [.search "name~=fish" none, .reset]
    let shown := (((start catalog {}).run requests).filter "name!=GO FISH").2
    ∃ l, (∅ : Shortlist).add "all" shown = .ok l ∧ l.ShowsOnly shown ∧
      (∃ l', (∅ : Shortlist).add "1-2" shown = .ok l' ∧ l'.ShowsOnly (shown.take 2)) ∧
      ∃ l', l.remove "1-2" = .ok l' ∧ l'.ShowsOnly (shown.drop 2) := by
  intro catalog requests shown
  have hview : (((start catalog {}).run requests).filter "name!=GO FISH").1.view =
      catalog.take 3 := by decide +kernel
  have hperm : shown.Perm (catalog.take 3) := hview ▸ (lists_search _ _ none).perm
  have hlength : shown.length = 3 := hperm.length_eq
  have hnames : shown.Pairwise fun g h => g.compareName h ≠ .eq :=
    (hperm.pairwise_iff (Std.Symm.symm _ _)).mpr (by decide +kernel)
  obtain ⟨l, hadd, hshows, hranges⟩ :=
    positions_address_shown catalog requests "name!=GO FISH" hnames
  obtain ⟨hslice, hrest⟩ :=
    hranges 1 2 (by decide) (by decide) (hlength ▸ by decide) (by decide)
  exact ⟨l, hadd, hshows, hslice, hrest⟩

end Browser

end GameNight
