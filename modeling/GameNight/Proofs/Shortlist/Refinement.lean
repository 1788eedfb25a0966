import GameNight.Shortlist
import Mathlib.Data.Finset.Card
import Mathlib.Data.Finset.Lattice.Lemmas
import Mathlib.Data.Finset.SDiff

/-!
# GameNight.Proofs.Shortlist.Refinement

A shortlist is a finite set of games.

`Change.onSet` is what a change does to a set: union, difference, or nothing at
all.  A removal goes by positions, so it needs some listing of the set by name;
the set does not say in which order games of one name stand in it.

* `games_change` — a change of a shortlist is that change of its set;
* `setRun_run` — so a run of a shortlist is a run of its set, by induction;
* `run_refines_set` — the whole of it, with what a shortlist shows on the way.
-/

namespace GameNight

/-! ## records -/

/-- Two records that agree in all ten fields, in the floats bit for bit. -/
structure Game.SameFields (g h : Game) : Prop where
  id : g.id = h.id
  name : g.name = h.name
  minPlayers : g.minPlayers = h.minPlayers
  maxPlayers : g.maxPlayers = h.maxPlayers
  minPlayTime : g.minPlayTime = h.minPlayTime
  maxPlayTime : g.maxPlayTime = h.maxPlayTime
  difficulty : g.difficulty.toBits = h.difficulty.toBits
  rank : g.rank = h.rank
  rating : g.rating.toBits = h.rating.toBits
  yearPublished : g.yearPublished = h.yearPublished

theorem Game.sameFields_iff {g h : Game} : g.SameFields h ↔ g = h := by
  constructor
  · rintro ⟨hid, hname, hmin, hmax, hshort, hlong, hdifficulty, hrank, hrating, hyear⟩
    obtain ⟨⟩ := g
    obtain ⟨⟩ := h
    simp_all [Binary64.toBits_inj]
  · rintro rfl
    exact ⟨rfl, rfl, rfl, rfl, rfl, rfl, rfl, rfl, rfl, rfl⟩

namespace Shortlist

variable {l : Shortlist} {g : Game}

/-! ## the set of a shortlist -/

/-- The members, without the order in which they were added. -/
def games (l : Shortlist) : Finset Game := ⟨l.members, l.nodup⟩

@[simp] theorem mem_games : g ∈ l.games ↔ g ∈ l := Iff.rfl

@[simp] theorem games_empty : (∅ : Shortlist).games = ∅ := rfl

theorem games_insertAll (l : Shortlist) (picked : List Game) :
    (l.insertAll picked).games = l.games ∪ picked.toFinset := by
  ext g
  simp

theorem games_eraseAll (l : Shortlist) (picked : List Game) :
    (l.eraseAll picked).games = l.games \ picked.toFinset := by
  ext g
  simp

/-- Taking off different members takes off as many as they are. -/
theorem count_eraseAll {picked : List Game} (hnodup : picked.Nodup) (hmem : ∀ g ∈ picked, g ∈ l) :
    (l.eraseAll picked).count + picked.length = l.count := by
  have hsub : picked.toFinset ⊆ l.games := fun g hg => hmem g (List.mem_toFinset.mp hg)
  calc
    (l.eraseAll picked).count + picked.length =
        (l.games \ picked.toFinset).card + picked.toFinset.card := by
      rw [← games_eraseAll, List.toFinset_card_of_nodup hnodup]
      rfl
    _ = l.count := Finset.card_sdiff_add_card_eq_card hsub

/-! ## listings of a set -/

/-- A listing of a set by name: each of its games once, and no name before one
that is below it when letter case is ignored. -/
structure IsListing (s : Finset Game) (listing : List Game) : Prop where
  nodup : listing.Nodup
  toFinset_eq : listing.toFinset = s
  ordered : listing.Pairwise fun g h => g.compareName h ≠ .gt

/-- Members are shown in the order of their names. -/
theorem pairwise_shown (l : Shortlist) : l.shown.Pairwise fun g h => g.compareName h ≠ .gt := by
  have hsorted : l.shown.Pairwise fun g h => (g.compareName h).isLE = true :=
    List.pairwise_mergeSort (fun _ _ _ => Std.TransCmp.isLE_trans) isLE_or_isLE l.members
  exact hsorted.imp Ordering.isLE_iff_ne_gt.mp

theorem isListing_shown (l : Shortlist) : IsListing l.games l.shown where
  nodup := l.perm_shown.nodup_iff.mpr l.nodup
  toFinset_eq := by
    ext g
    simp
  ordered := l.pairwise_shown

/-! ## one change -/

/-- The games a command picks from a list. -/
def picks (command : String) (games : List Game) : Except Fault (List Game) := do
  (← Selector.parse command).select games

/-- A set after a change, with the listing that positions refer to. -/
def Change.onSet (s : Finset Game) (listing : List Game) : Change → Except Fault (Finset Game)
  | .add command candidates => (picks command candidates).map (s ∪ ·.toFinset)
  | .remove command => (picks command listing).map (s \ ·.toFinset)
  | .clear => .ok ∅

theorem add_eq (l : Shortlist) (command : String) (candidates : List Game) :
    l.add command candidates = (picks command candidates).map l.insertAll := by
  unfold add picks
  cases Selector.parse command with
  | error fault => rfl
  | ok selector => cases selector.select candidates <;> rfl

theorem remove_eq (l : Shortlist) (command : String) :
    l.remove command = (picks command l.shown).map l.eraseAll := by
  unfold remove picks
  cases Selector.parse command with
  | error fault => rfl
  | ok selector => cases selector.select l.shown <;> rfl

theorem add_eq_ok_iff {l l' : Shortlist} {command : String} {candidates : List Game} :
    l.add command candidates = .ok l' ↔
      ∃ picked, picks command candidates = .ok picked ∧ l.insertAll picked = l' := by
  rw [add_eq]
  cases picks command candidates <;> simp [Except.map]

theorem remove_eq_ok_iff {l l' : Shortlist} {command : String} :
    l.remove command = .ok l' ↔
      ∃ picked, picks command l.shown = .ok picked ∧ l.eraseAll picked = l' := by
  rw [remove_eq]
  cases picks command l.shown <;> simp [Except.map]

/-- The step: a change of a shortlist is that change of its set, and both fail
alike. -/
theorem games_change (l : Shortlist) (c : Change) :
    (l.change c).map games = c.onSet l.games l.shown := by
  cases c with
  | add command candidates =>
    rw [change, add_eq, Change.onSet]
    cases picks command candidates with
    | error fault => rfl
    | ok picked => exact congrArg Except.ok (l.games_insertAll picked)
  | remove command =>
    rw [change, remove_eq, Change.onSet]
    cases picks command l.shown with
    | error fault => rfl
    | ok picked => exact congrArg Except.ok (l.games_eraseAll picked)
  | clear => rfl

/-! ## runs -/

/-- What an attempt to change a set leaves, whichever listing of it is shown. A
change that fails leaves the set. -/
def SetStep (s : Finset Game) (c : Change) (t : Finset Game) : Prop :=
  ∃ listing, IsListing s listing ∧ t = (c.onSet s listing).toOption.getD s

/-- What a run of attempts leaves. -/
inductive SetRun : Finset Game → List Change → Finset Game → Prop where
  | nil (s : Finset Game) : SetRun s [] s
  | cons {s t u : Finset Game} {c : Change} {changes : List Change} :
    SetStep s c t → SetRun t changes u → SetRun s (c :: changes) u

theorem setStep_attempt (l : Shortlist) (c : Change) : SetStep l.games c (l.attempt c).games := by
  refine ⟨l.shown, l.isListing_shown, ?_⟩
  rw [← games_change, attempt]
  cases l.change c <;> rfl

theorem setRun_run (l : Shortlist) (changes : List Change) :
    SetRun l.games changes (l.run changes).games := by
  induction changes generalizing l with
  | nil => exact .nil l.games
  | cons c changes ih => exact .cons (l.setStep_attempt c) (ih (l.attempt c))

theorem run_concat (l : Shortlist) (changes : List Change) (c : Change) :
    l.run (changes ++ [c]) = (l.run changes).attempt c := by
  rw [run, List.foldl_append]
  rfl

theorem attempt_of_error {c : Change} {fault : Fault} (h : l.change c = .error fault) :
    l.attempt c = l := by
  rw [attempt, h]
  rfl

/-- A change that fails, and leaves the shortlist as it was. -/
structure Refuses (l : Shortlist) (c : Change) (fault : Fault) : Prop where
  change_eq : l.change c = .error fault
  attempt_eq : l.attempt c = l

theorem refuses_of_change_eq {c : Change} {fault : Fault} (h : l.change c = .error fault) :
    l.Refuses c fault :=
  ⟨h, attempt_of_error h⟩

theorem refuses_add {command : String} {candidates : List Game} {fault : Fault}
    (h : picks command candidates = .error fault) (l : Shortlist) :
    l.Refuses (.add command candidates) fault := by
  apply refuses_of_change_eq
  rw [change, add_eq, h]
  rfl

theorem refuses_remove {command : String} {fault : Fault}
    (h : picks command l.shown = .error fault) : l.Refuses (.remove command) fault := by
  apply refuses_of_change_eq
  rw [change, remove_eq, h]
  rfl

theorem attempt_of_ok {c : Change} {l' : Shortlist} (h : l.change c = .ok l') :
    l.attempt c = l' := by
  rw [attempt, h]
  rfl

/-! ## what a shortlist shows -/

theorem not_sameFields (l : Shortlist) : l.members.Pairwise fun g h => ¬ g.SameFields h :=
  l.nodup.imp fun hne hsame => hne (Game.sameFields_iff.mp hsame)

theorem perm_names (l : Shortlist) : l.names.Perm (l.members.map Game.name) :=
  l.perm_shown.map Game.name

theorem pairwise_names (l : Shortlist) :
    l.names.Pairwise fun a b => Text.compareFolded a.toList b.toList ≠ .gt :=
  List.pairwise_map.mpr l.pairwise_shown

theorem length_names (l : Shortlist) : l.names.length = l.count := by
  rw [l.perm_names.length_eq, List.length_map, count]

@[simp] theorem length_shown (l : Shortlist) : l.shown.length = l.count := l.perm_shown.length_eq

theorem isEmpty_iff_count : l.isEmpty = true ↔ l.count = 0 := by
  rw [isEmpty, count, List.isEmpty_iff, List.length_eq_zero_iff]

/-- A run of changes from the empty shortlist is a run of changes of a set, and so
is whatever is asked for next: what it adds is united with the set, what it
removes is taken off, and a change that fails leaves even the order of the members
as it was.  No two members are the same record, and the names are those of the
members, in order. -/
theorem run_refines_set (changes : List Change) :
    let l := run ∅ changes
    SetRun ∅ changes l.games ∧
    (IsListing l.games l.shown ∧ ∀ c,
      (l.change c).map games = c.onSet l.games l.shown ∧
      (∀ l', l.change c = .ok l' → run ∅ (changes ++ [c]) = l') ∧
      ∀ fault, l.change c = .error fault → run ∅ (changes ++ [c]) = l) ∧
    (l.members.Pairwise (fun g h => ¬ g.SameFields h) ∧ l.games.card = l.count) ∧
    (l.names.Perm (l.members.map Game.name) ∧
      l.names.Pairwise (fun a b => Text.compareFolded a.toList b.toList ≠ .gt) ∧
      l.names.length = l.count) ∧
    (l.isEmpty = true ↔ l.count = 0) := by
  intro l
  have hrun := setRun_run ∅ changes
  rw [games_empty] at hrun
  refine ⟨hrun, ⟨l.isListing_shown, ?_⟩, ⟨l.not_sameFields, rfl⟩,
    ⟨l.perm_names, l.pairwise_names, l.length_names⟩, isEmpty_iff_count⟩
  intro c
  rw [run_concat]
  exact ⟨l.games_change c, fun _ => attempt_of_ok, fun _ => attempt_of_error⟩

end Shortlist

end GameNight
