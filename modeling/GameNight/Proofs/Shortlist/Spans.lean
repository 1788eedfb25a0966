import GameNight.Proofs.Shortlist.Positions

/-!
# GameNight.Proofs.Shortlist.Spans

What commands with positions do to a shortlist.

Such a command is carried out if its positions name a part of the list they refer to
(`Selector.IsSpan`): the candidates when games are added, and the shortlist's own listing
when they are removed.  Every other one is refused, with the fault of its form, and leaves
the shortlist as it was.

* `add_spanCommand`, `remove_spanCommand` — two positions;
* `add_positionCommand`, `remove_positionCommand` — one position;
* `position_commands_act_on_spans` — the whole of it.
-/

namespace GameNight

namespace Shortlist

open Selector (IsSpan Between spanCommand positionCommand)

variable {l : Shortlist} {games : List Game} {ds es : List Char} {n first last : Nat}

/-! ## what positions pick -/

/-- Two positions that name no part of a list, or do not fit the word, pick nothing. -/
theorem exists_picks_spanCommand_eq_error (hfirst : Writes ds first) (hlast : Writes es last)
    (h : ¬ (IsSpan first last games.length ∧ last < 2 ^ 64)) :
    ∃ cause, picks (spanCommand ds es) games = .error (.invalidRange cause) := by
  rw [picks, Selector.parse_spanCommand hfirst hlast]
  split
  · next hwords =>
    exact Selector.exists_select_range_eq_error fun hspan => h ⟨hspan, hwords.2⟩
  · exact ⟨_, rfl⟩

/-- A position picks what it picks as both ends of a range. -/
theorem picks_positionCommand (h : Writes ds n) (hword : n < 2 ^ 64)
    (hspan : IsSpan n n games.length) :
    picks (positionCommand ds) games = picks (spanCommand ds ds) games := by
  rw [picks_spanCommand h h hspan hword, picks, Selector.parse_positionCommand h hword]
  exact Selector.select_index hspan

theorem picks_positionCommand_eq_error (h : Writes ds n) (hword : n < 2 ^ 64)
    (hspan : ¬ IsSpan n n games.length) :
    picks (positionCommand ds) games = .error (.indexOutOfRange n games.length) := by
  rw [picks, Selector.parse_positionCommand h hword]
  exact Selector.select_index_eq_error hspan

/-! ## what is taken off a shortlist -/

/-- One member is taken off for each position. -/
theorem count_eraseAll_slice (h : IsSpan first last l.count) :
    (l.eraseAll (Selector.slice l.shown first last)).count + (last - first + 1) = l.count := by
  have hnodup : (Selector.slice l.shown first last).Nodup :=
    (Selector.slice_sublist l.shown first last).nodup l.isListing_shown.nodup
  rw [← Selector.length_slice (l.length_shown.symm ▸ h)]
  exact count_eraseAll hnodup fun g hg => mem_shown.mp (Selector.mem_of_slice hg)

/-- If no two members have the same name in other letters, they stand in the one order
that their names have. -/
theorem ascending_shown (hnames : ∀ g ∈ l, ∀ h ∈ l, g ≠ h → g.compareName h ≠ .eq) :
    Ascending l.shown := by
  refine ascending_iff.mpr ⟨l.pairwise_shown, ?_⟩
  apply l.isListing_shown.nodup.pairwise_of_forall_ne
  intro g hg h hh hne
  exact hnames g (mem_shown.mp hg) h (mem_shown.mp hh) hne

theorem names_eraseAll_slice (hnames : ∀ g ∈ l, ∀ h ∈ l, g ≠ h → g.compareName h ≠ .eq)
    (hle : first ≤ last) :
    (l.eraseAll (Selector.slice l.shown first last)).names =
      l.names.take (first - 1) ++ l.names.drop last := by
  have hshows := showsOnly_eraseAll_slice (ascending_shown hnames)
    l.isListing_shown.toFinset_eq.symm hle
  rw [hshows.names_eq, List.map_append, List.map_take, List.map_drop, names]

/-! ## commands -/

theorem add_spanCommand (hfirst : Writes ds first) (hlast : Writes es last) (l : Shortlist)
    (candidates : List Game) :
    if IsSpan first last candidates.length ∧ last < 2 ^ 64 then
      ∃ l', l.add (spanCommand ds es) candidates = .ok l' ∧
        ∀ g, g ∈ l' ↔ g ∈ l ∨ Between candidates first last g
    else ∃ cause, l.Refuses (.add (spanCommand ds es) candidates) (.invalidRange cause) := by
  split
  · next h =>
    refine ⟨_, add_eq_ok_iff.mpr ⟨_, picks_spanCommand hfirst hlast h.1 h.2, rfl⟩, ?_⟩
    intro g
    rw [mem_insertAll, Selector.mem_slice_iff h.1.one_le]
  · next h =>
    obtain ⟨cause, hpicks⟩ := exists_picks_spanCommand_eq_error hfirst hlast h
    exact ⟨cause, refuses_add hpicks l⟩

theorem remove_spanCommand (hfirst : Writes ds first) (hlast : Writes es last) (l : Shortlist) :
    if IsSpan first last l.count ∧ last < 2 ^ 64 then
      ∃ l', l.remove (spanCommand ds es) = .ok l' ∧ l'.count + (last - first + 1) = l.count ∧
        (∀ g, g ∈ l' ↔ g ∈ l ∧ ¬ Between l.shown first last g) ∧
        ((∀ g ∈ l, ∀ h ∈ l, g ≠ h → g.compareName h ≠ .eq) →
          l'.names = l.names.take (first - 1) ++ l.names.drop last)
    else ∃ cause, l.Refuses (.remove (spanCommand ds es)) (.invalidRange cause) := by
  have hlength := l.length_shown
  split
  · next h =>
    have hpicks := picks_spanCommand hfirst hlast (hlength.symm ▸ h.1) h.2
    refine ⟨_, remove_eq_ok_iff.mpr ⟨_, hpicks, rfl⟩, count_eraseAll_slice h.1, ?_, ?_⟩
    · intro g
      rw [mem_eraseAll, Selector.mem_slice_iff h.1.one_le]
    · exact fun hnames => names_eraseAll_slice hnames h.1.le
  · next h =>
    obtain ⟨cause, hpicks⟩ := exists_picks_spanCommand_eq_error hfirst hlast (hlength.symm ▸ h)
    exact ⟨cause, refuses_remove hpicks⟩

theorem add_positionCommand (h : Writes ds n) (hword : n < 2 ^ 64) (l : Shortlist)
    (candidates : List Game) :
    if IsSpan n n candidates.length then
      ∃ l', l.add (positionCommand ds) candidates = .ok l' ∧
        l.add (spanCommand ds ds) candidates = .ok l'
    else
      l.Refuses (.add (positionCommand ds) candidates) (.indexOutOfRange n candidates.length) := by
  split
  · next hspan =>
    have hpicks := picks_spanCommand h h hspan hword
    have hone := (picks_positionCommand h hword hspan).trans hpicks
    exact ⟨_, add_eq_ok_iff.mpr ⟨_, hone, rfl⟩, add_eq_ok_iff.mpr ⟨_, hpicks, rfl⟩⟩
  · next hspan => exact refuses_add (picks_positionCommand_eq_error h hword hspan) l

theorem remove_positionCommand (h : Writes ds n) (hword : n < 2 ^ 64) (l : Shortlist) :
    if IsSpan n n l.count then
      ∃ l', l.remove (positionCommand ds) = .ok l' ∧ l.remove (spanCommand ds ds) = .ok l'
    else l.Refuses (.remove (positionCommand ds)) (.indexOutOfRange n l.count) := by
  rw [← l.length_shown]
  split
  · next hspan =>
    have hpicks := picks_spanCommand h h hspan hword
    have hone := (picks_positionCommand h hword hspan).trans hpicks
    exact ⟨_, remove_eq_ok_iff.mpr ⟨_, hone, rfl⟩, remove_eq_ok_iff.mpr ⟨_, hpicks, rfl⟩⟩
  · next hspan => exact refuses_remove (picks_positionCommand_eq_error h hword hspan)

/-- Two positions are carried out if they name a part of the list, and are refused
otherwise, however large they are and whether or not there are zeros in front of them.
What is added are the candidates from the first position to the last one; what is removed
are the members at these positions of the shortlist's listing, one for each position, so
the names on show are cut there if no two of them are the same in other letters.  One
position does what it does as both ends of a range, if there is a game at it.  No position
that anything is picked at lies outside the list.  Positions are words of 64 bits, so they
reach to the end of every list that fits a memory. -/
theorem position_commands_act_on_spans (l : Shortlist) (candidates : List Game) :
    (∀ ds es first last, Writes ds first → Writes es last →
      let command := spanCommand ds es
      (if IsSpan first last candidates.length ∧ last < 2 ^ 64 then
        ∃ l', l.add command candidates = .ok l' ∧
          ∀ g, g ∈ l' ↔ g ∈ l ∨ Between candidates first last g
      else ∃ cause, l.Refuses (.add command candidates) (.invalidRange cause)) ∧
      if IsSpan first last l.count ∧ last < 2 ^ 64 then
        ∃ l', l.remove command = .ok l' ∧ l'.count + (last - first + 1) = l.count ∧
          (∀ g, g ∈ l' ↔ g ∈ l ∧ ¬ Between l.shown first last g) ∧
          ((∀ g ∈ l, ∀ h ∈ l, g ≠ h → g.compareName h ≠ .eq) →
            l'.names = l.names.take (first - 1) ++ l.names.drop last)
      else ∃ cause, l.Refuses (.remove command) (.invalidRange cause)) ∧
    (∀ ds n, Writes ds n → n < 2 ^ 64 →
      let command := positionCommand ds
      (if IsSpan n n candidates.length then
        ∃ l', l.add command candidates = .ok l' ∧ l.add (spanCommand ds ds) candidates = .ok l'
      else l.Refuses (.add command candidates) (.indexOutOfRange n candidates.length)) ∧
      if IsSpan n n l.count then
        ∃ l', l.remove command = .ok l' ∧ l.remove (spanCommand ds ds) = .ok l'
      else l.Refuses (.remove command) (.indexOutOfRange n l.count)) ∧
    ∀ games picked,
      (∀ first last, Selector.select games (.range first last) = .ok picked →
        IsSpan first last games.length ∧ picked.length = last - first + 1) ∧
      ∀ n, Selector.select games (.index n) = .ok picked →
        IsSpan n n games.length ∧ picked.length = 1 := by
  refine ⟨?two, ?one, ?inside⟩
  case two =>
    intro ds es first last hfirst hlast
    exact ⟨add_spanCommand hfirst hlast l candidates, remove_spanCommand hfirst hlast l⟩
  case one =>
    intro ds n h hword
    exact ⟨add_positionCommand h hword l candidates, remove_positionCommand h hword l⟩
  case inside =>
    intro games picked
    exact ⟨fun _ _ => Selector.of_select_range, fun _ => Selector.of_select_index⟩

/-- The second and the third of four games on show are taken off, with a zero in front of a
position; the same positions the other way round are refused. -/
theorem position_commands_act_on_four_games :
    let candidates : List Game :=
      [{ name := "Go" }, { name := "Azul" }, { name := "chess" }, { name := "Catan" }]
    let l := run ∅ [.add "all" candidates]
    (∃ l', l.remove "02-3" = .ok l' ∧ l'.count = 2 ∧
      l'.names = l.names.take 1 ++ l.names.drop 3) ∧
    (∃ l', l.remove "4" = .ok l') ∧
    ∃ cause, l.Refuses (.add "3-02" candidates) (.invalidRange cause) := by
  intro candidates l
  have hcount : l.count = 4 := by decide +kernel
  have hnames : ∀ g ∈ l.members, ∀ h ∈ l.members, g ≠ h → g.compareName h ≠ .eq := by
    decide +kernel
  have htwo : Writes ['0', '2'] 2 := by decide
  have hthree : Writes ['3'] 3 := by decide
  have hfour : Writes ['4'] 4 := by decide
  obtain ⟨hspans, hpositions, -⟩ := position_commands_act_on_spans l candidates
  have hremove := (hspans _ _ _ _ htwo hthree).2
  have hadd := (hspans _ _ _ _ hthree htwo).1
  have hindex := (hpositions _ _ hfour (by decide)).2
  rw [hcount, if_pos (by decide)] at hremove hindex
  rw [if_neg (by decide)] at hadd
  obtain ⟨l', hok, hleft, -, hcut⟩ := hremove
  obtain ⟨l'', hlast, -⟩ := hindex
  exact ⟨⟨l', hok, by omega, hcut hnames⟩, ⟨l'', hlast⟩, hadd⟩

end Shortlist

end GameNight
