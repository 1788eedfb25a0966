import GameNight.Proofs.Shortlist.Finding

/-!
# GameNight.Proofs.Shortlist.Naming

What commands with names do to a shortlist.

Adding looks a name up among the candidates, removing among the members as they are shown,
and `contains` among the members as they are kept.  All three ask for the lower-case form
of the command without the white space around it (`Bears`), so they agree: a name is
removed if and only if it is contained, and what was added under it is found under it.
A command acts on one game, the first that bears the name, however many others bear it too.

* `exists_picks_name`, `picks_name_eq_error` — what a name picks;
* `eraseAll_insertAll_singleton` — a new member and what is left without it;
* `name_command_acts_on_one` — the whole of it.
-/

namespace GameNight

namespace Shortlist

variable {l : Shortlist} {g : Game} {games : List Game} {command title : String}

/-! ## what a name picks -/

/-- A game whose name is a command in some letter case, apart from the white space around
the command. -/
def Bears (command : String) (g : Game) : Prop := SameName g.name (trimmedName command)

instance : DecidablePred (Bears command) :=
  fun g => inferInstanceAs (Decidable (SameName g.name (trimmedName command)))

/-- The first game that bears the name. -/
def FirstBearing (command : String) (games : List Game) (g : Game) : Prop :=
  ∃ earlier later, games = earlier ++ g :: later ∧ (∀ k ∈ earlier, ¬ Bears command k) ∧
    Bears command g

theorem FirstBearing.bears (h : FirstBearing command games g) : Bears command g := by
  obtain ⟨-, -, -, -, hbears⟩ := h
  exact hbears

theorem FirstBearing.mem (h : FirstBearing command games g) : g ∈ games := by
  obtain ⟨earlier, later, rfl, -⟩ := h
  exact List.mem_append_right _ List.mem_cons_self

theorem picks_name_eq (h : Selector.parse command = .ok (.name title)) (games : List Game) :
    picks command games =
      match games.find? (fun g => Bears command g) with
      | some g => .ok [g]
      | none => .error (.gameNotFound title) := by
  have hnamed : Selector.named title = fun g => decide (Bears command g) := by
    rw [Selector.eq_of_parse_eq_name h, ← toList_trimmedName]
    exact Selector.named_lower (trimmedName command)
  rw [picks, h, ← hnamed]
  rfl

/-- Of the games that bear the name, the first one is picked. -/
theorem exists_picks_name (h : Selector.parse command = .ok (.name title))
    (hbears : ∃ g ∈ games, Bears command g) :
    ∃ g, FirstBearing command games g ∧ picks command games = .ok [g] := by
  rw [picks_name_eq h]
  cases hfind : games.find? (fun g => Bears command g) with
  | none =>
    obtain ⟨g, hg, hname⟩ := hbears
    exact absurd (decide_eq_true hname) (List.find?_eq_none.mp hfind g hg)
  | some g =>
    obtain ⟨hname, earlier, later, hgames, hearlier⟩ := List.find?_eq_some_iff_append.mp hfind
    refine ⟨g, ⟨earlier, later, hgames, ?_, of_decide_eq_true hname⟩, rfl⟩
    intro k hk hbears
    simpa [hbears] using hearlier k hk

/-- A name that no game bears is not found. -/
theorem picks_name_eq_error (h : Selector.parse command = .ok (.name title))
    (hbears : ¬ ∃ g ∈ games, Bears command g) :
    picks command games = .error (.gameNotFound title) := by
  have hfind : games.find? (fun g => Bears command g) = none :=
    List.find?_eq_none.mpr fun g hg hname => hbears ⟨g, hg, of_decide_eq_true hname⟩
  rw [picks_name_eq h, hfind]

/-! ## one game more, one game less -/

theorem games_insertAll_singleton (l : Shortlist) (g : Game) :
    (l.insertAll [g]).games = l.games ∪ {g} := by
  rw [games_insertAll, List.toFinset_cons, List.toFinset_nil, insert_empty_eq]

theorem games_eraseAll_singleton (l : Shortlist) (g : Game) :
    (l.eraseAll [g]).games = l.games.erase g := by
  rw [games_eraseAll, List.toFinset_cons, List.toFinset_nil, insert_empty_eq,
    Finset.sdiff_singleton_eq_erase]

/-- A new member that is taken off again leaves no trace, not even in the order of the
others. -/
theorem eraseAll_insertAll_singleton (hg : g ∉ l) : (l.insertAll [g]).eraseAll [g] = l := by
  obtain ⟨members, hnodup⟩ := l
  replace hg : g ∉ members := hg
  have hinsert : (insertAll ⟨members, hnodup⟩ [g]).members = members ++ [g] := by
    rw [insertAll, List.foldl_cons, List.foldl_nil, insert, dif_neg hg]
  have hkeep : members.filter (· ∉ [g]) = members := by
    refine List.filter_eq_self.mpr fun h hh => decide_eq_true ?_
    rw [List.mem_singleton]
    rintro rfl
    exact hg hh
  have hfilter : (members ++ [g]).filter (· ∉ [g]) = members := by
    rw [List.filter_append, hkeep, List.filter_cons_of_neg (by simp), List.filter_nil,
      List.append_nil]
  simp only [eraseAll, hinsert, hfilter]

/-! ## commands -/

theorem contains_iff_bears : l.contains command = true ↔ ∃ g ∈ l, Bears command g :=
  contains_iff_sameName

/-- Adding a name that the shortlist does not contain, and removing it, changes nothing. -/
theorem remove_insertAll_singleton (h : Selector.parse command = .ok (.name title))
    (hg : Bears command g) (hnew : l.contains command = false) :
    (l.insertAll [g]).remove command = .ok l := by
  have hothers : ∀ k ∈ l, ¬ Bears command k := by
    intro k hk hbears
    rw [contains_iff_bears.mpr ⟨k, hk, hbears⟩] at hnew
    contradiction
  have hnow : ∃ k ∈ (l.insertAll [g]).shown, Bears command k := ⟨g, by simp, hg⟩
  obtain ⟨k, hfirst, hpicks⟩ := exists_picks_name h hnow
  -- the new member is the only one that bears the name
  obtain rfl : k = g := by
    have hk : k ∈ l ∨ k ∈ [g] := mem_insertAll.mp (mem_shown.mp hfirst.mem)
    exact List.mem_singleton.mp (hk.resolve_left fun hmem => hothers k hmem hfirst.bears)
  refine remove_eq_ok_iff.mpr ⟨[k], hpicks, eraseAll_insertAll_singleton ?_⟩
  exact fun hmem => hothers k hmem hg

theorem add_name (h : Selector.parse command = .ok (.name title)) (l : Shortlist)
    (candidates : List Game) :
    if ∃ g ∈ candidates, Bears command g then
      ∃ l', l.add command candidates = .ok l' ∧
        (∃ g, FirstBearing command candidates g ∧ l'.games = l.games ∪ {g}) ∧
        l'.contains command = true ∧
        (l.contains command = false → l'.remove command = .ok l)
    else l.Refuses (.add command candidates) (.gameNotFound title) := by
  split
  · next hbears =>
    obtain ⟨g, hfirst, hpicks⟩ := exists_picks_name h hbears
    refine ⟨_, add_eq_ok_iff.mpr ⟨[g], hpicks, rfl⟩,
      ⟨g, hfirst, games_insertAll_singleton l g⟩, ?_, ?_⟩
    · exact contains_iff_bears.mpr ⟨g, by simp, hfirst.bears⟩
    · exact remove_insertAll_singleton h hfirst.bears
  · next hbears => exact refuses_add (picks_name_eq_error h hbears) l

theorem remove_name (h : Selector.parse command = .ok (.name title)) (l : Shortlist) :
    if l.contains command = true then
      ∃ l', l.remove command = .ok l' ∧ ∃ g ∈ l, Bears command g ∧
        l'.games = l.games.erase g ∧ l'.count + 1 = l.count ∧
        (l'.contains command = true ↔ ∃ k ∈ l, k ≠ g ∧ Bears command k)
    else l.Refuses (.remove command) (.gameNotFound title) := by
  have hshown : l.contains command = true ↔ ∃ g ∈ l.shown, Bears command g := by
    simp only [contains_iff_bears, mem_shown]
  split
  · next hcontains =>
    obtain ⟨g, hfirst, hpicks⟩ := exists_picks_name h (hshown.mp hcontains)
    have hg : g ∈ l := mem_shown.mp hfirst.mem
    refine ⟨_, remove_eq_ok_iff.mpr ⟨[g], hpicks, rfl⟩, g, hg, hfirst.bears,
      games_eraseAll_singleton l g, count_eraseAll (List.nodup_singleton g) (by simpa using hg), ?_⟩
    simp only [contains_iff_bears, mem_eraseAll, List.mem_singleton, and_assoc]
  · next hcontains => exact refuses_remove (picks_name_eq_error h (hshown.not.mp hcontains))

/-- A command with a name acts on one game.  If some candidate bears the name, the first
that does is added, the name is then contained, and if it was not contained before,
removing it gives the very shortlist back.  If the name is contained, one member that
bears it is removed, and it is still contained exactly if another member bears it.  In all
other cases the game is not found, and nothing changes. -/
theorem name_command_acts_on_one (h : Selector.parse command = .ok (.name title))
    (l : Shortlist) (candidates : List Game) :
    (if ∃ g ∈ candidates, Bears command g then
      ∃ l', l.add command candidates = .ok l' ∧
        (∃ g, FirstBearing command candidates g ∧ l'.games = l.games ∪ {g}) ∧
        l'.contains command = true ∧
        (l.contains command = false → l'.remove command = .ok l)
    else l.Refuses (.add command candidates) (.gameNotFound title)) ∧
    if l.contains command = true then
      ∃ l', l.remove command = .ok l' ∧ ∃ g ∈ l, Bears command g ∧
        l'.games = l.games.erase g ∧ l'.count + 1 = l.count ∧
        (l'.contains command = true ↔ ∃ k ∈ l, k ≠ g ∧ Bears command k)
    else l.Refuses (.remove command) (.gameNotFound title) :=
  ⟨add_name h l candidates, remove_name h l⟩

/-- Two members and two candidates bear a name that is given in capitals and with white
space around it. -/
theorem name_command_acts_on_one_of_two :
    let candidates : List Game :=
      [{ id := 1, name := "Go" }, { id := 2, name := "οδος" }, { id := 3, name := "Οδός" },
        { id := 4, name := "ΟΔΟΣ" }]
    let l := run ∅ [.add "all" candidates]
    (∃ l', (∅ : Shortlist).add " ΟΔΟΣ " candidates = .ok l' ∧ l'.remove " ΟΔΟΣ " = .ok ∅) ∧
    ∃ l', l.remove " ΟΔΟΣ " = .ok l' ∧ l'.count = 3 ∧ l'.contains " ΟΔΟΣ " = true := by
  intro candidates l
  have hparse : Selector.parse " ΟΔΟΣ " = .ok (.name "οδος") := by decide +kernel
  have hoffered : ∃ g ∈ candidates, Bears " ΟΔΟΣ " g := by decide +kernel
  have hcontained : l.contains " ΟΔΟΣ " = true := by decide +kernel
  have hempty := name_command_acts_on_one hparse ∅ candidates
  have hfull := name_command_acts_on_one hparse l candidates
  rw [if_pos hoffered] at hempty
  rw [if_pos hcontained] at hfull
  obtain ⟨⟨l', hok, -, -, hback⟩, -⟩ := hempty
  obtain ⟨-, l'', hok', g, hg, -, -, hcount, hcontains⟩ := hfull
  refine ⟨⟨l', hok, hback (by decide +kernel)⟩, l'', hok', ?_, ?_⟩
  · have hfour : l.count = 4 := by decide +kernel
    omega
  · have htwo : ∀ g ∈ l.members, ∃ k ∈ l.members, k ≠ g ∧ Bears " ΟΔΟΣ " k := by decide +kernel
    exact hcontains.mpr (htwo g hg)

end Shortlist

end GameNight
