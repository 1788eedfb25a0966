import GameNight.Proofs.Condition.SameName
import GameNight.Proofs.Shortlist.Refinement

/-!
# GameNight.Proofs.Shortlist.Finding

Which of the names that a shortlist shows it also finds.

A name that is looked up is trimmed first, and the names of members are not.  So
a member is found under its own name if there is no white space around that name
(`Text.lower_trim_eq_iff`); otherwise only another member, whose name is what
trimming leaves of it, can be found in its place.  Letter case never stands in
the way, since both names are lower-cased as a whole.

* `contains_iff_sameName` — what is found, for every text;
* `contains_iff_of_mem_names` — what is found of the names on show;
* `mem_offered_of_mem_run` — where the members come from, by induction on a run;
* `run_finds_shown_iff` — the whole of it.
-/

namespace GameNight

/-! ## lower case and trimming -/

/-- Trimming shows in the lower-case form of a text if there is anything to trim. -/
theorem Text.lower_trim_eq_iff {cs : List Char} : lower (trim cs) = lower cs ↔ Trimmed cs := by
  constructor
  · intro h
    obtain ⟨as, bs, -, -, hcs⟩ := exists_blank_trim_blank cs
    have hlength : (fold cs).length =
        (fold as).length + (fold (trim cs)).length + (fold bs).length := by
      conv_lhs => rw [hcs]
      rw [fold_append, fold_append, List.length_append, List.length_append]
    have heq : (fold (trim cs)).length = (fold cs).length := by
      rw [← length_lower, ← length_lower, h]
    have has := length_le_length_fold as
    have hbs := length_le_length_fold bs
    obtain rfl : as = [] := List.length_eq_zero_iff.mp (by omega)
    obtain rfl : bs = [] := List.length_eq_zero_iff.mp (by omega)
    rw [hcs, List.nil_append, List.append_nil]
    exact trimmed_trim cs
  · intro h
    rw [trim_eq_self h]

namespace Shortlist

variable {l : Shortlist} {n : String} {g : Game}

/-- A name without the white space around it. -/
def trimmedName (n : String) : String := String.ofList (Text.trim n.toList)

@[simp] theorem toList_trimmedName (n : String) : (trimmedName n).toList = Text.trim n.toList :=
  String.toList_ofList

theorem sameName_trimmedName_iff : SameName n (trimmedName n) ↔ Text.Trimmed n.toList := by
  rw [SameName, toList_trimmedName, eq_comm, Text.lower_trim_eq_iff]

/-! ## what is found -/

instance (g : Game) (l : Shortlist) : Decidable (g ∈ l) :=
  inferInstanceAs (Decidable (g ∈ l.members))

theorem mem_names : n ∈ l.names ↔ ∃ g ∈ l, g.name = n := by
  simp [names]

/-- What is found under a text: the members whose names are the trimmed text in
some letter case. -/
theorem contains_iff_sameName :
    l.contains n = true ↔ ∃ g ∈ l, SameName g.name (trimmedName n) := by
  rw [contains, ← toList_trimmedName, Selector.named_lower, List.any_eq_true]
  simp only [decide_eq_true_eq]
  rfl

/-- A name on show is found if there is no white space around it, or if there is a
member with another name that is this one without its white space. -/
theorem contains_iff_of_mem_names (hn : n ∈ l.names) :
    l.contains n = true ↔
      Text.Trimmed n.toList ∨ ∃ g ∈ l, g.name ≠ n ∧ SameName g.name (trimmedName n) := by
  rw [contains_iff_sameName]
  constructor
  · rintro ⟨g, hg, hsame⟩
    by_cases hname : g.name = n
    · left
      rw [← sameName_trimmedName_iff]
      rwa [hname] at hsame
    · exact .inr ⟨g, hg, hname, hsame⟩
  · rintro (htrimmed | ⟨g, hg, -, hsame⟩)
    · obtain ⟨g, hg, rfl⟩ := mem_names.mp hn
      exact ⟨g, hg, sameName_trimmedName_iff.mpr htrimmed⟩
    · exact ⟨g, hg, hsame⟩

/-! ## where members come from -/

/-- The games that a change offers to the shortlist. -/
def Change.offered : Change → List Game
  | .add _ candidates => candidates
  | .remove _ | .clear => []

theorem mem_of_picks {command : String} {games picked : List Game}
    (h : picks command games = .ok picked) (hg : g ∈ picked) : g ∈ games := by
  unfold picks at h
  cases hs : Selector.parse command with
  | error fault =>
    rw [hs] at h
    contradiction
  | ok selector =>
    rw [hs] at h
    exact Selector.mem_of_select h hg

/-- The step: a change brings in nothing but what it offers. -/
theorem mem_offered_of_mem_attempt {c : Change} (h : g ∈ l.attempt c) : g ∈ l ∨ g ∈ c.offered := by
  cases hc : l.change c with
  | error fault =>
    rw [attempt_of_error hc] at h
    exact .inl h
  | ok l' =>
    rw [attempt_of_ok hc] at h
    cases c with
    | add command candidates =>
      obtain ⟨picked, hp, rfl⟩ := add_eq_ok_iff.mp hc
      exact (mem_insertAll.mp h).imp_right (mem_of_picks hp)
    | remove command =>
      obtain ⟨picked, -, rfl⟩ := remove_eq_ok_iff.mp hc
      exact .inl (mem_eraseAll.mp h).1
    | clear =>
      cases hc
      exact absurd h (notMem_empty g)

/-- The run: every member was there before or was offered on the way. -/
theorem mem_offered_of_mem_run {changes : List Change} (h : g ∈ l.run changes) :
    g ∈ l ∨ g ∈ changes.flatMap Change.offered := by
  induction changes generalizing l with
  | nil => exact .inl h
  | cons c changes ih =>
    rw [List.flatMap_cons, List.mem_append]
    rcases ih h with hattempt | hlater
    · exact (mem_offered_of_mem_attempt hattempt).imp_right .inl
    · exact .inr (.inr hlater)

/-! ## runs -/

/-- After every run of changes, a name on show is found exactly if there is no
white space around it, or if another member's name is what trimming leaves of it.
So a shortlist finds all that it shows as long as the names of the games it was
offered have no white space around them, whatever their letters are. -/
theorem run_finds_shown_iff (changes : List Change) :
    let l := run ∅ changes
    (∀ n ∈ l.names, (l.contains n = true ↔
      Text.Trimmed n.toList ∨ ∃ g ∈ l, g.name ≠ n ∧ SameName g.name (trimmedName n))) ∧
    ((∀ g ∈ changes.flatMap Change.offered, Text.Trimmed g.name.toList) →
      ∀ n ∈ l.names, l.contains n = true) := by
  intro l
  refine ⟨fun n hn => contains_iff_of_mem_names hn, ?_⟩
  intro hoffered n hn
  obtain ⟨g, hg, rfl⟩ := mem_names.mp hn
  have hmem := (mem_offered_of_mem_run hg).resolve_left (notMem_empty g)
  exact (contains_iff_of_mem_names hn).mpr (.inl (hoffered g hmem))

/-- A name that ends in a capital sigma does no harm. -/
theorem run_finds_shown_in_capitals :
    let changes : List Change :=
      [.add "1" [{ name := "Go" }], .clear, .add "all" [{ name := "ΟΔΟΣ" }, { name := "Go" }]]
    "ΟΔΟΣ" ∈ (run ∅ changes).names ∧ (run ∅ changes).contains "ΟΔΟΣ" = true := by
  intro changes
  have hshown : "ΟΔΟΣ" ∈ (run ∅ changes).names :=
    mem_names.mpr ⟨{ name := "ΟΔΟΣ" }, by decide +kernel, rfl⟩
  have hoffered : ∀ g ∈ changes.flatMap Change.offered, Text.Trimmed g.name.toList := by decide
  exact ⟨hshown, (run_finds_shown_iff changes).2 hoffered _ hshown⟩

/-- White space before a name does: the list shows the name and does not find it. -/
theorem run_misses_name_after_blank :
    let l := run ∅ [.add "all" [{ name := " Go" }]]
    " Go" ∈ l.names ∧ l.contains " Go" = false :=
  ⟨mem_names.mpr ⟨{ name := " Go" }, by decide +kernel, rfl⟩, by decide +kernel⟩

end Shortlist

end GameNight
