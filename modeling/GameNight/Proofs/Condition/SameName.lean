import GameNight.Proofs.Condition.Printing
import GameNight.Proofs.Text.Casing
import GameNight.Shortlist

/-!
# GameNight.Proofs.Condition.SameName

The two tests for a name given in any letter case.

Commands compare lower-case forms (`Selector.named_lower`, `Shortlist.contains_iff`).
The clause `name==v` has the lower-case form of `v` too, but it compares that with
the folded form of a name, the one listings are ordered by
(`Condition.matchesGame_nameIs`).  The two tests part on names in which a capital
sigma ends a word, and only there.
-/

namespace GameNight

/-- Two names that are one name when letter case is ignored. -/
def SameName (a b : String) : Prop := Text.lower a.toList = Text.lower b.toList

instance (a b : String) : Decidable (SameName a b) := inferInstanceAs (Decidable (_ = _))

/-! ## commands -/

namespace Selector

/-- A title is compared in lower case. -/
theorem named_lower (v : String) :
    named (String.ofList (Text.lower v.toList)) = fun g => decide (SameName g.name v) := by
  funext g
  rw [named, String.toList_ofList, Bool.eq_iff_iff, beq_iff_eq, decide_eq_true_iff, SameName]

theorem select_name_eq_ok_iff {games picked : List Game} {title : String} :
    select games (.name title) = .ok picked ↔
      ∃ g, games.find? (named title) = some g ∧ picked = [g] := by
  simp only [select]
  cases games.find? (named title) with
  | none => simp
  | some g => simp [eq_comm]

/-- A command that names a game has its lower-case form as the title. -/
theorem eq_of_parse_eq_name {command title : String} (h : parse command = .ok (.name title)) :
    title = String.ofList (Text.lower (Text.trim command.toList)) := by
  unfold parse at h
  dsimp only at h
  split at h
  · contradiction
  split at h
  · cases h
  split at h
  · -- a command with a hyphen is a range or nothing
    unfold range? at h
    split at h
    · split at h <;> cases h
    · cases h
  split at h
  · cases h
  · cases h
    rfl

end Selector

theorem Shortlist.contains_iff {l : Shortlist} {v : String} (hv : Text.Trimmed v.toList) :
    l.contains v = true ↔ ∃ g ∈ l, SameName g.name v := by
  simp only [contains, Text.trim_eq_self hv, Selector.named_lower, List.any_eq_true,
    decide_eq_true_eq]
  rfl

/-! ## clauses -/

namespace Condition

/-- The condition that is written `name==v`. -/
def nameIs (v : String) : Condition :=
  ⟨.name, .equal, v, Text.lower v.toList, rfl, rfl, rfl⟩

variable {v : String} {g : Game} {tolerance : Binary64}

theorem parse_nameIs (hv : Text.Trimmed v.toList) (hne : v ≠ "") :
    parse ("name==" ++ v) = .ok (nameIs v) ∧ ofParts .name .equal v = .ok (nameIs v) :=
  @parse_render (nameIs v) hv (String.toList_eq_nil_iff.not.mpr hne) nofun

/-- The literal of `name==v` is in small letters already, so folding leaves it. -/
theorem matchesGame_nameIs :
    (nameIs v).matchesGame tolerance g = true ↔
      Text.fold g.name.toList = Text.lower v.toList := by
  calc
    _ ↔ Text.compareFolded g.name.toList (Text.lower v.toList) = .eq := beq_iff_eq
    _ ↔ Text.fold g.name.toList = Text.fold (Text.lower v.toList) := Text.compareFolded_eq_iff
    _ ↔ _ := by rw [Text.fold_lower]

/-- The clause `name==v` compares `v` with the folded form of a name, and a command
compares it with the lower-case form.  The two tests agree unless a capital sigma
ends a word of the name: then its two forms differ, and a text that has one of
them passes one test and fails the other.  In particular the clause with the very
name of such a game does not find it. -/
theorem nameIs_and_sameName_part_iff {v : String} (hv : Text.Trimmed v.toList) (hne : v ≠ "") :
    (∃ cond, parse ("name==" ++ v) = .ok cond ∧ ofParts .name .equal v = .ok cond ∧
      ∀ tolerance g,
        (cond.matchesGame tolerance g = true ↔ Text.fold g.name.toList = Text.lower v.toList) ∧
        (¬ (cond.matchesGame tolerance g = true ↔ SameName g.name v) ↔
          Text.HasFinalSigma g.name.toList ∧ (Text.lower v.toList = Text.lower g.name.toList ∨
            Text.lower v.toList = Text.fold g.name.toList)) ∧
        (g.name = v →
          (cond.matchesGame tolerance g = true ↔ ¬ Text.HasFinalSigma v.toList))) ∧
    (∀ title, Selector.parse v = .ok (.name title) → ∀ games picked,
      Selector.select games (.name title) = .ok picked ↔
        ∃ g, games.find? (fun g => SameName g.name v) = some g ∧ picked = [g]) ∧
    ∀ l : Shortlist, l.contains v = true ↔ ∃ g ∈ l, SameName g.name v := by
  obtain ⟨hparse, hparts⟩ := parse_nameIs hv hne
  refine ⟨⟨nameIs v, hparse, hparts, ?_⟩, ?_, fun l => Shortlist.contains_iff hv⟩
  · intro tolerance g
    refine ⟨matchesGame_nameIs, ?_, ?_⟩
    · rw [matchesGame_nameIs, SameName, Text.hasFinalSigma_iff]
      grind
    · rintro rfl
      rw [matchesGame_nameIs, ← Text.lower_eq_fold_iff, eq_comm]
  · intro title h games picked
    rw [Selector.select_name_eq_ok_iff, Selector.eq_of_parse_eq_name h, Text.trim_eq_self hv,
      Selector.named_lower]

/-- A sigma within a word of the name of a game does no harm. -/
theorem nameIs_finds_chess :
    ∃ cond, parse "name==ΣΚΆΚΙ" = .ok cond ∧
      ∀ tolerance, cond.matchesGame tolerance { name := "Σκάκι" } = true := by
  obtain ⟨⟨cond, hparse, -, hmatches⟩, -⟩ :=
    @nameIs_and_sameName_part_iff "ΣΚΆΚΙ" (by decide) (by decide)
  refine ⟨cond, hparse, fun tolerance => (hmatches tolerance _).1.mpr ?_⟩
  decide +kernel

/-- At the end of a word it does: the clause with the name of a game does not
find the game, and the command does. -/
theorem nameIs_misses_name_in_capitals :
    let g : Game := { name := "ΟΔΟΣ" }
    ∃ cond, parse "name==ΟΔΟΣ" = .ok cond ∧
      (∀ tolerance, cond.matchesGame tolerance g = false) ∧ SameName g.name "ΟΔΟΣ" ∧
      Selector.parse "ΟΔΟΣ" = .ok (.name "οδος") ∧ Selector.select [g] (.name "οδος") = .ok [g] ∧
      ((∅ : Shortlist).insert g).contains "ΟΔΟΣ" = true := by
  intro g
  refine ⟨nameIs "ΟΔΟΣ", by decide +kernel, ?_, rfl, by decide +kernel, by decide +kernel,
    by decide +kernel⟩
  intro tolerance
  rw [Bool.eq_false_iff, ne_eq, matchesGame_nameIs]
  decide +kernel

end Condition

end GameNight
