import GameNight.Proofs.Condition.SameName
import GameNight.Proofs.Text.Parts
import GameNight.Proofs.Text.Trimming

/-!
# GameNight.Proofs.Condition.NamePart

Which parts of its name find a game.

The clause `name~=v` looks for the lower-case form of `v` in that of a name
(`matchesGame_nameHas`).  Both texts are lower-cased as a whole, so a part of the name is
found where it stands unless it is cut out beside a capital sigma, at the end of a word or
within one (`Text.lower_at_place_iff`).
-/

namespace GameNight

namespace Condition

/-- The condition that is written `name~=v`.  It has the literal of `name==v`. -/
def nameHas (v : String) : Condition := (nameIs v).withOperator .contains rfl

variable {v : String} {g : Game} {tolerance : Binary64}

theorem ofParts_nameHas (hv : Text.Trimmed v.toList) :
    ofParts .name .contains v = .ok (nameHas v) :=
  ofParts_eq_ok_iff.mpr ⟨rfl, rfl, by rw [Text.trim_eq_self hv, String.ofList_toList]; rfl⟩

theorem matchesGame_nameHas :
    (nameHas v).matchesGame tolerance g = true ↔
      Text.lower v.toList <:+: Text.lower g.name.toList :=
  Text.occurs_iff

/-- A part is found if the name has the lower-case form of the part at its place. -/
theorem matchesGame_nameHas_of_not_cutAtSigma {before after : List Char}
    (hname : g.name.toList = before ++ v.toList ++ after)
    (h : ¬ Text.CutAtSigma before v.toList after) :
    (nameHas v).matchesGame tolerance g = true := by
  obtain ⟨as, bs, hlower, -⟩ := Text.lower_at_place_iff.mpr h
  rw [matchesGame_nameHas, hname, hlower]
  exact List.infix_append as _ bs

/-- The clause `name~=v` finds a game if the lower-case form of its name has that of `v`
in it, whatever the tolerance.  Let `v` be a part of the name.  The lower-case form of the
name has that of `v` at the place of the part if and only if the part is not cut out
beside a capital sigma, whose small letter depends on the letters around it; and then the
game is found.  In particular every part without a capital sigma finds the game. -/
theorem part_found_unless_cut_at_sigma (hv : Text.Trimmed v.toList) :
    ∃ cond, ofParts .name .contains v = .ok cond ∧ ∀ tolerance g,
      (cond.matchesGame tolerance g = true ↔
        Text.lower v.toList <:+: Text.lower g.name.toList) ∧
      (∀ before after, g.name.toList = before ++ v.toList ++ after →
        ((∃ as bs, Text.lower g.name.toList = as ++ Text.lower v.toList ++ bs ∧
          as.length = (Text.fold before).length) ↔ ¬ Text.CutAtSigma before v.toList after) ∧
        (¬ Text.CutAtSigma before v.toList after → cond.matchesGame tolerance g = true)) ∧
      ('Σ' ∉ v.toList → v.toList <:+: g.name.toList → cond.matchesGame tolerance g = true) := by
  refine ⟨nameHas v, ofParts_nameHas hv, fun tolerance g => ⟨matchesGame_nameHas, ?_, ?_⟩⟩
  · intro before after hname
    refine ⟨?_, matchesGame_nameHas_of_not_cutAtSigma hname⟩
    rw [hname]
    exact Text.lower_at_place_iff
  · rintro hsigma ⟨before, after, hname⟩
    exact matchesGame_nameHas_of_not_cutAtSigma hname.symm fun h => hsigma h.mem

/-- A part with a sigma within a word and another one at the end of it, as they stand in
the name. -/
theorem part_found_with_its_sigmas :
    ∃ cond, ofParts .name .contains "ΟΣΜΟΣ" = .ok cond ∧
      ∀ tolerance, cond.matchesGame tolerance { name := "ΚΟΣΜΟΣ" } = true := by
  obtain ⟨cond, hcond, h⟩ := @part_found_unless_cut_at_sigma "ΟΣΜΟΣ" (by decide)
  refine ⟨cond, hcond, fun tolerance => ?_⟩
  have hcut : ¬ Text.CutAtSigma ['Κ'] "ΟΣΜΟΣ".toList [] :=
    Text.lowerBetween_eq_lower_iff.mp (by decide +kernel)
  exact ((h tolerance { name := "ΚΟΣΜΟΣ" }).2.1 ['Κ'] [] (by decide)).2 hcut

/-- A part that ends with a sigma within a word does not find the game. -/
theorem part_missed_at_inner_sigma :
    let g : Game := { name := "ΚΟΣΜΟΣ" }
    "ΚΟΣ".toList <:+: g.name.toList ∧ "ΚΟΣ" ≠ "" ∧ Text.Trimmed "ΚΟΣ".toList ∧
      ∃ cond, ofParts .name .contains "ΚΟΣ" = .ok cond ∧
        ∀ tolerance, cond.matchesGame tolerance g = false := by
  intro g
  have hv : Text.Trimmed "ΚΟΣ".toList := by decide
  refine ⟨⟨[], "ΜΟΣ".toList, by decide⟩, by decide, hv, nameHas "ΚΟΣ", ofParts_nameHas hv, ?_⟩
  intro tolerance
  rw [Bool.eq_false_iff, ne_eq, matchesGame_nameHas, ← Text.occurs_iff]
  decide +kernel

end Condition

end GameNight
