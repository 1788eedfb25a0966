import GameNight.Proofs.Column.Names
import GameNight.Proofs.Text.AsciiCase

/-!
# GameNight.Proofs.Column.Resolution

Which column a person means.

A name is compared with two kinds of keys: the name under which a column is written out, made
small, and its aliases, taken as they are.  However it is written, it meets the keys of one
column at most, so the order in which columns are tried has no influence
(`resolveAmong_eq_resolve`).  What surrounds the name and the case of its ASCII letters go
before it is compared (`resolve_blank`, `toOption_resolve_congr`).
-/

namespace GameNight.Column

/-- Whether what a person wrote names a column: trimmed and in small letters it is the name
under which the column is written out, in small letters, or an alias of it. -/
def GoesBy (c : Column) (written : String) : Prop :=
  let key := Text.lower (Text.trim written.toList)
  key = Text.lower c.canonicalName.toList ∨ ∃ other ∈ c.aliases, key = other.toList

/-- The column that a person names, found by trying columns one after the other. -/
def resolveAmong (columns : List Column) (name : String) : Except Fault Column :=
  let written := Text.trim name.toList
  match columns.find? (·.answersTo (Text.lower written)) with
  | some c => .ok c
  | none => .error (.unknownColumn (String.ofList written))

variable {name : String} {c : Column}

theorem resolveAmong_all : resolveAmong all name = resolve name := rfl

theorem goesBy_iff : c.GoesBy name ↔ Text.lower (Text.trim name.toList) ∈ c.keys := by
  simp only [GoesBy, keys, lower_canonicalName, List.mem_cons, List.mem_map,
    @eq_comm _ _ (String.toList _)]

instance : Decidable (c.GoesBy name) := decidable_of_iff _ goesBy_iff.symm

theorem GoesBy.unique {d : Column} (hc : c.GoesBy name) (hd : d.GoesBy name) : c = d :=
  eq_of_mem_keys (goesBy_iff.mp hc) (goesBy_iff.mp hd)

theorem resolve_eq_ok_iff_goesBy : resolve name = .ok c ↔ c.GoesBy name := by
  rw [resolve_eq_ok_iff_mem_keys, goesBy_iff]

/-- A name that no column goes by is reported as it was written, trimmed. -/
theorem resolve_eq_error_iff {fault : Fault} :
    resolve name = .error fault ↔
      fault = .unknownColumn (String.ofList (Text.trim name.toList)) ∧
        ∀ c : Column, ¬ c.GoesBy name := by
  simp only [← resolve_eq_ok_iff_goesBy, resolve]
  split <;> simp [eq_comm]

/-- Columns may be tried in any order. -/
theorem resolveAmong_eq_resolve {columns : List Column} (hall : ∀ c, c ∈ columns) :
    resolveAmong columns name = resolve name := by
  have hfind (key : List Char) :
      columns.find? (·.answersTo key) = all.find? (·.answersTo key) := by
    ext d
    rw [find?_answersTo hall, find?_answersTo mem_all]
  rw [← resolveAmong_all, resolveAmong, resolveAmong, hfind]

/-! ## other spellings -/

theorem resolve_toLower : resolve name.toLower = .ok c ↔ resolve name = .ok c := by
  simp only [resolve_eq_ok_iff, Text.toList_toLower, Text.trim_map_toLower,
    Text.lower_map_toLower]

/-- White space around a name is not even reported. -/
theorem resolve_blank {before after : String} (hbefore : Text.Blank before.toList)
    (hafter : Text.Blank after.toList) : resolve (before ++ name ++ after) = resolve name := by
  simp only [resolve, String.toList_append, Text.trim_blank hbefore hafter]

theorem toOption_resolve_congr {s t : String} (h : Text.SameLetters s t) :
    (resolve s).toOption = (resolve t).toOption := by
  have hiff (c : Column) : resolve s = .ok c ↔ resolve t = .ok c := by
    rw [← resolve_toLower, h, resolve_toLower]
  cases hs : resolve s with
  | ok c => rw [(hiff c).mp hs]
  | error fault =>
    cases ht : resolve t with
    | ok c => simp [(hiff c).mpr ht] at hs
    | error _ => rfl

/-- However a name is written, at most one column goes by it, so that the order in which columns
are tried has no influence.  Exactly that column is found, and if there is none, the name is
reported, trimmed.  White space around the name and the case of its ASCII letters do not decide
which column is found, nor whether one is. -/
theorem names_resolve_without_ambiguity (name : String) :
    (∀ c d : Column, c.GoesBy name → d.GoesBy name → c = d) ∧
    (∀ columns : List Column, columns.Perm all → resolveAmong columns name = resolve name) ∧
    (∀ c : Column, resolve name = .ok c ↔ c.GoesBy name) ∧
    (∀ fault, resolve name = .error fault ↔
      fault = .unknownColumn (String.ofList (Text.trim name.toList)) ∧
        ∀ c : Column, ¬ c.GoesBy name) ∧
    ∀ before other after : String, Text.Blank before.toList → Text.Blank after.toList →
      Text.SameLetters other name →
        (resolve (before ++ other ++ after)).toOption = (resolve name).toOption := by
  refine ⟨fun c d hc hd => hc.unique hd, ?_, fun c => resolve_eq_ok_iff_goesBy,
    fun fault => resolve_eq_error_iff, ?_⟩
  · intro columns hperm
    exact resolveAmong_eq_resolve fun c => hperm.mem_iff.mpr (mem_all c)
  · intro before other after hbefore hafter hother
    rw [resolve_blank hbefore hafter, toOption_resolve_congr hother]

/-- A name that ends in the sign of the kelvin, whose small form is the letter k, between an
ideographic space and a no-break space, and in other letters. -/
theorem names_resolve_without_ambiguity_with_kelvin_sign :
    (Column.rank.GoesBy "Ran\u212A" ∧ resolve "Ran\u212A" = .ok .rank) ∧
      (all.reverse.Perm all ∧ resolveAmong all.reverse "Ran\u212A" = resolve "Ran\u212A") ∧
      (Text.Blank "\u3000".toList ∧ Text.Blank "\u00A0".toList ∧
        Text.SameLetters "rAN\u212A" "Ran\u212A" ∧
        (resolve ("\u3000" ++ "rAN\u212A" ++ "\u00A0")).toOption =
          (resolve "Ran\u212A").toOption) := by
  obtain ⟨-, horder, hfound, -, hrespelled⟩ := names_resolve_without_ambiguity "Ran\u212A"
  have hrank : Column.rank.GoesBy "Ran\u212A" := by decide +kernel
  have hletters : Text.SameLetters "rAN\u212A" "Ran\u212A" := by decide
  have hblank : Text.Blank "\u3000".toList ∧ Text.Blank "\u00A0".toList := by decide
  exact ⟨⟨hrank, (hfound .rank).mpr hrank⟩,
    ⟨List.reverse_perm all, horder _ (List.reverse_perm all)⟩,
    hblank.1, hblank.2, hletters, hrespelled _ _ _ hblank.1 hblank.2 hletters⟩

end GameNight.Column
