import GameNight.Condition
import GameNight.Proofs.Text.Casing
import GameNight.Proofs.Text.Trimming

/-!
# GameNight.Proofs.Column.Names

The names of columns.

A column answers to finitely many keys, which are words of small letters and
underscores, and no two columns to one (`named?_eq_some_iff`).  Lower-casing keeps
every character that is no letter, so a name that resolves holds none of the
signs with which clauses are written (`notMem_of_resolve`).
-/

namespace GameNight.Column

/-- The keys to which a column answers. -/
def keys (c : Column) : List (List Char) :=
  c.canonicalName.toList.map Char.toLower :: c.aliases.map String.toList

/-- The characters of which keys are made. -/
def isWordChar (ch : Char) : Bool := ch.isLower || ch == '_'

theorem lower_canonicalName (c : Column) :
    Text.lower c.canonicalName.toList = c.canonicalName.toList.map Char.toLower := by
  apply Text.lower_ascii
  cases c <;> decide

theorem answersTo_iff {c : Column} {key : List Char} : c.answersTo key = true ↔ key ∈ c.keys := by
  simp only [answersTo, keys, lower_canonicalName, Bool.or_eq_true, beq_iff_eq, List.any_eq_true,
    List.mem_cons, List.mem_map, @eq_comm _ key]

theorem isWordChar_of_mem_keys {c : Column} {key : List Char} (h : key ∈ c.keys) {ch : Char}
    (hch : ch ∈ key) : isWordChar ch = true := by
  have hall : ∀ c ∈ all, ∀ key ∈ c.keys, key.all isWordChar = true := by decide
  exact List.all_eq_true.mp (hall c (mem_all c) key h) ch hch

/-- No two columns answer to one key. -/
theorem eq_of_mem_keys {c d : Column} {key : List Char} (hc : key ∈ c.keys) (hd : key ∈ d.keys) :
    c = d := by
  have hall : ∀ c ∈ all, ∀ d ∈ all, ∀ key ∈ c.keys, key ∈ d.keys → c = d := by decide +kernel
  exact hall c (mem_all c) d (mem_all d) key hc hd

/-- Among all columns, in whatever order, the one that answers to a key is found. -/
theorem find?_answersTo {columns : List Column} (hall : ∀ c, c ∈ columns) {c : Column}
    {key : List Char} : columns.find? (·.answersTo key) = some c ↔ key ∈ c.keys := by
  constructor
  · intro h
    exact answersTo_iff.mp (by simpa using List.find?_some h)
  · intro h
    have hsome : (columns.find? (·.answersTo key)).isSome := by
      rw [List.find?_isSome]
      exact ⟨c, hall c, answersTo_iff.mpr h⟩
    obtain ⟨d, hd⟩ := Option.isSome_iff_exists.mp hsome
    have hmem : key ∈ d.keys := answersTo_iff.mp (by simpa using List.find?_some hd)
    rw [hd, eq_of_mem_keys h hmem]

theorem named?_eq_some_iff {c : Column} {key : List Char} : named? key = some c ↔ key ∈ c.keys :=
  find?_answersTo mem_all

theorem resolve_eq_ok_iff_mem_keys {name : String} {c : Column} :
    resolve name = .ok c ↔ Text.lower (Text.trim name.toList) ∈ c.keys := by
  rw [resolve_eq_ok_iff, named?_eq_some_iff]

/-- A name that resolves has no ASCII character in it but letters and
underscores. -/
theorem notMem_of_resolve {name : List Char} {c : Column} (h : resolve (String.ofList name) = .ok c)
    (hname : Text.Trimmed name) {ch : Char} (hascii : ch.toNat < 0x80)
    (hword : isWordChar ch.toLower = false) : ch ∉ name := by
  intro hch
  have hkey := resolve_eq_ok_iff_mem_keys.mp h
  rw [String.toList_ofList, Text.trim_eq_self hname] at hkey
  have hsigma : ch ≠ 'Σ' := by
    rintro rfl
    contradiction
  have hlower : ch.toLower ∈ Text.lower name :=
    Text.mem_lower hch hsigma (by rw [Text.lowerChar_ascii hascii]; exact List.mem_cons_self)
  rw [isWordChar_of_mem_keys hkey hlower] at hword
  contradiction

/-- A name that is written out needs no trimming and is not empty. -/
theorem trimmed_canonicalName (c : Column) :
    Text.Trimmed c.canonicalName.toList ∧ c.canonicalName.toList ≠ [] := by
  cases c <;> decide

/-- Columns resolve by the names under which they are written out. -/
theorem resolve_canonicalName (c : Column) : resolve c.canonicalName = .ok c := by
  rw [resolve_eq_ok_iff_mem_keys, Text.trim_eq_self (trimmed_canonicalName c).1,
    lower_canonicalName]
  exact List.mem_cons_self

end GameNight.Column
