import GameNight.Proofs.Column.Resolution
import GameNight.Proofs.Condition.Grammar

/-!
# GameNight.Proofs.Condition.LetterCase

Clauses in which ASCII letters are made small.

Every step of reading a clause goes along with it: where the clause is divided
(`Operator.split?_map_toLower`), which column is meant (`Column.resolve_toLower`),
and what the literal stands for (`Kind.read?_map_toLower`), since the one letter in
a number may be written either way.  So a clause in small letters is read as the
condition with its literal in small letters (`Condition.parse_toLower`), and this
holds of a game under its name in small letters exactly if the condition that was
written holds of the game (`Condition.matchesGame_toLower`).
-/

namespace GameNight

/-! ## numbers -/

theorem map_toLower_of_isDigit {cs : List Char} (h : ∀ c ∈ cs, c.isDigit = true) :
    cs.map Char.toLower = cs :=
  (List.map_congr_left fun c hc => (Text.of_isDigit (h c hc)).1).trans (List.map_id cs)

theorem all_isDigit_map_toLower (cs : List Char) :
    (cs.map Char.toLower).all Char.isDigit = cs.all Char.isDigit := by
  simp [List.all_map, Function.comp_def]

/-- Digits are no letters. -/
theorem takeWhile_isDigit_map_toLower (cs : List Char) :
    (cs.map Char.toLower).takeWhile Char.isDigit = cs.takeWhile Char.isDigit := by
  have hdigits : Char.isDigit ∘ Char.toLower = Char.isDigit := funext Text.isDigit_toLower
  rw [List.takeWhile_map, hdigits]
  exact map_toLower_of_isDigit fun c hc => List.mem_takeWhile_imp hc

theorem dropWhile_isDigit_map_toLower (cs : List Char) :
    (cs.map Char.toLower).dropWhile Char.isDigit =
      (cs.dropWhile Char.isDigit).map Char.toLower := by
  simp [List.dropWhile_map, Function.comp_def]

theorem natural?_map_toLower (cs : List Char) : natural? (cs.map Char.toLower) = natural? cs := by
  unfold natural?
  rw [all_isDigit_map_toLower]
  by_cases h : cs.all Char.isDigit = true
  · rw [map_toLower_of_isDigit (List.all_eq_true.mp h)]
  · rw [if_neg fun hc => h hc.2, if_neg fun hc => h hc.2]

theorem splitSign_map_toLower (cs : List Char) :
    splitSign (cs.map Char.toLower) = ((splitSign cs).1, (splitSign cs).2.map Char.toLower) := by
  cases cs with
  | nil => rfl
  | cons c cs =>
    have hminus : c.toLower = '-' ↔ c = '-' := Text.toLower_eq_iff rfl
    have hplus : c.toLower = '+' ↔ c = '+' := Text.toLower_eq_iff rfl
    unfold splitSign
    grind

theorem integer?_map_toLower (cs : List Char) : integer? (cs.map Char.toLower) = integer? cs := by
  simp only [integer?, splitSign_map_toLower, natural?_map_toLower]

theorem word?_map_toLower (cs : List Char) : word? (cs.map Char.toLower) = word? cs := by
  rw [word?, integer?_map_toLower, word?]

/-- The sign of a power of ten is a letter, and it may be written in either case. -/
theorem exponent?_map_toLower (cs : List Char) :
    exponent? (cs.map Char.toLower) = exponent? cs := by
  cases cs with
  | nil => rfl
  | cons c cs =>
    have hsign := Text.apply_toLower (f := fun c => decide (c = 'e' ∨ c = 'E')) (by decide) c
    rw [decide_eq_decide] at hsign
    simp only [List.map_cons, exponent?, hsign, integer?_map_toLower]

theorem decimal?_map_toLower (cs : List Char) : decimal? (cs.map Char.toLower) = decimal? cs := by
  unfold decimal?
  simp only [splitSign_map_toLower, takeWhile_isDigit_map_toLower, dropWhile_isDigit_map_toLower]
  cases (splitSign cs).2.dropWhile Char.isDigit with
  | nil => rfl
  | cons c cs =>
    have hpoint : c.toLower = '.' ↔ c = '.' := Text.toLower_eq_iff rfl
    by_cases hc : c = '.'
    · subst hc
      simp only [List.map_cons, show '.'.toLower = '.' from rfl, takeWhile_isDigit_map_toLower,
        dropWhile_isDigit_map_toLower, exponent?_map_toLower]
    · have hc' := mt hpoint.mp hc
      have hexponent := exponent?_map_toLower (c :: cs)
      rw [List.map_cons] at hexponent ⊢
      grind

theorem finite?_map_toLower (cs : List Char) : finite? (cs.map Char.toLower) = finite? cs := by
  rw [finite?, decimal?_map_toLower, finite?]

/-- Of every kind, a literal and the same literal in small letters stand for one value. -/
theorem Kind.read?_map_toLower (k : Kind) (cs : List Char) :
    k.read? (cs.map Char.toLower) = k.read? cs := by
  cases k with
  | text => simp only [read?, Text.lower_map_toLower]
  | integer => exact word?_map_toLower cs
  | float => exact finite?_map_toLower cs

/-! ## where a clause is divided -/

namespace Operator

theorem isAlpha_of_mem_token {op : Operator} {c : Char} (h : c ∈ op.token) :
    c.isAlpha = false := by
  have hall : op.token.all (!·.isAlpha) = true := by cases op <;> decide
  simpa using List.all_eq_true.mp hall c h

theorem isPrefixOf_map_toLower {as : List Char} (has : ∀ a ∈ as, a.isAlpha = false)
    (cs : List Char) : as.isPrefixOf (cs.map Char.toLower) = as.isPrefixOf cs := by
  induction as generalizing cs with
  | nil => rfl
  | cons a as ih =>
    cases cs with
    | nil => rfl
    | cons c cs =>
      have ha : (a == c.toLower) = (a == c) := by
        rw [Bool.eq_iff_iff, beq_iff_eq, beq_iff_eq, eq_comm, eq_comm (a := a)]
        exact Text.toLower_eq_iff (has a List.mem_cons_self)
      rw [List.map_cons, List.isPrefixOf, List.isPrefixOf, ha,
        ih fun b hb => has b (List.mem_cons_of_mem a hb)]

theorem start?_map_toLower (cs : List Char) : start? (cs.map Char.toLower) = start? cs := by
  have htoken (op : Operator) :
      op.token.isPrefixOf (cs.map Char.toLower) = op.token.isPrefixOf cs :=
    isPrefixOf_map_toLower (fun _ => isAlpha_of_mem_token) cs
  simp only [start?, htoken]

/-- The division of a text in small letters. -/
def Split.toLower (s : Split) : Split :=
  ⟨s.before.map Char.toLower, s.operator, s.after.map Char.toLower⟩

theorem split?_map_toLower (cs : List Char) :
    split? (cs.map Char.toLower) = (split? cs).map Split.toLower := by
  induction cs with
  | nil => rfl
  | cons c cs ih =>
    have hstart := start?_map_toLower (c :: cs)
    rw [List.map_cons] at hstart ⊢
    cases h : start? (c :: cs) with
    | some op =>
      rw [split?_of_start? (hstart.trans h), split?_of_start? h, ← List.map_cons, ← List.map_drop]
      rfl
    | none =>
      rw [split?_of_start?_eq_none (hstart.trans h), split?_of_start?_eq_none h, ih,
        Option.map_map, Option.map_map]
      rfl

end Operator

/-! ## reading a clause -/

namespace Condition

variable {cond : Condition}

/-- A condition with its literal written in small letters.  What the literal stands
for is the same. -/
def toLower (cond : Condition) : Condition :=
  { cond with
    value := cond.value.toLower
    reads := by rw [Text.toList_toLower, Kind.read?_map_toLower, cond.reads] }

theorem ofParts_toLower {c : Column} {op : Operator} {text : String} :
    ofParts c op text.toLower = .ok cond ↔
      ∃ original, ofParts c op text = .ok original ∧ original.toLower = cond := by
  simp only [ofParts_eq_ok_iff, Text.toList_toLower, Text.trim_map_toLower,
    Text.ofList_map_toLower]
  constructor
  · rintro ⟨rfl, rfl, hvalue⟩
    have hreads : cond.column.kind.read? (String.ofList (Text.trim text.toList)).toList =
        some cond.literal := by
      rw [← Kind.read?_map_toLower, ← Text.toList_toLower, ← hvalue, cond.reads]
    exact ⟨⟨_, _, _, _, cond.queryable, cond.admitted, hreads⟩, ⟨rfl, rfl, rfl⟩,
      ext rfl rfl hvalue.symm⟩
  · rintro ⟨original, ⟨hc, hop, hvalue⟩, rfl⟩
    exact ⟨hc, hop, congrArg String.toLower hvalue⟩

/-- A clause in small letters is read exactly if the clause is, and as the same
condition up to the letters of the literal. -/
theorem parse_toLower {clause : String} :
    parse clause.toLower = .ok cond ↔
      ∃ original, parse clause = .ok original ∧ original.toLower = cond := by
  simp only [parse_eq_ok_iff, Text.toList_toLower, Text.trim_map_toLower,
    Operator.split?_map_toLower, Option.map_eq_some_iff]
  -- the two sides of a division in small letters
  have hsides (s : Operator.Split) :
      (Text.trim s.toLower.before = [] ↔ Text.trim s.before = []) ∧
        (Text.trim s.toLower.after = [] ↔ Text.trim s.after = []) ∧
        String.ofList (Text.trim s.toLower.before) =
          (String.ofList (Text.trim s.before)).toLower ∧
        String.ofList (Text.trim s.toLower.after) =
          (String.ofList (Text.trim s.after)).toLower := by
    simp [Operator.Split.toLower, Text.trim_map_toLower, Text.ofList_map_toLower]
  constructor
  · rintro ⟨_, ⟨s, hs, rfl⟩, hname, hvalue, hresolve, hparts⟩
    obtain ⟨hbefore, hafter, hleft, hright⟩ := hsides s
    rw [hleft, Column.resolve_toLower] at hresolve
    rw [hright, ofParts_toLower] at hparts
    obtain ⟨original, hparts, rfl⟩ := hparts
    exact ⟨original, ⟨s, hs, mt hbefore.mpr hname, mt hafter.mpr hvalue, hresolve, hparts⟩, rfl⟩
  · rintro ⟨original, ⟨s, hs, hname, hvalue, hresolve, hparts⟩, rfl⟩
    obtain ⟨hbefore, hafter, hleft, hright⟩ := hsides s
    refine ⟨s.toLower, ⟨s, hs, rfl⟩, mt hbefore.mp hname, mt hafter.mp hvalue, ?_, ?_⟩
    · rw [hleft, Column.resolve_toLower]
      exact hresolve
    · rw [hright]
      exact ofParts_toLower.mpr ⟨original, hparts, rfl⟩

end Condition

/-! ## testing a game -/

/-- A text in small letters stands to every other text as it did. -/
theorem Kind.test_map_toLower (tolerance : Binary64) (op : Operator) (value literal : List Char) :
    Kind.text.test tolerance op (value.map Char.toLower) literal =
      Kind.text.test tolerance op value literal := by
  have hfolded : Text.compareFolded (value.map Char.toLower) literal =
      Text.compareFolded value literal := by
    simp only [Text.compareFolded, Text.fold_map_toLower]
  cases op <;> simp only [test, Text.lower_map_toLower, hfolded]

/-- Neither the letters of a literal nor those of a name decide. -/
theorem Condition.matchesGame_toLower (cond : Condition) (tolerance : Binary64) (g : Game) :
    cond.toLower.matchesGame tolerance { g with name := g.name.toLower } =
      cond.matchesGame tolerance g := by
  obtain ⟨column, op, value, literal, hqueryable, hadmitted, hreads⟩ := cond
  cases column with
  | name =>
    change Kind.text.test tolerance op g.name.toLower.toList literal = _
    rw [Text.toList_toLower]
    exact Kind.test_map_toLower tolerance op g.name.toList literal
  | _ => rfl

end GameNight
