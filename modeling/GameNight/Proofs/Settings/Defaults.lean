import GameNight.Proofs.Json.Records

/-!
# GameNight.Proofs.Settings.Defaults

Settings that are read from an object in which some of them are left out.

An object states settings by members with their names, in any order and among members with
other names, whatever these hold (`States`).  The settings it stands for are the stated ones,
and the defaults of the others (`ofJson?_of_states`).  They are tested as a whole, after that:
since every number that is read is finite, a stated tolerance that is not above zero is the one
thing that can be wrong with them (`validate_overDefaults_eq_ok`,
`validate_overDefaults_eq_error`).
-/

namespace GameNight

/-! ## members of an object -/

namespace Json

/-- The two ways to name a choice: its name, or an object with its name as the key of a single
member without a value. -/
def Names (x : Json) (name : String) : Prop :=
  x = .text (some name.toList) ∨ x = .object [(some name.toList, .null)]

theorem Names.choice?_eq {x : Json} {name : String} (h : x.Names name) :
    x.choice? = some name.toList := by
  rcases h with rfl | rfl <;> rfl

/-- Whether an object has a field exactly if a value of it is given, and one that reads as that
value. -/
def Has {α : Type} (ms : List Member) (name : String) (read? : Json → Option α)
    (value : Option α) : Prop :=
  ∃ x : Option Json, field? ms name = some x ∧ x.map read? = value.map some

section

variable {α : Type} {ms : List Member} {name : String} {read? : Json → Option α}
  {value : Option α} {x : Json}

theorem has_nil : Has [] name read? none := ⟨none, rfl, rfl⟩

/-- Members with other names are passed over. -/
theorem Has.cons_other (h : Has ms name read? value) {key : List Char} (hkey : key ≠ name.toList) :
    Has ((some key, x) :: ms) name read? value := by
  obtain ⟨y, hfield, hy⟩ := h
  refine ⟨y, ?_, hy⟩
  rwa [field?, List.filter_cons_of_neg (by simpa using hkey), ← field?]

/-- A field that is not given yet is given by a member with its name. -/
theorem Has.cons_self {a : α} (h : Has ms name read? none) (hx : read? x = some a) :
    Has ((some name.toList, x) :: ms) name read? (some a) := by
  obtain ⟨y, hfield, hy⟩ := h
  obtain rfl : y = none := by simpa using hy
  refine ⟨some x, ?_, by simp [hx]⟩
  have hnone : ms.filter (·.1 == some name.toList) = [] := by
    rw [field?] at hfield
    split at hfield
    · assumption
    · simp at hfield
    · contradiction
  rw [field?, List.filter_cons_of_pos (by simp), hnone]

end

end Json

namespace Settings

/-! ## stated settings -/

/-- Some of the settings: those that are stated. -/
structure Stated where
  column : Option Column := none
  direction : Option Direction := none
  tolerance : Option Binary64 := none
deriving DecidableEq

/-- The settings that are stated, and for the others: by name, small values first, and a
thousandth. -/
def Stated.overDefaults (st : Stated) : Settings where
  arrangement :=
    { column := st.column.getD .name, direction := st.direction.getD .ascending }
  tolerance := st.tolerance.getD (Decimal.toBinary64 false ⟨1, -3⟩)

/-- The members of an object that states some settings, each of them at most once, in any order
and among any members with other names. -/
inductive States : List Json.Member → Stated → Prop where
  | nothing : States [] {}
  | column {ms : List Json.Member} {st : Stated} {x : Json} {c : Column} (h : States ms st)
      (hnew : st.column = none) (hx : x.Names c.canonicalName) :
      States ((some "default_sort".toList, x) :: ms) { st with column := some c }
  | direction {ms : List Json.Member} {st : Stated} {x : Json} {d : Direction} (h : States ms st)
      (hnew : st.direction = none) (hx : x.Names d.name) :
      States ((some "default_order".toList, x) :: ms) { st with direction := some d }
  | tolerance {ms : List Json.Member} {st : Stated} {n : Numeral} {t : Binary64} (h : States ms st)
      (hnew : st.tolerance = none) (ht : n.toBinary64? = some t) :
      States ((some "float_tolerance".toList, .number n) :: ms) { st with tolerance := some t }
  | other {ms : List Json.Member} {st : Stated} {key : List Char} {x : Json} (h : States ms st)
      (hkey : ∀ name ∈ memberNames, key ≠ name.toList) : States ((some key, x) :: ms) st

section

variable {ms : List Json.Member} {st : Stated}

/-- The column that JSON names. -/
def column? (x : Json) : Option Column := x.choice?.bind Column.ofCanonicalName?

/-- The direction that JSON names. -/
def direction? (x : Json) : Option Direction := x.choice?.bind Direction.ofName?

/-- An object has the settings that it states, and no others. -/
theorem States.has (h : States ms st) :
    Json.Has ms "default_sort" column? st.column ∧
      Json.Has ms "default_order" direction? st.direction ∧
      Json.Has ms "float_tolerance" Json.binary64? st.tolerance := by
  induction h with
  | nothing => exact ⟨Json.has_nil, Json.has_nil, Json.has_nil⟩
  | @column ms st x c h hnew hx ih =>
    obtain ⟨hcolumn, hdirection, htolerance⟩ := ih
    rw [hnew] at hcolumn
    have hread : column? x = some c := by
      rw [column?, hx.choice?_eq, Option.bind_some, Column.ofCanonicalName?_canonicalName]
    exact ⟨hcolumn.cons_self hread, hdirection.cons_other (by decide),
      htolerance.cons_other (by decide)⟩
  | @direction ms st x d h hnew hx ih =>
    obtain ⟨hcolumn, hdirection, htolerance⟩ := ih
    rw [hnew] at hdirection
    have hread : direction? x = some d := by
      rw [direction?, hx.choice?_eq, Option.bind_some, Direction.ofName?_name]
    exact ⟨hcolumn.cons_other (by decide), hdirection.cons_self hread,
      htolerance.cons_other (by decide)⟩
  | tolerance h hnew ht ih =>
    obtain ⟨hcolumn, hdirection, htolerance⟩ := ih
    rw [hnew] at htolerance
    exact ⟨hcolumn.cons_other (by decide), hdirection.cons_other (by decide),
      htolerance.cons_self ht⟩
  | other h hkey ih =>
    obtain ⟨hcolumn, hdirection, htolerance⟩ := ih
    exact ⟨hcolumn.cons_other (hkey _ (by decide)), hdirection.cons_other (hkey _ (by decide)),
      htolerance.cons_other (hkey _ (by decide))⟩

theorem States.keys_isSome (h : States ms st) : ms.all (·.1.isSome) = true := by
  induction h with
  | nothing => rfl
  | column _ _ _ ih | direction _ _ _ ih | tolerance _ _ _ ih | other _ _ ih => exact ih

/-- A stated tolerance is a finite number, since no other number can be read. -/
theorem States.isFinite_tolerance (h : States ms st) :
    ∀ t ∈ st.tolerance, t.isFinite = true := by
  induction h with
  | nothing => simp
  | column _ _ _ ih | direction _ _ _ ih | other _ _ ih => exact ih
  | tolerance h hnew ht ih =>
    rintro _ ⟨⟩
    exact Numeral.isFinite_of_toBinary64? ht

/-! ## reading and testing -/

/-- A setting is read as its value if it is given, and else is its default. -/
theorem given_eq {α : Type} {read? : Json → Option α} {x : Option Json} {value : Option α}
    (h : x.map read? = value.map some) (default : α) :
    given read? default x = some (value.getD default) := by
  cases x with
  | none =>
    obtain rfl : value = none := by simpa using h.symm
    rfl
  | some x =>
    obtain ⟨a, rfl, ha⟩ := Option.map_eq_some_iff.mp h.symm
    exact ha.symm

theorem ofJson?_of_states (h : States ms st) : ofJson? (.object ms) = some st.overDefaults := by
  obtain ⟨⟨x, hx, hcolumn⟩, ⟨y, hy, hdirection⟩, ⟨z, hz, htolerance⟩⟩ := h.has
  have hfields : Json.fields? memberNames (.object ms) = some [x, y, z] := by
    simp only [Json.fields?, h.keys_isSome, if_true, memberNames, List.mapM_cons, List.mapM_nil,
      hx, hy, hz]
    rfl
  have hcolumn : given (fun x => x.choice?.bind Column.ofCanonicalName?) .name x =
      some (st.column.getD .name) := given_eq hcolumn _
  have hdirection : given (fun x => x.choice?.bind Direction.ofName?) .ascending y =
      some (st.direction.getD .ascending) := given_eq hdirection _
  have htolerance := given_eq htolerance (Decimal.toBinary64 false ⟨1, -3⟩)
  rw [ofJson?, hfields]
  simp only [Option.bind_eq_bind, Option.bind_some, hcolumn, hdirection, htolerance,
    Option.pure_def, Stated.overDefaults]

/-- What is read of an object that states settings is tested as a whole. -/
theorem parse_eq_validate {text : String} (htext : Json.parse? text.toList = some (.object ms))
    (h : States ms st) : parse text = st.overDefaults.validate := by
  rw [parse, htext, Option.bind_some, ofJson?_of_states h]

/-- Without a tolerance, or with one above zero, the stated settings can be used. -/
theorem validate_overDefaults_eq_ok (hfinite : ∀ t ∈ st.tolerance, t.isFinite = true)
    (hpositive : ∀ t ∈ st.tolerance, Binary64.zero.lt t = true) :
    st.overDefaults.validate = .ok st.overDefaults := by
  have hthousandth : (Decimal.toBinary64 false ⟨1, -3⟩).isFinite = true ∧
      Binary64.zero.lt (Decimal.toBinary64 false ⟨1, -3⟩) = true := by decide +kernel
  have htest : st.overDefaults.tolerance.isFinite = true ∧
      Binary64.zero.lt st.overDefaults.tolerance = true := by
    rw [Stated.overDefaults]
    cases ht : st.tolerance with
    | none => exact hthousandth
    | some t => exact ⟨hfinite t ht, hpositive t ht⟩
  exact if_pos (Bool.and_eq_true_iff.mpr htest)

theorem validate_overDefaults_eq_error {t : Binary64} (ht : st.tolerance = some t)
    (hzero : Binary64.zero.lt t = false) :
    st.overDefaults.validate = .error (.invalidTolerance t) := by
  have htolerance : st.overDefaults.tolerance = t := by
    rw [Stated.overDefaults, ht, Option.getD_some]
  rw [validate, htolerance, hzero, Bool.and_false]
  rfl

/-- Whatever settings are read, they can be used. -/
theorem validate_of_parse {text : String} {s : Settings} (h : parse text = .ok s) :
    s.validate = .ok s := by
  rw [parse] at h
  split at h
  · next read _ =>
    have hread : read = s := by
      rw [validate] at h
      split at h
      · exact Except.ok.inj h
      · contradiction
    exact hread ▸ h
  · contradiction

/-- Settings are read from every text of an object that states some of them, legal ones, each at
most once, in any order and among any other members: those that are stated, and the defaults of
the others.  They are refused exactly when the tolerance is stated and not above zero, as a
negative zero is not and a number too small to be told from zero; and no settings that are read
from any text have a tolerance that is not finite and above zero.  An object is the object of
every text that is made of its tokens, whatever blanks are around them. -/
theorem stated_settings_overlay_defaults :
    (∀ (text : String) (ms : List Json.Member) (st : Stated),
      Json.parse? text.toList = some (.object ms) → States ms st →
        (∀ fault, parse text = .error fault ↔
          ∃ t ∈ st.tolerance, Binary64.zero.lt t = false ∧ fault = .invalidTolerance t) ∧
        (∀ s, parse text = .ok s ↔
          s = st.overDefaults ∧ ∀ t ∈ st.tolerance, Binary64.zero.lt t = true)) ∧
    (∀ (text : String) (s : Settings), parse text = .ok s →
      s.tolerance.isFinite = true ∧ Binary64.zero.lt s.tolerance = true) ∧
    ∀ (text : String) (ms : List Json.Member),
      (∀ t ∈ (Json.object ms).tokens, t.WellFormed) →
        Json.Token.Spaced (Json.object ms).tokens text.toList →
          Json.parse? text.toList = some (.object ms) := by
  refine ⟨?_, ?_, fun text ms hwell hspaced => Json.parse?_of_spaced hwell hspaced⟩
  · intro text ms st htext hstates
    rw [parse_eq_validate htext hstates]
    by_cases hpositive : ∀ t ∈ st.tolerance, Binary64.zero.lt t = true
    · rw [validate_overDefaults_eq_ok hstates.isFinite_tolerance hpositive]
      constructor
      · intro fault
        simp only [reduceCtorEq, false_iff]
        rintro ⟨t, ht, hzero, -⟩
        rw [hpositive t ht] at hzero
        contradiction
      · exact fun s => ⟨fun h => ⟨(Except.ok.inj h).symm, hpositive⟩, fun h => h.1 ▸ rfl⟩
    · obtain ⟨t, ht, hzero⟩ : ∃ t ∈ st.tolerance, Binary64.zero.lt t = false := by
        simpa using hpositive
      rw [validate_overDefaults_eq_error ht hzero]
      constructor
      · intro fault
        constructor
        · exact fun h => ⟨t, ht, hzero, (Except.error.inj h).symm⟩
        · rintro ⟨u, hu, -, rfl⟩
          rw [Option.mem_unique ht hu]
      · exact fun s => ⟨fun h => by contradiction, fun h => absurd h.2 hpositive⟩
  · intro text s h
    have hvalid := validate_of_parse h
    exact ⟨(validate_eq_ok_iff.mp hvalid).1, zero_lt_tolerance hvalid⟩

/-- Beside a note with a number that is too large for any field and a text that is none, a direction
is read, and the other settings are the defaults.  A tolerance of minus ten to the minus four
hundredth is read as the negative zero and refused. -/
theorem stated_settings_overlay_defaults_among_others :
    let note : Json.Member :=
      (some "note".toList, .array [.number ⟨false, ['1'], [], some 400⟩, .text none])
    let order : Json.Member :=
      (some "default_order".toList, .object [(some "descending".toList, .null)])
    let column : Json.Member := (some "default_sort".toList, .ofText "rating")
    let tolerance : Json.Member :=
      (some "float_tolerance".toList, .number ⟨true, ['1'], [], some (-400)⟩)
    parse (String.ofList (' ' :: (Json.object [note, order]).render)) =
        .ok { arrangement.direction := .descending } ∧
      parse (String.ofList (Json.object [tolerance, note, column]).render) =
        .error (.invalidTolerance (Decimal.toBinary64 true ⟨0, 0⟩)) := by
  intro note order column tolerance
  obtain ⟨hoverlay, -, htext⟩ := stated_settings_overlay_defaults
  have hnote : ∀ name ∈ memberNames, "note".toList ≠ name.toList := by decide
  have hlarge : Numeral.WellFormed ⟨false, ['1'], [], some 400⟩ :=
    ⟨by decide, List.all_eq_true.mp rfl, by decide, List.all_eq_true.mp rfl⟩
  have hsmall : Numeral.WellFormed ⟨true, ['1'], [], some (-400)⟩ :=
    ⟨by decide, List.all_eq_true.mp rfl, by decide, List.all_eq_true.mp rfl⟩
  constructor
  · have hstates : States [note, order] { direction := some .descending } :=
      .other (.direction .nothing rfl (.inr rfl)) hnote
    have hwell : ∀ t ∈ (Json.object [note, order]).tokens, t.WellFormed := by
      simpa [note, order, Json.tokens, Json.firstMember, Json.laterMembers, Json.firstElement,
        Json.laterElements, Json.Token.WellFormed] using hlarge
    have hread := htext (String.ofList (' ' :: (Json.object [note, order]).render)) _ hwell <| by
      rw [String.toList_ofList]
      exact @Json.Token.Spaced.cons _ _ [' '] _ (List.all_eq_true.mp rfl)
        (Json.Token.spaced_render _)
    exact ((hoverlay _ _ _ hread hstates).2 _).mpr ⟨rfl, by simp⟩
  · have hzero : Numeral.toBinary64? ⟨true, ['1'], [], some (-400)⟩ =
        some (Decimal.toBinary64 true ⟨0, 0⟩) := by decide +kernel
    have hcolumn : States [column] { column := some .rating } := .column .nothing rfl (.inl rfl)
    have hstates : States [tolerance, note, column]
        { column := some .rating, tolerance := some (Decimal.toBinary64 true ⟨0, 0⟩) } :=
      .tolerance (.other hcolumn hnote) rfl hzero
    have hwell : ∀ t ∈ (Json.object [tolerance, note, column]).tokens, t.WellFormed := by
      simpa [tolerance, note, column, Json.ofText, Json.tokens, Json.firstMember,
        Json.laterMembers, Json.firstElement, Json.laterElements, Json.Token.WellFormed]
        using ⟨hsmall, hlarge⟩
    have hread := htext (String.ofList (Json.object [tolerance, note, column]).render) _ hwell <| by
      rw [String.toList_ofList]
      exact Json.Token.spaced_render _
    exact ((hoverlay _ _ _ hread hstates).1 _).mpr ⟨_, rfl, by decide +kernel, rfl⟩

end

end Settings

end GameNight
