import GameNight.Proofs.Condition.Order
import GameNight.Settings

/-!
# GameNight.Proofs.Condition.Trichotomy

Below, equal and above.

The order operators read one comparison of a value with the literal
(`Kind.test_of_order?`), so each of them is the negation of the opposite one wherever
the comparison says anything.  The operator `==` reads it too on text and on whole
numbers, and the three operators `<`, `==` and `>` exclude each other there
(`Kind.test_equal_of_order?`).  On floats it asks for a small distance instead.  What is
neither below a finite number nor above it lies at no distance from it, be it the other
zero (`Binary64.distance_of_compare?_eq`), and a tolerance that can be used lets that
pass; so one of the three operators holds, and `==` may hold beside another one.
-/

namespace GameNight

/-! ## floats -/

namespace Binary64

theorem natAbs_valueKey (x : Binary64) : x.valueKey.natAbs = x.magnitude := by
  unfold valueKey
  split <;> omega

/-- Numbers of one value have one size, whatever the sign of their zero. -/
theorem units_of_valueKey_eq {x y : Binary64} (h : x.valueKey = y.valueKey) :
    x.units = y.units := by
  have hmagnitude : x.magnitude = y.magnitude := by
    rw [← natAbs_valueKey, h, natAbs_valueKey]
  obtain ⟨s, m, _⟩ := x
  obtain ⟨t, n, _⟩ := y
  obtain rfl : m = n := hmagnitude
  by_cases hzero : m = 0
  · subst hzero
    cases s <;> cases t <;> simp [units]
  · obtain rfl : s = t := by
      cases s <;> cases t <;> simp [valueKey] at h ⊢ <;> omega
    rfl

/-- There is no distance from a finite number to what is neither below nor above it. -/
theorem distance_of_compare?_eq {x y : Binary64} (hy : y.isFinite = true)
    (h : x.compare? y = some .eq) : x.distance y = zero := by
  obtain ⟨hxnan, hynan, hcompare⟩ := compare?_eq_some_iff.mp h
  have hkey : x.valueKey = y.valueKey := Std.compare_eq_iff_eq.mp hcompare
  have hx : x.isFinite = true := by
    rw [isFinite, ← natAbs_valueKey, hkey, natAbs_valueKey, ← isFinite, hy]
  have hinfinite : (x.isInfinite || y.isInfinite) = false := by
    rw [isInfinite_of_isFinite hx, isInfinite_of_isFinite hy, Bool.or_false]
  have hnan : (x.isNaN || y.isNaN) = false := by rw [hxnan, hynan, Bool.or_false]
  rw [distance, hnan, hinfinite, units_of_valueKey_eq hkey, Int.sub_self]
  rfl

end Binary64

/-! ## kinds -/

namespace Kind

variable {tolerance : Binary64} {k : Kind} {cs : List Char} {x literal : k.Value} {o : Ordering}

/-- An order operator holds if it asks for the order in which value and literal stand. -/
theorem test_of_order? (ho : k.order? x literal = some o) {op : Operator}
    (hop : op.isOrder = true) : k.test tolerance op x literal = op.holds o := by
  rw [test_of_isOrder hop, ho]
  rfl

/-- On text and on whole numbers, being equal is a question of order too. -/
theorem test_equal_of_order? (hk : k ≠ .float) (ho : k.order? x literal = some o) :
    k.test tolerance .equal x literal = Operator.equal.holds o := by
  cases k with
  | text => rw [← Option.some.inj ho]; rfl
  | integer => rw [← Option.some.inj ho]; rfl
  | float => contradiction

/-- A value that is neither below a literal nor above it is equal to it. -/
theorem test_equal_of_order?_eq (htolerance : Binary64.zero.lt tolerance = true)
    (hread : k.read? cs = some literal) (ho : k.order? x literal = some .eq) :
    k.test tolerance .equal x literal = true := by
  by_cases hk : k = .float
  · subst hk
    have hdistance : Binary64.distance x literal = .zero :=
      Binary64.distance_of_compare?_eq (isFinite_of_read? hread) ho
    rw [test, hdistance, htolerance]
  · rw [test_equal_of_order? hk ho]
    rfl

end Kind

/-! ## conditions -/

namespace Condition

/-- A condition on the same column and literal with another operator, if the column
admits it. -/
def comparing (cond : Condition) (op : Operator) : Condition :=
  if h : op.admits cond.column.kind = true then cond.withOperator op h else cond

variable {c : Column} {op op' : Operator} {text : String} {cond accepted : Condition}
  {s : Settings}

theorem comparing_eq (cond : Condition) (h : op ≠ .contains) :
    cond.comparing op = cond.withOperator op (Operator.admits_of_ne h _) :=
  dif_pos _

theorem ofParts_comparing (hcond : ofParts c op text = .ok cond) (h : op' ≠ .contains) :
    ofParts c op' text = .ok (cond.comparing op') := by
  rw [comparing_eq cond h]
  exact ofParts_withOperator hcond _

theorem matchesGame_comparing (cond : Condition) (h : op ≠ .contains) (tolerance : Binary64)
    (g : Game) : (cond.comparing op).matchesGame tolerance g =
      cond.column.kind.test tolerance op (cond.column.value g) cond.literal := by
  rw [comparing_eq cond h, matchesGame_withOperator]

/-- With a text that is accepted for a column there is a condition for every operator of
comparison.  In settings that can be used, a game whose value is no NaN meets `>=` if it
does not meet `<`, and `<=` if it does not meet `>`; it meets `<` or `==` or `>`, and never
both `<` and `>`.  By text and by whole numbers it meets exactly one of these three. -/
theorem order_operators_cohere (h : ofParts c op text = .ok accepted) (hs : s.validate = .ok s) :
    ∃ clause : Operator → Condition,
      (∀ op', op' ≠ .contains → ofParts c op' text = .ok (clause op')) ∧
      ∀ g : Game, c.kind.isNaN (c.value g) = false →
        let meets := fun op' => (clause op').matchesGame s.tolerance g
        meets .atLeast = !meets .less ∧ meets .atMost = !meets .greater ∧
        ¬ (meets .less = true ∧ meets .greater = true) ∧
        (meets .less = true ∨ meets .equal = true ∨ meets .greater = true) ∧
        (c.kind ≠ .float → [Operator.less, .equal, .greater].countP meets = 1) := by
  refine ⟨accepted.comparing, fun op' => ofParts_comparing h, ?_⟩
  obtain ⟨rfl, -, -⟩ := ofParts_eq_ok_iff.mp h
  intro g hg meets
  obtain ⟨o, ho⟩ := Kind.exists_order? hg (Kind.isNaN_of_read? accepted.reads)
  have horder : ∀ {op'}, op'.isOrder = true → op' ≠ .contains → meets op' = op'.holds o :=
    fun hop hne => (matchesGame_comparing accepted hne _ g).trans (Kind.test_of_order? ho hop)
  have hmeets : meets .equal = _ := matchesGame_comparing accepted (by decide) s.tolerance g
  have hequal : o = .eq → meets .equal = true := by
    rintro rfl
    exact hmeets.trans
      (Kind.test_equal_of_order?_eq (Settings.zero_lt_tolerance hs) accepted.reads ho)
  have hexact : accepted.column.kind ≠ .float → meets .equal = Operator.equal.holds o :=
    fun hk => hmeets.trans (Kind.test_equal_of_order? hk ho)
  have hless : meets .less = Operator.less.holds o := horder rfl (by decide)
  have hgreater : meets .greater = Operator.greater.holds o := horder rfl (by decide)
  have hatLeast : meets .atLeast = Operator.atLeast.holds o := horder rfl (by decide)
  have hatMost : meets .atMost = Operator.atMost.holds o := horder rfl (by decide)
  rw [hatLeast, hatMost, hless, hgreater]
  refine ⟨?_, ?_, ?_, ?_, ?_⟩
  · cases o <;> rfl
  · cases o <;> rfl
  · cases o <;> decide
  · cases o with
    | lt => exact .inl rfl
    | eq => exact .inr (.inl (hequal rfl))
    | gt => exact .inr (.inr rfl)
  · intro hk
    simp only [List.countP_cons, List.countP_nil, hless, hexact hk, hgreater]
    cases o <;> rfl

/-- With the smallest tolerance there is, the zero is equal to the negative zero, and
infinity is above it. -/
theorem order_operators_cohere_at_negative_zero :
    let s : Settings := { tolerance := ⟨false, 1, by decide⟩ }
    s.validate = .ok s ∧
      ∃ less equal greater : Condition,
        ofParts .rating .less "-0" = .ok less ∧ ofParts .rating .equal "-0" = .ok equal ∧
        ofParts .rating .greater "-0" = .ok greater ∧
        (less.matchesGame s.tolerance { rating := .zero } = true ∨
          equal.matchesGame s.tolerance { rating := .zero } = true ∨
          greater.matchesGame s.tolerance { rating := .zero } = true) ∧
        ¬ (less.matchesGame s.tolerance { rating := .infinity } = true ∧
          greater.matchesGame s.tolerance { rating := .infinity } = true) := by
  intro s
  have hs : s.validate = .ok s := if_pos (by decide +kernel)
  have accepted : ofParts .rating .equal "-0" =
      .ok ⟨.rating, .equal, "-0", ⟨true, 0, by decide⟩, rfl, rfl, rfl⟩ :=
    ofParts_eq_ok_iff.mpr ⟨rfl, rfl, by decide⟩
  obtain ⟨clause, hclause, h⟩ := order_operators_cohere accepted hs
  refine ⟨hs, clause .less, clause .equal, clause .greater, hclause _ (by decide),
    hclause _ (by decide), hclause _ (by decide), ?_, ?_⟩
  · exact (h { rating := .zero } rfl).2.2.2.1
  · exact (h { rating := .infinity } rfl).2.2.1

end Condition

end GameNight
