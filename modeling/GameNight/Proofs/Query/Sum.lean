import GameNight.Proofs.Query.Clauses

/-!
# GameNight.Proofs.Query.Sum

A query is the sum of its clauses.

`Divides` says how clauses come apart into those that were read and those that
were set aside: each goes to one of the two lists, and both keep the order of
the text.  Reading a query does that to its clauses (`divides_ofClauses`), so a
piece of a text that cannot be read, or in which there is nothing to read, asks
for nothing wherever it stands (`conditions_ofPieces_idle`).
-/

namespace GameNight.Query

/-! ## clauses, one by one -/

/-- Clauses divided into the conditions that were read from them and the
rejections of the others, both in the order of the clauses. -/
inductive Divides : List String → List Condition → List Rejection → Prop where
  | nil : Divides [] [] []
  | read {clause : String} {cond : Condition} {clauses : List String}
    {conditions : List Condition} {rejected : List Rejection} :
    Condition.parse clause = .ok cond → Divides clauses conditions rejected →
      Divides (clause :: clauses) (cond :: conditions) rejected
  | setAside {clause : String} {fault : Fault} {clauses : List String}
    {conditions : List Condition} {rejected : List Rejection} :
    Condition.parse clause = .error fault → Divides clauses conditions rejected →
      Divides (clause :: clauses) conditions (⟨clause, fault⟩ :: rejected)

theorem divides_ofClauses (clauses : List String) :
    Divides clauses (ofClauses clauses).conditions (ofClauses clauses).rejected := by
  induction clauses with
  | nil => exact .nil
  | cons clause clauses ih =>
    rw [ofClauses, conditions_append, rejected_append, ofClause]
    cases h : Condition.parse clause with
    | ok cond => exact .read h ih
    | error fault => exact .setAside h ih

/-- The two lists are determined by the clauses. -/
theorem Divides.eq_ofClauses {clauses : List String} {conditions : List Condition}
    {rejected : List Rejection} (h : Divides clauses conditions rejected) :
    ofClauses clauses = ⟨conditions, rejected⟩ := by
  induction h with
  | nil => rfl
  | read hparse _ ih =>
    rw [ofClauses, ofClause, hparse, ih]
    rfl
  | setAside hparse _ ih =>
    rw [ofClauses, ofClause, hparse, ih]
    rfl

/-! ## pieces of a text -/

/-- The query of the pieces between commas. -/
def ofPieces (pieces : List (List Char)) : Query :=
  ofClauses (((pieces.map Text.trim).filter (!·.isEmpty)).map String.ofList)

theorem parse_eq_ofPieces (text : String) : parse text = ofPieces (Text.pieces ',' text.toList) :=
  rfl

theorem ofPieces_append (ps qs : List (List Char)) :
    ofPieces (ps ++ qs) = ofPieces ps ++ ofPieces qs := by
  simp only [ofPieces, List.map_append, List.filter_append, ofClauses_append]

/-- A piece that asks for nothing: it is blank, or it cannot be read. -/
def Idle (piece : List Char) : Prop :=
  Text.trim piece = [] ∨
    ∃ fault, Condition.parse (String.ofList (Text.trim piece)) = .error fault

theorem conditions_ofPieces_idle {piece : List Char} (h : Idle piece) :
    (ofPieces [piece]).conditions = [] := by
  unfold ofPieces
  by_cases hblank : Text.trim piece = []
  · rw [List.map_singleton, hblank]
    rfl
  · obtain ⟨fault, hfault⟩ := h.resolve_left hblank
    have hclauses : (([piece].map Text.trim).filter (!·.isEmpty)).map String.ofList =
        [String.ofList (Text.trim piece)] := by
      simp [hblank]
    rw [hclauses]
    exact congrArg Query.conditions
      (Divides.setAside hfault Divides.nil).eq_ofClauses

/-- Pieces without commas, with commas put between them, are read as they are. -/
theorem parse_intercalate {pieces : List (List Char)} (hne : pieces ≠ [])
    (hfree : ∀ p ∈ pieces, ',' ∉ p) :
    parse (String.ofList ([','].intercalate pieces)) = ofPieces pieces := by
  rw [parse_eq_ofPieces, String.toList_ofList, Text.pieces_intercalate hne hfree]

/-- Wherever an idle piece is put into a text, it adds no condition. -/
theorem conditions_insert_idle {text : String} {piece : List Char}
    {before after : List (List Char)} (hidle : Idle piece) (hfree : ',' ∉ piece)
    (htext : Text.pieces ',' text.toList = before ++ after) :
    (parse (String.ofList ([','].intercalate (before ++ piece :: after)))).conditions =
      (parse text).conditions := by
  have hpieces : ∀ p ∈ before ++ piece :: after, ',' ∉ p := by
    intro p hp
    rw [List.mem_append, List.mem_cons] at hp
    rcases hp with hp | rfl | hp
    · exact Text.notMem_of_mem_pieces (htext ▸ List.mem_append_left after hp)
    · exact hfree
    · exact Text.notMem_of_mem_pieces (htext ▸ List.mem_append_right before hp)
  have hsplit : before ++ piece :: after = before ++ [piece] ++ after := by simp
  rw [parse_intercalate (by simp) hpieces, hsplit, ofPieces_append, ofPieces_append,
    conditions_append, conditions_append, conditions_ofPieces_idle hidle, List.append_nil,
    ← conditions_append, ← ofPieces_append, ← htext, ← parse_eq_ofPieces]

/-! ## the sum -/

/-- A comma adds the query of one text to that of another.  The clauses of a text
(what is between its commas, trimmed and not blank) are divided into conditions and
rejections, each clause going to one of the two, in the order of the text.  So a
blank piece or one that cannot be read may stand anywhere in a text without any
influence on the games that meet the query. -/
theorem parse_is_sum_of_clauses :
    (∀ a b : String,
      (parse (a ++ "," ++ b)).conditions = (parse a).conditions ++ (parse b).conditions ∧
      (parse (a ++ "," ++ b)).rejected = (parse a).rejected ++ (parse b).rejected) ∧
    (∀ text : String,
      Divides ((((Text.pieces ',' text.toList).map Text.trim).filter (· ≠ [])).map String.ofList)
        (parse text).conditions (parse text).rejected) ∧
    ∀ (text : String) (piece : List Char) (before after : List (List Char)),
      Idle piece → ',' ∉ piece → Text.pieces ',' text.toList = before ++ after →
      let longer := String.ofList ([','].intercalate (before ++ piece :: after))
      (parse longer).conditions = (parse text).conditions ∧
      ∀ tolerance games,
        (parse longer).matchesGame tolerance = (parse text).matchesGame tolerance ∧
        (parse longer).apply tolerance games = (parse text).apply tolerance games := by
  refine ⟨?_, fun text => clauses_eq text.toList ▸ divides_ofClauses _, ?_⟩
  · intro a b
    rw [parse_append]
    exact ⟨rfl, rfl⟩
  · intro text piece before after hidle hfree htext longer
    have hconditions : (parse longer).conditions = (parse text).conditions :=
      conditions_insert_idle hidle hfree htext
    refine ⟨hconditions, fun tolerance games => ⟨?_, ?_⟩⟩
    · apply matchesGame_congr
      simp [hconditions]
    · rw [apply, apply, hconditions]

/-- A clause about a column that does not exist, put between two others. -/
theorem parse_is_sum_of_clauses_with_unknown_column :
    (parse "rank<9,publisher==x, name~=go").matchesGame Binary64.zero =
      (parse "rank<9, name~=go").matchesGame Binary64.zero := by
  have hidle : Idle "publisher==x".toList :=
    .inr ⟨.unknownColumn "publisher", rfl⟩
  have hinsert := parse_is_sum_of_clauses.2.2 "rank<9, name~=go" "publisher==x".toList
    ["rank<9".toList] [" name~=go".toList] hidle (by decide) (by decide)
  exact (hinsert.2 Binary64.zero []).1

end GameNight.Query
