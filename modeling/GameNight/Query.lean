import GameNight.Condition
import GameNight.Text.Pieces

/-!
# GameNight.Query

A query is a text of clauses between commas, all of which a game has to meet.

A clause that cannot be read asks for nothing: it is set aside with the reason,
and the others still hold.  Queries are put together clause by clause, so the
query of two texts with a comma between them is the two queries together
(`parse_append`).
-/

namespace GameNight

/-- A clause that was set aside, and why. -/
structure Rejection where
  clause : String
  fault : Fault
deriving DecidableEq

/-- The clauses of a query: those that were read and those that were not, each
in the order of the text. -/
structure Query where
  conditions : List Condition
  rejected : List Rejection
deriving DecidableEq

namespace Query

/-- The query without clauses. -/
instance : EmptyCollection Query := ⟨⟨[], []⟩⟩

/-- The clauses of one query, and then those of another. -/
instance : Append Query :=
  ⟨fun p q => ⟨p.conditions ++ q.conditions, p.rejected ++ q.rejected⟩⟩

/-- The query with a single clause. -/
def ofClause (clause : String) : Query :=
  match Condition.parse clause with
  | .ok c => ⟨[c], []⟩
  | .error fault => ⟨[], [⟨clause, fault⟩]⟩

/-- The query with the given clauses. -/
def ofClauses : List String → Query
  | [] => ∅
  | c :: cs => ofClause c ++ ofClauses cs

/-- The clauses of a text: what stands between commas, trimmed, if anything is
left of it. -/
def clauses (text : List Char) : List String :=
  (((Text.pieces ',' text).map Text.trim).filter (!·.isEmpty)).map String.ofList

/-- Reads a query.  Every text is one. -/
def parse (text : String) : Query := ofClauses (clauses text.toList)

/-- Whether no clause could be read. -/
def isEmpty (q : Query) : Bool := q.conditions.isEmpty

/-- Whether a game meets every condition. -/
def matchesGame (q : Query) (tolerance : Binary64) (g : Game) : Bool :=
  q.conditions.all (·.matchesGame tolerance g)

/-- Narrows games down one condition at a time, until none is left. -/
def narrow (tolerance : Binary64) : List Condition → List Game → List Game
  | [], games => games
  | c :: cs, games =>
    if games.isEmpty then games else narrow tolerance cs (games.filter (c.matchesGame tolerance))

/-- The games that meet every condition. -/
def apply (q : Query) (tolerance : Binary64) (games : List Game) : List Game :=
  narrow tolerance q.conditions games

/-! ## queries of several texts -/

@[simp] theorem conditions_append (p q : Query) :
    (p ++ q).conditions = p.conditions ++ q.conditions := rfl

@[simp] theorem rejected_append (p q : Query) :
    (p ++ q).rejected = p.rejected ++ q.rejected := rfl

theorem append_assoc (p q r : Query) : p ++ q ++ r = p ++ (q ++ r) := by
  change Query.mk _ _ = Query.mk _ _
  simp

theorem ofClauses_append (as bs : List String) :
    ofClauses (as ++ bs) = ofClauses as ++ ofClauses bs := by
  induction as with
  | nil => rfl
  | cons a as ih => rw [List.cons_append, ofClauses, ih, ofClauses, append_assoc]

/-- A comma puts the clauses of two texts into one query. -/
theorem parse_append (a b : String) : parse (a ++ "," ++ b) = parse a ++ parse b := by
  simp [parse, clauses, Text.pieces_append, ofClauses_append]

/-! ## narrowing -/

/-- Narrowing down keeps the games that meet all of the conditions, in their
order: the conditions left over once no game is left have nothing to refuse. -/
theorem narrow_eq_filter (tolerance : Binary64) (cs : List Condition) (games : List Game) :
    narrow tolerance cs games = games.filter fun g => cs.all (·.matchesGame tolerance g) := by
  induction cs generalizing games with
  | nil => exact (List.filter_eq_self.mpr fun _ _ => rfl).symm
  | cons c cs ih =>
    rw [narrow]
    split
    · next h => simp [List.isEmpty_iff.mp h]
    · simp [ih, List.filter_filter, Bool.and_comm]

theorem apply_eq_filter (q : Query) (tolerance : Binary64) (games : List Game) :
    q.apply tolerance games = games.filter (q.matchesGame tolerance) :=
  narrow_eq_filter tolerance q.conditions games

end Query

end GameNight
