import GameNight.Proofs.Condition.LetterCase
import GameNight.Proofs.Query.Sum

/-!
# GameNight.Proofs.Query.LetterCase

Queries in any letter case.

A query in which ASCII letters are made small has the clauses of the query in small
letters (`clauses_map_toLower`), so as many of them are read and as many set aside,
and the conditions are those of the query up to the letters of their literals
(`conditions_parse_toLower`).  Two texts that differ in nothing but the case of
ASCII letters have the same text in small letters, and so the same holds of any
two of them (`parse_ignores_ascii_case`).
-/

namespace GameNight

namespace Query

/-! ## clauses -/

theorem clauses_map_toLower (text : List Char) :
    clauses (text.map Char.toLower) = (clauses text).map String.toLower := by
  have hpieces := Text.pieces_map_toLower (show ','.isAlpha = false from rfl) text
  simp only [clauses, hpieces, List.map_map, List.filter_map, Function.comp_def,
    Text.trim_map_toLower, List.isEmpty_map, Text.ofList_map_toLower]

theorem toOption_parse_toLower (clause : String) :
    (Condition.parse clause.toLower).toOption =
      (Condition.parse clause).toOption.map Condition.toLower := by
  cases h : Condition.parse clause with
  | ok cond =>
    rw [Condition.parse_toLower.mpr ⟨cond, h, rfl⟩]
    rfl
  | error fault =>
    cases hsmall : Condition.parse clause.toLower with
    | ok cond =>
      obtain ⟨original, horiginal, -⟩ := Condition.parse_toLower.mp hsmall
      rw [h] at horiginal
      contradiction
    | error fault' => rfl

theorem conditions_ofClauses_toLower (cs : List String) :
    (ofClauses (cs.map String.toLower)).conditions =
      (ofClauses cs).conditions.map Condition.toLower := by
  induction cs with
  | nil => rfl
  | cons c cs ih =>
    simp only [List.map_cons, ofClauses, conditions_append, conditions_ofClause,
      toOption_parse_toLower, ih, List.map_append, Option.toList_map]

theorem conditions_parse_toLower (text : String) :
    (parse text.toLower).conditions = (parse text).conditions.map Condition.toLower := by
  rw [parse, Text.toList_toLower, clauses_map_toLower, conditions_ofClauses_toLower, parse]

/-- Every clause is counted once: as a condition or as a rejection. -/
theorem Divides.length_add_length {clauses : List String} {conditions : List Condition}
    {rejected : List Rejection} (h : Divides clauses conditions rejected) :
    conditions.length + rejected.length = clauses.length := by
  induction h with
  | nil => rfl
  | read _ _ ih => grind
  | setAside _ _ ih => grind

theorem length_rejected_parse_toLower (text : String) :
    (parse text.toLower).rejected.length = (parse text).rejected.length := by
  have hsmall : (parse text.toLower).conditions.length + (parse text.toLower).rejected.length =
      (clauses text.toLower.toList).length := (divides_ofClauses _).length_add_length
  have htext : (parse text).conditions.length + (parse text).rejected.length =
      (clauses text.toList).length := (divides_ofClauses _).length_add_length
  rw [conditions_parse_toLower, List.length_map, Text.toList_toLower, clauses_map_toLower,
    List.length_map] at hsmall
  omega

/-! ## games -/

theorem matchesGame_parse_toLower (text : String) (tolerance : Binary64) (g : Game) :
    (parse text.toLower).matchesGame tolerance { g with name := g.name.toLower } =
      (parse text).matchesGame tolerance g := by
  simp only [matchesGame, conditions_parse_toLower, List.all_map, Function.comp_def,
    Condition.matchesGame_toLower]

/-- The language of queries ignores the case of ASCII letters, in the query and in
the names of games, whatever other characters stand around them.  Texts that differ
in nothing else have equally many conditions and equally many clauses set aside, and
the same games meet them, also when these change the case of ASCII letters in their
names. -/
theorem parse_ignores_ascii_case {s t : String} (h : Text.SameLetters s t) :
    (parse s).conditions.length = (parse t).conditions.length ∧
    (parse s).rejected.length = (parse t).rejected.length ∧
    ∀ (tolerance : Binary64) (g : Game) (name : String), Text.SameLetters g.name name →
      (parse s).matchesGame tolerance g =
        (parse t).matchesGame tolerance { g with name := name } := by
  refine ⟨?_, ?_, ?_⟩
  · calc
      (parse s).conditions.length = (parse s.toLower).conditions.length := by
        rw [conditions_parse_toLower, List.length_map]
      _ = (parse t).conditions.length := by rw [h, conditions_parse_toLower, List.length_map]
  · rw [← length_rejected_parse_toLower s, h, length_rejected_parse_toLower]
  · intro tolerance g name hname
    rw [← matchesGame_parse_toLower s, h, hname, ← matchesGame_parse_toLower t]

/-- A query and a game in capitals.  Some of the sigmas end a word next to an ASCII
letter, the sign of a power of ten is a letter, and one clause cannot be read. -/
theorem parse_ignores_ascii_case_beside_sigmas :
    let g : Game := { name := "OΔOΣ to ΚΟΣMOΣ", rating := Decimal.toBinary64 false ⟨8, 0⟩ }
    (parse "name~=os TO κοσ,RATING>=75E-1,Publisher==x").rejected.length =
      (parse "NAME~=OS TO κοσ,rating>=75e-1,PUBLISHER==X").rejected.length ∧
    (parse "name~=os TO κοσ,RATING>=75E-1,Publisher==x").matchesGame .zero g =
      (parse "NAME~=OS TO κοσ,rating>=75e-1,PUBLISHER==X").matchesGame .zero
        { g with name := "oΔoΣ TO ΚΟΣmoΣ" } := by
  intro g
  obtain ⟨-, hrejected, hmatches⟩ := parse_ignores_ascii_case
    (s := "name~=os TO κοσ,RATING>=75E-1,Publisher==x")
    (t := "NAME~=OS TO κοσ,rating>=75e-1,PUBLISHER==X") (by decide)
  exact ⟨hrejected, hmatches .zero g _ (by decide)⟩

end Query

end GameNight
