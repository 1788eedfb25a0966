import GameNight.Fault
import GameNight.Text.Blank
import GameNight.Text.Pieces

/-!
# GameNight.Selector

Commands that pick games out of a list: `all`, a position such as `3`, a range
of positions such as `2-5`, or the name of a game.

Positions are the ones a person reads off a numbered listing, so they start at
one.  A command with a hyphen in it is always meant as a range; games with a
hyphen in their name are picked by position.
-/

namespace GameNight

/-- What a command picks. -/
inductive Selector where
  | all
  /-- Positions, both included. -/
  | range (first last : Nat)
  | index (n : Nat)
  /-- A name in small letters. -/
  | name (title : String)
deriving DecidableEq, Repr

namespace Selector

/-! ## reading a command -/

/-- Reads two positions around a hyphen.  White space around them is allowed. -/
def range? (command : List Char) : Except Fault Selector :=
  match Text.pieces '-' command with
  | [first, last] =>
    match position? (Text.trim first), position? (Text.trim last) with
    | some first, some last => .ok (.range first last)
    | _, _ => .error (.invalidRange (.notNumbers (String.ofList command)))
  | _ => .error (.invalidRange (.notTwoBounds (String.ofList command)))

/-- Reads a command, in any letter case. -/
def parse (command : String) : Except Fault Selector :=
  let cs := Text.lower (Text.trim command.toList)
  if cs = [] then .error .emptyCommand
  else if cs = ['a', 'l', 'l'] then .ok .all
  else if '-' ∈ cs then range? cs
  else match position? cs with
    | some n => .ok (.index n)
    | none => .ok (.name (String.ofList cs))

/-! ## picking games -/

/-- Whether a game has a name, given in small letters. -/
def named (title : String) (g : Game) : Bool := Text.lower g.name.toList == title.toList

/-- The games at the positions from `first` to `last`. -/
def slice (games : List Game) (first last : Nat) : List Game :=
  (games.take last).drop (first - 1)

/-- The games a selector picks from a list, in the order of the list. -/
def select (games : List Game) : Selector → Except Fault (List Game)
  | .all => .ok games
  | .range first last =>
    if first < 1 ∨ last < 1 ∨ games.length < first ∨ games.length < last then
      .error (.invalidRange (.outOfBounds first last games.length))
    else if last < first then .error (.invalidRange (.reversed first last))
    else .ok (slice games first last)
  | .index n =>
    if n < 1 ∨ games.length < n then .error (.indexOutOfRange n games.length)
    else .ok (slice games n n)
  | .name title =>
    match games.find? (named title) with
    | some g => .ok [g]
    | none => .error (.gameNotFound title)

theorem mem_of_slice {games : List Game} {first last : Nat} {g : Game}
    (h : g ∈ slice games first last) : g ∈ games :=
  List.mem_of_mem_take (List.mem_of_mem_drop h)

/-- A selector picks nothing that is not in the list. -/
theorem mem_of_select {games picked : List Game} {s : Selector} (h : s.select games = .ok picked)
    {g : Game} (hg : g ∈ picked) : g ∈ games := by
  cases s with
  | all => simp_all [select]
  | range first last =>
    simp only [select] at h
    split at h
    · cases h
    split at h
    · cases h
    cases h
    exact mem_of_slice hg
  | index n =>
    simp only [select] at h
    split at h
    · cases h
    cases h
    exact mem_of_slice hg
  | name title =>
    simp only [select] at h
    split at h
    · next hf =>
      cases h
      obtain rfl : g = _ := by simpa using hg
      exact List.mem_of_find?_eq_some hf
    · cases h

end Selector

end GameNight
