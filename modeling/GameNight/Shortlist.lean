import GameNight.Listing
import GameNight.Selector

/-!
# GameNight.Shortlist

The games a person has set aside for a game night: a set of records, changed
by the commands of `Selector`.

Games are added from the listing on the screen and removed by their positions
in the shortlist's own listing, which is by name and by nothing else: a set has
no order, so members whose names are equal ignoring letter case may stand either
way round.  A command that fails changes nothing.
-/

namespace GameNight

/-- Different games, in one of the orders in which the set of them can be gone through. -/
structure Shortlist where
  members : List Game
  nodup : members.Nodup

namespace Shortlist

/-- The shortlist without games. -/
instance : EmptyCollection Shortlist := ⟨⟨[], .nil⟩⟩

instance : Inhabited Shortlist := ⟨∅⟩

instance : Membership Game Shortlist := ⟨fun l g => g ∈ l.members⟩

theorem mem_iff {g : Game} {l : Shortlist} : g ∈ l ↔ g ∈ l.members := Iff.rfl

@[simp] theorem notMem_empty (g : Game) : g ∉ (∅ : Shortlist) := List.not_mem_nil

/-! ## single games -/

/-- Puts a game on the list, if it is not there yet. -/
def insert (l : Shortlist) (g : Game) : Shortlist :=
  if h : g ∈ l.members then l
  else ⟨l.members ++ [g], List.nodup_append.mpr
    ⟨l.nodup, by simp, fun a ha b hb e => h (by simp_all)⟩⟩

/-- Takes games off the list. -/
def eraseAll (l : Shortlist) (games : List Game) : Shortlist :=
  ⟨l.members.filter (· ∉ games), l.nodup.filter _⟩

/-- Puts games on the list, one after the other. -/
def insertAll (l : Shortlist) (games : List Game) : Shortlist := games.foldl insert l

@[simp] theorem mem_insert {l : Shortlist} {g h : Game} : g ∈ l.insert h ↔ g ∈ l ∨ g = h := by
  unfold insert
  split <;> simp_all [mem_iff]

@[simp] theorem mem_insertAll {l : Shortlist} {games : List Game} {g : Game} :
    g ∈ l.insertAll games ↔ g ∈ l ∨ g ∈ games := by
  unfold insertAll
  induction games generalizing l with
  | nil => simp
  | cons a as ih => simp [ih, or_assoc]

@[simp] theorem mem_eraseAll {l : Shortlist} {games : List Game} {g : Game} :
    g ∈ l.eraseAll games ↔ g ∈ l ∧ g ∉ games := by
  simp [eraseAll, mem_iff]

/-! ## what the list shows -/

/-- The members as they are shown, by name ignoring letter case. -/
def shown (l : Shortlist) : List Game := l.members.mergeSort fun g h => (g.compareName h).isLE

/-- The members' names as they are shown. -/
def names (l : Shortlist) : List String := l.shown.map Game.name

def count (l : Shortlist) : Nat := l.members.length

def isEmpty (l : Shortlist) : Bool := l.members.isEmpty

/-- Whether some member has a name, given in any letter case and with any white
space around it. -/
def contains (l : Shortlist) (name : String) : Bool :=
  l.members.any (Selector.named (String.ofList (Text.lower (Text.trim name.toList))))

theorem perm_shown (l : Shortlist) : l.shown.Perm l.members := List.mergeSort_perm _ _

@[simp] theorem mem_shown {l : Shortlist} {g : Game} : g ∈ l.shown ↔ g ∈ l :=
  l.perm_shown.mem_iff

/-! ## commands -/

/-- Adds what a command picks from the candidates, which are in the order in
which the person saw them. -/
def add (l : Shortlist) (command : String) (candidates : List Game) : Except Fault Shortlist := do
  let selector ← Selector.parse command
  let picked ← selector.select candidates
  return l.insertAll picked

/-- Removes what a command picks from the members as they are shown. -/
def remove (l : Shortlist) (command : String) : Except Fault Shortlist := do
  let selector ← Selector.parse command
  let picked ← selector.select l.shown
  return l.eraseAll picked

/-- A change to a shortlist, as a person asks for it. -/
inductive Change where
  | add (command : String) (candidates : List Game)
  | remove (command : String)
  | clear

/-- The list after a change. -/
def change (l : Shortlist) : Change → Except Fault Shortlist
  | .add command candidates => l.add command candidates
  | .remove command => l.remove command
  | .clear => .ok ∅

/-- The list after a change that may fail: a failing one leaves it alone. -/
def attempt (l : Shortlist) (c : Change) : Shortlist := (l.change c).toOption.getD l

/-- A list after a run of changes. -/
def run (l : Shortlist) (changes : List Change) : Shortlist := changes.foldl attempt l

/-! ## export -/

/-- Hands the names, a line each, to something that stores lines at a path. -/
def exportTo {α : Type} (store : String → List String → α) (path : String) (l : Shortlist) : α :=
  store path l.names

end Shortlist

end GameNight
