import GameNight.Fault
import GameNight.Text.Lines
import GameNight.Text.Pieces

/-!
# GameNight.Folder

A folder of files, and paths into it.

A path leads from the folder step by step, down into a folder by its name or
up to the folder around it; every folder it passes has to be there, also one
that it leaves again.  Writing a file first makes the folders that are missing
on the way, and the ones made stay when a later step fails.

The system takes the path of the folder and the path into it as one text.  A text
that is too long for it or holds a zero character leads nowhere; if only the name
of the file makes it so, the folders on the way are still made.
-/

namespace GameNight

/-- What has a name in a folder. -/
inductive Entry where
  | folder
  | file (bytes : ByteArray)

/-- Whether an entry is a folder. -/
def Entry.isFolder : Entry → Bool
  | .folder => true
  | .file _ => false

/-- Where an entry is: the names that lead to it, the last one first. -/
abbrev Place : Type := List String

/-- A folder with everything in it. -/
structure Folder where
  /-- Bytes that the folder's own path takes in front of a path into it. -/
  ownBytes : Nat := 0
  entries : List (Place × Entry)

/-! ## paths -/

/-- A step of a path. -/
inductive Step where
  | down (name : String)
  | up
deriving DecidableEq, Repr

namespace Path

/-- The step that a part of a path stands for.  Nothing and a single dot stay
where they are. -/
def step? (part : List Char) : Option Step :=
  if part = [] ∨ part = ['.'] then none
  else if part = ['.', '.'] then some .up
  else some (.down (String.ofList part))

/-- Whether a part of a path stays where it is. -/
def stays (part : List Char) : Bool := (step? part).isNone

/-- The steps that the parts of a path stand for. -/
def steps (parts : List (List Char)) : List Step := parts.filterMap step?

/-- The system takes texts of fewer bytes than this as paths. -/
def byteLimit : Nat := 4096

/-- Whether the system takes a path in a folder at all, before it looks where the
path leads. -/
def fits (ownBytes : Nat) (path : List Char) : Bool :=
  ownBytes + (String.ofList path).utf8ByteSize < byteLimit && !path.contains '\x00'

/-- The parts of the way to the folder of a file: those before the last step.
Parts at the end of the way that stay where they are do not belong to it. -/
def wayParts (path : String) : List (List Char) :=
  let back := (Text.pieces '/' path.toList).reverse
  ((back.dropWhile stays).tail.dropWhile stays).reverse

/-- The way to the folder of a file, if the system takes its text as a path. -/
def way? (ownBytes : Nat) (path : String) : Option (List Step) :=
  if fits ownBytes (List.intercalate ['/'] (wayParts path)) then some (steps (wayParts path))
  else none

/-- The whole way of a path to a folder, if the system takes the path. -/
def folderWay? (ownBytes : Nat) (path : String) : Option (List Step) :=
  if fits ownBytes path.toList then some (steps (Text.pieces '/' path.toList)) else none

/-- The name of the file that a path ends with, if the system takes the path.
Nothing comes after the name, not even a part that stays where it is. -/
def name? (ownBytes : Nat) (path : String) : Option String :=
  if fits ownBytes path.toList then
    ((Text.pieces '/' path.toList).getLast?.bind step?).bind fun
      | .down name => some name
      | .up => none
  else none

/-- Whether something can have this name. -/
def allows (name : String) : Bool := name.utf8ByteSize ≤ 255

end Path

namespace Folder

/-- A folder with nothing in it. -/
instance : EmptyCollection Folder := ⟨{ entries := [] }⟩

/-! ## entries -/

/-- The entry at a place. -/
def get? (f : Folder) : Place → Option Entry
  | [] => some .folder
  | p => f.entries.lookup p

/-- Puts an entry at a place. -/
def set (f : Folder) (p : Place) (e : Entry) : Folder :=
  { f with entries := (p, e) :: f.entries.filter (·.1 != p) }

/-! ## ways -/

/-- The place a way leads to, from a place. -/
def follow? (f : Folder) (p : Place) : List Step → Option Place
  | [] => some p
  | .up :: way => f.follow? p.tail way
  | .down name :: way =>
    if (f.get? (name :: p)).any Entry.isFolder then f.follow? (name :: p) way else none

/-- Makes the folders that are missing on a way.  The answer is the place it
leads to, if it leads anywhere. -/
def makeWay (f : Folder) (p : Place) : List Step → Folder × Option Place
  | [] => (f, some p)
  | .up :: way => f.makeWay p.tail way
  | .down name :: way =>
    match f.get? (name :: p) with
    | some .folder => f.makeWay (name :: p) way
    | some (.file _) => (f, none)
    | none =>
      if Path.allows name then (f.set (name :: p) .folder).makeWay (name :: p) way
      else (f, none)

/-! ## files -/

/-- The place of a file in the folder at `p`, if a file can be put there. -/
def filePlace? (f : Folder) (p : Place) (name : String) : Option Place :=
  if Path.allows name && !(f.get? (name :: p)).any Entry.isFolder then some (name :: p) else none

/-- Writes a file, in place of one that was there. -/
def write (f : Folder) (path : String) (bytes : ByteArray) : Folder × Except Fault Unit :=
  match Path.way? f.ownBytes path with
  | none => (f, .error .storage)
  | some way =>
    match f.makeWay [] way with
    | (f, none) => (f, .error .storage)
    | (f, some p) =>
      match (Path.name? f.ownBytes path).bind (f.filePlace? p) with
      | some place => (f.set place (.file bytes), .ok ())
      | none => (f, .error .storage)

/-- The bytes of a file. -/
def read (f : Folder) (path : String) : Except Fault ByteArray :=
  let place := do
    let name ← Path.name? f.ownBytes path
    let p ← (Path.way? f.ownBytes path).bind (f.follow? [])
    return name :: p
  match place.bind f.get? with
  | some (.file bytes) => .ok bytes
  | _ => .error .storage

/-- Makes a folder, and those on the way to it. -/
def makeFolder (f : Folder) (path : String) : Folder × Except Fault Unit :=
  match (Path.folderWay? f.ownBytes path).map (f.makeWay []) with
  | some (f, some _) => (f, .ok ())
  | some (f, none) => (f, .error .storage)
  | none => (f, .error .storage)

/-! ## lines -/

/-- Writes a file of lines. -/
def writeLines (f : Folder) (path : String) (lines : List String) : Folder × Except Fault Unit :=
  f.write path (Text.Lines.encode lines)

/-- Reads a file of lines. -/
def readLines (f : Folder) (path : String) : Except Fault (List String) := do
  let bytes ← f.read path
  match Text.Lines.decode? bytes with
  | some lines => .ok lines
  | none => .error .storage

end Folder

end GameNight
