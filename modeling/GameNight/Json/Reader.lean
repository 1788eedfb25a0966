import GameNight.Json.Value

/-!
# GameNight.Json.Reader

Reading JSON text.

The reader takes one token after the other.  Between tokens it remembers what
it waits for and which arrays and objects are open around that place, the
innermost first.  There is no limit on how deep they lie in each other, and no
token is looked at twice.
-/

namespace GameNight.Json

/-- A member of an object. -/
abbrev Member : Type := Option (List Char) × Json

namespace Reader

/-- An open array or object, with what has been read of it, latest first. -/
inductive Frame where
  | array (done : List Json)
  | object (done : List Member) (key : Option (List Char))

/-- What the reader waits for. -/
inductive Await where
  /-- A value. -/
  | value
  /-- A value or the end of an array that is still empty. -/
  | firstElement
  /-- A key or the end of an object that is still empty. -/
  | firstKey
  /-- A key, after a comma. -/
  | key (done : List Member)
  /-- A colon, after a key. -/
  | colon (done : List Member) (key : Option (List Char))
  /-- A comma, the end of what is open, or the end of the text, after a value. -/
  | next (v : Json)

/-- Where the reader stands. -/
structure State where
  await : Await
  frames : List Frame

/-- Takes the first token of a value. -/
def State.start (frames : List Frame) : Token → Option State
  | .null => some ⟨.next .null, frames⟩
  | .bool b => some ⟨.next (.bool b), frames⟩
  | .number n => some ⟨.next (.number n), frames⟩
  | .text s => some ⟨.next (.text s), frames⟩
  | .openArray => some ⟨.firstElement, frames⟩
  | .openObject => some ⟨.firstKey, frames⟩
  | _ => none

/-- Takes a token after a value. -/
def State.after (v : Json) : List Frame → Token → Option State
  | .array done :: frames, .comma => some ⟨.value, .array (v :: done) :: frames⟩
  | .array done :: frames, .closeArray => some ⟨.next (.array (v :: done).reverse), frames⟩
  | .object done k :: frames, .comma => some ⟨.key ((k, v) :: done), frames⟩
  | .object done k :: frames, .closeObject =>
    some ⟨.next (.object ((k, v) :: done).reverse), frames⟩
  | _, _ => none

/-- Takes a token. -/
def State.step (s : State) (t : Token) : Option State :=
  match s.await with
  | .value => start s.frames t
  | .firstElement =>
    match t with
    | .closeArray => some ⟨.next (.array []), s.frames⟩
    | t => start (.array [] :: s.frames) t
  | .firstKey =>
    match t with
    | .closeObject => some ⟨.next (.object []), s.frames⟩
    | .text k => some ⟨.colon [] k, s.frames⟩
    | _ => none
  | .key done =>
    match t with
    | .text k => some ⟨.colon done k, s.frames⟩
    | _ => none
  | .colon done k =>
    match t with
    | .colon => some ⟨.value, .object done k :: s.frames⟩
    | _ => none
  | .next v => after v s.frames t

/-- Takes tokens, one after the other. -/
def State.run (s : State) : List Token → Option State
  | [] => some s
  | t :: ts => (s.step t).bind fun s => s.run ts

/-- The value that has been read, when nothing is left open. -/
def State.value? : State → Option Json
  | ⟨.next v, []⟩ => some v
  | _ => none

end Reader

/-- The value of some tokens. -/
def ofTokens? (ts : List Token) : Option Json :=
  ((⟨.value, []⟩ : Reader.State).run ts).bind Reader.State.value?

/-- Reads a text that is a JSON value, with blanks around and within it. -/
def parse? (cs : List Char) : Option Json := (Token.scanAll? cs).bind ofTokens?

end GameNight.Json
