import GameNight.Json.Value

/-!
# GameNight.Json.Field

Records in JSON.

A record is an object whose members are its fields by name, or an array of its
fields in their order.  In an object other members are passed over, and a field
may not be given twice; an array may leave out fields at its end, and has no
elements beyond them.
-/

namespace GameNight.Json

/-! ## fields by name -/

/-- The value of a field in an object: none if it is not given. -/
def field? (members : List (Option (List Char) × Json)) (name : String) : Option (Option Json) :=
  match members.filter (·.1 == some name.toList) with
  | [] => some none
  | [m] => some (some m.2)
  | _ => none

/-- The values of the named fields of a record. -/
def fields? (names : List String) : Json → Option (List (Option Json))
  | .array xs =>
    if xs.length ≤ names.length then
      some (xs.map some ++ .replicate (names.length - xs.length) none)
    else none
  | .object ms => if ms.all (·.1.isSome) then names.mapM (field? ms) else none
  | _ => none

/-! ## the values of fields -/

/-- A text. -/
def text? : Json → Option String
  | .text s => s.map String.ofList
  | _ => none

/-- A word of 32 bits. -/
def word? : Json → Option UInt32
  | .number n => (n.toNat? 0x100000000).map UInt32.ofNat
  | _ => none

/-- A signed word of 32 bits. -/
def signed? : Json → Option Int32
  | .number n => (n.toInt?.filter fun i : Int => -0x80000000 ≤ i ∧ i < 0x80000000).map Int32.ofInt
  | _ => none

/-- A double-precision number. -/
def binary64? : Json → Option Binary64
  | .number n => n.toBinary64?
  | _ => none

/-- One of several named choices: its name, or an object with its name as the
key of a single member without a value. -/
def choice? : Json → Option (List Char)
  | .text s => s
  | .object [(name, .null)] => name
  | _ => none

end GameNight.Json
