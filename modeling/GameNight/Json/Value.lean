import GameNight.Json.Token

/-!
# GameNight.Json.Value

JSON values and their compact written form.

Numbers are kept as they are written, since the reader of a field decides
whether it wants a whole number or a double-precision one.  Members of an
object are kept in their order, repeated ones included.
-/

namespace GameNight

/-- A JSON value. -/
inductive Json where
  | null
  | bool (b : Bool)
  | number (n : Numeral)
  | text (s : Option (List Char))
  | array (xs : List Json)
  | object (members : List (Option (List Char) × Json))

namespace Json

mutual

/-- The tokens of a value. -/
def tokens : Json → List Token
  | .null => [.null]
  | .bool b => [.bool b]
  | .number n => [.number n]
  | .text s => [.text s]
  | .array xs => .openArray :: firstElement xs
  | .object ms => .openObject :: firstMember ms

/-- The tokens of an array after its opening bracket. -/
def firstElement : List Json → List Token
  | [] => [.closeArray]
  | x :: xs => tokens x ++ laterElements xs

/-- The tokens of an array after an element. -/
def laterElements : List Json → List Token
  | [] => [.closeArray]
  | x :: xs => .comma :: (tokens x ++ laterElements xs)

/-- The tokens of an object after its opening brace. -/
def firstMember : List (Option (List Char) × Json) → List Token
  | [] => [.closeObject]
  | (k, x) :: ms => .text k :: .colon :: (tokens x ++ laterMembers ms)

/-- The tokens of an object after a member. -/
def laterMembers : List (Option (List Char) × Json) → List Token
  | [] => [.closeObject]
  | (k, x) :: ms => .comma :: .text k :: .colon :: (tokens x ++ laterMembers ms)

end

/-- The compact written form of a value. -/
def render (x : Json) : List Char := x.tokens.flatMap Token.render

/-! ## values of fields -/

/-- A text. -/
def ofText (s : String) : Json := .text (some s.toList)

/-- A whole number. -/
def ofInt (n : Int) : Json := .number (.ofInt n)

/-- A double-precision number; what is no finite number is written as null. -/
def ofBinary64 (x : Binary64) : Json :=
  if x.isFinite then .number (amount.numeral x) else .null

/-- An object with named members. -/
def record (members : List (String × Json)) : Json :=
  .object (members.map fun (k, x) => (some k.toList, x))

end Json

end GameNight
