import GameNight.Number.Numeral
import GameNight.Operator

/-!
# GameNight.Fault

What can go wrong, as causes.  A fault keeps the values that a person needs to
mend it, and `Fault.message` puts it into words.
-/

namespace GameNight

/-- Why a pair of positions names no part of a list. -/
inductive RangeFault where
  /-- The command is not two bounds around one hyphen. -/
  | notTwoBounds (command : String)
  /-- A bound is no natural number of 64 bits. -/
  | notNumbers (command : String)
  /-- A bound is no position of a list of this length. -/
  | outOfBounds (first last length : Nat)
  /-- The first position comes after the last one. -/
  | reversed (first last : Nat)
deriving DecidableEq, Repr

/-- Why a request is refused. -/
inductive Fault where
  | unknownColumn (name : String)
  | unsupportedColumn (column : Column)
  | invalidOperator (operator : Operator) (kind : Kind)
  | invalidLiteral (column : Column) (value : String)
  | malformedClause (clause : String)
  | emptyCommand
  | invalidRange (cause : RangeFault)
  | indexOutOfRange (index length : Nat)
  | gameNotFound (name : String)
  | invalidTolerance (tolerance : Binary64)
  | invalidSortOrder (text : String)
  | unreadableJson
  | storage
deriving DecidableEq

/-! ## wording -/

/-- Amounts in messages are written in full, without a power of ten and
without a fraction that says nothing; between two equally short and equally
near decimals the larger size is taken. -/
def Fault.amount : Layout := ⟨.away, fun _ => true, false⟩

/-- An amount as a message shows it; values that are no finite number have
names. -/
def Fault.amountText (x : Binary64) : String :=
  if x.isNaN then "NaN"
  else if x.isInfinite then (if x.negative then "-inf" else "inf")
  else String.ofList (amount.numeral x).render

/-- A natural number as a message shows it. -/
def Fault.countText (n : Nat) : String := String.ofList (digits n)

/-- The wording of a range that cannot be used. -/
def RangeFault.message : RangeFault → String
  | .notTwoBounds command => command ++ " (expected start-end)"
  | .notNumbers command => command ++ " (bounds must be positive integers)"
  | .outOfBounds first last length =>
    Fault.countText first ++ "-" ++ Fault.countText last ++ " is out of bounds (1-" ++
      Fault.countText length ++ ")"
  | .reversed first last =>
    Fault.countText first ++ "-" ++ Fault.countText last ++ " (start > end)"

/-- The wording of a fault.  Of a text that cannot be read and of a file it is
only how the wording begins: the rest is that of the reader and of the system. -/
def Fault.message : Fault → String
  | .unknownColumn name => "Unknown column: " ++ name
  | .unsupportedColumn c => "Column '" ++ c.canonicalName ++ "' cannot be used in a filter"
  | .invalidOperator op k =>
    "Operator '" ++ String.ofList op.token ++ "' is not valid for " ++ k.name ++ " columns"
  | .invalidLiteral c value =>
    "Invalid value '" ++ value ++ "' for column " ++ c.canonicalName
  | .malformedClause clause => "Malformed filter clause: " ++ clause
  | .emptyCommand => "Command cannot be empty"
  | .invalidRange cause => "Invalid range: " ++ cause.message
  | .indexOutOfRange index length =>
    "Index out of range: " ++ countText index ++ " (valid: 1-" ++ countText length ++ ")"
  | .gameNotFound name => "Game not found: " ++ name
  | .invalidTolerance x =>
    "Configuration error: float_tolerance must be a positive number, got " ++ amountText x
  | .invalidSortOrder text =>
    "Invalid sort order '" ++ text ++ "'. Valid orders: asc, desc"
  | .unreadableJson => "Serialization error: "
  | .storage => "IO error: "

end GameNight
