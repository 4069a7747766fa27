import RecordSync.Text.Decimal

/-!
# Refused arguments

What a caller passes is checked before the store is asked for anything. A refusal names the first
rule that is broken.

Key definitions: `ValidationError`, `ValidationError.text`.
-/
namespace RecordSync

/-- Why an argument of a call is refused. -/
inductive ValidationError where
  /-- A text that must not be empty is. -/
  | empty (field : String)
  /-- A text has more characters than it may. -/
  | tooLong (field : String) (limit : Nat)
  /-- The user id is zero, which no user has. -/
  | zeroUserId
  /-- No table has the name. -/
  | unknownTable (name : String)
  /-- The table has no data column of the name. -/
  | unknownColumn (table column : String)
  /-- The column is one that the engine writes itself. -/
  | reservedColumn (column : String)
  deriving DecidableEq, Repr

/-- What is said about a refusal. -/
def ValidationError.text : ValidationError → String
  | .empty field => field ++ " cannot be empty"
  | .tooLong field limit =>
    field ++ " exceeds maximum length of " ++ Decimal.writeNat limit ++ " characters"
  | .zeroUserId => "user_id must be specified"
  | .unknownTable name => "unknown table '" ++ name ++ "'"
  | .unknownColumn table column => "table " ++ table ++ " has no data column '" ++ column ++ "'"
  | .reservedColumn column =>
    "column '" ++ column ++ "' is managed by the store and cannot be set"

end RecordSync
