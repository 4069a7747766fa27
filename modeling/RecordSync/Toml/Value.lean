/-!
# TOML values

A TOML file is a table of values by key. Settings are read from values: a choice is a name, or a
table that leads from the name to nothing.

Key definitions: `Toml.Value`, `Toml.Value.readMembers?`, `Toml.Value.variantName?`.
-/
namespace RecordSync
namespace Toml

/-- A TOML value. -/
inductive Value where
  | string (s : String)
  | integer (n : Int)
  /-- A number with a fraction or an exponent, or one that is not finite, by its spelling. -/
  | float (spelling : String)
  | boolean (b : Bool)
  /-- A date, a time or both, by its spelling. -/
  | moment (spelling : String)
  | array (items : List Value)
  /-- A table; one that is written as a value is closed, the others can be added to. -/
  | table (closed : Bool) (entries : List (String × Value))
  deriving Inhabited

namespace Value

/-- The text of a string. -/
def text? : Value → Option String
  | .string s => some s
  | _ => none

/-- The whole number from `least` to `largest` that a value is. -/
def int? (least largest : Int) : Value → Option Int
  | .integer n => if least ≤ n ∧ n ≤ largest then some n else none
  | _ => none

/-- Whether a value holds nothing. -/
def isEmpty : Value → Bool
  | .array items => items.isEmpty
  | .table _ entries => entries.isEmpty
  | _ => false

/-- The key of an entry that leads to nothing. -/
def emptyKey? (e : String × Value) : Option String := if e.2.isEmpty then some e.1 else none

/-- The variant of a closed set that a value names: a string, or a table that leads from the name to
an empty value. A closed table has no other entry, and of an open one the first counts. -/
def variantName? : Value → Option String
  | .string s => some s
  | .table true [e] => emptyKey? e
  | .table false (e :: _) => emptyKey? e
  | _ => none

/--
The values of the declared members, in declared order, each `none` when it is left out. A table
gives them by key, among other entries. An array gives them by position, and what it has beyond them
does not count. A date or time gives none.
-/
def readMembers? (names : List String) : Value → Option (List (Option Value))
  | .table _ entries => some (names.map fun name => entries.lookup name)
  | .array items =>
    let given := items.take names.length
    some (given.map some ++ List.replicate (names.length - given.length) none)
  | .moment _ => some (names.map fun _ => none)
  | _ => none

end Value
end Toml
end RecordSync
