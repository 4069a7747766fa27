import RecordSync.Text.Ascii
import RecordSync.Text.Blank
import RecordSync.Validation
import RecordSync.Fields
import RecordSync.Json.Basic

/-!
# Synchronized tables and their columns

There are four tables. Each has the four convention columns, which the engine writes itself, and its
own data columns, which callers write. Both kinds of column are closed sets: a name that a caller
gives is resolved to one of them or refused, and only their constant names reach the store.

Key definitions: `Table`, `ConventionColumn`, `DataColumn`, `Table.parse`, `Table.column`,
`Table.resolve`.
-/
namespace RecordSync

/-- A column that every table has and the engine writes. -/
inductive ConventionColumn where
  | id
  | userId
  | updatedAt
  | deleted
  deriving DecidableEq, Repr

namespace ConventionColumn

/-- The name of the column. -/
def name : ConventionColumn → String
  | .id => "id"
  | .userId => "user_id"
  | .updatedAt => "updated_at"
  | .deleted => "deleted"

/-- The convention columns, in their order. -/
def all : List ConventionColumn := [.id, .userId, .updatedAt, .deleted]

end ConventionColumn

/-- A column that callers write. -/
inductive DataColumn where
  | login
  | password
  | data
  | number
  | holder
  | expiry
  | cvv
  | metadata
  deriving DecidableEq, Repr

/-- The name of the column. -/
def DataColumn.name : DataColumn → String
  | .login => "login"
  | .password => "password"
  | .data => "data"
  | .number => "number"
  | .holder => "holder"
  | .expiry => "expiry"
  | .cvv => "cvv"
  | .metadata => "metadata"

/-- A synchronized table. -/
inductive Table where
  | credentials
  | textData
  | binaryData
  | cardData
  deriving DecidableEq, Repr

namespace Table

/-- The tables, in their order. -/
def all : List Table := [.credentials, .textData, .binaryData, .cardData]

/-- The name of the table in statements. -/
def name : Table → String
  | .credentials => "Credentials"
  | .textData => "TextData"
  | .binaryData => "BinaryData"
  | .cardData => "CardData"

/-- The name under which the catalog lists the table. -/
def catalogName (t : Table) : String := Text.lower t.name

/-- The columns of the table that callers write, in declared order. -/
def dataColumns : Table → List DataColumn
  | .credentials => [.login, .password, .metadata]
  | .textData => [.data, .metadata]
  | .binaryData => [.data, .metadata]
  | .cardData => [.number, .holder, .expiry, .cvv, .metadata]

/-- The table of a name, which may be padded with white space and in any letter case. -/
def parse (s : String) : Except ValidationError Table :=
  match all.find? fun t => Text.sameLetters t.name (Text.trim s) with
  | some t => .ok t
  | none => .error (.unknownTable s)

/-- The table of an exact name. -/
def ofName? (s : String) : Option Table := all.find? fun t => t.name == s

/-- The table that a JSON value names. -/
def ofJson? (v : Json) : Option Table := v.variantName?.bind ofName?

/-- The name of the table as JSON. -/
def toJson (t : Table) : Json := .str t.name

/-- The data column that a field key names. A convention column in any letter case is reserved. -/
def column (t : Table) (key : String) : Except ValidationError DataColumn :=
  match ConventionColumn.all.find? fun c => Text.sameLetters c.name key with
  | some reserved => .error (.reservedColumn reserved.name)
  | none =>
    match t.dataColumns.find? fun c => c.name == key with
    | some c => .ok c
    | none => .error (.unknownColumn t.name key)

/-- The columns of fields, or the refusal of the first key that has none. -/
def resolveEntries (t : Table) :
    List (String × String) → Except ValidationError (List (DataColumn × String))
  | [] => .ok []
  | e :: es => do
    let c ← t.column e.1
    let cs ← t.resolveEntries es
    .ok ((c, e.2) :: cs)

/-- The columns and values of a write, in the order of the columns' names. -/
def resolve (t : Table) (fields : Fields) : Except ValidationError (List (DataColumn × String)) :=
  t.resolveEntries fields.entries

end Table

/-- A column of a table. -/
inductive Column where
  | convention (c : ConventionColumn)
  | data (c : DataColumn)
  deriving DecidableEq, Repr

/-- The name of the column. -/
def Column.name : Column → String
  | .convention c => c.name
  | .data c => c.name

end RecordSync
