import RecordSync.Table
import RecordSync.Text.Commas

/-!
# The columns that the catalog reports

Before rows of a table are read, the catalog is asked for its columns. They go into the statement
that reads the rows, so they must be plain identifiers, and the convention columns must be among
them.

Key definitions: `Catalog.isPlain`, `Catalog.Fault`, `Catalog.check`.
-/
namespace RecordSync
namespace Catalog

/-- The most characters that an identifier has. -/
def identifierLimit : Nat := 63

/-- Whether a plain identifier may start with the character. -/
def isPlainStart (c : Char) : Bool := ('a' ≤ c && c ≤ 'z') || c == '_'

/-- Whether a plain identifier may go on with the character. -/
def isPlainRest (c : Char) : Bool := isPlainStart c || ('0' ≤ c && c ≤ '9')

/-- Whether a name is an identifier that needs no quotes: lower-case ASCII letters, digits and
underscores, not a digit first, and at most 63 characters. -/
def isPlain (name : String) : Bool :=
  match name.toList with
  | [] => false
  | c :: cs => isPlainStart c && cs.all isPlainRest && cs.length < identifierLimit

/-- What is wrong with the columns of a table. -/
inductive Fault where
  /-- There are none. -/
  | noColumns
  /-- A name is no plain identifier. -/
  | notPlain (name : String)
  /-- Convention columns are not among them. -/
  | missing (columns : List ConventionColumn)
  deriving DecidableEq, Repr

/-- What is said about a fault of a table. -/
def Fault.reason (t : Table) : Fault → String
  | .noColumns => "table " ++ t.catalogName ++ " not found in catalog"
  | .notPlain name => "column '" ++ name ++ "' is not a plain identifier"
  | .missing cs => "missing columns: " ++ Text.commas (cs.map ConventionColumn.name)

/-- The convention columns that are not among the names, in their order. -/
def missingColumns (names : List String) : List ConventionColumn :=
  ConventionColumn.all.filter fun c => !names.contains c.name

/-- The first fault of reported columns, if there is any. -/
def check (names : List String) : Except Fault Unit :=
  if names.isEmpty then .error .noColumns
  else
    match names.find? fun n => !isPlain n with
    | some n => .error (.notPlain n)
    | none =>
      match missingColumns names with
      | [] => .ok ()
      | cs => .error (.missing cs)

end Catalog
end RecordSync
