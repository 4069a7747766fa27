import RecordSync.Failure
import RecordSync.Record
import RecordSync.Text.Literal
import RecordSync.Wire

/-!
# Rows of a reply

A reply's columns have a name and the name of a type. A row becomes a record when every column has a
type that is known and a value that can be read, column by column from the left: the first column
that fails decides. Single values are read from the first column, whose type has to be a given one,
and may not be NULL.

Key definitions: `ColumnInfo`, `Cell`, `ColumnKind`, `Row.toRecord`, `Row.scalar`, `Row.named`.
-/
namespace RecordSync

/-- A column of a reply. -/
structure ColumnInfo where
  name : String
  typeName : String
  deriving DecidableEq, Repr

/-- A value of a row: bytes, or nothing for NULL. -/
abbrev Cell := Option (List UInt8)

/-- A value of a row under its column. -/
structure Field where
  column : ColumnInfo
  cell : Cell
  deriving DecidableEq, Repr

/-- A row, from left to right. -/
abbrev Row := List Field

/-- What is read from a column. -/
inductive ColumnKind where
  | bool
  | int2
  | int4
  | int8
  | text
  | instant
  | uuid
  deriving DecidableEq, Repr

namespace ColumnKind

/-- The kind of a type, if the type is known. -/
def ofTypeName? (s : String) : Option ColumnKind :=
  if s = "BOOL" then some .bool
  else if s = "INT2" then some .int2
  else if s = "INT4" then some .int4
  else if s = "INT8" then some .int8
  else if ["TEXT", "VARCHAR", "BPCHAR", "NAME", "CITEXT"].contains s then some .text
  else if ["TIMESTAMPTZ", "TIMESTAMP"].contains s then some .instant
  else if s = "UUID" then some .uuid
  else none

end ColumnKind

namespace Row

/-- The text of a value of a kind. -/
def textOf (kind : ColumnKind) (bs : List UInt8) : Except Wire.Fault String :=
  match kind with
  | .bool => (Wire.readBool bs).map fun b => if b then "true" else "false"
  | .int2 => (Wire.readIntOf 16 bs).map Decimal.write
  | .int4 => (Wire.readIntOf 32 bs).map Decimal.write
  | .int8 => (Wire.readIntOf 64 bs).map Decimal.write
  | .text => Wire.readText bs
  | .instant => (Wire.readInstant bs).map Rfc3339.micros
  | .uuid => Wire.uuidText bs

/-! ### Records -/

/-- The operation under which a row is read. -/
def decodeOp : String := "decode row"

/-- The text of a field at a position, where NULL has none. -/
def fieldText (index : Nat) (f : Field) : Except StoreError (Option String) :=
  match ColumnKind.ofTypeName? f.column.typeName with
  | none => .error (.unsupportedDatatype f.column.name f.column.typeName)
  | some kind =>
    match f.cell with
    | none => .ok none
    | some bs =>
      match textOf kind bs with
      | .ok s => .ok (some s)
      | .error fault => .error (StoreError.classify decodeOp
          (.columnDecode (Decimal.writeNat index) fault.text))

/-- The columns and texts of a row from a position on. -/
def textsFrom (index : Nat) : Row → Except StoreError (List (String × Option String))
  | [] => .ok []
  | f :: fs => do
    let s ← fieldText index f
    let ss ← textsFrom (index + 1) fs
    .ok ((f.column.name, s) :: ss)

/-- The record of a row, or the failure of its first column that has one. -/
def toRecord (row : Row) : Except StoreError Record :=
  (textsFrom 0 row).map Record.ofList

/-- The records of rows, or the failure of the first row that has one. -/
def toRecords : List Row → Except StoreError (List Record)
  | [] => .ok []
  | row :: rows => do
    let r ← toRecord row
    let rs ← toRecords rows
    .ok (r :: rs)

/-! ### Single values -/

/-- A kind of single value. -/
structure Scalar (α : Type) where
  /-- The types that a column may have. -/
  types : List String
  /-- What the kind goes by when a column has another type. -/
  title : String
  /-- The type that it goes by then. -/
  typeTitle : String
  read : List UInt8 → Except Wire.Fault α

/-- A truth value. -/
def boolScalar : Scalar Bool where
  types := ["BOOL"]
  title := "bool"
  typeTitle := "BOOL"
  read := Wire.readBool

/-- The id of a user. -/
def userIdScalar : Scalar UserId where
  types := ["INT4"]
  title := "keepsync_store::models::user::UserId"
  typeTitle := "INT4"
  read bs := (Wire.readInt bs).bind (Wire.bounded UserId.ofInt?)

/-- A text. -/
def textScalar : Scalar String where
  types := ["TEXT", "VARCHAR", "NAME", "CHAR", "UNKNOWN", "citext", "CITEXT"]
  title := "alloc::string::String"
  typeTitle := "TEXT"
  read := Wire.readText

/-- A point in time. -/
def instantScalar : Scalar Instant where
  types := ["TIMESTAMPTZ"]
  title := "chrono::datetime::DateTime<chrono::offset::utc::Utc>"
  typeTitle := "TIMESTAMPTZ"
  read := Wire.readInstant

namespace Scalar

/-- What is said of a column of another type. -/
def mismatch {α : Type} (kind : Scalar α) (typeName : String) : String :=
  "mismatched types; Rust type `" ++ kind.title ++ "` (as SQL type `" ++ kind.typeTitle ++
    "`) is not compatible with SQL type `" ++ typeName ++ "`"

/-- The value of a field, or what is said of it if it has none. -/
def ofField {α : Type} (kind : Scalar α) (f : Field) : Except String α :=
  match f.cell with
  | none => .error "unexpected null; try decoding as an `Option`"
  | some bs =>
    if kind.types.contains f.column.typeName then (kind.read bs).mapError Wire.Fault.text
    else .error (kind.mismatch f.column.typeName)

end Scalar

/-- Reads the value of a field, which goes by a label in failures. -/
def scalarOf {α : Type} (kind : Scalar α) (label : String) (f : Field) : Except ClientError α :=
  (kind.ofField f).mapError (ClientError.columnDecode label)

/-- Reads the value of the first column. -/
def scalar {α : Type} (kind : Scalar α) : Row → Except ClientError α
  | [] => .error (.columnIndexOutOfBounds 0 0)
  | f :: _ => scalarOf kind "0" f

/-- Reads the value of the last column of a name. -/
def named {α : Type} (kind : Scalar α) (name : String) (row : Row) : Except ClientError α :=
  match row.reverse.find? fun f => f.column.name == name with
  | some f => scalarOf kind (Text.literal name) f
  | none => .error (.columnNotFound name)

/-- Reads the value of the first column of each row, or fails as the first row that does. -/
def scalars {α : Type} (kind : Scalar α) : List Row → Except ClientError (List α)
  | [] => .ok []
  | row :: rows => do
    let x ← scalar kind row
    let xs ← scalars kind rows
    .ok (x :: xs)

/-- Reads a user from the columns of their names. -/
def toUser (row : Row) : Except ClientError User := do
  let id ← named userIdScalar "id" row
  let username ← named textScalar "username" row
  let hash ← named textScalar "password_hash" row
  let createdAt ← named instantScalar "created_at" row
  .ok ⟨id, username, hash, createdAt⟩

end Row
end RecordSync
