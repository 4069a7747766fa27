import RecordSync.Failure
import RecordSync.Record
import RecordSync.Table

/-!
# Typed records

Each table has a shape: a structure with the record's id, a text for every required column, the
optional metadata and the sync mark. A shape goes to field values for a write, comes back from a
record that was read, and goes to JSON and back. Each shape writes down its own columns and members;
that they are those of its table is part of being a shape, so that the columns of a table and those
that its shape writes and reads cannot come apart.

Key definitions: `SyncMark`, `Parts`, `Parts.columnValues`, `Table.partsOf`, `Shape`, `Credential`,
`TextNote`, `BinaryBlob`, `Card`, `Shape.toJson`, `Shape.ofJson?`.
Key theorems: `Shape.ofRecord_eq_ok_iff_partsOf`, `Shape.ofRecord_eq_error_iff_partsOf`.
-/
namespace RecordSync

/-- When a record was last written, and whether it is marked as deleted. -/
structure SyncMark where
  updatedAt : Option Instant := none
  deleted : Bool := false
  deriving DecidableEq

namespace SyncMark

/-- The mark of a record. -/
def ofRecord (r : Record) : SyncMark := ⟨r.updatedAt?, r.isDeleted⟩

/-- The mark as JSON. -/
def toJson (m : SyncMark) : Json :=
  .obj [("updated_at", Record.valueJson (m.updatedAt.map Rfc3339.shortest)),
    ("deleted", .bool m.deleted)]

/-- The point in time that a member is; null and no member are none. -/
def instantOfJson? : Option Json → Option (Option Instant)
  | none => some none
  | some .null => some none
  | some (.str s) => (Rfc3339.read? s).map some
  | some _ => none

/-- The mark that a JSON value is: `updated_at` may be left out of an object, `deleted` may not. -/
def ofJson? (v : Json) : Option SyncMark := do
  match ← v.readMembers? ["updated_at", "deleted"] 2 with
  | [updatedAt, some deleted] => some ⟨← instantOfJson? updatedAt, ← deleted.bool?⟩
  | _ => none

end SyncMark

/-- What all shapes are made of; a text stands for each required column, in declared order. -/
structure Parts where
  id : String
  values : List String
  metadata : Option String
  sync : SyncMark
  deriving DecidableEq

/-! ### What a table asks of its shape -/

/-- The columns of a table that a typed record must have. -/
def Table.requiredColumns (t : Table) : List DataColumn := t.dataColumns.filter (· ≠ .metadata)

/-- The columns of a table with the texts of parts; metadata is left out when there is none. -/
def Parts.columnValues (p : Parts) (t : Table) : List (DataColumn × String) :=
  t.requiredColumns.zip p.values ++ (p.metadata.map fun m => (DataColumn.metadata, m)).toList

namespace Table

/-- The text under a column that must be there and not be NULL. -/
def requiredText (t : Table) (r : Record) (column : String) : Except StoreError String :=
  match r.get? column with
  | some s => .ok s
  | none => .error (.schemaMismatch t.name ("column '" ++ column ++ "' is missing or null"))

/-- The parts that a record has for a table, or the failure of the first column that it lacks. -/
def partsOf (t : Table) (r : Record) : Except StoreError Parts := do
  let id ← t.requiredText r ConventionColumn.id.name
  let values ← (t.requiredColumns.map DataColumn.name).mapM (t.requiredText r)
  return ⟨id, values, r.get? DataColumn.metadata.name, SyncMark.ofRecord r⟩

end Table

/-- A typed view of the records of one table. -/
class Shape (α : Type) where
  table : Table
  /-- The field values that a write carries; metadata is left out when there is none. -/
  fields : α → Fields
  /-- The shape of a record, or the failure of the first column that it lacks. -/
  ofRecord : Record → Except StoreError α
  /-- The names of the JSON members, in order. -/
  memberNames : List String
  parts : α → Parts
  ofParts? : Parts → Option α
  /-- A shape is made again from its parts. -/
  ofParts?_parts : ∀ x, ofParts? (parts x) = some x
  /-- There is one text for each required column. -/
  length_values : ∀ x, (parts x).values.length = table.requiredColumns.length
  /-- Any parts with so many texts are those of a shape. -/
  parts_ofParts? : ∀ p : Parts, p.values.length = table.requiredColumns.length →
    ∃ x, ofParts? p = some x ∧ parts x = p
  /-- What is written are the texts of the columns of the table. -/
  fields_eq : ∀ x, fields x =
    Fields.ofList (((parts x).columnValues table).map fun p => (p.1.name, p.2))
  /-- What is read are the columns of the table, in their order. -/
  map_parts_ofRecord : ∀ r, parts <$> ofRecord r = table.partsOf r
  /-- The members are the id, the required columns, metadata and the sync mark. -/
  memberNames_eq : memberNames =
    "id" :: table.requiredColumns.map DataColumn.name ++ ["metadata", "sync"]

/-! ### The four shapes -/

/-- A login with its password. -/
structure Credential where
  id : String := ""
  login : String := ""
  password : String := ""
  metadata : Option String := none
  sync : SyncMark := {}
  deriving DecidableEq, Inhabited

/-- A free text. -/
structure TextNote where
  id : String := ""
  data : String := ""
  metadata : Option String := none
  sync : SyncMark := {}
  deriving DecidableEq, Inhabited

/-- Binary data, carried as encoded text. -/
structure BinaryBlob where
  id : String := ""
  data : String := ""
  metadata : Option String := none
  sync : SyncMark := {}
  deriving DecidableEq, Inhabited

/-- A payment card. -/
structure Card where
  id : String := ""
  number : String := ""
  holder : String := ""
  expiry : String := ""
  cvv : String := ""
  metadata : Option String := none
  sync : SyncMark := {}
  deriving DecidableEq, Inhabited

instance : Shape Credential where
  table := .credentials
  fields x := Fields.empty
    |>.insert "login" x.login
    |>.insert "password" x.password
    |>.insertOpt "metadata" x.metadata
  ofRecord r := do
    let id ← Table.credentials.requiredText r "id"
    let login ← Table.credentials.requiredText r "login"
    let password ← Table.credentials.requiredText r "password"
    return ⟨id, login, password, r.get? "metadata", SyncMark.ofRecord r⟩
  memberNames := ["id", "login", "password", "metadata", "sync"]
  parts x := ⟨x.id, [x.login, x.password], x.metadata, x.sync⟩
  ofParts?
    | ⟨id, [login, password], metadata, sync⟩ => some ⟨id, login, password, metadata, sync⟩
    | _ => none
  ofParts?_parts _ := rfl
  length_values _ := rfl
  parts_ofParts? := by
    rintro ⟨id, values, metadata, sync⟩ h
    match values, h with
    | [_, _], _ => exact ⟨_, rfl, rfl⟩
  fields_eq := by
    rintro ⟨id, login, password, _ | m, sync⟩ <;> rfl
  map_parts_ofRecord r := by
    have columns : Table.credentials.requiredColumns.map DataColumn.name =
        ["login", "password"] := rfl
    simp [Table.partsOf, columns, ConventionColumn.name, DataColumn.name]
  memberNames_eq := rfl

instance : Shape TextNote where
  table := .textData
  fields x := Fields.empty
    |>.insert "data" x.data
    |>.insertOpt "metadata" x.metadata
  ofRecord r := do
    let id ← Table.textData.requiredText r "id"
    let data ← Table.textData.requiredText r "data"
    return ⟨id, data, r.get? "metadata", SyncMark.ofRecord r⟩
  memberNames := ["id", "data", "metadata", "sync"]
  parts x := ⟨x.id, [x.data], x.metadata, x.sync⟩
  ofParts?
    | ⟨id, [data], metadata, sync⟩ => some ⟨id, data, metadata, sync⟩
    | _ => none
  ofParts?_parts _ := rfl
  length_values _ := rfl
  parts_ofParts? := by
    rintro ⟨id, values, metadata, sync⟩ h
    match values, h with
    | [_], _ => exact ⟨_, rfl, rfl⟩
  fields_eq := by
    rintro ⟨id, data, _ | m, sync⟩ <;> rfl
  map_parts_ofRecord r := by
    have columns : Table.textData.requiredColumns.map DataColumn.name = ["data"] := rfl
    simp [Table.partsOf, columns, ConventionColumn.name, DataColumn.name]
  memberNames_eq := rfl

instance : Shape BinaryBlob where
  table := .binaryData
  fields x := Fields.empty
    |>.insert "data" x.data
    |>.insertOpt "metadata" x.metadata
  ofRecord r := do
    let id ← Table.binaryData.requiredText r "id"
    let data ← Table.binaryData.requiredText r "data"
    return ⟨id, data, r.get? "metadata", SyncMark.ofRecord r⟩
  memberNames := ["id", "data", "metadata", "sync"]
  parts x := ⟨x.id, [x.data], x.metadata, x.sync⟩
  ofParts?
    | ⟨id, [data], metadata, sync⟩ => some ⟨id, data, metadata, sync⟩
    | _ => none
  ofParts?_parts _ := rfl
  length_values _ := rfl
  parts_ofParts? := by
    rintro ⟨id, values, metadata, sync⟩ h
    match values, h with
    | [_], _ => exact ⟨_, rfl, rfl⟩
  fields_eq := by
    rintro ⟨id, data, _ | m, sync⟩ <;> rfl
  map_parts_ofRecord r := by
    have columns : Table.binaryData.requiredColumns.map DataColumn.name = ["data"] := rfl
    simp [Table.partsOf, columns, ConventionColumn.name, DataColumn.name]
  memberNames_eq := rfl

instance : Shape Card where
  table := .cardData
  fields x := Fields.empty
    |>.insert "number" x.number
    |>.insert "holder" x.holder
    |>.insert "expiry" x.expiry
    |>.insert "cvv" x.cvv
    |>.insertOpt "metadata" x.metadata
  ofRecord r := do
    let id ← Table.cardData.requiredText r "id"
    let number ← Table.cardData.requiredText r "number"
    let holder ← Table.cardData.requiredText r "holder"
    let expiry ← Table.cardData.requiredText r "expiry"
    let cvv ← Table.cardData.requiredText r "cvv"
    return ⟨id, number, holder, expiry, cvv, r.get? "metadata", SyncMark.ofRecord r⟩
  memberNames := ["id", "number", "holder", "expiry", "cvv", "metadata", "sync"]
  parts x := ⟨x.id, [x.number, x.holder, x.expiry, x.cvv], x.metadata, x.sync⟩
  ofParts?
    | ⟨id, [number, holder, expiry, cvv], metadata, sync⟩ =>
      some ⟨id, number, holder, expiry, cvv, metadata, sync⟩
    | _ => none
  ofParts?_parts _ := rfl
  length_values _ := rfl
  parts_ofParts? := by
    rintro ⟨id, values, metadata, sync⟩ h
    match values, h with
    | [_, _, _, _], _ => exact ⟨_, rfl, rfl⟩
  fields_eq := by
    rintro ⟨id, number, holder, expiry, cvv, _ | m, sync⟩ <;> rfl
  map_parts_ofRecord r := by
    have columns : Table.cardData.requiredColumns.map DataColumn.name =
        ["number", "holder", "expiry", "cvv"] := rfl
    simp [Table.partsOf, columns, ConventionColumn.name, DataColumn.name]
  memberNames_eq := rfl

namespace Shape

variable {α : Type} [Shape α]

/-- The table that the shape is a view of. -/
def tableOf (α : Type) [Shape α] : Table := Shape.table α

/-- The id of the record. -/
def entryId (x : α) : String := (parts x).id

/-! ### Field values -/

/-- The columns of a write with their values. -/
def columnValues (x : α) : List (DataColumn × String) := (parts x).columnValues (tableOf α)

/-! ### Records -/

theorem parts_injective {x y : α} (h : parts x = parts y) : x = y := by
  have made := ofParts?_parts x
  rw [h, ofParts?_parts] at made
  exact (Option.some.inj made).symm

/-- A record gives a typed record exactly when it has its parts. -/
theorem ofRecord_eq_ok_iff_partsOf {r : Record} {x : α} :
    ofRecord r = .ok x ↔ (tableOf α).partsOf r = .ok (parts x) := by
  rw [tableOf, ← map_parts_ofRecord]
  cases (ofRecord r : Except StoreError α) with
  | error e => simp [Functor.map, Except.map]
  | ok y =>
    simp only [Functor.map, Except.map, Except.ok.injEq]
    exact ⟨congrArg parts, parts_injective⟩

theorem ofRecord_eq_error_iff_partsOf {r : Record} {e : StoreError} :
    (ofRecord r : Except StoreError α) = .error e ↔ (tableOf α).partsOf r = .error e := by
  rw [tableOf, ← map_parts_ofRecord]
  cases (ofRecord r : Except StoreError α) <;> simp [Functor.map, Except.map]

/-! ### JSON -/

/-- The values of the members that parts are, in order. -/
def memberValues (p : Parts) : List Json :=
  .str p.id :: p.values.map Json.str ++ [Record.valueJson p.metadata, p.sync.toJson]

/-- The shape as a JSON object. -/
def toJson (x : α) : Json := .obj ((memberNames α).zip (memberValues (parts x)))

/-- The text of a member that must be there. -/
def textOfJson? (v : Option Json) : Option String := v.bind Json.text?

/-- The text of a member that may be null or left out. -/
def optionalTextOfJson? : Option Json → Option (Option String)
  | none => some none
  | some v => v.optionalText?

/-- The sync mark of a member that may be left out. -/
def syncOfJson? : Option Json → Option SyncMark
  | none => some {}
  | some v => SyncMark.ofJson? v

/-- The parts that declared members give: an id, `count` texts, metadata and a sync mark. -/
def partsOfMembers? (count : Nat) : List (Option Json) → Option Parts
  | [] => none
  | id :: ms => do
    let id ← textOfJson? id
    let values ← (ms.take count).mapM textOfJson?
    match ms.drop count with
    | [metadata, sync] => some ⟨id, values, ← optionalTextOfJson? metadata, ← syncOfJson? sync⟩
    | _ => none

/-- The shape that a JSON value is. In an array only the last member, the sync mark, may be left
out. -/
def ofJson? (v : Json) : Option α := do
  let names := memberNames α
  let ms ← v.readMembers? names (names.length - 1)
  let p ← partsOfMembers? (tableOf α).requiredColumns.length ms
  ofParts? p

end Shape
end RecordSync
