import RecordSync.Session
import RecordSync.Shape

/-!
# The record engine

One set of calls serves all tables. A write checks its arguments first (user id, record id, field
keys, in this order) and asks the store at most once; an update without fields asks nothing. A read
asks the catalog for the table's columns, checks them, and then asks for the rows.

Key definitions: `Engine.add`, `Engine.update`, `Engine.delete`, `Engine.tableColumns`,
`Engine.readAll`, `Engine.addShape`, `Engine.updateShape`, `Engine.readShapes`.
-/
namespace RecordSync
namespace Engine

/-! ### Arguments -/

/-- Refuses the record id that no record has. -/
def requireEntryId (id : String) : Except ValidationError Unit :=
  if id = "" then .error (.empty "entry_id") else .ok ()

/-- Accepts whose record it is, and which. -/
def checkAddress (user : UserId) (id : String) : Except ValidationError UserId := do
  let user ← user.requireSet
  requireEntryId id
  .ok user

/-- Accepts the arguments of a write with fields: the user, and the columns with their values. -/
def checkWrite (t : Table) (user : UserId) (id : String) (fields : Fields) :
    Except ValidationError (UserId × List (DataColumn × String)) := do
  let user ← checkAddress user id
  let values ← t.resolve fields
  .ok (user, values)

/-! ### Writes -/

/-- Adds a record; gives the number of rows written. -/
def add (l : Limits) (t : Table) (user : UserId) (id : String) (fields : Fields) : Call Nat := do
  let (user, values) ← Call.ofValidation (checkWrite t user id fields)
  Session.execute l "add record" (Query.insert t user id values)

/-- Changes the given columns of a record; gives the number of rows written. Without any column
nothing is asked of the store. -/
def update (l : Limits) (t : Table) (user : UserId) (id : String) (fields : Fields) :
    Call Nat := do
  let (user, values) ← Call.ofValidation (checkWrite t user id fields)
  if values.isEmpty then
    Session.check l "update record"
    pure 0
  else Session.execute l "update record" (Query.update t user id values)

/-- Marks a record as deleted; gives the number of rows written. -/
def delete (l : Limits) (t : Table) (user : UserId) (id : String) : Call Nat := do
  let user ← Call.ofValidation (checkAddress user id)
  Session.execute l "delete record" (Query.delete t user id)

/-! ### Reads -/

/-- The columns of a table as the catalog reports them. -/
def tableColumns (l : Limits) (t : Table) : Call (List String) := do
  let rows ← Session.fetch l "get table columns" (Query.columns t)
  let names ← Call.ofClient "get table columns" (Row.scalars Row.textScalar rows)
  match Catalog.check names with
  | .ok () => pure names
  | .error fault => Call.fail (.schemaMismatch t.name (fault.reason t))

/-- The records of a user, if asked for only those written after a time, and with or without those
marked as deleted. -/
def readAll (l : Limits) (t : Table) (user : UserId) (since : Option Instant)
    (includeDeleted : Bool) : Call (List Record) := do
  let names ← tableColumns l t
  let rows ← Session.fetch l "get all records" (Query.select t names user since includeDeleted)
  Call.ofExcept (Row.toRecords rows)

/-! ### Typed records -/

/-- Adds a typed record. -/
def addShape {α : Type} [Shape α] (l : Limits) (user : UserId) (x : α) : Call Nat :=
  add l (Shape.tableOf α) user (Shape.entryId x) (Shape.fields x)

/-- Changes a typed record; metadata that it does not have stays as it is. -/
def updateShape {α : Type} [Shape α] (l : Limits) (user : UserId) (x : α) : Call Nat :=
  update l (Shape.tableOf α) user (Shape.entryId x) (Shape.fields x)

/-- The shapes of records, or the failure of the first record that has one. -/
def shapesOf {α : Type} [Shape α] : List Record → Except StoreError (List α)
  | [] => .ok []
  | r :: rs => do
    let x ← Shape.ofRecord r
    let xs ← shapesOf rs
    .ok (x :: xs)

/-- The typed records of a user. -/
def readShapes (α : Type) [Shape α] (l : Limits) (user : UserId) (since : Option Instant)
    (includeDeleted : Bool) : Call (List α) := do
  let records ← readAll l (Shape.tableOf α) user since includeDeleted
  Call.ofExcept (shapesOf records)

end Engine
end RecordSync
