import RecordSync.Catalog
import RecordSync.Text.Quoted
import RecordSync.User

/-!
# Statements

A statement is what the store is asked to do. Values never stand in it: it refers to them by the
number of a placeholder, and a `Query` adds the values in the order of these numbers. The names of
tables and written columns are constants; only a read takes column names from outside, from the
catalog, and it quotes them.

Key definitions: `Bind`, `Statement`, `Statement.text`, `Query`, `Query.insert`, `Query.update`,
`Query.delete`, `Query.select`.
-/
namespace RecordSync

/-- A value that stands for a placeholder. -/
inductive Bind where
  | int (n : Int)
  | text (s : String)
  /-- A point in time, in microseconds since 1970. -/
  | time (micros : Int)
  deriving DecidableEq, Repr

/-- Something to ask of the store. The numbers are those of placeholders. -/
inductive Statement where
  /-- The column names of a table, by the table's name in the catalog. -/
  | columns (name : Nat)
  /-- A new row with values in some columns. -/
  | insert (t : Table) (values : List (Column × Nat))
  /-- New values in a user's row, and a later time of writing. -/
  | update (t : Table) (values : List (DataColumn × Nat)) (owner id : Nat)
  /-- The mark of deletion on a user's row, and a later time of writing. -/
  | delete (t : Table) (owner id : Nat)
  /-- The columns of a user's rows: without the deleted ones unless they are included, and those
  written after a time if one is given. -/
  | select (t : Table) (names : List String) (owner : Nat) (includeDeleted : Bool)
      (since : Option Nat)
  /-- Whether there is a user of a name. -/
  | userExists (name : Nat)
  /-- A new user; gives its id. -/
  | insertUser (name hash : Nat)
  /-- The id of the user of a name. -/
  | userId (name : Nat)
  /-- The password hash of the user of a name. -/
  | passwordHash (name : Nat)
  /-- All about the user of a name. -/
  | user (name : Nat)
  deriving DecidableEq, Repr

namespace Statement

/-- A placeholder as it stands in a statement. -/
def placeholder (n : Nat) : String := "$" ++ Decimal.writeNat n

/-- The columns that an update assigns, each followed by a comma. -/
def assignments : List (DataColumn × Nat) → String
  | [] => ""
  | v :: vs => v.1.name ++ " = " ++ placeholder v.2 ++ ", " ++ assignments vs

/-- The time of writing moves on, by a microsecond at least. -/
def stamp : String := "updated_at = GREATEST(now(), updated_at + interval '1 microsecond')"

/-- The condition that selects one row of a user. -/
def ownRow (owner id : Nat) : String :=
  " WHERE user_id = " ++ placeholder owner ++ " AND id = " ++ placeholder id

/-- The columns of a read, quoted. -/
def columnList (names : List String) : String := Text.commas (names.map Quoted.quote)

/-- The condition on the time of writing. -/
def sinceCondition : Option Nat → String
  | none => ""
  | some n => " AND updated_at > " ++ placeholder n

/-- The statement as the store takes it. -/
def text : Statement → String
  | .columns name =>
    "\n    SELECT column_name::text\n    FROM information_schema.columns\n" ++
    "    WHERE table_schema = current_schema() AND table_name = " ++ placeholder name ++
    "\n    ORDER BY ordinal_position\n"
  | .insert t values =>
    "INSERT INTO " ++ t.name ++ " (" ++ Text.commas (values.map fun v => v.1.name) ++
      ") VALUES (" ++ Text.commas (values.map fun v => placeholder v.2) ++ ")"
  | .update t values owner id =>
    "UPDATE " ++ t.name ++ " SET " ++ assignments values ++ stamp ++ ownRow owner id
  | .delete t owner id =>
    "UPDATE " ++ t.name ++ " SET deleted = TRUE, " ++ stamp ++ ownRow owner id
  | .select t names owner includeDeleted since =>
    "SELECT " ++ columnList names ++ " FROM " ++ t.name ++ " WHERE user_id = " ++
      placeholder owner ++ (if includeDeleted then "" else " AND deleted = FALSE") ++
      sinceCondition since ++ " ORDER BY updated_at, id"
  | .userExists name =>
    "SELECT EXISTS(SELECT 1 FROM users WHERE username = " ++ placeholder name ++ ")"
  | .insertUser name hash =>
    "INSERT INTO users (username, password_hash) VALUES (" ++ placeholder name ++ ", " ++
      placeholder hash ++ ") RETURNING id"
  | .userId name => "SELECT id FROM users WHERE username = " ++ placeholder name
  | .passwordHash name =>
    "SELECT password_hash FROM users WHERE username = " ++ placeholder name
  | .user name =>
    "SELECT id, username, password_hash, created_at FROM users WHERE username = " ++
      placeholder name

end Statement

/-- A statement with the values of its placeholders, which count from one. -/
structure Query where
  statement : Statement
  binds : List Bind
  deriving DecidableEq, Repr

namespace Query

/-- The columns with placeholders from a number on. -/
def numbered {α : Type} (first : Nat) : List α → List (α × Nat)
  | [] => []
  | x :: xs => (x, first) :: numbered (first + 1) xs

/-- Asks for the columns of a table. -/
def columns (t : Table) : Query := ⟨.columns 1, [.text t.catalogName]⟩

/-- Adds a record of a user. -/
def insert (t : Table) (user : UserId) (id : String) (values : List (DataColumn × String)) :
    Query where
  statement := .insert t (numbered 1
    (.convention .userId :: .convention .id :: values.map fun v => .data v.1))
  binds := .int user.value :: .text id :: values.map fun v => .text v.2

/-- Changes columns of a record of a user. -/
def update (t : Table) (user : UserId) (id : String) (values : List (DataColumn × String)) :
    Query where
  statement := .update t (numbered 1 (values.map Prod.fst)) (values.length + 1) (values.length + 2)
  binds := (values.map fun v => .text v.2) ++ [.int user.value, .text id]

/-- Marks a record of a user as deleted. -/
def delete (t : Table) (user : UserId) (id : String) : Query :=
  ⟨.delete t 1 2, [.int user.value, .text id]⟩

/-- Reads the records of a user. -/
def select (t : Table) (columns : List String) (user : UserId) (since : Option Instant)
    (includeDeleted : Bool) : Query where
  statement := .select t columns 1 includeDeleted (since.map fun _ => 2)
  binds := .int user.value :: (since.map fun s => Bind.time s.storedMicros).toList

/-- Asks whether there is a user of a name. -/
def userExists (name : String) : Query := ⟨.userExists 1, [.text name]⟩

/-- Adds a user. -/
def insertUser (name : Username) (hash : String) : Query :=
  ⟨.insertUser 1 2, [.text name.text, .text hash]⟩

/-- Asks for the id of a user. -/
def userId (name : String) : Query := ⟨.userId 1, [.text name]⟩

/-- Asks for the password hash of a user. -/
def passwordHash (name : String) : Query := ⟨.passwordHash 1, [.text name]⟩

/-- Asks for a user. -/
def user (name : String) : Query := ⟨.user 1, [.text name]⟩

end Query
end RecordSync
