import RecordSync.Session

/-!
# User accounts

Users are registered once and looked up by name. A lookup that finds no one fails, except for
`Accounts.userExists`, which says so.

Key definitions: `Accounts.userExists`, `Accounts.addUser`, `Accounts.userId`,
`Accounts.passwordHash`, `Accounts.user`.
-/
namespace RecordSync
namespace Accounts

/-- Reads the first row, which has to be there. -/
def firstRow {α : Type} (read : Row → Except ClientError α) : List Row → Except ClientError α
  | [] => .error .rowNotFound
  | row :: _ => read row

/-- Reads the first row, if there is one. -/
def firstRow? {α : Type} (read : Row → Except ClientError α) :
    List Row → Except ClientError (Option α)
  | [] => .ok none
  | row :: _ => (read row).map some

/-- Asks for a value that is in the first row. -/
def fetchOne {α : Type} (l : Limits) (op : String) (q : Query)
    (read : Row → Except ClientError α) : Call α := do
  let rows ← Session.fetch l op q
  Call.ofClient op (firstRow read rows)

/-- Asks for what belongs to a user, whose name has to be found. -/
def lookup {α : Type} (l : Limits) (op : String) (name : String) (q : Query)
    (read : Row → Except ClientError α) : Call α := do
  let rows ← Session.fetch l op q
  match ← Call.ofClient op (firstRow? read rows) with
  | some x => pure x
  | none => Call.fail (.notFound "user" name)

/-- Whether there is a user of a name. -/
def userExists (l : Limits) (name : String) : Call Bool :=
  fetchOne l "user exists" (Query.userExists name) (Row.scalar Row.boolScalar)

/-- Accepts the name and the password hash of a new user. -/
def checkNew (name hash : String) : Except ValidationError Username := do
  let username ← Username.parse name
  if hash = "" then .error (.empty "password hash") else .ok username

/-- Registers a user; gives the new id. -/
def addUser (l : Limits) (name hash : String) : Call UserId := do
  let username ← Call.ofValidation (checkNew name hash)
  fetchOne l "add user" (Query.insertUser username hash) (Row.scalar Row.userIdScalar)

/-- The id of the user of a name. -/
def userId (l : Limits) (name : String) : Call UserId :=
  lookup l "get user id" name (Query.userId name) (Row.scalar Row.userIdScalar)

/-- The password hash of the user of a name. -/
def passwordHash (l : Limits) (name : String) : Call String :=
  lookup l "get password hash" name (Query.passwordHash name) (Row.scalar Row.textScalar)

/-- The user of a name. -/
def user (l : Limits) (name : String) : Call User :=
  lookup l "get user" name (Query.user name) Row.toUser

end Accounts
end RecordSync
