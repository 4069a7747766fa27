import RecordSync.Validation

/-!
# Failures

A call fails with a `StoreError`. What the database client reports (`ClientError`) is sorted once,
by `StoreError.classify`: a broken constraint, a lost or unavailable connection, anything else. An
error keeps what it was caused by, so that a report can give the whole chain.

Key definitions: `ClientError`, `MigrationError`, `StoreError`, `StoreError.classify`,
`StoreError.code`, `StoreError.text`, `StoreError.causes`, `StoreError.isTransient`.
-/
namespace RecordSync

/-- Which rule of the schema a statement broke. -/
inductive Violation where
  | unique
  | foreignKey
  | notNull
  | check
  /-- Any other error of the database. -/
  | other
  deriving DecidableEq, Repr

/-- The rule that an SQL state code stands for. -/
def Violation.ofCode (code : String) : Violation :=
  if code = "23505" then .unique
  else if code = "23503" then .foreignKey
  else if code = "23502" then .notNull
  else if code = "23514" then .check
  else .other

/-- What the database client reports. -/
inductive ClientError where
  | configuration (message : String)
  | invalidArgument (message : String)
  | database (violation : Violation) (message : String)
  | io (message : String)
  | tls (message : String)
  | protocol (message : String)
  | rowNotFound
  | typeNotFound (typeName : String)
  | columnIndexOutOfBounds (index len : Nat)
  | columnNotFound (column : String)
  | columnDecode (column message : String)
  | encode (message : String)
  | decode (message : String)
  | driver (message : String)
  | poolTimedOut
  | poolClosed
  | workerCrashed
  | migrationMissing (version : Int)
  | beginFailed
  | nestedBegin
  deriving DecidableEq, Repr

namespace ClientError

/-- What is said of a migration that is no longer known. -/
def missingText (version : Int) : String :=
  "migration " ++ Decimal.write version ++
    " was previously applied but is missing in the resolved migrations"

/-- What is said about the error. -/
def text : ClientError → String
  | .configuration m => "error with configuration: " ++ m
  | .invalidArgument m => m
  | .database _ m => "error returned from database: " ++ m
  | .io m => "error communicating with database: " ++ m
  | .tls m => "error occurred while attempting to establish a TLS connection: " ++ m
  | .protocol m => "encountered unexpected or invalid data: " ++ m
  | .rowNotFound => "no rows returned by a query that expected to return at least one row"
  | .typeNotFound t => "type named " ++ t ++ " not found"
  | .columnIndexOutOfBounds index len =>
    "column index out of bounds: the len is " ++ Decimal.writeNat len ++ ", but the index is " ++
      Decimal.writeNat index
  | .columnNotFound c => "no column found for name: " ++ c
  | .columnDecode c m => "error occurred while decoding column " ++ c ++ ": " ++ m
  | .encode m => "error occurred while encoding a value: " ++ m
  | .decode m => "error occurred while decoding: " ++ m
  | .driver m => "error in Any driver mapping: " ++ m
  | .poolTimedOut => "pool timed out while waiting for an open connection"
  | .poolClosed => "attempted to acquire a connection on a closed pool"
  | .workerCrashed => "attempted to communicate with a crashed background worker"
  | .migrationMissing v => missingText v
  | .beginFailed => "got unexpected connection status after attempting to begin transaction"
  | .nestedBegin => "attempted to call begin_with at non-zero transaction depth"

/-- The texts of what the error was caused by, nearest first. -/
def causes : ClientError → List String
  | .configuration m => [m]
  | .database _ m => [m]
  | .io m => [m]
  | .tls m => [m]
  | .columnDecode _ m => [m]
  | .encode m => [m]
  | .decode m => [m]
  | .driver m => [m]
  | .migrationMissing v => [missingText v]
  | _ => []

end ClientError

/-- Why the schema could not be brought up to date. -/
inductive MigrationError where
  /-- Something around the migrations failed. -/
  | run (cause : ClientError)
  /-- A migration failed. -/
  | step (version : Int) (cause : ClientError)
  /-- The migrations could not be listed. -/
  | source (message : String)
  /-- An applied migration is not among the known ones. -/
  | missing (version : Int)
  /-- An applied migration was another one when it ran. -/
  | modified (version : Int)
  /-- A migration was left half done. -/
  | dirty (version : Int)
  deriving DecidableEq, Repr

namespace MigrationError

/-- What is said about the error. -/
def text : MigrationError → String
  | .run e => "while executing migrations: " ++ e.text
  | .step v e => "while executing migration " ++ Decimal.write v ++ ": " ++ e.text
  | .source m => "while resolving migrations: " ++ m
  | .missing v => ClientError.missingText v
  | .modified v =>
    "migration " ++ Decimal.write v ++ " was previously applied but has been modified"
  | .dirty v =>
    "migration " ++ Decimal.write v ++
      " is partially applied; fix and remove row from `_sqlx_migrations` table"

/-- The texts of what the error was caused by, nearest first. -/
def causes : MigrationError → List String
  | .run e => e.text :: e.causes
  | .step _ e => e.text :: e.causes
  | .source m => [m]
  | _ => []

end MigrationError

/-- Why a call fails. Most failures name the operation that was under way. -/
inductive StoreError where
  /-- A setting is missing or cannot be used. -/
  | configuration (message : String)
  /-- The store cannot be reached, or not any more. -/
  | connectionFailed (op : String) (cause : ClientError)
  /-- A lookup gave no row. -/
  | notFound (resource key : String)
  /-- A write broke a rule of the schema. -/
  | constraintViolation (op : String) (cause : ClientError)
  /-- An argument was refused. -/
  | invalidArgument (reason : ValidationError)
  /-- The client reported anything else. -/
  | ioFailure (op : String) (cause : ClientError)
  /-- The catalog, or a row, is not as the tables' convention has it. -/
  | schemaMismatch (table reason : String)
  /-- A column has a type that is not read. -/
  | unsupportedDatatype (column typeName : String)
  /-- The call was cancelled. -/
  | cancelled (op : String)
  /-- The call outlived its deadline. -/
  | deadlineExceeded (op : String)
  /-- The schema could not be brought up to date. -/
  | migration (reason : MigrationError)
  deriving DecidableEq, Repr

namespace StoreError

/-- Sorts what the client reported during an operation. -/
def classify (op : String) (e : ClientError) : StoreError :=
  match e with
  | .database .other _ => .ioFailure op e
  | .database _ _ => .constraintViolation op e
  | .io _ | .tls _ | .poolTimedOut | .poolClosed | .workerCrashed => .connectionFailed op e
  | _ => .ioFailure op e

/-- The code that machines go by. -/
def code : StoreError → String
  | .configuration _ => "CONFIGURATION_ERROR"
  | .connectionFailed _ _ => "CONNECTION_FAILED"
  | .notFound _ _ => "NOT_FOUND"
  | .constraintViolation _ _ => "CONSTRAINT_VIOLATION"
  | .invalidArgument _ => "INVALID_ARGUMENT"
  | .ioFailure _ _ => "IO_FAILURE"
  | .schemaMismatch _ _ => "SCHEMA_MISMATCH"
  | .unsupportedDatatype _ _ => "UNSUPPORTED_DATATYPE"
  | .cancelled _ => "CANCELLED"
  | .deadlineExceeded _ => "DEADLINE_EXCEEDED"
  | .migration _ => "MIGRATION_FAILED"

/-- Whether the same call may well succeed later. -/
def isTransient : StoreError → Bool
  | .connectionFailed _ _ => true
  | .deadlineExceeded _ => true
  | _ => false

/-- What is said about the error. -/
def text : StoreError → String
  | .configuration m => "configuration error: " ++ m
  | .connectionFailed op e => op ++ ": connection failed: " ++ e.text
  | .notFound resource key => "not found: " ++ resource ++ " '" ++ key ++ "'"
  | .constraintViolation op e => op ++ ": constraint violation: " ++ e.text
  | .invalidArgument e => "invalid argument: " ++ e.text
  | .ioFailure op e => op ++ ": " ++ e.text
  | .schemaMismatch table reason => "schema mismatch for table " ++ table ++ ": " ++ reason
  | .unsupportedDatatype column typeName =>
    "unsupported datatype " ++ typeName ++ " in column " ++ column
  | .cancelled op => op ++ ": operation cancelled"
  | .deadlineExceeded op => op ++ ": deadline exceeded"
  | .migration e => "migration failed: " ++ e.text

/-- The texts of what the error was caused by, nearest first. -/
def causes : StoreError → List String
  | .connectionFailed _ e => e.text :: e.causes
  | .constraintViolation _ e => e.text :: e.causes
  | .invalidArgument e => [e.text]
  | .ioFailure _ e => e.text :: e.causes
  | .migration e => e.text :: e.causes
  | _ => []

end StoreError
end RecordSync
