import RecordSync.Config.Basic
import RecordSync.Session

/-!
# Migrations

The schema is brought up to date by migrations, numbered statements that each run once. They are
built in, or come from a directory whose files are named `<version>_<description>.sql`; files of
other names do not count, and files that end in `.down.sql` are known but never run. Nothing runs if
an earlier run was left half done, or if the store has applied a migration that is not known.

Key definitions: `Migration`, `Migration.builtIn`, `Migration.ofFiles?`, `Migration.run`,
`Migration.apply`.
-/
namespace RecordSync

/-- A numbered change of the schema. -/
structure Migration where
  version : Int
  description : String
  sql : String
  /-- Whether it undoes a change, and so never runs. -/
  reverts : Bool := false
  deriving DecidableEq, Repr

namespace Migration

/-! ### The built-in migrations -/

/-- Lines of a file, each with its end. -/
def sqlLines : List String → String
  | [] => ""
  | l :: ls => l ++ "\n" ++ sqlLines ls

/-- Creates the table of users. -/
def createUsers : Migration where
  version := 1
  description := "create users"
  sql := sqlLines [
    "CREATE TABLE IF NOT EXISTS users (",
    "    id SERIAL PRIMARY KEY,",
    "    username TEXT NOT NULL UNIQUE,",
    "    password_hash TEXT NOT NULL,",
    "    created_at TIMESTAMPTZ NOT NULL DEFAULT NOW()",
    ");"]

/-- Creates the synchronized tables. -/
def createRecords : Migration where
  version := 2
  description := "create records"
  sql := sqlLines [
    "-- Every synchronized table follows the same convention:",
    "-- id, user_id, <domain columns>, updated_at, deleted.",
    "",
    "CREATE TABLE IF NOT EXISTS Credentials (",
    "    id TEXT PRIMARY KEY,",
    "    user_id INTEGER NOT NULL REFERENCES users(id),",
    "    login TEXT,",
    "    password TEXT,",
    "    metadata TEXT,",
    "    updated_at TIMESTAMPTZ NOT NULL DEFAULT NOW(),",
    "    deleted BOOLEAN NOT NULL DEFAULT FALSE",
    ");",
    "",
    "CREATE TABLE IF NOT EXISTS TextData (",
    "    id TEXT PRIMARY KEY,",
    "    user_id INTEGER NOT NULL REFERENCES users(id),",
    "    data TEXT,",
    "    metadata TEXT,",
    "    updated_at TIMESTAMPTZ NOT NULL DEFAULT NOW(),",
    "    deleted BOOLEAN NOT NULL DEFAULT FALSE",
    ");",
    "",
    "CREATE TABLE IF NOT EXISTS BinaryData (",
    "    id TEXT PRIMARY KEY,",
    "    user_id INTEGER NOT NULL REFERENCES users(id),",
    "    data TEXT,",
    "    metadata TEXT,",
    "    updated_at TIMESTAMPTZ NOT NULL DEFAULT NOW(),",
    "    deleted BOOLEAN NOT NULL DEFAULT FALSE",
    ");",
    "",
    "CREATE TABLE IF NOT EXISTS CardData (",
    "    id TEXT PRIMARY KEY,",
    "    user_id INTEGER NOT NULL REFERENCES users(id),",
    "    number TEXT,",
    "    holder TEXT,",
    "    expiry TEXT,",
    "    cvv TEXT,",
    "    metadata TEXT,",
    "    updated_at TIMESTAMPTZ NOT NULL DEFAULT NOW(),",
    "    deleted BOOLEAN NOT NULL DEFAULT FALSE",
    ");",
    "",
    "CREATE INDEX IF NOT EXISTS idx_credentials_user_updated ON Credentials(user_id, updated_at);",
    "CREATE INDEX IF NOT EXISTS idx_textdata_user_updated ON TextData(user_id, updated_at);",
    "CREATE INDEX IF NOT EXISTS idx_binarydata_user_updated ON BinaryData(user_id, updated_at);",
    "CREATE INDEX IF NOT EXISTS idx_carddata_user_updated ON CardData(user_id, updated_at);"]

/-- The built-in migrations, in the order of their versions. -/
def builtIn : List Migration := [createUsers, createRecords]

/-! ### Migrations of a directory -/

/-- The name of a file: what stands before the first underscore, and what after it. -/
def splitName? : List Char → Option (List Char × List Char)
  | [] => none
  | c :: cs => if c = '_' then some ([], cs) else (splitName? cs).map fun p => (c :: p.1, p.2)

/-- Whether a text ends in another. -/
def endsIn (cs ending : List Char) : Bool := ending.isSuffixOf cs

/-- The description in a file name, with a space for each underscore. -/
def describe (rest : List Char) : String :=
  String.ofList ((rest.take (rest.length - 4)).map fun c => if c = '_' then ' ' else c)

/-- The migration of a file: `some none` if the file does not count, and nothing if its version is
no whole number of 64 bits. -/
def ofFile? (name sql : String) : Option (Option Migration) :=
  match splitName? name.toList with
  | none => some none
  | some (version, rest) =>
    if endsIn rest ".sql".toList then
      (Decimal.readSigned? (-9223372036854775808) 9223372036854775807 (String.ofList version)).map
        fun v => some ⟨v, describe rest, sql, endsIn rest ".down.sql".toList⟩
    else some none

/-- The migrations with one more, after those of no greater version. -/
def insertByVersion (m : Migration) : List Migration → List Migration
  | [] => [m]
  | n :: ns => if m.version < n.version then m :: n :: ns else n :: insertByVersion m ns

/-- The migrations of files, in the order of their versions. -/
def ofFiles? (files : List (String × String)) : Option (List Migration) := do
  let found ← files.mapM fun f => ofFile? f.1 f.2
  some ((found.filterMap id).foldl (fun ms m => insertByVersion m ms) [])

/-- The directories that there are, each with its files. -/
abbrev Directories := List (String × List (String × String))

/-- The migrations of a directory, or the built-in ones if none is given. -/
def resolve (dirs : Directories) : Option String → Except MigrationError (List Migration)
  | none => .ok builtIn
  | some dir =>
    match dirs.find? fun d => d.1 == dir with
    | none => .error (.source "No such file or directory (os error 2)")
    | some d =>
      match ofFiles? d.2 with
      | some ms => .ok ms
      | none => .error (.source "a file name does not start with a version")

/-! ### Running migrations -/

/-- The first applied migration that is not known. -/
def firstUnknown? (known : List Migration) (applied : List AppliedMigration) :
    Option AppliedMigration :=
  applied.find? fun a => !(known.map Migration.version).contains a.version

/-- What stands in the way of all migrations. -/
def obstacle? (known : List Migration) (s : SchemaState) : Option MigrationError :=
  match s.lockFailure with
  | some e => some (.run e)
  | none =>
    match s.dirty with
    | some v => some (.dirty v)
    | none => (firstUnknown? known s.applied).map fun a => .missing a.version

/-- What the store knows of a version that it has applied; of several entries the last counts. -/
def appliedAs? (s : SchemaState) (version : Int) : Option AppliedMigration :=
  s.applied.findRev? fun a => a.version == version

/-- Runs the migrations that are not applied yet: gives those that were started, and the error that
ended the run, if one did. -/
def runAll (s : SchemaState) : List Migration → List Int × Option MigrationError
  | [] => ([], none)
  | m :: ms =>
    if m.reverts then runAll s ms
    else
      match appliedAs? s m.version with
      | some a => if a.modified then ([], some (.modified m.version)) else runAll s ms
      | none =>
        match s.failure with
        | some (v, e) =>
          if v = m.version then ([m.version], some (.step m.version e))
          else (m.version :: (runAll s ms).1, (runAll s ms).2)
        | none => (m.version :: (runAll s ms).1, (runAll s ms).2)

/-- The call that fails because of migrations. -/
def failWith {α : Type} (e : MigrationError) : Call α := Call.fail (.migration e)

/-- Brings the schema up to date with known migrations. -/
def run (known : List Migration) : Call Unit := do
  let s ← get
  match s.acquire with
  | .error e => failWith (.run e)
  | .ok () =>
    match obstacle? known s.schema with
    | some e => failWith e
    | none =>
      let (started, error) := runAll s.schema known
      set { s with log := s.log ++ started.map Event.migration }
      match error with
      | some e => failWith e
      | none => pure ()

/-- Brings the schema up to date with the migrations of a directory, or the built-in ones. -/
def apply (dirs : Directories) (dir : Option String) : Call Unit := do
  match resolve dirs dir with
  | .error e => failWith e
  | .ok known => run known

end Migration
end RecordSync
