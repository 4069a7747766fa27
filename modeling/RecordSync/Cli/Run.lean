import RecordSync.Accounts
import RecordSync.Cli.Arguments
import RecordSync.Cli.Display
import RecordSync.Cli.Report
import RecordSync.Config.Layers
import RecordSync.Engine
import RecordSync.Lifecycle

/-!
# Running commands

A command is a task: it makes calls on the store, and comes to a text or to a report. A command that
opens the store closes it again whatever comes of it. A run reads the command line, finds the
settings, carries out the command, and ends with an exit code and what it has printed.

Key definitions: `Cli.Task`, `Cli.closing`, `Cli.Command.run`, `Cli.Exit`, `Cli.perform`.
-/
namespace RecordSync
namespace Cli

/-! ### Tasks -/

/-- Why a task came to nothing, and what it had printed by then. -/
structure Failure where
  printed : String := ""
  report : Report
  deriving DecidableEq, Repr

/-- A sequence of calls whose failures are reported. -/
abbrev Task (α : Type) := ExceptT Failure Call α

/-- A call in a task; `failure` reports what makes it fail. -/
def attemptWith {α : Type} (failure : StoreError → Failure) (c : Call α) : Task α :=
  ExceptT.mk <| tryCatch (Except.ok <$> c) fun
    | .failed e => pure (.error (failure e))
    | .waiting => throw .waiting

/-- A call in a task; a heading says what cannot be done if it fails. -/
def attempt {α : Type} (heading : String) (c : Call α) : Task α :=
  attemptWith (fun e => { report := Report.ofStore heading e }) c

/-- A task after which the store is closed, whatever comes of it. -/
def closing {α : Type} (t : Task α) : Task α :=
  ExceptT.mk do
    let result ← t.run
    let _ ← Lifecycle.close
    pure result

/-! ### The store's health -/

/-- The failure of a probe to which nothing answers. -/
def unreachable (detail : String) : Failure :=
  { printed := line "unreachable", report := { heading := "database unreachable" ++ detail } }

/-- The failure of a probe that gets no connection. -/
def probeFailure (e : StoreError) : Failure :=
  if e.isTransient then unreachable (": " ++ e.text)
  else { report := Report.ofStore "Failed to connect to database" e }

/-- Probes the store without touching the schema. -/
def runPing (env : Surroundings) (c : Config) : Task String := do
  attemptWith probeFailure (Lifecycle.attach env.network c)
  let alive ← closing (liftM Lifecycle.ping)
  if alive then pure (line "ok") else throw (unreachable "")

/-- Brings the schema up to date; every failure counts, whatever the settings say. -/
def runMigrate (env : Surroundings) (c : Config) : Task String := do
  attempt "Failed to connect to database" (Lifecycle.attach env.network c)
  closing (attempt "Migration failed" (Lifecycle.migrate env c.migrationsDir))
  pure (line "migrations applied")

/-- A table with its columns, or with the reason why they are not known. -/
def tableLine (t : Table) : Call String :=
  let about (s : String) : String := line (t.name ++ ": " ++ s)
  tryCatch ((fun names => about (String.intercalate ", " names)) <$> Engine.tableColumns {} t) fun
    | .failed e => pure (about e.text)
    | .waiting => throw .waiting

/-- The lines of tables. -/
def tableLines : List Table → Call String
  | [] => pure ""
  | t :: ts => do
    let first ← tableLine t
    let rest ← tableLines ts
    pure (first ++ rest)

/-! ### Users and records -/

/-- Registers a user. -/
def runAddUser (name hash : String) : Task String := do
  let id ← attempt ("Failed to add user '" ++ name ++ "'") (Accounts.addUser {} name hash)
  pure (line id.text)

/-- Shows a user. -/
def runShowUser (name : String) (json : Bool) : Task String := do
  let u ← attempt ("Failed to look up '" ++ name ++ "'") (Accounts.user {} name)
  pure (userText json u)

/-- The id of the user whose records are meant. -/
def resolveUser (name : String) : Task UserId :=
  attempt ("Failed to resolve user '" ++ name ++ "'") (Accounts.userId {} name)

/-- Lists records of a user. -/
def runListRecords (t : Table) (name : String) (since : Option Instant)
    (includeDeleted json : Bool) : Task String := do
  let user ← resolveUser name
  let rs ← attempt ("Failed to read " ++ t.name ++ " records")
    (Engine.readAll {} t user since includeDeleted)
  pure (recordList json rs)

/-- Marks a record of a user as deleted. -/
def runDeleteRecord (t : Table) (name id : String) : Task String := do
  let user ← resolveUser name
  let affected ← attempt ("Failed to delete " ++ t.name ++ " '" ++ id ++ "'")
    (Engine.delete {} t user id)
  if affected = 0 then pure (line ("no record '" ++ id ++ "' for user '" ++ name ++ "'"))
  else pure (line ("deleted " ++ id))

/-! ### Commands -/

/-- Opens the store for a task and closes it afterwards. -/
def withStore {α : Type} (env : Surroundings) (c : Config) (t : Task α) : Task α := do
  attempt "Failed to open keepsync store" (Lifecycle.openConfigured env c)
  closing t

/-- Carries out a command. -/
def Command.run (env : Surroundings) (c : Config) : Command → Task String
  | .ping => runPing env c
  | .migrate => runMigrate env c
  | .tables => withStore env c (liftM (tableLines Table.all))
  | .addUser name hash => withStore env c (runAddUser name hash)
  | .showUser name json => withStore env c (runShowUser name json)
  | .listRecords t user since includeDeleted json =>
    withStore env c (runListRecords t user since includeDeleted json)
  | .deleteRecord t user id => withStore env c (runDeleteRecord t user id)

/-- Finds the settings and carries out the command of a request. -/
def Request.run (env : Surroundings) (sources : Config.Sources) (r : Request) : Task String :=
  match sources.load r.databaseUrl with
  | .ok c => r.command.run env c
  | .error e => throw { report := ⟨e.text, e.causes⟩ }

/-! ### Runs -/

/-- How a run ends. -/
structure Exit where
  code : UInt8
  output : String := ""
  errors : String := ""
  deriving DecidableEq, Repr

namespace Exit

/-- The warning that there is nothing to export traces with. -/
def otelWarning : String :=
  line "warning: --otel ignored, keepsync was built without the telemetry feature"

/-- The end of a run that reads no request. -/
def ofStop : Stop → Exit
  | .version => { code := 0, output := line "keepsync 0.1.0" }
  | .help l => { code := 0, output := line l.description }
  | .misuse e => { code := 2, errors := e.text }

/-- The end of a run that carries out a request. -/
def ofResult (r : Request) (result : Except Failure String) : Exit :=
  let warning := if r.otel then otelWarning else ""
  match result with
  | .ok output => { code := 0, output := output, errors := warning }
  | .error f => { code := 1, output := f.printed, errors := warning ++ line f.report.text }

end Exit

/-- A run of the program. -/
def perform (env : Surroundings) (sources : Config.Sources) (args : List String) : Call Exit :=
  match readArguments args with
  | .error stop => pure (Exit.ofStop stop)
  | .ok r => do
    let result ← (r.run env sources).run
    pure (Exit.ofResult r result)

end Cli
end RecordSync
