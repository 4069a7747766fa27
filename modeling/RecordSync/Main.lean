import RecordSync.Cli.Run

/-!
# The program

The outer layer finds the variables and the files, hands them to `Cli.perform`, and prints what
comes of it. No database client belongs to the library, so no address leads to a store here.
-/
namespace RecordSync
namespace Main

/-- The variables of the process of given names. -/
def readVariables (names : List String) : IO Config.Environment := do
  let found ← names.filterMapM fun name => do
    pure ((← IO.getEnv name).map fun value => (name, value))
  pure fun name => found.lookup name

/-- The names of the variables that matter: the settings, and what files of variables name. -/
def relevantNames (files : List String) : List String :=
  Config.variableNames ++ files.flatMap fun text => Dotenv.names (Dotenv.definitions text)

/-- What is found at a path. -/
def readState (path : String) : IO FileState := do
  try
    pure (.text (← IO.FS.readFile path))
  catch e =>
    match e with
    | .noFileOrDirectory .. => pure .absent
    | e => pure (.unreadable (toString e))

/-- The contents of a file, if it can be read. -/
def readContents (path : String) : IO (Option String) := do
  match ← readState path with
  | .text contents => pure (some contents)
  | _ => pure none

/-- Where this run finds its settings. -/
def readSources : IO Config.Sources := do
  let home ← IO.getEnv "HOME"
  let workingVariables ← readContents ".env"
  let homeVariables ← match home with
    | none => pure none
    | some home => readContents (home ++ "/.keepsync/.env")
  let files := workingVariables.toList ++ homeVariables.toList
  let process ← readVariables (relevantNames files)
  let found : Config.Sources := { process, workingVariables, homeVariables }
  match home with
  | none => pure found
  | some home => do
    let path := home ++ "/.keepsync/config.toml"
    pure { found with path, file := ← readState path }

end Main
end RecordSync

open RecordSync

/-- Runs the program; the exit code is 1 if it cannot come to an end. -/
def main (args : List String) : IO UInt32 := do
  let sources ← Main.readSources
  match ((Cli.perform {} sources args).run { pool := { reachable := false } }).1 with
  | .ok exit => do
    IO.print exit.output
    IO.eprint exit.errors
    pure exit.code.toUInt32
  | .error _ => pure 1
