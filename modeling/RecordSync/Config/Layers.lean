import RecordSync.Config.Basic
import RecordSync.Config.Dotenv
import RecordSync.Toml.Parser

/-!
# Layers of settings

The settings come from layers, each on top of the one before: the defaults, the settings file, the
variables, and an address that is given on the command line. The variables are those of the process
and those that two files of variables define one after the other; what is set first stays, and is
what later values refer to.

Key definitions: `Config.ofFile`, `Config.resolve`, `Config.Sources`, `Config.Sources.load`.
-/
namespace RecordSync

/-- What is found at a path. -/
inductive FileState where
  | absent
  | text (contents : String)
  /-- Something that cannot be read, and why not. -/
  | unreadable (reason : String)
  deriving DecidableEq, Repr

/-- Why there are no settings. -/
inductive SettingsError where
  | unreadableFile (path reason : String)
  | invalidFile (path : String)
  | invalidEnvironment (cause : StoreError)
  deriving DecidableEq, Repr

namespace SettingsError

/-- What is said about the error. -/
def text : SettingsError → String
  | .unreadableFile path _ => "Failed to read config file: " ++ path
  | .invalidFile path => "Invalid config file: " ++ path
  | .invalidEnvironment _ => "Invalid keepsync environment settings"

/-- The texts of what the error was caused by, nearest first. -/
def causes : SettingsError → List String
  | .unreadableFile _ reason => [reason]
  | .invalidFile _ => []
  | .invalidEnvironment e => e.text :: e.causes

end SettingsError

namespace Config

/-! ### The settings file -/

instance : SettingValue Toml.Value where
  text? := Toml.Value.text?
  optionalText? v := v.text?.map some
  int? := Toml.Value.int?
  variantName? := Toml.Value.variantName?
  readMembers? := Toml.Value.readMembers?

/-- The settings under the key `store` of a file; all else in it is left aside. -/
def ofToml? (entries : List (String × Toml.Value)) : Option Config :=
  memberOr {} ofValue? (entries.lookup "store")

/-- The settings of a file; one that is not there gives the defaults. -/
def ofFile (path : String) : FileState → Except SettingsError Config
  | .absent => .ok {}
  | .unreadable reason => .error (.unreadableFile path reason)
  | .text contents =>
    match (Toml.parse? contents).bind ofToml? with
    | some c => .ok c
    | none => .error (.invalidFile path)

/-! ### All layers -/

/-- The settings with an address on top, if one is given. -/
def withAddress (c : Config) (address : Option String) : Config :=
  { c with databaseUrl := address.getD c.databaseUrl }

/-- The settings of a file, the variables and an address that is given. -/
def resolve (path : String) (file : FileState) (env : Environment) (address : Option String) :
    Except SettingsError Config := do
  let base ← ofFile path file
  let c ← (base.mergeEnv env).mapError SettingsError.invalidEnvironment
  .ok (c.withAddress address)

/-! ### Variables from files -/

/-- The text of a value, given the variables that are set. -/
def Environment.expand (env : Environment) (value : List Dotenv.Part) : String :=
  String.ofList <| value.flatMap fun
    | .char c => [c]
    | .reference name => ((env name).getD "").toList

/-- The variables with one that is defined; what is set already stays. -/
def Environment.define (env : Environment) (d : Dotenv.Definition) : Environment :=
  match env d.name with
  | some _ => env
  | none => fun name => if name = d.name then some (env.expand d.value) else env name

/-- The variables with those of a file of variables, each defined in its turn. -/
def Environment.load (env : Environment) (file : Option String) : Environment :=
  (Dotenv.definitions (file.getD "")).foldl Environment.define env

/-- Where a run finds its settings. -/
structure Sources where
  /-- The variables of the process. -/
  process : Environment := fun _ => none
  /-- The file of variables in the working directory. -/
  workingVariables : Option String := none
  /-- The file of variables in the settings directory. -/
  homeVariables : Option String := none
  path : String := "~/.keepsync/config.toml"
  file : FileState := .absent

/-- The variables of the process and the files. -/
def Sources.environment (s : Sources) : Environment :=
  (s.process.load s.workingVariables).load s.homeVariables

/-- The settings that a run finds. -/
def Sources.load (s : Sources) (address : Option String) : Except SettingsError Config :=
  resolve s.path s.file s.environment address

end Config
end RecordSync
