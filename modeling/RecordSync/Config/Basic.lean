import RecordSync.Failure
import RecordSync.Json.Basic
import RecordSync.Text.Ascii
import RecordSync.Text.Blank

/-!
# Settings of the store

The settings are the address of the database, the size of its connection pool, how long to wait for
a connection, where migrations come from and what to do when they fail. Each has a default. They
are read from values, such as those of JSON, and from environment variables on top of other
settings.

Key definitions: `Config`, `MigrationPolicy`, `Config.SettingValue`, `Config.ofValue?`,
`Config.mergeEnv`, `Config.validate`.
Key theorems: `Config.ofMembers?_eq_some_iff`.
-/
namespace RecordSync

/-- What to do when migrations fail on a fresh connection. -/
inductive MigrationPolicy where
  /-- Go on with the schema as it is. -/
  | bestEffort
  /-- Give up. -/
  | failFast
  deriving DecidableEq, Repr

namespace MigrationPolicy

/-- The name of the policy. -/
def name : MigrationPolicy → String
  | .bestEffort => "best-effort"
  | .failFast => "fail-fast"

/-- The policy of an exact name. -/
def ofName? (s : String) : Option MigrationPolicy :=
  if s = "best-effort" then some .bestEffort
  else if s = "fail-fast" then some .failFast
  else none

/-- The policy that a setting names, padded or not and in any letter case, with a hyphen or an
underscore. -/
def parse (s : String) : Except StoreError MigrationPolicy :=
  let word := Text.lower (Text.trim s)
  if word = "best-effort" ∨ word = "best_effort" then .ok .bestEffort
  else if word = "fail-fast" ∨ word = "fail_fast" then .ok .failFast
  else .error (.configuration
    ("unknown migration policy '" ++ word ++ "' (expected best-effort or fail-fast)"))

end MigrationPolicy

/-- The settings of the store. -/
structure Config where
  databaseUrl : String := ""
  maxConnections : UInt32 := 5
  /-- Seconds to wait for a connection. -/
  acquireTimeout : UInt64 := 5
  /-- Where to find migrations in place of the built-in ones. -/
  migrationsDir : Option String := none
  migrationPolicy : MigrationPolicy := .bestEffort
  deriving DecidableEq, Repr, Inhabited

namespace Config

/-- The defaults, with an address. -/
def ofUrl (url : String) : Config := { databaseUrl := url }

/-- Milliseconds to wait for a connection. -/
def acquireTimeoutMillis (c : Config) : Nat := 1000 * c.acquireTimeout.toNat

/-- The address without which no connection is tried. -/
def requireUrl (url : String) : Except StoreError Unit :=
  if Text.allBlank url then .error (.configuration "dsn is empty") else .ok ()

/-- Refuses settings with which no connection can be made. -/
def validate (c : Config) : Except StoreError Unit := do
  requireUrl c.databaseUrl
  if c.maxConnections = 0 then .error (.configuration "max_connections must be greater than zero")
  else .ok ()

/-! ### Settings as values -/

/-- A kind of values from which settings are read. -/
class SettingValue (α : Type) where
  /-- The text that a value is. -/
  text? : α → Option String
  /-- The text that a value is, or that it says is left out. -/
  optionalText? : α → Option (Option String)
  /-- The whole number within bounds that a value is. -/
  int? : Int → Int → α → Option Int
  /-- The variant of a closed set that a value names. -/
  variantName? : α → Option String
  /-- The values of declared members. -/
  readMembers? : List String → α → Option (List (Option α))

instance : SettingValue Json where
  text? := Json.text?
  optionalText? := Json.optionalText?
  int? := Json.int?
  variantName? := Json.variantName?
  readMembers? names v := v.readMembers? names 0

/-- The names of the settings, in declared order. -/
def memberNames : List String :=
  ["database_url", "max_connections", "acquire_timeout_secs", "migrations_dir", "migration_policy"]

section
variable {α : Type}

/-- The value of a member, or the default if it is left out. -/
def memberOr {β : Type} (default : β) (read : α → Option β) : Option α → Option β
  | none => some default
  | some v => read v

variable [SettingValue α]

/-- The 32-bit word that a value is. -/
def word32? (v : α) : Option UInt32 :=
  (SettingValue.int? 0 4294967295 v).map fun n => UInt32.ofNat n.toNat

/-- The 64-bit word that a value is. -/
def word64? (v : α) : Option UInt64 :=
  (SettingValue.int? 0 18446744073709551615 v).map fun n => UInt64.ofNat n.toNat

/-- The policy that a value names. -/
def policy? (v : α) : Option MigrationPolicy :=
  (SettingValue.variantName? v).bind MigrationPolicy.ofName?

/-- The settings that declared members give; what is left out has its default. -/
def ofMembers? : List (Option α) → Option Config
  | [url, connections, timeout, dir, policy] => do
    let standard : Config := {}
    let url ← memberOr standard.databaseUrl SettingValue.text? url
    let connections ← memberOr standard.maxConnections word32? connections
    let timeout ← memberOr standard.acquireTimeout word64? timeout
    let dir ← memberOr standard.migrationsDir SettingValue.optionalText? dir
    let policy ← memberOr standard.migrationPolicy policy? policy
    some ⟨url, connections, timeout, dir, policy⟩
  | _ => none

/-- Each setting is what its own member gives. -/
theorem ofMembers?_eq_some_iff {url connections timeout dir policy : Option α} {c : Config} :
    ofMembers? [url, connections, timeout, dir, policy] = some c ↔
      memberOr "" SettingValue.text? url = some c.databaseUrl ∧
      memberOr 5 word32? connections = some c.maxConnections ∧
      memberOr 5 word64? timeout = some c.acquireTimeout ∧
      memberOr none SettingValue.optionalText? dir = some c.migrationsDir ∧
      memberOr .bestEffort policy? policy = some c.migrationPolicy := by
  simp only [ofMembers?, bind, Option.bind_eq_some_iff]
  constructor
  · rintro ⟨url, hu, connections, hc, timeout, ht, dir, hd, policy, hp, same⟩
    obtain rfl := Option.some.inj same
    exact ⟨hu, hc, ht, hd, hp⟩
  · rintro ⟨hu, hc, ht, hd, hp⟩
    exact ⟨_, hu, _, hc, _, ht, _, hd, _, hp, rfl⟩

/-- The settings that a value is. -/
def ofValue? (v : α) : Option Config := (SettingValue.readMembers? memberNames v).bind ofMembers?

end

/-- The settings that a JSON value is. -/
def ofJson? (v : Json) : Option Config := ofValue? v

/-! ### Environment -/

/-- The value of each environment variable that is set. -/
abbrev Environment := String → Option String

/-- The value of a variable; one that is blank counts as not set. -/
def setting? (env : Environment) (name : String) : Option String :=
  (env name).filter fun v => !Text.allBlank v

/-- The number that a variable is set to, at most `largest`. -/
def numberSetting (env : Environment) (name : String) (largest : Nat) :
    Except StoreError (Option Nat) :=
  match setting? env name with
  | none => .ok none
  | some raw =>
    match Decimal.readUnsigned? largest (Text.trim raw) with
    | some n => .ok (some n)
    | none => .error (.configuration (name ++ ": invalid number '" ++ raw ++ "'"))

/-- The policy that a variable is set to. -/
def policySetting (env : Environment) (name : String) :
    Except StoreError (Option MigrationPolicy) :=
  match setting? env name with
  | none => .ok none
  | some raw => (MigrationPolicy.parse raw).map some

/-- The variables that are settings. -/
def variableNames : List String :=
  ["KEEPSYNC_DATABASE_URL", "DATABASE_URL", "KEEPSYNC_MAX_CONNECTIONS", "KEEPSYNC_ACQUIRE_TIMEOUT",
    "KEEPSYNC_MIGRATIONS_DIR", "KEEPSYNC_MIGRATION_POLICY"]

/-- The settings with those of the environment on top. -/
def mergeEnv (c : Config) (env : Environment) : Except StoreError Config := do
  let url := (setting? env "KEEPSYNC_DATABASE_URL").or (setting? env "DATABASE_URL")
  let connections ← numberSetting env "KEEPSYNC_MAX_CONNECTIONS" 4294967295
  let timeout ← numberSetting env "KEEPSYNC_ACQUIRE_TIMEOUT" 18446744073709551615
  let dir := setting? env "KEEPSYNC_MIGRATIONS_DIR"
  let policy ← policySetting env "KEEPSYNC_MIGRATION_POLICY"
  .ok {
    databaseUrl := url.getD c.databaseUrl
    maxConnections := (connections.map UInt32.ofNat).getD c.maxConnections
    acquireTimeout := (timeout.map UInt64.ofNat).getD c.acquireTimeout
    migrationsDir := dir.or c.migrationsDir
    migrationPolicy := policy.getD c.migrationPolicy }

end Config
end RecordSync
