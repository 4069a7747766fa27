import RecordSync.Table
import RecordSync.Time.Rfc3339

/-!
# What may stand on the command line

The program has groups of actions: a word of a group opens a group within it or picks an action. An
action has flags, and arguments with values; of the latter some are options with a name and the
others are known by their place. Some options belong to every group and action. Each group has one
more word, which asks about the others.

Key definitions: `Cli.Flag`, `Cli.Param`, `Cli.Action`, `Cli.Group`, `Cli.Level`, `Cli.Command`,
`Cli.Request`.
-/
namespace RecordSync
namespace Cli

/-! ### Arguments -/

/-- An option without a value. -/
inductive Flag where
  | debug
  | otel
  | help
  | version
  | includeDeleted
  | json
  deriving DecidableEq, Repr

namespace Flag

/-- The name of the flag, without the hyphens. -/
def name : Flag → String
  | .debug => "debug"
  | .otel => "otel"
  | .help => "help"
  | .version => "version"
  | .includeDeleted => "include-deleted"
  | .json => "json"

/-- The flag as it is shown. -/
def text (f : Flag) : String := "--" ++ f.name

/-- The letter that stands for the flag after a single hyphen. -/
def letter? : Flag → Option Char
  | .help => some 'h'
  | .version => some 'V'
  | _ => none

end Flag

/-- An argument with a value. -/
inductive Param where
  | databaseUrl
  | table
  | username
  | passwordHash
  | user
  | since
  | id
  deriving DecidableEq, Repr

namespace Param

/-- The name of the option, without the hyphens; nothing for an argument known by its place. -/
def optionName? : Param → Option String
  | .databaseUrl => some "database-url"
  | .table => none
  | .username => none
  | .passwordHash => some "password-hash"
  | .user => some "user"
  | .since => some "since"
  | .id => some "id"

/-- What the value is called. -/
def valueName : Param → String
  | .databaseUrl => "URL"
  | .table => "TABLE"
  | .username => "USERNAME"
  | .passwordHash => "HASH"
  | .user => "USER"
  | .since => "SINCE"
  | .id => "ID"

/-- The argument as it is shown. -/
def text (p : Param) : String :=
  match p.optionName? with
  | some name => "--" ++ name ++ " <" ++ p.valueName ++ ">"
  | none => "<" ++ p.valueName ++ ">"

/-- Whether an action can do without the argument. -/
def isOptional (p : Param) : Bool := p matches .databaseUrl | .since

/-- Whether the argument is known by its place. -/
def isPositional (p : Param) : Bool := p.optionName?.isNone

end Param

/-! ### Groups and actions -/

/-- Something that the program does. -/
inductive Action where
  | ping
  | migrate
  | tables
  | addUser
  | showUser
  | listRecords
  | deleteRecord
  deriving DecidableEq, Repr

namespace Action

/-- What the action does. -/
def description : Action → String
  | .ping => "Check that the database answers"
  | .migrate => "Apply schema migrations, failing on the first error"
  | .tables => "List synchronized tables with their live columns"
  | .addUser => "Register a user with a precomputed password hash"
  | .showUser => "Show a registered user"
  | .listRecords => "List a user's records in one table"
  | .deleteRecord => "Soft-delete one record"

/-- The flags of an action alone. -/
def flags : Action → List Flag
  | .showUser => [.json]
  | .listRecords => [.includeDeleted, .json]
  | _ => []

/-- The arguments of an action alone, those known by their place in their order. -/
def params : Action → List Param
  | .addUser => [.username, .passwordHash]
  | .showUser => [.username]
  | .listRecords => [.table, .user, .since]
  | .deleteRecord => [.table, .user, .id]
  | _ => []

end Action

/-- A group of actions. -/
inductive Group where
  | top
  | user
  | records
  deriving DecidableEq, Repr

/-- Where words are read: in a group or for an action. -/
inductive Level where
  | group (g : Group)
  | action (a : Action)
  deriving DecidableEq, Repr

namespace Group

/-- The words that lead to the group. -/
def path : Group → String
  | .top => "keepsync"
  | .user => "keepsync user"
  | .records => "keepsync records"

/-- What the group is for. -/
def description : Group → String
  | .top => "Operator tooling for the keepsync record store"
  | .user => "Register and look up users"
  | .records => "List or soft-delete records"

/-- Where the words of the group lead. -/
def words : Group → List (String × Level)
  | .top => [("ping", .action .ping), ("migrate", .action .migrate), ("tables", .action .tables),
      ("user", .group .user), ("records", .group .records)]
  | .user => [("add", .action .addUser), ("show", .action .showUser)]
  | .records => [("list", .action .listRecords), ("delete", .action .deleteRecord)]

end Group

/-- The word of every group that asks what other words of it lead to. -/
def helpWord : String := "help"

namespace Level

/-- What is to be had here. -/
def description : Level → String
  | .group g => g.description
  | .action a => a.description

/-- Whether words lead on from here. -/
def isGroup (l : Level) : Bool := l matches .group _

/-- Where a word leads. -/
def inner? (l : Level) (word : String) : Option Level :=
  match l with
  | .group g => (g.words.find? fun w => w.1 == word).map Prod.snd
  | .action _ => none

/-- Whether a word is one of a group here. -/
def knows (l : Level) (word : String) : Bool :=
  l.isGroup && (word == helpWord || (l.inner? word).isSome)

/-- The flags that may be given. -/
def flags : Level → List Flag
  | .group .top => [.debug, .otel, .help, .version]
  | .group _ => [.debug, .otel, .help]
  | .action a => [.debug, .otel, .help] ++ a.flags

/-- The arguments that may be given. -/
def params : Level → List Param
  | .group _ => [.databaseUrl]
  | .action a => .databaseUrl :: a.params

/-- The flag of a name. -/
def flag? (l : Level) (name : String) : Option Flag := l.flags.find? fun f => f.name == name

/-- The flag of a letter. -/
def letterFlag? (l : Level) (letter : Char) : Option Flag :=
  l.flags.find? fun f => f.letter? == some letter

/-- The option with a value of a name. -/
def option? (l : Level) (name : String) : Option Param :=
  l.params.find? fun p => p.optionName? == some name

end Level

/-! ### Requests -/

/-- An action with the values of its arguments. -/
inductive Command where
  | ping
  | migrate
  | tables
  | addUser (name hash : String)
  | showUser (name : String) (json : Bool)
  | listRecords (t : Table) (user : String) (since : Option Instant) (includeDeleted json : Bool)
  | deleteRecord (t : Table) (user id : String)

/-- What the command line asks for. -/
structure Request where
  otel : Bool
  databaseUrl : Option String
  command : Command

end Cli
end RecordSync
