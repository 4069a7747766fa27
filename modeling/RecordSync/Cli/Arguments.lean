import RecordSync.Cli.Usage

/-!
# Reading the command line

The words are read from left to right. A value is accepted when the next argument is reached or the
line ends, so a word that is unknown is reported before the value in front of it. A word of a group
hands the rest of the line to what it leads to, and what is wrong there is reported first. Options
that belong everywhere count from wherever they are given, the innermost first. After `--` every
word is an argument known by its place. After `help` every word leads to what is asked about.

Key definitions: `Cli.Given`, `Cli.Reading`, `Cli.Reading.take`, `Cli.askAbout`, `Cli.readWords`,
`Cli.readArguments`.
-/
namespace RecordSync
namespace Cli

/-- Why reading ends without a request. -/
inductive Stop where
  /-- The version is asked for. -/
  | version
  /-- It is asked what is to be had at a level. -/
  | help (l : Level)
  | misuse (e : UsageError)
  deriving DecidableEq, Repr

/-- The result of misuse. -/
def misused {α : Type} (e : UsageError) : Except Stop α := .error (.misuse e)

/-! ### What is given -/

/-- The arguments that are given so far. -/
structure Given where
  debug : Bool := false
  otel : Bool := false
  includeDeleted : Bool := false
  json : Bool := false
  databaseUrl : Option String := none
  table : Option Table := none
  username : Option String := none
  passwordHash : Option String := none
  user : Option String := none
  since : Option Instant := none
  id : Option String := none

namespace Given

/-- Whether an argument is given. -/
def has (g : Given) : Param → Bool
  | .databaseUrl => g.databaseUrl.isSome
  | .table => g.table.isSome
  | .username => g.username.isSome
  | .passwordHash => g.passwordHash.isSome
  | .user => g.user.isSome
  | .since => g.since.isSome
  | .id => g.id.isSome

/-- Whether an option that belongs everywhere is given. -/
def hasGlobal (g : Given) : Bool := g.debug || g.otel || g.databaseUrl.isSome

/-- Raises a flag that is not raised yet, as it is read at a level. -/
def raise (l : Level) (g : Given) (f : Flag) : Except Stop Given :=
  let set (already : Bool) (raised : Given) : Except Stop Given :=
    if already then misused (.repeatedFlag f) else .ok raised
  match f with
  | .debug => set g.debug { g with debug := true }
  | .otel => set g.otel { g with otel := true }
  | .includeDeleted => set g.includeDeleted { g with includeDeleted := true }
  | .json => set g.json { g with json := true }
  | .help => .error (.help l)
  | .version => .error .version

/-- The table that a value names. -/
def readTable (value : String) : Except Stop Table :=
  (Table.parse value).mapError fun e => .misuse (.invalidValue .table value e.text)

/-- The time that a value is. -/
def readSince (value : String) : Except Stop Instant :=
  (Rfc3339.read value).mapError fun fault =>
    .misuse (.invalidValue .since value ("expected RFC 3339 timestamp: " ++ fault.text))

/-- Puts a value, after reading it, in its place. -/
def put (g : Given) (p : Param) (value : String) : Except Stop Given :=
  match p with
  | .databaseUrl => .ok { g with databaseUrl := some value }
  | .table => (readTable value).map fun t => { g with table := some t }
  | .username => .ok { g with username := some value }
  | .passwordHash => .ok { g with passwordHash := some value }
  | .user => .ok { g with user := some value }
  | .since => (readSince value).map fun t => { g with since := some t }
  | .id => .ok { g with id := some value }

/-- Accepts an argument with its value, if there is one. -/
def accept (g : Given) (p : Param) : Option String → Except Stop Given
  | none => misused (.missingValue p)
  | some value => if g.has p then misused (.repeatedOption p) else g.put p value

/-- The command of an action, if all that it needs is given. -/
def command? (g : Given) : Action → Option Command
  | .ping => some .ping
  | .migrate => some .migrate
  | .tables => some .tables
  | .addUser => do some (.addUser (← g.username) (← g.passwordHash))
  | .showUser => do some (.showUser (← g.username) g.json)
  | .listRecords => do
    some (.listRecords (← g.table) (← g.user) g.since g.includeDeleted g.json)
  | .deleteRecord => do some (.deleteRecord (← g.table) (← g.user) (← g.id))

/-- The arguments that an action needs and that are not given. -/
def missing (g : Given) (a : Action) : List Param :=
  a.params.filter fun p => !p.isOptional && !g.has p

/-- The request that is complete where the line ends. -/
def request (g : Given) : Level → Except Stop Request
  | .group group => misused (if g.hasGlobal then .missingWord group else .bare group)
  | .action a =>
    match g.command? a with
    | some c => .ok ⟨g.otel, g.databaseUrl, c⟩
    | none => misused (.missingArguments (g.missing a))

end Given

/-- A request with the options that were given in the group around it. -/
def Request.within (r : Request) (g : Given) : Request :=
  { r with otel := r.otel || g.otel, databaseUrl := r.databaseUrl.or g.databaseUrl }

/-! ### Words -/

/-- A word by its form. -/
inductive Word where
  /-- `--`, after which every word is plain. -/
  | separator
  /-- The name of an option, perhaps with a value attached. -/
  | option (name : String) (value : Option String)
  /-- A hyphen and a letter. -/
  | short (letter : Char)
  | plain (text : String)
  deriving DecidableEq, Repr

/-- The option after its two hyphens. -/
def Word.ofOption (cs : List Char) : Word :=
  .option (String.ofList (cs.takeWhile (· != '='))) <|
    match cs.dropWhile (· != '=') with
    | [] => none
    | _ :: value => some (String.ofList value)

/-- The form of a word. -/
def Word.ofString (s : String) : Word :=
  match s.toList with
  | ['-', '-'] => .separator
  | '-' :: '-' :: cs => .ofOption cs
  | '-' :: c :: _ => .short c
  | _ => .plain s

/-! ### Reading -/

/-- What has been read within a group or for an action. -/
structure Reading where
  given : Given := {}
  /-- An argument that is not accepted yet, with its value unless that is still to come. -/
  pending : Option (Param × Option String) := none
  /-- The arguments known by their place that are still to come. -/
  places : List Param
  /-- Whether every word is plain from here on. -/
  trailing : Bool := false

namespace Reading

/-- The start of reading. -/
def start (l : Level) : Reading := { places := l.params.filter Param.isPositional }

/-- Whether a value is still to come. -/
def awaitsValue (r : Reading) : Bool := r.pending matches some (_, none)

/-- Accepts the argument that is not accepted yet. -/
def settle (r : Reading) : Except Stop Reading :=
  match r.pending with
  | none => .ok r
  | some (p, value) => do
    let given ← r.given.accept p value
    .ok { r with given := given, pending := none }

/-- Takes a flag. -/
def takeFlag (l : Level) (r : Reading) (f : Flag) : Except Stop Reading := do
  let r ← r.settle
  let given ← r.given.raise l f
  .ok { r with given := given }

/-- Takes an option; a value that is attached is accepted at once. -/
def takeOption (r : Reading) (p : Param) (value : Option String) : Except Stop Reading := do
  let r ← r.settle
  let r : Reading := { r with pending := some (p, value) }
  if value.isSome then r.settle else .ok r

/-- Takes the name of an option. -/
def takeName (l : Level) (r : Reading) (name : String) (value : Option String) :
    Except Stop Reading :=
  match l.flag? name, l.option? name with
  | some f, _ =>
    match value with
    | none => r.takeFlag l f
    | some v => misused (.needlessValue f v)
  | none, some p => r.takeOption p value
  | none, none => misused (.unexpected ("--" ++ name))

/-- Takes a hyphen and a letter. -/
def takeShort (l : Level) (r : Reading) (letter : Char) : Except Stop Reading :=
  match l.letterFlag? letter with
  | some f => r.takeFlag l f
  | none => misused (.unexpected (String.ofList ['-', letter]))

/-- The error of a word that no one takes. -/
def refuse (l : Level) (r : Reading) (word : String) : UsageError :=
  match l with
  | .group _ =>
    if r.trailing && l.knows word then .unexpected word else .unknownWord word
  | .action _ => .unexpected word

/-- Takes a word for the argument whose place it has. -/
def takePlain (l : Level) (r : Reading) (word : String) : Except Stop Reading :=
  match r.places with
  | p :: places => do
    let r ← r.settle
    .ok { r with pending := some (p, some word), places := places }
  | [] => misused (r.refuse l word)

/-- Takes a word. -/
def take (l : Level) (r : Reading) (word : String) : Except Stop Reading :=
  if r.trailing then r.takePlain l word
  else
    match Word.ofString word with
    | .separator => .ok { r with trailing := true }
    | .option name value => r.takeName l name value
    | .short letter => r.takeShort l letter
    | .plain word =>
      match r.pending with
      | some (p, none) => .ok { r with pending := some (p, some word) }
      | _ => r.takePlain l word

/-- Whether a word may be one of the group that is read. -/
def seeksWord (r : Reading) : Bool := !r.trailing && !r.awaitsValue

end Reading

/-- What words ask about from a level on, each of them one of a group. -/
def askAbout (l : Level) : List String → Stop
  | [] => .help l
  | word :: words =>
    match l.inner? word with
    | some inner => askAbout inner words
    | none =>
      if l.knows word then
        match words with
        | [] => .help l
        | next :: _ => .misuse (.unknownWord next)
      else .misuse (.unknownWord word)

/-- Reads the words that are left, within a group or for an action. -/
def readWords (l : Level) (r : Reading) : List String → Except Stop Request
  | [] => do
    let r ← r.settle
    r.given.request l
  | word :: words =>
    if r.seeksWord && l.knows word then
      match l.inner? word with
      | some inner => do
        let request ← readWords inner (Reading.start inner) words
        let r ← r.settle
        .ok (request.within r.given)
      | none => .error (askAbout l words)
    else do
      let r ← r.take l word
      readWords l r words

/-- Reads the arguments of the program. -/
def readArguments (args : List String) : Except Stop Request :=
  readWords (.group .top) (Reading.start (.group .top)) args

end Cli
end RecordSync
