import RecordSync.Text.Alphanumeric
import RecordSync.Text.Blank

/-!
# Files of variables

A file of variables has one definition a line, `NAME=value`, perhaps with `export` in front. Blank
lines and lines that start with `#` define nothing. A value without marks ends at a space, after
which only a comment may follow; between marks a value may go over lines. A backslash escapes the
next character but within single marks, and there too a name after a dollar sign stands for itself;
elsewhere it stands for the variable's value. The file counts up to its first line that is none of
these.

Key definitions: `Dotenv.Part`, `Dotenv.Definition`, `Dotenv.readValue?`, `Dotenv.readLine?`,
`Dotenv.lines`, `Dotenv.definitions`, `Dotenv.names`.
-/
namespace RecordSync
namespace Dotenv

/-! ### Values -/

/-- A part of a value. -/
inductive Part where
  | char (c : Char)
  /-- The value of a variable, or nothing if it is not set. -/
  | reference (name : String)
  deriving DecidableEq, Repr

/-- Where in a value the reader stands. Outside single marks it is noted whether a double mark is
open. -/
inductive Place where
  | plain (marked : Bool)
  | single
  /-- After a backslash. -/
  | escape (marked : Bool)
  /-- In a name after a dollar sign; the name is given backwards. -/
  | name (marked : Bool) (read : List Char)
  /-- In a name in braces, given backwards. -/
  | braced (marked : Bool) (read : List Char)
  /-- After the blank that ends the value. -/
  | ended
  deriving DecidableEq, Repr

/-- The part that a name stands for, given backwards. -/
def referenceTo (read : List Char) : Part := .reference (String.ofList read.reverse)

/-- The character that one after a backslash stands for. -/
def unescape? (c : Char) : Option Char :=
  if c = 'n' then some '\n'
  else if c ∈ ['\\', '\x27', '\x22', '$', ' '] then some c
  else none

/-- Where a character leads that is no part of the value by itself; nothing if it is a part. -/
def turn? (marked : Bool) (c : Char) : Option Place :=
  if c = '$' then some (.name marked [])
  else if c = '\\' then some (.escape marked)
  else if c = '\x22' then some (.plain !marked)
  else if marked then none
  else if c = '\x27' then some .single
  else if c = ' ' ∨ c = '\t' then some .ended
  else none

/-- Reads a value from a place in it on. What ends a name without braces is a part of the value
whatever it is, unless it is the dollar sign of a next name. -/
def readFrom? : Place → List Char → Option (List Part)
  | .plain marked, [] => if marked then none else some []
  | .plain marked, c :: cs =>
    match turn? marked c with
    | some place => readFrom? place cs
    | none => (readFrom? (.plain marked) cs).map (.char c :: ·)
  | .single, [] => none
  | .single, c :: cs =>
    if c = '\x27' then readFrom? (.plain false) cs
    else (readFrom? .single cs).map (.char c :: ·)
  | .escape marked, [] => if marked then none else some []
  | .escape marked, c :: cs => do some (.char (← unescape? c) :: (← readFrom? (.plain marked) cs))
  | .name marked read, [] => if marked then none else some [referenceTo read]
  | .name marked read, c :: cs =>
    if Text.isAlphanumeric c then readFrom? (.name marked (c :: read)) cs
    else if c = '\x7b' ∧ read = [] then readFrom? (.braced marked []) cs
    else if c = '$' then (readFrom? (.name marked []) cs).map (referenceTo read :: ·)
    else (readFrom? (.plain marked) cs).map fun ps => referenceTo read :: .char c :: ps
  | .braced _ _, [] => none
  | .braced marked read, c :: cs =>
    if c = '\x7d' then (readFrom? (.plain marked) cs).map (referenceTo read :: ·)
    else readFrom? (.braced marked (c :: read)) cs
  | .ended, [] => some []
  | .ended, c :: cs =>
    if c = ' ' ∨ c = '\t' then readFrom? .ended cs
    else if c = '#' then some []
    else none

/-- Reads a value. -/
def readValue? (cs : List Char) : Option (List Part) := readFrom? (.plain false) cs

/-! ### Definitions -/

/-- A name with its value. -/
structure Definition where
  name : String
  value : List Part
  deriving DecidableEq, Repr

/-- Whether a name may start with a character. -/
def startsName (c : Char) : Bool := c.isAlpha || c == '_'

/-- Whether a character may stand in a name. -/
def isNameChar (c : Char) : Bool := c.isAlphanum || c == '_' || c == '.'

/-- Reads a name and the blanks after it. -/
def readName? : List Char → Option (String × List Char)
  | [] => none
  | c :: cs =>
    if startsName c then
      some (String.ofList (c :: cs.takeWhile isNameChar), Text.trimFront (cs.dropWhile isNameChar))
    else none

/-- What follows an equals sign at the front. -/
def afterEquals? : List Char → Option (List Char)
  | '=' :: cs => some cs
  | _ => none

/-- Reads the name that a line defines, and the equals sign after it. The word `export` is a name
only if the sign follows it. -/
def readDefined? (cs : List Char) : Option (String × List Char) := do
  let (word, rest) ← readName? cs
  match afterEquals? rest with
  | some rest => some (word, rest)
  | none =>
    if word = "export" then do
      let (name, rest) ← readName? rest
      some (name, ← afterEquals? rest)
    else none

/-- Whether nothing stands here, or only a comment. -/
def isSkipped : List Char → Bool
  | [] => true
  | c :: _ => c == '#'

/-- Reads a definition without the blanks around it. -/
def readDefinition? (cs : List Char) : Option Definition := do
  let (name, rest) ← readDefined? cs
  let rest := Text.trimFront rest
  if isSkipped rest then some ⟨name, []⟩
  else (readValue? rest).map fun value => ⟨name, value⟩

/-- Reads a line, which may define nothing. -/
def readLine? (cs : List Char) : Option (Option Definition) :=
  let cs := Text.trimChars cs
  if isSkipped cs then some none else (readDefinition? cs).map some

/-! ### Lines -/

/-- What a character of a line stands in, as far as it decides where the line ends. For this a
backslash counts within single marks too. -/
inductive Spot where
  | plain
  /-- After a blank, where a comment may start. -/
  | blank
  | escape
  | double
  | doubleEscape
  | single
  | singleEscape
  deriving DecidableEq, Repr

namespace Spot

/-- The spot that a character outside all marks leads to. -/
def outside (c : Char) : Spot :=
  if c = '\\' then .escape
  else if c = '\x22' then .double
  else if c = '\x27' then .single
  else .plain

/-- The spot that a character leads to. Of two blanks in a row only the first counts. -/
def next (c : Char) : Spot → Spot
  | .plain => if Text.isBlank c && c != '\n' && c != '\r' then .blank else outside c
  | .blank => outside c
  | .escape => .plain
  | .double => if c = '\\' then .doubleEscape else if c = '\x22' then .plain else .double
  | .doubleEscape => .double
  | .single => if c = '\\' then .singleEscape else if c = '\x27' then .plain else .single
  | .singleEscape => .single

end Spot

/-- What is read of a line, given backwards. -/
inductive Scan where
  | within (read : List Char) (spot : Spot)
  /-- A line that is complete, and a comment behind it. -/
  | comment (read : List Char)

/-- The start of a line. -/
def Scan.fresh : Scan := .within [] .plain

/-- Whether a comment starts after what is read of a line. -/
def startsComment (read : List Char) (spot : Spot) : Bool :=
  spot == .blank || read.all Text.isBlank

/-- The lines from a place in a text on, without comments. A line goes on behind its end within
marks; a last line that ends there, after a blank or after a backslash is none. -/
def linesFrom : Scan → List Char → List (List Char)
  | .within read spot, [] => if spot = .plain then [read.reverse] else []
  | .within read spot, c :: cs =>
    if c = '#' ∧ startsComment read spot then linesFrom (.comment read) cs
    else if c = '\n' ∧ spot.next c = .plain then read.reverse :: linesFrom .fresh cs
    else linesFrom (.within (c :: read) (spot.next c)) cs
  | .comment read, [] => [read.reverse]
  | .comment read, c :: cs =>
    if c = '\n' then read.reverse :: linesFrom .fresh cs else linesFrom (.comment read) cs

/-- The lines of a file, whose text may start with a byte order mark. -/
def lines : List Char → List (List Char)
  | '\ufeff' :: cs => linesFrom .fresh cs
  | cs => linesFrom .fresh cs

/-! ### Files -/

/-- The definitions of lines, up to the first that cannot be read. -/
def definitionsOf : List (List Char) → List Definition
  | [] => []
  | l :: ls =>
    match readLine? l with
    | none => []
    | some none => definitionsOf ls
    | some (some d) => d :: definitionsOf ls

/-- The definitions of a file, in its order. -/
def definitions (text : String) : List Definition := definitionsOf (lines text.toList)

/-- The names that definitions define or refer to. -/
def names (ds : List Definition) : List String :=
  ds.flatMap fun d => d.name :: d.value.filterMap fun
    | .char _ => none
    | .reference name => some name

end Dotenv
end RecordSync
