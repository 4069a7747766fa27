import RecordSync.Toml.Numbers
import RecordSync.Toml.Strings

/-!
# Reading TOML

Entries go into tables by paths of keys. A key is defined once. A table may be built by dotted keys,
opened by a header, or only implied by a longer header; a header opens a table once, and dotted keys
go only into tables that dotted keys have built, though they may lead there through implied tables
and through the last table of an array. A header in double brackets adds a table to an array of
tables. A table or array that is written as a value is complete as it stands.

Key definitions: `Toml.Node`, `Toml.insertAt?`, `Toml.openTable?`, `Toml.addTable?`,
`Toml.readValue?`, `Toml.parse?`.
-/
namespace RecordSync
namespace Toml

/-- How a table has come about. -/
inductive Origin where
  /-- By a header that names a table within it. -/
  | implied
  /-- By its own header. -/
  | header
  /-- By dotted keys. -/
  | dotted
  deriving DecidableEq, Repr

/-- What stands under a key while a file is read. -/
inductive Node where
  | value (v : Value)
  | table (origin : Origin) (entries : List (String × Node))
  /-- An array of tables that headers have opened, the last one first. -/
  | tables (items : List (List (String × Node)))
  deriving Inhabited

/-- The entries of a table. -/
abbrev Entries := List (String × Node)

mutual
/-- The value that a node has come to; `closed` says whether it stands within a value. -/
def Node.toValue (closed : Bool) : Node → Value
  | .value v => v
  | .table _ entries => .table closed (entryValues closed entries)
  | .tables items => .array (tableValues closed items).reverse

/-- The values of entries. -/
def entryValues (closed : Bool) : List (String × Node) → List (String × Value)
  | [] => []
  | e :: es => entryValue closed e :: entryValues closed es

/-- The value of an entry. -/
def entryValue (closed : Bool) : String × Node → String × Value
  | (key, n) => (key, n.toValue closed)

/-- The values of tables. -/
def tableValues (closed : Bool) : List (List (String × Node)) → List Value
  | [] => []
  | t :: ts => .table closed (entryValues closed t) :: tableValues closed ts
end

/-! ### Entries by path -/

/-- Changes what stands under a key; `change` is given nothing if nothing stands there. -/
def alter? (key : String) (change : Option Node → Option Node) : Entries → Option Entries
  | [] => (change none).map fun n => [(key, n)]
  | e :: es =>
    if e.1 = key then (change (some e.2)).map fun n => (key, n) :: es
    else (alter? key change es).map fun es => e :: es

/-- Puts a value under a path of keys, the last of which is new. -/
def insertAt? (v : Value) : List String → Entries → Option Entries
  | [], _ => none
  | [key], entries =>
    alter? key (fun
      | none => some (.value v)
      | some _ => none) entries
  | key :: keys, entries =>
    alter? key (fun
      | none => (insertAt? v keys []).map (.table .dotted)
      | some (.table .dotted inner) => (insertAt? v keys inner).map (.table .dotted)
      | some (.table .implied inner) =>
        if keys.length = 1 then none else (insertAt? v keys inner).map (.table .implied)
      | some (.tables (last :: earlier)) =>
        if keys.length = 1 then none
        else (insertAt? v keys last).map fun last => .tables (last :: earlier)
      | some _ => none) entries

/-- Changes the table that a path of header keys leads to; tables on the way that are not there are
implied, and an array of tables stands for its last table. -/
def within? (change : Entries → Option Entries) : List String → Entries → Option Entries
  | [], entries => change entries
  | key :: keys, entries =>
    alter? key (fun
      | none => (within? change keys []).map (.table .implied)
      | some (.table origin inner) => (within? change keys inner).map (.table origin)
      | some (.tables (last :: earlier)) =>
        (within? change keys last).map fun last => .tables (last :: earlier)
      | some _ => none) entries

/-- Opens the table of a key, a new one or one that was only implied, which then comes last. -/
def openKey? (key : String) (entries : Entries) : Option Entries :=
  match entries.lookup key with
  | none => some (entries ++ [(key, .table .header [])])
  | some (.table .implied inner) =>
    some ((entries.filter fun e => e.1 != key) ++ [(key, .table .header inner)])
  | some _ => none

/-- Opens the table of a header. -/
def openTable? (path : List String) (entries : Entries) : Option Entries :=
  match path.getLast? with
  | none => none
  | some key => within? (openKey? key) path.dropLast entries

/-- Adds a table to the array of tables of a header. -/
def addTable? (path : List String) (entries : Entries) : Option Entries :=
  match path.getLast? with
  | none => none
  | some key =>
    within? (alter? key fun
      | none => some (.tables [[]])
      | some (.tables items) => some (.tables ([] :: items))
      | some _ => none) path.dropLast entries

/-! ### Values -/

/-- What follows a comment, if one starts here: the rest from the end of the line on. -/
def skipComment? : List Char → Option (List Char)
  | '#' :: cs =>
    let rest := cs.dropWhile isPrintable
    if rest.isEmpty || (afterNewline? rest).isSome then some rest else none
  | cs => some cs

/-- The text after spaces, line ends and comments. The number bounds how many. -/
def skipLines? : Nat → List Char → Option (List Char)
  | 0, _ => none
  | fuel + 1, cs => do
    let cs := skipSpace cs
    let rest ← skipComment? cs
    match afterNewline? rest with
    | some rest => skipLines? fuel rest
    | none => some rest

/-- The text after spaces, line ends and comments. -/
def skipBlank? (cs : List Char) : Option (List Char) := skipLines? (cs.length + 1) cs

/-- Reads a value that is a word, a date, a time or a number. -/
def readWord? (cs : List Char) : Option (Value × List Char) :=
  match cs with
  | 't' :: 'r' :: 'u' :: 'e' :: rest => some (.boolean true, rest)
  | 'f' :: 'a' :: 'l' :: 's' :: 'e' :: rest => some (.boolean false, rest)
  | cs =>
    match readMoment? cs with
    | some (some (spelling, rest)) => some (.moment (String.ofList spelling), rest)
    | some none => none
    | none => readNumber? cs

mutual
/-- Reads a value; one number bounds the nesting and the length of what is read, the other the
levels of arrays and tables. -/
def readValue? : Nat → Nat → List Char → Option (Value × List Char)
  | 0, _, _ => none
  | fuel + 1, levels, cs =>
    match cs, levels with
    | '\x22' :: _, _ => (readString? cs).map fun r => (.string r.1, r.2)
    | '\x27' :: _, _ => (readString? cs).map fun r => (.string r.1, r.2)
    | '[' :: _, 0 => none
    | '[' :: rest, levels + 1 => (readItems? fuel levels rest).map fun r => (.array r.1, r.2)
    | '\x7b' :: _, 0 => none
    | '\x7b' :: rest, levels + 1 =>
      match skipSpace rest with
      | '\x7d' :: rest => some (.table true [], rest)
      | rest =>
        (readEntries? fuel levels [] rest).map fun r => (.table true (entryValues true r.1), r.2)
    | cs, _ => readWord? cs

/-- Reads the items of an array up to its end. -/
def readItems? : Nat → Nat → List Char → Option (List Value × List Char)
  | 0, _, _ => none
  | fuel + 1, levels, cs => do
    let cs ← skipBlank? cs
    match cs with
    | ']' :: rest => some ([], rest)
    | cs => do
      let (v, rest) ← readValue? fuel levels cs
      let rest ← skipBlank? rest
      match rest with
      | ',' :: rest => do
        let (vs, rest) ← readItems? fuel levels rest
        some (v :: vs, rest)
      | ']' :: rest => some ([v], rest)
      | _ => none

/-- Reads the entries of a table on one line up to its end, after those that were read before. -/
def readEntries? : Nat → Nat → Entries → List Char → Option (Entries × List Char)
  | 0, _, _, _ => none
  | fuel + 1, levels, entries, cs => do
    let (path, rest) ← readPath? cs
    match rest with
    | '=' :: rest => do
      let (v, rest) ← readValue? fuel levels (skipSpace rest)
      let entries ← insertAt? v path entries
      match skipSpace rest with
      | ',' :: rest => readEntries? fuel levels entries rest
      | '\x7d' :: rest => some (entries, rest)
      | _ => none
    | _ => none
end

/-! ### Files -/

/-- What has been read of a file: all entries, and the header that is open. -/
structure Progress where
  entries : Entries := []
  header : List String := []
  deriving Inhabited

/-- What follows the end of a line, before which only spaces and a comment stand. -/
def endLine? (cs : List Char) : Option (List Char) := do
  let rest ← skipComment? (skipSpace cs)
  if rest.isEmpty then some [] else afterNewline? rest

/-- Reads a header whose brackets are gone. -/
def readHeader? (p : Progress) (cs : List Char) : Option (Progress × List Char) := do
  let (path, rest) ← readPath? cs
  match rest with
  | ']' :: rest => do
    let entries ← openTable? path p.entries
    some (⟨entries, path⟩, ← endLine? rest)
  | _ => none

/-- Reads a header of an array of tables whose brackets are gone. -/
def readArrayHeader? (p : Progress) (cs : List Char) : Option (Progress × List Char) := do
  let (path, rest) ← readPath? cs
  match rest with
  | ']' :: ']' :: rest => do
    let entries ← addTable? path p.entries
    some (⟨entries, path⟩, ← endLine? rest)
  | _ => none

/-- Reads a key with its value. -/
def readKeyValue? (p : Progress) (cs : List Char) : Option (Progress × List Char) := do
  let (path, rest) ← readPath? cs
  match rest with
  | '=' :: rest => do
    let (v, rest) ← readValue? (rest.length + 1) (levelLimit - 1) (skipSpace rest)
    let entries ← within? (insertAt? v path) p.header p.entries
    some ({ p with entries := entries }, ← endLine? rest)
  | _ => none

/-- Reads one line that is not blank, or more if a value goes over lines. -/
def readLine? (p : Progress) : List Char → Option (Progress × List Char)
  | '[' :: '[' :: cs => readArrayHeader? p cs
  | '[' :: cs => readHeader? p cs
  | cs => readKeyValue? p cs

/-- Reads the lines of a file; the number bounds how many. -/
def readFile? : Nat → Progress → List Char → Option Progress
  | 0, _, _ => none
  | fuel + 1, p, cs => do
    let cs ← skipBlank? cs
    if cs.isEmpty then some p
    else do
      let (p, rest) ← readLine? p cs
      readFile? fuel p rest

/-- The table that a file is. -/
def parse? (s : String) : Option (List (String × Value)) :=
  let cs := match s.toList with
    | '\ufeff' :: cs => cs
    | cs => cs
  (readFile? (cs.length + 1) {} cs).map fun p => entryValues false p.entries

end Toml
end RecordSync
