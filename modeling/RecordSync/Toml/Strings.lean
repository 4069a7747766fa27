import RecordSync.Json.Parser

/-!
# TOML strings and keys

A string is basic, with escapes, or literal, without; either may stand on one line between single
marks or go over lines between triple ones. A key is bare or a string on one line, and several keys
with dots between them lead into tables.

Key definitions: `Toml.readBasic?`, `Toml.readLiteral?`, `Toml.readString?`, `Toml.readPath?`.
-/
namespace RecordSync
namespace Toml

/-- White space within a line. -/
def isSpace (c : Char) : Bool := c == ' ' || c == '\t'

/-- The text after its leading spaces and tabs. -/
def skipSpace (cs : List Char) : List Char := cs.dropWhile isSpace

/-- Whether a character may stand by itself: no control character but the tab. -/
def isPrintable (c : Char) : Bool := c == '\t' || (0x20 ≤ c.toNat && c.toNat != 0x7F)

/-- What follows a line end, if one is there. -/
def afterNewline? : List Char → Option (List Char)
  | '\n' :: cs => some cs
  | '\r' :: '\n' :: cs => some cs
  | _ => none

/-! ### Strings on one line -/

/-- The character that a letter after a backslash stands for. -/
def unescape? (c : Char) : Option Char :=
  match c with
  | 'b' => some '\x08'
  | 't' => some '\t'
  | 'n' => some '\n'
  | 'f' => some '\x0c'
  | 'r' => some '\r'
  | '\x22' => some '\x22'
  | '\\' => some '\\'
  | _ => none

/-- The character of a code point in hexadecimal digits. -/
def hexChar? (digits : List Char) : Option Char := (Json.hexFrom? 0 digits).bind Json.scalar?

/-- Reads a basic string whose opening mark is gone. -/
def readBasic? : List Char → Option (List Char × List Char)
  | [] => none
  | '\x22' :: cs => some ([], cs)
  | '\\' :: 'u' :: a :: b :: c :: d :: cs => do
    let x ← hexChar? [a, b, c, d]
    let (xs, rest) ← readBasic? cs
    some (x :: xs, rest)
  | '\\' :: 'U' :: a :: b :: c :: d :: e :: f :: g :: h :: cs => do
    let x ← hexChar? [a, b, c, d, e, f, g, h]
    let (xs, rest) ← readBasic? cs
    some (x :: xs, rest)
  | '\\' :: e :: cs => do
    let x ← unescape? e
    let (xs, rest) ← readBasic? cs
    some (x :: xs, rest)
  | c :: cs =>
    if isPrintable c then (readBasic? cs).map fun r => (c :: r.1, r.2) else none

/-- Reads a literal string whose opening mark is gone. -/
def readLiteral? : List Char → Option (List Char × List Char)
  | [] => none
  | '\x27' :: cs => some ([], cs)
  | c :: cs =>
    if isPrintable c then (readLiteral? cs).map fun r => (c :: r.1, r.2) else none

/-! ### Strings over lines -/

/-- The text after a line end, if it starts with one. -/
def dropNewline (cs : List Char) : List Char := (afterNewline? cs).getD cs

/-- Splits the marks at the front of a text, five at most, from what follows. -/
def splitMarks (mark : Char) (cs : List Char) : Nat × List Char :=
  let n := ((cs.take 5).takeWhile (· == mark)).length
  (n, cs.drop n)

/-- What follows a backslash at the end of a line: the text from the next character on that is
neither space nor line end. -/
def afterLineBreak? (cs : List Char) : Option (List Char) :=
  (afterNewline? (skipSpace cs)).map fun rest =>
    rest.dropWhile fun c => isSpace c || c == '\n' || c == '\r'

/-- Reads a string over lines whose opening marks are gone; `escapes` says whether a backslash
means anything. The number bounds the length of what is read. -/
def readLines? (mark : Char) (escapes : Bool) : Nat → List Char → Option (List Char × List Char)
  | 0, _ => none
  | fuel + 1, cs =>
    match splitMarks mark cs with
    | (0, cs) =>
      match cs with
      | [] => none
      | c :: cs =>
        if escapes && c == '\\' then
          match afterLineBreak? cs with
          | some rest => readLines? mark escapes fuel rest
          | none =>
            match cs with
            | 'u' :: a :: b :: c :: d :: cs => do
              let x ← hexChar? [a, b, c, d]
              let (xs, rest) ← readLines? mark escapes fuel cs
              some (x :: xs, rest)
            | 'U' :: a :: b :: c :: d :: e :: f :: g :: h :: cs => do
              let x ← hexChar? [a, b, c, d, e, f, g, h]
              let (xs, rest) ← readLines? mark escapes fuel cs
              some (x :: xs, rest)
            | e :: cs => do
              let x ← unescape? e
              let (xs, rest) ← readLines? mark escapes fuel cs
              some (x :: xs, rest)
            | [] => none
        else
          match afterNewline? (c :: cs) with
          | some rest => (readLines? mark escapes fuel rest).map fun r => ('\n' :: r.1, r.2)
          | none =>
            if isPrintable c then
              (readLines? mark escapes fuel cs).map fun r => (c :: r.1, r.2)
            else none
    | (n, rest) =>
      if 3 ≤ n then some (List.replicate (n - 3) mark, rest)
      else (readLines? mark escapes fuel rest).map fun r => (List.replicate n mark ++ r.1, r.2)

/-- Reads a string of any kind. -/
def readString? : List Char → Option (String × List Char)
  | '\x22' :: '\x22' :: '\x22' :: cs =>
    (readLines? '\x22' true (cs.length + 1) (dropNewline cs)).map
      fun r => (String.ofList r.1, r.2)
  | '\x27' :: '\x27' :: '\x27' :: cs =>
    (readLines? '\x27' false (cs.length + 1) (dropNewline cs)).map
      fun r => (String.ofList r.1, r.2)
  | '\x22' :: cs => (readBasic? cs).map fun r => (String.ofList r.1, r.2)
  | '\x27' :: cs => (readLiteral? cs).map fun r => (String.ofList r.1, r.2)
  | _ => none

/-! ### Keys -/

/-- Whether a character may stand in a bare key. -/
def isBare (c : Char) : Bool := c.isAlphanum || c == '_' || c == '-'

/-- Reads one key. -/
def readKey? : List Char → Option (String × List Char)
  | '\x22' :: cs => (readBasic? cs).map fun r => (String.ofList r.1, r.2)
  | '\x27' :: cs => (readLiteral? cs).map fun r => (String.ofList r.1, r.2)
  | cs =>
    match cs.takeWhile isBare with
    | [] => none
    | key => some (String.ofList key, cs.dropWhile isBare)

/-- Reads keys with dots between them, and the space around them. The number bounds how many. -/
def readPathUpTo? : Nat → List Char → Option (List String × List Char)
  | 0, _ => none
  | fuel + 1, cs => do
    let (key, rest) ← readKey? (skipSpace cs)
    match skipSpace rest with
    | '.' :: rest => do
      let (keys, rest) ← readPathUpTo? fuel rest
      some (key :: keys, rest)
    | rest => some ([key], rest)

/-- The level of nesting that is too deep, for keys as for values. -/
def levelLimit : Nat := 80

/-- Reads keys with dots between them, fewer than the limit, and the space around them. -/
def readPath? (cs : List Char) : Option (List String × List Char) :=
  (readPathUpTo? (cs.length + 1) cs).filter fun r => r.1.length < levelLimit

end Toml
end RecordSync
