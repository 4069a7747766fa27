import RecordSync.Json.Basic
import RecordSync.Text.Decimal

/-!
# Reading JSON text

The reader takes one value, with white space (space, tab, line feed, carriage return) around its
parts, and nothing after it. In a string, two `\u` escapes that form a surrogate pair stand for one
character, and one that is not part of a pair makes the text no JSON.

Key definitions: `Json.joinUnits?`, `Json.readValue?`, `Json.parse?`.
-/
namespace RecordSync
namespace Json

/-- The text after its leading white space. -/
def skipSpace (cs : List Char) : List Char :=
  cs.dropWhile fun c => c == ' ' || c == '\t' || c == '\n' || c == '\r'

/-! ### Strings -/

/-- The value of a hexadecimal digit of either case. -/
def hexValue? (c : Char) : Option Nat :=
  if '0' ≤ c ∧ c ≤ '9' then some (c.toNat - '0'.toNat)
  else if 'a' ≤ c ∧ c ≤ 'f' then some (c.toNat - 'a'.toNat + 10)
  else if 'A' ≤ c ∧ c ≤ 'F' then some (c.toNat - 'A'.toNat + 10)
  else none

/-- The value of hexadecimal digits that follow digits of value `high`. -/
def hexFrom? (high : Nat) : List Char → Option Nat
  | [] => some high
  | c :: cs => (hexValue? c).bind fun d => hexFrom? (16 * high + d) cs

/-- The character that a letter after a backslash stands for. -/
def unescape? (c : Char) : Option Char :=
  match c with
  | '\x22' => some '\x22'
  | '\\' => some '\\'
  | '/' => some '/'
  | 'b' => some '\x08'
  | 'f' => some '\x0c'
  | 'n' => some '\n'
  | 'r' => some '\r'
  | 't' => some '\t'
  | _ => none

/-- Reads a string whose opening quote is gone, as the code points and `\u` values it spells. -/
def readUnits? : List Char → Option (List Nat × List Char)
  | [] => none
  | '\x22' :: cs => some ([], cs)
  | '\\' :: 'u' :: a :: b :: c :: d :: cs => do
    let unit ← hexFrom? 0 [a, b, c, d]
    let (units, rest) ← readUnits? cs
    some (unit :: units, rest)
  | '\\' :: e :: cs => do
    let c ← unescape? e
    let (units, rest) ← readUnits? cs
    some (c.toNat :: units, rest)
  | c :: cs =>
    if c.toNat < 0x20 then none
    else do
      let (units, rest) ← readUnits? cs
      some (c.toNat :: units, rest)

/-- The character of a code point that is no surrogate. -/
def scalar? (n : Nat) : Option Char :=
  if h : n.isValidChar then some (Char.ofNatAux n h) else none

/-- Whether a unit opens a surrogate pair. -/
def isHigh (n : Nat) : Bool := 0xD800 ≤ n && n ≤ 0xDBFF

/-- Whether a unit closes a surrogate pair. -/
def isLow (n : Nat) : Bool := 0xDC00 ≤ n && n ≤ 0xDFFF

/-- The characters that units spell, a surrogate pair for one. -/
def joinUnits? : List Nat → Option (List Char)
  | [] => some []
  | [n] => (scalar? n).map fun c => [c]
  | n :: m :: ns =>
    if isHigh n && isLow m then do
      let c ← scalar? (0x10000 + (n - 0xD800) * 0x400 + (m - 0xDC00))
      let cs ← joinUnits? ns
      some (c :: cs)
    else do
      let c ← scalar? n
      let cs ← joinUnits? (m :: ns)
      some (c :: cs)

/-- Reads a string whose opening quote is gone. -/
def readString? (cs : List Char) : Option (String × List Char) := do
  let (units, rest) ← readUnits? cs
  let text ← joinUnits? units
  some (String.ofList text, rest)

/-! ### Numbers -/

/-- The digits at the front of a text, and what follows. -/
def spanDigits (cs : List Char) : List Char × List Char :=
  (cs.takeWhile Decimal.isDigit, cs.dropWhile Decimal.isDigit)

/-- Reads the digits of a fraction, if there is a point; gives them with the point. -/
def readFraction? : List Char → Option (List Char × List Char)
  | '.' :: cs =>
    match spanDigits cs with
    | ([], _) => none
    | (ds, rest) => some ('.' :: ds, rest)
  | cs => some ([], cs)

/-- Whether a character opens an exponent. -/
def isExponentMark (c : Char) : Bool := c == 'e' || c == 'E'

/-- Reads an exponent, if there is one; gives its spelling. -/
def readExponent? : List Char → Option (List Char × List Char)
  | [] => some ([], [])
  | mark :: cs =>
    if isExponentMark mark then
      let (sign, ds) := match cs with
        | '+' :: ds => (['+'], ds)
        | '-' :: ds => (['-'], ds)
        | ds => ([], ds)
      match spanDigits ds with
      | ([], _) => none
      | (es, rest) => some (mark :: sign ++ es, rest)
    else some ([], mark :: cs)

/-- Reads a number without its minus sign. -/
def readMagnitude? (negative : Bool) (cs : List Char) : Option (Json × List Char) := do
  let (whole, rest) := spanDigits cs
  let n ← Decimal.value? whole
  if 1 < whole.length ∧ whole.head? = some '0' then none
  else do
    let (fraction, rest) ← readFraction? rest
    let (exponent, rest) ← readExponent? rest
    if fraction.isEmpty && exponent.isEmpty && !(negative && n == 0) then
      some (.int (if negative then -(n : Int) else n), rest)
    else
      let sign := if negative then ['-'] else []
      some (.real (String.ofList (sign ++ whole ++ fraction ++ exponent)), rest)

/-- Reads a number. -/
def readNumber? : List Char → Option (Json × List Char)
  | '-' :: cs => readMagnitude? true cs
  | cs => readMagnitude? false cs

/-! ### Values -/

/-- What follows a word at the front of a text. -/
def dropWord? : List Char → List Char → Option (List Char)
  | [], cs => some cs
  | w :: ws, c :: cs => if w = c then dropWord? ws cs else none
  | _ :: _, [] => none

mutual
/-- Reads one value; the number bounds the nesting and the length of what is read. -/
def readValue? : Nat → List Char → Option (Json × List Char)
  | 0, _ => none
  | fuel + 1, cs =>
    match skipSpace cs with
    | [] => none
    | '\x22' :: cs => (readString? cs).map fun r => (.str r.1, r.2)
    | '[' :: cs =>
      match skipSpace cs with
      | ']' :: rest => some (.arr [], rest)
      | cs => do
        let (x, rest) ← readValue? fuel cs
        let (xs, rest) ← readItems? fuel rest
        some (.arr (x :: xs), rest)
    | '\x7b' :: cs =>
      match skipSpace cs with
      | '\x7d' :: rest => some (.obj [], rest)
      | cs => do
        let (m, rest) ← readMember? fuel cs
        let (ms, rest) ← readMembersAfter? fuel rest
        some (.obj (m :: ms), rest)
    | 'n' :: cs => (dropWord? "ull".toList cs).map fun rest => (.null, rest)
    | 't' :: cs => (dropWord? "rue".toList cs).map fun rest => (.bool true, rest)
    | 'f' :: cs => (dropWord? "alse".toList cs).map fun rest => (.bool false, rest)
    | cs => readNumber? cs

/-- Reads the items of an array after the first, and its end. -/
def readItems? : Nat → List Char → Option (List Json × List Char)
  | 0, _ => none
  | fuel + 1, cs =>
    match skipSpace cs with
    | ']' :: rest => some ([], rest)
    | ',' :: cs => do
      let (x, rest) ← readValue? fuel cs
      let (xs, rest) ← readItems? fuel rest
      some (x :: xs, rest)
    | _ => none

/-- Reads the members of an object after the first, and its end. -/
def readMembersAfter? : Nat → List Char → Option (List (String × Json) × List Char)
  | 0, _ => none
  | fuel + 1, cs =>
    match skipSpace cs with
    | '\x7d' :: rest => some ([], rest)
    | ',' :: cs => do
      let (m, rest) ← readMember? fuel cs
      let (ms, rest) ← readMembersAfter? fuel rest
      some (m :: ms, rest)
    | _ => none

/-- Reads a member of an object. -/
def readMember? : Nat → List Char → Option ((String × Json) × List Char)
  | 0, _ => none
  | fuel + 1, cs =>
    match skipSpace cs with
    | '\x22' :: cs => do
      let (name, rest) ← readString? cs
      match skipSpace rest with
      | ':' :: rest => do
        let (v, rest) ← readValue? fuel rest
        some ((name, v), rest)
      | _ => none
    | _ => none
end

/-- The value that a text is the JSON of. -/
def parseChars? (cs : List Char) : Option Json :=
  match readValue? (2 * cs.length + 2) cs with
  | some (v, rest) => if skipSpace rest = [] then some v else none
  | none => none

/-- The value that a text is the JSON of. -/
def parse? (s : String) : Option Json := parseChars? s.toList

end Json
end RecordSync
