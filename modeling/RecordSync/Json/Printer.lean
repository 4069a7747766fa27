import RecordSync.Json.Basic
import RecordSync.Text.Decimal

/-!
# JSON text

A value is written either compactly, without any space, or spread over lines with two spaces per
level, where an empty array or object stays on one line. In strings, the quote, the backslash and
the characters below U+0020 are escaped, five of these by a letter; every other character is
written as it is.

Key definitions: `Json.escaped`, `Json.compact`, `Json.pretty`.
-/
namespace RecordSync
namespace Json

/-- A hexadecimal digit, in lower case. -/
def hexDigit (n : Nat) : Char := Nat.digitChar n

/-- A character as it stands in a JSON string. -/
def escaped (c : Char) : List Char :=
  if c = '\x22' then ['\\', '\x22']
  else if c = '\\' then ['\\', '\\']
  else if c = '\x08' then ['\\', 'b']
  else if c = '\x0c' then ['\\', 'f']
  else if c = '\n' then ['\\', 'n']
  else if c = '\r' then ['\\', 'r']
  else if c = '\t' then ['\\', 't']
  else if c.toNat < 0x20 then
    ['\\', 'u', '0', '0', hexDigit (c.toNat / 16), hexDigit (c.toNat % 16)]
  else [c]

/-- A text as a JSON string. -/
def quoted (s : String) : List Char := '\x22' :: (s.toList.flatMap escaped ++ ['\x22'])

mutual
/-- A value without any space. -/
def compactChars : Json → List Char
  | .null => "null".toList
  | .bool true => "true".toList
  | .bool false => "false".toList
  | .int n => (Decimal.write n).toList
  | .real spelling => spelling.toList
  | .str s => quoted s
  | .arr [] => "[]".toList
  | .arr (x :: xs) => '[' :: (compactChars x ++ compactItems xs)
  | .obj [] => ['\x7b', '\x7d']
  | .obj (m :: ms) => '\x7b' :: (compactMember m ++ compactMembers ms)

/-- The items of an array after the first, and its end. -/
def compactItems : List Json → List Char
  | [] => [']']
  | x :: xs => ',' :: (compactChars x ++ compactItems xs)

/-- The members of an object after the first, and its end. -/
def compactMembers : List (String × Json) → List Char
  | [] => ['\x7d']
  | m :: ms => ',' :: (compactMember m ++ compactMembers ms)

/-- A member of an object. -/
def compactMember : String × Json → List Char
  | (name, v) => quoted name ++ ':' :: compactChars v
end

/-- A new line at a level of nesting. -/
def lineAt (level : Nat) : List Char := '\n' :: List.replicate (2 * level) ' '

mutual
/-- A value at a level of nesting, spread over lines. -/
def prettyChars (level : Nat) : Json → List Char
  | .null => "null".toList
  | .bool true => "true".toList
  | .bool false => "false".toList
  | .int n => (Decimal.write n).toList
  | .real spelling => spelling.toList
  | .str s => quoted s
  | .arr [] => "[]".toList
  | .arr (x :: xs) =>
    '[' :: (lineAt (level + 1) ++ prettyChars (level + 1) x ++ prettyItems level xs)
  | .obj [] => ['\x7b', '\x7d']
  | .obj (m :: ms) =>
    '\x7b' :: (lineAt (level + 1) ++ prettyMember level m ++ prettyMembers level ms)

/-- The items of an array at a level after the first, and its end. -/
def prettyItems (level : Nat) : List Json → List Char
  | [] => lineAt level ++ [']']
  | x :: xs => ',' :: (lineAt (level + 1) ++ prettyChars (level + 1) x ++ prettyItems level xs)

/-- The members of an object at a level after the first, and its end. -/
def prettyMembers (level : Nat) : List (String × Json) → List Char
  | [] => lineAt level ++ ['\x7d']
  | m :: ms => ',' :: (lineAt (level + 1) ++ prettyMember level m ++ prettyMembers level ms)

/-- A member of an object at a level. -/
def prettyMember (level : Nat) : String × Json → List Char
  | (name, v) => quoted name ++ ':' :: ' ' :: prettyChars (level + 1) v
end

/-- A value as text without any space. -/
def compact (v : Json) : String := String.ofList v.compactChars

/-- A value as text spread over lines. -/
def pretty (v : Json) : String := String.ofList (v.prettyChars 0)

end Json
end RecordSync
