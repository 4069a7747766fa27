import RecordSync.Json.Basic
import RecordSync.Text.Decimal

/-!
# The grammar of JSON

What a text stands for is said by a relation, with one rule for each production of the grammar.
White space may stand around every value, comma and colon. A number keeps its spelling unless it is
whole. A string has any character in it but the quote, the backslash and what is below U+0020, and
escapes: by a letter, by the four digits of a code point, or by two of these for a code point beyond
U+FFFF.

Key definitions: `Json.Spelled`, `Json.Numeral`, `Json.Part`, `Json.Spells`, `Json.Document`.
-/
namespace RecordSync
namespace Json

/-! ### Strings -/

/-- The characters that a letter after a backslash stands for. -/
def letters : List (Char × Char) :=
  [('\x22', '\x22'), ('\\', '\\'), ('/', '/'), ('b', '\x08'), ('f', '\x0c'), ('n', '\n'),
    ('r', '\r'), ('t', '\t')]

/-- A hexadecimal digit of either case, with its value. -/
def HexDigit (c : Char) (n : Nat) : Prop :=
  "0123456789abcdef".toList[n]? = some c ∨ "0123456789ABCDEF".toList[n]? = some c

/-- Four hexadecimal digits, with their value. -/
def FourHex (a b c d : Char) (n : Nat) : Prop :=
  ∃ w x y z, HexDigit a w ∧ HexDigit b x ∧ HexDigit c y ∧ HexDigit d z ∧
    n = 0x1000 * w + 0x100 * x + 0x10 * y + z

/-- What may stand between the quotes of a string, and the characters that it stands for. -/
inductive Spelled : List Char → List Char → Prop
  | nil : Spelled [] []
  | plain {c : Char} {cs s : List Char} (least : 0x20 ≤ c.toNat) (quote : c ≠ '\x22')
    (backslash : c ≠ '\\') (more : Spelled cs s) : Spelled (c :: cs) (c :: s)
  | letter {e c : Char} {cs s : List Char} (letter : (e, c) ∈ letters) (more : Spelled cs s) :
    Spelled ('\\' :: e :: cs) (c :: s)
  | unit {a b c d x : Char} {cs s : List Char} (value : FourHex a b c d x.toNat)
    (more : Spelled cs s) : Spelled ('\\' :: 'u' :: a :: b :: c :: d :: cs) (x :: s)
  | pair {a b c d a' b' c' d' x : Char} {high low : Nat} {cs s : List Char}
    (first : FourHex a b c d (0xD800 + high)) (high_lt : high < 0x400)
    (second : FourHex a' b' c' d' (0xDC00 + low)) (low_lt : low < 0x400)
    (value : x.toNat = 0x10000 + high * 0x400 + low) (more : Spelled cs s) :
    Spelled ('\\' :: 'u' :: a :: b :: c :: d :: '\\' :: 'u' :: a' :: b' :: c' :: d' :: cs) (x :: s)

/-! ### Numbers -/

/-- The digits of a whole number, with no zero in front of others. -/
structure Whole (ds : List Char) (n : Nat) : Prop where
  value : Decimal.value? ds = some n
  short : ds.length = 1 ∨ ds.head? ≠ some '0'

/-- One digit or more. -/
def Digits (ds : List Char) : Prop := ds ≠ [] ∧ ∀ c ∈ ds, Decimal.isDigit c = true

/-- What may follow the digits of a number after a point. -/
inductive Fraction : List Char → Prop
  | absent : Fraction []
  | digits {ds : List Char} (digits : Digits ds) : Fraction ('.' :: ds)

/-- The power of ten that may end a number. -/
inductive Exponent : List Char → Prop
  | absent : Exponent []
  | digits {e : Char} {sign ds : List Char} (mark : e = 'e' ∨ e = 'E')
    (signs : sign = [] ∨ sign = ['+'] ∨ sign = ['-']) (digits : Digits ds) :
    Exponent (e :: (sign ++ ds))

/-- The text of a number. It stands for a whole number if it has neither fraction nor exponent, and
is not `-0`. -/
inductive Numeral : List Char → Json → Prop
  | int {ds : List Char} {n : Nat} (whole : Whole ds n) : Numeral ds (.int n)
  | negative {ds : List Char} {n : Nat} (whole : Whole ds n) (nonzero : n ≠ 0) :
    Numeral ('-' :: ds) (.int (-(n : Int)))
  | real {sign ds fs es : List Char} {n : Nat} (signs : sign = [] ∨ sign = ['-'])
    (whole : Whole ds n) (fraction : Fraction fs) (exponent : Exponent es)
    (spelled : fs ≠ [] ∨ es ≠ [] ∨ sign = ['-'] ∧ n = 0) :
    Numeral (sign ++ ds ++ fs ++ es) (.real (String.ofList (sign ++ ds ++ fs ++ es)))

/-! ### Values -/

/-- White space, which means nothing between the parts of a text. -/
def isBlank (c : Char) : Bool := c == ' ' || c == '\t' || c == '\n' || c == '\r'

/-- Nothing but white space. -/
def Blank (cs : List Char) : Prop := ∀ c ∈ cs, isBlank c = true

/-- What a piece of text stands for: a value, what follows the first item of an array or the first
member of an object up to its end, or a member. -/
inductive Part
  | value (v : Json)
  | items (xs : List Json)
  | members (ms : List (String × Json))
  | member (m : String × Json)

/-- The text of a part, without white space around it. -/
inductive Spells : Part → List Char → Prop
  | null : Spells (.value .null) "null".toList
  | bool (b : Bool) : Spells (.value (.bool b)) (if b then "true" else "false").toList
  | number {v : Json} {cs : List Char} (numeral : Numeral cs v) : Spells (.value v) cs
  | string {cs s : List Char} (text : Spelled cs s) :
    Spells (.value (.str (String.ofList s))) ('\x22' :: (cs ++ ['\x22']))
  | emptyArray {a : List Char} (blank : Blank a) : Spells (.value (.arr [])) ('[' :: (a ++ [']']))
  | array {a cs b ds : List Char} {x : Json} {xs : List Json} (before : Blank a)
    (first : Spells (.value x) cs) (after : Blank b) (more : Spells (.items xs) ds) :
    Spells (.value (.arr (x :: xs))) ('[' :: (a ++ (cs ++ (b ++ ds))))
  | endArray : Spells (.items []) [']']
  | item {a cs b ds : List Char} {x : Json} {xs : List Json} (before : Blank a)
    (item : Spells (.value x) cs) (after : Blank b) (more : Spells (.items xs) ds) :
    Spells (.items (x :: xs)) (',' :: (a ++ (cs ++ (b ++ ds))))
  | emptyObject {a : List Char} (blank : Blank a) :
    Spells (.value (.obj [])) ('\x7b' :: (a ++ ['\x7d']))
  | object {a cs b ds : List Char} {m : String × Json} {ms : List (String × Json)}
    (before : Blank a) (first : Spells (.member m) cs) (after : Blank b)
    (more : Spells (.members ms) ds) :
    Spells (.value (.obj (m :: ms))) ('\x7b' :: (a ++ (cs ++ (b ++ ds))))
  | endObject : Spells (.members []) ['\x7d']
  | members {a cs b ds : List Char} {m : String × Json} {ms : List (String × Json)}
    (before : Blank a) (member : Spells (.member m) cs) (after : Blank b)
    (more : Spells (.members ms) ds) :
    Spells (.members (m :: ms)) (',' :: (a ++ (cs ++ (b ++ ds))))
  | member {cs s a b ds : List Char} {v : Json} (name : Spelled cs s) (before : Blank a)
    (after : Blank b) (value : Spells (.value v) ds) :
    Spells (.member (String.ofList s, v)) ('\x22' :: (cs ++ '\x22' :: (a ++ ':' :: (b ++ ds))))

/-- A text is the JSON of a value: the text of the value, with white space around it. -/
def Document (v : Json) (s : String) : Prop :=
  ∃ a cs b, s.toList = a ++ (cs ++ b) ∧ Blank a ∧ Spells (.value v) cs ∧ Blank b

end Json
end RecordSync
