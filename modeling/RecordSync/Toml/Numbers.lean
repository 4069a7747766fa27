import RecordSync.Time.Civil
import RecordSync.Toml.Value
import RecordSync.Text.Decimal

/-!
# TOML numbers, dates and times

Digits may have single underscores between them. A whole number has 64 bits; in decimal it has no
leading zero, in another base it has no sign. A number with a fraction or an exponent, and a date or
time, are only checked and kept by their spelling; a number that rounds to positive infinity in
double precision is none.

Key definitions: `Toml.readNumber?`, `Toml.readMoment?`.
-/
namespace RecordSync
namespace Toml

/-! ### Digits -/

/-- Reads digits, with single underscores between them; gives them without. -/
def readDigits? (isDigit : Char → Bool) : List Char → Option (List Char × List Char)
  | [] => none
  | c :: '_' :: rest =>
    if isDigit c then (readDigits? isDigit rest).map fun r => (c :: r.1, r.2) else none
  | c :: d :: rest =>
    if isDigit c then
      if isDigit d then (readDigits? isDigit (d :: rest)).map fun r => (c :: r.1, r.2)
      else some ([c], d :: rest)
    else none
  | [c] => if isDigit c then some ([c], []) else none

/-- The value of a digit of a base up to 16. -/
def digitOf? (base : Nat) (c : Char) : Option Nat :=
  (if '0' ≤ c ∧ c ≤ '9' then some (c.toNat - '0'.toNat)
    else if 'a' ≤ c ∧ c ≤ 'f' then some (c.toNat - 'a'.toNat + 10)
    else if 'A' ≤ c ∧ c ≤ 'F' then some (c.toNat - 'A'.toNat + 10)
    else none).filter (· < base)

/-- The value of digits of a base. -/
def valueOf (base : Nat) (ds : List Char) : Nat :=
  ds.foldl (fun n c => base * n + (digitOf? base c).getD 0) 0

/-- A whole number, if it has at most 64 bits. -/
def word? (n : Int) : Option Value :=
  if -9223372036854775808 ≤ n ∧ n ≤ 9223372036854775807 then some (.integer n) else none

/-- Reads a whole number of a base other than ten, whose mark is gone. -/
def readBase? (base : Nat) (cs : List Char) : Option (Value × List Char) := do
  let (ds, rest) ← readDigits? (fun c => (digitOf? base c).isSome) cs
  let v ← word? (valueOf base ds)
  some (v, rest)

/-! ### Decimal numbers -/

/-- Reads the fraction after a point; gives its spelling. -/
def readFraction? : List Char → Option (List Char × List Char)
  | '.' :: cs => (readDigits? Decimal.isDigit cs).map fun r => ('.' :: r.1, r.2)
  | cs => some ([], cs)

/-- Reads the digits of an exponent, perhaps with a sign; gives their spelling. -/
def readExponentDigits? : List Char → Option (List Char × List Char)
  | '+' :: cs => readDigits? Decimal.isDigit cs
  | '-' :: cs => (readDigits? Decimal.isDigit cs).map fun r => ('-' :: r.1, r.2)
  | cs => readDigits? Decimal.isDigit cs

/-- Reads an exponent, if there is one; gives its spelling. -/
def readExponent? : List Char → Option (List Char × List Char)
  | 'e' :: cs => (readExponentDigits? cs).map fun r => ('e' :: r.1, r.2)
  | 'E' :: cs => (readExponentDigits? cs).map fun r => ('e' :: r.1, r.2)
  | cs => some ([], cs)

/-- The least number that rounds to infinity: half a unit in the last place beyond the greatest
number of double precision. -/
def infinityBound : Nat := Nat.pow 2 1024 - Nat.pow 2 970

/-- Whether `m * 10 ^ e` rounds to infinity. A number with 308 digits before the point does not, and
one with 310 does. -/
def overflows (m : Nat) (e : Int) : Bool :=
  let places : Int := (Decimal.digits m).length + e
  if m = 0 ∨ places ≤ 308 then false
  else if 310 ≤ places then true
  else infinityBound * Nat.pow 10 (-e).toNat ≤ m * Nat.pow 10 e.toNat

/-- The exponent that is spelled after its mark. -/
def exponentOf : List Char → Int
  | '-' :: ds => -(valueOf 10 ds : Int)
  | ds => valueOf 10 ds

/-- A number with a fraction or an exponent, by the spelling of its parts; none if it rounds to
positive infinity. -/
def float? (negative : Bool) (whole fraction exponent : List Char) : Option Value :=
  let places := fraction.drop 1
  let m := valueOf 10 (whole ++ places)
  if !negative && overflows m (exponentOf (exponent.drop 1) - places.length) then none
  else
    let sign := if negative then ['-'] else []
    some (.float (String.ofList (sign ++ whole ++ fraction ++ exponent)))

/-- Reads a decimal number without its sign. -/
def readDecimal? (negative : Bool) (cs : List Char) : Option (Value × List Char) := do
  let (whole, rest) ← readDigits? Decimal.isDigit cs
  if 1 < whole.length ∧ whole.head? = some '0' then none
  else do
    let (fraction, rest) ← readFraction? rest
    let (exponent, rest) ← readExponent? rest
    let n : Int := valueOf 10 whole
    if fraction.isEmpty && exponent.isEmpty then
      let v ← word? (if negative then -n else n)
      some (v, rest)
    else (float? negative whole fraction exponent).map fun v => (v, rest)

/-- Reads a number without its sign, or one that is not finite. -/
def readMagnitude? (negative : Bool) : List Char → Option (Value × List Char)
  | 'i' :: 'n' :: 'f' :: rest => some (.float (if negative then "-inf" else "inf"), rest)
  | 'n' :: 'a' :: 'n' :: rest => some (.float "nan", rest)
  | cs => readDecimal? negative cs

/-- Reads a number. -/
def readNumber? : List Char → Option (Value × List Char)
  | '0' :: 'x' :: cs => readBase? 16 cs
  | '0' :: 'o' :: cs => readBase? 8 cs
  | '0' :: 'b' :: cs => readBase? 2 cs
  | '+' :: cs => readMagnitude? false cs
  | '-' :: cs => readMagnitude? true cs
  | cs => readMagnitude? false cs

/-! ### Dates and times -/

/-- Reads an exact number of digits. -/
def readFixed? : Nat → Nat → List Char → Option (Nat × List Char)
  | 0, n, cs => some (n, cs)
  | _ + 1, _, [] => none
  | width + 1, n, c :: cs =>
    (Decimal.digit? c).bind fun d => readFixed? width (10 * n + d) cs

/-- Reads one given character. -/
def readChar? (expected : Char) : List Char → Option (List Char)
  | c :: cs => if c = expected then some cs else none
  | [] => none

/-- Reads a day that exists; gives what follows. -/
def readDay? (cs : List Char) : Option (List Char) := do
  let (y, cs) ← readFixed? 4 0 cs
  let cs ← readChar? '-' cs
  let (m, cs) ← readFixed? 2 0 cs
  let cs ← readChar? '-' cs
  let (d, cs) ← readFixed? 2 0 cs
  if (⟨y, m, d⟩ : Civil.Date).Exists then some cs else none

/-- Reads a time of day; gives what follows. -/
def readClock? (cs : List Char) : Option (List Char) := do
  let (h, cs) ← readFixed? 2 0 cs
  let cs ← readChar? ':' cs
  let (m, cs) ← readFixed? 2 0 cs
  let cs ← readChar? ':' cs
  let (s, cs) ← readFixed? 2 0 cs
  if h ≤ 23 ∧ m ≤ 59 ∧ s ≤ 60 then
    match cs with
    | '.' :: cs =>
      if (cs.takeWhile Decimal.isDigit).isEmpty then none else some (cs.dropWhile Decimal.isDigit)
    | cs => some cs
  else none

/-- Reads hours and minutes of an offset; gives what follows. -/
def readOffsetSize? (cs : List Char) : Option (List Char) := do
  let (h, cs) ← readFixed? 2 0 cs
  let cs ← readChar? ':' cs
  let (m, cs) ← readFixed? 2 0 cs
  if h ≤ 23 ∧ m ≤ 59 then some cs else none

/-- Reads the offset from UTC, if there is one; gives what follows. -/
def readOffset? : List Char → Option (List Char)
  | 'Z' :: cs => some cs
  | 'z' :: cs => some cs
  | '+' :: cs => readOffsetSize? cs
  | '-' :: cs => readOffsetSize? cs
  | cs => some cs

/-- Whether a character may stand between a day and a time. -/
def isDayEnd (c : Char) : Bool := c == 'T' || c == 't' || c == ' '

/-- Reads a day, perhaps with a time and an offset; gives what follows. -/
def readDayAndTime? (cs : List Char) : Option (List Char) := do
  let rest ← readDay? cs
  match rest with
  | c :: d :: more =>
    if isDayEnd c && (Decimal.isDigit d || c != ' ') then
      (readClock? (d :: more)).bind readOffset?
    else some rest
  | rest => some rest

/-- Reads a date or a time, if the text starts like one. -/
def readMoment? (cs : List Char) : Option (Option (List Char × List Char)) :=
  let found (rest : Option (List Char)) :=
    some (rest.map fun rest => (cs.take (cs.length - rest.length), rest))
  match (cs.takeWhile Decimal.isDigit).length, cs.dropWhile Decimal.isDigit with
  | 4, '-' :: _ => found (readDayAndTime? cs)
  | 2, ':' :: _ => found (readClock? cs)
  | _, _ => none

end Toml
end RecordSync
