import RecordSync.Time.Instant
import RecordSync.Text.Bytes
import RecordSync.Text.Decimal

/-!
# Timestamps as text

A timestamp is written in UTC, `2024-05-01T10:00:00.123456Z`, with six digits of a second
(`Rfc3339.micros`) or with the fewest of 0, 3, 6 and 9 that are exact (`Rfc3339.shortest`). Years
beyond 0 to 9999 get a sign; such texts are not read back. A leap second is second 60.

The reader takes any offset from UTC, a `T`, `t` or space before the time, and any number of digits
of a second, of which it keeps nine. It says why a text is none: what is missing, what cannot
stand there, what is out of range, what is left over.

Key definitions: `Rfc3339.micros`, `Rfc3339.shortest`, `Rfc3339.Fault`, `Rfc3339.read`.
-/
namespace RecordSync
namespace Rfc3339

/-! ### Writing -/

/-- A year: four digits, or a sign and at least four. -/
def year (y : Int) : List Char :=
  if y < 0 then '-' :: Decimal.padded 4 y.natAbs
  else if y ≤ 9999 then Decimal.padded 4 y.natAbs
  else '+' :: Decimal.padded 4 y.natAbs

/-- A day as `YYYY-MM-DD`. -/
def date (d : Civil.Date) : List Char :=
  year d.year ++ '-' :: Decimal.padded 2 d.month ++ '-' :: Decimal.padded 2 d.day

/-- The time of day as `HH:MM:SS`. -/
def clock (t : Instant) : List Char :=
  let second := (t.secs % 86400).toNat
  Decimal.padded 2 (second / 3600) ++ ':' :: Decimal.padded 2 (second / 60 % 60) ++
    ':' :: Decimal.padded 2 (second % 60 + if t.isLeap then 1 else 0)

/-- Day and time without the fraction of a second. -/
def wholeSeconds (t : Instant) : List Char :=
  date (Civil.ofDays (t.secs / 86400)) ++ 'T' :: clock t

/-- Six digits of a second. -/
def microsFraction (t : Instant) : List Char := '.' :: Decimal.padded 6 (t.subsecond / 1000)

/-- The fewest digits of a second, in groups of three, that are exact. -/
def shortestFraction (t : Instant) : List Char :=
  let n := t.subsecond
  if n = 0 then []
  else if n % 1000000 = 0 then '.' :: Decimal.padded 3 (n / 1000000)
  else if n % 1000 = 0 then '.' :: Decimal.padded 6 (n / 1000)
  else '.' :: Decimal.padded 9 n

/-- The instant with microseconds. -/
def micros (t : Instant) : String :=
  String.ofList (wholeSeconds t ++ microsFraction t ++ ['Z'])

/-- The instant with as many digits as it needs, and a text for UTC at the end. -/
def shortestWith (utc : List Char) (t : Instant) : String :=
  String.ofList (wholeSeconds t ++ shortestFraction t ++ utc)

/-- The instant with as many digits as it needs. -/
def shortest (t : Instant) : String := shortestWith ['Z'] t

/-! ### Reading -/

/-- Why a text is no timestamp. -/
inductive Fault where
  | tooShort
  | invalid
  | outOfRange
  | tooLong
  deriving DecidableEq, Repr

/-- What is said about a fault. -/
def Fault.text : Fault → String
  | .tooShort => "premature end of input"
  | .invalid => "input contains invalid characters"
  | .outOfRange => "input is out of range"
  | .tooLong => "trailing input"

/-- Reads an exact number of digits. -/
def number : Nat → Nat → List Char → Except Fault (Nat × List Char)
  | 0, n, cs => .ok (n, cs)
  | _ + 1, _, [] => .error .invalid
  | width + 1, n, c :: cs =>
    match Decimal.digit? c with
    | some d => number width (10 * n + d) cs
    | none => .error .invalid

/-- Reads one given character. -/
def char (expected : Char) : List Char → Except Fault (List Char)
  | c :: cs => if c = expected then .ok cs else .error .invalid
  | [] => .error .invalid

/-- Reads a day that exists. -/
def readDate (cs : List Char) : Except Fault (Civil.Date × List Char) := do
  let (y, cs) ← number 4 0 cs
  let cs ← char '-' cs
  let (m, cs) ← number 2 0 cs
  let cs ← char '-' cs
  let (d, cs) ← number 2 0 cs
  let day : Civil.Date := ⟨y, m, d⟩
  if day.Exists then .ok (day, cs) else .error .outOfRange

/-- Reads what separates day and time. -/
def separator : List Char → Except Fault (List Char)
  | c :: cs => if c = 'T' ∨ c = 't' ∨ c = ' ' then .ok cs else .error .invalid
  | [] => .error .invalid

/-- A time of day as it is written. -/
structure Clock where
  hour : Nat
  minute : Nat
  second : Nat
  deriving DecidableEq, Repr

/-- Reads `HH:MM:SS`, of any value. -/
def readClock (cs : List Char) : Except Fault (Clock × List Char) := do
  let (h, cs) ← number 2 0 cs
  let cs ← char ':' cs
  let (m, cs) ← number 2 0 cs
  let cs ← char ':' cs
  let (s, cs) ← number 2 0 cs
  .ok (⟨h, m, s⟩, cs)

/-- The nanoseconds that the digits of a second stand for; those after the ninth do not count. -/
def fractionNanos (ds : List Char) : Nat :=
  (Decimal.valueFrom? 0 ((ds ++ List.replicate 9 '0').take 9)).getD 0

/-- Reads the fraction of a second, if there is a point. -/
def readFraction : List Char → Except Fault (Nat × List Char)
  | '.' :: [] => .error .tooShort
  | '.' :: c :: cs =>
    if Decimal.isDigit c then
      .ok (fractionNanos ((c :: cs).takeWhile Decimal.isDigit), (c :: cs).dropWhile Decimal.isDigit)
    else .error .invalid
  | cs => .ok (0, cs)

/-- Two digits at the front of a text, which must be two bytes long. -/
def offsetDigits (cs : List Char) : Except Fault (Nat × List Char) :=
  if Text.byteLength cs < 2 then .error .tooShort else number 2 0 cs

/-- The colon within an offset. -/
def offsetColon : List Char → Except Fault (List Char)
  | [] => .error .tooShort
  | cs => char ':' cs

/-- Reads an offset without its sign, in seconds. -/
def readOffsetSize (cs : List Char) : Except Fault (Nat × List Char) := do
  let (h, cs) ← offsetDigits cs
  let cs ← offsetColon cs
  let (m, cs) ← offsetDigits cs
  if m ≤ 59 then .ok (3600 * h + 60 * m, cs) else .error .outOfRange

/-- Reads the offset from UTC, in seconds. -/
def readOffset : List Char → Except Fault (Int × List Char)
  | [] => .error .tooShort
  | c :: cs =>
    if c = 'Z' ∨ c = 'z' then .ok (0, cs)
    else if c = '+' then (readOffsetSize cs).map fun r => ((r.1 : Int), r.2)
    else if c = '-' ∨ c = '\u2212' then (readOffsetSize cs).map fun r => (-(r.1 : Int), r.2)
    else .error .invalid

/-- The instant of a day, time, fraction and offset. Second 60 is a leap second after second 59. -/
def assemble (day : Civil.Date) (c : Clock) (nanos : Nat) (offset : Int) : Option Instant :=
  let leap := c.second = 60
  let second := if leap then 59 else c.second
  Instant.ofParts?
    (86400 * Civil.toDays day + (3600 * c.hour + 60 * c.minute + second : Nat) - offset)
    (nanos + if leap then nanosPerSecond else 0)

/-- Reads a timestamp from the characters of a text. -/
def readChars (cs : List Char) : Except Fault Instant := do
  if Text.byteLength cs < 19 then throw .tooShort
  let (day, cs) ← readDate cs
  let cs ← separator cs
  let (c, cs) ← readClock cs
  let (nanos, cs) ← readFraction cs
  if 23 < c.hour ∨ 59 < c.minute ∨ 60 < c.second then throw .outOfRange
  let (offset, cs) ← readOffset cs
  if cs ≠ [] then throw .tooLong
  if 86400 ≤ offset.natAbs then throw .outOfRange
  match assemble day c nanos offset with
  | some t => .ok t
  | none => .error .outOfRange

/-- Reads a timestamp. -/
def read (s : String) : Except Fault Instant := readChars s.toList

/-- The timestamp that a text is, if it is one. -/
def read? (s : String) : Option Instant := (read s).toOption

end Rfc3339
end RecordSync
