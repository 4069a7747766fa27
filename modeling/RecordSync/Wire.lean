import RecordSync.Text.Utf8
import RecordSync.Time.Rfc3339

/-!
# Values as the store sends them

The store sends a value as bytes: a truth value as one byte, a whole number as up to eight bytes in
two's complement with the most significant first, a text as UTF-8, a point in time as the number of
its microseconds since 2000, a UUID as its sixteen bytes. A reader gives the value, or what is wrong
with the bytes. The writers here are what the readers undo.

Key definitions: `Wire.Fault`, `Wire.readInt`, `Wire.intBytes`, `Wire.readInstant`, `Wire.readText`,
`Wire.uuidText`.
-/
namespace RecordSync
namespace Wire

/-! ### Faults -/

/-- Why bytes are no value of a kind. -/
inductive Fault where
  /-- A whole number without a byte. -/
  | noInteger
  /-- A whole number of more than eight bytes. -/
  | longInteger (size : Nat)
  /-- A whole number beyond the bounds of its type. -/
  | tooLarge
  | tooSmall
  /-- A point in time that no calendar day has. -/
  | noInstant
  /-- A truth value without a byte. -/
  | noTruthValue
  | noText (fault : Utf8.Fault)
  /-- A UUID that has not sixteen bytes. -/
  | uuidSize (size : Nat)
  deriving DecidableEq, Repr

/-- What is said about a fault. -/
def Fault.text : Fault → String
  | .noInteger => "Value Buffer found empty while decoding to integer type"
  | .longInteger size =>
    "Value Buffer exceeds 8 bytes while decoding to integer type. Buffer size = " ++
      Decimal.writeNat size ++ " bytes "
  | .tooLarge => "number too large to fit in target type"
  | .tooSmall => "number too small to fit in target type"
  | .noInstant => "timestamp out of range"
  | .noTruthValue => "truth value without a byte"
  | .noText fault => fault.text
  | .uuidSize size => "invalid length: expected 16 bytes, found " ++ Decimal.writeNat size

/-! ### Whole numbers -/

/-- The value of bytes, most significant first, after bytes of value `high`. -/
def unsignedFrom (high : Nat) : List UInt8 → Nat
  | [] => high
  | b :: bs => unsignedFrom (256 * high + b.toNat) bs

/-- The number of one to eight bytes in two's complement. -/
def readInt (bs : List UInt8) : Except Fault Int :=
  match bs with
  | [] => .error .noInteger
  | b :: _ =>
    if 8 < bs.length then .error (.longInteger bs.length)
    else
      let n : Int := unsignedFrom 0 bs
      .ok (if b.toNat < 128 then n else n - Nat.pow 256 bs.length)

/-- A number of a type with bounds, given what the type makes of numbers within them. -/
def bounded {α : Type} (ofInt? : Int → Option α) (n : Int) : Except Fault α :=
  match ofInt? n with
  | some x => .ok x
  | none => .error (if n < 0 then .tooSmall else .tooLarge)

/-- A whole number of so many bits. -/
def readIntOf (bits : Nat) (bs : List UInt8) : Except Fault Int := do
  let n ← readInt bs
  let bound : Int := Nat.pow 2 (bits - 1)
  bounded (fun n => if -bound ≤ n ∧ n < bound then some n else none) n

/-- The last bytes of a natural number, most significant first. -/
def unsignedBytes : Nat → Nat → List UInt8
  | 0, _ => []
  | width + 1, n => unsignedBytes width (n / 256) ++ [UInt8.ofNat n]

/-- A number in two's complement of a width. -/
def intBytes (width : Nat) (n : Int) : List UInt8 :=
  unsignedBytes width (n % Nat.pow 256 width).toNat

/-! ### Points in time -/

/-- A point in time by its microseconds since 2000. -/
def readInstant (bs : List UInt8) : Except Fault Instant := do
  let us ← readInt bs
  match Instant.ofMicros? (us + 1000000 * Instant.storeEpoch) with
  | some t => .ok t
  | none => .error .noInstant

/-- The microseconds since 1970 of a point in time, as they are sent. -/
def microsBytes (us : Int) : List UInt8 := intBytes 8 (us - 1000000 * Instant.storeEpoch)

/-! ### Truth values, texts and UUIDs -/

/-- A truth value: false for the byte zero. -/
def readBool : List UInt8 → Except Fault Bool
  | [] => .error .noTruthValue
  | b :: _ => .ok (b != 0)

/-- A truth value as it is sent. -/
def boolBytes (b : Bool) : List UInt8 := [if b then 1 else 0]

/-- The text of valid UTF-8. -/
def readText (bs : List UInt8) : Except Fault String :=
  match Utf8.decode bs with
  | .ok cs => .ok (String.ofList cs)
  | .error fault => .error (.noText fault)

/-- A text as it is sent. -/
def textBytes (s : String) : List UInt8 := Text.bytes s

/-- Two hexadecimal digits in lower case. -/
def hexByte (b : UInt8) : List Char :=
  [Nat.digitChar (b.toNat / 16), Nat.digitChar (b.toNat % 16)]

/-- Sixteen bytes in groups of 8, 4, 4, 4 and 12 hexadecimal digits. -/
def uuidText (bs : List UInt8) : Except Fault String :=
  if bs.length = 16 then
    let part (start count : Nat) := ((bs.drop start).take count).flatMap hexByte
    .ok (String.ofList (part 0 4 ++ '-' :: part 4 2 ++ '-' :: part 6 2 ++ '-' :: part 8 2 ++
      '-' :: part 10 6))
  else .error (.uuidSize bs.length)

end Wire
end RecordSync
