import RecordSync.Json.Parser
import RecordSync.Text.Bytes

/-!
# Percent encoding

In addresses a percent sign with two hexadecimal digits stands for a byte; any other stands for
itself.

Key definitions: `Percent.decode`.
-/
namespace RecordSync
namespace Percent

/-- The value of a byte that is a hexadecimal digit. -/
def digit? (b : UInt8) : Option Nat := Json.hexValue? (Char.ofNat b.toNat)

/-- The bytes with those that are encoded in place of their encoding. -/
def decodeBytes : List UInt8 → List UInt8
  | [] => []
  | b :: bs =>
    if b = 0x25 then
      match bs with
      | h :: l :: rest =>
        match digit? h, digit? l with
        | some high, some low => UInt8.ofNat (16 * high + low) :: decodeBytes rest
        | _, _ => b :: decodeBytes (h :: l :: rest)
      | rest => b :: decodeBytes rest
    else b :: decodeBytes bs

/-- The bytes that an encoded text stands for. -/
def decode (cs : List Char) : List UInt8 := decodeBytes (Text.bytes (String.ofList cs))

end Percent
end RecordSync
