import RecordSync.Text.Bytes
import RecordSync.Text.Decimal

/-!
# Reading UTF-8

Bytes fall into pieces: whole characters, starts of a character that the next byte does not go on
with, and a start that the end cuts off. A byte that starts no character is a piece by itself, and a
byte that breaks a character off is looked at again. Text is read strictly, where the first broken
piece is a fault, or leniently, where each becomes U+FFFD.

Key definitions: `Utf8.Piece`, `Utf8.pieces`, `Utf8.Fault`, `Utf8.decode`, `Utf8.decodeLossy`.
-/
namespace RecordSync
namespace Utf8

/-! ### Pieces -/

/-- A character of which some bytes are there and one at least is to come. -/
structure Partial where
  /-- The number of bytes that are there. -/
  taken : Nat
  /-- The bits that they hold. -/
  bits : Nat
  /-- The least and the greatest byte that may come next. -/
  least : Nat := 0x80
  greatest : Nat := 0xBF
  /-- The number of bytes to come after the next. -/
  later : Nat
  deriving DecidableEq, Repr

/-- A run of bytes that belong together. -/
inductive Piece where
  | char (c : Char)
  /-- So many bytes that no character goes on with, or a single one that starts none. -/
  | broken (length : Nat)
  /-- So many bytes of a character that the end cuts off. -/
  | cut (length : Nat)
  deriving DecidableEq, Repr

/-- The character that a first byte starts, if it starts one of several bytes. -/
def start? (b : Nat) : Option Partial :=
  if 0xC2 ≤ b ∧ b ≤ 0xDF then some { taken := 1, bits := b - 0xC0, later := 0 }
  else if b = 0xE0 then some { taken := 1, bits := 0, least := 0xA0, later := 1 }
  else if b = 0xED then some { taken := 1, bits := 0xD, greatest := 0x9F, later := 1 }
  else if 0xE1 ≤ b ∧ b ≤ 0xEF then some { taken := 1, bits := b - 0xE0, later := 1 }
  else if b = 0xF0 then some { taken := 1, bits := 0, least := 0x90, later := 2 }
  else if 0xF1 ≤ b ∧ b ≤ 0xF3 then some { taken := 1, bits := b - 0xF0, later := 2 }
  else if b = 0xF4 then some { taken := 1, bits := 4, greatest := 0x8F, later := 2 }
  else none

/-- What a byte between characters completes, and what it starts. -/
def begin (b : Nat) : List Piece × Option Partial :=
  if b < 0x80 then ([.char (Char.ofNat b)], none)
  else
    match start? b with
    | some p => ([], some p)
    | none => ([.broken 1], none)

/-- What the next byte completes, and what is under way after it. -/
def step (under : Option Partial) (b : Nat) : List Piece × Option Partial :=
  match under with
  | none => begin b
  | some p =>
    if p.least ≤ b ∧ b ≤ p.greatest then
      let bits := 64 * p.bits + (b - 0x80)
      if p.later = 0 then ([.char (Char.ofNat bits)], none)
      else ([], some { taken := p.taken + 1, bits := bits, later := p.later - 1 })
    else (.broken p.taken :: (begin b).1, (begin b).2)

/-- The pieces of bytes, given what is under way before them. -/
def piecesFrom (under : Option Partial) : List UInt8 → List Piece
  | [] =>
    match under with
    | none => []
    | some p => [.cut p.taken]
  | b :: bs => (step under b.toNat).1 ++ piecesFrom (step under b.toNat).2 bs

/-- The pieces of bytes. -/
def pieces (bs : List UInt8) : List Piece := piecesFrom none bs

/-! ### Strict reading -/

/-- Why bytes are no text, and from which byte on. -/
inductive Fault where
  /-- So many bytes are no character. -/
  | invalid (length index : Nat)
  /-- The end cuts a character off. -/
  | incomplete (index : Nat)
  deriving DecidableEq, Repr

/-- What is said about a fault. -/
def Fault.text : Fault → String
  | .invalid length index =>
    "invalid utf-8 sequence of " ++ Decimal.writeNat length ++ " bytes from index " ++
      Decimal.writeNat index
  | .incomplete index => "incomplete utf-8 byte sequence from index " ++ Decimal.writeNat index

/-- The characters of pieces that start at an index, if none is broken. -/
def charsOf (index : Nat) : List Piece → Except Fault (List Char)
  | [] => .ok []
  | .char c :: ps => (charsOf (index + c.utf8Size) ps).map (c :: ·)
  | .broken length :: _ => .error (.invalid length index)
  | .cut _ :: _ => .error (.incomplete index)

/-- The characters of bytes, or the first fault. -/
def decode (bs : List UInt8) : Except Fault (List Char) := charsOf 0 (pieces bs)

/-! ### Lenient reading -/

/-- The character that stands for a piece. -/
def Piece.shown : Piece → Char
  | .char c => c
  | .broken _ => '\ufffd'
  | .cut _ => '\ufffd'

/-- The characters of bytes, with U+FFFD for what is broken. -/
def decodeLossy (bs : List UInt8) : List Char := (pieces bs).map Piece.shown

end Utf8
end RecordSync
