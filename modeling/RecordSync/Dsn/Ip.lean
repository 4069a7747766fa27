import RecordSync.Json.Parser
import RecordSync.Text.Decimal
import RecordSync.Text.Split

/-!
# Network addresses

An IPv4 address is written as four decimal numbers up to 255 with points between them. A host may
give it in a looser form: with fewer numbers, of which the last fills what is left, and in octal or
hexadecimal. An IPv6 address is written as eight groups of hexadecimal digits, where two colons
stand for one or more groups of zeros and the last two groups may be an IPv4 address.

Key definitions: `Dsn.Ip.isQuad`, `Dsn.Ip.isGroups`, `Dsn.Ip.endsInNumber`, `Dsn.Ip.isLoose`.
-/
namespace RecordSync
namespace Dsn
namespace Ip

/-! ### Exact form -/

/-- Whether digits are a number up to 255 without a leading zero. -/
def isOctet (cs : List Char) : Bool :=
  ((Decimal.value? cs).any fun n => n ≤ 255) && (cs.length == 1 || cs.head? != some '0')

/-- Whether a text is an IPv4 address in its exact form. -/
def isQuad (cs : List Char) : Bool :=
  let parts := Text.split '.' cs
  parts.length == 4 && parts.all isOctet

/-- Whether a piece is a group of an IPv6 address. -/
def isGroup (cs : List Char) : Bool :=
  !cs.isEmpty && cs.length ≤ 4 && cs.all fun c => (Json.hexValue? c).isSome

/-- The number of groups that pieces are, the last of which may stand for two. -/
def groupCount? (mayEndInQuad : Bool) : List (List Char) → Option Nat
  | [] => some 0
  | [p] => if isGroup p then some 1 else if mayEndInQuad && isQuad p then some 2 else none
  | p :: ps => if isGroup p then (groupCount? mayEndInQuad ps).map (· + 1) else none

/-- The number of groups in a text, which may be empty. -/
def groups? (mayEndInQuad : Bool) (cs : List Char) : Option Nat :=
  if cs.isEmpty then some 0 else groupCount? mayEndInQuad (Text.split ':' cs)

/-- What stands in front of the first two colons in a row, and what behind them. -/
def splitColons? : List Char → Option (List Char × List Char)
  | ':' :: ':' :: cs => some ([], cs)
  | c :: cs => (splitColons? cs).map fun r => (c :: r.1, r.2)
  | [] => none

/-- Whether a text is an IPv6 address. -/
def isGroups (cs : List Char) : Bool :=
  match splitColons? cs with
  | none => groups? true cs == some 8
  | some (front, back) =>
    match groups? false front, groups? true back with
    | some m, some n => m + n ≤ 7
    | _, _ => false

/-! ### Loose form -/

/-- The value of digits of a base. -/
def valueOf? (base : Nat) (cs : List Char) : Option Nat :=
  cs.foldlM (fun n c => ((Json.hexValue? c).filter (· < base)).map (base * n + ·)) 0

/-- The value of a number in decimal, in octal after a zero, or in hexadecimal after `0x`. -/
def number? : List Char → Option Nat
  | [] => none
  | ['0'] => some 0
  | '0' :: 'x' :: cs => valueOf? 16 cs
  | '0' :: 'X' :: cs => valueOf? 16 cs
  | '0' :: cs => valueOf? 8 cs
  | cs => valueOf? 10 cs

/-- The parts of a name between points, without an empty last one. -/
def parts (cs : List Char) : List (List Char) :=
  let ps := Text.split '.' cs
  if ps.getLast? == some [] then ps.dropLast else ps

/-- Whether the last part of a name is a number or has digits only. -/
def endsInNumber (cs : List Char) : Bool :=
  match (parts cs).getLast? with
  | none => false
  | some p => (!p.isEmpty && p.all Decimal.isDigit) || (number? p).isSome

/-- Whether numbers are an IPv4 address: each but the last is a byte, and the last fills the bytes
that are left. -/
def fill (ns : List Nat) : Bool :=
  match ns.reverse with
  | [] => false
  | last :: others => ns.length ≤ 4 && others.all (· ≤ 255) && last < Nat.pow 256 (5 - ns.length)

/-- Whether a text is an IPv4 address in its loose form. -/
def isLoose (cs : List Char) : Bool := ((parts cs).mapM number?).any fill

end Ip
end Dsn
end RecordSync
