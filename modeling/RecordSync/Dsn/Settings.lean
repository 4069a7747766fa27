import RecordSync.Dsn.Parts

/-!
# Settings in addresses

What a part of an address stands for has to be text. The query sets values by name: a way of
encryption, a number of statements, a port, a network address. Other names do not matter.

Key definitions: `Dsn.Parts.check`, `Dsn.settings`, `Dsn.checkSetting`.
-/
namespace RecordSync
namespace Dsn

/-! ### Parts as text -/

/-- Refuses a part that stands for no text. -/
def checkText (cs : List Char) : Except Fault Unit :=
  match Utf8.decode (Percent.decode cs) with
  | .ok _ => .ok ()
  | .error fault => .error (.noText fault)

/-- Refuses a host that stands for a path in the file system, but not for text. -/
def checkSocket (cs : List Char) : Except Fault Unit :=
  if (Percent.decode cs).head? = some 0x2F then checkText cs else .ok ()

/-! ### The query -/

/-- What a piece of a query stands for. -/
def decodePiece (cs : List Char) : String :=
  String.ofList (Utf8.decodeLossy (Percent.decode (cs.map fun c => if c = '+' then ' ' else c)))

/-- A setting: its name, and its value after the first equals sign. -/
def settingOf (cs : List Char) : String × String :=
  (decodePiece (cs.takeWhile (· != '=')), decodePiece ((cs.dropWhile (· != '=')).drop 1))

/-- The settings of a query, in its order. -/
def settings (query : List Char) : List (String × String) :=
  ((Text.split '&' query).filter fun piece => !piece.isEmpty).map settingOf

/-- The ways of encryption. -/
def sslModes : List String := ["disable", "allow", "prefer", "require", "verify-ca", "verify-full"]

/-- Refuses digits, after some of value `high`, that go beyond a number or are none; what comes
first decides. -/
def checkDigits (largest high : Nat) : List Char → Except Fault Unit
  | [] => .ok ()
  | c :: cs =>
    match Decimal.digit? c with
    | none => .error .noNumber
    | some d =>
      if largest < 10 * high + d then .error .largeNumber
      else checkDigits largest (10 * high + d) cs

/-- Refuses what is no number up to a bound, with an optional plus sign. -/
def checkNumber (largest : Nat) (value : String) : Except Fault Unit :=
  match value.toList with
  | [] => .error .emptyNumber
  | ['+'] => .error .noNumber
  | '+' :: cs => checkDigits largest 0 cs
  | cs => checkDigits largest 0 cs

/-- Refuses a setting with a value that it cannot have. -/
def checkSetting (e : String × String) : Except Fault Unit :=
  match e.1 with
  | "sslmode" | "ssl-mode" =>
    if sslModes.contains (Text.lower e.2) then .ok () else .error (.unknownSslMode e.2)
  | "statement-cache-capacity" => checkNumber 18446744073709551615 e.2
  | "port" => checkNumber 65535 e.2
  | "hostaddr" =>
    if Ip.isQuad e.2.toList || Ip.isGroups e.2.toList then .ok () else .error .invalidIp
  | _ => .ok ()

/-- Refuses parts, from left to right, that cannot be used. -/
def Parts.check (p : Parts) : Except Fault Unit := do
  checkSocket p.host
  checkText p.user
  checkText p.password
  checkText p.path
  (settings p.query).forM checkSetting

end Dsn
end RecordSync
