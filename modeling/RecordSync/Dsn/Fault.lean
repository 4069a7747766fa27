import RecordSync.Text.Literal
import RecordSync.Text.Utf8

/-!
# Faults of addresses

Key definitions: `Dsn.Fault`, `Dsn.Fault.text`.
-/
namespace RecordSync
namespace Dsn

/-- What is wrong with an address. -/
inductive Fault where
  | noScheme
  | emptyHost
  /-- A host with a character that no host has. -/
  | invalidHost
  /-- A host that is no domain name, be it in any script. -/
  | invalidDomain
  | invalidIp4
  | invalidIp6
  | invalidPort
  /-- A part that stands for no text. -/
  | noText (fault : Utf8.Fault)
  | unknownSslMode (value : String)
  /-- A setting whose value is no number, or none that fits. -/
  | emptyNumber
  | noNumber
  | largeNumber
  /-- A setting whose value is no network address. -/
  | invalidIp
  deriving DecidableEq, Repr

/-- What is said about a fault. -/
def Fault.text : Fault → String
  | .noScheme => "relative URL without a base"
  | .emptyHost => "empty host"
  | .invalidHost => "invalid domain character"
  | .invalidDomain => "invalid international domain name"
  | .invalidIp4 => "invalid IPv4 address"
  | .invalidIp6 => "invalid IPv6 address"
  | .invalidPort => "invalid port number"
  | .noText fault => fault.text
  | .unknownSslMode value =>
    "error with configuration: unknown value " ++ Text.literal value ++ " for `ssl_mode`"
  | .emptyNumber => "cannot parse integer from empty string"
  | .noNumber => "invalid digit found in string"
  | .largeNumber => "number too large to fit in target type"
  | .invalidIp => "invalid IP address syntax"

end Dsn
end RecordSync
