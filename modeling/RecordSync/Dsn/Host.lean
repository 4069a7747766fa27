import RecordSync.Dsn.Fault
import RecordSync.Dsn.Ip
import RecordSync.Text.Ascii
import RecordSync.Text.Percent
import RecordSync.Text.Punycode

/-!
# Hosts

A host in brackets is an IPv6 address. Any other is a name: with most schemes a text without the
characters that stand for something in an address, with the schemes of the web a domain name, which
may be percent-encoded and in any script, or an IPv4 address in its loose form.

Key definitions: `Dsn.Scheme`, `Dsn.checkHost`.
-/
namespace RecordSync
namespace Dsn

/-- The kinds of schemes, which differ in their form. -/
inductive Scheme where
  | web
  | file
  | other
  deriving DecidableEq, Repr

namespace Scheme

/-- The kind of a scheme, whose name is in lower case. -/
def ofName (name : String) : Scheme :=
  if ["http", "https", "ws", "wss", "ftp"].contains name then .web
  else if name = "file" then .file
  else .other

/-- Whether a character separates the steps of a path. -/
def separates (s : Scheme) (c : Char) : Bool := c == '/' || (s != .other && c == '\\')

/-- Whether a character ends what leads to the server. -/
def endsAuthority (s : Scheme) (c : Char) : Bool := s.separates c || c == '?' || c == '#'

end Scheme

/-! ### Domain names -/

/-- The characters of ASCII that stand for something in an address. -/
def reserved : List Char := ['#', '/', ':', '<', '>', '?', '@', '[', '\\', ']', '^', '|', ' ']

/-- Whether a character may stand in a domain name. -/
def isDomainChar (c : Char) : Bool :=
  !reserved.contains c && c != '%' && !Text.isUnprinted c && c != '\ufffd'

/-- Whether a character of a domain name does not count. -/
def isIgnored (c : Char) : Bool :=
  let n := c.toNat
  n == 0xAD || n == 0x200B || n == 0x2060 || n == 0xFEFF || (0xFE00 ≤ n && n ≤ 0xFE0F)

/-- The character of ASCII that a wide one, or a point of another script, stands for. -/
def narrow (c : Char) : Char :=
  if 0xFF01 ≤ c.toNat ∧ c.toNat ≤ 0xFF5E then Char.ofNat (c.toNat - 0xFEE0)
  else if c = '\u3002' ∨ c = '\uff61' then '.'
  else c

/-- Whether a label that says so stands for letters of another script. -/
def isLabel (cs : List Char) : Bool :=
  match cs.map Char.toLower with
  | 'x' :: 'n' :: '-' :: '-' :: rest =>
    !rest.isEmpty && rest.getLast? != some '-' &&
      (Punycode.decode? rest).any fun label => label.all isDomainChar
  | _ => true

/-- The first fault of a domain name. -/
def checkDomain (cs : List Char) : Except Fault Unit :=
  match Utf8.decode (Percent.decode cs) with
  | .error _ => .error .invalidDomain
  | .ok decoded =>
    let name := (decoded.filter fun c => !isIgnored c).map narrow
    if !name.all isDomainChar || !(Text.split '.' name).all isLabel then .error .invalidDomain
    else if name.isEmpty then .error .emptyHost
    else if Ip.endsInNumber name && !Ip.isLoose name then .error .invalidIp4
    else .ok ()

/-! ### Hosts of any scheme -/

/-- Whether a character may stand in a name that is no domain name. -/
def isNameChar (c : Char) : Bool := !reserved.contains c && c != '\x00'

/-- The first fault of the text of a host. -/
def checkHost (s : Scheme) (cs : List Char) : Except Fault Unit :=
  match cs with
  | '[' :: rest =>
    if rest.getLast? = some ']' ∧ Ip.isGroups rest.dropLast then .ok () else .error .invalidIp6
  | _ =>
    if s = .other then if cs.all isNameChar then .ok () else .error .invalidHost
    else checkDomain cs

end Dsn
end RecordSync
