import RecordSync.Dsn.Host
import RecordSync.Text.Ascii

/-!
# Parts of addresses

An address is a URL: a scheme and a colon, and mostly two slashes with what leads to the server,
which is perhaps a user in front of an `@`, a host, and perhaps a port behind a colon. A path and a
query after a question mark may follow. The steps `.` and `..` of a path are taken.

Key definitions: `Dsn.Parts`, `Dsn.Parts.read`, `Dsn.cleaned`.
-/
namespace RecordSync
namespace Dsn

/-- The parts of an address, as they are written. -/
structure Parts where
  user : List Char := []
  password : List Char := []
  host : List Char := []
  /-- The path without slashes in front. -/
  path : List Char := []
  query : List Char := []
  deriving DecidableEq, Repr

/-! ### Scheme -/

/-- Whether a character is dropped at the ends of an address. -/
def isControlOrSpace (c : Char) : Bool := c.toNat ≤ 0x20

/-- The address without what surrounds it, and without tabs and line ends. -/
def cleaned (cs : List Char) : List Char :=
  let back := (cs.dropWhile isControlOrSpace).reverse.dropWhile isControlOrSpace
  back.reverse.filter fun c => c != '\t' && c != '\n' && c != '\r'

/-- Whether a character may stand in a scheme. -/
def isSchemeChar (c : Char) : Bool := c.isAlphanum || c == '+' || c == '-' || c == '.'

/-- The scheme, and what follows it and its colon. -/
def splitScheme? : List Char → Option (Scheme × List Char)
  | [] => none
  | c :: cs =>
    if c.isAlpha then
      match cs.dropWhile isSchemeChar with
      | ':' :: rest =>
        some (.ofName (Text.lower (String.ofList (c :: cs.takeWhile isSchemeChar))), rest)
      | _ => none
    else none

/-! ### User, host and port -/

/-- What stands in front of the last `@`, and what behind it. -/
def splitUser? : List Char → Option (List Char × List Char)
  | [] => none
  | c :: cs =>
    match splitUser? cs with
    | some (front, back) => some (c :: front, back)
    | none => if c = '@' then some ([], cs) else none

/-- Reads the user with the password; gives what follows. -/
def readUser (s : Scheme) (cs : List Char) : Except Fault (Parts × List Char) :=
  let authority := cs.takeWhile fun c => !s.endsAuthority c
  let behind := cs.dropWhile fun c => !s.endsAuthority c
  match splitUser? authority with
  | none => .ok ({}, cs)
  | some ([], rest) =>
    if rest.isEmpty && !behind.isEmpty then .error .emptyHost else .ok ({}, rest ++ behind)
  | some (front, rest) =>
    let user := front.takeWhile (· != ':')
    .ok ({ user := user, password := front.drop (user.length + 1) }, rest ++ behind)

/-- The text of the host, and what follows. Within brackets a colon belongs to it. -/
def spanHost (s : Scheme) (inside : Bool) : List Char → List Char × List Char
  | [] => ([], [])
  | c :: cs =>
    if (c == ':' && !inside) || s.endsAuthority c then ([], c :: cs)
    else
      let rest := spanHost s (c == '[' || (inside && c != ']')) cs
      (c :: rest.1, rest.2)

/-- What follows a port: nothing, or what starts a path or a query, be it in any scheme. -/
def afterPort (cs : List Char) : Except Fault (List Char) :=
  let port := cs.takeWhile Decimal.isDigit
  let rest := cs.dropWhile Decimal.isDigit
  if (Decimal.value? port).any fun n => 65535 < n then .error .invalidPort
  else if rest.head?.all fun c => ['/', '\\', '?', '#'].contains c then .ok rest
  else .error .invalidPort

/-- What follows the colon of a port, if one is there, and else all. -/
def readPort (cs : List Char) : Except Fault (List Char) :=
  match cs with
  | ':' :: rest => afterPort rest
  | cs => .ok cs

/-- Reads the host with the port; gives what follows. A host is missing only if nothing is said
about it and the scheme does without. -/
def readHost (s : Scheme) (p : Parts) (cs : List Char) : Except Fault (Parts × List Char) := do
  let (host, rest) := spanHost s false cs
  if host.isEmpty && s = .web then throw .emptyHost
  checkHost s host
  if host.isEmpty && (rest.head? = some ':' || !p.user.isEmpty || !p.password.isEmpty) then
    throw .emptyHost
  let rest ← readPort rest
  .ok ({ p with host := host }, rest)

/-! ### Path and query -/

/-- The number of points that a step consists of, each perhaps encoded. -/
def points? : List Char → Option Nat
  | [] => some 0
  | '.' :: cs => (points? cs).map (· + 1)
  | '%' :: '2' :: 'e' :: cs => (points? cs).map (· + 1)
  | '%' :: '2' :: 'E' :: cs => (points? cs).map (· + 1)
  | _ => none

/-- The steps taken so far, given backwards, after one more. -/
def takeStep (taken : List (List Char)) (step : List Char) : List (List Char) :=
  match points? step with
  | some 1 => taken
  | some 2 => taken.drop 1
  | _ => step :: taken

/-- Whether a step only leads somewhere. -/
def isPoints (step : List Char) : Bool :=
  match points? step with
  | some 1 | some 2 => true
  | _ => false

/-- The steps of a path; where the last one only leads somewhere, an empty one stands behind. -/
def takeSteps (steps : List (List Char)) : List (List Char) :=
  let taken := steps.foldl takeStep []
  (if steps.getLast?.any isPoints then [] :: taken else taken).reverse

/-- Steps with a slash in front of each. -/
def joinSteps (steps : List (List Char)) : List Char := steps.flatMap ('/' :: ·)

/-- A path once its steps are taken. -/
def resolvePath (s : Scheme) (cs : List Char) : List Char :=
  joinSteps (takeSteps (Text.split '/' (cs.map fun c => if s.separates c then '/' else c)))

/-- The path, and the query without its question mark. -/
def splitQuery (cs : List Char) : List Char × List Char :=
  let cs := cs.takeWhile (· != '#')
  (cs.takeWhile (· != '?'), (cs.dropWhile (· != '?')).drop 1)

/-- The parts with a path, whose steps are taken, and a query. -/
def Parts.withPath (s : Scheme) (p : Parts) (cs : List Char) : Parts :=
  let (path, query) := splitQuery cs
  { p with path := (resolvePath s path).dropWhile (· == '/'), query := query }

/-- The parts of an address without a server, whose path is taken as it is. -/
def Parts.ofOpaque (cs : List Char) : Parts :=
  let (path, query) := splitQuery cs
  { path := path, query := query }

/-! ### Addresses -/

/-- Reads what follows two slashes. -/
def readServer (s : Scheme) (cs : List Char) : Except Fault Parts := do
  let (p, rest) ← readUser s cs
  let (p, rest) ← readHost s p rest
  .ok (p.withPath s rest)

/-- Whether a text is a letter with a colon or bar, which names a drive and no host. -/
def isDrive : List Char → Bool
  | [c, d] => c.isAlpha && (d == ':' || d == '|')
  | _ => false

/-- Reads what follows two slashes after the scheme of files: a host, which has neither user nor
port, and a path. -/
def readFileHost (cs : List Char) : Except Fault Parts := do
  let host := cs.takeWhile fun c => !Scheme.file.endsAuthority c
  let rest := cs.dropWhile fun c => !Scheme.file.endsAuthority c
  if host.isEmpty || isDrive host then .ok (Parts.withPath .file {} cs)
  else do
    checkHost .file host
    .ok (Parts.withPath .file {} rest)

/-- The parts of an address that is cleaned, or its first fault. -/
def Parts.read (cs : List Char) : Except Fault Parts :=
  match splitScheme? cs with
  | none => .error .noScheme
  | some (.web, rest) => readServer .web (rest.dropWhile Scheme.web.separates)
  | some (.file, a :: b :: rest) =>
    if Scheme.file.separates a && Scheme.file.separates b then readFileHost rest
    else .ok (Parts.withPath .file {} (a :: b :: rest))
  | some (.file, rest) => .ok (Parts.withPath .file {} rest)
  | some (.other, '/' :: '/' :: rest) => readServer .other rest
  | some (.other, '/' :: rest) => .ok (Parts.withPath .other {} rest)
  | some (.other, rest) => .ok (Parts.ofOpaque rest)

end Dsn
end RecordSync
