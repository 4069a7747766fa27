import RecordSync.Dsn
import RecordSync.Migration

/-!
# Opening and closing the store

The store is opened by its address: the settings are checked, a connection is made, and migrations
are run. When migrations fail, the policy decides whether the store is opened all the same. A store
that is opened over a pool that is there already is taken as it is. The pool is shared by all
handles on it: it is closed once for all of them, and from then on nothing is asked of the store.

What becomes of a connection is up to the network, which is given from outside: any error of the
client may come of it.

Key definitions: `Network`, `Network.ofKnown`, `Lifecycle.refusal`, `Lifecycle.connect`,
`Lifecycle.attach`, `Lifecycle.openFrom`, `Lifecycle.close`, `Lifecycle.ping`, `Handles`,
`Handles.run?`, `Handles.openAt`.
-/
namespace RecordSync

/-- What the client makes of connecting, by the greatest number of connections, the seconds to wait
for one, and the address: a first connection is there, or an error is reported. -/
structure Network where
  dial : (maxConnections : UInt32) → (acquireTimeout : UInt64) → (address : String) →
    Except ClientError Unit

namespace Network

/-- Whether a store listens at an address, by the addresses that are known to lead somewhere. An
address that is known by name may have settings behind it; any other has to be well formed, and then
nothing listens there. -/
def listens (known : List (String × Bool)) (address : String) : Except Dsn.Fault Bool :=
  let (name, settings) := Dsn.splitSettings address
  match known.find? fun n => n.1 == name with
  | some n => (Dsn.checkSettings settings).map fun _ => n.2
  | none => (Dsn.check address).map fun _ => false

/-- The network of known addresses. Whoever does not wait at all gets no connection in time. -/
def ofKnown (known : List (String × Bool)) : Network where
  dial _ acquireTimeout address :=
    match listens known address with
    | .error fault => .error (.configuration fault.text)
    | .ok listening =>
      if acquireTimeout = 0 then .error .poolTimedOut
      else if listening then .ok ()
      else .error .unreachable

instance : Coe (List (String × Bool)) Network := ⟨ofKnown⟩

end Network

/-- What a call may find outside the store. -/
structure Surroundings where
  network : Network := .ofKnown []
  directories : Migration.Directories := []

/-- Where the connection of a store comes from. -/
inductive DataSource where
  | dsn (address : String)
  | pool (p : Pool)

namespace Lifecycle

/-- The failure of connecting with an error of the client. An address that is not well formed is a
setting that cannot be used. -/
def refusal : ClientError → StoreError
  | .configuration message => .configuration ("invalid dsn: " ++ message)
  | e => StoreError.classify "connect" e

/-- Makes a pool with a first connection. -/
def connect (network : Network) (c : Config) : Except StoreError Pool := do
  c.validate
  match network.dial c.maxConnections c.acquireTimeout c.databaseUrl with
  | .ok () => .ok { reachable := true }
  | .error e => .error (refusal e)

/-- Connects; from then on the session has the new pool. -/
def attach (network : Network) (c : Config) : Call Unit := do
  let p ← Call.ofExcept (connect network c)
  modify fun s => { s with pool := p }

/-- Runs migrations as the settings say. -/
def applyMigrations (dirs : Migration.Directories) (c : Config) : Call Unit :=
  match c.migrationPolicy with
  | .failFast => Migration.apply dirs c.migrationsDir
  | .bestEffort =>
    tryCatch (Migration.apply dirs c.migrationsDir) fun
      | .failed _ => pure ()
      | .waiting => throw .waiting

/-- Opens a store; from then on the session has its pool. -/
def openFrom (env : Surroundings) (source : DataSource) (c : Config) : Call Unit := do
  match source with
  | .pool p => modify fun s => { s with pool := p }
  | .dsn address =>
    Call.ofExcept (Config.requireUrl address)
    let c := { c with databaseUrl := address }
    attach env.network c
    applyMigrations env.directories c

/-- Opens the store at the address in the settings. -/
def openConfigured (env : Surroundings) (c : Config) : Call Unit :=
  openFrom env (.dsn c.databaseUrl) c

/-- Brings the schema up to date; every failure counts. -/
def migrate (env : Surroundings) (dir : Option String) : Call Unit :=
  Migration.apply env.directories dir

/-- Whether the store answers. -/
def ping : Call Bool := do
  let s ← get
  pure (s.acquire matches .ok ())

/-- Closes the pool; says whether it was open. -/
def close : Call Bool := do
  let s ← get
  set { s with pool := { s.pool with closed := true } }
  pure (!s.pool.closed)

/-- Whether the pool is closed. -/
def isClosed : Call Bool := do
  let s ← get
  pure s.pool.closed

end Lifecycle

/-! ### Handles -/

/-- Handles on stores, in the order in which they were made; several may share a pool. -/
structure Handles where
  pools : List Pool
  /-- The number of the pool of each handle. -/
  owners : List Nat

namespace Handles

/-- One handle, on a given pool. -/
def single (p : Pool) : Handles := ⟨[p], [0]⟩

/-- The number of handles. -/
def size (h : Handles) : Nat := h.owners.length

/-- The pool of a handle. -/
def pool? (h : Handles) (i : Nat) : Option Pool := h.owners[i]?.bind fun p => h.pools[p]?

/-- The handles after the pool of one of them has changed. -/
def setPool (h : Handles) (i : Nat) (p : Pool) : Handles :=
  match h.owners[i]? with
  | some owner => { h with pools := h.pools.set owner p }
  | none => h

/-- One more handle on the pool of a handle. -/
def share (h : Handles) (i : Nat) : Handles :=
  { h with owners := h.owners ++ h.owners[i]?.toList }

/-- One more handle, on a pool of its own. -/
def add (h : Handles) (p : Pool) : Handles := ⟨h.pools ++ [p], h.owners ++ [h.pools.length]⟩

/-- Makes a call through a handle, in a session with the handle's pool; the pool is then as the call
leaves it, for every handle on it. -/
def run? {α : Type} (h : Handles) (i : Nat) (c : Call α) (s : Session) :
    Option (Except Halt α × Session × Handles) :=
  (h.pool? i).map fun p =>
    let (result, s) := c.run { s with pool := p }
    (result, s, h.setPool i s.pool)

/-- Opens a store at an address; if it is opened, there is one more handle, whose number is
given. -/
def openAt (h : Handles) (env : Surroundings) (address : String) (c : Config) (s : Session) :
    Except Halt Nat × Session × Handles :=
  match (Lifecycle.openFrom env (.dsn address) c).run s with
  | (.ok (), s) => (.ok h.size, s, h.add s.pool)
  | (.error e, s) => (.error e, s, h)

/-- Opens a store over the pool of a handle; the new handle shares it. -/
def openOver? (h : Handles) (i : Nat) (env : Surroundings) (c : Config) (s : Session) :
    Option (Except Halt Nat × Session × Handles) :=
  (h.pool? i).map fun p =>
    match (Lifecycle.openFrom env (.pool p) c).run s with
    | (.ok (), s) => (.ok h.size, s, h.share i)
    | (.error e, s) => (.error e, s, h)

end Handles
end RecordSync
