import RecordSync.Context
import RecordSync.Row
import RecordSync.Statement

/-!
# Sessions with the store

A session is what calls have to do with: the connection pool, the replies that the store has in
hand, the clock, and the log of what was asked of the store so far. A call is a function of the
session; it gives a value or halts, and leaves the session changed.

`Session.ask` is the one way to a reply. It asks nothing if the context has ended, if the pool is
closed or if the store cannot be reached; otherwise it asks once, takes one reply, and never asks
again.

Key definitions: `Reply`, `Session`, `Halt`, `Call`, `Session.ask`, `Session.execute`,
`Session.fetch`.
-/
namespace RecordSync

/-- What the store answers. -/
inductive Answer where
  /-- It is done, with so many rows written. -/
  | done (affected : Nat)
  | rows (columns : List ColumnInfo) (rows : List (List Cell))
  /-- An error of the database, by its SQL state. -/
  | refused (code message : String)
  /-- The connection is gone. -/
  | dropped
  deriving DecidableEq, Repr

/-- An answer, when it arrives, and the time that passes until the caller goes on. -/
structure Reply where
  /-- The time until the answer arrives; nothing if it never does. -/
  delay : Option Nat := some 0
  answer : Answer
  pause : Nat := 0
  deriving DecidableEq, Repr

/-- The reply when none is in hand. -/
def Reply.absent : Reply := { answer := .refused "XX000" "unscripted statement" }

/-- A migration that the store has applied, perhaps in another form than the known one. -/
structure AppliedMigration where
  version : Int
  modified : Bool
  deriving DecidableEq, Repr

/-- An error of the database. -/
structure DatabaseFault where
  code : String
  message : String
  deriving DecidableEq, Repr

/-- The error as the client reports it. -/
def DatabaseFault.toClientError (f : DatabaseFault) : ClientError :=
  .database (Violation.ofCode f.code) f.message

instance : Coe DatabaseFault ClientError := ⟨DatabaseFault.toClientError⟩

instance : Coe (Int × DatabaseFault) (Int × ClientError) := ⟨fun p => (p.1, p.2)⟩

/-- What the client reports when nothing listens at the address. -/
def ClientError.unreachable : ClientError := .io "No such file or directory (os error 2)"

/-- Where the store is with its migrations, and what will go wrong with them. -/
structure SchemaState where
  applied : List AppliedMigration := []
  dirty : Option Int := none
  /-- What a migration will fail with, by its version. -/
  failure : Option (Int × ClientError) := none
  /-- What keeps migrations from being started. -/
  lockFailure : Option ClientError := none
  deriving DecidableEq, Repr

/-- A pool of connections. -/
structure Pool where
  reachable : Bool
  closed : Bool := false
  deriving DecidableEq, Repr

/-- What the store was asked to do. -/
inductive Event where
  | query (q : Query)
  | migration (version : Int)
  deriving DecidableEq, Repr

/-- What calls have to do with. -/
structure Session where
  pool : Pool
  replies : List Reply := []
  schema : SchemaState := {}
  now : Time := 0
  log : List Event := []
  /-- What the client reports when the store of the pool cannot be reached. -/
  lacking : ClientError := .unreachable
  deriving DecidableEq, Repr

/-- Why a call gives no value. -/
inductive Halt where
  | failed (e : StoreError)
  /-- The store stays silent and nothing ends the call. -/
  | waiting
  deriving DecidableEq, Repr

/-- A call on a session. -/
abbrev Call (α : Type) := ExceptT Halt (StateM Session) α

namespace Call

/-- The call that fails. -/
def fail {α : Type} (e : StoreError) : Call α := throw (.failed e)

/-- The call that gives a value, or fails, without looking at the session. -/
def ofExcept {α : Type} : Except StoreError α → Call α
  | .ok x => pure x
  | .error e => fail e

/-- The call that gives a value, or fails as the client reports during an operation. -/
def ofClient {α : Type} (op : String) : Except ClientError α → Call α
  | .ok x => pure x
  | .error e => fail (StoreError.classify op e)

/-- The call that gives a value, or fails as an argument is refused. -/
def ofValidation {α : Type} : Except ValidationError α → Call α
  | .ok x => pure x
  | .error e => fail (.invalidArgument e)

end Call

namespace Session

/-- What the client reports when the connection is gone. -/
def connectionLost : ClientError := .io "expected to read 5 bytes, got 0 bytes at EOF"

/-- Refuses an operation whose context has ended. -/
def check (l : Limits) (op : String) : Call Unit := do
  let s ← get
  Call.ofExcept (l.check op s.now)

/-- A connection of the pool, if there is one to have. -/
def acquire (s : Session) : Except ClientError Unit :=
  if s.pool.closed then .error .poolClosed
  else if s.pool.reachable then .ok ()
  else .error s.lacking

/-- The next reply in hand. -/
def nextReply (s : Session) : Reply := s.replies.headD .absent

/-- The session after a query was sent. -/
def sent (s : Session) (q : Query) : Session :=
  { s with replies := s.replies.tail, log := s.log ++ [.query q] }

/-- Asks the store, and waits for its answer. -/
def ask (l : Limits) (op : String) (q : Query) : Call Answer := do
  check l op
  let s ← get
  Call.ofClient op s.acquire
  set (s.sent q)
  let reply := s.nextReply
  match l.wait (reply.delay.map (s.now + ·)) with
  | .never => throw .waiting
  | .ended t how =>
    modify fun s => { s with now := t }
    Call.fail (how.error op)
  | .answered t =>
    modify fun s => { s with now := t + reply.pause }
    match reply.answer with
    | .refused code message =>
      Call.ofClient op (.error (DatabaseFault.toClientError ⟨code, message⟩))
    | .dropped => Call.ofClient op (.error connectionLost)
    | answer => pure answer

/-- The rows of an answer, each value under its column. -/
def rowsOf : Answer → List Row
  | .rows columns rows => rows.map fun row => (columns.zip row).map fun p => ⟨p.1, p.2⟩
  | _ => []

/-- Writes, and gives the number of rows that were written. -/
def execute (l : Limits) (op : String) (q : Query) : Call Nat := do
  match ← ask l op q with
  | .done affected => pure affected
  | answer => pure (rowsOf answer).length

/-- Reads rows. -/
def fetch (l : Limits) (op : String) (q : Query) : Call (List Row) := do
  let answer ← ask l op q
  pure (rowsOf answer)

end Session
end RecordSync
