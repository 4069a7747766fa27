import RecordSync.Accounts
import RecordSync.Proofs.Operations
import RecordSync.Proofs.Waiting

/-!
# Invocations

Everything that can be asked of the engine and of the accounts, as values. An invocation checks its
arguments first. If they are accepted it either knows its value already, as an update without fields
does, or it sends a query and goes on with the answer: there is no other way to start, so whatever
ends the context of a call ends every invocation alike.

Key definitions: `Submission`, `Reader`, `Invocation`, `Invocation.call`, `Invocation.plan`,
`Invocation.Starts`.
Key theorems: `Submission.run_call`, `Invocation.exists_starts`, `Invocation.tame`,
`Invocation.run_of_ended`, `Invocation.run_of_awaited`.
-/
namespace RecordSync

/-! ### Submissions -/

/-- A write: of one of a user's records, or of a new user. -/
inductive Submission where
  | record (t : Table) (user : UserId) (w : Write)
  | account (name hash : String)

namespace Submission

/-- What the submission gives: the number of rows written, or the id of the new user. -/
abbrev Given : Submission → Type
  | .record _ _ _ => Nat
  | .account _ _ => UserId

/-- The call that the submission is. -/
def call (l : Limits) : (x : Submission) → Call x.Given
  | .record t user w => w.call l t user
  | .account name hash => Accounts.addUser l name hash

/-- What the submission goes by in failures. -/
def op : Submission → String
  | .record _ _ w => w.op
  | .account _ _ => "add user"

/-- What the submission does if its arguments are accepted: it gives a value, or asks. -/
def plan : (x : Submission) → Except ValidationError (x.Given ⊕ Query)
  | .record t user w => (w.query t user).map fun
    | none => .inl (0 : Nat)
    | some q => .inr q
  | .account name hash =>
    (Accounts.checkNew name hash).map fun username => .inr (Query.insertUser username hash)

/-- What the submission makes of the answer. -/
def result : (x : Submission) → Answer → Except Halt x.Given
  | .record _ _ _, answer => .ok (Session.affected answer)
  | .account _ _, answer =>
    (Accounts.firstRow (Row.scalar Row.userIdScalar) (Session.rowsOf answer)).mapError
      fun e => .failed (StoreError.classify "add user" e)

end Submission

theorem Session.run_fetchOne {α : Type} (l : Limits) (op : String) (q : Query)
    (read : Row → Except ClientError α) (s : Session) : (Accounts.fetchOne l op q read).run s =
      match obstacle l op s with
      | some e => (.error (.failed e), s)
      | none => ((awaited l op s).1.bind fun answer =>
          (Accounts.firstRow read (rowsOf answer)).mapError
            fun e => .failed (StoreError.classify op e),
        { s.sent q with now := (awaited l op s).2 }) := by
  unfold Accounts.fetchOne
  rw [Call.run_bind, run_fetch]
  cases obstacle l op s with
  | some e => rfl
  | none =>
    rcases (awaited l op s).1 with e | answer
    · rfl
    · exact Call.run_ofClient op _ _

namespace Submission

/-- **One way to submit.** A submission is refused, or gives a value while its context lasts, or
sends one query and gives what it makes of the answer. -/
theorem run_call (l : Limits) (x : Submission) (s : Session) :
    (x.call l).run s = match x.plan with
      | .error e => (.error (.failed (.invalidArgument e)), s)
      | .ok (.inl y) => ((l.check x.op s.now).map (fun _ => y) |>.mapError Halt.failed, s)
      | .ok (.inr q) => match Session.obstacle l x.op s with
        | some e => (.error (.failed e), s)
        | none => ((Session.awaited l x.op s).1.bind x.result,
            { s.sent q with now := (Session.awaited l x.op s).2 }) := by
  cases x with
  | record t user w =>
    rw [call, Write.run_call, plan, op]
    rcases w.query t user with e | _ | q
    · rfl
    · rfl
    · simp only [Except.map]
      rw [Session.run_execute]
      cases Session.obstacle l w.op s with
      | some e => rfl
      | none => rcases (Session.awaited l w.op s).1 with e | answer <;> rfl
  | account name hash =>
    rw [call, plan, op]
    unfold Accounts.addUser
    rw [Call.run_bind, Call.run_ofValidation]
    cases Accounts.checkNew name hash with
    | error e => rfl
    | ok username => exact Session.run_fetchOne l "add user" (Query.insertUser username hash) _ s

end Submission

/-! ### Reads -/

/-- A kind of read, by what it gives: the records of a table, or typed records. -/
inductive Reader : Type → Type 1
  | records (t : Table) : Reader (List Record)
  | shapes (α : Type) [Shape α] : Reader (List α)

namespace Reader

variable {β : Type}

/-- The table that is read. -/
def table : Reader β → Table
  | .records t => t
  | @shapes α _ => Shape.tableOf α

/-- The call that the read is. -/
def call (l : Limits) (user : UserId) (since : Option Instant) (includeDeleted : Bool) :
    Reader β → Call β
  | .records t => Engine.readAll l t user since includeDeleted
  | @shapes α _ => Engine.readShapes α l user since includeDeleted

/-- What is made of the rows of a reply. -/
def decode : Reader β → List Row → Except StoreError β
  | .records _, rows => Row.toRecords rows
  | @shapes _ _, rows => (Row.toRecords rows).bind Engine.shapesOf

/-- A read looks up the columns, fetches the rows, and makes of them what it is to give. -/
theorem run_call (r : Reader β) (l : Limits) (user : UserId) (since : Option Instant)
    (includeDeleted : Bool) (s : Session) : (r.call l user since includeDeleted).run s =
      match (Engine.tableColumns l r.table).run s with
      | (.error e, s') => (.error e, s')
      | (.ok names, s') =>
        match (Session.fetch l "get all records"
            (Query.select r.table names user since includeDeleted)).run s' with
        | (.error e, s'') => (.error e, s'')
        | (.ok rows, s'') => ((r.decode rows).mapError Halt.failed, s'') := by
  cases r with
  | records t => exact Engine.run_readAll l t user since includeDeleted s
  | @shapes α _ =>
    simp only [call, table, decode]
    unfold Engine.readShapes
    rw [Call.run_bind, Engine.run_readAll]
    rcases (Engine.tableColumns l (Shape.tableOf α)).run s with ⟨e | names, s'⟩
    · rfl
    · dsimp only
      rcases (Session.fetch l "get all records" (Query.select (Shape.tableOf α) names user since
        includeDeleted)).run s' with ⟨e | rows, s''⟩
      · rfl
      · dsimp only
        cases Row.toRecords rows with
        | error e => rfl
        | ok records => exact Call.run_ofExcept _ _

end Reader

/-! ### Invocations -/

/-- What can be asked of the engine and of the accounts, by what it gives. -/
inductive Invocation : Type → Type 1
  | submit (x : Submission) : Invocation x.Given
  | addShape {α : Type} [Shape α] (user : UserId) (x : α) : Invocation Nat
  | updateShape {α : Type} [Shape α] (user : UserId) (x : α) : Invocation Nat
  | columns (t : Table) : Invocation (List String)
  | read {β : Type} (r : Reader β) (user : UserId) (since : Option Instant)
    (includeDeleted : Bool) : Invocation β
  | userExists (name : String) : Invocation Bool
  | userId (name : String) : Invocation UserId
  | passwordHash (name : String) : Invocation String
  | wholeUser (name : String) : Invocation User

namespace Invocation

variable {β : Type}

/-- The write that a typed write is. -/
def addition {α : Type} [Shape α] (user : UserId) (x : α) : Submission :=
  .record (Shape.tableOf α) user (.add (Shape.entryId x) (Shape.fields x))

/-- The write that a typed change is. -/
def change {α : Type} [Shape α] (user : UserId) (x : α) : Submission :=
  .record (Shape.tableOf α) user (.update (Shape.entryId x) (Shape.fields x))

/-- The call that the invocation is. -/
def call (l : Limits) : Invocation β → Call β
  | .submit x => x.call l
  | @addShape _ _ user x => Engine.addShape l user x
  | @updateShape _ _ user x => Engine.updateShape l user x
  | .columns t => Engine.tableColumns l t
  | .read r user since includeDeleted => r.call l user since includeDeleted
  | .userExists name => Accounts.userExists l name
  | .userId name => Accounts.userId l name
  | .passwordHash name => Accounts.passwordHash l name
  | .wholeUser name => Accounts.user l name

/-- What the invocation goes by in failures of its first step. -/
def op : Invocation β → String
  | .submit x => x.op
  | @addShape _ _ _ _ => "add record"
  | @updateShape _ _ _ _ => "update record"
  | .columns _ => "get table columns"
  | .read _ _ _ _ => "get table columns"
  | .userExists _ => "user exists"
  | .userId _ => "get user id"
  | .passwordHash _ => "get password hash"
  | .wholeUser _ => "get user"

/-- What the invocation does first if its arguments are accepted: it gives a value, or asks. -/
def plan : Invocation β → Except ValidationError (β ⊕ Query)
  | .submit x => x.plan
  | @addShape _ _ user x => (addition user x).plan
  | @updateShape _ _ user x => (change user x).plan
  | .columns t => .ok (.inr (Query.columns t))
  | .read r _ _ _ => .ok (.inr (Query.columns r.table))
  | .userExists name => .ok (.inr (Query.userExists name))
  | .userId name => .ok (.inr (Query.userId name))
  | .passwordHash name => .ok (.inr (Query.passwordHash name))
  | .wholeUser name => .ok (.inr (Query.user name))

/-- What begins with the fetching of rows begins with a question. -/
theorem exists_ask {α : Type} (l : Limits) (op : String) (q : Query) {f : List Row → Call α}
    (tame : ∀ rows, (f rows).Tame) : ∃ k : Answer → Call α, (∀ answer, (k answer).Tame) ∧
      Session.fetch l op q >>= f = Session.ask l op q >>= k :=
  ⟨fun answer => f (Session.rowsOf answer), fun _ => tame _,
    by simp only [Session.fetch, bind_assoc, pure_bind]⟩

theorem exists_ask_columns {α : Type} (l : Limits) (t : Table) {f : List String → Call α}
    (tame : ∀ names, (f names).Tame) : ∃ k : Answer → Call α, (∀ answer, (k answer).Tame) ∧
      Engine.tableColumns l t >>= f =
        Session.ask l "get table columns" (Query.columns t) >>= k := by
  unfold Engine.tableColumns
  rw [bind_assoc]
  refine exists_ask l _ _ fun rows => ((Call.tame_ofClient _ _).bind fun names => ?_).bind tame
  cases Catalog.check names with
  | ok => exact Call.tame_pure _
  | error fault => exact Call.tame_throw _

theorem exists_ask_lookup {α : Type} (l : Limits) (op name : String) (q : Query)
    (read : Row → Except ClientError α) : ∃ k : Answer → Call α, (∀ answer, (k answer).Tame) ∧
      Accounts.lookup l op name q read = Session.ask l op q >>= k := by
  refine exists_ask l op q fun rows => (Call.tame_ofClient _ _).bind fun found => ?_
  cases found with
  | some x => exact Call.tame_pure x
  | none => exact Call.tame_throw _

/-- How an invocation runs: it is refused, or gives a value while its context lasts, or sends one
query and goes on with the answer. -/
def Starts (l : Limits) (r : Invocation β) (k : Answer → Call β) : Prop :=
  ∀ s, (r.call l).run s = match r.plan with
    | .error e => (.error (.failed (.invalidArgument e)), s)
    | .ok (.inl y) => ((l.check r.op s.now).map (fun _ => y) |>.mapError Halt.failed, s)
    | .ok (.inr q) => (Session.ask l r.op q >>= k).run s

theorem starts_of_ask {l : Limits} {r : Invocation β} {q : Query} (asks : r.plan = .ok (.inr q))
    (h : ∃ k : Answer → Call β, (∀ answer, (k answer).Tame) ∧
      r.call l = Session.ask l r.op q >>= k) :
    ∃ k, (∀ answer, (k answer).Tame) ∧ r.Starts l k := by
  obtain ⟨k, tame, hk⟩ := h
  exact ⟨k, tame, fun s => by rw [asks, hk]⟩

/-- A submission goes on with what it makes of the answer. -/
theorem starts_submit (l : Limits) (x : Submission) :
    (submit x).Starts l fun answer => MonadExcept.ofExcept (x.result answer) := by
  intro s
  change (x.call l).run s = _
  rw [Submission.run_call, plan]
  rcases x.plan with e | y | q
  · rfl
  · rfl
  · simp only [op, Call.run_bind, Session.run_ask]
    cases Session.obstacle l x.op s with
    | some e => rfl
    | none =>
      rcases (Session.awaited l x.op s).1 with e | answer
      · rfl
      · simp only [Except.bind]
        cases x.result answer <;> rfl

theorem exists_starts_submit (l : Limits) (x : Submission) :
    ∃ k, (∀ answer, (k answer).Tame) ∧ (submit x).Starts l k := by
  refine ⟨_, fun answer => ?_, starts_submit l x⟩
  cases x.result answer with
  | ok y => exact Call.tame_pure y
  | error h => exact Call.tame_throw h

/-- **One way to start.** Every invocation runs in the same way up to its first answer, and goes on
without touching the pool. -/
theorem exists_tame_starts (l : Limits) (r : Invocation β) :
    ∃ k, (∀ answer, (k answer).Tame) ∧ r.Starts l k := by
  cases r with
  | submit x => exact exists_starts_submit l x
  | @addShape α _ user x => exact exists_starts_submit l (addition user x)
  | @updateShape α _ user x => exact exists_starts_submit l (change user x)
  | columns t =>
    refine starts_of_ask rfl ?_
    have h := exists_ask_columns l t Call.tame_pure
    rwa [bind_pure] at h
  | read x user since includeDeleted =>
    have fetched {γ : Type} (op : String) (q : Query) {f : List Row → Except StoreError γ} :
        (Session.fetch l op q >>= fun rows => Call.ofExcept (f rows)).Tame :=
      (Session.tame_fetch l op q).bind fun _ => Call.tame_ofExcept _
    refine starts_of_ask rfl ?_
    cases x with
    | records t => exact exists_ask_columns l t fun names => fetched _ _
    | @shapes α _ =>
      unfold call Reader.call Engine.readShapes Engine.readAll
      dsimp only
      rw [bind_assoc]
      exact exists_ask_columns l _ fun names => (fetched _ _).bind fun _ => Call.tame_ofExcept _
  | userExists name => exact starts_of_ask rfl (exists_ask l _ _ fun _ => Call.tame_ofClient _ _)
  | userId name => exact starts_of_ask rfl (exists_ask_lookup l _ _ _ _)
  | passwordHash name => exact starts_of_ask rfl (exists_ask_lookup l _ _ _ _)
  | wholeUser name => exact starts_of_ask rfl (exists_ask_lookup l _ _ _ _)

theorem exists_starts (l : Limits) (r : Invocation β) : ∃ k, r.Starts l k := by
  obtain ⟨k, -, starts⟩ := r.exists_tame_starts l
  exact ⟨k, starts⟩

/-- An invocation keeps the pool, and takes nothing back of what was asked before. -/
theorem tame (l : Limits) (r : Invocation β) : (r.call l).Tame := by
  obtain ⟨k, tame, starts⟩ := r.exists_tame_starts l
  intro s
  rw [starts]
  rcases r.plan with e | y | q
  · exact ⟨rfl, List.prefix_refl _⟩
  · exact ⟨rfl, List.prefix_refl _⟩
  · exact (Session.tame_ask l r.op q).bind tame s

/-- The arguments of the invocation are accepted. -/
def Accepted (r : Invocation β) : Prop := ∃ first, r.plan = .ok first

/-- **An ended context stops every invocation** that is not refused, before anything is asked, and
the failure names what was asked for. -/
theorem run_of_ended {l : Limits} {r : Invocation β} {s : Session} {how : Ending}
    (accepted : r.Accepted) (ended : l.ended s.now = some how) :
    (r.call l).run s = (.error (.failed (how.error r.op)), s) := by
  obtain ⟨k, starts⟩ := r.exists_starts l
  obtain ⟨first, hp⟩ := accepted
  have check : l.check r.op s.now = .error (how.error r.op) := by rw [Limits.check, ended]
  rw [starts, hp]
  cases first with
  | inl y =>
    simp only [check]
    rfl
  | inr q =>
    have obstacle : Session.obstacle l r.op s = some (how.error r.op) := by
      rw [Session.obstacle, check]
    simp only [Call.run_bind, Session.run_ask, obstacle]

/-- Whatever keeps the first answer from being heard ends the invocation. -/
theorem run_of_awaited {l : Limits} {r : Invocation β} {s : Session} {q : Query} {h : Halt}
    (asks : r.plan = .ok (.inr q)) (ready : s.Ready l)
    (lost : (Session.awaited l r.op s).1 = .error h) :
    (r.call l).run s = (.error h, { s.sent q with now := (Session.awaited l r.op s).2 }) := by
  obtain ⟨k, starts⟩ := r.exists_starts l
  rw [starts, asks]
  have clear := (Session.obstacle_eq_none_iff l r.op s).mpr ready
  simp only [Call.run_bind, Session.run_ask, clear, lost]

end Invocation
end RecordSync
