import Mathlib
import RecordSync.Engine

/-!
# What calls ask of the store

A call runs one step after the other, and only `Session.ask` reaches the store. It either meets an
obstacle and leaves the session alone (`Session.obstacle`), or it sends its query and takes one
reply (`Session.awaited`). Each call of the engine has one equation here, and one more for the
events it adds to the log; what is proved about the engine goes by these.

Key definitions: `Call.Tame`, `Session.Ready`, `Session.obstacle`, `Session.awaited`, `Call.asked`,
`Engine.namesOf`.
Key theorems: `Call.run_bind`, `Session.run_ask`, `Engine.run_add`, `Engine.run_update`,
`Engine.run_delete`, `Engine.run_readAll`, `Engine.checkWrite_ok_iff`.
-/
namespace RecordSync

/-! ### Running calls -/

namespace Call

variable {α β : Type}

theorem run_bind (c : Call α) (f : α → Call β) (s : Session) :
    (c >>= f).run s = match c.run s with
      | (.ok x, s') => (f x).run s'
      | (.error e, s') => (.error e, s') := by
  simp only [ExceptT.run, bind, ExceptT.bind, ExceptT.mk, StateT.bind]
  rcases c s with ⟨_ | _, s'⟩ <;> rfl

@[simp] theorem run_pure (x : α) (s : Session) : (pure x : Call α).run s = (.ok x, s) := rfl

@[simp] theorem run_get (s : Session) : (get : Call Session).run s = (.ok s, s) := rfl

@[simp] theorem run_set (s s' : Session) : (set s' : Call PUnit).run s = (.ok (), s') := rfl

@[simp] theorem run_modify (f : Session → Session) (s : Session) :
    (modify f : Call PUnit).run s = (.ok (), f s) := rfl

/-- A failure that is caught is gone on from, in the session that it leaves. -/
theorem run_tryCatch (c : Call α) (f : Halt → Call α) (s : Session) :
    (tryCatch c f).run s = match c.run s with
      | (.ok x, s') => (.ok x, s')
      | (.error h, s') => (f h).run s' := by
  simp only [tryCatch, tryCatchThe, MonadExceptOf.tryCatch, ExceptT.tryCatch, ExceptT.run,
    ExceptT.mk, bind, StateT.bind]
  rcases c s with ⟨h | x, s'⟩ <;> rfl

theorem run_ofExcept (r : Except StoreError α) (s : Session) :
    (ofExcept r).run s = (r.mapError Halt.failed, s) := by
  cases r <;> rfl

theorem run_ofClient (op : String) (r : Except ClientError α) (s : Session) :
    (ofClient op r).run s = (r.mapError fun e => Halt.failed (StoreError.classify op e), s) := by
  cases r <;> rfl

theorem run_ofValidation (r : Except ValidationError α) (s : Session) :
    (ofValidation r).run s = (r.mapError fun e => Halt.failed (.invalidArgument e), s) := by
  cases r <;> rfl

/-- What a call that is made in a session asks of the store, in order. -/
def asked (c : Call α) (s : Session) : List Event := (c.run s).2.log.drop s.log.length

/-- A call keeps the pool, and takes nothing back of what was asked before. -/
def Tame (c : Call α) : Prop := ∀ s, (c.run s).2.pool = s.pool ∧ s.log <+: (c.run s).2.log

theorem tame_pure (x : α) : (pure x : Call α).Tame := fun _ => ⟨rfl, List.prefix_refl _⟩

theorem tame_throw (h : Halt) : (throw h : Call α).Tame := fun _ => ⟨rfl, List.prefix_refl _⟩

theorem tame_ofExcept (r : Except StoreError α) : (ofExcept r).Tame :=
  fun s => by rw [run_ofExcept]; exact ⟨rfl, List.prefix_refl _⟩

theorem tame_ofClient (op : String) (r : Except ClientError α) : (ofClient op r).Tame :=
  fun s => by rw [run_ofClient]; exact ⟨rfl, List.prefix_refl _⟩

theorem Tame.bind {c : Call α} {f : α → Call β} (hc : c.Tame) (hf : ∀ x, (f x).Tame) :
    (c >>= f).Tame := by
  intro s
  obtain ⟨pool, log⟩ := hc s
  rw [run_bind]
  rcases h : c.run s with ⟨e | x, s'⟩
  · rw [h] at pool log
    exact ⟨pool, log⟩
  · rw [h] at pool log
    obtain ⟨pool', log'⟩ := hf x s'
    exact ⟨pool'.trans pool, log.trans log'⟩

end Call

/-! ### Asking once -/

namespace Session

/-- The context has not ended, and there is a connection to have. -/
def Ready (l : Limits) (s : Session) : Prop := l.ended s.now = none ∧ s.acquire = .ok ()

/-- What keeps a query from being sent. -/
def obstacle (l : Limits) (op : String) (s : Session) : Option StoreError :=
  match l.check op s.now, s.acquire with
  | .error e, _ => some e
  | .ok (), .error e => some (StoreError.classify op e)
  | .ok (), .ok () => none

/-- What an answer is to the caller. -/
def heard (op : String) : Answer → Except Halt Answer
  | .refused code message =>
    .error (.failed (StoreError.classify op (DatabaseFault.toClientError ⟨code, message⟩)))
  | .dropped => .error (.failed (StoreError.classify op connectionLost))
  | answer => .ok answer

/-- What comes of waiting for the next reply, and the time after it. -/
def awaited (l : Limits) (op : String) (s : Session) : Except Halt Answer × Time :=
  match l.wait (s.nextReply.delay.map (s.now + ·)) with
  | .never => (.error .waiting, s.now)
  | .ended t how => (.error (.failed (how.error op)), t)
  | .answered t => (heard op s.nextReply.answer, t + s.nextReply.pause)

/-- The number of rows that an answer says were written. -/
def affected : Answer → Nat
  | .done n => n
  | answer => (rowsOf answer).length

theorem check_ok_iff (l : Limits) (op : String) (now : Time) :
    l.check op now = .ok () ↔ l.ended now = none := by
  unfold Limits.check
  cases l.ended now <;> simp

theorem obstacle_eq_none_iff (l : Limits) (op : String) (s : Session) :
    obstacle l op s = none ↔ Ready l s := by
  unfold obstacle Ready
  rw [← check_ok_iff l op]
  cases l.check op s.now <;> cases s.acquire <;> simp

/-- The end of the context keeps a query from being sent before the lack of a connection does. -/
theorem obstacle_eq_some_iff {l : Limits} {op : String} {s : Session} {e : StoreError} :
    obstacle l op s = some e ↔ (∃ how, l.ended s.now = some how ∧ how.error op = e) ∨
      l.ended s.now = none ∧ ∃ c, s.acquire = .error c ∧ StoreError.classify op c = e := by
  unfold obstacle Limits.check
  cases l.ended s.now with
  | some how => simp
  | none => cases s.acquire <;> simp

instance (l : Limits) (s : Session) : Decidable (Ready l s) :=
  decidable_of_iff _ (obstacle_eq_none_iff l "" s)

theorem run_check (l : Limits) (op : String) (s : Session) :
    (check l op).run s = ((l.check op s.now).mapError Halt.failed, s) := by
  unfold check
  rw [Call.run_bind, Call.run_get]
  exact Call.run_ofExcept _ _

/-- **One way to a reply.** A query is sent unless there is an obstacle, and then one reply is
taken. -/
theorem run_ask (l : Limits) (op : String) (q : Query) (s : Session) :
    (ask l op q).run s = match obstacle l op s with
      | some e => (.error (.failed e), s)
      | none => ((awaited l op s).1, { s.sent q with now := (awaited l op s).2 }) := by
  unfold ask obstacle awaited
  rw [Call.run_bind, run_check]
  cases l.check op s.now with
  | error e => rfl
  | ok =>
    simp only [Except.mapError, Call.run_bind, Call.run_get]
    cases s.acquire with
    | error e => rfl
    | ok =>
      simp only [Call.ofClient, Call.run_pure, Call.run_set]
      cases l.wait (s.nextReply.delay.map (s.now + ·)) with
      | never => rfl
      | ended t how => rfl
      | answered t =>
        simp only [Call.run_bind, Call.run_modify]
        cases s.nextReply.answer <;> rfl

theorem tame_ask (l : Limits) (op : String) (q : Query) : (ask l op q).Tame := by
  intro s
  rw [run_ask]
  cases obstacle l op s with
  | some e => exact ⟨rfl, List.prefix_refl _⟩
  | none => exact ⟨rfl, List.prefix_append _ _⟩

theorem tame_fetch (l : Limits) (op : String) (q : Query) : (fetch l op q).Tame :=
  (tame_ask l op q).bind fun _ => Call.tame_pure _

theorem run_execute (l : Limits) (op : String) (q : Query) (s : Session) :
    (execute l op q).run s = match obstacle l op s with
      | some e => (.error (.failed e), s)
      | none => ((awaited l op s).1.map affected, { s.sent q with now := (awaited l op s).2 }) := by
  unfold execute
  rw [Call.run_bind, run_ask]
  cases obstacle l op s with
  | some e => rfl
  | none =>
    rcases (awaited l op s).1 with e | answer
    · rfl
    · cases answer <;> rfl

theorem run_fetch (l : Limits) (op : String) (q : Query) (s : Session) :
    (fetch l op q).run s = match obstacle l op s with
      | some e => (.error (.failed e), s)
      | none => ((awaited l op s).1.map rowsOf, { s.sent q with now := (awaited l op s).2 }) := by
  unfold fetch
  rw [Call.run_bind, run_ask]
  cases obstacle l op s with
  | some e => rfl
  | none => rcases (awaited l op s).1 with e | answer <;> rfl

theorem heard_of_awaited {l : Limits} {op : String} {s : Session} {answer : Answer}
    (h : (awaited l op s).1 = .ok answer) : heard op s.nextReply.answer = .ok answer := by
  unfold awaited at h
  cases hw : l.wait (s.nextReply.delay.map (s.now + ·)) with
  | never => simp [hw] at h
  | ended t how => simp [hw] at h
  | answered t => rwa [hw] at h

/-- What is heard in the end is what the store answered. -/
theorem awaited_ok {l : Limits} {op : String} {s : Session} {answer : Answer}
    (h : (awaited l op s).1 = .ok answer) : s.nextReply.answer = answer := by
  have heard := heard_of_awaited h
  cases ha : s.nextReply.answer <;> simp [ha, Session.heard] at heard <;> exact heard

theorem run_fetch_ok {l : Limits} {op : String} {q : Query} {s s' : Session} {rows : List Row}
    (h : (fetch l op q).run s = (.ok rows, s')) :
    Ready l s ∧ s' = { s.sent q with now := s'.now } ∧ rows = rowsOf s.nextReply.answer := by
  rw [run_fetch] at h
  cases ho : obstacle l op s with
  | some e =>
    rw [ho] at h
    cases h
  | none =>
    rw [ho] at h
    obtain ⟨hrows, rfl⟩ := Prod.mk.inj h
    refine ⟨(obstacle_eq_none_iff ..).mp ho, rfl, ?_⟩
    cases ha : (awaited l op s).1 with
    | error e => simp [ha, Except.map] at hrows
    | ok answer =>
      rw [ha] at hrows
      rw [awaited_ok ha]
      exact (Except.ok.inj hrows).symm

/-- A call that sends one query unless there is an obstacle asks it when the session is ready. -/
theorem asked_of_obstacle {β : Type} {c : Call β} {l : Limits} (op : String) {q : Query}
    {s : Session} (kept : ∀ e, obstacle l op s = some e → (c.run s).2.log = s.log)
    (sent : obstacle l op s = none → (c.run s).2.log = s.log ++ [.query q]) :
    c.asked s = if Ready l s then [.query q] else [] := by
  unfold Call.asked
  by_cases ready : Ready l s
  · rw [if_pos ready, sent ((obstacle_eq_none_iff l op s).mpr ready), List.drop_left]
  · have unsent : obstacle l op s ≠ none := fun h => ready ((obstacle_eq_none_iff l op s).mp h)
    obtain ⟨e, he⟩ := Option.ne_none_iff_exists'.mp unsent
    rw [if_neg ready, kept e he, List.drop_length]

theorem asked_execute (l : Limits) (op : String) (q : Query) (s : Session) :
    (execute l op q).asked s = if Ready l s then [.query q] else [] := by
  apply asked_of_obstacle op
  · intro e obstacle
    rw [run_execute, obstacle]
  · intro ready
    rw [run_execute, ready]
    rfl

theorem asked_fetch (l : Limits) (op : String) (q : Query) (s : Session) :
    (fetch l op q).asked s = if Ready l s then [.query q] else [] := by
  apply asked_of_obstacle op
  · intro e obstacle
    rw [run_fetch, obstacle]
  · intro ready
    rw [run_fetch, ready]
    rfl

end Session

/-! ### Calls of the engine -/

namespace Engine

variable {t : Table} {user user' : UserId} {id : String} {fields : Fields}
  {values : List (DataColumn × String)}

theorem checkAddress_ok_iff : checkAddress user id = .ok user' ↔
    user' = user ∧ user.value ≠ 0 ∧ id ≠ "" := by
  unfold checkAddress UserId.requireSet requireEntryId
  by_cases hu : user.value = 0
  · simp [hu, bind, Except.bind]
  · by_cases hi : id = ""
    · simp [hu, hi, bind, Except.bind]
    · simp [hu, hi, bind, Except.bind, eq_comm]

/-- A write with fields is accepted for a user, a record id and fields that all name columns. -/
theorem checkWrite_ok_iff : checkWrite t user id fields = .ok (user', values) ↔
    user' = user ∧ user.value ≠ 0 ∧ id ≠ "" ∧ t.resolve fields = .ok values := by
  unfold checkWrite
  cases ha : checkAddress user id with
  | error e =>
    have hn : ¬(user.value ≠ 0 ∧ id ≠ "") := fun h => by
      simp [checkAddress_ok_iff.mpr ⟨rfl, h⟩] at ha
    simp only [bind, Except.bind, reduceCtorEq, false_iff]
    exact fun h => hn ⟨h.2.1, h.2.2.1⟩
  | ok u =>
    obtain ⟨rfl, hu, hi⟩ := checkAddress_ok_iff.mp ha
    cases t.resolve fields <;> simp [bind, Except.bind, hu, hi, eq_comm]

theorem run_add (l : Limits) (t : Table) (user : UserId) (id : String) (fields : Fields)
    (s : Session) : (add l t user id fields).run s = match checkWrite t user id fields with
      | .error e => (.error (.failed (.invalidArgument e)), s)
      | .ok r => (Session.execute l "add record" (Query.insert t r.1 id r.2)).run s := by
  unfold add
  rw [Call.run_bind, Call.run_ofValidation]
  cases checkWrite t user id fields <;> rfl

theorem run_update (l : Limits) (t : Table) (user : UserId) (id : String) (fields : Fields)
    (s : Session) : (update l t user id fields).run s = match checkWrite t user id fields with
      | .error e => (.error (.failed (.invalidArgument e)), s)
      | .ok (_, []) => ((l.check "update record" s.now).map (fun _ => 0) |>.mapError Halt.failed, s)
      | .ok (u, v :: vs) =>
        (Session.execute l "update record" (Query.update t u id (v :: vs))).run s := by
  unfold update
  rw [Call.run_bind, Call.run_ofValidation]
  rcases checkWrite t user id fields with e | ⟨u, _ | ⟨v, vs⟩⟩
  · rfl
  · simp only [Except.mapError, List.isEmpty_nil, ↓reduceIte]
    rw [Call.run_bind, Session.run_check]
    cases l.check "update record" s.now <;> rfl
  · rfl

theorem run_delete (l : Limits) (t : Table) (user : UserId) (id : String) (s : Session) :
    (delete l t user id).run s = match checkAddress user id with
      | .error e => (.error (.failed (.invalidArgument e)), s)
      | .ok u => (Session.execute l "delete record" (Query.delete t u id)).run s := by
  unfold delete
  rw [Call.run_bind, Call.run_ofValidation]
  cases checkAddress user id <;> rfl

/-- The column names that rows of the catalog give for a table. -/
def namesOf (t : Table) (rows : List Row) : Except StoreError (List String) :=
  match Row.scalars Row.textScalar rows with
  | .error e => .error (StoreError.classify "get table columns" e)
  | .ok names =>
    match Catalog.check names with
    | .ok () => .ok names
    | .error fault => .error (.schemaMismatch t.name (fault.reason t))

theorem run_tableColumns (l : Limits) (t : Table) (s : Session) :
    (tableColumns l t).run s =
      match (Session.fetch l "get table columns" (Query.columns t)).run s with
      | (.error e, s') => (.error e, s')
      | (.ok rows, s') => ((namesOf t rows).mapError Halt.failed, s') := by
  unfold tableColumns
  rw [Call.run_bind]
  rcases (Session.fetch l "get table columns" (Query.columns t)).run s with ⟨e | rows, s'⟩
  · rfl
  · simp only [Call.run_bind, Call.run_ofClient, namesOf]
    cases Row.scalars Row.textScalar rows with
    | error e => rfl
    | ok names =>
      simp only [Except.mapError]
      cases Catalog.check names <;> rfl

theorem run_readAll (l : Limits) (t : Table) (user : UserId) (since : Option Instant)
    (includeDeleted : Bool) (s : Session) : (readAll l t user since includeDeleted).run s =
      match (tableColumns l t).run s with
      | (.error e, s') => (.error e, s')
      | (.ok names, s') =>
        match (Session.fetch l "get all records"
            (Query.select t names user since includeDeleted)).run s' with
        | (.error e, s'') => (.error e, s'')
        | (.ok rows, s'') => ((Row.toRecords rows).mapError Halt.failed, s'') := by
  unfold readAll
  rw [Call.run_bind]
  rcases (tableColumns l t).run s with ⟨e | names, s'⟩
  · rfl
  · simp only [Call.run_bind]
    rcases (Session.fetch l "get all records" (Query.select t names user since
      includeDeleted)).run s' with ⟨e | rows, s''⟩
    · rfl
    · exact Call.run_ofExcept _ _

end Engine
end RecordSync
