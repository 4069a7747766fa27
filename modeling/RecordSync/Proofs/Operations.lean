import RecordSync.Proofs.Calls
import RecordSync.Proofs.Columns

/-!
# Operations on records

The three kinds of write and the read, as values. A write is refused for its arguments, or asks
nothing, or sends one query; `Write.query` says which, whatever the session. A read sends the query
of the catalog and, if the reply gives columns, the query of the rows.

Key definitions: `Write`, `Write.query`, `Write.sent?`, `Operation`, `Operation.call`,
`Operation.texts`.
Key theorems: `Write.run_call`, `Write.asked_call`, `Write.query_eq_ok_iff`,
`Write.query_eq_some_iff`, `Write.query_eq_none_iff`, `asked_readAll`.
-/
namespace RecordSync

/-! ### Placeholders -/

namespace Query

variable {α : Type}

theorem numbered_map_fst {β : Type} (f : α → β) (first : Nat) (xs : List α) :
    (numbered first xs).map (fun v => f v.1) = xs.map f := by
  induction xs generalizing first with
  | nil => rfl
  | cons x xs ih => rw [numbered, List.map_cons, List.map_cons, ih]

/-- Placeholders are numbered one after the other. -/
theorem numbered_map_snd {β : Type} (f : Nat → β) (first : Nat) (xs : List α) :
    (numbered first xs).map (fun v => f v.2) = (List.range' first xs.length).map f := by
  induction xs generalizing first with
  | nil => rfl
  | cons x xs ih =>
    rw [numbered, List.map_cons, ih, List.length_cons, List.range'_succ, List.map_cons]

theorem fst_mem_of_mem_numbered {first : Nat} {xs : List α} {v : α × Nat}
    (h : v ∈ numbered first xs) : v.1 ∈ xs := by
  have fst := numbered_map_fst id first xs
  rw [List.map_id] at fst
  rw [← fst]
  exact List.mem_map.mpr ⟨v, h, rfl⟩

end Query

/-! ### Writes -/

/-- A write of one record. -/
inductive Write where
  | add (id : String) (fields : Fields)
  | update (id : String) (fields : Fields)
  | delete (id : String)

namespace Write

/-- The id of the record. -/
def id : Write → String
  | .add id _ => id
  | .update id _ => id
  | .delete id => id

/-- The fields that the write carries. -/
def fields : Write → Fields
  | .add _ fields => fields
  | .update _ fields => fields
  | .delete _ => .empty

/-- What the write goes by in failures. -/
def op : Write → String
  | .add _ _ => "add record"
  | .update _ _ => "update record"
  | .delete _ => "delete record"

/-- The call of the engine that the write is. -/
def call (l : Limits) (t : Table) (user : UserId) : Write → Call Nat
  | .add id fields => Engine.add l t user id fields
  | .update id fields => Engine.update l t user id fields
  | .delete id => Engine.delete l t user id

/-- What the write has to ask of the store when its arguments are accepted. -/
def query (t : Table) (user : UserId) : Write → Except ValidationError (Option Query)
  | .add id fields =>
    (Engine.checkWrite t user id fields).map fun r => some (Query.insert t r.1 id r.2)
  | .update id fields =>
    (Engine.checkWrite t user id fields).map fun r =>
      if r.2.isEmpty then none else some (Query.update t r.1 id r.2)
  | .delete id => (Engine.checkAddress user id).map fun u => some (Query.delete t u id)

/-- **One way to write.** A write is refused, or asks nothing, or sends its query once. -/
theorem run_call (l : Limits) (t : Table) (user : UserId) (w : Write) (s : Session) :
    (w.call l t user).run s = match w.query t user with
      | .error e => (.error (.failed (.invalidArgument e)), s)
      | .ok none => ((l.check w.op s.now).map (fun _ => 0) |>.mapError Halt.failed, s)
      | .ok (some q) => (Session.execute l w.op q).run s := by
  cases w with
  | add id fields =>
    rw [call, Engine.run_add, query]
    cases Engine.checkWrite t user id fields <;> rfl
  | update id fields =>
    rw [call, Engine.run_update, query]
    rcases Engine.checkWrite t user id fields with e | ⟨u, _ | ⟨v, vs⟩⟩ <;> rfl
  | delete id =>
    rw [call, Engine.run_delete, query]
    cases Engine.checkAddress user id <;> rfl

theorem asked_call (l : Limits) (t : Table) (user : UserId) (w : Write) (s : Session) :
    (w.call l t user).asked s = match w.query t user with
      | .ok (some q) => if s.Ready l then [.query q] else []
      | _ => [] := by
  unfold Call.asked
  rw [run_call]
  rcases w.query t user with e | _ | q
  · exact List.drop_length
  · exact List.drop_length
  · exact Session.asked_execute l w.op q s

section

variable {t : Table} {user : UserId} {w : Write}

/-- What a write sends when its fields have these values; a change of nothing sends nothing. -/
def sent? (t : Table) (user : UserId) (values : List (DataColumn × String)) : Write → Option Query
  | .add id _ => some (Query.insert t user id values)
  | .update id _ => if values.isEmpty then none else some (Query.update t user id values)
  | .delete id => some (Query.delete t user id)

/-- All writes are checked alike; a mark of deletion carries no fields that could be refused. -/
theorem query_eq_map (t : Table) (user : UserId) (w : Write) : w.query t user =
    (Engine.checkWrite t user w.id w.fields).map fun r => w.sent? t r.1 r.2 := by
  cases w with
  | add id fields => rfl
  | update id fields => rfl
  | delete id =>
    rw [query, Engine.checkWrite, Write.id]
    cases Engine.checkAddress user id <;> rfl

theorem query_eq_ok_iff {sent : Option Query} : w.query t user = .ok sent ↔
    user.value ≠ 0 ∧ w.id ≠ "" ∧
      ∃ values, t.resolve w.fields = .ok values ∧ w.sent? t user values = sent := by
  rw [query_eq_map]
  constructor
  · intro h
    cases hc : Engine.checkWrite t user w.id w.fields with
    | error e => simp [hc, Except.map] at h
    | ok r =>
      obtain ⟨u, values⟩ := r
      obtain ⟨rfl, hu, hi, hr⟩ := Engine.checkWrite_ok_iff.mp hc
      exact ⟨hu, hi, values, hr, by simpa [hc, Except.map] using h⟩
  · rintro ⟨hu, hi, values, hr, rfl⟩
    rw [Engine.checkWrite_ok_iff.mpr ⟨rfl, hu, hi, hr⟩]
    rfl

/-- The queries of writes, and what has to be so for a write to send one. -/
theorem query_eq_some_iff {q : Query} :
    w.query t user = .ok (some q) ↔ user.value ≠ 0 ∧ w.id ≠ "" ∧ ∃ values,
      t.resolve w.fields = .ok values ∧ match w with
        | .add id _ => q = Query.insert t user id values
        | .update id _ => values ≠ [] ∧ q = Query.update t user id values
        | .delete id => q = Query.delete t user id := by
  rw [query_eq_ok_iff]
  refine and_congr_right fun _ => and_congr_right fun _ => exists_congr fun values =>
    and_congr_right fun _ => ?_
  cases w with
  | add id fields => exact Option.some_inj.trans eq_comm
  | update id fields => cases values <;> simp [sent?, eq_comm]
  | delete id => exact Option.some_inj.trans eq_comm

/-- Among the writes that are accepted, only an update without fields asks nothing. -/
theorem query_eq_none_iff : w.query t user = .ok none ↔
    user.value ≠ 0 ∧ w.id ≠ "" ∧ ∃ id fields, w = .update id fields ∧ fields.entries = [] := by
  rw [query_eq_ok_iff]
  refine and_congr_right fun _ => and_congr_right fun _ => ?_
  constructor
  · rintro ⟨values, hr, silent⟩
    cases w with
    | add id fields => cases silent
    | update id fields =>
      obtain rfl : values = [] := by simpa [sent?] using silent
      exact ⟨id, fields, rfl, (Table.resolve_eq_ok_iff.mp hr).1.symm⟩
    | delete id => cases silent
  · rintro ⟨id, fields, rfl, none_given⟩
    have resolved : t.resolve fields = .ok [] :=
      Table.resolve_eq_ok_iff.mpr ⟨none_given.symm, fun _ hv => absurd hv List.not_mem_nil⟩
    exact ⟨[], resolved, rfl⟩

end

end Write

/-! ### Operations -/

/-- An operation of a user on a table. -/
inductive Operation where
  | write (user : UserId) (w : Write)
  | read (user : UserId) (since : Option Instant) (includeDeleted : Bool)

/-- What an operation gives. -/
inductive Outcome where
  | written (rows : Nat)
  | records (rs : List Record)

/-- The text of a query that was asked. -/
def Event.text? : Event → Option String
  | .query q => some q.statement.text
  | .migration _ => none

namespace Operation

/-- The call of the engine that the operation is. -/
def call (l : Limits) (t : Table) : Operation → Call Outcome
  | .write user w => Outcome.written <$> w.call l t user
  | .read user since includeDeleted =>
    Outcome.records <$> Engine.readAll l t user since includeDeleted

/-- The texts that the operation sends to the store, in order. -/
def texts (l : Limits) (t : Table) (o : Operation) (s : Session) : List String :=
  ((o.call l t).asked s).filterMap Event.text?

end Operation

theorem Call.asked_map {α β : Type} (f : α → β) (c : Call α) (s : Session) :
    (f <$> c).asked s = c.asked s := by
  have h : ((f <$> c).run s).2 = (c.run s).2 := by
    rw [map_eq_pure_bind, Call.run_bind]
    rcases c.run s with ⟨_ | _, s'⟩ <;> rfl
  rw [Call.asked, h, Call.asked]

/-! ### Reads -/

namespace Engine

/-- The columns of a table come from the rows of one reply. -/
theorem run_tableColumns_ok {l : Limits} {t : Table} {s s' : Session} {names : List String}
    (h : (tableColumns l t).run s = (.ok names, s')) :
    s.Ready l ∧ s' = { s.sent (Query.columns t) with now := s'.now } ∧
      namesOf t (Session.rowsOf s.nextReply.answer) = .ok names := by
  rw [run_tableColumns] at h
  rcases hf : (Session.fetch l "get table columns" (Query.columns t)).run s with ⟨e | rows, s''⟩
  · rw [hf] at h
    cases h
  · obtain ⟨hr, hs, rfl⟩ := Session.run_fetch_ok hf
    rw [hf] at h
    obtain ⟨hn, rfl⟩ := Prod.mk.inj h
    refine ⟨hr, hs, ?_⟩
    cases hm : namesOf t (Session.rowsOf s.nextReply.answer) with
    | error e => simp [hm, Except.mapError] at hn
    | ok ns => simpa [hm, Except.mapError] using hn

theorem asked_tableColumns (l : Limits) (t : Table) (s : Session) :
    (tableColumns l t).asked s = if s.Ready l then [.query (Query.columns t)] else [] := by
  have same : ((tableColumns l t).run s).2 =
      ((Session.fetch l "get table columns" (Query.columns t)).run s).2 := by
    rw [run_tableColumns]
    rcases (Session.fetch l "get table columns" (Query.columns t)).run s with ⟨e | rows, s'⟩ <;> rfl
  rw [Call.asked, same]
  exact Session.asked_fetch l _ _ s

/-- A read asks for the columns, and for the rows when the columns are known. -/
theorem asked_readAll (l : Limits) (t : Table) (user : UserId) (since : Option Instant)
    (includeDeleted : Bool) (s : Session) : (readAll l t user since includeDeleted).asked s =
      match (tableColumns l t).run s with
      | (.error _, _) => (tableColumns l t).asked s
      | (.ok names, s') => .query (Query.columns t) ::
          if s'.Ready l then [.query (Query.select t names user since includeDeleted)] else [] := by
  unfold Call.asked
  rw [run_readAll]
  rcases hc : (tableColumns l t).run s with ⟨e | names, s'⟩
  · rfl
  · obtain ⟨-, hs, -⟩ := run_tableColumns_ok hc
    have log : s'.log = s.log ++ [.query (Query.columns t)] := by rw [hs]; rfl
    dsimp only
    rw [Session.run_fetch]
    cases ho : Session.obstacle l "get all records" s' with
    | some e =>
      have hn : ¬s'.Ready l := fun hr => by
        simp [(Session.obstacle_eq_none_iff l _ s').mpr hr] at ho
      simp [hn, log]
    | none =>
      have hr := (Session.obstacle_eq_none_iff l _ s').mp ho
      rcases (Session.awaited l "get all records" s').1 with e | answer <;>
        simp [Except.map, hr, Session.sent, log]

end Engine
end RecordSync
