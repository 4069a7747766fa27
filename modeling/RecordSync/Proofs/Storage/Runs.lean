import RecordSync.Proofs.Storage.Writes
import RecordSync.Proofs.Waiting

/-!
# Runs of writes

Callers write, each in a session of its own and at whatever time the store's clock shows. The store
carries out what it is asked, one query after the other, and answers with the number of rows, or
refuses it and changes nothing. A call does not always live to hear the answer: its context may end
while it waits, and the connection may go. The store knows nothing of this, so what was sent by then
may be carried out or not, and the failure of the call does not tell which.

Along every such run rows stay, with their ids and owners. What a call gives says exactly what it
did, unless its answer was lost; and then it did all of it or nothing.

Key definitions: `Request`, `Request.Answered`, `Request.Serves`, `Request.Step`, `Request.Lost`,
`Request.Effect`, `Run`.
Key theorems: `Request.lost_fails`, `Request.Step.outcome`, `Request.Step.effect`, `Run.kept`,
`writes_keep_the_store`.
-/
namespace RecordSync

/-! ### Steps -/

/-- A call that writes: by whom, to which table, in which session, and at what time of the store's
clock, in microseconds since 1970. -/
structure Request where
  limits : Limits
  table : Table
  user : UserId
  write : Write
  session : Session
  now : Int

namespace Request

/-- The call of a request. -/
def call (r : Request) : Call Nat := r.write.call r.limits r.table r.user

/-- What the call gives. -/
def result (r : Request) : Except Halt Nat := (r.call.run r.session).1

/-- The row that the request is about, as a store has it. -/
def row? (r : Request) (db : Store) : Option StoredRow := db.row? r.table r.write.id

/-- The store's answer to a request reaches the caller: it arrives before the call ends, over a
connection that is still there. -/
def Answered (r : Request) : Prop :=
  ∃ delay, r.session.nextReply.delay = some delay ∧
    r.limits.ended (r.session.now + delay) = none ∧ r.session.nextReply.answer ≠ .dropped

/-- What becomes of the store when a query of a request is sent to it. -/
inductive Serves (r : Request) (q : Query) (db : Store) : Store → Prop
  /-- The query is carried out, and the answer is the number of rows. -/
  | done {n : Nat} {db' : Store} (answered : r.Answered)
    (said : r.session.nextReply.answer = .done n) (executed : db.execute? r.now q = some (n, db')) :
    Serves r q db db'
  /-- The query is refused, for whatever reason, and the answer says so. -/
  | refused {code message : String} (answered : r.Answered)
    (said : r.session.nextReply.answer = .refused code message) : Serves r q db db
  /-- The query is carried out, and the caller does not hear of it. -/
  | unheard {n : Nat} {db' : Store} (unanswered : ¬r.Answered)
    (executed : db.execute? r.now q = some (n, db')) : Serves r q db db'
  /-- The query never gets to the store, or is refused there, and the caller does not hear of it. -/
  | unreached (unanswered : ¬r.Answered) : Serves r q db db

/-- A request takes a store to another one: it asks nothing, or is served once. -/
inductive Step (r : Request) (db : Store) : Store → Prop
  | silent (asked : r.call.asked r.session = []) : Step r db db
  | served {q : Query} {db' : Store} (asked : r.call.asked r.session = [.query q])
    (serves : r.Serves q db db') : Step r db db'

theorem result_of_query {r : Request} {q : Query} (h : r.write.query r.table r.user = .ok (some q))
    (ready : r.session.Ready r.limits) :
    r.result = (Session.awaited r.limits r.write.op r.session).1.map Session.affected := by
  rw [result, call, Write.run_call, h]
  dsimp only
  rw [Session.run_execute, (Session.obstacle_eq_none_iff ..).mpr ready]

/-- A request that asks nothing fails, or makes no row. -/
theorem outcome_of_silent {r : Request} (asked : r.call.asked r.session = []) (db : Store) :
    (∃ e, r.result = .error e) ∨
    (r.result = .ok 0 ∧ r.write.isAdd = false ∧ r.write.made? r.user r.now (r.row? db) = none) := by
  rw [call, Write.asked_call] at asked
  rcases hq : r.write.query r.table r.user with e | _ | q
  · refine .inl ⟨.failed (.invalidArgument e), ?_⟩
    rw [result, call, Write.run_call, hq]
  · cases hc : r.limits.check r.write.op r.session.now with
    | error e =>
      refine .inl ⟨.failed e, ?_⟩
      rw [result, call, Write.run_call, hq, hc]
      rfl
    | ok =>
      refine .inr ⟨?_, Write.unmade_of_silent hq r.now (r.row? db)⟩
      rw [result, call, Write.run_call, hq, hc]
      rfl
  · have hn : ¬r.session.Ready r.limits := fun hr => by simp [hq, hr] at asked
    cases ho : Session.obstacle r.limits r.write.op r.session with
    | none => exact absurd ((Session.obstacle_eq_none_iff ..).mp ho) hn
    | some e =>
      refine .inl ⟨.failed e, ?_⟩
      rw [result, call, Write.run_call, hq]
      dsimp only
      rw [Session.run_execute, ho]

/-- A request that asks something sends the query of its write, with the store at hand. -/
theorem query_of_asked {r : Request} {q : Query} (asked : r.call.asked r.session = [.query q]) :
    r.write.query r.table r.user = .ok (some q) ∧ r.session.Ready r.limits := by
  rw [call, Write.asked_call] at asked
  rcases hq : r.write.query r.table r.user with e | _ | q'
  · simp [hq] at asked
  · simp [hq] at asked
  · by_cases hr : r.session.Ready r.limits
    · obtain rfl : q' = q := by simpa [hq, hr] using asked
      exact ⟨rfl, hr⟩
    · simp [hq, hr] at asked

/-- A request that asks something sends one query. -/
theorem exists_query {r : Request} (sent : r.call.asked r.session ≠ []) :
    ∃ q, r.call.asked r.session = [.query q] := by
  rw [call, Write.asked_call] at sent ⊢
  rcases hq : r.write.query r.table r.user with e | _ | q
  · simp [hq] at sent
  · simp [hq] at sent
  · by_cases hr : r.session.Ready r.limits
    · exact ⟨q, if_pos hr⟩
    · simp [hq, hr] at sent

/-! ### Lost answers -/

/-- A request was sent, and its answer does not reach the caller. -/
def Lost (r : Request) : Prop := r.call.asked r.session ≠ [] ∧ ¬r.Answered

/-- What a call gives that loses its answer: its context has ended, or the connection is gone, or it
waits without end. -/
inductive Interruption (r : Request) : Halt → Prop
  | ended (how : Ending) : Interruption r (.failed (how.error r.write.op))
  | dropped : Interruption r (.failed (StoreError.classify r.write.op Session.connectionLost))
  | silence : Interruption r .waiting

theorem awaited_of_answered {r : Request} (h : r.Answered) :
    (Session.awaited r.limits r.write.op r.session).1 =
      Session.heard r.write.op r.session.nextReply.answer := by
  obtain ⟨delay, arrives, live, -⟩ := h
  exact congrArg Prod.fst (Session.Comes.answer arrives live).awaited_eq

theorem awaited_of_unanswered {r : Request} (h : ¬r.Answered) : ∃ e, r.Interruption e ∧
    (Session.awaited r.limits r.write.op r.session).1 = .error e := by
  have comes := Session.comes_awaited r.limits r.write.op r.session
  generalize (Session.awaited r.limits r.write.op r.session).2 = after at comes
  generalize (Session.awaited r.limits r.write.op r.session).1 = given at comes ⊢
  cases comes with
  | answer arrives live =>
    have dropped : r.session.nextReply.answer = .dropped := by
      by_contra kept
      exact h ⟨_, arrives, live, kept⟩
    exact ⟨_, .dropped, by rw [dropped, Session.heard]⟩
  | ending => exact ⟨_, .ended _, rfl⟩
  | silence => exact ⟨_, .silence, rfl⟩

/-- A lost request fails, and its failure is one of an interrupted call. -/
theorem lost_fails {r : Request} (h : r.Lost) : ∃ e, r.Interruption e ∧ r.result = .error e := by
  obtain ⟨q, asked⟩ := exists_query h.1
  obtain ⟨hq, ready⟩ := query_of_asked asked
  obtain ⟨e, interrupted, unheard⟩ := awaited_of_unanswered h.2
  refine ⟨e, interrupted, ?_⟩
  rw [result_of_query hq ready, unheard]
  rfl

theorem not_lost_of_ok {r : Request} {n : Nat} (h : r.result = .ok n) : ¬r.Lost := by
  intro lost
  obtain ⟨e, -, failed⟩ := lost_fails lost
  rw [failed] at h
  cases h

/-! ### Outcomes -/

/-- A query of a write that is carried out puts the row that the write makes, or no row if it makes
none, and counts what it has put. -/
theorem put_of_executed {r : Request} {q : Query} {db db' : Store} {n : Nat}
    (hq : r.write.query r.table r.user = .ok (some q))
    (executed : db.execute? r.now q = some (n, db')) :
    (n = 0 ∧ db' = db ∧ r.write.isAdd = false ∧ r.write.made? r.user r.now (r.row? db) = none) ∨
    ∃ row, ∃ hu : row.owner ∈ db.users, n = 1 ∧ db' = db.put r.table row hu ∧
      r.write.made? r.user r.now (r.row? db) = some row := by
  rw [Store.execute?_query db r.now hq] at executed
  have here : db.row? r.table r.write.id = r.row? db := rfl
  rw [here] at executed
  cases hm : r.write.made? r.user r.now (r.row? db) with
  | none =>
    cases hadd : r.write.isAdd with
    | true => simp [hm, hadd] at executed
    | false =>
      obtain ⟨rfl, rfl⟩ : 0 = n ∧ db = db' := by simpa [hm, hadd] using executed
      exact .inl ⟨rfl, rfl, rfl, rfl⟩
  | some row =>
    by_cases hu : row.owner ∈ db.users
    · obtain ⟨rfl, rfl⟩ : 1 = n ∧ db.put r.table row hu = db' := by simpa [hm, hu] using executed
      exact .inr ⟨row, hu, rfl, rfl, rfl⟩
    · simp [hm, hu] at executed

/-- **What a step does.** It changes nothing, and the request fails or makes no row; or the store
has the row that the request makes under its id, and the request counts it or is lost. -/
theorem Step.outcome {r : Request} {db db' : Store} (h : r.Step db db') :
    (∃ e, r.result = .error e ∧ db' = db) ∨
    (r.result = .ok 0 ∧ db' = db ∧ r.write.isAdd = false ∧
      r.write.made? r.user r.now (r.row? db) = none) ∨
    ∃ row, ∃ hu : row.owner ∈ db.users, (r.result = .ok 1 ∨ r.Lost) ∧
      db' = db.put r.table row hu ∧ r.write.made? r.user r.now (r.row? db) = some row := by
  cases h with
  | silent asked =>
    rcases outcome_of_silent asked db with ⟨e, failed⟩ | ⟨result, hadd, hmade⟩
    · exact .inl ⟨e, failed, rfl⟩
    · exact .inr (.inl ⟨result, rfl, hadd, hmade⟩)
  | @served q _ asked serves =>
    obtain ⟨hq, ready⟩ := query_of_asked asked
    have result := result_of_query hq ready
    have lost (unanswered : ¬r.Answered) : r.Lost := ⟨by simp [asked], unanswered⟩
    cases serves with
    | done answered said executed =>
      rw [awaited_of_answered answered, said] at result
      rcases put_of_executed hq executed with ⟨rfl, rfl, hadd, hm⟩ | ⟨row, hu, rfl, rfl, hm⟩
      · exact .inr (.inl ⟨result, rfl, hadd, hm⟩)
      · exact .inr (.inr ⟨row, hu, .inl result, rfl, hm⟩)
    | refused answered said =>
      rw [awaited_of_answered answered, said] at result
      exact .inl ⟨_, result, rfl⟩
    | unheard unanswered executed =>
      obtain ⟨e, -, failed⟩ := lost_fails (lost unanswered)
      rcases put_of_executed hq executed with ⟨-, rfl, -, -⟩ | ⟨row, hu, -, rfl, hm⟩
      · exact .inl ⟨e, failed, rfl⟩
      · exact .inr (.inr ⟨row, hu, .inr (lost unanswered), rfl, hm⟩)
    | unreached unanswered =>
      obtain ⟨e, -, failed⟩ := lost_fails (lost unanswered)
      exact .inl ⟨e, failed, rfl⟩

/-! ### Effects -/

/-- What a request has done, going by what it gave. -/
structure Effect (r : Request) (db db' : Store) : Prop where
  /-- A failure changes nothing, unless it hides that the request was sent. -/
  failed : ∀ e, r.result = .error e → ¬r.Lost → db' = db
  /-- A lost request fails as an interrupted call does. It has done nothing, or has written the row
  that the write makes. -/
  lost : r.Lost → (∃ e, r.Interruption e ∧ r.result = .error e) ∧
    (db' = db ∨ ∃ row, r.write.made? r.user r.now (r.row? db) = some row ∧
      row.owner = r.user ∧ r.row? db' = some row)
  count : ∀ n, r.result = .ok n → n ≤ 1
  unwritten : r.result = .ok 0 → db' = db
  /-- What was written is the row that the write makes, if it makes one. -/
  written : ∀ n, r.result = .ok n → match r.write.made? r.user r.now (r.row? db) with
    | some row => n = 1 ∧ r.row? db' = some row
    | none => n = 0
  /-- An addition counts one exactly when it made the row. -/
  added : r.write.isAdd = true → ∀ n, r.result = .ok n →
    (n = 1 ↔ r.row? db = none ∧ ∃ row, r.row? db' = some row ∧ row.owner = r.user)
  /-- A change or a mark of deletion counts one exactly when it changed the user's row. -/
  changed : r.write.isAdd = false → ∀ n, r.result = .ok n →
    (n = 1 ↔ ∃ row row', r.row? db = some row ∧ row.owner = r.user ∧
      r.row? db' = some row' ∧ row' ≠ row)
  /-- A row that is not as it was has been written later than before. -/
  later : ∀ row row', r.row? db = some row → r.row? db' = some row' →
    row' = row ∨ (row.updatedAt < row'.updatedAt ∧
      row'.updatedAt = max r.now (row.updatedAt + 1) ∧ (row.deleted = true → row'.deleted = true))
  others : ∀ t id, ¬(t = r.table ∧ id = r.write.id) → db'.row? t id = db.row? t id

/-- The row that a request makes is found where the request says. -/
theorem row?_put_made {r : Request} {db : Store} {row : StoredRow} (hu : row.owner ∈ db.users)
    (hm : r.write.made? r.user r.now (r.row? db) = some row) :
    row.id = r.write.id ∧ r.row? (db.put r.table row hu) = some row := by
  have hid := (Write.made?_spec (fun _ h => Store.id_of_row? h) hm).1
  refine ⟨hid, ?_⟩
  rw [row?, Store.row?_put, if_pos ⟨rfl, hid.symm⟩]

/-- A request that changes nothing has failed, or made no row. -/
theorem effect_unchanged {r : Request} {db : Store}
    (h : (∃ e, r.result = .error e) ∨ (r.result = .ok 0 ∧ r.write.isAdd = false ∧
      r.write.made? r.user r.now (r.row? db) = none)) : r.Effect db db := by
  have zero : ∀ n, r.result = .ok n →
      n = 0 ∧ r.write.isAdd = false ∧ r.write.made? r.user r.now (r.row? db) = none := by
    intro n hn
    rcases h with ⟨e, he⟩ | ⟨hr, hadd, hm⟩
    · simp [he] at hn
    · exact ⟨by simpa [hr, eq_comm] using hn, hadd, hm⟩
  refine ⟨fun _ _ _ => rfl, fun lost => ⟨lost_fails lost, .inl rfl⟩, ?_, fun _ => rfl, ?_, ?_, ?_,
    ?_, fun _ _ _ => rfl⟩
  · intro n hn
    have := (zero n hn).1
    omega
  · intro n hn
    obtain ⟨none_written, -, hm⟩ := zero n hn
    rw [hm]
    exact none_written
  · intro ha n hn
    have := (zero n hn).2.1
    simp [this] at ha
  · intro _ n hn
    rw [(zero n hn).1]
    refine iff_of_false (by decide) ?_
    rintro ⟨row, row', h, -, h', hne⟩
    exact hne (Option.some.inj (h'.symm.trans h))
  · intro row row' h h'
    exact .inl (Option.some.inj (h'.symm.trans h))

/-- A request that puts the row that it makes. -/
theorem effect_put {r : Request} {db : Store} {row : StoredRow} (hu : row.owner ∈ db.users)
    (hr : r.result = .ok 1 ∨ r.Lost) (hm : r.write.made? r.user r.now (r.row? db) = some row) :
    r.Effect db (db.put r.table row hu) := by
  have one : ∀ n, r.result = .ok n → n = 1 := by
    intro n hn
    have given := hr.resolve_right (not_lost_of_ok hn)
    simpa [given, eq_comm] using hn
  obtain ⟨hid, howner, hadd, hold⟩ := Write.made?_spec (fun _ h => Store.id_of_row? h) hm
  obtain ⟨-, hrow⟩ := row?_put_made hu hm
  refine ⟨?_, ?_, ?_, ?_, ?_, ?_, ?_, ?_, ?_⟩
  · intro e he known
    have counted := hr.resolve_right known
    rw [counted] at he
    cases he
  · exact fun lost => ⟨lost_fails lost, .inr ⟨row, hm, howner, hrow⟩⟩
  · intro n hn
    have := one n hn
    omega
  · intro hn
    have := one 0 hn
    omega
  · intro n hn
    rw [hm]
    exact ⟨one n hn, hrow⟩
  · intro ha n hn
    exact iff_of_true (one n hn) ⟨hadd.mp ha, row, hrow, howner⟩
  · intro ha n hn
    have some_old : r.row? db ≠ none := fun h => by simp [hadd.mpr h] at ha
    obtain ⟨old, ho⟩ := Option.ne_none_iff_exists'.mp some_old
    obtain ⟨owner, stamp, -⟩ := hold old ho
    refine iff_of_true (one n hn) ⟨old, row, ho, owner, hrow, ?_⟩
    rintro rfl
    omega
  · intro old row' ho h'
    obtain rfl := Option.some.inj (hrow.symm.trans h')
    obtain ⟨-, stamp, mark⟩ := hold old ho
    exact .inr ⟨by omega, stamp, mark⟩
  · intro t id hne
    rw [Store.row?_put, if_neg fun h => hne ⟨h.1, h.2.trans hid⟩]

theorem Step.effect {r : Request} {db db' : Store} (h : r.Step db db') : r.Effect db db' := by
  rcases h.outcome with ⟨e, hr, rfl⟩ | ⟨hr, rfl, hadd, hm⟩ | ⟨row, hu, hr, rfl, hm⟩
  · exact effect_unchanged (.inl ⟨e, hr⟩)
  · exact effect_unchanged (.inr ⟨hr, hadd, hm⟩)
  · exact effect_put hu hr hm

theorem Step.users_eq {r : Request} {db db' : Store} (h : r.Step db db') :
    db'.users = db.users := by
  rcases h.outcome with ⟨_, -, rfl⟩ | ⟨-, rfl, -, -⟩ | ⟨row, hu, -, rfl, -⟩ <;> rfl

/-- A step leaves every row where it is, with its id and owner. -/
theorem Step.kept {r : Request} {db db' : Store} (h : r.Step db db') {t : Table} {id : String}
    {row : StoredRow} (hrow : db.row? t id = some row) : ∃ row', db'.row? t id = some row' ∧
      row'.id = row.id ∧ row'.owner = row.owner ∧ row.updatedAt ≤ row'.updatedAt ∧
      (row.deleted = true → row'.deleted = true) := by
  rcases h.outcome with ⟨_, -, rfl⟩ | ⟨-, rfl, -, -⟩ | ⟨made, hu, -, rfl, hm⟩
  · exact ⟨row, hrow, rfl, rfl, Int.le_refl _, fun hd => hd⟩
  · exact ⟨row, hrow, rfl, rfl, Int.le_refl _, fun hd => hd⟩
  · obtain ⟨hid, howner, -, hold⟩ := Write.made?_spec (fun _ h => Store.id_of_row? h) hm
    by_cases hc : t = r.table ∧ id = made.id
    · obtain ⟨rfl, rfl⟩ := hc
      have hrow' : r.row? db = some row := by rw [row?, ← hid]; exact hrow
      obtain ⟨owner, stamp, mark⟩ := hold row hrow'
      refine ⟨made, ?_, (Store.id_of_row? hrow).symm, howner.trans owner.symm, by omega, mark⟩
      rw [Store.row?_put, if_pos ⟨rfl, rfl⟩]
    · refine ⟨row, ?_, rfl, rfl, Int.le_refl _, fun hd => hd⟩
      rw [Store.row?_put, if_neg hc, hrow]

theorem asked_of_ready {r : Request} {q : Query}
    (hq : r.write.query r.table r.user = .ok (some q)) (ready : r.session.Ready r.limits) :
    r.call.asked r.session = [.query q] := by
  rw [call, Write.asked_of_query hq, if_pos ready]

/-- The query of a write that makes a row can be carried out if the owner is a user. -/
theorem executed_of_made {r : Request} {db : Store} {q : Query} {row : StoredRow}
    (hq : r.write.query r.table r.user = .ok (some q)) (hu : row.owner ∈ db.users)
    (hm : r.write.made? r.user r.now (r.row? db) = some row) :
    db.execute? r.now q = some (1, db.put r.table row hu) := by
  rw [row?] at hm
  rw [Store.execute?_query db r.now hq, hm]
  exact dif_pos hu

/-- A store may serve a request that makes a row, and count it. -/
theorem Step.made {r : Request} {db : Store} {q : Query} {row : StoredRow}
    (hq : r.write.query r.table r.user = .ok (some q)) (ready : r.session.Ready r.limits)
    (answered : r.Answered) (said : r.session.nextReply.answer = .done 1)
    (hu : row.owner ∈ db.users) (hm : r.write.made? r.user r.now (r.row? db) = some row) :
    r.Step db (db.put r.table row hu) :=
  .served (asked_of_ready hq ready) (.done answered said (executed_of_made hq hu hm))

/-- A store may serve a request that makes no row, unless it is an addition. -/
theorem Step.unmade {r : Request} {db : Store} {q : Query}
    (hq : r.write.query r.table r.user = .ok (some q)) (ready : r.session.Ready r.limits)
    (answered : r.Answered) (said : r.session.nextReply.answer = .done 0)
    (hadd : r.write.isAdd = false) (hm : r.write.made? r.user r.now (r.row? db) = none) :
    r.Step db db := by
  refine .served (asked_of_ready hq ready) (.done answered said ?_)
  rw [row?] at hm
  rw [Store.execute?_query db r.now hq, hm]
  simp [hadd]

/-- There is a session in which a store serves a write that makes a row. -/
theorem exists_step (t : Table) (user : UserId) (w : Write) (now : Int) {q : Query} {db : Store}
    {row : StoredRow} (hq : w.query t user = .ok (some q)) (hu : row.owner ∈ db.users)
    (hm : w.made? user now (db.row? t w.id) = some row) :
    ∃ r : Request, r.user = user ∧ r.table = t ∧ r.now = now ∧ r.Step db (db.put t row hu) := by
  let session : Session := { pool := { reachable := true }, replies := [{ answer := .done 1 }] }
  let r : Request := ⟨{}, t, user, w, session, now⟩
  have answered : r.Answered := ⟨0, rfl, rfl, nofun⟩
  have served : r.Step db (db.put r.table row hu) := .made hq ⟨rfl, rfl⟩ answered rfl hu hm
  exact ⟨r, rfl, rfl, rfl, served⟩

end Request

/-! ### Runs -/

/-- Requests take a store to another one, in the order in which it gets to them. A request that is
lost may have been made before those that it is served after. -/
inductive Run : Store → List Request → Store → Prop
  | nil (db : Store) : Run db [] db
  | cons {db db' db'' : Store} {r : Request} {rs : List Request} (step : r.Step db db')
    (rest : Run db' rs db'') : Run db (r :: rs) db''

namespace Run

/-- Along a run every row stays where it is, with its id and owner. -/
theorem kept {db db' : Store} {rs : List Request} (h : Run db rs db') {t : Table} {id : String}
    {row : StoredRow} (hrow : db.row? t id = some row) : ∃ row', db'.row? t id = some row' ∧
      row'.id = row.id ∧ row'.owner = row.owner ∧ row.updatedAt ≤ row'.updatedAt ∧
      (row.deleted = true → row'.deleted = true) := by
  induction h generalizing row with
  | nil => exact ⟨row, hrow, rfl, rfl, Int.le_refl _, fun hd => hd⟩
  | cons step _ ih =>
    obtain ⟨row₁, h₁, id₁, owner₁, stamp₁, mark₁⟩ := step.kept hrow
    obtain ⟨row₂, h₂, id₂, owner₂, stamp₂, mark₂⟩ := ih h₁
    exact ⟨row₂, h₂, id₂.trans id₁, owner₂.trans owner₁, Int.le_trans stamp₁ stamp₂,
      fun hd => mark₂ (mark₁ hd)⟩

/-- A run can be cut at each of its requests. -/
theorem split {db db' : Store} {before after : List Request} {r : Request}
    (h : Run db (before ++ r :: after) db') :
    ∃ mid mid', Run db before mid ∧ r.Step mid mid' ∧ Run mid' after db' := by
  induction before generalizing db with
  | nil =>
    cases h with
    | cons step rest => exact ⟨db, _, .nil db, step, rest⟩
  | cons x xs ih =>
    cases h with
    | cons step rest =>
      obtain ⟨mid, mid', hb, hs, ha⟩ := ih rest
      exact ⟨mid, mid', .cons step hb, hs, ha⟩

end Run

/-- **Writes keep the store.** Along a run of writes, by whichever users, on whichever tables, with
whichever arguments and at whichever times, no row disappears and none changes its id or its owner.
Each call on the way has the effect that goes with what it gave: at most one row, exactly when it
made or changed the calling user's row of the id, which then is written later than before, and
nothing else. A failure changes nothing, except that a call that was sent and lost its answer may
have had the whole effect. -/
theorem writes_keep_the_store {db db' : Store} {rs : List Request} (h : Run db rs db') :
    (∀ t id row, db.row? t id = some row → ∃ row', db'.row? t id = some row' ∧
      row'.id = row.id ∧ row'.owner = row.owner ∧ row.updatedAt ≤ row'.updatedAt ∧
      (row.deleted = true → row'.deleted = true)) ∧
    ∀ before r after, rs = before ++ r :: after → ∃ mid mid', Run db before mid ∧
      r.Step mid mid' ∧ Run mid' after db' ∧ mid'.users = mid.users ∧ r.Effect mid mid' := by
  refine ⟨fun t id row hrow => h.kept hrow, ?_⟩
  rintro before r after rfl
  obtain ⟨mid, mid', hb, hs, ha⟩ := h.split
  exact ⟨mid, mid', hb, hs, ha, hs.users_eq, hs.effect⟩

/-- Two users and a row of the first, which the second cannot change, and which the first one
deletes while the clock goes backwards. -/
theorem writes_keep_the_store_of_two :
    ∃ (alice bob : UserId) (db db' : Store) (stranger owner : Request),
      alice ≠ bob ∧ stranger.user = bob ∧ owner.user = alice ∧
      Run db [stranger, owner] db' ∧ stranger.result = .ok 0 ∧ owner.result = .ok 1 ∧
      ∃ row row', db.row? .textData "e1" = some row ∧ db'.row? .textData "e1" = some row' ∧
        row'.owner = alice ∧ row.updatedAt ≤ row'.updatedAt ∧ owner.now < row.updatedAt ∧
        ∃ mid mid', owner.Effect mid mid' := by
  let alice : UserId := ⟨1, by decide⟩
  let bob : UserId := ⟨2, by decide⟩
  let row : StoredRow := ⟨"e1", alice, fun _ => none, 1000, false⟩
  let db : Store := {
    users := [alice, bob]
    rows := fun _ => Rows.empty.put row
    owned := fun _ r hr => by
      obtain rfl := List.mem_singleton.mp hr
      exact List.mem_cons_self }
  let session (n : Nat) : Session :=
    { pool := { reachable := true }, replies := [{ answer := .done n }] }
  let stranger : Request :=
    ⟨{}, .textData, bob, .update "e1" (Fields.ofList [("data", "theirs")]), session 0, 2000⟩
  let owner : Request := ⟨{}, .textData, alice, .delete "e1", session 1, 500⟩
  have found : db.row? .textData "e1" = some row := rfl
  have first : stranger.Step db db :=
    .unmade (q := Query.update .textData bob "e1" [(.data, "theirs")]) rfl (by decide)
      ⟨0, rfl, rfl, by decide⟩ rfl rfl rfl
  have second : owner.Step db (db.put .textData (row.marked 500) List.mem_cons_self) :=
    .made (q := Query.delete .textData alice "e1") rfl (by decide) ⟨0, rfl, rfl, by decide⟩ rfl _
      rfl
  have whole := Run.cons first (.cons second (.nil _))
  obtain ⟨kept, effects⟩ := writes_keep_the_store whole
  obtain ⟨row', found', -, howner, later, -⟩ := kept .textData "e1" row found
  obtain ⟨mid, mid', -, -, -, -, effect⟩ := effects [stranger] owner [] rfl
  exact ⟨alice, bob, db, _, stranger, owner, by decide, rfl, rfl, whole, rfl, rfl, row, row', found,
    found', howner, later, by decide, mid, mid', effect⟩

/-- An addition that is cancelled while the store carries it out: the call fails, and the row, which
was not there before, is there. -/
theorem cancelled_addition_with_row :
    let user : UserId := ⟨7, by decide⟩
    let db := Store.ofUsers [user]
    let session : Session :=
      { pool := { reachable := true }, replies := [{ delay := none, answer := .done 1 }] }
    let r : Request :=
      { limits := { cancelledAt := some 5 }, table := .textData, user := user,
        write := .add "e1" (Fields.ofList [("data", "v1")]), session := session, now := 1000 }
    r.result = .error (.failed (.cancelled "add record")) ∧ db.row? .textData "e1" = none ∧
      ∃ db' row, Run db [r] db' ∧ db'.row? .textData "e1" = some row ∧ row.owner = user := by
  intro user db session r
  let row : StoredRow := .ofFields user "e1" (Fields.ofList [("data", "v1")]) 1000
  have asked : r.call.asked r.session =
      [.query (Query.insert .textData user "e1" [(.data, "v1")])] :=
    Request.asked_of_ready rfl (by decide)
  have unanswered : ¬r.Answered := fun ⟨_, arrives, _⟩ => by cases arrives
  have carried : r.Step db (db.put .textData row List.mem_cons_self) :=
    .served asked (.unheard unanswered (Request.executed_of_made rfl _ rfl))
  exact ⟨rfl, rfl, _, row, .cons carried (.nil _), rfl, rfl⟩

end RecordSync
