import RecordSync.Proofs.Storage.Cells

/-!
# What reads give

The store answers a look-up of columns with the columns of the table, and a read with the rows of
which its conditions hold, in some order. A read of the engine that gives records then gives the
records of the rows that it is about: those of the user, without the deleted ones unless they are
included, and of those the ones written after a time if one is given. It fails when a row among them
was written at a time that no calendar day has.

Key definitions: `Store.Answers`, `Store.Faithful`, `StoredRow.isWanted`.
Key theorems: `Store.answers_select_iff`, `Engine.records_of_readAll`, `Store.exists_read`.
-/
namespace RecordSync

open Sql (Scope Condition)

/-! ### Answers -/

/-- What the catalog answers about a table: the names of its columns, in their order. -/
def Table.catalogAnswer (t : Table) : Answer :=
  .rows [⟨"column_name", "TEXT"⟩] (t.columns.map fun c => [some (Wire.textBytes c.name)])

namespace Store

/-- The rows of which conditions hold, if these have a meaning for every row. -/
def selected? (db : Store) (σ : Scope) (cs : List Condition) : Option (List StoredRow) := do
  let flagged ← (db.rows σ.table).list.mapM fun r => (Sql.selects? σ r cs).map fun b => (b, r)
  some ((flagged.filter Prod.fst).map Prod.snd)

/-- What the store may answer to a query that reads, at a time of its clock. Rows come in any order,
that which the query asks for among others. -/
inductive Answers (db : Store) (now : Int) (q : Query) : Answer → Prop
  | catalog {n : Nat} {t : Table} (text : Sql.read? q.statement.text = some (.catalog n))
    (bound : q.bound? n = some (.text t.catalogName)) : Answers db now q t.catalogAnswer
  | rows {t : Table} {name : String} {names order : List String} {cs : List Condition}
    {columns : List Column} {selected rows : List StoredRow} {cells : List (List Cell)}
    (text : Sql.read? q.statement.text = some (.select names name cs order))
    (table : Table.ofCatalogName? name = some t) (known : names.mapM t.column? = some columns)
    (chosen : db.selected? ⟨t, q, now⟩ cs = some selected) (ordered : rows.Perm selected)
    (sent : rows.mapM (fun r => r.cells? columns) = some cells) :
    Answers db now q (.rows (columns.map Column.info) cells)

end Store

/-- An answer has a result, rather than an error. -/
def Answer.isResult : Answer → Bool
  | .done _ => true
  | .rows _ _ => true
  | _ => false

/-- Replies are those of a store to what it was asked: a result answers the query that it comes
for. -/
def Store.Faithful (db : Store) (now : Int) (asked : List Event) (replies : List Reply) : Prop :=
  ∀ (i : Nat) (q : Query) (reply : Reply), asked[i]? = some (.query q) → replies[i]? = some reply →
    reply.answer.isResult = true → db.Answers now q reply.answer

/-! ### Selected rows -/

/-- Whether a read is about a row. -/
def StoredRow.isWanted (user : UserId) (since : Option Instant) (includeDeleted : Bool)
    (r : StoredRow) : Bool :=
  decide (r.owner = user) && (includeDeleted || !r.deleted) &&
    since.all fun w => decide (w.storedMicros < r.updatedAt)

/-- The conditions of a read hold of the rows that it is about. -/
theorem Sql.selects?_read (t : Table) (names : List String) (user : UserId)
    (since : Option Instant) (includeDeleted : Bool) (now : Int) (r : StoredRow) :
    selects? ⟨t, Query.select t names user since includeDeleted, now⟩ r
        (readConditions 1 includeDeleted (since.map fun _ => 2)) =
      some (r.isWanted user since includeDeleted) := by
  have owner : t.column? "user_id" = some (.convention .userId) := t.column?_convention .userId
  have deleted : t.column? "deleted" = some (.convention .deleted) := t.column?_convention .deleted
  have stamp : t.column? "updated_at" = some (.convention .updatedAt) :=
    t.column?_convention .updatedAt
  have same : r.owner.value = user.value ↔ r.owner = user :=
    ⟨UserId.eq_of_value, congrArg UserId.value⟩
  cases includeDeleted <;> cases since <;>
    simp [selects?, readConditions, Condition.holds?, Expr.value?, owner, deleted, stamp,
      Query.select, Query.bound?, StoredRow.get, Bind.datum, Datum.equal?, Datum.greater?, same,
      StoredRow.isWanted, Bool.and_assoc]

namespace Store

theorem selected?_of_selects {db : Store} {σ : Scope} {cs : List Condition} {p : StoredRow → Bool}
    (h : ∀ r, Sql.selects? σ r cs = some (p r)) :
    db.selected? σ cs = some ((db.rows σ.table).list.filter p) := by
  have flagged (rs : List StoredRow) :
      rs.mapM (fun r => (Sql.selects? σ r cs).map fun b => (b, r)) =
        some (rs.map fun r => (p r, r)) := by
    induction rs with
    | nil => rfl
    | cons r rs ih =>
      rw [List.mapM_cons, ih, h]
      rfl
  rw [selected?, flagged]
  simp [List.filter_map, Function.comp_def]

theorem answers_columns_iff {db : Store} {now : Int} {t : Table} {a : Answer} :
    db.Answers now (Query.columns t) a ↔ a = t.catalogAnswer := by
  have text : Sql.read? (Query.columns t).statement.text = some (.catalog 1) := Sql.read?_columns 1
  constructor
  · intro h
    cases h with
    | @catalog n t' text' bound =>
      obtain rfl : 1 = n := by simpa [text] using text'
      have name : t.catalogName = t'.catalogName := by
        simpa [Query.bound?, Query.columns] using bound
      have found := t'.ofCatalogName?_catalogName
      rw [← name, t.ofCatalogName?_catalogName] at found
      rw [Option.some.inj found]
    | rows text' => simp [text] at text'
  · rintro rfl
    exact .catalog text rfl

theorem known_columns (t : Table) :
    (t.columns.map Column.name).mapM t.column? = some t.columns := by
  have every (cs : List Column) (h : ∀ c ∈ cs, c ∈ t.columns) :
      (cs.map Column.name).mapM t.column? = some cs := by
    induction cs with
    | nil => rfl
    | cons c cs ih =>
      obtain ⟨hc, hcs⟩ := List.forall_mem_cons.mp h
      rw [List.map_cons, List.mapM_cons, Table.column?_name hc, ih hcs]
      rfl
  exact every t.columns fun _ hc => hc

/-- A read of all columns of a table is answered with the rows that it is about. -/
theorem answers_select_iff {db : Store} {now : Int} {t : Table} {user : UserId}
    {since : Option Instant} {includeDeleted : Bool} {a : Answer} :
    db.Answers now (Query.select t (t.columns.map Column.name) user since includeDeleted) a ↔
      ∃ (rows : List StoredRow) (cells : List (List Cell)),
        rows.Perm ((db.rows t).list.filter (StoredRow.isWanted user since includeDeleted)) ∧
        rows.mapM (fun r => r.cells? t.columns) = some cells ∧
        a = .rows (t.columns.map Column.info) cells := by
  have some_columns : t.columns.map Column.name ≠ [] := by simp [Table.columns]
  have text := (Query.select_aligned t some_columns user since includeDeleted).1
  have chosen : db.selected?
      ⟨t, Query.select t (t.columns.map Column.name) user since includeDeleted, now⟩
      (Sql.readConditions 1 includeDeleted (since.map fun _ => 2)) =
        some ((db.rows t).list.filter (StoredRow.isWanted user since includeDeleted)) :=
    selected?_of_selects (Sql.selects?_read t _ user since includeDeleted now)
  constructor
  · intro h
    cases h with
    | catalog text' => simp [text] at text'
    | @rows t' name names order cs columns selected rows cells text' table known chosen' ordered
        sent =>
      rw [text, Option.some.injEq, Sql.Command.select.injEq] at text'
      obtain ⟨rfl, rfl, rfl, rfl⟩ := text'
      rw [t.ofCatalogName?_catalogName] at table
      obtain rfl := Option.some.inj table
      rw [known_columns] at known
      obtain rfl := Option.some.inj known
      rw [chosen] at chosen'
      obtain rfl := Option.some.inj chosen'
      exact ⟨rows, cells, ordered, sent, rfl⟩
  · rintro ⟨rows, cells, ordered, sent, rfl⟩
    exact .rows text t.ofCatalogName?_catalogName (known_columns t) chosen ordered sent

end Store

/-! ### Reads -/

/-- What the catalog answers names the columns of the table, and is accepted. -/
theorem Engine.namesOf_catalogAnswer (t : Table) :
    namesOf t (Session.rowsOf t.catalogAnswer) = .ok (t.columns.map Column.name) := by
  have texts (cs : List Column) :
      Row.scalars Row.textScalar (cs.map fun c =>
        [(⟨⟨"column_name", "TEXT"⟩, some (Wire.textBytes c.name)⟩ : Field)]) =
          .ok (cs.map Column.name) := by
    induction cs with
    | nil => rfl
    | cons c cs ih =>
      have typed : Row.textScalar.types.contains "TEXT" = true := by decide
      have one : Row.scalar Row.textScalar
          [⟨⟨"column_name", "TEXT"⟩, some (Wire.textBytes c.name)⟩] = .ok c.name := by
        have read : Row.textScalar.read (Wire.textBytes c.name) = .ok c.name :=
          Wire.readText_textBytes c.name
        simp only [Row.scalar, Row.scalarOf, Row.Scalar.ofField, typed, ↓reduceIte, read]
        rfl
      rw [List.map_cons, Row.scalars, one, ih]
      rfl
  have fields : Session.rowsOf t.catalogAnswer = t.columns.map fun c =>
      [⟨⟨"column_name", "TEXT"⟩, some (Wire.textBytes c.name)⟩] := by
    rw [Table.catalogAnswer, Session.rowsOf, List.map_map]
    rfl
  have accepted : Catalog.check (t.columns.map Column.name) = .ok () := by
    cases t <;> decide +kernel
  rw [namesOf, fields, texts]
  simp only [accepted]

namespace Engine

variable {l : Limits} {t : Table} {user : UserId} {since : Option Instant} {includeDeleted : Bool}
  {s : Session}

/-- What is heard in the end is a result. -/
theorem isResult_of_awaited {op : String} {answer : Answer}
    (h : (Session.awaited l op s).1 = .ok answer) : answer.isResult = true := by
  have heard := Session.heard_of_awaited h
  cases ha : s.nextReply.answer <;> simp [ha, Session.heard] at heard <;> rw [← heard] <;> rfl

/-- A fetch that gives rows takes them from the first reply in hand, which has a result. -/
theorem result_of_fetch {op : String} {q : Query} {s' : Session} {rows : List Row}
    (h : (Session.fetch l op q).run s = (.ok rows, s')) :
    s.replies[0]? = some s.nextReply ∧ s.nextReply.answer.isResult = true := by
  rw [Session.run_fetch] at h
  cases ho : Session.obstacle l op s with
  | some e =>
    rw [ho] at h
    cases h
  | none =>
    rw [ho] at h
    obtain ⟨hrows, -⟩ := Prod.mk.inj h
    cases ha : (Session.awaited l op s).1 with
    | error e => simp [ha, Except.map] at hrows
    | ok answer =>
      have result : s.nextReply.answer.isResult = true := by
        rw [Session.awaited_ok ha]
        exact isResult_of_awaited ha
      refine ⟨?_, result⟩
      cases hr : s.replies with
      | nil => simp [Session.nextReply, hr, Reply.absent, Answer.isResult] at result
      | cons reply replies => simp [Session.nextReply, hr]

/-- Records come from two replies: the columns of the table, and the rows. -/
theorem run_readAll_ok {rs : List Record}
    (h : ((readAll l t user since includeDeleted).run s).1 = .ok rs) :
    ∃ (names : List String) (s₁ : Session) (rows : List Row),
      (tableColumns l t).run s = (.ok names, s₁) ∧
      (Session.fetch l "get all records" (Query.select t names user since includeDeleted)).run s₁ =
        (.ok rows, ((readAll l t user since includeDeleted).run s).2) ∧
      Row.toRecords rows = .ok rs := by
  rw [run_readAll] at h ⊢
  rcases hc : (tableColumns l t).run s with ⟨e | names, s₁⟩
  · simp [hc] at h
  · simp only [hc] at h ⊢
    rcases hf : (Session.fetch l "get all records"
      (Query.select t names user since includeDeleted)).run s₁ with ⟨e | rows, s₂⟩
    · simp [hf] at h
    · simp only [hf] at h ⊢
      refine ⟨names, s₁, rows, rfl, hf, ?_⟩
      cases hr : Row.toRecords rows with
      | error e => simp [hr, Except.mapError] at h
      | ok rs' => simpa [hr, Except.mapError] using h

/-- **What a read gives.** When the store answers as it should, a read that gives records gives
those of the rows that it is about, each of which was written at a time that a calendar day has. -/
theorem records_of_readAll {db : Store} {now : Int} {rs : List Record}
    (faithful : db.Faithful now ((readAll l t user since includeDeleted).asked s) s.replies)
    (h : ((readAll l t user since includeDeleted).run s).1 = .ok rs) :
    ∃ rows : List StoredRow,
      rows.Perm ((db.rows t).list.filter (StoredRow.isWanted user since includeDeleted)) ∧
      (∀ r ∈ rows, r.instant? ≠ none) ∧ rs = rows.map fun r => r.record t := by
  obtain ⟨names, s₁, fetched, hc, hf, hr⟩ := run_readAll_ok h
  obtain ⟨ready, hs₁, hn⟩ := run_tableColumns_ok hc
  obtain ⟨ready₁, -, rfl⟩ := Session.run_fetch_ok hf
  have asked : (readAll l t user since includeDeleted).asked s =
      [.query (Query.columns t), .query (Query.select t names user since includeDeleted)] := by
    rw [asked_readAll, hc]
    simp [ready₁]
  rw [asked] at faithful
  obtain ⟨rows₀, s', hf₀⟩ : ∃ rows s',
      (Session.fetch l "get table columns" (Query.columns t)).run s = (.ok rows, s') := by
    rw [run_tableColumns] at hc
    rcases hf₀ : (Session.fetch l "get table columns" (Query.columns t)).run s with ⟨e | rows, s'⟩
    · rw [hf₀] at hc
      cases hc
    · exact ⟨rows, s', rfl⟩
  -- The first reply names the columns of the table.
  obtain ⟨here₀, result₀⟩ := result_of_fetch hf₀
  have columns := Store.answers_columns_iff.mp (faithful 0 _ _ rfl here₀ result₀)
  rw [columns, namesOf_catalogAnswer] at hn
  obtain rfl := Except.ok.inj hn
  -- The second reply has the rows.
  obtain ⟨here₁, result₁⟩ := result_of_fetch hf
  have tail : s₁.replies = s.replies.tail := by
    rw [hs₁]
    rfl
  have next : s.replies[1]? = some s₁.nextReply := by
    rwa [tail, List.getElem?_tail] at here₁
  obtain ⟨rows, cells, ordered, sent, answer⟩ :=
    Store.answers_select_iff.mp (faithful 1 _ _ rfl next result₁)
  have fields : Session.rowsOf s₁.nextReply.answer = cells.map (StoredRow.fields t.columns) := by
    rw [answer]
    rfl
  rw [fields] at hr
  obtain ⟨instants, records⟩ := (StoredRow.toRecords_fields sent rs).mp hr
  exact ⟨rows, ordered, instants, records⟩

/-- The columns of a table are those that the catalog answers with. -/
theorem run_tableColumns_of_answer {s₁ : Session} (ready : s.Ready l)
    (heard : Session.awaited l "get table columns" s = (.ok t.catalogAnswer, s₁.now))
    (hs₁ : s₁ = { s.sent (Query.columns t) with now := s₁.now }) :
    (tableColumns l t).run s = (.ok (t.columns.map Column.name), s₁) := by
  have fetched : (Session.fetch l "get table columns" (Query.columns t)).run s =
      (.ok (Session.rowsOf t.catalogAnswer), s₁) := by
    rw [Session.run_fetch, (Session.obstacle_eq_none_iff ..).mpr ready]
    simp only [heard]
    rw [← hs₁]
    rfl
  rw [run_tableColumns, fetched]
  simp only [namesOf_catalogAnswer]
  rfl

end Engine

/-! ### Sessions in which a read is served -/

theorem StoredRow.exists_cells {r : StoredRow} (h : Wire.Fits r.updatedAt) (cs : List Column) :
    ∃ cells, r.cells? cs = some cells := by
  have one (c : Column) : ∃ cell, (r.get c).cell? = some cell := by
    rcases c with (_ | _ | _ | _) | c
    · exact ⟨_, rfl⟩
    · exact ⟨_, rfl⟩
    · exact ⟨_, if_pos h⟩
    · exact ⟨_, rfl⟩
    · rw [get]
      cases r.values c <;> exact ⟨_, rfl⟩
  induction cs with
  | nil => exact ⟨[], rfl⟩
  | cons c cs ih =>
    obtain ⟨cell, hc⟩ := one c
    obtain ⟨cells, hcs⟩ := ih
    rw [cells?] at hcs
    exact ⟨cell :: cells, by rw [cells?, List.mapM_cons, hc, hcs]; rfl⟩

theorem StoredRow.exists_all_cells {rows : List StoredRow} (h : ∀ r ∈ rows, Wire.Fits r.updatedAt)
    (cs : List Column) : ∃ cells, rows.mapM (fun r => r.cells? cs) = some cells := by
  induction rows with
  | nil => exact ⟨[], rfl⟩
  | cons r rows ih =>
    obtain ⟨hr, hrows⟩ := List.forall_mem_cons.mp h
    obtain ⟨first, hf⟩ := exists_cells hr cs
    obtain ⟨rest, hrest⟩ := ih hrows
    exact ⟨first :: rest, by rw [List.mapM_cons, hf, hrest]; rfl⟩

/-- A store can serve every read of rows whose times fit and are those of calendar days. -/
theorem Store.exists_read (db : Store) (now : Int) (t : Table) (user : UserId)
    (since : Option Instant) (includeDeleted : Bool)
    (times : ∀ r ∈ (db.rows t).list, Wire.Fits r.updatedAt ∧ r.instant? ≠ none) :
    ∃ (session : Session) (rs : List Record),
      db.Faithful now ((Engine.readAll {} t user since includeDeleted).asked session)
        session.replies ∧
      ((Engine.readAll {} t user since includeDeleted).run session).1 = .ok rs := by
  let rows := (db.rows t).list.filter (StoredRow.isWanted user since includeDeleted)
  have known : ∀ r ∈ rows, Wire.Fits r.updatedAt ∧ r.instant? ≠ none := fun r hr =>
    times r (List.mem_of_mem_filter hr)
  obtain ⟨cells, sent⟩ := StoredRow.exists_all_cells (fun r hr => (known r hr).1) t.columns
  let first : Reply := { answer := t.catalogAnswer }
  let second : Reply := { answer := .rows (t.columns.map Column.info) cells }
  let s : Session := { pool := { reachable := true }, replies := [first, second] }
  let s₁ : Session := { s.sent (Query.columns t) with now := 0 }
  have columns : (Engine.tableColumns {} t).run s = (.ok (t.columns.map Column.name), s₁) :=
    Engine.run_tableColumns_of_answer ⟨rfl, rfl⟩ rfl rfl
  have ready₁ : s₁.Ready {} := ⟨rfl, rfl⟩
  refine ⟨s, rows.map fun r => r.record t, ?_, ?_⟩
  · have asked : (Engine.readAll {} t user since includeDeleted).asked s =
        [.query (Query.columns t), .query (Query.select t (t.columns.map Column.name) user since
          includeDeleted)] := by
      rw [Engine.asked_readAll, columns]
      simp [ready₁]
    rw [asked]
    intro i q reply hq hr result
    rcases i with _ | _ | i
    · obtain rfl : Query.columns t = q := by simpa using hq
      obtain rfl : first = reply := by simpa [s] using hr
      exact answers_columns_iff.mpr rfl
    · obtain rfl : Query.select t (t.columns.map Column.name) user since includeDeleted = q := by
        simpa using hq
      obtain rfl : second = reply := by simpa [s] using hr
      exact answers_select_iff.mpr ⟨rows, cells, List.Perm.refl _, sent, rfl⟩
    · simp at hq
  · have fields : Session.rowsOf second.answer = cells.map (StoredRow.fields t.columns) := rfl
    have heard : (Session.awaited {} "get all records" s₁).1 = .ok second.answer := rfl
    have read := (StoredRow.toRecords_fields sent _).mpr ⟨fun r hr => (known r hr).2, rfl⟩
    rw [Engine.run_readAll, columns]
    simp only [Session.run_fetch, (Session.obstacle_eq_none_iff ..).mpr ready₁, heard, Except.map,
      fields, read]
    rfl

end RecordSync
