import RecordSync.Proofs.Invocations

/-!
# The two questions of a read

A read asks the catalog for the columns of its table and then the table for its rows, by the columns
that the catalog listed. Between the two the list is checked and the context is looked at once more,
so there are many ways to stop: `Reader.Goes` has one constructor for each, and what is said about
reads goes by its cases.

A step that fails says which operation it was. The columns are asked for under one name, the rows
under another; a context that ends after the columns are known fails the second step. What keeps a
list from being known settles the failure: `Session.Unlisted` has one constructor for each cause.

Key definitions: `Catalog.Conforms`, `Session.Listed`, `Session.Unlisted`, `Reader.Goes`.
Key theorems: `Catalog.check_eq_ok_iff`, `Reader.run_of_comes`, `Reader.goes`,
`Reader.run_of_unlisted`, `Reader.asks_columns_then_rows`.
-/
namespace RecordSync

/-! ### Lists of columns -/

namespace Catalog

variable {names : List String}

/-- The columns that a table with records may have. -/
structure Conforms (names : List String) : Prop where
  nonempty : names ≠ []
  plain : ∀ n ∈ names, isPlain n = true
  complete : ∀ c : ConventionColumn, c.name ∈ names

theorem missingColumns_eq_nil_iff :
    missingColumns names = [] ↔ ∀ c : ConventionColumn, c.name ∈ names := by
  unfold missingColumns
  rw [List.filter_eq_nil_iff]
  constructor
  · intro h c
    have listed : c ∈ ConventionColumn.all := by cases c <;> decide
    simpa using h c listed
  · intro h c _
    simp [h c]

/-- A list of columns is without fault exactly when it conforms. -/
theorem check_eq_ok_iff : check names = .ok () ↔ Conforms names := by
  unfold check
  by_cases empty : names = []
  · simp only [empty, List.isEmpty_nil, ↓reduceIte, reduceCtorEq, false_iff]
    exact fun h => h.nonempty rfl
  · have filled : names.isEmpty = false := by simp [empty]
    simp only [filled, Bool.false_eq_true, ↓reduceIte]
    cases hf : names.find? fun n => !isPlain n with
    | some n =>
      have bad : isPlain n = false := by simpa using List.find?_some hf
      simp only [reduceCtorEq, false_iff]
      intro h
      rw [h.plain n (List.mem_of_find?_eq_some hf)] at bad
      cases bad
    | none =>
      have plain : ∀ n ∈ names, isPlain n = true := by simpa using hf
      cases hm : missingColumns names with
      | nil =>
        simp only [true_iff]
        exact ⟨empty, plain, missingColumns_eq_nil_iff.mp hm⟩
      | cons c cs =>
        simp only [reduceCtorEq, false_iff]
        intro h
        rw [missingColumns_eq_nil_iff.mpr h.complete] at hm
        cases hm

theorem exists_fault_iff : (∃ fault, check names = .error fault) ↔ ¬Conforms names := by
  rw [← check_eq_ok_iff]
  cases check names <;> simp

end Catalog

/-! ### What the catalog replies -/

namespace Session

variable {l : Limits} {op : String} {s : Session} {names names' : List String} {after after' : Time}

/-- The reply is heard, and lists names. -/
def Listed (l : Limits) (s : Session) (names : List String) (after : Time) : Prop :=
  ∃ answer, Heard l s answer after ∧ Row.scalars Row.textScalar (rowsOf answer) = .ok names

theorem Listed.ready (h : Listed l s names after) : s.Ready l := by
  obtain ⟨answer, heard, -⟩ := h
  exact heard.ready

theorem Listed.unique (h : Listed l s names after) (h' : Listed l s names' after') :
    names = names' ∧ after = after' := by
  obtain ⟨answer, heard, reads⟩ := h
  obtain ⟨answer', heard', reads'⟩ := h'
  obtain ⟨rfl, rfl⟩ := heard.unique heard'
  rw [reads] at reads'
  exact ⟨Except.ok.inj reads', rfl⟩

/-- What keeps a caller from having a list of columns, and how it fails. -/
inductive Unlisted (l : Limits) (s : Session) : Halt → Prop
  /-- The context has ended before the columns are asked for. -/
  | ended {how : Ending} (ended : l.ended s.now = some how) :
    Unlisted l s (.failed (how.error "get table columns"))
  /-- There is no connection to have. -/
  | unconnected {e : ClientError} (live : l.ended s.now = none) (lacking : s.acquire = .error e) :
    Unlisted l s (.failed (StoreError.classify "get table columns" e))
  /-- The columns are asked for, and no answer is heard. -/
  | unheard {h : Halt} {after : Time} (ready : s.Ready l)
    (comes : Comes l "get table columns" s (.error h) after) : Unlisted l s h
  /-- The answer lists no names. -/
  | unread {answer : Answer} {after : Time} {e : ClientError} (heard : Heard l s answer after)
    (unread : Row.scalars Row.textScalar (rowsOf answer) = .error e) :
    Unlisted l s (.failed (StoreError.classify "get table columns" e))

/-- Whatever keeps the columns from being known, the failure says that they were asked for. -/
theorem Unlisted.named {h : Halt} (unlisted : Unlisted l s h) : h.Names "get table columns" := by
  cases unlisted with
  | ended => exact .context _
  | unconnected => exact .client _
  | unheard ready comes => exact comes.names
  | unread => exact .client _

end Session

/-! ### How a read goes -/

namespace Reader

open Session

variable {β : Type} {r : Reader β} {l : Limits} {user : UserId} {since : Option Instant}
  {includeDeleted : Bool} {s : Session}

/-- The session at the time after the columns were asked for. -/
def askedColumns (r : Reader β) (s : Session) (after : Time) : Session :=
  { s.sent (Query.columns r.table) with now := after }

/-- How a read may go. -/
inductive Goes (r : Reader β) (l : Limits) (user : UserId) (since : Option Instant)
    (includeDeleted : Bool) (s : Session) : Except Halt β → Session → Prop
  /-- The columns are not asked for. -/
  | held {e : StoreError} (held : obstacle l "get table columns" s = some e) :
    Goes r l user since includeDeleted s (.error (.failed e)) s
  /-- The columns are asked for, and no answer is heard. -/
  | unheard {h : Halt} {after : Time} (ready : s.Ready l)
    (comes : Comes l "get table columns" s (.error h) after) :
    Goes r l user since includeDeleted s (.error h) (r.askedColumns s after)
  /-- The answer lists no names. -/
  | unread {answer : Answer} {after : Time} {e : ClientError} (heard : Heard l s answer after)
    (unread : Row.scalars Row.textScalar (rowsOf answer) = .error e) :
    Goes r l user since includeDeleted s
      (.error (.failed (StoreError.classify "get table columns" e))) (r.askedColumns s after)
  /-- The names are not the columns of a table with records. -/
  | mismatch {names : List String} {after : Time} {fault : Catalog.Fault}
    (listed : Listed l s names after) (faulty : Catalog.check names = .error fault) :
    Goes r l user since includeDeleted s
      (.error (.failed (.schemaMismatch r.table.name (fault.reason r.table))))
      (r.askedColumns s after)
  /-- The context ends before the rows are asked for. -/
  | late {names : List String} {after : Time} {how : Ending} (listed : Listed l s names after)
    (conforms : Catalog.Conforms names) (ended : l.ended after = some how) :
    Goes r l user since includeDeleted s (.error (.failed (how.error "get all records")))
      (r.askedColumns s after)
  /-- The rows are asked for, and no answer is heard. -/
  | lost {names : List String} {after after' : Time} {h : Halt} (listed : Listed l s names after)
    (conforms : Catalog.Conforms names) (live : l.ended after = none)
    (comes : Comes l "get all records" (r.askedColumns s after) (.error h) after') :
    Goes r l user since includeDeleted s (.error h)
      { (r.askedColumns s after).sent (Query.select r.table names user since includeDeleted) with
        now := after' }
  /-- Both answers are heard. -/
  | read {names : List String} {after after' : Time} {answer : Answer}
    (listed : Listed l s names after) (conforms : Catalog.Conforms names)
    (live : l.ended after = none) (heard : Heard l (r.askedColumns s after) answer after') :
    Goes r l user since includeDeleted s ((r.decode (rowsOf answer)).mapError Halt.failed)
      { (r.askedColumns s after).sent (Query.select r.table names user since includeDeleted) with
        now := after' }

/-! ### The second question -/

section

variable {names : List String} {after : Time}

/-- Once the columns are known, a read is the fetching of its rows. -/
theorem run_of_listed (listed : Listed l s names after) (conforms : Catalog.Conforms names) :
    (r.call l user since includeDeleted).run s =
      match (fetch l "get all records" (Query.select r.table names user since includeDeleted)).run
          (r.askedColumns s after) with
      | (.error h, s') => (.error h, s')
      | (.ok rows, s') => ((r.decode rows).mapError Halt.failed, s') := by
  obtain ⟨answer, heard, reads⟩ := listed
  have known : Engine.namesOf r.table (rowsOf answer) = .ok names := by
    simp only [Engine.namesOf, reads, Catalog.check_eq_ok_iff.mpr conforms]
  rw [run_call, Engine.run_tableColumns, run_fetch, (obstacle_eq_none_iff ..).mpr heard.ready,
    (awaited_eq_ok_iff heard.ready).mpr heard]
  simp only [Except.map, known]
  rfl

/-- A context that has ended by then keeps the rows from being asked for. -/
theorem run_of_late {how : Ending} (listed : Listed l s names after)
    (conforms : Catalog.Conforms names) (ended : l.ended after = some how) :
    (r.call l user since includeDeleted).run s =
      (.error (.failed (how.error "get all records")), r.askedColumns s after) := by
  rw [run_of_listed listed conforms, run_fetch, obstacle_eq_some_iff.mpr (.inl ⟨how, ended, rfl⟩)]

/-- Once the rows are asked for, the read goes by what comes of it. -/
theorem run_of_comes {given : Except Halt Answer} {after' : Time} (listed : Listed l s names after)
    (conforms : Catalog.Conforms names) (live : l.ended after = none)
    (comes : Comes l "get all records" (r.askedColumns s after) given after') :
    (r.call l user since includeDeleted).run s =
      (given.bind fun answer => (r.decode (rowsOf answer)).mapError Halt.failed,
        { (r.askedColumns s after).sent (Query.select r.table names user since includeDeleted) with
          now := after' }) := by
  have ready : (r.askedColumns s after).Ready l := ⟨live, listed.ready.2⟩
  rw [run_of_listed listed conforms, run_fetch, (obstacle_eq_none_iff ..).mpr ready,
    comes.awaited_eq]
  cases given <;> rfl

theorem goes_of_listed (listed : Listed l s names after) (conforms : Catalog.Conforms names) :
    Goes r l user since includeDeleted s ((r.call l user since includeDeleted).run s).1
      ((r.call l user since includeDeleted).run s).2 := by
  cases hl : l.ended after with
  | some how =>
    rw [run_of_late listed conforms hl]
    exact .late listed conforms hl
  | none =>
    have ready : (r.askedColumns s after).Ready l := ⟨hl, listed.ready.2⟩
    have comes := comes_awaited l "get all records" (r.askedColumns s after)
    rw [run_of_comes listed conforms hl comes]
    rcases ha : awaited l "get all records" (r.askedColumns s after) with ⟨h | answer, after'⟩
    · rw [ha] at comes
      exact .lost listed conforms hl comes
    · exact .read listed conforms hl ((awaited_eq_ok_iff ready).mp ha)

end

/-- **One way to read.** Every read goes in one of these ways. -/
theorem goes (r : Reader β) (l : Limits) (user : UserId) (since : Option Instant)
    (includeDeleted : Bool) (s : Session) : Goes r l user since includeDeleted s
      ((r.call l user since includeDeleted).run s).1
      ((r.call l user since includeDeleted).run s).2 := by
  by_cases hl : ∃ names after, Listed l s names after ∧ Catalog.Conforms names
  · obtain ⟨names, after, listed, conforms⟩ := hl
    exact goes_of_listed listed conforms
  · rw [run_call, Engine.run_tableColumns]
    have fetches := fetches l "get table columns" (Query.columns r.table) s
    generalize (fetch l "get table columns" (Query.columns r.table)).run s = c at fetches
    obtain ⟨result, s'⟩ := c
    cases fetches with
    | held held => exact .held held
    | lost ready comes => exact .unheard ready comes
    | @heard answer after heard =>
      cases hn : Row.scalars Row.textScalar (rowsOf answer) with
      | error e =>
        have failing : Engine.namesOf r.table (rowsOf answer) =
            .error (StoreError.classify "get table columns" e) := by rw [Engine.namesOf, hn]
        simp only [failing]
        exact .unread heard hn
      | ok names =>
        have listed : Listed l s names after := ⟨answer, heard, hn⟩
        cases hc : Catalog.check names with
        | ok => exact absurd ⟨names, after, listed, Catalog.check_eq_ok_iff.mp hc⟩ hl
        | error fault =>
          have failing : Engine.namesOf r.table (rowsOf answer) =
              .error (.schemaMismatch r.table.name (fault.reason r.table)) := by
            simp only [Engine.namesOf, hn, hc]
          simp only [failing]
          exact .mismatch listed hc

/-! ### Listed or not -/

variable {result : Except Halt β} {s' : Session} {names : List String} {after : Time}

/-- When the reply lists names, the list and then the context decide how the read goes on. -/
theorem Goes.of_listed (goes : Goes r l user since includeDeleted s result s')
    (listed : Listed l s names after) :
    (∃ fault, Catalog.check names = .error fault ∧ s' = r.askedColumns s after ∧
      result = .error (.failed (.schemaMismatch r.table.name (fault.reason r.table)))) ∨
    (∃ how, Catalog.Conforms names ∧ l.ended after = some how ∧ s' = r.askedColumns s after ∧
      result = .error (.failed (how.error "get all records"))) ∨
    (Catalog.Conforms names ∧ l.ended after = none ∧ ∃ after',
      s' = { (r.askedColumns s after).sent (Query.select r.table names user since includeDeleted)
        with now := after' } ∧
      ((∃ h, Comes l "get all records" (r.askedColumns s after) (.error h) after' ∧
          result = .error h) ∨
        ∃ answer, Heard l (r.askedColumns s after) answer after' ∧
          result = (r.decode (rowsOf answer)).mapError Halt.failed)) := by
  obtain ⟨answer₀, heard₀, reads₀⟩ := id listed
  cases goes with
  | held held =>
    rw [(obstacle_eq_none_iff l _ s).mpr listed.ready] at held
    cases held
  | unheard ready comes => exact absurd heard₀ comes.unheard
  | unread heard unread =>
    obtain ⟨rfl, rfl⟩ := heard.unique heard₀
    rw [reads₀] at unread
    cases unread
  | mismatch listed' faulty =>
    obtain ⟨rfl, rfl⟩ := listed.unique listed'
    exact .inl ⟨_, faulty, rfl, rfl⟩
  | late listed' conforms ended =>
    obtain ⟨rfl, rfl⟩ := listed.unique listed'
    exact .inr (.inl ⟨_, conforms, ended, rfl, rfl⟩)
  | lost listed' conforms live comes =>
    obtain ⟨rfl, rfl⟩ := listed.unique listed'
    exact .inr (.inr ⟨conforms, live, _, rfl, .inl ⟨_, comes, rfl⟩⟩)
  | read listed' conforms live heard =>
    obtain ⟨rfl, rfl⟩ := listed.unique listed'
    exact .inr (.inr ⟨conforms, live, _, rfl, .inr ⟨_, heard, rfl⟩⟩)

/-- When no names are listed, something has kept the columns from being known. -/
theorem Goes.of_unlisted (goes : Goes r l user since includeDeleted s result s')
    (unlisted : ∀ names after, ¬Listed l s names after) :
    ∃ h : Halt, Unlisted l s h ∧ result = .error h ∧
      ((¬s.Ready l ∧ s' = s) ∨ s.Ready l ∧ ∃ after, s' = r.askedColumns s after) := by
  cases goes with
  | held held =>
    have unready : ¬s.Ready l := fun ready => by
      rw [(obstacle_eq_none_iff l _ s).mpr ready] at held
      cases held
    rcases obstacle_eq_some_iff.mp held with ⟨how, ended, rfl⟩ | ⟨live, c, lacking, rfl⟩
    · exact ⟨_, .ended ended, rfl, .inl ⟨unready, rfl⟩⟩
    · exact ⟨_, .unconnected live lacking, rfl, .inl ⟨unready, rfl⟩⟩
  | unheard ready comes => exact ⟨_, .unheard ready comes, rfl, .inr ⟨ready, _, rfl⟩⟩
  | unread heard unread => exact ⟨_, .unread heard unread, rfl, .inr ⟨heard.ready, _, rfl⟩⟩
  | mismatch listed => exact absurd listed (unlisted _ _)
  | late listed => exact absurd listed (unlisted _ _)
  | lost listed => exact absurd listed (unlisted _ _)
  | read listed => exact absurd listed (unlisted _ _)

/-- **One failure for each cause.** What keeps the columns from being known is what the read fails
with. -/
theorem run_of_unlisted {h : Halt} (unlisted : Unlisted l s h) :
    ((r.call l user since includeDeleted).run s).1 = .error h := by
  rw [run_call, Engine.run_tableColumns, run_fetch]
  cases unlisted with
  | ended ended => rw [obstacle_eq_some_iff.mpr (.inl ⟨_, ended, rfl⟩)]
  | unconnected live lacking => rw [obstacle_eq_some_iff.mpr (.inr ⟨live, _, lacking, rfl⟩)]
  | unheard ready comes =>
    rw [(obstacle_eq_none_iff ..).mpr ready, comes.awaited_eq]
    rfl
  | @unread answer after e heard unread =>
    have failing : Engine.namesOf r.table (rowsOf answer) =
        .error (StoreError.classify "get table columns" e) := by rw [Engine.namesOf, unread]
    rw [(obstacle_eq_none_iff ..).mpr heard.ready, (awaited_eq_ok_iff heard.ready).mpr heard]
    simp only [Except.map, failing]
    rfl

/-! ### What is asked -/

section

variable (r l user since includeDeleted s)

/-- What a read asks, with the replies that are left. -/
def Asks (events : List Event) : Prop :=
  (r.call l user since includeDeleted).asked s = events ∧
    ((r.call l user since includeDeleted).run s).2.replies = s.replies.drop events.length

end

theorem asks_of_unlisted (unlisted : ∀ names after, ¬Listed l s names after) :
    Asks r l user since includeDeleted s
      (if s.Ready l then [.query (Query.columns r.table)] else []) := by
  unfold Asks Call.asked
  obtain ⟨h, -, -, ⟨unready, kept⟩ | ⟨ready, after, sent⟩⟩ :=
    (goes r l user since includeDeleted s).of_unlisted unlisted
  · simp [unready, kept]
  · simp [ready, sent, askedColumns, Session.sent]

/-- A list with a fault, or an ended context, keeps the rows from being asked for. -/
theorem asks_of_stopped (listed : Listed l s names after)
    (stopped : ¬(Catalog.Conforms names ∧ l.ended after = none)) :
    Asks r l user since includeDeleted s [.query (Query.columns r.table)] := by
  have sent : ((r.call l user since includeDeleted).run s).2 = r.askedColumns s after := by
    rcases (goes r l user since includeDeleted s).of_listed listed with
      ⟨_, -, sent, -⟩ | ⟨_, -, -, sent, -⟩ | ⟨conforms, live, -⟩
    · exact sent
    · exact sent
    · exact absurd ⟨conforms, live⟩ stopped
  unfold Asks Call.asked
  simp [sent, askedColumns, Session.sent]

/-- Columns that conform, and a context that lasts, have the rows asked for. -/
theorem asks_of_live (listed : Listed l s names after) (conforms : Catalog.Conforms names)
    (live : l.ended after = none) : Asks r l user since includeDeleted s
      [.query (Query.columns r.table),
        .query (Query.select r.table names user since includeDeleted)] := by
  have comes := comes_awaited l "get all records" (r.askedColumns s after)
  have twice : s.replies.tail.tail = s.replies.drop 2 := by rw [← List.drop_one, List.drop_tail]
  unfold Asks Call.asked
  rw [run_of_comes listed conforms live comes]
  simp [askedColumns, Session.sent, twice]

/-- A read asks nothing, or for the columns, or for the columns and then for the rows. -/
theorem asks_cases (r : Reader β) (l : Limits) (user : UserId) (since : Option Instant)
    (includeDeleted : Bool) (s : Session) : Asks r l user since includeDeleted s [] ∨
    Asks r l user since includeDeleted s [.query (Query.columns r.table)] ∨
    ∃ names, Asks r l user since includeDeleted s [.query (Query.columns r.table),
      .query (Query.select r.table names user since includeDeleted)] := by
  by_cases h : ∃ names after, Listed l s names after
  · obtain ⟨names, after, listed⟩ := h
    by_cases goesOn : Catalog.Conforms names ∧ l.ended after = none
    · exact .inr (.inr ⟨names, asks_of_live listed goesOn.1 goesOn.2⟩)
    · exact .inr (.inl (asks_of_stopped listed goesOn))
  · have asks : Asks r l user since includeDeleted s
        (if s.Ready l then [.query (Query.columns r.table)] else []) :=
      asks_of_unlisted fun names after listed => h ⟨names, after, listed⟩
    split at asks
    · exact .inr (.inl asks)
    · exact .inl asks

/-- The rows are asked for by names exactly when the catalog listed these names, they conform, and
the context has not ended since. -/
theorem rows_asked_iff : .query (Query.select r.table names user since includeDeleted) ∈
      (r.call l user since includeDeleted).asked s ↔
    ∃ after, Listed l s names after ∧ Catalog.Conforms names ∧ l.ended after = none := by
  constructor
  · intro asked
    by_cases h : ∃ names after, Listed l s names after
    · obtain ⟨names', after, listed⟩ := h
      by_cases goesOn : Catalog.Conforms names' ∧ l.ended after = none
      · rw [(asks_of_live listed goesOn.1 goesOn.2).1] at asked
        have same : names = names' := by simpa [Query.select, Query.columns] using asked
        exact same ▸ ⟨after, listed, goesOn⟩
      · rw [(asks_of_stopped listed goesOn).1] at asked
        simp [Query.select, Query.columns] at asked
    · rw [(asks_of_unlisted fun names after listed => h ⟨names, after, listed⟩).1] at asked
      split at asked <;> simp [Query.select, Query.columns] at asked
  · rintro ⟨after, listed, conforms, live⟩
    rw [(asks_of_live listed conforms live).1]
    simp

/-! ### The protocol -/

/-- A list with a fault ends the read, and the failure names the table. -/
theorem Goes.of_fault (goes : Goes r l user since includeDeleted s result s')
    (listed : Listed l s names after) (faulty : ¬Catalog.Conforms names) :
    ∃ fault, Catalog.check names = .error fault ∧
      result = .error (.failed (.schemaMismatch r.table.name (fault.reason r.table))) := by
  rcases goes.of_listed listed with ⟨fault, found, -, failed⟩ | ⟨_, conforms, -⟩ | ⟨conforms, -⟩
  · exact ⟨fault, found, failed⟩
  · exact absurd conforms faulty
  · exact absurd conforms faulty

/-- Once the rows are asked for, what comes of the second step decides. -/
theorem Goes.of_live (goes : Goes r l user since includeDeleted s result s')
    (listed : Listed l s names after) (conforms : Catalog.Conforms names)
    (live : l.ended after = none) :
    (∃ h after', Comes l "get all records" (r.askedColumns s after) (.error h) after' ∧
        result = .error h) ∨
      ∃ answer after', Heard l (r.askedColumns s after) answer after' ∧
        result = (r.decode (rowsOf answer)).mapError Halt.failed := by
  rcases goes.of_listed listed with ⟨fault, found, -⟩ | ⟨how, -, ended, -⟩ |
    ⟨-, -, after', -, ⟨h, comes, failed⟩ | ⟨answer, heard, given⟩⟩
  · exact absurd conforms (Catalog.exists_fault_iff.mp ⟨fault, found⟩)
  · rw [live] at ended
    cases ended
  · exact .inl ⟨h, after', comes, failed⟩
  · exact .inr ⟨answer, after', heard, given⟩

/-- A read that gives something has asked twice, and heard twice. -/
theorem Goes.of_ok {x : β} (goes : Goes r l user since includeDeleted s (.ok x) s') :
    ∃ names after answer after', Listed l s names after ∧ Catalog.Conforms names ∧
      l.ended after = none ∧ Heard l (r.askedColumns s after) answer after' ∧
      r.decode (rowsOf answer) = .ok x := by
  generalize hx : Except.ok x = result at goes
  cases goes with
  | @read names after after' answer listed conforms live heard =>
    refine ⟨names, after, answer, after', listed, conforms, live, heard, ?_⟩
    cases hd : r.decode (rowsOf answer) with
    | error e => simp [hd, Except.mapError] at hx
    | ok y => simpa [hd, Except.mapError, eq_comm] using hx
  | held => cases hx
  | unheard => cases hx
  | unread => cases hx
  | mismatch => cases hx
  | late => cases hx
  | lost => cases hx

/-- A read is left waiting only by a reply that never comes, in a context that never ends. -/
theorem Goes.of_waiting (goes : Goes r l user since includeDeleted s (.error .waiting) s') :
    (∀ u, l.ended u = none) ∧ (s.nextReply.delay = none ∨
      (s.sent (Query.columns r.table)).nextReply.delay = none) := by
  generalize hx : Except.error Halt.waiting = result at goes
  cases goes with
  | unheard ready comes =>
    obtain rfl := Except.error.inj hx
    exact ⟨comes.silent.2, .inl comes.silent.1⟩
  | lost listed conforms live comes =>
    obtain rfl := Except.error.inj hx
    exact ⟨comes.silent.2, .inr comes.silent.1⟩
  | @read names after after' answer =>
    cases hd : r.decode (rowsOf answer) <;> simp [hd, Except.mapError] at hx
  | held => simp at hx
  | unread => simp at hx
  | mismatch => simp at hx
  | late => simp at hx

/-- **A read asks for the columns and then for the rows.** What it asks is a beginning of the two
questions, with one reply taken for each. The rows are asked for exactly when the catalog listed
names, these conform, and the context has not ended by then; and by exactly these names. If no
names are listed, something has kept the columns from being known, and is what the read fails with,
under the name of the first step; if they do not conform, the table is named with the fault; if the
context has ended, or an answer for the rows is not heard, this is what the read fails with, under
the name of the second step. A read that gives something has asked both and heard both answers. It
returns, unless the store never answers and nothing ends the call. -/
theorem asks_columns_then_rows (r : Reader β) (l : Limits) (user : UserId) (since : Option Instant)
    (includeDeleted : Bool) (s : Session) :
    let call := r.call l user since includeDeleted
    let columns : Event := .query ⟨.columns 1, [.text (Text.lower r.table.name)]⟩
    let rows (names : List String) : Event :=
      .query (Query.select r.table names user since includeDeleted)
    (∃ names, call.asked s <+: [columns, rows names]) ∧
    (call.run s).2.replies = s.replies.drop (call.asked s).length ∧
    (∀ names, rows names ∈ call.asked s ↔ ∃ after, Listed l s names after ∧
      Catalog.Conforms names ∧ l.ended after = none) ∧
    ((∀ names after, ¬Listed l s names after) → ∃ h : Halt, Unlisted l s h) ∧
    (∀ h : Halt, Unlisted l s h → (call.run s).1 = .error h ∧ h.Names "get table columns") ∧
    (∀ names after, Listed l s names after → ¬Catalog.Conforms names →
      ∃ fault, Catalog.check names = .error fault ∧ (call.run s).1 =
        .error (.failed (.schemaMismatch r.table.name (fault.reason r.table)))) ∧
    (∀ names after how, Listed l s names after → Catalog.Conforms names →
      l.ended after = some how →
      (call.run s).1 = .error (.failed (how.error "get all records"))) ∧
    (∀ names after, Listed l s names after → rows names ∈ call.asked s →
      (∃ h after', Comes l "get all records" (r.askedColumns s after) (.error h) after' ∧
          (call.run s).1 = .error h ∧ h.Names "get all records") ∨
        ∃ answer after', Heard l (r.askedColumns s after) answer after' ∧
          (call.run s).1 = (r.decode (rowsOf answer)).mapError Halt.failed) ∧
    (∀ x, (call.run s).1 = .ok x → ∃ names after answer after',
      call.asked s = [columns, rows names] ∧ Listed l s names after ∧
      Heard l (r.askedColumns s after) answer after' ∧ r.decode (rowsOf answer) = .ok x) ∧
    ((call.run s).1 = .error .waiting → (∀ u, l.ended u = none) ∧
      (s.nextReply.delay = none ∨ (s.sent (Query.columns r.table)).nextReply.delay = none)) := by
  intro call columns rows
  have goes := goes r l user since includeDeleted s
  have asks := asks_cases r l user since includeDeleted s
  refine ⟨?_, ?_, fun names => rows_asked_iff, ?_,
    fun h unlisted => ⟨run_of_unlisted unlisted, unlisted.named⟩,
    fun names after listed faulty => goes.of_fault listed faulty,
    fun names after how listed conforms ended =>
      congrArg Prod.fst (run_of_late listed conforms ended), ?_, ?_, ?_⟩
  · rcases asks with ⟨asked, -⟩ | ⟨asked, -⟩ | ⟨names, asked, -⟩
    · exact ⟨[], asked ▸ List.nil_prefix⟩
    · exact ⟨[], asked ▸ ⟨[rows []], rfl⟩⟩
    · exact ⟨names, asked ▸ List.prefix_refl _⟩
  · rcases asks with ⟨asked, left⟩ | ⟨asked, left⟩ | ⟨names, asked, left⟩
    · exact asked ▸ left
    · exact asked ▸ left
    · exact asked ▸ left
  · intro unlisted
    obtain ⟨h, cause, -⟩ := goes.of_unlisted unlisted
    exact ⟨h, cause⟩
  · intro names after listed asked
    obtain ⟨after', listed', conforms, live⟩ := rows_asked_iff.mp asked
    obtain ⟨-, rfl⟩ := listed.unique listed'
    rcases goes.of_live listed conforms live with ⟨h, after', comes, failed⟩ | heard
    · exact .inl ⟨h, after', comes, failed, comes.names⟩
    · exact .inr heard
  · intro x ok
    rw [ok] at goes
    obtain ⟨names, after, answer, after', listed, conforms, live, heard, decoded⟩ := goes.of_ok
    exact ⟨names, after, answer, after', (asks_of_live listed conforms live).1, listed, heard,
      decoded⟩
  · intro waiting
    rw [waiting] at goes
    exact goes.of_waiting

/-- A context that lasts, one that ends while the list of columns is read, a list that lacks a
column, and a connection that is lost. -/
theorem asks_columns_then_rows_of_texts :
    let user : UserId := ⟨7, by decide⟩
    let columns := ["id", "user_id", "data", "metadata", "updated_at", "deleted"]
    let catalog (names : List String) (pause : Nat) : Reply :=
      { answer := .rows [⟨"column_name", "TEXT"⟩] (names.map fun n => [some (Wire.textBytes n)])
        pause := pause }
    let s (replies : List Reply) : Session := { pool := { reachable := true }, replies := replies }
    let call (l : Limits) := (records .textData).call l user none false
    .query (Query.select .textData columns user none false) ∈
      (call {}).asked (s [catalog columns 5]) ∧
    ((call { deadline := some 3 }).run (s [catalog columns 5])).1 =
      .error (.failed (.deadlineExceeded "get all records")) ∧
    ((call {}).run (s [catalog ["id", "user_id", "updated_at"] 0])).1 =
      .error (.failed (.schemaMismatch "TextData" "missing columns: deleted")) ∧
    ((call {}).run (s [{ answer := .dropped }])).1 = .error (.failed
      (StoreError.classify "get table columns" connectionLost)) := by
  intro user columns catalog s call
  have listed (l : Limits) (live : l.ended 0 = none) :
      Listed l (s [catalog columns 5]) columns 5 :=
    ⟨_, ⟨⟨live, rfl⟩, ⟨0, rfl, live, rfl⟩, rfl, nofun, nofun⟩, rfl⟩
  have short : Listed {} (s [catalog ["id", "user_id", "updated_at"] 0])
      ["id", "user_id", "updated_at"] 0 :=
    ⟨_, ⟨⟨rfl, rfl⟩, ⟨0, rfl, rfl, rfl⟩, rfl, nofun, nofun⟩, rfl⟩
  have conforms : Catalog.Conforms columns := Catalog.check_eq_ok_iff.mp (by decide)
  have arrives : (s [{ answer := .dropped }]).nextReply.delay = some 0 := rfl
  have lost : Unlisted {} (s [{ answer := .dropped }])
      (.failed (StoreError.classify "get table columns" connectionLost)) :=
    .unheard ⟨rfl, rfl⟩ (.answer arrives rfl)
  obtain ⟨-, -, asked, -⟩ :=
    asks_columns_then_rows (.records .textData) {} user none false (s [catalog columns 5])
  obtain ⟨-, -, -, -, -, -, late, -⟩ := asks_columns_then_rows (.records .textData)
    { deadline := some 3 } user none false (s [catalog columns 5])
  obtain ⟨-, -, -, -, -, mismatch, -⟩ := asks_columns_then_rows (.records .textData) {} user none
    false (s [catalog ["id", "user_id", "updated_at"] 0])
  obtain ⟨-, -, -, -, first, -⟩ :=
    asks_columns_then_rows (.records .textData) {} user none false (s [{ answer := .dropped }])
  refine ⟨(asked columns).mpr ⟨5, listed {} rfl, conforms, rfl⟩,
    late columns 5 .expired (listed _ rfl) conforms rfl, ?_, (first _ lost).1⟩
  obtain ⟨fault, found, failed⟩ := mismatch _ 0 short fun h => by
    exact absurd (h.complete .deleted) (by decide)
  obtain rfl : .missing [.deleted] = fault := Except.error.inj found
  exact failed

end Reader
end RecordSync
