import RecordSync.Proofs.Operations
import RecordSync.Proofs.Sql.Reading

/-!
# Values and their columns

A query carries its values apart from its text, and a placeholder says which value stands where. The
placeholders of each text count from one without a gap, as many as there are values. Read back from
its text, a new row gives each column the value that is meant for it, a change assigns it, and both
a change and a mark of deletion select the row of the user and of the id that they are called with.

Key definitions: `Query.bound?`, `Sql.Expr.bound?`.
Key theorems: `Query.bound?_numbered`, `Query.insert_aligned`, `Query.update_aligned`,
`Query.select_aligned`, `statements_aligned`.
-/
namespace RecordSync

open Sql (Expr)

/-! ### Bound values -/

/-- The value that a placeholder stands for. -/
def Query.bound? (q : Query) : Nat → Option Bind
  | 0 => none
  | n + 1 => q.binds[n]?

/-- The value that an expression stands for if it is a placeholder. -/
def Sql.Expr.bound? (q : Query) : Expr → Option Bind
  | .placeholder n => q.bound? n
  | _ => none

namespace Query

/-- Numbers that go on after some values stand for the values that come next. -/
theorem bound?_numbered {α γ : Type} (statement : Statement) (before after : List Bind)
    (column : γ → α) (value : γ → Bind) (ys : List γ) :
    (numbered (before.length + 1) (ys.map column)).map (fun v =>
        (v.1, bound? ⟨statement, before ++ ys.map value ++ after⟩ v.2)) =
      ys.map fun y => (column y, some (value y)) := by
  induction ys generalizing before with
  | nil => rfl
  | cons y ys ih =>
    have first : bound? ⟨statement, before ++ (y :: ys).map value ++ after⟩ (before.length + 1) =
        some (value y) := by
      simp [bound?]
    have rest := ih (before ++ [value y])
    simp only [List.length_append, List.length_singleton] at rest
    have same : before ++ [value y] ++ ys.map value ++ after =
        before ++ (y :: ys).map value ++ after := by simp
    rw [same] at rest
    change (column y, _) :: _ = _
    rw [first, rest, List.map_cons]

variable {t : Table} {user : UserId} {id : String} {values : List (DataColumn × String)}

/-- What a new row is given: its owner, its id, and its fields. -/
def given (user : UserId) (id : String) (values : List (DataColumn × String)) :
    List (Column × Bind) :=
  (.convention .userId, .int user.value) :: (.convention .id, .text id) ::
    values.map fun v => (.data v.1, .text v.2)

theorem insert_eq (t : Table) (user : UserId) (id : String) (values : List (DataColumn × String)) :
    insert t user id values =
      ⟨.insert t (numbered 1 ((given user id values).map Prod.fst)),
        (given user id values).map Prod.snd⟩ := by
  simp [insert, given, Function.comp_def]

/-- The text of a new row lists columns and placeholders, and pairs each column with its value. -/
theorem insert_aligned (t : Table) (user : UserId) (id : String)
    (values : List (DataColumn × String)) :
    Sql.read? (insert t user id values).statement.text = some (.insert t.catalogName
      ((given user id values).map fun g => g.1.name)
      ((List.range' 1 (values.length + 2)).map .placeholder)) ∧
    Sql.placeholders (insert t user id values).statement.text =
      List.range' 1 (values.length + 2) := by
  have hne : numbered 1 ((given user id values).map Prod.fst) ≠ [] := by simp [given, numbered]
  have length : ((given user id values).map Prod.fst).length = values.length + 2 := by simp [given]
  rw [insert_eq]
  constructor
  · rw [Sql.read?_insert t hne, numbered_map_fst Column.name, numbered_map_snd Expr.placeholder,
      length, List.map_map]
    rfl
  · have numbers := numbered_map_snd (fun n => n) 1 ((given user id values).map Prod.fst)
    rw [length, List.map_id'] at numbers
    exact (Sql.placeholders_insert t hne).trans numbers

/-- What a change assigns to the columns of fields. -/
def assigned (values : List (DataColumn × String)) : List (String × Expr) :=
  (numbered 1 (values.map Prod.fst)).map fun v => (v.1.name, .placeholder v.2)

theorem assigned_names (values : List (DataColumn × String)) :
    (assigned values).map Prod.fst = values.map fun v => v.1.name := by
  have columns := numbered_map_fst DataColumn.name 1 (values.map Prod.fst)
  simpa [assigned, Function.comp_def] using columns

/-- The placeholder that a column is assigned stands for the value of its field. -/
theorem assigned_bound (t : Table) (user : UserId) (id : String)
    (values : List (DataColumn × String)) :
    (assigned values).map (fun a => (a.1, a.2.bound? (update t user id values))) =
      values.map fun v => (v.1.name, some (.text v.2)) := by
  have bound := bound?_numbered (update t user id values).statement [] [.int user.value, .text id]
    Prod.fst (fun v : DataColumn × String => .text v.2) values
  have := congrArg (List.map fun p : DataColumn × Option Bind => (p.1.name, p.2)) bound
  simpa [assigned, Expr.bound?, update, Function.comp_def] using this

theorem update_bound_owner (t : Table) (user : UserId) (id : String)
    (values : List (DataColumn × String)) :
    (update t user id values).bound? (values.length + 1) = some (.int user.value) := by
  simp [bound?, update]

theorem update_bound_id (t : Table) (user : UserId) (id : String)
    (values : List (DataColumn × String)) :
    (update t user id values).bound? (values.length + 2) = some (.text id) := by
  simp [bound?, update]

/-- The text of a change assigns each column, and selects by the last two placeholders. -/
theorem update_aligned (t : Table) (user : UserId) (id : String)
    (values : List (DataColumn × String)) :
    Sql.read? (update t user id values).statement.text = some (.update t.catalogName
      (assigned values ++ [("updated_at", Sql.stamped)])
      (Sql.ownRow (values.length + 1) (values.length + 2))) ∧
    Sql.placeholders (update t user id values).statement.text =
      List.range' 1 (values.length + 2) := by
  have numbers := numbered_map_snd (fun n => n) 1 (values.map Prod.fst)
  rw [List.length_map, List.map_id'] at numbers
  constructor
  · exact Sql.read?_update t _ _ _
  · refine (Sql.placeholders_update t _ _ _).trans ?_
    rw [← List.range'_append_1, ← numbers]
    simp [List.range'_succ]
    omega

/-- The text of a mark of deletion selects by its two placeholders. -/
theorem delete_aligned (t : Table) (user : UserId) (id : String) :
    Sql.read? (delete t user id).statement.text = some (.update t.catalogName
      [("deleted", .bool true), ("updated_at", Sql.stamped)] (Sql.ownRow 1 2)) ∧
    Sql.placeholders (delete t user id).statement.text = [1, 2] :=
  ⟨Sql.read?_delete t 1 2, Sql.placeholders_delete t 1 2⟩

/-- The text of a read lists the given columns, and selects by the placeholders of its values. -/
theorem select_aligned (t : Table) {names : List String} (hne : names ≠ []) (user : UserId)
    (since : Option Instant) (includeDeleted : Bool) :
    Sql.read? (select t names user since includeDeleted).statement.text =
      some (.select names t.catalogName
        (Sql.readConditions 1 includeDeleted (since.map fun _ => 2)) ["updated_at", "id"]) ∧
    Sql.placeholders (select t names user since includeDeleted).statement.text =
      List.range' 1 (1 + (since.map fun _ => 2).toList.length) := by
  refine ⟨Sql.read?_select t hne 1 includeDeleted _, ?_⟩
  refine (Sql.placeholders_select t hne 1 includeDeleted _).trans ?_
  cases since <;> rfl

/-! ### Distinct columns -/

theorem nodup_given (user : UserId) (id : String) (h : (values.map Prod.fst).Nodup) :
    ((given user id values).map fun g => g.1.name).Nodup := by
  have := Column.nodup_names (Column.nodup_append_data
    (by decide : [ConventionColumn.userId, .id].Nodup) h)
  simpa [given, Function.comp_def] using this

theorem nodup_assigned (h : (values.map Prod.fst).Nodup) :
    ((assigned values ++ [("updated_at", Sql.stamped)]).map Prod.fst).Nodup := by
  have apart := Column.nodup_names (Column.nodup_append_data
    (by decide : [ConventionColumn.updatedAt].Nodup) h)
  have swap : ((assigned values ++ [("updated_at", Sql.stamped)]).map Prod.fst).Perm
      ("updated_at" :: values.map fun v => v.1.name) := by
    rw [List.map_append, assigned_names]
    exact List.perm_append_singleton _ _
  rw [swap.nodup_iff]
  simpa [Column.name, ConventionColumn.name, Function.comp_def] using apart

end Query

/-! ### Alignment -/

/-- A write whose query is known asks for it as soon as the store can be reached. -/
theorem Write.asked_of_query {t : Table} {user : UserId} {w : Write} {q : Query}
    (h : w.query t user = .ok (some q)) (l : Limits) (s : Session) :
    (w.call l t user).asked s = if s.Ready l then [.query q] else [] := by
  rw [asked_call, h]

/-- Accepted fields are as many as the columns that they are accepted for, and stand in one order
with them. -/
theorem Table.entries_of_resolve {t : Table} {fields : Fields}
    {values : List (DataColumn × String)} (h : t.resolve fields = .ok values) :
    fields.entries.length = values.length ∧
      ∀ {α : Type} (f : String × String → α),
        fields.entries.map f = values.map fun v => f (v.1.name, v.2) := by
  have entries := (Table.resolve_eq_ok_iff.mp h).1
  refine ⟨?_, fun f => ?_⟩
  · rw [← entries, List.length_map]
  · rw [← entries, List.map_map]
    rfl

/-- **Values line up with columns.** For accepted arguments, the text of each statement is read back
as the command that is meant, its placeholders count from one up to the number of values, and the
value of each placeholder is the one of the column that it stands with. A read lists the columns
that the catalog gave, in their order. -/
theorem statements_aligned (t : Table) (user : UserId) (id : String) (hu : user.value ≠ 0)
    (hi : id ≠ "") :
    (∀ (fields : Fields) (values : List (DataColumn × String)), t.resolve fields = .ok values →
      let n := fields.entries.length
      ∃ (q : Query) (columns : List String),
        (∀ (l : Limits) (s : Session),
          (Engine.add l t user id fields).asked s = if s.Ready l then [.query q] else []) ∧
        Sql.read? q.statement.text =
          some (.insert t.catalogName columns ((List.range' 1 (n + 2)).map .placeholder)) ∧
        Sql.placeholders q.statement.text = List.range' 1 (n + 2) ∧
        columns.Nodup ∧ columns.length = n + 2 ∧ q.binds.length = n + 2 ∧
        columns.zip q.binds = ("user_id", .int user.value) :: ("id", .text id) ::
          fields.entries.map fun e => (e.1, .text e.2)) ∧
    (∀ (fields : Fields) (values : List (DataColumn × String)), t.resolve fields = .ok values →
      fields.entries ≠ [] →
      let n := fields.entries.length
      ∃ (q : Query) (assigned : List (String × Expr)),
        (∀ (l : Limits) (s : Session),
          (Engine.update l t user id fields).asked s = if s.Ready l then [.query q] else []) ∧
        Sql.read? q.statement.text = some (.update t.catalogName
          (assigned ++ [("updated_at", Sql.stamped)]) (Sql.ownRow (n + 1) (n + 2))) ∧
        Sql.placeholders q.statement.text = List.range' 1 (n + 2) ∧
        ((assigned ++ [("updated_at", Sql.stamped)]).map Prod.fst).Nodup ∧
        assigned.map (fun a => (a.1, a.2.bound? q)) =
          fields.entries.map (fun e => (e.1, some (.text e.2))) ∧
        q.bound? (n + 1) = some (.int user.value) ∧ q.bound? (n + 2) = some (.text id) ∧
        q.binds.length = n + 2) ∧
    (∃ q : Query,
      (∀ (l : Limits) (s : Session),
        (Engine.delete l t user id).asked s = if s.Ready l then [.query q] else []) ∧
      Sql.read? q.statement.text = some (.update t.catalogName
        [("deleted", .bool true), ("updated_at", Sql.stamped)] (Sql.ownRow 1 2)) ∧
      Sql.placeholders q.statement.text = [1, 2] ∧ q.binds = [.int user.value, .text id]) ∧
    (∀ names : List String, Catalog.check names = .ok () →
      ∀ (since : Option Instant) (includeDeleted : Bool), ∃ q : Query,
        (∀ (l : Limits) (s s' : Session), (Engine.tableColumns l t).run s = (.ok names, s') →
          (Engine.readAll l t user since includeDeleted).asked s =
            .query (Query.columns t) :: if s'.Ready l then [.query q] else []) ∧
        Sql.read? q.statement.text = some (.select names t.catalogName
          (.equal (.name "user_id") (.placeholder 1) ::
            ((if includeDeleted then [] else [.equal (.name "deleted") (.bool false)]) ++
              if since.isSome then [.greater (.name "updated_at") (.placeholder 2)] else []))
          ["updated_at", "id"]) ∧
        Sql.placeholders q.statement.text = List.range' 1 q.binds.length ∧
        q.bound? 1 = some (.int user.value) ∧
        ∀ time, since = some time → q.bound? 2 = some (.time time.storedMicros)) := by
  refine ⟨?_, ?_, ?_, ?_⟩
  · intro fields values hr
    obtain ⟨length, entries⟩ := Table.entries_of_resolve hr
    have sent : (Write.add id fields).query t user =
        .ok (some (Query.insert t user id values)) :=
      Write.query_eq_some_iff.mpr ⟨hu, hi, values, hr, rfl⟩
    obtain ⟨text, numbers⟩ := Query.insert_aligned t user id values
    rw [length]
    refine ⟨_, _, Write.asked_of_query sent, text, numbers,
      Query.nodup_given user id (Table.nodup_of_resolve hr), ?_, ?_, ?_⟩
    · simp [Query.given]
    · simp [Query.insert]
    · rw [Query.insert_eq, List.zip_map', entries]
      simp [Query.given, Column.name, ConventionColumn.name]
  · intro fields values hr hne
    obtain ⟨length, entries⟩ := Table.entries_of_resolve hr
    have some_value : values ≠ [] := by
      rw [← List.length_pos_iff, ← length]
      exact List.length_pos_iff.mpr hne
    have sent : (Write.update id fields).query t user =
        .ok (some (Query.update t user id values)) :=
      Write.query_eq_some_iff.mpr ⟨hu, hi, values, hr, some_value, rfl⟩
    obtain ⟨text, numbers⟩ := Query.update_aligned t user id values
    rw [length, entries]
    refine ⟨_, _, Write.asked_of_query sent, text, numbers,
      Query.nodup_assigned (Table.nodup_of_resolve hr), Query.assigned_bound t user id values,
      Query.update_bound_owner t user id values, Query.update_bound_id t user id values, ?_⟩
    simp [Query.update]
  · have sent : (Write.delete id).query t user = .ok (some (Query.delete t user id)) :=
      Write.query_eq_some_iff.mpr ⟨hu, hi, [], rfl, rfl⟩
    obtain ⟨text, numbers⟩ := Query.delete_aligned t user id
    exact ⟨_, Write.asked_of_query sent, text, numbers, rfl⟩
  · intro names hc since includeDeleted
    have hne : names ≠ [] := by
      rintro rfl
      cases hc
    obtain ⟨text, numbers⟩ := Query.select_aligned t hne user since includeDeleted
    refine ⟨Query.select t names user since includeDeleted, fun l s s' hn => ?_, ?_, ?_, rfl, ?_⟩
    · rw [Engine.asked_readAll, hn]
    · rw [text]
      cases since <;> rfl
    · rw [numbers]
      cases since <;> rfl
    · rintro time rfl
      rfl

/-- A card with two fields of user 7, added, changed, deleted and read. -/
theorem statements_aligned_card :
    let user : UserId := ⟨7, by decide⟩
    let fields := Fields.ofList [("number", "4111"), ("cvv", "$1")]
    let s : Session := { pool := { reachable := true } }
    (∃ (q : Query) (columns : List String),
      (Engine.add {} .cardData user "c-1" fields).asked s = [.query q] ∧
      columns.zip q.binds = [("user_id", .int 7), ("id", .text "c-1"), ("cvv", .text "$1"),
        ("number", .text "4111")] ∧
      Sql.placeholders q.statement.text = [1, 2, 3, 4]) ∧
    (∃ (q : Query) (assigned : List (String × Expr)),
      (Engine.update {} .cardData user "c-1" fields).asked s = [.query q] ∧
      assigned.map (fun a => (a.1, a.2.bound? q)) =
        [("cvv", some (.text "$1")), ("number", some (.text "4111"))] ∧
      q.bound? 3 = some (.int 7) ∧ q.bound? 4 = some (.text "c-1")) ∧
    (∃ q : Query, (Engine.delete {} .cardData user "c-1").asked s = [.query q] ∧
      q.binds = [.int 7, .text "c-1"]) ∧
    ∃ q : Query, Sql.placeholders q.statement.text = List.range' 1 q.binds.length ∧
      q.bound? 1 = some (.int 7) := by
  intro user fields s
  have accepted : Table.resolve .cardData fields = .ok [(.cvv, "$1"), (.number, "4111")] := rfl
  obtain ⟨adds, updates, deletes, reads⟩ :=
    statements_aligned .cardData ⟨7, by decide⟩ "c-1" (by decide) (by decide)
  refine ⟨?_, ?_, ?_, ?_⟩
  · obtain ⟨q, columns, asked, -, numbers, -, -, -, pairs⟩ := adds fields _ accepted
    exact ⟨q, columns, asked {} s, pairs, numbers⟩
  · have carried : fields.entries ≠ [] := List.cons_ne_nil ("cvv", "$1") [("number", "4111")]
    obtain ⟨q, assigned, asked, -, -, -, bound, owner, record, -⟩ :=
      updates fields _ accepted carried
    exact ⟨q, assigned, asked {} s, bound, owner, record⟩
  · obtain ⟨q, asked, -, -, binds⟩ := deletes
    exact ⟨q, asked {} s, binds⟩
  · obtain ⟨q, -, -, numbers, owner, -⟩ :=
      reads (ConventionColumn.all.map ConventionColumn.name) rfl none false
    exact ⟨q, numbers, owner⟩

end RecordSync
