import RecordSync.Proofs.Storage.Execution

/-!
# What writes do to the rows

A write makes a row of what stands under its id, or makes none: `Write.made?` says which, with no
word of statements. The query of a write, carried out, puts this row under its id and does nothing
else, and counts one row; when the write makes no row, it is refused or counts none.

Key definitions: `StoredRow.changed`, `StoredRow.marked`, `Write.made?`.
Key theorems: `Store.execute?_insert`, `Store.execute?_update`, `Store.execute?_delete`,
`Store.execute?_query`.
-/
namespace RecordSync

open Sql (Expr Scope)

/-- A user's new row with the texts of fields. -/
def StoredRow.ofFields (user : UserId) (id : String) (fields : Fields) (now : Int) : StoredRow :=
  ⟨id, user, fun c => fields.get? c.name, now, false⟩

/-- The row with the texts of fields in their columns, written later than before. -/
def StoredRow.changed (r : StoredRow) (fields : Fields) (now : Int) : StoredRow :=
  { r with
    values := fun c => (fields.get? c.name).or (r.values c)
    updatedAt := max now (r.updatedAt + 1) }

/-- The row marked as deleted, written later than before. -/
def StoredRow.marked (r : StoredRow) (now : Int) : StoredRow :=
  { r with updatedAt := max now (r.updatedAt + 1), deleted := true }

namespace StoredRow

variable (r : StoredRow) (user : UserId) (id : String) (fields : Fields) (now : Int)

@[simp] theorem owner_ofFields : (ofFields user id fields now).owner = user := rfl
@[simp] theorem owner_changed : (r.changed fields now).owner = r.owner := rfl
@[simp] theorem owner_marked : (r.marked now).owner = r.owner := rfl

end StoredRow

/-- The row that a user's write makes at a time of what stands under its id. -/
def Write.made? (user : UserId) (now : Int) : Write → Option StoredRow → Option StoredRow
  | .add id fields, none => some (.ofFields user id fields now)
  | .update _ fields, some r =>
    if r.owner = user ∧ fields.entries ≠ [] then some (r.changed fields now) else none
  | .delete _, some r => if r.owner = user then some (r.marked now) else none
  | _, _ => none

/-- Whether a write adds a row. -/
def Write.isAdd : Write → Bool
  | .add _ _ => true
  | _ => false

/-! ### Values by column -/

/-- The text that accepted fields have for a column stands under its name. -/
theorem Table.lookup_of_resolve {t : Table} {fields : Fields}
    {values : List (DataColumn × String)} (h : t.resolve fields = .ok values) (c : DataColumn) :
    values.lookup c = fields.get? c.name := by
  rw [Fields.get?, ← (Table.resolve_eq_ok_iff.mp h).1]
  clear h
  induction values with
  | nil => rfl
  | cons v vs ih =>
    rw [List.lookup_cons, List.map_cons, List.find?_cons]
    by_cases hc : c = v.1
    · simp [hc]
    · have hn : (v.1.name == c.name) = false :=
        beq_false_of_ne fun he => hc (DataColumn.name_injective he).symm
      simp only [beq_false_of_ne hc, hn, ih]

namespace Write

variable {t : Table} {user : UserId} {w : Write}

/-- Only a change without fields asks nothing, and it makes no row. -/
theorem unmade_of_silent (h : w.query t user = .ok none) (now : Int) (old : Option StoredRow) :
    w.isAdd = false ∧ w.made? user now old = none := by
  obtain ⟨-, -, id, fields, rfl, none_carried⟩ := query_eq_none_iff.mp h
  cases old <;> simp [isAdd, made?, none_carried]

/-- The row that a write makes is the user's, has the id of the write, and is written later than
what stood there, which was the user's as well. -/
theorem made?_spec {now : Int} {old : Option StoredRow} {row : StoredRow}
    (hid : ∀ r, old = some r → r.id = w.id) (h : w.made? user now old = some row) :
    row.id = w.id ∧ row.owner = user ∧ (w.isAdd = true ↔ old = none) ∧
      ∀ r, old = some r → r.owner = user ∧ row.updatedAt = max now (r.updatedAt + 1) ∧
        (r.deleted = true → row.deleted = true) := by
  cases w with
  | add id fields =>
    cases old with
    | some r => simp [made?] at h
    | none =>
      obtain rfl : StoredRow.ofFields user id fields now = row := by simpa [made?] using h
      refine ⟨rfl, rfl, iff_of_true rfl rfl, fun r hr => ?_⟩
      cases hr
  | update id fields =>
    cases old with
    | none => simp [made?] at h
    | some r =>
      by_cases hc : r.owner = user ∧ fields.entries ≠ []
      · obtain rfl : r.changed fields now = row := by simpa [made?, hc] using h
        refine ⟨hid r rfl, hc.1, by simp [isAdd], fun r' hr => ?_⟩
        obtain rfl := Option.some.inj hr
        exact ⟨hc.1, rfl, fun hd => hd⟩
      · rw [made?, if_neg hc] at h
        cases h
  | delete id =>
    cases old with
    | none => simp [made?] at h
    | some r =>
      by_cases hc : r.owner = user
      · obtain rfl : r.marked now = row := by simpa [made?, hc] using h
        refine ⟨hid r rfl, hc, by simp [isAdd], fun r' hr => ?_⟩
        obtain rfl := Option.some.inj hr
        exact ⟨hc, rfl, fun _ => rfl⟩
      · rw [made?, if_neg hc] at h
        cases h

end Write

namespace Query

theorem numbered_map {α β : Type} (f : α → β) (first : Nat) (xs : List α) :
    numbered first (xs.map f) = (numbered first xs).map fun v => (f v.1, v.2) := by
  induction xs generalizing first with
  | nil => rfl
  | cons x xs ih => rw [List.map_cons, numbered, numbered, List.map_cons, ih]

/-- What the columns of a new row are paired with. -/
theorem zip_given (user : UserId) (id : String) (values : List (DataColumn × String)) :
    ((given user id values).map fun g => g.1.name).zip
        ((List.range' 1 (values.length + 2)).map Expr.placeholder) =
      (numbered 1 ((given user id values).map Prod.fst)).map fun v =>
        (v.1.name, .placeholder v.2) := by
  have length : ((given user id values).map Prod.fst).length = values.length + 2 := by simp [given]
  have names := numbered_map_fst Column.name 1 ((given user id values).map Prod.fst)
  have numbers := numbered_map_snd Expr.placeholder 1 ((given user id values).map Prod.fst)
  rw [List.map_map] at names
  rw [length] at numbers
  rw [← numbers, ← List.zip_map', names]
  rfl

end Query

/-! ### New rows -/

namespace Sql

variable {t : Table} {user : UserId} {id : String} {values : List (DataColumn × String)}

/-- The values that a new row is given. -/
theorem evaluated?_insert (r : Option StoredRow) (now : Int)
    (known : ∀ v ∈ values, v.1 ∈ t.dataColumns) :
    evaluated? ⟨t, Query.insert t user id values, now⟩ r
        ((Query.numbered 1 ((Query.given user id values).map Prod.fst)).map fun v =>
          (v.1.name, .placeholder v.2)) =
      some ((Query.given user id values).map fun g => (g.1, g.2.datum)) := by
  refine evaluated?_placeholders r (fun v hv => ?_) ?_
  · have hm := Query.fst_mem_of_mem_numbered hv
    obtain ⟨g, hg, hgv⟩ := List.mem_map.mp hm
    rw [← hgv]
    simp only [Query.given, List.mem_cons, List.mem_map] at hg
    rcases hg with rfl | rfl | ⟨x, hx, rfl⟩
    · exact t.convention_mem_columns _
    · exact t.convention_mem_columns _
    · exact Table.data_mem_columns.mpr (known x hx)
  · have bound := Query.bound?_numbered (Query.insert t user id values).statement [] []
      Prod.fst Prod.snd (Query.given user id values)
    have datums := congrArg
      (List.map fun p : Column × Option Bind => (p.1, p.2.map Bind.datum)) bound
    rw [List.nil_append, List.append_nil] at datums
    rw [Query.insert_eq]
    simpa [Function.comp_def, Query.insert_eq] using datums

end Sql

theorem StoredRow.new?_given (now : Int) (user : UserId) (id : String)
    {values : List (DataColumn × String)} (nodup : (values.map Prod.fst).Nodup) :
    StoredRow.new? now ((Query.given user id values).map fun g => (g.1, g.2.datum)) =
      some ⟨id, user, fun c => values.lookup c, now, false⟩ := by
  have given : (Query.given user id values).map (fun g => (g.1, g.2.datum)) =
      (.convention .userId, .int user.value) :: (.convention .id, .text id) ::
        values.map fun v => (.data v.1, .text v.2) := by
    simp [Query.given, Bind.datum]
  have hid : ((Column.convention .id == .convention .userId) : Bool) = false := by decide
  have texts := setAll?_texts ⟨id, user, fun _ => none, now, false⟩ nodup
  simp only [Option.or_none] at texts
  rw [given, new?]
  simp only [List.lookup_cons, hid, BEq.rfl, UserId.ofInt?_value, Option.bind_some, setAll?, set?,
    Option.map_some, texts]

namespace Store

variable {t : Table} {user : UserId} {id : String} {fields : Fields}
  {values : List (DataColumn × String)}

/-- A new row is added if its id is free and its owner is a user. -/
theorem execute?_insert (db : Store) (now : Int) (h : t.resolve fields = .ok values) :
    db.execute? now (Query.insert t user id values) =
      if hu : user ∈ db.users ∧ db.row? t id = none then
        some (1, db.put t (.ofFields user id fields now) hu.1)
      else none := by
  have nodup := Table.nodup_of_resolve h
  have known := (Table.resolve_eq_ok_iff.mp h).2
  have lengths : ((Query.given user id values).map fun g => g.1.name).length =
      ((List.range' 1 (values.length + 2)).map Expr.placeholder).length := by simp [Query.given]
  have distinct : (((Query.given user id values).map fun g => (g.1, g.2.datum)).map
      Prod.fst).Nodup := by
    have := Column.nodup_append_data (by decide : [ConventionColumn.userId, .id].Nodup) nodup
    simpa [Query.given, Function.comp_def] using this
  have texts : (fun c => values.lookup c) = fun c : DataColumn => fields.get? c.name :=
    funext fun c => Table.lookup_of_resolve h c
  rw [execute?, (Query.insert_aligned t user id values).1]
  simp only [Table.ofCatalogName?_catalogName, Option.bind_some]
  unfold insert?
  simp only [lengths, ↓reduceIte, Query.zip_given]
  rw [Sql.evaluated?_insert none now known]
  simp only [Option.bind_eq_bind, Option.bind_some]
  rw [StoredRow.new?_given now user id nodup, Option.bind_some, texts]
  by_cases hu : user ∈ db.users ∧ db.row? t id = none
  · rw [dif_pos ⟨hu.1, distinct, hu.2⟩, dif_pos hu]
    rfl
  · rw [dif_neg fun hc => hu ⟨hc.1, hc.2.2⟩, dif_neg hu]
    rfl

end Store

/-! ### Changes -/

namespace Sql

variable {σ : Scope} {user : UserId} {id : String}

/-- Two placeholders select the row of an id, if it is the user's. -/
theorem selects?_ownRow {a b : Nat} (ha : σ.query.bound? a = some (.int user.value))
    (hb : σ.query.bound? b = some (.text id)) (r : StoredRow) :
    selects? σ r (ownRow a b) = some (decide (r.owner = user ∧ r.id = id)) := by
  have owner : σ.table.column? "user_id" = some (.convention .userId) :=
    Table.column?_convention σ.table .userId
  have key : σ.table.column? "id" = some (.convention .id) := Table.column?_convention σ.table .id
  have same : r.owner.value = user.value ↔ r.owner = user :=
    ⟨UserId.eq_of_value, congrArg UserId.value⟩
  simp [selects?, ownRow, Condition.holds?, Expr.value?, owner, key, ha, hb, StoredRow.get,
    Bind.datum, Datum.equal?, same]

/-- The time of writing moves on from the time before. -/
theorem evaluated?_stamp (σ : Scope) (r : StoredRow) :
    evaluated? σ (some r) [("updated_at", stamped)] =
      some [(.convention .updatedAt, .time (max σ.now (r.updatedAt + 1)))] := by
  have column : σ.table.column? "updated_at" = some (.convention .updatedAt) :=
    Table.column?_convention σ.table .updatedAt
  simp [evaluated?, stamped, Expr.value?, column, StoredRow.get, Datum.later?, Datum.greatest?]

theorem evaluated?_mark (σ : Scope) (r : StoredRow) :
    evaluated? σ (some r) [("deleted", .bool true)] =
      some [(.convention .deleted, .bool true)] := by
  have column : σ.table.column? "deleted" = some (.convention .deleted) :=
    Table.column?_convention σ.table .deleted
  simp [evaluated?, Expr.value?, column]

/-- The values that a change assigns to the columns of fields. -/
theorem evaluated?_assigned {t : Table} {values : List (DataColumn × String)} (now : Int)
    (r : Option StoredRow) (known : ∀ v ∈ values, v.1 ∈ t.dataColumns) :
    evaluated? ⟨t, Query.update t user id values, now⟩ r (Query.assigned values) =
      some (values.map fun v => (.data v.1, .text v.2)) := by
  have columns : Query.assigned values =
      (Query.numbered 1 (values.map fun v => Column.data v.1)).map fun v =>
        (v.1.name, .placeholder v.2) := by
    have split : values.map (fun v => Column.data v.1) = (values.map Prod.fst).map .data := by simp
    rw [split, Query.numbered_map, List.map_map]
    rfl
  rw [columns]
  refine evaluated?_placeholders r (fun v hv => ?_) ?_
  · obtain ⟨x, hx, hxv⟩ := List.mem_map.mp (Query.fst_mem_of_mem_numbered hv)
    rw [← hxv]
    exact Table.data_mem_columns.mpr (known x hx)
  · have bound := Query.bound?_numbered (Query.update t user id values).statement []
      [.int user.value, .text id] (fun v : DataColumn × String => Column.data v.1)
      (fun v => .text v.2) values
    have datums := congrArg
      (List.map fun p : Column × Option Bind => (p.1, p.2.map Bind.datum)) bound
    simpa [Function.comp_def, Query.update, Bind.datum] using datums

end Sql

namespace Store

variable {t : Table} {user : UserId} {id : String} {fields : Fields}
  {values : List (DataColumn × String)}

/-- A change of rows that have a meaning for all of them leaves them in their order. -/
theorem mapM_updated? {σ : Scope} {as : List (String × Expr)} {cs : List Sql.Condition}
    {p : StoredRow → Bool} {f : StoredRow → StoredRow} (rs : List StoredRow)
    (selected : ∀ r, Sql.selects? σ r cs = some (p r))
    (changed : ∀ r, (Sql.evaluated? σ (some r) as).bind r.setAll? = some (f r)) :
    rs.mapM (Sql.updated? σ as cs) =
      some (rs.map fun r => if p r then (true, f r) else (false, r)) := by
  have one (r : StoredRow) :
      Sql.updated? σ as cs r = some (if p r then (true, f r) else (false, r)) := by
    unfold Sql.updated?
    have hc := changed r
    cases he : Sql.evaluated? σ (some r) as with
    | none => simp [he] at hc
    | some ds =>
      have hs : r.setAll? ds = some (f r) := by simpa [he] using hc
      cases hp : p r <;> simp [selected, hp, hs]
  induction rs with
  | nil => rfl
  | cons r rs ih => simp [List.mapM_cons, one, ih]

/-- A change that has a meaning for all rows, and leaves ids and owners alone, changes those that it
selects. -/
theorem update?_eq (db : Store) {σ : Scope} {as : List (String × Expr)} {cs : List Sql.Condition}
    {p : StoredRow → Bool} {f : StoredRow → StoredRow} (distinct : (as.map Prod.fst).Nodup)
    (selected : ∀ r, Sql.selects? σ r cs = some (p r))
    (changed : ∀ r, (Sql.evaluated? σ (some r) as).bind r.setAll? = some (f r))
    (keeps : ∀ r, (f r).id = r.id ∧ (f r).owner = r.owner) :
    ∃ rows : Rows, ∃ owned,
      rows.list = (db.rows σ.table).list.map (fun r => if p r then f r else r) ∧
      db.update? σ as cs =
        some ((db.rows σ.table).list.countP p, db.withRows σ.table rows owned) := by
  let rs := (db.rows σ.table).list
  let changes := rs.map fun r => if p r then (true, f r) else (false, r)
  have mapped : rs.mapM (Sql.updated? σ as cs) = some changes := mapM_updated? rs selected changed
  have rows : changes.map Prod.snd = rs.map fun r => if p r then f r else r := by
    rw [List.map_map]
    refine List.map_congr_left fun r _ => ?_
    by_cases h : p r <;> simp [h]
  have flags : changes.countP Prod.fst = rs.countP p := by
    rw [List.countP_map]
    refine List.countP_congr fun r _ => ?_
    by_cases h : p r <;> simp [h]
  have ids : (changes.map Prod.snd).map StoredRow.id = rs.map StoredRow.id := by
    rw [rows, List.map_map]
    refine List.map_congr_left fun r _ => ?_
    by_cases h : p r <;> simp [h, keeps]
  have owners : ∀ r ∈ changes.map Prod.snd, r.owner ∈ db.users := by
    rw [rows]
    intro r hr
    obtain ⟨x, hx, rfl⟩ := List.mem_map.mp hr
    have hm := db.owned σ.table x hx
    by_cases h : p x <;> simp [h, keeps, hm]
  have nodup : ((changes.map Prod.snd).map StoredRow.id).Nodup := ids ▸ (db.rows σ.table).nodup
  refine ⟨⟨changes.map Prod.snd, nodup⟩, owners, rows, ?_⟩
  unfold update?
  simp only [Option.bind_eq_bind]
  rw [mapped, Option.bind_some, dif_pos ⟨distinct, nodup, owners⟩, flags]

/-- Rows of which those of a table are listed as in another store, and the rest are the same. -/
theorem withRows_eq {db db' : Store} {t : Table} {rows : Rows}
    {owned : ∀ r ∈ rows.list, r.owner ∈ db.users} (users : db.users = db'.users)
    (here : rows.list = (db'.rows t).list) (others : ∀ t', t' ≠ t → db.rows t' = db'.rows t') :
    db.withRows t rows owned = db' := by
  refine Store.ext users fun t' => ?_
  by_cases ht : t' = t
  · subst ht
    simp only [withRows, ↓reduceIte, here]
  · simp only [withRows, ht, ↓reduceIte, others t' ht]

/-- A change that selects a user's row by its id, and leaves id and owner alone, changes this row if
there is one. -/
theorem update?_own (db : Store) {σ : Scope} {as : List (String × Expr)}
    {cs : List Sql.Condition} {f : StoredRow → StoredRow} (distinct : (as.map Prod.fst).Nodup)
    (selected : ∀ r, Sql.selects? σ r cs = some (decide (r.owner = user ∧ r.id = id)))
    (changed : ∀ r, (Sql.evaluated? σ (some r) as).bind r.setAll? = some (f r))
    (keeps : ∀ r, (f r).id = r.id ∧ (f r).owner = r.owner) :
    db.update? σ as cs = match db.row? σ.table id with
      | some r =>
        if hu : r.owner = user ∧ (f r).owner ∈ db.users then some (1, db.put σ.table (f r) hu.2)
        else some (0, db)
      | none => some (0, db) := by
  let own (r : StoredRow) : Bool := decide (r.owner = user ∧ r.id = id)
  obtain ⟨rows, owned, list, whole⟩ := update?_eq db (p := own) distinct selected changed keeps
  rw [whole]
  by_cases found : ∃ r ∈ (db.rows σ.table).list, own r
  · obtain ⟨r, hr, hown⟩ := found
    obtain ⟨howner, hid⟩ : r.owner = user ∧ r.id = id := by simpa [own] using hown
    have hrow : db.row? σ.table id = some r := Rows.row?_eq_some_iff.mpr ⟨hr, hid⟩
    have hu : (f r).owner ∈ db.users := (keeps r).2 ▸ db.owned σ.table r hr
    have others : ∀ x ∈ (db.rows σ.table).list, x.id ≠ r.id → own x = false := fun x _ hne => by
      simpa [own] using fun _ h => hne (h.trans hid.symm)
    have once := Rows.countP_eq_one (db.rows σ.table).nodup hr hown others
    have placed := Rows.map_eq_putInto (f := fun r => if own r then f r else r)
      (db.rows σ.table).nodup hr (by simp [hown, keeps]) fun x hx hne => by simp [others x hx hne]
    simp only [hown, ↓reduceIte] at placed
    have put : db.withRows σ.table rows owned = db.put σ.table (f r) hu := by
      refine withRows_eq rfl ?_ fun t' ht => ?_
      · rw [list, placed]
        simp only [put, withRows, ↓reduceIte, Rows.put]
      · simp only [put, withRows, ht, ↓reduceIte]
    rw [hrow, once, put]
    simp only [dif_pos (And.intro howner hu)]
  · have none_own : ∀ x ∈ (db.rows σ.table).list, own x = false := fun x hx => by
      simpa using fun h => found ⟨x, hx, h⟩
    have never : (db.rows σ.table).list.countP own = 0 :=
      List.countP_eq_zero.mpr fun x hx => by simp [none_own x hx]
    have unchanged : db.withRows σ.table rows owned = db := by
      refine withRows_eq rfl ?_ fun _ _ => rfl
      rw [list]
      refine (List.map_congr_left fun x hx => ?_).trans (List.map_id _)
      simp [none_own x hx]
    rw [never, unchanged]
    cases hrow : db.row? σ.table id with
    | none => rfl
    | some r =>
      obtain ⟨hr, hid⟩ := Rows.row?_eq_some_iff.mp hrow
      have hne : r.owner ≠ user := fun h => by simpa [own, h, hid] using none_own r hr
      simp [hne]

/-- A change of accepted fields reaches the user's own row of the id, and no other. -/
theorem execute?_update (db : Store) (now : Int) (h : t.resolve fields = .ok values) :
    db.execute? now (Query.update t user id values) = match db.row? t id with
      | some r =>
        if hu : r.owner = user ∧ r.owner ∈ db.users then
          some (1, db.put t (r.changed fields now) hu.2)
        else some (0, db)
      | none => some (0, db) := by
  have nodup := Table.nodup_of_resolve h
  have known := (Table.resolve_eq_ok_iff.mp h).2
  rw [execute?, (Query.update_aligned t user id values).1]
  simp only [Table.ofCatalogName?_catalogName, Option.bind_some]
  have selected (r : StoredRow) : Sql.selects? ⟨t, Query.update t user id values, now⟩ r
      (Sql.ownRow (values.length + 1) (values.length + 2)) =
        some (decide (r.owner = user ∧ r.id = id)) :=
    Sql.selects?_ownRow (Query.update_bound_owner t user id values)
      (Query.update_bound_id t user id values) r
  refine update?_own db (f := fun r => r.changed fields now) (Query.nodup_assigned nodup) selected
    (fun r => ?_) (fun r => ⟨rfl, rfl⟩)
  rw [Sql.evaluated?_append (Sql.evaluated?_assigned now (some r) known) (Sql.evaluated?_stamp _ r),
    Option.bind_some, StoredRow.setAll?_append, StoredRow.setAll?_texts r nodup]
  simp [StoredRow.setAll?, StoredRow.set?, StoredRow.changed, Table.lookup_of_resolve h]

/-- A mark of deletion reaches the user's own row of the id, and no other. -/
theorem execute?_delete (db : Store) (now : Int) :
    db.execute? now (Query.delete t user id) = match db.row? t id with
      | some r =>
        if hu : r.owner = user ∧ r.owner ∈ db.users then
          some (1, db.put t (r.marked now) hu.2)
        else some (0, db)
      | none => some (0, db) := by
  rw [execute?, (Query.delete_aligned t user id).1]
  simp only [Table.ofCatalogName?_catalogName, Option.bind_some]
  have selected (r : StoredRow) : Sql.selects? ⟨t, Query.delete t user id, now⟩ r
      (Sql.ownRow 1 2) = some (decide (r.owner = user ∧ r.id = id)) :=
    Sql.selects?_ownRow rfl rfl r
  have distinct :
      ([("deleted", Expr.bool true), ("updated_at", Sql.stamped)].map Prod.fst).Nodup := by
    decide
  refine update?_own db (f := fun r => r.marked now) distinct selected (fun r => ?_)
    (fun r => ⟨rfl, rfl⟩)
  rw [← List.singleton_append,
    Sql.evaluated?_append (Sql.evaluated?_mark _ r) (Sql.evaluated?_stamp _ r)]
  simp [StoredRow.setAll?, StoredRow.set?, StoredRow.marked]

/-- **What a write does to the rows.** Its query, carried out, puts the row that the write makes and
counts one, or counts none and changes nothing. An addition that makes no row is refused. -/
theorem execute?_query (db : Store) (now : Int) {w : Write} {q : Query}
    (h : w.query t user = .ok (some q)) :
    db.execute? now q = match w.made? user now (db.row? t w.id) with
      | some row => if hu : row.owner ∈ db.users then some (1, db.put t row hu) else none
      | none => if w.isAdd then none else some (0, db) := by
  obtain ⟨-, -, values, hr, hq⟩ := Write.query_eq_some_iff.mp h
  cases w with
  | add id fields =>
    obtain rfl := hq
    simp only [Write.fields] at hr
    rw [execute?_insert db now hr]
    simp only [Write.id]
    cases hrow : db.row? t id with
    | none => by_cases hu : user ∈ db.users <;> simp [Write.made?, hu]
    | some r => simp [Write.made?, Write.isAdd]
  | update id fields =>
    obtain ⟨hv, rfl⟩ := hq
    simp only [Write.fields] at hr
    have carried : fields.entries ≠ [] := by
      rw [← (Table.resolve_eq_ok_iff.mp hr).1]
      simpa using hv
    rw [execute?_update db now hr]
    simp only [Write.id]
    cases hrow : db.row? t id with
    | none => simp [Write.made?, Write.isAdd]
    | some r =>
      have hu := owner_mem_users hrow
      by_cases ho : r.owner = user
      · have hu' : user ∈ db.users := ho ▸ hu
        simp [Write.made?, ho, hu', carried]
      · simp [Write.made?, Write.isAdd, ho]
  | delete id =>
    obtain rfl := hq
    rw [execute?_delete db now]
    simp only [Write.id]
    cases hrow : db.row? t id with
    | none => simp [Write.made?, Write.isAdd]
    | some r =>
      have hu := owner_mem_users hrow
      by_cases ho : r.owner = user
      · have hu' : user ∈ db.users := ho ▸ hu
        simp [Write.made?, ho, hu']
      · simp [Write.made?, Write.isAdd, ho]

end Store
end RecordSync
