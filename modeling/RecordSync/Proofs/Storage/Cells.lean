import RecordSync.Proofs.Records
import RecordSync.Proofs.Storage.Execution
import RecordSync.Proofs.Time.Stamps
import RecordSync.Proofs.Values

/-!
# Rows as they are sent

The store sends the values of a row as bytes, each under the name and the type of its column. What
is read from them is the record of the row: a text for every column but those with NULL. Only a time
can fail to be read, when no calendar day has it.

Key definitions: `Column.info`, `Datum.cell?`, `StoredRow.cells?`, `StoredRow.record`.
Key theorems: `Wire.readInstant_microsBytes`, `StoredRow.toRecord_fields`.
-/
namespace RecordSync

/-! ### Times -/

namespace Wire

/-- Whether a time fits into the eight bytes that it is sent in. -/
def Fits (us : Int) : Prop :=
  -9223372036854775808 ≤ us - 1000000 * Instant.storeEpoch ∧
    us - 1000000 * Instant.storeEpoch < 9223372036854775808

instance (us : Int) : Decidable (Fits us) := by unfold Fits; infer_instance

/-- A time that fits is read back as its instant, if there is one. -/
theorem readInstant_microsBytes {us : Int} (h : Fits us) :
    readInstant (microsBytes us) = match Instant.ofMicros? us with
      | some t => .ok t
      | none => .error .noInstant := by
  obtain ⟨low, high⟩ := h
  have read : readInt (microsBytes us) = .ok (us - 1000000 * Instant.storeEpoch) :=
    readInt_intBytes (by decide : 7 < 8) (by omega)
  have back : us - 1000000 * Instant.storeEpoch + 1000000 * Instant.storeEpoch = us := by omega
  rw [readInstant, read]
  cases hi : Instant.ofMicros? us <;> simp only [bind, Except.bind, back, hi]

end Wire

/-! ### Rows -/

/-- What a reply says about a column. -/
def Column.info (c : Column) : ColumnInfo where
  name := c.name
  typeName := match c with
    | .convention .userId => "INT4"
    | .convention .updatedAt => "TIMESTAMPTZ"
    | .convention .deleted => "BOOL"
    | _ => "TEXT"

/-- A value as it is sent; a time has to fit. -/
def Datum.cell? : Datum → Option Cell
  | .null => some none
  | .int n => some (some (Wire.intBytes 4 n))
  | .text s => some (some (Wire.textBytes s))
  | .bool b => some (some (Wire.boolBytes b))
  | .time us => if Wire.Fits us then some (some (Wire.microsBytes us)) else none

/-- What is read of a value: its text, unless it is NULL or a time that no calendar day has. -/
def Datum.text? : Datum → Option String
  | .null => none
  | .int n => some (Decimal.write n)
  | .text s => some s
  | .bool b => some (if b then "true" else "false")
  | .time us => (Instant.ofMicros? us).map Rfc3339.micros

namespace StoredRow

/-- When the row was last written, if a calendar day has that time. -/
def instant? (r : StoredRow) : Option Instant := Instant.ofMicros? r.updatedAt

/-- What is sent of the row in some columns. -/
def cells? (r : StoredRow) (cs : List Column) : Option (List Cell) :=
  cs.mapM fun c => (r.get c).cell?

theorem fieldText_some {name typeName s : String} {bs : List UInt8} (kind : ColumnKind)
    (hk : ColumnKind.ofTypeName? typeName = some kind) (hr : Row.textOf kind bs = .ok s)
    (index : Nat) : Row.fieldText index ⟨⟨name, typeName⟩, some bs⟩ = .ok (some s) := by
  simp only [Row.fieldText, hk, hr]

theorem fieldText_null {name typeName : String} (kind : ColumnKind)
    (hk : ColumnKind.ofTypeName? typeName = some kind) (index : Nat) :
    Row.fieldText index ⟨⟨name, typeName⟩, none⟩ = .ok none := by
  simp only [Row.fieldText, hk]

/-- The bytes of a time that fits are read as the text of its instant, or not at all. -/
theorem textOf_updatedAt {r : StoredRow} {cell : Cell}
    (h : (r.get (.convention .updatedAt)).cell? = some cell) :
    ∃ bs, cell = some bs ∧ Row.textOf .instant bs = match r.instant? with
      | some t => .ok (Rfc3339.micros t)
      | none => .error .noInstant := by
  obtain ⟨fits, rfl⟩ : Wire.Fits r.updatedAt ∧ some (Wire.microsBytes r.updatedAt) = cell := by
    simpa [get, Datum.cell?] using h
  refine ⟨_, rfl, ?_⟩
  rw [Row.textOf, Wire.readInstant_microsBytes fits, instant?]
  cases Instant.ofMicros? r.updatedAt <;> rfl

/-- A value is read as its text, unless it is a time that no calendar day has. -/
theorem fieldText_get {r : StoredRow} {c : Column} {cell : Cell} (h : (r.get c).cell? = some cell)
    (ht : c = .convention .updatedAt → r.instant? ≠ none) (index : Nat) :
    Row.fieldText index ⟨c.info, cell⟩ = .ok (r.get c).text? := by
  cases c with
  | data c =>
    have kind : ColumnKind.ofTypeName? "TEXT" = some .text := by decide
    rw [get] at h ⊢
    cases hv : r.values c with
    | none =>
      obtain rfl : cell = none := by simpa [hv, Datum.cell?, eq_comm] using h
      exact fieldText_null .text kind index
    | some s =>
      obtain rfl : cell = some (Wire.textBytes s) := by simpa [hv, Datum.cell?, eq_comm] using h
      exact fieldText_some .text kind (Wire.readText_textBytes s) index
  | convention c =>
    cases c with
    | id =>
      obtain rfl : cell = some (Wire.textBytes r.id) := by
        simpa [get, Datum.cell?, eq_comm] using h
      exact fieldText_some .text (by decide) (Wire.readText_textBytes r.id) index
    | userId =>
      obtain rfl : cell = some (Wire.intBytes 4 r.owner.value) := by
        simpa [get, Datum.cell?, eq_comm] using h
      refine fieldText_some .int4 (by decide) ?_ index
      obtain ⟨low, high⟩ := r.owner.inRange
      have read : Wire.readIntOf 32 (Wire.intBytes 4 r.owner.value) = .ok r.owner.value :=
        Wire.readIntOf_intBytes (by decide : 3 < 8) (by omega)
      rw [Row.textOf, read, Except.map]
    | updatedAt =>
      obtain ⟨t, hi⟩ := Option.ne_none_iff_exists'.mp (ht rfl)
      obtain ⟨bs, rfl, read⟩ := textOf_updatedAt h
      rw [hi] at read
      have shown : (r.get (.convention .updatedAt)).text? = some (Rfc3339.micros t) :=
        congrArg (Option.map Rfc3339.micros) hi
      rw [shown]
      exact fieldText_some .instant (by decide) read index
    | deleted =>
      obtain rfl : cell = some (Wire.boolBytes r.deleted) := by
        simpa [get, Datum.cell?, eq_comm] using h
      refine fieldText_some .bool (by decide) ?_ index
      rw [Row.textOf, Wire.readBool_boolBytes, Except.map]

/-- A time that no calendar day has is not read. -/
theorem fieldText_updatedAt {r : StoredRow} {cell : Cell}
    (h : (r.get (.convention .updatedAt)).cell? = some cell) (hi : r.instant? = none)
    (index : Nat) :
    ∃ e, Row.fieldText index ⟨Column.info (.convention .updatedAt), cell⟩ = .error e := by
  have kind : ColumnKind.ofTypeName? "TIMESTAMPTZ" = some .instant := by decide
  obtain ⟨bs, rfl, read⟩ := textOf_updatedAt h
  rw [hi] at read
  simp only [Row.fieldText, Column.info, kind, read, Except.error.injEq, exists_eq']

/-! ### Records -/

/-- The fields of a row of a reply. -/
def fields (cs : List Column) (cells : List Cell) : Row :=
  ((cs.map Column.info).zip cells).map fun p => ⟨p.1, p.2⟩

theorem cells?_cons {r : StoredRow} {c : Column} {cs : List Column} {cells : List Cell}
    (h : r.cells? (c :: cs) = some cells) :
    ∃ cell rest, cells = cell :: rest ∧ (r.get c).cell? = some cell ∧ r.cells? cs = some rest := by
  rw [cells?, List.mapM_cons] at h
  cases hc : (r.get c).cell? with
  | none => simp [hc] at h
  | some cell =>
    cases hr : r.cells? cs with
    | none => simp [cells?] at hr; simp [hc, hr] at h
    | some rest =>
      have hr' := hr
      rw [cells?] at hr'
      exact ⟨cell, rest, by simpa [hc, hr', eq_comm] using h, rfl, rfl⟩

/-- What is read of a row with an instant is the text of each of its columns. -/
theorem textsFrom_fields {r : StoredRow} (hi : r.instant? ≠ none) {cs : List Column}
    {cells : List Cell} (h : r.cells? cs = some cells) (index : Nat) :
    Row.textsFrom index (fields cs cells) = .ok (cs.map fun c => (c.name, (r.get c).text?)) := by
  induction cs generalizing cells index with
  | nil => rfl
  | cons c cs ih =>
    obtain ⟨cell, rest, rfl, hc, hr⟩ := cells?_cons h
    have first := fieldText_get hc (fun _ => hi) index
    have more := ih hr (index + 1)
    change Row.textsFrom index (⟨c.info, cell⟩ :: fields cs rest) = _
    rw [Row.textsFrom, first]
    simp only [bind, Except.bind, more]
    rfl

/-- Nothing is read of a row without an instant. -/
theorem textsFrom_fields_none {r : StoredRow} (hi : r.instant? = none) {cs : List Column}
    {cells : List Cell} (h : r.cells? cs = some cells) (hm : .convention .updatedAt ∈ cs)
    (index : Nat) : ∃ e, Row.textsFrom index (fields cs cells) = .error e := by
  induction cs generalizing cells index with
  | nil => cases hm
  | cons c cs ih =>
    obtain ⟨cell, rest, rfl, hc, hr⟩ := cells?_cons h
    change ∃ e, Row.textsFrom index (⟨c.info, cell⟩ :: fields cs rest) = .error e
    rw [Row.textsFrom]
    by_cases hu : c = .convention .updatedAt
    · subst hu
      obtain ⟨e, he⟩ := fieldText_updatedAt hc hi index
      exact ⟨e, by rw [he]; rfl⟩
    · have later : .convention .updatedAt ∈ cs :=
        (List.mem_cons.mp hm).resolve_left fun e => hu e.symm
      obtain ⟨e, he⟩ := ih hr later (index + 1)
      rw [fieldText_get hc (fun h => absurd h hu) index]
      exact ⟨e, by simp only [bind, Except.bind, he]⟩

/-! ### The record of a row -/

/-- The record of a row of a table. -/
def record (r : StoredRow) (t : Table) : Record where
  entries := t.columns.map fun c => (c.name, (r.get c).text?)
  nodup := by
    rw [List.map_map]
    exact Column.nodup_names t.nodup_columns

theorem get?_record (r : StoredRow) {t : Table} {c : Column} (h : c ∈ t.columns) :
    (r.record t).get? c.name = (r.get c).text? :=
  Record.get?_of_mem (List.mem_map.mpr ⟨c, h, rfl⟩)

@[simp] theorem id?_record (r : StoredRow) (t : Table) : (r.record t).id? = some r.id :=
  r.get?_record (t.convention_mem_columns .id)

theorem get?_updatedAt_record (r : StoredRow) (t : Table) :
    (r.record t).get? "updated_at" = r.instant?.map Rfc3339.micros :=
  r.get?_record (t.convention_mem_columns .updatedAt)

/-- **What is read of a row is its record**, if a calendar day has the time of its last write. -/
theorem toRecord_fields {r : StoredRow} {t : Table} {cells : List Cell}
    (hi : r.instant? ≠ none) (h : r.cells? t.columns = some cells) :
    Row.toRecord (fields t.columns cells) = .ok (r.record t) := by
  have texts := textsFrom_fields hi h 0
  rw [Row.toRecord, texts, Except.map]
  exact congrArg Except.ok (Record.ext (Record.entries_ofList (r.record t).nodup))

theorem toRecord_fields_none {r : StoredRow} {t : Table} {cells : List Cell}
    (hi : r.instant? = none) (h : r.cells? t.columns = some cells) :
    ∃ e, Row.toRecord (fields t.columns cells) = .error e := by
  obtain ⟨e, he⟩ := textsFrom_fields_none hi h (t.convention_mem_columns .updatedAt) 0
  exact ⟨e, by rw [Row.toRecord, he]; rfl⟩

/-- Rows are read if each of them is, and then give the record of each. -/
theorem toRecords_fields {t : Table} {rows : List StoredRow} {cells : List (List Cell)}
    (h : rows.mapM (fun r => r.cells? t.columns) = some cells) (rs : List Record) :
    Row.toRecords (cells.map (fields t.columns)) = .ok rs ↔
      (∀ r ∈ rows, r.instant? ≠ none) ∧ rs = rows.map fun r => r.record t := by
  induction rows generalizing cells rs with
  | nil =>
    obtain rfl : cells = [] := by simpa [eq_comm] using h
    simp [Row.toRecords, eq_comm]
  | cons r rows ih =>
    rw [List.mapM_cons] at h
    cases hc : r.cells? t.columns with
    | none => simp [hc] at h
    | some first =>
      cases hr : rows.mapM (fun r => r.cells? t.columns) with
      | none => simp [hc, hr] at h
      | some rest =>
        obtain rfl : first :: rest = cells := by simpa [hc, hr] using h
        rw [List.map_cons, Row.toRecords]
        by_cases hi : r.instant? = none
        · obtain ⟨e, he⟩ := toRecord_fields_none hi hc
          simp [he, bind, Except.bind, hi]
        · have more := ih hr
          rw [toRecord_fields hi hc]
          cases ht : Row.toRecords (rest.map (fields t.columns)) with
          | error e =>
            have none_read : ¬∀ r ∈ rows, r.instant? ≠ none := fun hall => by
              have := (more _).mpr ⟨hall, rfl⟩
              simp [ht] at this
            simp only [bind, Except.bind, reduceCtorEq, false_iff]
            exact fun hall => none_read fun r hr => hall.1 r (List.mem_cons_of_mem _ hr)
          | ok rs' =>
            obtain ⟨hall, rfl⟩ := (more rs').mp ht
            simp only [bind, Except.bind, Except.ok.injEq, List.map_cons]
            refine ⟨fun heq => ⟨?_, heq.symm⟩, fun heq => heq.2.symm⟩
            exact List.forall_mem_cons.mpr ⟨hi, hall⟩

end StoredRow
end RecordSync
