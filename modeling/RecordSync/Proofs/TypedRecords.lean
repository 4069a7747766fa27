import RecordSync.Proofs.Results
import RecordSync.Proofs.Storage.Cells
import RecordSync.Shape

/-!
# Typed records and their rows

A typed record is written as fields, and comes back from a record that was read. What it writes is
accepted by its own table and covers the data columns of the table, metadata only if there is some.
A record with these columns gives the typed record again, with the sync mark that it has, whatever
else it has and in whatever order. Metadata that was not written stays as it was in the row.

Key definitions: `Shape.revised`, `Shape.Holds`, `Record.Overwrites`.
Key theorems: `Shape.entries_fields`, `Shape.ofRecord_eq_revised`, `Shape.comes_back`.
-/
namespace RecordSync

/-! ### Field values with distinct names -/

namespace Fields

theorem perm_insertEntry {name : String} (value : String) {es : List (String × String)}
    (h : name ∉ es.map Prod.fst) : (insertEntry name value es).Perm ((name, value) :: es) := by
  induction es with
  | nil => exact .refl _
  | cons e es ih =>
    rw [List.map_cons, List.mem_cons, not_or] at h
    unfold insertEntry
    split
    · exact .refl _
    · rw [if_neg h.1]
      exact ((ih h.2).cons e).trans (.swap (name, value) e es)

/-- Values under distinct names are all kept. -/
theorem perm_ofList {pairs : List (String × String)} (h : (pairs.map Prod.fst).Nodup) :
    (ofList pairs).entries.Perm pairs := by
  have inserted (fields : Fields) (hd : ((fields.entries ++ pairs).map Prod.fst).Nodup) :
      (pairs.foldl (fun fields p => fields.insert p.1 p.2) fields).entries.Perm
        (fields.entries ++ pairs) := by
    clear h
    induction pairs generalizing fields with
    | nil => rw [List.append_nil, List.foldl_nil]
    | cons p ps ih =>
      have fresh : p.1 ∉ fields.entries.map Prod.fst := by
        rw [List.map_append, List.nodup_append] at hd
        exact fun hm => hd.2.2 p.1 hm p.1 List.mem_cons_self rfl
      have more : ((fields.insert p.1 p.2).entries ++ ps).Perm (fields.entries ++ p :: ps) :=
        ((perm_insertEntry p.2 fresh).append_right ps).trans List.perm_middle.symm
      exact (ih _ ((more.map Prod.fst).nodup_iff.mpr hd)).trans more
  exact inserted empty h

end Fields

/-! ### Records that change -/

namespace Record

/-- A record after fields were written over its columns. -/
structure Overwrites (fields : Fields) (r r' : Record) : Prop where
  written : ∀ e ∈ fields.entries, r'.get? e.1 = some e.2
  kept : ∀ column, column ∉ fields.names → r'.get? column = r.get? column

/-- The record with fields written over its columns. -/
def overwrite (r : Record) (fields : Fields) : Record :=
  fields.entries.foldl (fun r e => r.insert e.1 (some e.2)) r

theorem overwrites_overwrite (r : Record) (fields : Fields) :
    Overwrites fields r (r.overwrite fields) := by
  have after (es : List (String × String)) (r : Record) (hd : (es.map Prod.fst).Nodup) :
      (∀ e ∈ es, (es.foldl (fun r e => r.insert e.1 (some e.2)) r).get? e.1 = some e.2) ∧
      ∀ column, column ∉ es.map Prod.fst →
        (es.foldl (fun r e => r.insert e.1 (some e.2)) r).get? column = r.get? column := by
    induction es generalizing r with
    | nil => exact ⟨nofun, fun _ _ => rfl⟩
    | cons e es ih =>
      obtain ⟨fresh, hes⟩ := List.nodup_cons.mp hd
      obtain ⟨written, kept⟩ := ih (r.insert e.1 (some e.2)) hes
      refine ⟨fun e' he' => ?_, fun column hc => ?_⟩
      · rcases List.mem_cons.mp he' with rfl | he'
        · rw [List.foldl_cons, kept _ fresh, get?_insert, if_pos rfl]
        · exact written e' he'
      · rw [List.map_cons, List.mem_cons, not_or] at hc
        rw [List.foldl_cons, kept _ hc.2, get?_insert, if_neg hc.1]
  obtain ⟨written, kept⟩ := after fields.entries r fields.nodup_names
  exact ⟨written, kept⟩

end Record

/-! ### What a typed record writes -/

theorem Table.metadata_mem_dataColumns (t : Table) : .metadata ∈ t.dataColumns := by
  cases t <;> decide

theorem Table.nodup_dataColumns (t : Table) : t.dataColumns.Nodup := by cases t <;> decide

namespace Shape

variable {α : Type} [Shape α]

theorem fst_columnValues (x : α) : (columnValues x).map Prod.fst = (tableOf α).requiredColumns ++
    ((parts x).metadata.map fun _ => DataColumn.metadata).toList := by
  have width : (tableOf α).requiredColumns.length ≤ (parts x).values.length :=
    Nat.le_of_eq (length_values x).symm
  rw [columnValues, Parts.columnValues, List.map_append, List.map_fst_zip width]
  cases (parts x).metadata <;> rfl

/-- A typed record writes each data column once, metadata only if it has some. -/
theorem nodup_columnValues (x : α) : ((columnValues x).map Prod.fst).Nodup := by
  have required : (tableOf α).requiredColumns.Nodup := (tableOf α).nodup_dataColumns.filter _
  rw [fst_columnValues]
  cases (parts x).metadata with
  | none => simpa using required
  | some m =>
    have apart : .metadata ∉ (tableOf α).requiredColumns := by simp [Table.requiredColumns]
    exact required.append (List.nodup_singleton _) (by simpa using apart)

theorem mem_fst_columnValues (x : α) (c : DataColumn) : c ∈ (columnValues x).map Prod.fst ↔
    c ∈ (tableOf α).dataColumns ∧ (c = .metadata → (parts x).metadata ≠ none) := by
  rw [fst_columnValues, List.mem_append]
  unfold Table.requiredColumns
  have listed := (tableOf α).metadata_mem_dataColumns
  by_cases hc : c = .metadata
  · cases (parts x).metadata <;> simp [hc, listed]
  · cases (parts x).metadata <;> simp [hc]

theorem entries_fields (x : α) :
    (fields x).entries.Perm ((columnValues x).map fun p => (p.1.name, p.2)) := by
  rw [fields_eq]
  refine Fields.perm_ofList ?_
  have names := (nodup_columnValues x).map fun {a b} h => DataColumn.name_injective h
  rwa [List.map_map] at names ⊢

theorem entries_fields_credential (x : Credential) : (fields x).entries.Perm
    ([("login", x.login), ("password", x.password)] ++
      (x.metadata.map fun m => ("metadata", m)).toList) := by
  rcases x with ⟨id, login, password, _ | m, sync⟩ <;> exact entries_fields _

theorem entries_fields_textNote (x : TextNote) : (fields x).entries.Perm
    ([("data", x.data)] ++ (x.metadata.map fun m => ("metadata", m)).toList) := by
  rcases x with ⟨id, data, _ | m, sync⟩ <;> exact entries_fields _

theorem entries_fields_binaryBlob (x : BinaryBlob) : (fields x).entries.Perm
    ([("data", x.data)] ++ (x.metadata.map fun m => ("metadata", m)).toList) := by
  rcases x with ⟨id, data, _ | m, sync⟩ <;> exact entries_fields _

theorem entries_fields_card (x : Card) : (fields x).entries.Perm
    ([("number", x.number), ("holder", x.holder), ("expiry", x.expiry), ("cvv", x.cvv)] ++
      (x.metadata.map fun m => ("metadata", m)).toList) := by
  rcases x with ⟨id, number, holder, expiry, cvv, _ | m, sync⟩ <;> exact entries_fields _

/-- The fields of a typed record are accepted by its table, as its columns with their values. -/
theorem exists_resolve_fields (x : α) : ∃ values, (tableOf α).resolve (fields x) = .ok values ∧
    values.Perm (columnValues x) := by
  have injective : Function.Injective fun p : DataColumn × String => (p.1.name, p.2) := by
    intro p q h
    obtain ⟨hn, hv⟩ := Prod.mk.inj h
    exact Prod.ext (DataColumn.name_injective hn) hv
  obtain ⟨values, hv⟩ : (fields x).entries ∈
      Set.range (List.map fun p : DataColumn × String => (p.1.name, p.2)) := by
    rw [Set.range_list_map]
    intro e he
    obtain ⟨p, -, hp⟩ := List.mem_map.mp ((entries_fields x).mem_iff.mp he)
    exact ⟨p, hp⟩
  have perm : values.Perm (columnValues x) := by
    have h := entries_fields x
    rw [← hv] at h
    exact (List.map_perm_map_iff injective).mp h
  refine ⟨values, Table.resolve_eq_ok_iff.mpr ⟨hv, fun v hm => ?_⟩, perm⟩
  have mem := List.mem_map_of_mem (f := Prod.fst) (perm.mem_iff.mp hm)
  exact ((mem_fst_columnValues x v.1).mp mem).1

/-! ### What a typed record is read from -/

/-- The typed record with other metadata and another sync mark. -/
def revised (x : α) (metadata : Option String) (sync : SyncMark) : α :=
  (ofParts? ⟨entryId x, (parts x).values, metadata, sync⟩).getD x

theorem parts_revised (x : α) (metadata : Option String) (sync : SyncMark) :
    parts (revised x metadata sync) = ⟨entryId x, (parts x).values, metadata, sync⟩ := by
  obtain ⟨z, made, parts_eq⟩ :=
    parts_ofParts? (α := α) ⟨entryId x, (parts x).values, metadata, sync⟩ (length_values x)
  rw [revised, made, Option.getD_some, parts_eq]

theorem revised_credential (x : Credential) (metadata : Option String) (sync : SyncMark) :
    revised x metadata sync = { x with metadata := metadata, sync := sync } := rfl

theorem revised_textNote (x : TextNote) (metadata : Option String) (sync : SyncMark) :
    revised x metadata sync = { x with metadata := metadata, sync := sync } := rfl

theorem revised_binaryBlob (x : BinaryBlob) (metadata : Option String) (sync : SyncMark) :
    revised x metadata sync = { x with metadata := metadata, sync := sync } := rfl

theorem revised_card (x : Card) (metadata : Option String) (sync : SyncMark) :
    revised x metadata sync = { x with metadata := metadata, sync := sync } := rfl

theorem mapM_requiredText_zip {t : Table} {r : Record} {cs : List DataColumn} {ss : List String}
    (width : ss.length = cs.length) (h : ∀ p ∈ cs.zip ss, r.get? p.1.name = some p.2) :
    (cs.map DataColumn.name).mapM (t.requiredText r) = .ok ss := by
  rw [mapM_eq_ok_iff, List.forall₂_map_left_iff, List.forall₂_iff_zip]
  refine ⟨width.symm, fun hp => ?_⟩
  rw [Table.requiredText, h _ hp]

/-- A record with the id and the required texts of a typed record gives it again, with its own
metadata and sync mark. -/
theorem ofRecord_eq_revised {x : α} {r : Record} (id : r.get? "id" = some (entryId x))
    (values : ∀ p ∈ (tableOf α).requiredColumns.zip (parts x).values,
      r.get? p.1.name = some p.2) :
    ofRecord r = .ok (revised x (r.get? "metadata") (SyncMark.ofRecord r)) := by
  have texts : ((tableOf α).requiredColumns.map DataColumn.name).mapM
      ((tableOf α).requiredText r) = .ok (parts x).values :=
    mapM_requiredText_zip (length_values x) values
  rw [ofRecord_eq_ok_iff_partsOf, parts_revised, Table.partsOf, texts, Table.requiredText,
    show r.get? ConventionColumn.id.name = _ from id]
  rfl

/-- The text of a truth value in a record. -/
def flagText (b : Bool) : String := if b then "true" else "false"

/-- A record holds a typed record of a user, written at a time and marked as deleted or not. Columns
stand in any order, and there may be others. -/
structure Holds (r : Record) (user : UserId) (x : α) (t : Instant) (deleted : Bool) : Prop where
  id : ("id", some (entryId x)) ∈ r.entries
  owner : ("user_id", some user.text) ∈ r.entries
  written : ∀ e ∈ (fields x).entries, (e.1, some e.2) ∈ r.entries
  unwritten : (parts x).metadata = none → ∀ value, ("metadata", value) ∈ r.entries → value = none
  updatedAt : ("updated_at", some (Rfc3339.micros t)) ∈ r.entries
  marked : ("deleted", some (flagText deleted)) ∈ r.entries

variable {r r' : Record} {user : UserId} {x y : α} {t : Instant} {deleted : Bool}

theorem mem_fields_of_mem {c : DataColumn} {value : String} (h : (c, value) ∈ columnValues x) :
    (c.name, value) ∈ (fields x).entries :=
  (entries_fields x).mem_iff.mpr (List.mem_map.mpr ⟨(c, value), h, rfl⟩)

theorem mem_columnValues_of_required {p : DataColumn × String}
    (h : p ∈ (tableOf α).requiredColumns.zip (parts x).values) : p ∈ columnValues x :=
  List.mem_append_left _ h

theorem metadata_mem_columnValues {m : String} (h : (parts x).metadata = some m) :
    (.metadata, m) ∈ columnValues x := by
  refine List.mem_append_right _ ?_
  simp [h]

/-- The names that a typed record writes are those of its columns. -/
theorem mem_names_fields_iff {c : DataColumn} :
    c.name ∈ (fields x).names ↔ c ∈ (columnValues x).map Prod.fst := by
  have names : (fields x).names.Perm (((columnValues x).map Prod.fst).map DataColumn.name) := by
    have h := (entries_fields x).map Prod.fst
    rw [List.map_map] at h ⊢
    exact h
  rw [names.mem_iff, List.mem_map_of_injective fun a b h => DataColumn.name_injective h]

theorem convention_notMem_names (x : α) (c : ConventionColumn) : c.name ∉ (fields x).names := by
  intro h
  obtain ⟨e, he, hn⟩ := List.mem_map.mp h
  obtain ⟨p, -, rfl⟩ := List.mem_map.mp ((entries_fields x).mem_iff.mp he)
  exact DataColumn.name_ne_name p.1 c hn

namespace Holds

theorem get?_metadata (holds : Holds r user x t deleted) :
    r.get? "metadata" = (parts x).metadata := by
  cases hm : (parts x).metadata with
  | none => exact Record.get?_eq_none (holds.unwritten hm)
  | some m =>
    exact Record.get?_of_mem (holds.written _ (mem_fields_of_mem (metadata_mem_columnValues hm)))

theorem sync (holds : Holds r user x t deleted) (year : Rfc3339.FourDigits t) :
    SyncMark.ofRecord r = ⟨some t.toMicros, deleted⟩ := by
  have time : r.updatedAt? = some t.toMicros := by
    rw [Record.updatedAt?, Record.get?_of_mem holds.updatedAt, Option.bind_some,
      Rfc3339.read?_micros, if_pos year]
  have flag : r.isDeleted = deleted := by
    rw [Record.isDeleted, Record.get?_of_mem holds.marked]
    cases deleted <;> decide
  rw [SyncMark.ofRecord, time, flag]

end Holds

/-- A record that holds a typed record gives it again, with the time of its last write. -/
theorem ofRecord_of_holds (holds : Holds r user x t deleted) (year : Rfc3339.FourDigits t) :
    ofRecord r = .ok (revised x (parts x).metadata ⟨some t.toMicros, deleted⟩) := by
  rw [← holds.sync year, ← holds.get?_metadata]
  refine ofRecord_eq_revised (Record.get?_of_mem holds.id) fun p hp => ?_
  exact Record.get?_of_mem (holds.written _ (mem_fields_of_mem (mem_columnValues_of_required hp)))

/-- Metadata that is written replaces what was there; otherwise it stays. -/
theorem get?_metadata_of_overwrites (holds : Holds r user y t deleted)
    (overwrites : Record.Overwrites (fields x) r r') :
    r'.get? "metadata" = (parts x).metadata.or (parts y).metadata := by
  cases hm : (parts x).metadata with
  | some m =>
    exact overwrites.written _ (mem_fields_of_mem (metadata_mem_columnValues hm))
  | none =>
    have absent : "metadata" ∉ (fields x).names := by
      intro h
      have written := mem_names_fields_iff (c := .metadata).mp h
      exact ((mem_fst_columnValues x .metadata).mp written).2 rfl hm
    rw [overwrites.kept _ absent, holds.get?_metadata]
    rfl

/-- A typed record that is written over another one of its id is read back, with the metadata of the
other one if it has none. -/
theorem ofRecord_of_overwrites (holds : Holds r user y t deleted) (same : entryId y = entryId x)
    (year : Rfc3339.FourDigits t) (overwrites : Record.Overwrites (fields x) r r') :
    ofRecord r' = .ok (revised x ((parts x).metadata.or (parts y).metadata)
      ⟨some t.toMicros, deleted⟩) := by
  have kept (c : ConventionColumn) : r'.get? c.name = r.get? c.name :=
    overwrites.kept _ (convention_notMem_names x c)
  have mark : SyncMark.ofRecord r' = SyncMark.ofRecord r := by
    unfold SyncMark.ofRecord Record.updatedAt? Record.isDeleted
    rw [show r'.get? "updated_at" = _ from kept .updatedAt,
      show r'.get? "deleted" = _ from kept .deleted]
    rfl
  have id : r'.get? "id" = some (entryId x) := by
    rw [show r'.get? "id" = _ from kept .id, ← same]
    exact Record.get?_of_mem holds.id
  rw [← holds.sync year, ← mark, ← get?_metadata_of_overwrites holds overwrites]
  refine ofRecord_eq_revised id fun p hp => ?_
  exact overwrites.written _ (mem_fields_of_mem (mem_columnValues_of_required hp))

/-- **Typed records come back.** Each of the four shapes writes its own texts under its own columns,
and metadata if it has some. The fields of a typed record are accepted by its own table: they cover
each data column once, metadata only if there is some. A record that holds the typed record
gives it again with the sync mark of the row, and so does one on which its fields were written over
another typed record of the same id, except that metadata which was not written is that of the
other one. In none of the four shapes anything else changes. -/
theorem comes_back :
    ((∀ x : Credential, (fields x).entries.Perm
        ([("login", x.login), ("password", x.password)] ++
          (x.metadata.map fun m => ("metadata", m)).toList)) ∧
      (∀ x : TextNote, (fields x).entries.Perm
        ([("data", x.data)] ++ (x.metadata.map fun m => ("metadata", m)).toList)) ∧
      (∀ x : BinaryBlob, (fields x).entries.Perm
        ([("data", x.data)] ++ (x.metadata.map fun m => ("metadata", m)).toList)) ∧
      ∀ x : Card, (fields x).entries.Perm
        ([("number", x.number), ("holder", x.holder), ("expiry", x.expiry), ("cvv", x.cvv)] ++
          (x.metadata.map fun m => ("metadata", m)).toList)) ∧
    (∀ (x : Credential) (metadata : Option String) (sync : SyncMark),
      revised x metadata sync = { x with metadata := metadata, sync := sync }) ∧
    (∀ (x : TextNote) (metadata : Option String) (sync : SyncMark),
      revised x metadata sync = { x with metadata := metadata, sync := sync }) ∧
    (∀ (x : BinaryBlob) (metadata : Option String) (sync : SyncMark),
      revised x metadata sync = { x with metadata := metadata, sync := sync }) ∧
    (∀ (x : Card) (metadata : Option String) (sync : SyncMark),
      revised x metadata sync = { x with metadata := metadata, sync := sync }) ∧
    ∀ (α : Type) [Shape α] (x : α),
      (∃ values, (tableOf α).resolve (fields x) = .ok values ∧ (values.map Prod.fst).Nodup ∧
        ∀ c, c ∈ values.map Prod.fst ↔
          c ∈ (tableOf α).dataColumns ∧ (c = .metadata → (parts x).metadata ≠ none)) ∧
      (∀ (r : Record) (user : UserId) (t : Instant) (deleted : Bool), Rfc3339.FourDigits t →
        Holds r user x t deleted →
        ofRecord r = .ok (revised x (parts x).metadata ⟨some t.toMicros, deleted⟩)) ∧
      ∀ (y : α) (r r' : Record) (user : UserId) (t : Instant) (deleted : Bool),
        Rfc3339.FourDigits t → Holds r user y t deleted → entryId y = entryId x →
        Record.Overwrites (fields x) r r' →
        ofRecord r' = .ok (revised x ((parts x).metadata.or (parts y).metadata)
          ⟨some t.toMicros, deleted⟩) := by
  refine ⟨⟨entries_fields_credential, entries_fields_textNote, entries_fields_binaryBlob,
      entries_fields_card⟩,
    revised_credential, revised_textNote, revised_binaryBlob, revised_card,
    fun α _ x => ⟨?_, fun r user t deleted year holds => ofRecord_of_holds holds year,
      fun y r r' user t deleted year holds same overwrites =>
        ofRecord_of_overwrites holds same year overwrites⟩⟩
  obtain ⟨values, accepted, perm⟩ := exists_resolve_fields x
  have columns := perm.map Prod.fst
  exact ⟨values, accepted, columns.nodup_iff.mpr (nodup_columnValues x),
    fun c => columns.mem_iff.trans (mem_fst_columnValues x c)⟩

/-- A login in a record with its columns in another order and one more, and another login written
over it that leaves the metadata as it was. -/
theorem comes_back_of_login :
    let t : Instant := ⟨1714557600, 123456789, by decide⟩
    let old : Credential := { id := "l1", login := "a", password := "\n", metadata := some "" }
    let new : Credential := { id := "l1", login := "b", password := "" }
    let r : Record := ⟨[("deleted", some "true"), ("password", some "\n"), ("extra", none),
      ("metadata", some ""), ("updated_at", some (Rfc3339.micros t)), ("id", some "l1"),
      ("login", some "a"), ("user_id", some "7")], by decide⟩
    (∃ values, Table.resolve .credentials (fields new) = .ok values ∧
      (values.map Prod.fst).Nodup ∧ .metadata ∉ values.map Prod.fst) ∧
    ofRecord r = .ok { old with sync := ⟨some t.toMicros, true⟩ } ∧
    ofRecord (r.overwrite (fields new)) =
      .ok { new with metadata := some "", sync := ⟨some t.toMicros, true⟩ } := by
  intro t old new r
  let user : UserId := ⟨7, by decide⟩
  have year : Rfc3339.FourDigits t := by decide
  have columns (e : String × String) : e ∈ (fields old).entries →
      e = ("login", "a") ∨ e = ("password", "\n") ∨ e = ("metadata", "") := by
    rw [(entries_fields old).mem_iff]
    simp [columnValues, Parts.columnValues, tableOf, Shape.table, Table.requiredColumns,
      Table.dataColumns, parts, old, DataColumn.name]
  have holds : Holds r user old t true := by
    have written : (parts old).metadata ≠ none := by simp [parts, old]
    refine ⟨by simp [r, entryId, parts, old], ?_, fun e he => ?_, (absurd · written), by simp [r],
      by simp [r, flagText]⟩
    · have seven : user.text = "7" := by decide
      simp [r, seven]
    · rcases columns e he with rfl | rfl | rfl <;> simp [r]
  obtain ⟨-, remade, -, -, -, back⟩ := comes_back
  obtain ⟨⟨values, accepted, once, covered⟩, -, overwritten⟩ := back Credential new
  obtain ⟨-, read, -⟩ := back Credential old
  refine ⟨⟨values, accepted, once, fun h => ((covered _).mp h).2 rfl rfl⟩, ?_, ?_⟩
  · rw [read r user t true year holds, remade]
    rfl
  · rw [overwritten old r _ user t true year holds rfl (r.overwrites_overwrite _), remade]
    rfl

end Shape
end RecordSync
