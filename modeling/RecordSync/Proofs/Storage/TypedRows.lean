import RecordSync.Proofs.Storage.Writes
import RecordSync.Proofs.TypedRecords

/-!
# Typed records in stored rows

A row that was made of the fields of a typed record gives the typed record again when it is read,
and a row that was changed by them gives it with the metadata that the row had, unless other
metadata was written. The sync mark is that of the row.

Key definition: `StoredRow.Carries`.
Key theorems: `StoredRow.ofRecord_ofFields`, `StoredRow.ofRecord_changed`.
-/
namespace RecordSync

namespace Fields

variable {fields : Fields} {name : String}

theorem get?_of_mem {value : String} (h : (name, value) ∈ fields.entries) :
    fields.get? name = some value := by
  unfold get?
  cases hf : fields.entries.find? fun e => e.1 == name with
  | none => exact absurd (beq_self_eq_true name) (List.find?_eq_none.mp hf _ h)
  | some e =>
    have same : e.1 = name := by simpa using List.find?_some hf
    rw [List.inj_on_of_nodup_map fields.nodup_names (List.mem_of_find?_eq_some hf) h same]
    rfl

theorem get?_eq_none (h : name ∉ fields.names) : fields.get? name = none := by
  unfold get?
  rw [Option.map_eq_none_iff, List.find?_eq_none]
  intro e he heq
  exact h (List.mem_map.mpr ⟨e, he, by simpa using heq⟩)

end Fields

namespace StoredRow

open Shape

variable {α : Type} [Shape α] {row : StoredRow} {x y : α} {t : Instant} {now : Int}

/-- The row of a table as a record, column by column. -/
theorem get?_record_eq (row : StoredRow) (t : Table) (column : String) :
    (row.record t).get? column = (t.column? column).bind fun c => (row.get c).text? := by
  cases hc : t.column? column with
  | some c =>
    obtain ⟨listed, name⟩ := Table.column?_eq_some_iff.mp hc
    rw [← name, row.get?_record listed, Option.bind_some]
  | none =>
    refine Record.get?_eq_none fun value h => ?_
    obtain ⟨c, hm, he⟩ := List.mem_map.mp h
    have absent := List.find?_eq_none.mp hc c hm
    simp [(Prod.mk.inj he).1] at absent

/-- The row has the id and the texts of a typed record, and NULL for metadata that it lacks. -/
structure Carries (row : StoredRow) (x : α) : Prop where
  id : row.id = entryId x
  written : ∀ p ∈ columnValues x, row.values p.1 = some p.2
  unwritten : (parts x).metadata = none → row.values .metadata = none

theorem carries_ofFields (user : UserId) (x : α) (now : Int) :
    (ofFields user (entryId x) (Shape.fields x) now).Carries x where
  id := rfl
  written _ hp := Fields.get?_of_mem (mem_fields_of_mem hp)
  unwritten hm := by
    refine Fields.get?_eq_none fun h => ?_
    have written := mem_names_fields_iff (c := .metadata).mp h
    exact ((mem_fst_columnValues x .metadata).mp written).2 rfl hm

/-- A row that carries a typed record is read as a record that holds it. -/
theorem Carries.holds (carries : row.Carries x) (time : row.instant? = some t) :
    Holds (row.record (tableOf α)) row.owner x t row.deleted := by
  have stands {c : Column} {text : Option String} (hc : c ∈ (tableOf α).columns)
      (ht : (row.get c).text? = text) : (c.name, text) ∈ (row.record (tableOf α)).entries :=
    List.mem_map.mpr ⟨c, hc, by rw [ht]⟩
  have convention := (tableOf α).convention_mem_columns
  refine ⟨stands (convention .id) ?_, stands (convention .userId) rfl, fun e he => ?_, ?_,
    stands (convention .updatedAt) ?_, stands (convention .deleted) rfl⟩
  · rw [get, Datum.text?, carries.id]
  · obtain ⟨p, hp, rfl⟩ := List.mem_map.mp ((entries_fields x).mem_iff.mp he)
    have listed := ((mem_fst_columnValues x p.1).mp (List.mem_map_of_mem hp)).1
    refine stands (c := .data p.1) (Table.data_mem_columns.mpr listed) ?_
    rw [get, carries.written p hp]
    rfl
  · intro hm value hv
    have read : (row.record (tableOf α)).get? "metadata" = none := by
      rw [get?_record_eq, Option.bind_eq_none_iff]
      intro c hc
      have name : c.name = Column.name (.data .metadata) := (Table.column?_eq_some_iff.mp hc).2
      rw [Column.name_injective name, get, carries.unwritten hm]
      rfl
    rw [← Record.get?_of_mem hv, read]
  · rw [get, Datum.text?, ← instant?, time]
    rfl

/-- **A row made of a typed record gives it again**, with the time of the row. -/
theorem ofRecord_ofFields {user : UserId}
    (time : (ofFields user (entryId x) (Shape.fields x) now).instant? = some t)
    (year : Rfc3339.FourDigits t) :
    ofRecord ((ofFields user (entryId x) (Shape.fields x) now).record (tableOf α)) =
      .ok (revised x (parts x).metadata ⟨some t, false⟩) := by
  have read := ofRecord_of_holds ((carries_ofFields user x now).holds time) year
  rwa [Instant.toMicros_of_ofMicros? time] at read

/-- What is read of a changed row is what was read of it before, with the fields written over it,
apart from the time. -/
theorem overwrites_changed (row : StoredRow) (x : α) (now : Int) :
    Record.Overwrites (Shape.fields x)
      ({ row with updatedAt := max now (row.updatedAt + 1) }.record (tableOf α))
      ((row.changed (Shape.fields x) now).record (tableOf α)) where
  written e he := by
    obtain ⟨p, hp, rfl⟩ := List.mem_map.mp ((entries_fields x).mem_iff.mp he)
    have listed := ((mem_fst_columnValues x p.1).mp (List.mem_map_of_mem hp)).1
    change (StoredRow.record _ _).get? (Column.name (.data p.1)) = some p.2
    rw [get?_record _ (Table.data_mem_columns.mpr listed)]
    simp only [get, changed, Fields.get?_of_mem he, Option.some_or, Datum.text?]
  kept column absent := by
    rw [get?_record_eq, get?_record_eq]
    cases hc : (tableOf α).column? column with
    | none => rfl
    | some c =>
      obtain ⟨-, rfl⟩ := Table.column?_eq_some_iff.mp hc
      cases c with
      | convention c => cases c <;> rfl
      | data c =>
        have unwritten : (Shape.fields x).get? c.name = none := Fields.get?_eq_none absent
        simp only [Option.bind_some, get, changed, unwritten, Option.none_or]

/-- **A row changed by a typed record gives it again**, with the metadata that the row had if the
typed record has none. -/
theorem ofRecord_changed (carries : row.Carries y) (same : entryId y = entryId x)
    (time : (row.changed (Shape.fields x) now).instant? = some t) (year : Rfc3339.FourDigits t) :
    ofRecord ((row.changed (Shape.fields x) now).record (tableOf α)) =
      .ok (revised x ((parts x).metadata.or (parts y).metadata) ⟨some t, row.deleted⟩) := by
  have before : { row with updatedAt := max now (row.updatedAt + 1) }.Carries y :=
    ⟨carries.id, carries.written, carries.unwritten⟩
  have read := ofRecord_of_overwrites (before.holds time) same year (overwrites_changed row x now)
  rwa [Instant.toMicros_of_ofMicros? time] at read

end StoredRow
end RecordSync
