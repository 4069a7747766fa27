import RecordSync.Proofs.Json.Reading
import RecordSync.Proofs.Json.Writing
import RecordSync.Proofs.Records
import RecordSync.Proofs.Tasks

/-!
# Records as JSON

A record is written as an object with a member for each column, in order: null for NULL, and for a
text a string of the same text. A list of records is printed as an array of them, spread over lines.
Both are JSON, and stand for nothing else; so they can be told apart from any other record or list
of records.

Key definitions: `Record.shown`.
Key theorems: `Record.shown_injective`, `Cli.runListRecords_eq_ok_iff`, `Record.json_is_faithful`.
-/
namespace RecordSync
namespace Record

/-- The object that a record is shown as: its columns in order, with NULL as null. -/
def shown (r : Record) : Json :=
  .obj (r.entries.map fun e => (e.1, match e.2 with
    | some s => .str s
    | none => .null))

theorem toJson_eq_shown (r : Record) : r.toJson = r.shown :=
  rfl

theorem proper_valueJson (value : Option String) : (valueJson value).Proper := by
  cases value with
  | none => exact .null
  | some s => exact .str s

theorem proper_shown (r : Record) : r.shown.Proper := by
  rw [← toJson_eq_shown]
  refine .obj fun m hm => ?_
  obtain ⟨e, -, rfl⟩ := List.mem_map.mp hm
  exact proper_valueJson e.2

theorem shown_injective : Function.Injective shown := by
  intro r r' h
  have members := Json.obj.inj h
  refine ext (List.map_injective_iff.mpr ?_ members)
  rintro ⟨name, value⟩ ⟨name', value'⟩ same
  obtain ⟨rfl, values⟩ := Prod.mk.inj same
  cases value <;> cases value' <;> simp_all

end Record

namespace Cli

/-- What listing records prints is the list of the records that were read. -/
theorem runListRecords_eq_ok_iff {t : Table} {name out : String} {since : Option Instant}
    {includeDeleted json : Bool} {s s' : Session} :
    (runListRecords t name since includeDeleted json).run.run s = (.ok (.ok out), s') ↔
      ∃ user s₁ rs, (Accounts.userId {} name).run s = (.ok user, s₁) ∧
        (Engine.readAll {} t user since includeDeleted).run s₁ = (.ok rs, s') ∧
        out = recordList json rs := by
  unfold runListRecords resolveUser
  simp only [run_bind_eq_ok_iff, run_attempt_eq_ok_iff]
  constructor
  · rintro ⟨user, s₁, found, rs, s₂, read, given⟩
    obtain ⟨printed, rfl⟩ := Prod.mk.inj given
    exact ⟨user, s₁, rs, found, read, (Except.ok.inj (Except.ok.inj printed)).symm⟩
  · rintro ⟨user, s₁, rs, found, read, rfl⟩
    exact ⟨user, s₁, found, rs, s', read, rfl⟩

/-- The records as an array, with the line end after it, are JSON. -/
theorem document_recordList (rs : List Record) :
    Json.Document (.arr (rs.map Record.shown)) (recordList true rs) := by
  have proper : (Json.arr (rs.map Record.shown)).Proper := by
    refine .arr fun x hx => ?_
    obtain ⟨r, -, rfl⟩ := List.mem_map.mp hx
    exact r.proper_shown
  have lineEnd : Json.Blank ['\n'] := List.forall_mem_singleton.mpr rfl
  have shown : rs.map Record.toJson = rs.map Record.shown :=
    List.map_congr_left fun r _ => r.toJson_eq_shown
  have h := proper.document_pretty lineEnd
  rw [← shown] at h ⊢
  exact h

theorem recordList_injective : Function.Injective (recordList true) := by
  intro rs rs' h
  have same := (document_recordList rs).unique (h ▸ document_recordList rs')
  exact List.map_injective_iff.mpr Record.shown_injective (Json.arr.inj same)

end Cli

namespace Record

theorem document_compact (r : Record) : Json.Document r.shown r.toJson.compact := by
  rw [toJson_eq_shown]
  exact r.proper_shown.document_compact

/-- **The JSON of records is faithful.** The text of a record, and the text that a listing prints,
are JSON of one value only: the object of the record, or the array of the objects of the records in
order. A reader of JSON gives that value. Different records have different texts, and so have
different lists of records. -/
theorem json_is_faithful :
    (∀ (r : Record) (v : Json), Json.Document v r.toJson.compact ↔ v = r.shown) ∧
    (∀ r : Record, Json.parse? r.toJson.compact = some r.shown) ∧
    (Function.Injective fun r : Record => r.toJson.compact) ∧
    (∀ (rs : List Record) (v : Json),
      Json.Document v (Cli.recordList true rs) ↔ v = .arr (rs.map shown)) ∧
    (∀ rs : List Record, Json.parse? (Cli.recordList true rs) = some (.arr (rs.map shown))) ∧
    Function.Injective (Cli.recordList true) ∧
    ∀ t name since includeDeleted s s' out,
      (Cli.runListRecords t name since includeDeleted true).run.run s = (.ok (.ok out), s') ↔
        ∃ user s₁ rs, (Accounts.userId {} name).run s = (.ok user, s₁) ∧
          (Engine.readAll {} t user since includeDeleted).run s₁ = (.ok rs, s') ∧
          out = Cli.recordList true rs := by
  refine ⟨fun r v => ⟨fun h => h.unique r.document_compact, ?_⟩, fun r => r.document_compact.parse?,
    fun r r' h => ?_, fun rs v => ⟨fun h => h.unique (Cli.document_recordList rs), ?_⟩,
    fun rs => (Cli.document_recordList rs).parse?, Cli.recordList_injective,
    fun t name since includeDeleted s s' out => Cli.runListRecords_eq_ok_iff⟩
  · rintro rfl
    exact r.document_compact
  · have texts : r.toJson.compact = r'.toJson.compact := h
    exact shown_injective (r.document_compact.unique (texts ▸ r'.document_compact))
  · rintro rfl
    exact Cli.document_recordList rs

/-- A column with NULL and one with an empty text, in lists of one record each. -/
theorem json_is_faithful_of_empty_texts :
    let null : Record := ⟨[("a\x22\x00", none)], by decide⟩
    let text : Record := ⟨[("a\x22\x00", some "")], by decide⟩
    Cli.recordList true [null] ≠ Cli.recordList true [text] ∧
      Json.parse? (Cli.recordList true [text]) =
        some (.arr [.obj [("a\x22\x00", .str "")]]) := by
  intro null text
  obtain ⟨-, -, -, -, read, injective, -⟩ := json_is_faithful
  refine ⟨fun h => ?_, read [text]⟩
  have same : null = text := List.singleton_inj.mp (injective h)
  cases congrArg entries same

end Record
end RecordSync
