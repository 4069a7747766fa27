import RecordSync.Proofs.Decoding
import RecordSync.Proofs.Collecting

/-!
# A typed record is read from the columns that it declares

What a typed record is read from can be told by the columns with text alone, wherever they stand:
the id and the data columns of its table give its texts, and beside them metadata, `updated_at` and
`deleted` give what may be missing. The four shapes name their columns each for itself, and each is
told here with its own columns, which are those of its table. That there is a typed record, which
column is missing first if there is none, and that no other column matters, is the same for all of
them.

Key definitions: `Record.HasText`, `Shape.Beside`, `Shape.declared`.
Key theorems: `Shape.ofRecord_eq_ok_iff_hasText`, `Shape.ofRecord_congr`,
`Shape.reads_declared_columns`.
-/
namespace RecordSync

namespace Record

variable {r r' : Record} {column s : String} {names : List String}

/-- A text stands under the column. -/
def HasText (r : Record) (column s : String) : Prop := (column, some s) ∈ r.entries

instance : Decidable (r.HasText column s) := inferInstanceAs (Decidable (_ ∈ _))

theorem hasText_iff : r.HasText column s ↔ r.get? column = some s := by
  rw [get?_eq_some_iff, HasText, mem_entries_iff]

/-- Only a column that is not there, or with NULL, has no text. -/
theorem not_exists_hasText_iff :
    (¬∃ s, r.HasText column s) ↔ column ∉ r.columns ∨ (column, none) ∈ r.entries := by
  unfold HasText
  simp only [mem_entries_iff]
  rw [← lookup?_eq_none_iff]
  cases r.lookup? column with
  | none => simp
  | some v => cases v <;> simp

/-- Two records that have the same of some columns, in any order, have the same texts there. -/
theorem get?_eq_of_perm
    (h : (r.entries.filter (·.1 ∈ names)).Perm (r'.entries.filter (·.1 ∈ names)))
    (hc : column ∈ names) : r.get? column = r'.get? column := by
  apply Option.ext
  intro s
  rw [← hasText_iff, ← hasText_iff, HasText, HasText]
  have same := h.mem_iff (a := (column, some s))
  simpa only [List.mem_filter, decide_eq_true_eq, hc, and_true] using same

end Record

namespace Shape

variable {α : Type} [Shape α] {x : α} {t : Table} {r r' : Record} {e : StoreError}

/-- What stands beside the texts that a typed record must have: metadata if there is a text, a time
if one can be read of the text, and the mark of deletion for one text only. -/
structure Beside (r : Record) (metadata : Option String) (sync : SyncMark) : Prop where
  metadata : ∀ m, metadata = some m ↔ r.HasText "metadata" m
  updatedAt : ∀ time, sync.updatedAt = some time ↔
    ∃ s, r.HasText "updated_at" s ∧ Rfc3339.read? s = some time
  deleted : sync.deleted = true ↔ r.HasText "deleted" "true"

/-- The columns that a typed record of a table is read from. -/
def declared (t : Table) : List String :=
  "id" :: t.dataColumns.map DataColumn.name ++ ["updated_at", "deleted"]

theorem beside_iff {metadata : Option String} {sync : SyncMark} : Beside r metadata sync ↔
    metadata = r.get? "metadata" ∧ sync = SyncMark.ofRecord r := by
  have text (column s : String) : r.HasText column s ↔ r.get? column = some s := Record.hasText_iff
  have time (moment : Instant) : r.updatedAt? = some moment ↔
      ∃ s, r.HasText "updated_at" s ∧ Rfc3339.read? s = some moment := by
    simp only [text]
    exact Option.bind_eq_some_iff
  have marked : r.isDeleted = true ↔ r.HasText "deleted" "true" := by
    rw [text]
    exact beq_iff_eq
  constructor
  · intro h
    refine ⟨Option.ext fun m => ?_, ?_⟩
    · rw [h.metadata, text]
    · obtain ⟨updatedAt, deleted⟩ := sync
      have when_written : updatedAt = r.updatedAt? := Option.ext fun moment => by
        rw [h.updatedAt, time]
      have mark : deleted = r.isDeleted := Bool.eq_iff_iff.mpr (by rw [h.deleted, marked])
      rw [when_written, mark, SyncMark.ofRecord]
  · rintro ⟨rfl, rfl⟩
    exact ⟨fun m => (text _ m).symm, time, marked⟩

/-- A record gives a typed record exactly when its texts stand under the columns that are looked at,
one under each, with the rest beside them. -/
theorem ofRecord_eq_ok_iff_hasText : ofRecord r = .ok x ↔
    List.Forall₂ r.HasText (lookedAt (tableOf α)) ((parts x).id :: (parts x).values) ∧
      Beside r (parts x).metadata (parts x).sync := by
  rw [ofRecord_eq_ok_iff, beside_iff, lookedAt, List.forall₂_cons, List.forall₂_map_left_iff]
  simp only [Record.hasText_iff]
  exact ⟨fun h => ⟨⟨h.id, h.values⟩, h.metadata, h.sync⟩,
    fun h => ⟨h.1.1, h.1.2, h.2.1, h.2.2⟩⟩

theorem lacks_iff_hasText : Lacks t r e ↔ ∃ left c right, lookedAt t = left ++ c :: right ∧
    (∀ d ∈ left, ∃ s, r.HasText d s) ∧ (¬∃ s, r.HasText c s) ∧
      e = .schemaMismatch t.name ("column '" ++ c ++ "' is missing or null") := by
  unfold Lacks
  simp only [Record.hasText_iff, Option.eq_none_iff_forall_ne_some, ne_eq, not_exists]

/-- There is a typed record unless a column that is looked at has no text. -/
theorem exists_ofRecord_iff : (∃ x : α, ofRecord r = .ok x) ↔
    ∀ c ∈ lookedAt (tableOf α), ∃ s, r.HasText c s := by
  constructor
  · rintro ⟨x, h⟩ c hc
    obtain ⟨texts, -⟩ := ofRecord_eq_ok_iff_hasText.mp h
    obtain ⟨i, hi, rfl⟩ := List.getElem_of_mem hc
    exact ⟨_, texts.get hi (texts.length_eq ▸ hi)⟩
  · intro all
    cases h : (ofRecord r : Except StoreError α) with
    | ok x => exact ⟨x, rfl⟩
    | error e =>
      obtain ⟨left, c, right, split, -, lacking, -⟩ :=
        lacks_iff_hasText.mp (ofRecord_eq_error_iff.mp h)
      have there : c ∈ lookedAt (tableOf α) := by simp [split]
      exact absurd (all c there) lacking

/-! ### No other column matters -/

theorem requiredText_congr {c : String} (h : r.get? c = r'.get? c) :
    t.requiredText r c = t.requiredText r' c := by
  unfold Table.requiredText
  rw [h]

theorem partsOf_congr (h : ∀ c ∈ declared t, r.get? c = r'.get? c) :
    t.partsOf r = t.partsOf r' := by
  have data (c : DataColumn) (hc : c ∈ t.dataColumns) : r.get? c.name = r'.get? c.name := by
    apply h
    unfold declared
    simp only [List.cons_append, List.mem_cons, List.mem_append, List.mem_map]
    exact .inr (.inl ⟨c, hc, rfl⟩)
  have id : r.get? ConventionColumn.id.name = r'.get? ConventionColumn.id.name :=
    h _ List.mem_cons_self
  have values : (t.requiredColumns.map DataColumn.name).mapM (t.requiredText r) =
      (t.requiredColumns.map DataColumn.name).mapM (t.requiredText r') := by
    refine mapM_congr fun name hn => requiredText_congr ?_
    obtain ⟨c, hc, rfl⟩ := List.mem_map.mp hn
    exact data c (List.mem_of_mem_filter hc)
  have metadata : r.get? DataColumn.metadata.name = r'.get? DataColumn.metadata.name :=
    data _ (by cases t <;> decide)
  have sync : SyncMark.ofRecord r = SyncMark.ofRecord r' := by
    unfold SyncMark.ofRecord Record.updatedAt? Record.isDeleted
    rw [h "updated_at" (by simp [declared]), h "deleted" (by simp [declared])]
  unfold Table.partsOf
  rw [requiredText_congr id, values, metadata, sync]

/-- Two records with the same declared columns, in any order, give the same, whatever else they
have. -/
theorem ofRecord_congr
    (h : (r.entries.filter (·.1 ∈ declared (tableOf α))).Perm
      (r'.entries.filter (·.1 ∈ declared (tableOf α)))) :
    (ofRecord r : Except StoreError α) = ofRecord r' := by
  have same : (tableOf α).partsOf r = (tableOf α).partsOf r' :=
    partsOf_congr fun c hc => Record.get?_eq_of_perm h hc
  cases given : (ofRecord r' : Except StoreError α) with
  | ok x => rw [ofRecord_eq_ok_iff_partsOf, same, ofRecord_eq_ok_iff_partsOf.mp given]
  | error e => rw [ofRecord_eq_error_iff_partsOf, same, ofRecord_eq_error_iff_partsOf.mp given]

/-- **A typed record is read from the columns that it declares.** Each of the four shapes has the
texts of its own columns, unchanged, with metadata, the time of the last write and the mark of
deletion beside them, where metadata or a time that is missing, NULL or not readable is no failure.
For every shape there is a typed record exactly when the id and each required data column have a
text; else the failure names the first that is missing or NULL, the id before the data columns in
their declared order. Nothing changes with the order of the columns, or with columns that are not
declared. -/
theorem reads_declared_columns (r : Record) :
    ((∀ x : Credential, ofRecord r = .ok x ↔ r.HasText "id" x.id ∧ r.HasText "login" x.login ∧
        r.HasText "password" x.password ∧ Beside r x.metadata x.sync) ∧
      (∀ x : TextNote, ofRecord r = .ok x ↔ r.HasText "id" x.id ∧ r.HasText "data" x.data ∧
        Beside r x.metadata x.sync) ∧
      (∀ x : BinaryBlob, ofRecord r = .ok x ↔ r.HasText "id" x.id ∧ r.HasText "data" x.data ∧
        Beside r x.metadata x.sync) ∧
      ∀ x : Card, ofRecord r = .ok x ↔ r.HasText "id" x.id ∧ r.HasText "number" x.number ∧
        r.HasText "holder" x.holder ∧ r.HasText "expiry" x.expiry ∧ r.HasText "cvv" x.cvv ∧
        Beside r x.metadata x.sync) ∧
    (lookedAt (tableOf Credential) = ["id", "login", "password"] ∧
      lookedAt (tableOf TextNote) = ["id", "data"] ∧
      lookedAt (tableOf BinaryBlob) = ["id", "data"] ∧
      lookedAt (tableOf Card) = ["id", "number", "holder", "expiry", "cvv"]) ∧
    (∀ c, (¬∃ s, r.HasText c s) ↔ c ∉ r.columns ∨ (c, none) ∈ r.entries) ∧
    ∀ (α : Type) [Shape α],
      ((∃ x : α, ofRecord r = .ok x) ↔ ∀ c ∈ lookedAt (tableOf α), ∃ s, r.HasText c s) ∧
      (∀ e, (ofRecord r : Except StoreError α) = .error e ↔
        ∃ left c right, lookedAt (tableOf α) = left ++ c :: right ∧
          (∀ d ∈ left, ∃ s, r.HasText d s) ∧ (¬∃ s, r.HasText c s) ∧
          e = .schemaMismatch (tableOf α).name ("column '" ++ c ++ "' is missing or null")) ∧
      ∀ r' : Record, (r.entries.filter (·.1 ∈ declared (tableOf α))).Perm
        (r'.entries.filter (·.1 ∈ declared (tableOf α))) →
        (ofRecord r : Except StoreError α) = ofRecord r' := by
  refine ⟨⟨fun x => ?_, fun x => ?_, fun x => ?_, fun x => ?_⟩, ⟨rfl, rfl, rfl, rfl⟩,
    fun c => Record.not_exists_hasText_iff, fun α _ =>
    ⟨exists_ofRecord_iff, fun e => ofRecord_eq_error_iff.trans lacks_iff_hasText,
      fun r' h => ofRecord_congr h⟩⟩
  · rw [ofRecord_eq_ok_iff_hasText]
    show List.Forall₂ r.HasText ["id", "login", "password"] [x.id, x.login, x.password] ∧
      Beside r x.metadata x.sync ↔ _
    simp only [List.forall₂_cons, List.Forall₂.nil, and_true, and_assoc]
  · rw [ofRecord_eq_ok_iff_hasText]
    show List.Forall₂ r.HasText ["id", "data"] [x.id, x.data] ∧ Beside r x.metadata x.sync ↔ _
    simp only [List.forall₂_cons, List.Forall₂.nil, and_true, and_assoc]
  · rw [ofRecord_eq_ok_iff_hasText]
    show List.Forall₂ r.HasText ["id", "data"] [x.id, x.data] ∧ Beside r x.metadata x.sync ↔ _
    simp only [List.forall₂_cons, List.Forall₂.nil, and_true, and_assoc]
  · rw [ofRecord_eq_ok_iff_hasText]
    show List.Forall₂ r.HasText ["id", "number", "holder", "expiry", "cvv"]
      [x.id, x.number, x.holder, x.expiry, x.cvv] ∧ Beside r x.metadata x.sync ↔ _
    simp only [List.forall₂_cons, List.Forall₂.nil, and_true, and_assoc]

/-- A note with a time that cannot be read and a mark that is not `true`, whose columns stand in two
orders, once with a column that no note has; and a card with NULL under one column and without two
others. -/
theorem reads_declared_columns_of_other_order :
    let note := Record.ofList [("id", some "n1"), ("data", some ""), ("metadata", none),
      ("updated_at", some "yesterday"), ("deleted", some "TRUE")]
    let other := Record.ofList [("deleted", some "TRUE"), ("color", some "red"), ("data", some ""),
      ("updated_at", some "yesterday"), ("metadata", none), ("id", some "n1")]
    let card := Record.ofList [("cvv", some "123"), ("holder", none), ("number", some "4111"),
      ("id", some "c1")]
    (ofRecord note = .ok ({ id := "n1" } : TextNote) ∧
      (ofRecord note : Except StoreError TextNote) = ofRecord other) ∧
    (ofRecord card : Except StoreError Card) =
      .error (.schemaMismatch "CardData" "column 'holder' is missing or null") := by
  intro note other card
  obtain ⟨⟨-, notes, -⟩, -, -, alike⟩ := reads_declared_columns note
  obtain ⟨-, -, empty, shapes⟩ := reads_declared_columns card
  have given : ∀ d ∈ ["id", "number"], ∃ s, card.HasText d s := by
    intro d hd
    simp only [List.mem_cons, List.not_mem_nil, or_false] at hd
    rcases hd with rfl | rfl
    · exact ⟨"c1", by decide⟩
    · exact ⟨"4111", by decide⟩
  refine ⟨⟨?_, (alike TextNote).2.2 other (by decide)⟩, ?_⟩
  · exact (notes { id := "n1" }).mpr ⟨by decide, by decide, beside_iff.mpr ⟨by decide, by decide⟩⟩
  · exact ((shapes Card).2.1 _).mpr ⟨["id", "number"], "holder", ["expiry", "cvv"], rfl, given,
      (empty "holder").mpr (.inr (by decide)), rfl⟩

end Shape
end RecordSync
