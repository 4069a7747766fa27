import RecordSync.Proofs.Reads
import RecordSync.Proofs.Records
import RecordSync.Proofs.Values

/-!
# Replies are decoded whole or not at all

A reply is gone through three times, always from the front and always up to the first failure: the
columns of a row, the rows of the reply, and for typed records the records again. Each of the three
is a list of which each element has to give something (`mapM_eq_ok_iff`, `mapM_eq_error_iff`).

What a column gives does not depend on where it stands; only its failure names the position. The
type is looked at before the value, so a NULL of an unknown type fails too; the bytes of a value
show a text or are refused as their kind has it (`ColumnKind.Shows`, `ColumnKind.Refuses`). Of
several columns with one name the record has the last.

Key definitions: `Field.Reads`, `Field.Fails`, `Row.Decodes`, `Row.Fails`, `Row.FirstFailure`,
`Shape.Views`, `Shape.FirstLacking`, `Reader.Delivered`.
Key theorems: `Row.toRecord_eq_ok_iff`, `Row.toRecords_eq_error_iff`, `Shape.ofRecord_eq_ok_iff`,
`Reader.all_decoded_or_first_failure`.
-/
namespace RecordSync

/-! ### Columns -/

/-- The types whose values are read as a kind. -/
def ColumnKind.typeNames : ColumnKind → List String
  | .bool => ["BOOL"]
  | .int2 => ["INT2"]
  | .int4 => ["INT4"]
  | .int8 => ["INT8"]
  | .text => ["TEXT", "VARCHAR", "BPCHAR", "NAME", "CITEXT"]
  | .instant => ["TIMESTAMPTZ", "TIMESTAMP"]
  | .uuid => ["UUID"]

theorem ColumnKind.ofTypeName?_eq_some_iff {s : String} {kind : ColumnKind} :
    ofTypeName? s = some kind ↔ s ∈ kind.typeNames := by
  constructor
  · intro h
    unfold ofTypeName? at h
    split_ifs at h with h₁ h₂ h₃ h₄ h₅ h₆ h₇ <;> obtain rfl := Option.some.inj h <;>
      simp_all [typeNames]
  · intro h
    cases kind <;> simp only [typeNames, List.mem_cons, List.not_mem_nil, or_false] at h <;>
      rcases h with rfl | rfl | rfl | rfl | rfl <;> decide

namespace Field

/-- What a column gives: no text for NULL, and for a value the text of its kind. -/
inductive Reads (f : Field) : Option String → Prop
  | null {kind : ColumnKind} (known : f.column.typeName ∈ kind.typeNames) (null : f.cell = none) :
    Reads f none
  | value {kind : ColumnKind} {bs : List UInt8} {s : String}
    (known : f.column.typeName ∈ kind.typeNames) (value : f.cell = some bs)
    (text : kind.Shows bs s) : Reads f (some s)

/-- Why a column at a position gives nothing. -/
inductive Fails (f : Field) (index : Nat) : StoreError → Prop
  /-- The type is not known, whatever the value. -/
  | unsupported (unknown : ∀ kind : ColumnKind, f.column.typeName ∉ kind.typeNames) :
    Fails f index (.unsupportedDatatype f.column.name f.column.typeName)
  | undecodable {kind : ColumnKind} {bs : List UInt8} {fault : Wire.Fault}
    (known : f.column.typeName ∈ kind.typeNames) (value : f.cell = some bs)
    (faulty : kind.Refuses bs fault) : Fails f index
      (.ioFailure "decode row" (.columnDecode (Decimal.writeNat index) fault.text))

variable {f : Field} {index : Nat} {s : Option String} {e : StoreError}

theorem fieldText_eq_ok_iff : Row.fieldText index f = .ok s ↔ f.Reads s := by
  unfold Row.fieldText
  constructor
  · intro h
    cases hk : ColumnKind.ofTypeName? f.column.typeName with
    | none => simp [hk] at h
    | some kind =>
      have known := ColumnKind.ofTypeName?_eq_some_iff.mp hk
      cases hc : f.cell with
      | none =>
        obtain rfl : none = s := by simpa [hk, hc] using h
        exact .null known hc
      | some bs =>
        cases ht : Row.textOf kind bs with
        | error fault => simp [hk, hc, ht] at h
        | ok text =>
          obtain rfl : some text = s := by simpa [hk, hc, ht] using h
          exact .value known hc (Row.textOf_eq_ok_iff.mp ht)
  · intro h
    cases h with
    | null known null => rw [ColumnKind.ofTypeName?_eq_some_iff.mpr known, null]
    | value known value text =>
      simp only [ColumnKind.ofTypeName?_eq_some_iff.mpr known, value,
        Row.textOf_eq_ok_iff.mpr text]

theorem fieldText_eq_error_iff : Row.fieldText index f = .error e ↔ f.Fails index e := by
  unfold Row.fieldText
  constructor
  · intro h
    cases hk : ColumnKind.ofTypeName? f.column.typeName with
    | none =>
      have unknown (kind : ColumnKind) : f.column.typeName ∉ kind.typeNames := fun hm => by
        rw [ColumnKind.ofTypeName?_eq_some_iff.mpr hm] at hk
        cases hk
      obtain rfl : .unsupportedDatatype f.column.name f.column.typeName = e := by
        simpa [hk] using h
      exact .unsupported unknown
    | some kind =>
      have known := ColumnKind.ofTypeName?_eq_some_iff.mp hk
      cases hc : f.cell with
      | none => simp [hk, hc] at h
      | some bs =>
        cases ht : Row.textOf kind bs with
        | ok text => simp [hk, hc, ht] at h
        | error fault =>
          simp only [hk, hc, ht, Except.error.injEq] at h
          exact h ▸ .undecodable known hc (Row.textOf_eq_error_iff.mp ht)
  · intro h
    cases h with
    | unsupported unknown =>
      have none_known : ColumnKind.ofTypeName? f.column.typeName = none :=
        Option.eq_none_iff_forall_ne_some.mpr fun kind hk =>
          unknown kind (ColumnKind.ofTypeName?_eq_some_iff.mp hk)
      rw [none_known]
    | undecodable known value faulty =>
      simp only [ColumnKind.ofTypeName?_eq_some_iff.mpr known, value,
        Row.textOf_eq_error_iff.mpr faulty]
      rfl

theorem Reads.eq_none_iff (reads : f.Reads s) : s = none ↔ f.cell = none := by
  cases reads with
  | null known null => simp [null]
  | value known value text => simp [value]

theorem Reads.unique {s' : Option String} (h : f.Reads s) (h' : f.Reads s') : s = s' := by
  have first : Row.fieldText 0 f = .ok s := fieldText_eq_ok_iff.mpr h
  rw [fieldText_eq_ok_iff.mpr h'] at first
  exact (Except.ok.inj first).symm

theorem Fails.unread (h : f.Fails index e) (s : Option String) : ¬f.Reads s := by
  intro reads
  have failed : Row.fieldText index f = .error e := fieldText_eq_error_iff.mpr h
  rw [fieldText_eq_ok_iff.mpr reads] at failed
  cases failed

end Field

/-! ### Rows -/

namespace Row

variable {row : Row} {rows : List Row} {r : Record} {name : String} {e : StoreError}

theorem textsFrom_eq_mapM (index : Nat) (row : Row) : textsFrom index row =
    (row.zipIdx index).mapM fun p => (fieldText p.2 p.1).map fun s => (p.1.column.name, s) := by
  induction row generalizing index with
  | nil => rfl
  | cons f fs ih =>
    rw [textsFrom, List.zipIdx_cons, List.mapM_cons, ih]
    cases fieldText index f <;> rfl

theorem toRecords_eq_mapM (rows : List Row) : toRecords rows = rows.mapM toRecord := by
  induction rows with
  | nil => rfl
  | cons row rows ih => rw [toRecords, List.mapM_cons, ih]; rfl

/-- The last column of a name. -/
def Last (row : Row) (name : String) (f : Field) : Prop :=
  ∃ left right, row = left ++ f :: right ∧ f.column.name = name ∧
    ∀ g ∈ right, g.column.name ≠ name

/-- The record of a row: every column is read, the columns stand where they first came, and each has
what is read of the last one of its name. -/
structure Decodes (row : Row) (r : Record) : Prop where
  reads : ∀ f ∈ row, ∃ s, f.Reads s
  columns : r.columns = (row.map fun f => f.column.name).eraseDups
  values : ∀ name f, row.Last name f → ∃ s, f.Reads s ∧ r.lookup? name = some s

/-- A column fails, and those before it are read. -/
def Fails (row : Row) (e : StoreError) : Prop :=
  ∃ left f right, row = left ++ f :: right ∧ (∀ g ∈ left, ∃ s, g.Reads s) ∧
    f.Fails left.length e

theorem Fails.exists_unread (h : row.Fails e) : ∃ f ∈ row, ∀ s, ¬f.Reads s := by
  obtain ⟨left, f, right, rfl, -, bad⟩ := h
  exact ⟨f, List.mem_append_right _ List.mem_cons_self, bad.unread⟩

/-! ### What is read of a row -/

theorem textOf_named_iff {q : Field × Nat} {p : String × Option String} :
    (fieldText q.2 q.1).map (fun s => (q.1.column.name, s)) = .ok p ↔
      p.1 = q.1.column.name ∧ q.1.Reads p.2 := by
  have text (s : Option String) : fieldText q.2 q.1 = .ok s ↔ q.1.Reads s :=
    Field.fieldText_eq_ok_iff
  rw [← text]
  obtain ⟨name, s⟩ := p
  cases fieldText q.2 q.1 <;> simp [Except.map, eq_comm]

theorem textsFrom_eq_ok_iff {index : Nat} {pairs : List (String × Option String)} :
    textsFrom index row = .ok pairs ↔
      List.Forall₂ (fun f p => p.1 = f.column.name ∧ f.Reads p.2) row pairs := by
  rw [textsFrom_eq_mapM, mapM_eq_ok_iff]
  simp only [textOf_named_iff]
  conv_rhs => rw [← List.zipIdx_map_fst index row, List.forall₂_map_left_iff]

/-- The columns before a position are all read if each gives its text at its own position. -/
theorem forall_zipIdx_reads_iff {left : Row} {index : Nat} :
    (∀ q ∈ left.zipIdx index,
      ∃ p, (fieldText q.2 q.1).map (fun s => (q.1.column.name, s)) = .ok p) ↔
    ∀ f ∈ left, ∃ s, f.Reads s := by
  conv_rhs => rw [← List.zipIdx_map_fst index left, List.forall_mem_map]
  simp only [textOf_named_iff, Prod.exists, exists_and_left, exists_eq_left]

theorem textsFrom_eq_error_iff : textsFrom 0 row = .error e ↔ row.Fails e := by
  have one (q : Field × Nat) : (fieldText q.2 q.1).map (fun s => (q.1.column.name, s)) = .error e ↔
      q.1.Fails q.2 e := by
    rw [← Field.fieldText_eq_error_iff]
    cases fieldText q.2 q.1 <;> simp [Except.map]
  rw [textsFrom_eq_mapM, mapM_eq_error_iff]
  unfold Stops Fails
  simp only [one]
  constructor
  · rintro ⟨left, q, right, split, good, bad⟩
    obtain ⟨before, after, rfl, rfl, rest⟩ := List.zipIdx_eq_append_iff.mp split
    obtain ⟨f, fs, rfl, rfl, rfl⟩ := List.zipIdx_eq_cons_iff.mp rest.symm
    rw [Nat.zero_add] at bad
    exact ⟨before, f, fs, rfl, forall_zipIdx_reads_iff.mp good, bad⟩
  · rintro ⟨left, f, right, rfl, good, bad⟩
    refine ⟨left.zipIdx, (f, left.length), right.zipIdx (left.length + 1), ?_,
      forall_zipIdx_reads_iff.mpr good, bad⟩
    rw [List.zipIdx_append, List.zipIdx_cons, Nat.zero_add]

theorem names_of_reads {pairs : List (String × Option String)}
    (reads : List.Forall₂ (fun f p => p.1 = f.column.name ∧ f.Reads p.2) row pairs) :
    pairs.map Prod.fst = row.map fun f => f.column.name := by
  induction reads with
  | nil => rfl
  | cons h _ ih => rw [List.map_cons, List.map_cons, h.1, ih]

theorem exists_last {name : String} (h : name ∈ row.map fun f => f.column.name) :
    ∃ f, row.Last name f := by
  induction row with
  | nil => cases h
  | cons f fs ih =>
    by_cases later : name ∈ fs.map fun f => f.column.name
    · obtain ⟨g, left, right, rfl, same, last⟩ := ih later
      exact ⟨g, f :: left, right, rfl, same, last⟩
    · rw [List.map_cons, List.mem_cons] at h
      refine ⟨f, [], fs, rfl, (h.resolve_right later).symm, fun g hg same => later ?_⟩
      exact List.mem_map.mpr ⟨g, hg, same⟩

theorem lookup?_of_last {pairs : List (String × Option String)} {f : Field}
    (reads : List.Forall₂ (fun f p => p.1 = f.column.name ∧ f.Reads p.2) row pairs)
    (last : row.Last name f) : ∃ s, f.Reads s ∧ (Record.ofList pairs).lookup? name = some s := by
  obtain ⟨left, right, rfl, rfl, later⟩ := last
  induction left generalizing pairs with
  | nil =>
    obtain ⟨p, ps, ⟨same, read⟩, rest, rfl⟩ := List.forall₂_cons_left_iff.mp reads
    have absent : (Record.ofList ps).lookup? f.column.name = none := by
      rw [Record.lookup?_eq_none_iff, Record.columns_ofList, List.mem_eraseDups,
        names_of_reads rest]
      rintro hm
      obtain ⟨g, hg, same⟩ := List.mem_map.mp hm
      exact later g hg same
    refine ⟨p.2, read, ?_⟩
    rw [Record.lookup?_ofList_cons, absent, if_pos same]
    rfl
  | cons g left ih =>
    obtain ⟨p, ps, -, rest, rfl⟩ := List.forall₂_cons_left_iff.mp reads
    obtain ⟨s, read, found⟩ := ih rest
    exact ⟨s, read, by rw [Record.lookup?_ofList_cons, found, Option.some_or]⟩

theorem decodes_ofList {pairs : List (String × Option String)}
    (reads : List.Forall₂ (fun f p => p.1 = f.column.name ∧ f.Reads p.2) row pairs) :
    row.Decodes (Record.ofList pairs) where
  reads f hf := by
    induction reads with
    | nil => cases hf
    | @cons g p _ _ h _ ih =>
      rcases List.mem_cons.mp hf with rfl | hf
      · exact ⟨p.2, h.2⟩
      · exact ih hf
  columns := by rw [Record.columns_ofList, names_of_reads reads]
  values name f last := lookup?_of_last reads last

end Row

namespace Row

variable {row : Row} {rows : List Row} {r r' : Record} {name : String} {e : StoreError}

namespace Decodes

theorem exists_last (h : row.Decodes r) (hc : name ∈ r.columns) :
    ∃ f s, row.Last name f ∧ f.Reads s ∧ r.lookup? name = some s := by
  rw [h.columns, List.mem_eraseDups] at hc
  obtain ⟨f, last⟩ := Row.exists_last hc
  obtain ⟨s, reads, found⟩ := h.values name f last
  exact ⟨f, s, last, reads, found⟩

theorem unique (h : row.Decodes r) (h' : row.Decodes r') : r = r' := by
  refine Record.eq_of_lookup? (h.columns.trans h'.columns.symm) fun name hc => ?_
  obtain ⟨f, s, last, reads, found⟩ := h.exists_last hc
  obtain ⟨s', reads', found'⟩ := h'.values name f last
  rw [found, found', reads.unique reads']

/-- A column stands in the record as the last one of its name in the row. -/
theorem lookup?_eq_some_iff (h : row.Decodes r) {s : Option String} :
    r.lookup? name = some s ↔ ∃ f, row.Last name f ∧ f.Reads s := by
  constructor
  · intro found
    have hc : name ∈ r.columns := by
      by_contra absent
      rw [Record.lookup?_eq_none_iff.mpr absent] at found
      cases found
    obtain ⟨f, s', last, reads, found'⟩ := h.exists_last hc
    rw [found] at found'
    exact ⟨f, last, Option.some.inj found' ▸ reads⟩
  · rintro ⟨f, last, reads⟩
    obtain ⟨s', reads', found⟩ := h.values name f last
    rw [found, reads.unique reads']

theorem isNull_iff (h : row.Decodes r) :
    r.isNull name = true ↔ ∃ f, row.Last name f ∧ f.cell = none := by
  rw [Record.isNull, beq_iff_eq, h.lookup?_eq_some_iff]
  constructor
  · rintro ⟨f, last, reads⟩
    exact ⟨f, last, reads.eq_none_iff.mp rfl⟩
  · rintro ⟨f, last, null⟩
    obtain ⟨s, reads, -⟩ := h.values name f last
    exact ⟨f, last, reads.eq_none_iff.mpr null ▸ reads⟩

theorem get?_eq_some_iff (h : row.Decodes r) {s : String} :
    r.get? name = some s ↔ ∃ f, row.Last name f ∧ f.Reads (some s) := by
  rw [Record.get?, Option.join_eq_some_iff, h.lookup?_eq_some_iff]

end Decodes

theorem toRecord_eq_ok_iff : toRecord row = .ok r ↔ row.Decodes r := by
  unfold toRecord
  cases ht : textsFrom 0 row with
  | ok pairs =>
    have decodes := decodes_ofList (textsFrom_eq_ok_iff.mp ht)
    constructor
    · intro h
      exact Except.ok.inj h ▸ decodes
    · intro h
      rw [Except.map, decodes.unique h]
  | error e =>
    simp only [Except.map, reduceCtorEq, false_iff]
    intro h
    obtain ⟨f, hf, unread⟩ := (textsFrom_eq_error_iff.mp ht).exists_unread
    obtain ⟨s, reads⟩ := h.reads f hf
    exact unread s reads

theorem toRecord_eq_error_iff : toRecord row = .error e ↔ row.Fails e := by
  rw [← textsFrom_eq_error_iff]
  unfold toRecord
  cases textsFrom 0 row <;> simp [Except.map]

/-- A row has a record exactly when each of its columns is read. -/
theorem exists_decodes_iff : (∃ r, row.Decodes r) ↔ ∀ f ∈ row, ∃ s, f.Reads s := by
  constructor
  · rintro ⟨r, h⟩
    exact h.reads
  · intro h
    cases hr : toRecord row with
    | ok r => exact ⟨r, toRecord_eq_ok_iff.mp hr⟩
    | error e =>
      obtain ⟨f, hf, unread⟩ := (toRecord_eq_error_iff.mp hr).exists_unread
      obtain ⟨s, reads⟩ := h f hf
      exact absurd reads (unread s)

/-- A row fails, and those before it have their records. -/
def FirstFailure (rows : List Row) (e : StoreError) : Prop :=
  ∃ left row right, rows = left ++ row :: right ∧ (∀ row' ∈ left, ∃ r, row'.Decodes r) ∧
    row.Fails e

theorem toRecords_eq_ok_iff {rs : List Record} :
    toRecords rows = .ok rs ↔ List.Forall₂ Row.Decodes rows rs := by
  simp only [toRecords_eq_mapM, mapM_eq_ok_iff, toRecord_eq_ok_iff]

theorem toRecords_eq_error_iff : toRecords rows = .error e ↔ FirstFailure rows e := by
  rw [toRecords_eq_mapM, mapM_eq_error_iff]
  simp only [Stops, FirstFailure, toRecord_eq_ok_iff, toRecord_eq_error_iff]

/-- Rows have their records exactly when each column of each row is read. -/
theorem exists_forall₂_decodes_iff : (∃ rs, List.Forall₂ Row.Decodes rows rs) ↔
    ∀ row ∈ rows, ∀ f ∈ row, ∃ s, f.Reads s := by
  simp only [← exists_decodes_iff]
  induction rows with
  | nil => simp
  | cons row rows ih =>
    rw [List.forall_mem_cons, ← ih]
    constructor
    · rintro ⟨rs, h⟩
      obtain ⟨r, rest, decodes, more, -⟩ := List.forall₂_cons_left_iff.mp h
      exact ⟨⟨r, decodes⟩, rest, more⟩
    · rintro ⟨⟨r, decodes⟩, rest, more⟩
      exact ⟨r :: rest, .cons decodes more⟩

end Row

/-! ### Typed records -/

namespace Shape

variable {α : Type} [Shape α] {x : α} {t : Table} {r : Record} {rs : List Record} {e : StoreError}

/-- The typed record of a record: a text stands under the id and under each required column. -/
structure Views (r : Record) (x : α) : Prop where
  id : r.get? "id" = some (entryId x)
  values : List.Forall₂ (fun c s => r.get? c.name = some s) (tableOf α).requiredColumns
    (parts x).values
  metadata : (parts x).metadata = r.get? "metadata"
  sync : (parts x).sync = SyncMark.ofRecord r

/-- The columns whose text a typed record must have, in the order in which they are looked at. -/
def lookedAt (t : Table) : List String := "id" :: t.requiredColumns.map DataColumn.name

/-- A required column has no text, and those before it have one. -/
def Lacks (t : Table) (r : Record) (e : StoreError) : Prop :=
  ∃ left c right, lookedAt t = left ++ c :: right ∧ (∀ c' ∈ left, ∃ s, r.get? c' = some s) ∧
    r.get? c = none ∧ e = .schemaMismatch t.name ("column '" ++ c ++ "' is missing or null")

theorem requiredText_eq_ok_iff {c s : String} :
    t.requiredText r c = .ok s ↔ r.get? c = some s := by
  unfold Table.requiredText
  cases r.get? c <;> simp

theorem requiredText_eq_error_iff {c : String} : t.requiredText r c = .error e ↔ r.get? c = none ∧
    e = .schemaMismatch t.name ("column '" ++ c ++ "' is missing or null") := by
  unfold Table.requiredText
  cases r.get? c <;> simp [eq_comm]

/-- A record has parts exactly when a text stands under each column that is looked at. -/
theorem partsOf_eq_ok_iff {p : Parts} : t.partsOf r = .ok p ↔
    r.get? "id" = some p.id ∧
    List.Forall₂ (fun c s => r.get? c.name = some s) t.requiredColumns p.values ∧
    p.metadata = r.get? "metadata" ∧ p.sync = SyncMark.ofRecord r := by
  have texts (ss : List String) :
      (t.requiredColumns.map DataColumn.name).mapM (t.requiredText r) = .ok ss ↔
        List.Forall₂ (fun c s => r.get? c.name = some s) t.requiredColumns ss := by
    rw [mapM_eq_ok_iff, List.forall₂_map_left_iff]
    simp only [requiredText_eq_ok_iff]
  rw [← requiredText_eq_ok_iff (t := t), ← texts]
  obtain ⟨id, values, metadata, sync⟩ := p
  unfold Table.partsOf
  simp only [ConventionColumn.name, DataColumn.name]
  cases t.requiredText r "id" with
  | error e => simp [bind, Except.bind]
  | ok id' =>
    cases (t.requiredColumns.map DataColumn.name).mapM (t.requiredText r) with
    | error e => simp [bind, Except.bind]
    | ok ss =>
      simp only [bind, Except.bind, pure, Except.pure, Except.ok.injEq, Parts.mk.injEq]
      grind

theorem partsOf_eq_error_iff : t.partsOf r = .error e ↔ Lacks t r e := by
  have stops : (lookedAt t).mapM (t.requiredText r) = .error e ↔ Lacks t r e := by
    rw [mapM_eq_error_iff]
    simp only [Stops, Lacks, requiredText_eq_ok_iff, requiredText_eq_error_iff]
  rw [← stops, lookedAt, List.mapM_cons]
  unfold Table.partsOf
  rw [show ConventionColumn.id.name = "id" from rfl]
  cases t.requiredText r "id" with
  | error e => simp [bind, Except.bind]
  | ok id =>
    cases (t.requiredColumns.map DataColumn.name).mapM (t.requiredText r) <;>
      simp [bind, Except.bind, pure, Except.pure]

theorem ofRecord_eq_ok_iff : ofRecord r = .ok x ↔ Views r x := by
  rw [ofRecord_eq_ok_iff_partsOf, partsOf_eq_ok_iff]
  exact ⟨fun h => ⟨h.1, h.2.1, h.2.2.1, h.2.2.2⟩, fun h => ⟨h.id, h.values, h.metadata, h.sync⟩⟩

theorem ofRecord_eq_error_iff :
    (ofRecord r : Except StoreError α) = .error e ↔ Lacks (tableOf α) r e := by
  rw [ofRecord_eq_error_iff_partsOf, partsOf_eq_error_iff]

/-- A record lacks a required column, and those before it have their typed records. -/
def FirstLacking (α : Type) [Shape α] (rs : List Record) (e : StoreError) : Prop :=
  ∃ left r right, rs = left ++ r :: right ∧ (∀ r' ∈ left, ∃ x : α, Views r' x) ∧
    Lacks (tableOf α) r e

theorem shapesOf_eq_mapM (rs : List Record) :
    (Engine.shapesOf rs : Except StoreError (List α)) = rs.mapM ofRecord := by
  induction rs with
  | nil => rfl
  | cons r rs ih => rw [Engine.shapesOf, List.mapM_cons, ih]; rfl

theorem shapesOf_eq_ok_iff {xs : List α} :
    Engine.shapesOf rs = .ok xs ↔ List.Forall₂ Views rs xs := by
  simp only [shapesOf_eq_mapM, mapM_eq_ok_iff, ofRecord_eq_ok_iff]

theorem shapesOf_eq_error_iff :
    (Engine.shapesOf rs : Except StoreError (List α)) = .error e ↔ FirstLacking α rs e := by
  rw [shapesOf_eq_mapM, mapM_eq_error_iff]
  simp only [Stops, FirstLacking, ofRecord_eq_ok_iff, ofRecord_eq_error_iff]

end Shape

/-! ### What a read gives -/

namespace Reader

open Session

variable {β : Type} {r : Reader β} {l : Limits} {s : Session} {rows : List Row}

/-- The rows that a read is answered with, after the catalog has listed columns that conform. -/
def Delivered (r : Reader β) (l : Limits) (s : Session) (rows : List Row) : Prop :=
  ∃ names after answer after', Listed l s names after ∧ Catalog.Conforms names ∧
    l.ended after = none ∧ Heard l (r.askedColumns s after) answer after' ∧ rowsOf answer = rows

/-- A read gives what it makes of the rows that it is answered with. -/
theorem run_of_delivered (delivered : r.Delivered l s rows) (user : UserId)
    (since : Option Instant) (includeDeleted : Bool) :
    ((r.call l user since includeDeleted).run s).1 = (r.decode rows).mapError Halt.failed := by
  obtain ⟨names, after, answer, after', listed, conforms, live, heard, rfl⟩ := delivered
  rw [run_of_comes listed conforms live heard.comes]
  rfl

theorem mapError_eq_error_iff {γ : Type} {x : Except StoreError γ} {h : Halt} :
    x.mapError Halt.failed = .error h ↔ ∃ e, h = .failed e ∧ x = .error e := by
  cases x <;> simp [Except.mapError, eq_comm]

theorem mapError_eq_ok_iff {γ : Type} {x : Except StoreError γ} {y : γ} :
    x.mapError Halt.failed = .ok y ↔ x = .ok y := by
  cases x <;> simp [Except.mapError]

theorem decode_shapes_eq_ok_iff {α : Type} [Shape α] {xs : List α} :
    (shapes α).decode rows = .ok xs ↔
      ∃ rs, List.Forall₂ Row.Decodes rows rs ∧ List.Forall₂ Shape.Views rs xs := by
  simp only [decode, ← Row.toRecords_eq_ok_iff, ← Shape.shapesOf_eq_ok_iff]
  cases Row.toRecords rows <;> simp [Except.bind]

/-- Typed records are only made once all rows have their records. -/
theorem decode_shapes_eq_error_iff {α : Type} [Shape α] {e : StoreError} :
    (shapes α).decode rows = .error e ↔ Row.FirstFailure rows e ∨
      ∃ rs, List.Forall₂ Row.Decodes rows rs ∧ Shape.FirstLacking α rs e := by
  simp only [decode, ← Row.toRecords_eq_ok_iff, ← Row.toRecords_eq_error_iff,
    ← Shape.shapesOf_eq_error_iff]
  cases Row.toRecords rows <;> simp [Except.bind]

/-- **All rows or the first failure.** A read gives records exactly when every column of every row
has a known type and a value that is read, and then one for each row, in order: with the columns
where they first came, NULL where the last column of the name has NULL, and a text only where it has
a value. Otherwise it gives the failure of the first column of the first row that has one, and
nothing else. A typed read goes through the records only after all rows have theirs; it gives a
typed record for each, or the failure of the first record that lacks a column, which names the first
such column. -/
theorem all_decoded_or_first_failure (l : Limits) (user : UserId) (since : Option Instant)
    (includeDeleted : Bool) (s : Session) (rows : List Row) :
    (∀ t, (records t).Delivered l s rows →
      let result := (((records t).call l user since includeDeleted).run s).1
      ((∃ rs, result = .ok rs) ↔ ∀ row ∈ rows, ∀ f ∈ row, ∃ text, f.Reads text) ∧
      (∀ rs, result = .ok rs ↔ List.Forall₂ Row.Decodes rows rs) ∧
      ∀ h, result = .error h ↔ ∃ e, h = .failed e ∧ Row.FirstFailure rows e) ∧
    (∀ row r, Row.Decodes row r →
      (∀ c, r.isNull c = true ↔ ∃ f, row.Last c f ∧ f.cell = none) ∧
      ∀ c text, r.get? c = some text ↔
        ∃ f, row.Last c f ∧ f.cell ≠ none ∧ f.Reads (some text)) ∧
    ∀ (α : Type) [Shape α], (shapes α).Delivered l s rows →
      let result := (((shapes α).call l user since includeDeleted).run s).1
      (∀ xs, result = .ok xs ↔
        ∃ rs, List.Forall₂ Row.Decodes rows rs ∧ List.Forall₂ Shape.Views rs xs) ∧
      ∀ h, result = .error h ↔ ∃ e, h = .failed e ∧ (Row.FirstFailure rows e ∨
        ∃ rs, List.Forall₂ Row.Decodes rows rs ∧ Shape.FirstLacking α rs e) := by
  refine ⟨fun t delivered => ?_, fun row r decodes => ⟨fun c => decodes.isNull_iff, ?_⟩,
    fun α _ delivered => ?_⟩
  · intro result
    have given : result = (Row.toRecords rows).mapError Halt.failed :=
      run_of_delivered delivered user since includeDeleted
    simp only [given, mapError_eq_ok_iff, mapError_eq_error_iff, Row.toRecords_eq_ok_iff,
      Row.toRecords_eq_error_iff, Row.exists_forall₂_decodes_iff, implies_true, and_self]
  · intro c text
    rw [decodes.get?_eq_some_iff]
    refine exists_congr fun f => and_congr_right fun _ => ⟨fun reads => ⟨?_, reads⟩, And.right⟩
    exact fun null => by cases reads.eq_none_iff.mpr null
  · intro result
    have given : result = ((shapes α).decode rows).mapError Halt.failed :=
      run_of_delivered delivered user since includeDeleted
    simp only [given, mapError_eq_ok_iff, mapError_eq_error_iff, decode_shapes_eq_ok_iff,
      decode_shapes_eq_error_iff, implies_true, and_self]

/-- Two columns of one name, of which the last one counts: an empty text and a NULL. The rows have
records, and the second record is no text note. With a column of an unknown type no row has a
record: the NULL of the first row fails before the second row's number is looked at. -/
theorem all_decoded_or_first_failure_of_texts :
    let user : UserId := ⟨7, by decide⟩
    let names := ["id", "user_id", "data", "updated_at", "deleted"]
    let catalog : Reply :=
      { answer := .rows [⟨"column_name", "TEXT"⟩] (names.map fun n => [some (Wire.textBytes n)]) }
    let s (answer : Answer) : Session :=
      { pool := { reachable := true }, replies := [catalog, { answer := answer }] }
    let twice : Answer := .rows [⟨"id", "TEXT"⟩, ⟨"data", "INT4"⟩, ⟨"data", "VARCHAR"⟩]
      [[some (Wire.textBytes "a"), none, some []],
        [some (Wire.textBytes "b"), some [0, 0, 0, 1], none]]
    let unknown : Answer := .rows [⟨"id", "TEXT"⟩, ⟨"extra", "JSONB"⟩, ⟨"data", "INT4"⟩]
      [[some (Wire.textBytes "a"), none, none], [some (Wire.textBytes "b"), none, some [1]]]
    (∃ first second, (((records .textData).call {} user none true).run (s twice)).1 =
        .ok [first, second] ∧
      first.columns = ["id", "data"] ∧ first.get? "data" = some "" ∧
      second.isNull "data" = true) ∧
    (((shapes TextNote).call {} user none true).run (s twice)).1 =
      .error (.failed (.schemaMismatch "TextData" "column 'data' is missing or null")) ∧
    (((records .textData).call {} user none true).run (s unknown)).1 =
      .error (.failed (.unsupportedDatatype "extra" "JSONB")) := by
  intro user names catalog s twice unknown
  have conforms : Catalog.Conforms names := Catalog.check_eq_ok_iff.mp (by decide)
  have delivered {β : Type} (r : Reader β) (answer : Answer)
      (notRefused : ∀ code message, answer ≠ .refused code message)
      (notDropped : answer ≠ .dropped) : r.Delivered {} (s answer) (rowsOf answer) :=
    ⟨names, 0, answer, 0, ⟨_, ⟨⟨rfl, rfl⟩, ⟨0, rfl, rfl, rfl⟩, rfl, nofun, nofun⟩, rfl⟩, conforms,
      rfl, ⟨⟨rfl, rfl⟩, ⟨0, rfl, rfl, rfl⟩, rfl, notRefused, notDropped⟩, rfl⟩
  obtain ⟨read, -, fetched⟩ :=
    all_decoded_or_first_failure {} user none true (s twice) (rowsOf twice)
  obtain ⟨refused, -⟩ :=
    all_decoded_or_first_failure {} user none true (s unknown) (rowsOf unknown)
  obtain ⟨-, given, -⟩ := read .textData (delivered _ twice nofun nofun)
  obtain ⟨-, lacking⟩ := fetched TextNote (delivered _ twice nofun nofun)
  obtain ⟨-, -, failing⟩ := refused .textData (delivered _ unknown nofun nofun)
  let first : Record := ⟨[("id", some "a"), ("data", some "")], by decide⟩
  let second : Record := ⟨[("id", some "b"), ("data", none)], by decide⟩
  have decoded : List.Forall₂ Row.Decodes (rowsOf twice) [first, second] :=
    Row.toRecords_eq_ok_iff.mp rfl
  refine ⟨⟨first, second, (given _).mpr decoded, rfl, rfl, rfl⟩, (lacking _).mpr ?_,
    (failing _).mpr ?_⟩
  · have note : Shape.Views first ({ id := "a", data := "" } : TextNote) :=
      Shape.ofRecord_eq_ok_iff.mp rfl
    refine ⟨_, rfl, .inr ⟨_, decoded, [first], second, [], rfl, ?_, ["id"], "data", [], rfl, ?_,
      rfl, rfl⟩⟩
    · exact List.forall_mem_singleton.mpr ⟨_, note⟩
    · exact List.forall_mem_singleton.mpr ⟨"b", rfl⟩
  · let id : Field := ⟨⟨"id", "TEXT"⟩, some (Wire.textBytes "a")⟩
    have known : "TEXT" ∈ ColumnKind.text.typeNames := by decide
    have reads : id.Reads (some "a") := .value known rfl rfl
    refine ⟨_, rfl, [], _, _, rfl, nofun, [id], _, _, rfl, ?_, .unsupported fun kind => ?_⟩
    · exact List.forall_mem_singleton.mpr ⟨_, reads⟩
    · cases kind <;> decide

end Reader
end RecordSync
