import RecordSync.Proofs.Results
import RecordSync.Table

/-!
# Field keys and columns

A field key is accepted exactly when it is, character for character, the name of a data column of
the table, and fields are accepted exactly when all their keys are. No data column goes by the name
of a convention column, in any letter case, so the test for reserved names never refuses one. Fields
that are not accepted are refused for the first of the other keys, in the order of their bytes.

Key definitions: `Table.columns`, `Table.Refuses`, `Fields.FirstUnlisted`.
Key theorems: `Table.column_eq_ok_iff`, `Table.column_eq_error_iff`, `Table.resolve_eq_ok_iff`,
`Table.resolve_eq_error_iff`, `Table.nodup_columns`.
-/
namespace RecordSync

/-- No two values of fields stand under one key. -/
theorem Fields.nodup_names (fields : Fields) : fields.names.Nodup := by
  unfold names
  rw [List.nodup_iff_pairwise_ne, List.pairwise_map]
  refine fields.sorted.imp fun {a b} hlt heq => ?_
  rw [heq] at hlt
  exact List.lt_irrefl _ hlt

theorem DataColumn.name_injective {a b : DataColumn} (h : a.name = b.name) : a = b := by
  cases a <;> cases b <;> first | rfl | simp [DataColumn.name] at h

theorem ConventionColumn.name_injective {a b : ConventionColumn} (h : a.name = b.name) : a = b := by
  cases a <;> cases b <;> first | rfl | simp [ConventionColumn.name] at h

theorem ConventionColumn.mem_all (c : ConventionColumn) : c ∈ ConventionColumn.all := by
  cases c <;> decide

/-- No data column is reserved, in any letter case. -/
theorem ConventionColumn.sameLetters_name (c : DataColumn) (d : ConventionColumn) :
    Text.sameLetters d.name c.name = false := by
  cases c <;> cases d <;> decide

theorem DataColumn.name_ne_name (c : DataColumn) (d : ConventionColumn) : c.name ≠ d.name := by
  intro h
  have hs := ConventionColumn.sameLetters_name c d
  rw [h, Text.sameLetters_self] at hs
  cases hs

theorem Column.name_injective {a b : Column} (h : a.name = b.name) : a = b := by
  cases a with
  | convention a =>
    cases b with
    | convention b => rw [ConventionColumn.name_injective h]
    | data b => exact absurd h.symm (DataColumn.name_ne_name b a)
  | data a =>
    cases b with
    | convention b => exact absurd h (DataColumn.name_ne_name a b)
    | data b => rw [DataColumn.name_injective h]

/-- Different columns go by different names. -/
theorem Column.nodup_names {cs : List Column} (h : cs.Nodup) : (cs.map Column.name).Nodup := by
  rw [List.nodup_iff_pairwise_ne] at *
  rw [List.pairwise_map]
  exact h.imp fun {a b} hne heq => hne (Column.name_injective heq)

/-- Different data columns are different columns, and none of them is a convention column. -/
theorem Column.nodup_append_data {conventions : List ConventionColumn} {cs : List DataColumn}
    (hc : conventions.Nodup) (h : cs.Nodup) :
    (conventions.map Column.convention ++ cs.map Column.data).Nodup := by
  rw [List.nodup_append]
  refine ⟨?_, ?_, ?_⟩
  · rw [List.nodup_iff_pairwise_ne] at *
    exact List.pairwise_map.mpr (hc.imp fun hne heq => hne (Column.convention.inj heq))
  · rw [List.nodup_iff_pairwise_ne] at *
    exact List.pairwise_map.mpr (h.imp fun hne heq => hne (Column.data.inj heq))
  · intro a ha b hb hab
    obtain ⟨c, -, rfl⟩ := List.mem_map.mp ha
    obtain ⟨d, -, rfl⟩ := List.mem_map.mp hb
    cases hab

namespace Table

/-- The columns of the table, in the order in which it was made. -/
def columns (t : Table) : List Column :=
  [.convention .id, .convention .userId] ++ t.dataColumns.map .data ++
    [.convention .updatedAt, .convention .deleted]

theorem nodup_columns (t : Table) : t.columns.Nodup := by cases t <;> decide

theorem convention_mem_columns (t : Table) (c : ConventionColumn) : .convention c ∈ t.columns := by
  cases c <;> simp [columns]

theorem data_mem_columns {t : Table} {c : DataColumn} :
    .data c ∈ t.columns ↔ c ∈ t.dataColumns := by
  simp [columns]

/-- A key is accepted for the data column that it names. -/
theorem column_eq_ok_iff {t : Table} {key : String} {c : DataColumn} :
    t.column key = .ok c ↔ c ∈ t.dataColumns ∧ c.name = key := by
  have unreserved (d : DataColumn) (hd : d.name = key) :
      (ConventionColumn.all.find? fun e => Text.sameLetters e.name key) = none := by
    rw [List.find?_eq_none]
    intro e _
    simp [← hd, ConventionColumn.sameLetters_name d e]
  constructor
  · intro h
    unfold column at h
    split at h
    · cases h
    · split at h
      · rename_i d hd
        obtain rfl : d = c := by simpa using h
        exact ⟨List.mem_of_find?_eq_some hd, by simpa using List.find?_some hd⟩
      · cases h
  · rintro ⟨hc, hk⟩
    have found : t.dataColumns.find? (fun d => d.name == key) = some c := by
      cases hf : t.dataColumns.find? (fun d => d.name == key) with
      | none => exact absurd (beq_iff_eq.mpr hk) (List.find?_eq_none.mp hf c hc)
      | some d =>
        have hd : d.name = key := by simpa using List.find?_some hf
        rw [DataColumn.name_injective (hd.trans hk.symm)]
    simp only [column, unreserved c hk, found]

theorem resolveEntries_eq_mapM (t : Table) (es : List (String × String)) :
    t.resolveEntries es = es.mapM fun e => (t.column e.1).map fun c => (c, e.2) := by
  induction es with
  | nil => rfl
  | cons e es ih =>
    rw [resolveEntries, List.mapM_cons, ih]
    cases t.column e.1 <;> rfl

/-- Entries are accepted as columns of the table that their keys name, in order. -/
theorem resolveEntries_eq_ok_iff {t : Table} {es : List (String × String)}
    {values : List (DataColumn × String)} : t.resolveEntries es = .ok values ↔
      (values.map fun v => (v.1.name, v.2)) = es ∧ ∀ v ∈ values, v.1 ∈ t.dataColumns := by
  have one (e : String × String) (v : DataColumn × String) :
      (t.column e.1).map (fun c => (c, e.2)) = .ok v ↔
        v.1 ∈ t.dataColumns ∧ (v.1.name, v.2) = e := by
    rw [map_eq_ok_iff]
    simp only [column_eq_ok_iff]
    constructor
    · rintro ⟨c, ⟨listed, name⟩, rfl⟩
      exact ⟨listed, Prod.ext name rfl⟩
    · rintro ⟨listed, rfl⟩
      exact ⟨v.1, ⟨listed, rfl⟩, rfl⟩
  rw [resolveEntries_eq_mapM, mapM_eq_ok_iff]
  simp only [one]
  rw [and_comm, ← List.forall₂_eq_eq_eq, List.forall₂_map_left_iff, ← List.forall₂_and_left]
  exact ⟨fun h => .flip h, fun h => .flip h⟩

/-- Fields are accepted exactly when their keys name data columns of the table; each column then has
the value that stands under its name. -/
theorem resolve_eq_ok_iff {t : Table} {fields : Fields} {values : List (DataColumn × String)} :
    t.resolve fields = .ok values ↔
      (values.map fun v => (v.1.name, v.2)) = fields.entries ∧ ∀ v ∈ values, v.1 ∈ t.dataColumns :=
  resolveEntries_eq_ok_iff

/-- The columns of accepted fields are distinct. -/
theorem nodup_of_resolve {t : Table} {fields : Fields} {values : List (DataColumn × String)}
    (h : t.resolve fields = .ok values) : (values.map Prod.fst).Nodup := by
  have keys := fields.nodup_names
  rw [Fields.names, ← (resolve_eq_ok_iff.mp h).1, List.map_map] at keys
  refine List.Nodup.of_map DataColumn.name ?_
  rwa [List.map_map]

/-- A key that names no data column keeps fields from being accepted. -/
theorem resolve_ne_ok {t : Table} {fields : Fields} {key : String} (hk : key ∈ fields.names)
    (hn : key ∉ t.dataColumns.map DataColumn.name) (values : List (DataColumn × String)) :
    t.resolve fields ≠ .ok values := by
  intro h
  obtain ⟨hes, hv⟩ := resolve_eq_ok_iff.mp h
  rw [Fields.names, ← hes, List.map_map] at hk
  obtain ⟨v, hvm, rfl⟩ := List.mem_map.mp hk
  exact hn (List.mem_map.mpr ⟨v.1, hv v hvm, rfl⟩)

end Table

/-! ### Refused keys -/

theorem ConventionColumn.lower_name (c : ConventionColumn) : Text.lower c.name = c.name := by
  cases c <;> decide

/-- Why a table refuses a key: it is the name of a convention column, in any letter case, or it is
no name of a column. -/
inductive Table.Refuses (t : Table) (key : String) : ValidationError → Prop
  | reserved {c : ConventionColumn} (name : Text.lower key = c.name) :
    Refuses t key (.reservedColumn c.name)
  | unknown (free : ∀ c : ConventionColumn, Text.lower key ≠ c.name)
    (unlisted : key ∉ t.dataColumns.map DataColumn.name) :
    Refuses t key (.unknownColumn t.name key)

/-- A key of the fields that names no data column, and comes before all others that name none. -/
structure Fields.FirstUnlisted (fields : Fields) (t : Table) (key : String) : Prop where
  mem : key ∈ fields.names
  unlisted : key ∉ t.dataColumns.map DataColumn.name
  least : ∀ other ∈ fields.names, other ∉ t.dataColumns.map DataColumn.name →
    Text.bytes key ≤ Text.bytes other

namespace Table

variable {t : Table} {key : String} {e : ValidationError}

theorem exists_column_iff : (∃ c, t.column key = .ok c) ↔
    key ∈ t.dataColumns.map DataColumn.name := by
  simp only [column_eq_ok_iff, List.mem_map]

theorem Refuses.unlisted (h : t.Refuses key e) : key ∉ t.dataColumns.map DataColumn.name := by
  cases h with
  | reserved name =>
    rename_i c
    intro hm
    obtain ⟨d, -, rfl⟩ := List.mem_map.mp hm
    have hs := ConventionColumn.sameLetters_name d c
    rw [Bool.eq_false_iff, ne_eq, Text.sameLetters_iff, c.lower_name] at hs
    exact hs name.symm
  | unknown _ unlisted => exact unlisted

/-- A key that is not accepted is refused for one reason. -/
theorem column_eq_error_iff : t.column key = .error e ↔ t.Refuses key e := by
  have same (c : ConventionColumn) :
      Text.sameLetters c.name key = true ↔ Text.lower key = c.name := by
    rw [Text.sameLetters_iff, c.lower_name, eq_comm]
  constructor
  · intro h
    unfold column at h
    split at h
    · rename_i c hc
      cases h
      have found := List.find?_some hc
      exact .reserved ((same c).mp found)
    · rename_i hc
      have free (c : ConventionColumn) : Text.lower key ≠ c.name := fun hl =>
        List.find?_eq_none.mp hc c c.mem_all ((same c).mpr hl)
      split at h
      · cases h
      · rename_i hd
        cases h
        refine .unknown free fun hm => ?_
        obtain ⟨d, hd', rfl⟩ := List.mem_map.mp hm
        exact List.find?_eq_none.mp hd d hd' (beq_self_eq_true _)
  · intro h
    unfold column
    cases h with
    | @reserved c name =>
      cases hf : ConventionColumn.all.find? fun d => Text.sameLetters d.name key with
      | none => exact absurd ((same c).mpr name) (List.find?_eq_none.mp hf c c.mem_all)
      | some d =>
        have found := List.find?_some hf
        rw [ConventionColumn.name_injective (((same d).mp found).symm.trans name)]
    | unknown free unlisted =>
      have none_reserved :
          (ConventionColumn.all.find? fun d => Text.sameLetters d.name key) = none :=
        List.find?_eq_none.mpr fun d _ hd => free d ((same d).mp hd)
      have none_named : (t.dataColumns.find? fun d => d.name == key) = none :=
        List.find?_eq_none.mpr fun d hd hn =>
          unlisted (List.mem_map.mpr ⟨d, hd, beq_iff_eq.mp hn⟩)
      simp only [none_reserved, none_named]

/-- Entries in the order of their keys are refused for the first key that is not accepted. -/
theorem resolveEntries_eq_error_iff {es : List (String × String)}
    (sorted : es.Pairwise fun a b => Text.bytes a.1 < Text.bytes b.1) :
    t.resolveEntries es = .error e ↔ ∃ key, (key ∈ es.map Prod.fst ∧
      key ∉ t.dataColumns.map DataColumn.name ∧ ∀ other ∈ es.map Prod.fst,
        other ∉ t.dataColumns.map DataColumn.name → Text.bytes key ≤ Text.bytes other) ∧
      t.Refuses key e := by
  have accepted (x : String × String) :
      (∃ v, (t.column x.1).map (fun c => (c, x.2)) = .ok v) ↔
        x.1 ∈ t.dataColumns.map DataColumn.name := by
    rw [← exists_column_iff]
    simp only [map_eq_ok_iff]
    exact ⟨fun ⟨_, c, hc, _⟩ => ⟨c, hc⟩, fun ⟨c, hc⟩ => ⟨_, c, hc, rfl⟩⟩
  rw [resolveEntries_eq_mapM, mapM_eq_error_iff]
  unfold Stops
  simp only [accepted, map_eq_error_iff, column_eq_error_iff]
  constructor
  · rintro ⟨left, x, right, rfl, good, refuses⟩
    obtain ⟨-, behind, -⟩ := List.pairwise_append.mp sorted
    refine ⟨x.1, ⟨?_, refuses.unlisted, ?_⟩, refuses⟩
    · exact List.mem_map_of_mem (List.mem_append_right left List.mem_cons_self)
    · intro other hm unlisted
      obtain ⟨y, hy, rfl⟩ := List.mem_map.mp hm
      rcases List.mem_append.mp hy with hy | hy
      · exact absurd (good y hy) unlisted
      · rcases List.mem_cons.mp hy with rfl | hy
        · exact List.le_refl _
        · exact List.le_of_lt ((List.pairwise_cons.mp behind).1 y hy)
  · rintro ⟨key, ⟨hm, -, least⟩, refuses⟩
    obtain ⟨x, hx, rfl⟩ := List.mem_map.mp hm
    obtain ⟨left, right, rfl⟩ := List.append_of_mem hx
    refine ⟨left, x, right, rfl, fun y hy => ?_, refuses⟩
    by_contra unlisted
    have le := least y.1 (List.mem_map_of_mem (List.mem_append_left _ hy)) unlisted
    have lt := (List.pairwise_append.mp sorted).2.2 y hy x List.mem_cons_self
    exact absurd lt (List.not_lt.mpr le)

/-- Fields are refused exactly for the first key that names no data column of the table. -/
theorem resolve_eq_error_iff {fields : Fields} : t.resolve fields = .error e ↔
    ∃ key, fields.FirstUnlisted t key ∧ t.Refuses key e := by
  rw [resolve, resolveEntries_eq_error_iff fields.sorted]
  refine exists_congr fun key => and_congr_left fun _ => ?_
  exact ⟨fun h => ⟨h.1, h.2.1, h.2.2⟩, fun h => ⟨h.mem, h.unlisted, h.least⟩⟩

end Table
end RecordSync
