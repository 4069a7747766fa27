import RecordSync.Proofs.Columns

/-!
# Pairs that are collected as fields

Fields are collected from pairs of a key and a value, one pair after the other. They have each key
once, with the value that was given last for it, in the order of the keys' bytes; so only the order
of pairs under one key matters. A table accepts the pairs exactly when all keys are, character for
character, names of its data columns, and refuses them otherwise for the least of the other keys.

Key definitions: `Fields.LastGiven`.
Key theorems: `Fields.mem_ofList_iff`, `Fields.ofList_congr`, `Table.accepts_its_data_columns`.
-/
namespace RecordSync

namespace Fields

variable {fields fields' : Fields} {pairs pairs' : List (String × String)} {p : String × String}
  {key value : String}

/-! ### One pair more -/

theorem mem_insertEntry_iff {name new : String} {es : List (String × String)}
    (sorted : es.Pairwise fun a b => Text.bytes a.1 < Text.bytes b.1) :
    (key, value) ∈ insertEntry name new es ↔
      key = name ∧ value = new ∨ key ≠ name ∧ (key, value) ∈ es := by
  induction es with
  | nil => simp [insertEntry]
  | cons e es ih =>
    obtain ⟨below, rest⟩ := List.pairwise_cons.mp sorted
    rw [insertEntry]
    split_ifs with front same
    · -- The name comes before all others, so it was not there.
      have absent : (key, value) ∈ e :: es → key ≠ name := by
        rintro hm rfl
        rcases List.mem_cons.mp hm with rfl | hm
        · exact List.lt_irrefl _ front
        · exact List.lt_irrefl _ (List.lt_trans front (below _ hm))
      rw [List.mem_cons, Prod.mk.injEq]
      tauto
    · have absent : (key, value) ∈ es → key ≠ name := by
        rintro hm rfl
        have := below _ hm
        rw [← same] at this
        exact List.lt_irrefl _ this
      have there : (key, value) = e → key = name := by
        rintro rfl
        exact same.symm
      rw [List.mem_cons, List.mem_cons, Prod.mk.injEq]
      tauto
    · have apart : (key, value) = e → key ≠ name := by
        rintro rfl
        exact Ne.symm same
      rw [List.mem_cons, List.mem_cons, ih rest]
      tauto

theorem mem_insert_iff : (key, value) ∈ (fields.insert p.1 p.2).entries ↔
    p = (key, value) ∨ p.1 ≠ key ∧ (key, value) ∈ fields.entries := by
  rw [insert, mem_insertEntry_iff fields.sorted, ne_comm, Prod.ext_iff, eq_comm (a := key),
    eq_comm (a := value)]

theorem ofList_append_singleton (pairs : List (String × String)) (p : String × String) :
    ofList (pairs ++ [p]) = (ofList pairs).insert p.1 p.2 := by
  rw [ofList, List.foldl_append]
  rfl

/-! ### All pairs -/

/-- The value is given for the key, and none is given for it later. -/
def LastGiven (pairs : List (String × String)) (key value : String) : Prop :=
  ∃ left right, pairs = left ++ (key, value) :: right ∧ ∀ p ∈ right, p.1 ≠ key

theorem not_lastGiven_nil : ¬LastGiven [] key value := by
  rintro ⟨left, right, h, -⟩
  simp at h

theorem lastGiven_append_singleton : LastGiven (pairs ++ [p]) key value ↔
    p = (key, value) ∨ p.1 ≠ key ∧ LastGiven pairs key value := by
  constructor
  · rintro ⟨left, right, split, later⟩
    cases right using List.reverseRecOn with
    | nil => exact .inl (List.singleton_inj.mp (List.append_inj' split rfl).2)
    | append_singleton right q =>
      rw [← List.cons_append, ← List.append_assoc] at split
      obtain ⟨rfl, ⟨⟩⟩ := List.append_inj' split rfl
      refine .inr ⟨later p (List.mem_append_right right (List.mem_singleton_self p)), left, right,
        rfl, fun q hq => later q (List.mem_append_left [p] hq)⟩
  · rintro (rfl | ⟨apart, left, right, rfl, later⟩)
    · exact ⟨pairs, [], rfl, nofun⟩
    · refine ⟨left, right ++ [p], List.append_assoc left _ [p], fun q hq => ?_⟩
      rcases List.mem_append.mp hq with hq | hq
      · exact later q hq
      · exact List.mem_singleton.mp hq ▸ apart

/-- **Fields have the values that were given last.** -/
theorem mem_ofList_iff : (key, value) ∈ (ofList pairs).entries ↔ LastGiven pairs key value := by
  induction pairs using List.reverseRecOn with
  | nil => exact ⟨nofun, fun h => absurd h not_lastGiven_nil⟩
  | append_singleton pairs p ih =>
    rw [ofList_append_singleton, mem_insert_iff, lastGiven_append_singleton, ih]

theorem exists_lastGiven_iff : (∃ value, LastGiven pairs key value) ↔ key ∈ pairs.map Prod.fst := by
  induction pairs using List.reverseRecOn with
  | nil => exact ⟨fun ⟨_, h⟩ => absurd h not_lastGiven_nil, nofun⟩
  | append_singleton pairs p ih =>
    simp only [lastGiven_append_singleton, List.map_append, List.mem_append, ← ih]
    by_cases same : p.1 = key
    · simp [← same, Prod.ext_iff]
    · have apart (value : String) : p ≠ (key, value) := fun h => same (congrArg Prod.fst h)
      simp [same, Ne.symm same, apart]

theorem mem_names_ofList_iff : key ∈ (ofList pairs).names ↔ key ∈ pairs.map Prod.fst := by
  rw [← exists_lastGiven_iff, names, List.mem_map]
  simp only [← mem_ofList_iff, Prod.exists, exists_and_right, exists_eq_right]

/-- The pairs under a key decide what is given last for it. -/
theorem lastGiven_iff_getLast? :
    LastGiven pairs key value ↔ (pairs.filter (·.1 = key)).getLast? = some (key, value) := by
  induction pairs using List.reverseRecOn with
  | nil => exact ⟨fun h => absurd h not_lastGiven_nil, nofun⟩
  | append_singleton pairs p ih =>
    rw [lastGiven_append_singleton, List.filter_append]
    by_cases same : p.1 = key
    · simp [same]
    · have apart : p ≠ (key, value) := fun h => same (congrArg Prod.fst h)
      simp [same, apart, ih]

/-- Fields are known by their entries, in whatever order these are listed. -/
theorem eq_of_mem_iff (h : ∀ e, e ∈ fields.entries ↔ e ∈ fields'.entries) : fields = fields' := by
  have distinct (fields : Fields) : fields.entries.Nodup := fields.nodup_names.of_map Prod.fst
  have perm : fields.entries.Perm fields'.entries :=
    (List.perm_ext_iff_of_nodup (distinct fields) (distinct fields')).mpr h
  have same : fields.entries = fields'.entries :=
    perm.eq_of_pairwise (fun a b _ _ less more => absurd more (List.lt_asymm less))
      fields.sorted fields'.sorted
  cases fields
  cases fields'
  congr

/-- Only the order of pairs under one key matters. -/
theorem ofList_congr (h : ∀ key, pairs.filter (·.1 = key) = pairs'.filter (·.1 = key)) :
    ofList pairs = ofList pairs' := by
  refine eq_of_mem_iff fun ⟨key, value⟩ => ?_
  rw [mem_ofList_iff, mem_ofList_iff, lastGiven_iff_getLast?, lastGiven_iff_getLast?, h]

end Fields

/-! ### Accepted and refused pairs -/

/-- A data column is no convention column, in any letter case. -/
theorem DataColumn.lower_name_ne (c : DataColumn) (d : ConventionColumn) :
    Text.lower c.name ≠ d.name := by
  have apart := ConventionColumn.sameLetters_name c d
  rw [Bool.eq_false_iff, ne_eq, Text.sameLetters_iff, d.lower_name] at apart
  exact Ne.symm apart

namespace Table

open Fields

variable {t : Table} {pairs : List (String × String)}

/-- Pairs are accepted exactly when each key is the name of a data column. -/
theorem exists_resolve_iff : (∃ values, t.resolve (ofList pairs) = .ok values) ↔
    ∀ p ∈ pairs, ∃ c ∈ t.dataColumns, c.name = p.1 := by
  constructor
  · rintro ⟨values, accepted⟩ p hp
    have key : p.1 ∈ (ofList pairs).names := mem_names_ofList_iff.mpr (List.mem_map_of_mem hp)
    by_contra unlisted
    refine resolve_ne_ok key (fun listed => ?_) values accepted
    exact unlisted (List.mem_map.mp listed)
  · intro listed
    cases resolved : t.resolve (ofList pairs) with
    | ok values => exact ⟨values, rfl⟩
    | error e =>
      obtain ⟨key, first, -⟩ := resolve_eq_error_iff.mp resolved
      obtain ⟨p, hp, rfl⟩ := List.mem_map.mp (mem_names_ofList_iff.mp first.mem)
      exact absurd (List.mem_map.mpr (listed p hp)) first.unlisted

/-- Accepted pairs give each column once, in the order of the names, with its last value. -/
theorem values_of_resolve {values : List (DataColumn × String)}
    (accepted : t.resolve (ofList pairs) = .ok values) :
    (values.Pairwise fun a b => Text.bytes a.1.name < Text.bytes b.1.name) ∧
      ∀ c value, (c, value) ∈ values ↔ LastGiven pairs c.name value := by
  obtain ⟨entries, -⟩ := resolve_eq_ok_iff.mp accepted
  refine ⟨?_, fun c value => ?_⟩
  · have sorted := (ofList pairs).sorted
    rwa [← entries, List.pairwise_map] at sorted
  · rw [← mem_ofList_iff, ← entries, List.mem_map]
    constructor
    · exact fun h => ⟨(c, value), h, rfl⟩
    · rintro ⟨⟨c', value'⟩, h, same⟩
      obtain ⟨names, rfl⟩ := Prod.mk.inj same
      exact DataColumn.name_injective names ▸ h

theorem unlisted_iff {key : String} :
    key ∉ t.dataColumns.map DataColumn.name ↔ ∀ c ∈ t.dataColumns, c.name ≠ key := by
  simp

/-- A key that is no data column's name is refused as reserved or as unknown. -/
theorem refuses_iff {key : String} {e : ValidationError}
    (unlisted : ∀ c ∈ t.dataColumns, c.name ≠ key) : t.Refuses key e ↔
      (∃ c : ConventionColumn, Text.lower key = c.name ∧ e = .reservedColumn c.name) ∨
        (∀ c : ConventionColumn, Text.lower key ≠ c.name) ∧ e = .unknownColumn t.name key := by
  constructor
  · intro refuses
    cases refuses with
    | @reserved c name => exact .inl ⟨c, name, rfl⟩
    | unknown free => exact .inr ⟨free, rfl⟩
  · rintro (⟨c, name, rfl⟩ | ⟨free, rfl⟩)
    · exact .reserved name
    · exact .unknown free (unlisted_iff.mpr unlisted)

/-- Pairs are refused for the least key that is no data column's name. -/
theorem resolve_ofList_eq_error_iff {e : ValidationError} :
    t.resolve (ofList pairs) = .error e ↔ ∃ p ∈ pairs, (∀ c ∈ t.dataColumns, c.name ≠ p.1) ∧
      (∀ q ∈ pairs, (∀ c ∈ t.dataColumns, c.name ≠ q.1) → Text.bytes p.1 ≤ Text.bytes q.1) ∧
      t.Refuses p.1 e := by
  rw [resolve_eq_error_iff]
  constructor
  · rintro ⟨key, first, refuses⟩
    obtain ⟨p, hp, rfl⟩ := List.mem_map.mp (mem_names_ofList_iff.mp first.mem)
    refine ⟨p, hp, unlisted_iff.mp first.unlisted, fun q hq unlisted => ?_, refuses⟩
    exact first.least q.1 (mem_names_ofList_iff.mpr (List.mem_map_of_mem hq))
      (unlisted_iff.mpr unlisted)
  · rintro ⟨p, hp, unlisted, least, refuses⟩
    have key : p.1 ∈ (ofList pairs).names := mem_names_ofList_iff.mpr (List.mem_map_of_mem hp)
    refine ⟨p.1, ⟨key, unlisted_iff.mpr unlisted, fun other hm free => ?_⟩, refuses⟩
    obtain ⟨q, hq, rfl⟩ := List.mem_map.mp (mem_names_ofList_iff.mp hm)
    exact least q hq (unlisted_iff.mp free)

/-- **A table accepts its data columns and no other key.** Pairs of keys and values are accepted
exactly when each key is, character for character, the name of a data column of the table. Then each
of these columns is given once, with the value that was given last for it, in the order of the bytes
of their names; and no column is a convention column, in whatever case its letters are. Pairs that
are not accepted are refused for the least key that is no data column's name: if it is a convention
column's name but for the case of ASCII letters, with that name, and else with the key as it was
given. Pairs in another order make no difference as long as the pairs under each key keep theirs. -/
theorem accepts_its_data_columns (t : Table) (pairs : List (String × String)) :
    ((∃ values, t.resolve (ofList pairs) = .ok values) ↔
      ∀ p ∈ pairs, ∃ c ∈ t.dataColumns, c.name = p.1) ∧
    (∀ values, t.resolve (ofList pairs) = .ok values →
      (values.Pairwise fun a b => Text.bytes a.1.name < Text.bytes b.1.name) ∧
      (∀ c value, (c, value) ∈ values ↔ LastGiven pairs c.name value) ∧
      ∀ v ∈ values, ∀ c : ConventionColumn, Text.lower v.1.name ≠ c.name) ∧
    (∀ e, t.resolve (ofList pairs) = .error e ↔
      ∃ p ∈ pairs, (∀ c ∈ t.dataColumns, c.name ≠ p.1) ∧
        (∀ q ∈ pairs, (∀ c ∈ t.dataColumns, c.name ≠ q.1) → Text.bytes p.1 ≤ Text.bytes q.1) ∧
        ((∃ c : ConventionColumn, Text.lower p.1 = c.name ∧ e = .reservedColumn c.name) ∨
          (∀ c : ConventionColumn, Text.lower p.1 ≠ c.name) ∧ e = .unknownColumn t.name p.1)) ∧
    ∀ pairs' : List (String × String),
      (∀ key, pairs.filter (·.1 = key) = pairs'.filter (·.1 = key)) →
      t.resolve (ofList pairs) = t.resolve (ofList pairs') := by
  refine ⟨exists_resolve_iff, fun values accepted => ?_, fun e => ?_, fun pairs' same => ?_⟩
  · obtain ⟨sorted, last⟩ := values_of_resolve accepted
    exact ⟨sorted, last, fun v _ d => v.1.lower_name_ne d⟩
  · rw [resolve_ofList_eq_error_iff]
    refine exists_congr fun p => and_congr_right fun _ => and_congr_right fun unlisted => ?_
    exact and_congr_right fun _ => refuses_iff unlisted
  · rw [ofList_congr same]

/-- Pairs with a key that is given twice, in two orders; pairs with a reserved key and an unknown
one; and a key with a letter whose upper case alone is an ASCII letter. -/
theorem accepts_its_data_columns_of_repeated_key :
    let given := [("metadata", "m1"), ("login", "a"), ("metadata", "m2")]
    let moved := [("login", "a"), ("metadata", "m1"), ("metadata", "m2")]
    let refused := [("zz", "1"), ("User_ID", "2"), ("login", "3")]
    (∃ values, credentials.resolve (ofList given) = .ok values ∧
      credentials.resolve (ofList moved) = .ok values ∧ (.metadata, "m2") ∈ values ∧
      (.metadata, "m1") ∉ values ∧ ∀ v ∈ values, Text.lower v.1.name ≠ "deleted") ∧
    credentials.resolve (ofList refused) = .error (.reservedColumn "user_id") ∧
    credentials.resolve (ofList [("u\u017fer_id", "1")]) =
      .error (.unknownColumn "Credentials" "u\u017fer_id") := by
  intro given moved refused
  obtain ⟨accepted_iff, accepted, -, reordered⟩ := accepts_its_data_columns .credentials given
  obtain ⟨-, -, refused_iff, -⟩ := accepts_its_data_columns .credentials refused
  obtain ⟨-, -, unknown_iff, -⟩ :=
    accepts_its_data_columns .credentials [("u\u017fer_id", "1")]
  obtain ⟨values, resolved⟩ := accepted_iff.mpr (by decide)
  obtain ⟨-, last, apart⟩ := accepted values resolved
  refine ⟨⟨values, resolved, ?_, ?_, ?_, fun v hv => apart v hv .deleted⟩, ?_, ?_⟩
  · rw [← resolved]
    refine (reordered moved fun key => ?_).symm
    by_cases repeated : "metadata" = key
    · simp [given, moved, ← repeated]
    · by_cases single : "login" = key <;> simp [given, moved, repeated, single]
  · exact (last .metadata "m2").mpr ⟨[("metadata", "m1"), ("login", "a")], [], rfl, nofun⟩
  · rw [last, lastGiven_iff_getLast?]
    decide
  · refine (refused_iff _).mpr ⟨("User_ID", "2"), by decide, by decide, by decide +kernel, ?_⟩
    exact .inl ⟨.userId, by decide, rfl⟩
  · refine (unknown_iff _).mpr ⟨_, List.mem_singleton_self _, by decide, ?_, ?_⟩
    · exact fun q hq _ => List.mem_singleton.mp hq ▸ List.le_refl _
    · exact .inr ⟨fun c => by cases c <;> decide, rfl⟩

end Table
end RecordSync
