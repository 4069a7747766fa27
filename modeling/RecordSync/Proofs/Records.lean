import Mathlib
import RecordSync.Record

/-!
# Records as ordered maps

A record is known by its columns and by what stands under each of them. Giving a column a value
leaves the columns where they are, or adds a new one at the end; so a record that is made from
columns and values has each column where it first came, with the last value it was given.

Key theorems: `Record.lookup?_insert`, `Record.columns_ofList`, `Record.lookup?_ofList`,
`Record.eq_of_lookup?`, `Record.entries_ofList`.
-/
namespace RecordSync
namespace Record

variable {r r' : Record} {column : String} {value : Option String}

theorem ext {a b : Record} (h : a.entries = b.entries) : a = b := by
  cases a
  cases b
  cases h
  rfl

/-! ### What stands under a column -/

theorem lookup?_of_mem (h : (column, value) ∈ r.entries) : r.lookup? column = some value := by
  have found : r.entries.find? (fun e => e.1 == column) = some (column, value) := by
    cases hf : r.entries.find? (fun e => e.1 == column) with
    | none => exact absurd (beq_self_eq_true column) (List.find?_eq_none.mp hf _ h)
    | some e =>
      have name : e.1 = column := by simpa using List.find?_some hf
      rw [List.inj_on_of_nodup_map r.nodup (List.mem_of_find?_eq_some hf) h name]
  rw [lookup?, found]
  rfl

/-- A column that stands in the record has the text that stands there. -/
theorem get?_of_mem (h : (column, value) ∈ r.entries) : r.get? column = value := by
  rw [get?, lookup?_of_mem h]
  rfl

/-- Where a column has NULL if it is there, there is no text. -/
theorem get?_eq_none (h : ∀ value, (column, value) ∈ r.entries → value = none) :
    r.get? column = none := by
  unfold get? lookup?
  cases hf : r.entries.find? fun e => e.1 == column with
  | none => rfl
  | some e =>
    have name : e.1 = column := by simpa using List.find?_some hf
    have value : e.2 = none := h e.2 (name ▸ List.mem_of_find?_eq_some hf)
    simp [value]

theorem lookup?_eq_none_iff : r.lookup? column = none ↔ column ∉ r.columns := by
  rw [lookup?, Option.map_eq_none_iff, List.find?_eq_none, columns, List.mem_map]
  constructor
  · rintro h ⟨e, he, rfl⟩
    exact h e he (beq_self_eq_true e.1)
  · intro h e he name
    exact h ⟨e, he, by simpa using name⟩

theorem entries_eq_map_columns (r : Record) :
    r.entries = r.columns.map fun c => (c, (r.lookup? c).getD none) := by
  rw [columns, List.map_map]
  conv_lhs => rw [← List.map_id r.entries]
  refine List.map_congr_left fun e he => ?_
  simp only [id, Function.comp, lookup?_of_mem he, Option.getD_some]

/-- A record is known by its columns and what stands under them. -/
theorem eq_of_lookup? (columns : r.columns = r'.columns)
    (values : ∀ c ∈ r.columns, r.lookup? c = r'.lookup? c) : r = r' := by
  refine ext ?_
  rw [entries_eq_map_columns r, entries_eq_map_columns r', ← columns]
  exact List.map_congr_left fun c hc => by rw [values c hc]

/-! ### Giving a value -/

theorem lookup?_insert (r : Record) (column : String) (value : Option String) (other : String) :
    (r.insert column value).lookup? other =
      if other = column then some value else r.lookup? other := by
  unfold lookup? insert
  dsimp only
  induction r.entries with
  | nil =>
    by_cases h : other = column
    · simp [insertEntry, h]
    · simp [insertEntry, h, Ne.symm h]
  | cons e es ih =>
    unfold insertEntry
    by_cases he : e.1 = column
    · by_cases h : other = column
      · simp [he, h]
      · have : ¬column = other := Ne.symm h
        simp [he, h, this]
    · rw [if_neg he]
      by_cases ho : e.1 = other
      · have : ¬other = column := ho ▸ he
        simp [ho, this]
      · simpa [ho] using ih

theorem get?_insert (r : Record) (column : String) (value : Option String) (other : String) :
    (r.insert column value).get? other = if other = column then value else r.get? other := by
  rw [get?, lookup?_insert]
  split <;> rfl

theorem columns_insert (r : Record) (column : String) (value : Option String) :
    (r.insert column value).columns =
      if column ∈ r.columns then r.columns else r.columns ++ [column] := by
  unfold columns insert
  dsimp only
  induction r.entries with
  | nil => rfl
  | cons e es ih =>
    unfold insertEntry
    by_cases he : e.1 = column
    · simp [he]
    · have apart : ¬column = e.1 := Ne.symm he
      rw [if_neg he, List.map_cons, ih]
      simp only [List.map_cons, List.mem_cons, apart, false_or]
      split <;> rfl

theorem insertEntry_of_notMem {column : String} (value : Option String)
    {es : List (String × Option String)} (h : column ∉ es.map Prod.fst) :
    insertEntry column value es = es ++ [(column, value)] := by
  induction es with
  | nil => rfl
  | cons e es ih =>
    rw [List.map_cons, List.mem_cons, not_or] at h
    rw [insertEntry, if_neg fun heq => h.1 heq.symm, ih h.2, List.cons_append]

/-! ### Columns and values, one after the other -/

/-- Columns with different names stay as they are given. -/
theorem entries_ofList {pairs : List (String × Option String)} (h : (pairs.map Prod.fst).Nodup) :
    (ofList pairs).entries = pairs := by
  have inserted (r : Record) (hd : ((r.entries ++ pairs).map Prod.fst).Nodup) :
      (pairs.foldl (fun r p => r.insert p.1 p.2) r).entries = r.entries ++ pairs := by
    clear h
    induction pairs generalizing r with
    | nil => exact (List.append_nil _).symm
    | cons p ps ih =>
      have fresh : p.1 ∉ r.entries.map Prod.fst := by
        rw [List.map_append, List.nodup_append] at hd
        exact fun hm => hd.2.2 p.1 hm p.1 List.mem_cons_self rfl
      have more : (r.insert p.1 p.2).entries = r.entries ++ [p] := insertEntry_of_notMem p.2 fresh
      rw [List.foldl_cons, ih, more, List.append_assoc, List.singleton_append]
      rw [more, List.append_assoc]
      exact hd
  exact inserted empty h

theorem ofList_append_singleton (pairs : List (String × Option String))
    (p : String × Option String) : ofList (pairs ++ [p]) = (ofList pairs).insert p.1 p.2 := by
  rw [ofList, List.foldl_append]
  rfl

/-- Each column stands where it first came. -/
theorem columns_ofList (pairs : List (String × Option String)) :
    (ofList pairs).columns = (pairs.map Prod.fst).eraseDups := by
  induction pairs using List.reverseRecOn with
  | nil => rfl
  | append_singleton pairs p ih =>
    rw [ofList_append_singleton, columns_insert, ih, List.map_append, List.eraseDups_append]
    by_cases h : p.1 ∈ pairs.map Prod.fst
    · have known : p.1 ∈ (pairs.map Prod.fst).eraseDups := List.mem_eraseDups.mpr h
      have nothing : (List.map Prod.fst [p]).removeAll (pairs.map Prod.fst) = [] := by
        simpa [List.removeAll] using h
      rw [if_pos known, nothing, List.eraseDups_nil, List.append_nil]
    · have new : p.1 ∉ (pairs.map Prod.fst).eraseDups := fun hm => h (List.mem_eraseDups.mp hm)
      have itself : (List.map Prod.fst [p]).removeAll (pairs.map Prod.fst) = [p.1] := by
        simpa [List.removeAll] using h
      rw [if_neg new, itself]
      rfl

/-- Each column has the last value that it was given. -/
theorem lookup?_ofList (pairs : List (String × Option String)) (column : String) :
    (ofList pairs).lookup? column =
      (pairs.reverse.find? fun p => p.1 == column).map Prod.snd := by
  induction pairs using List.reverseRecOn with
  | nil => rfl
  | append_singleton pairs p ih =>
    rw [ofList_append_singleton, lookup?_insert, ih, List.reverse_append, List.reverse_singleton,
      List.singleton_append, List.find?_cons]
    by_cases h : column = p.1
    · simp [h]
    · have apart : (p.1 == column) = false := beq_false_of_ne (Ne.symm h)
      rw [if_neg h, apart]

theorem lookup?_ofList_cons (p : String × Option String) (ps : List (String × Option String))
    (column : String) : (ofList (p :: ps)).lookup? column =
      ((ofList ps).lookup? column).or (if p.1 = column then some p.2 else none) := by
  simp only [lookup?_ofList, List.reverse_cons, List.find?_append, List.find?_cons,
    List.find?_nil]
  by_cases h : p.1 = column
  · cases ps.reverse.find? fun p => p.1 == column <;> simp [h]
  · have apart : (p.1 == column) = false := beq_false_of_ne h
    cases ps.reverse.find? fun p => p.1 == column <;> simp [h, apart]

end Record
end RecordSync
