import RecordSync.Proofs.Records

/-!
# Columns that are given one after the other

A record is made by giving columns their values one after the other, and a column may be given
several. The two ends of the list count in opposite ways: a column stands where it was first given,
with the value that it was given last. The order of the columns is told by positions, without saying
how repetitions are left out: of two columns the one comes first that was first given first.

Key definitions: `Record.Built`, `Record.LastGiven`.
Key theorems: `Record.built_iff`, `Record.idxOf_columns_ofList_lt_iff`,
`Record.lookup?_ofList_eq_some_iff`, `Record.is_ordered_map`.
-/
namespace RecordSync

/-! ### Positions in a list -/

section

variable {α : Type} [DecidableEq α] {c d x : α} {xs : List α}

/-- One more element at the end only changes the order of positions for itself, if it is new: then
it comes before all that is not there at all. -/
theorem idxOf_concat_lt_iff : (xs ++ [x]).idxOf c < (xs ++ [x]).idxOf d ↔
    xs.idxOf c < xs.idxOf d ∨ (c = x ∧ x ∉ xs) ∧ d ∉ xs ∧ d ≠ x := by
  have there {a : α} (h : a ∈ xs) : xs.idxOf a < xs.length := List.idxOf_lt_length_iff.mpr h
  have absent {a : α} (h : a ∉ xs) : xs.idxOf a = xs.length := List.idxOf_eq_length_iff.mpr h
  have last (a : α) : [x].idxOf a = if a = x then 0 else 1 := by
    by_cases h : a = x
    · simp [h]
    · rw [if_neg h, List.idxOf_cons_ne [] (Ne.symm h), List.idxOf_nil]
  simp only [List.idxOf_append, last]
  by_cases hc : c ∈ xs
  · have other : ¬(c = x ∧ x ∉ xs) := fun h => h.2 (h.1 ▸ hc)
    by_cases hd : d ∈ xs
    · simp [hc, hd]
    · have := there hc
      have := absent hd
      simp only [hc, hd, if_true, if_false, other, false_and, or_false]
      omega
  · have := absent hc
    by_cases hd : d ∈ xs
    · have := there hd
      simp only [hc, hd, if_true, if_false, not_true_eq_false, false_and, and_false, or_false]
      omega
    · have := absent hd
      by_cases hx : c = x
      · subst hx
        by_cases hdc : d = c
        · simp [hc, hdc]
        · simp only [hc, hd, hdc, if_true, if_false, ne_eq, not_false_eq_true, and_self, or_true,
            iff_true]
          omega
      · simp only [hc, hd, hx, if_false, false_and, or_false]
        split <;> omega

/-- Repetitions are left out without a change of the order. -/
theorem idxOf_eraseDups_lt_iff :
    xs.eraseDups.idxOf c < xs.eraseDups.idxOf d ↔ xs.idxOf c < xs.idxOf d := by
  induction xs using List.reverseRecOn with
  | nil => simp
  | append_singleton xs x ih =>
    rw [List.eraseDups_append, idxOf_concat_lt_iff]
    by_cases h : x ∈ xs
    · have nothing : [x].removeAll xs = [] := by simpa [List.removeAll] using h
      rw [nothing, List.eraseDups_nil, List.append_nil, ih]
      simp [h]
    · have itself : [x].removeAll xs = [x] := by simpa [List.removeAll] using h
      have single : [x].eraseDups = [x] := rfl
      rw [itself, single, idxOf_concat_lt_iff, ih, List.mem_eraseDups, List.mem_eraseDups]

end

namespace Record

variable {r : Record} {column : String} {value : Option String}
  {pairs : List (String × Option String)}

/-! ### Looking at a record -/

theorem mem_entries_iff : (column, value) ∈ r.entries ↔ r.lookup? column = some value := by
  constructor
  · exact lookup?_of_mem
  · intro h
    obtain ⟨e, found, same⟩ := Option.map_eq_some_iff.mp h
    have name : e.1 = column := by simpa using List.find?_some found
    rw [← name, ← same]
    exact List.mem_of_find?_eq_some found

theorem get?_eq_some_iff {s : String} : r.get? column = some s ↔ r.lookup? column = some (some s) :=
  Option.join_eq_some_iff

theorem isNull_iff : r.isNull column = true ↔ r.lookup? column = some none := beq_iff_eq

theorem contains_iff : r.contains column = true ↔ column ∈ r.columns := by
  rw [contains, Option.isSome_iff_ne_none, ne_eq, lookup?_eq_none_iff, not_not]

/-- What stands at a position is the column there, with what stands under it. -/
theorem getElem?_entries_eq_some_iff {i : Nat} : r.entries[i]? = some (column, value) ↔
    r.columns[i]? = some column ∧ r.lookup? column = some value := by
  rw [columns, List.getElem?_map]
  constructor
  · intro h
    exact ⟨by rw [h]; rfl, mem_entries_iff.mp (List.mem_of_getElem? h)⟩
  · rintro ⟨name, found⟩
    obtain ⟨e, there, same⟩ := Option.map_eq_some_iff.mp name
    have standing : (column, e.2) ∈ r.entries := by
      rw [← same]
      exact List.mem_of_getElem? there
    rw [mem_entries_iff, found] at standing
    rw [there, ← same, Option.some.inj standing]

/-- A column that is there keeps its place, and only its value changes. -/
theorem entries_insert_of_mem (h : column ∈ r.columns) : (r.insert column value).entries =
    r.entries.map fun e => (e.1, if e.1 = column then value else e.2) := by
  have names : (r.insert column value).columns = r.columns := by
    rw [columns_insert, if_pos h]
  rw [entries_eq_map_columns, names, columns, List.map_map]
  apply List.map_congr_left
  intro e he
  have stands : r.lookup? e.1 = some e.2 := lookup?_of_mem he
  rw [Function.comp_apply, lookup?_insert, stands]
  split <;> rfl

/-- The texts stand as the values do; an empty text stands for NULL and for itself. -/
theorem getElem?_toStringMap_eq_some_iff {i : Nat} {s : String} :
    r.toStringMap[i]? = some (column, s) ↔ r.entries[i]? = some (column, some s) ∨
      s = "" ∧ r.entries[i]? = some (column, none) := by
  rw [toStringMap, List.getElem?_map, Option.map_eq_some_iff]
  constructor
  · rintro ⟨⟨name, v⟩, there, same⟩
    obtain ⟨rfl, text⟩ := Prod.mk.inj same
    cases v with
    | none => exact .inr ⟨text.symm, there⟩
    | some s' => exact .inl (text ▸ there)
  · intro h
    rcases h with there | ⟨rfl, there⟩
    · exact ⟨_, there, rfl⟩
    · exact ⟨_, there, rfl⟩

/-! ### Giving columns -/

/-- A record that is made by giving the columns of the pairs their values, one after the other. -/
inductive Built : List (String × Option String) → Record → Prop
  | empty : Built [] empty
  | insert {pairs : List (String × Option String)} {r : Record} (built : Built pairs r)
    (column : String) (value : Option String) :
    Built (pairs ++ [(column, value)]) (r.insert column value)

/-- Giving the pairs one after the other makes the record that they are collected in. -/
theorem built_iff : Built pairs r ↔ r = ofList pairs := by
  constructor
  · intro h
    induction h with
    | empty => rfl
    | insert _ column value ih => rw [ofList_append_singleton, ih]
  · intro h
    subst h
    induction pairs using List.reverseRecOn with
    | nil => exact .empty
    | append_singleton pairs p ih =>
      rw [ofList_append_singleton]
      exact ih.insert p.1 p.2

/-- The value is given to the column, and none is given to it later. -/
def LastGiven (pairs : List (String × Option String)) (column : String) (value : Option String) :
    Prop :=
  ∃ left right, pairs = left ++ (column, value) :: right ∧ column ∉ right.map Prod.fst

/-- Each column has the value that it was given last. -/
theorem lookup?_ofList_eq_some_iff :
    (ofList pairs).lookup? column = some value ↔ LastGiven pairs column value := by
  rw [lookup?_ofList, Option.map_eq_some_iff]
  constructor
  · intro ⟨p, found, same⟩
    obtain ⟨name, later, earlier, split, apart⟩ := List.find?_eq_some_iff_append.mp found
    refine ⟨earlier.reverse, later.reverse, ?_, ?_⟩
    · have p_eq : p = (column, value) := Prod.ext (by simpa using name) same
      rw [← List.reverse_inj, split, p_eq]
      simp
    · intro given
      obtain ⟨q, hq, rfl⟩ := List.mem_map.mp given
      simpa using apart q (List.mem_reverse.mp hq)
  · intro ⟨left, right, split, later⟩
    refine ⟨(column, value), ?_, rfl⟩
    apply List.find?_eq_some_iff_append.mpr
    refine ⟨beq_self_eq_true column, right.reverse, left.reverse, by rw [split]; simp, ?_⟩
    intro q hq
    have apart : q.1 ≠ column := fun same =>
      later (List.mem_map.mpr ⟨q, List.mem_reverse.mp hq, same⟩)
    simpa using apart

theorem mem_columns_ofList_iff : column ∈ (ofList pairs).columns ↔ column ∈ pairs.map Prod.fst := by
  rw [columns_ofList, List.mem_eraseDups]

/-- Columns stand in the order in which they were first given. -/
theorem idxOf_columns_ofList_lt_iff {other : String} :
    (ofList pairs).columns.idxOf column < (ofList pairs).columns.idxOf other ↔
      (pairs.map Prod.fst).idxOf column < (pairs.map Prod.fst).idxOf other := by
  rw [columns_ofList, idxOf_eraseDups_lt_iff]

/-- There are as many columns as names were given. -/
theorem size_ofList : (ofList pairs).size = (pairs.map Prod.fst).toFinset.card := by
  have listed : (pairs.map Prod.fst).toFinset = (ofList pairs).columns.toFinset := by
    ext column
    rw [List.mem_toFinset, List.mem_toFinset, mem_columns_ofList_iff]
  have once : (ofList pairs).columns.Nodup := (ofList pairs).nodup
  rw [listed, List.toFinset_card_of_nodup once, columns, List.length_map, size]

/-- **A record is an ordered map.** The record that pairs are collected in is the one that is made
by giving them one after the other. It has each column that is given once, in the order in which
they were first given, and as many as different names were given. A column is there if it was given;
it has a text exactly if that was given last, and NULL exactly if NULL was. Each column stands with
what was given last, in its place. Giving a column that is there once more keeps all columns in
their places and changes only what stands under it; a column that is not there is added at the end.
The texts of a record stand in the places of its columns, and they are empty exactly for NULL and
for the empty text. -/
theorem is_ordered_map (pairs : List (String × Option String)) :
    (∀ r, Built pairs r ↔ r = ofList pairs) ∧
    ((ofList pairs).columns.Nodup ∧
      (∀ c, c ∈ (ofList pairs).columns ↔ c ∈ pairs.map Prod.fst) ∧
      (∀ c d, (ofList pairs).columns.idxOf c < (ofList pairs).columns.idxOf d ↔
        (pairs.map Prod.fst).idxOf c < (pairs.map Prod.fst).idxOf d) ∧
      (ofList pairs).size = (pairs.map Prod.fst).toFinset.card) ∧
    (∀ c, ((ofList pairs).contains c = true ↔ c ∈ pairs.map Prod.fst) ∧
      (∀ s, (ofList pairs).get? c = some s ↔ LastGiven pairs c (some s)) ∧
      ((ofList pairs).isNull c = true ↔ LastGiven pairs c none)) ∧
    (∀ (i : Nat) c v, (ofList pairs).entries[i]? = some (c, v) ↔
      (ofList pairs).columns[i]? = some c ∧ LastGiven pairs c v) ∧
    (∀ (r : Record) c v,
      (c ∈ r.columns → (r.insert c v).columns = r.columns ∧
        (r.insert c v).entries = r.entries.map fun e => (e.1, if e.1 = c then v else e.2)) ∧
      (c ∉ r.columns → (r.insert c v).entries = r.entries ++ [(c, v)])) ∧
    ∀ (r : Record) (i : Nat) c s, r.toStringMap[i]? = some (c, s) ↔
      r.entries[i]? = some (c, some s) ∨ s = "" ∧ r.entries[i]? = some (c, none) := by
  refine ⟨fun r => built_iff, ⟨(ofList pairs).nodup, fun c => mem_columns_ofList_iff,
    fun c d => idxOf_columns_ofList_lt_iff, size_ofList⟩, fun c => ⟨?_, fun s => ?_, ?_⟩,
    fun i c v => ?_, fun r c v => ⟨fun there => ?_, insertEntry_of_notMem v⟩,
    fun r i c s => getElem?_toStringMap_eq_some_iff⟩
  · rw [contains_iff, mem_columns_ofList_iff]
  · rw [get?_eq_some_iff, lookup?_ofList_eq_some_iff]
  · rw [isNull_iff, lookup?_ofList_eq_some_iff]
  · rw [getElem?_entries_eq_some_iff, lookup?_ofList_eq_some_iff]
  · refine ⟨?_, entries_insert_of_mem there⟩
    rw [columns_insert, if_pos there]

/-- Two columns that are given twice, in two orders, and a third with an empty text, which is given
NULL after that. -/
theorem is_ordered_map_of_repeated_columns :
    let pairs := [("b", some "1"), ("a", none), ("b", none), ("c", some ""), ("a", some "2")]
    let r := ofList pairs
    r.columns.idxOf "b" < r.columns.idxOf "a" ∧ r.size = 3 ∧ r.get? "a" = some "2" ∧
    r.isNull "b" = true ∧ "c" ∈ r.columns ∧ (r.insert "c" none).columns = r.columns ∧
    r.toStringMap[2]? = some ("c", "") := by
  intro pairs r
  obtain ⟨-, ⟨-, given, order, size⟩, found, placed, again, texts⟩ := is_ordered_map pairs
  have third : "c" ∈ r.columns := (given "c").mpr (by decide)
  have one : LastGiven pairs "a" (some "2") :=
    ⟨[("b", some "1"), ("a", none), ("b", none), ("c", some "")], [], rfl, nofun⟩
  have null : LastGiven pairs "b" none :=
    ⟨[("b", some "1"), ("a", none)], [("c", some ""), ("a", some "2")], rfl, by decide⟩
  have blank : LastGiven pairs "c" (some "") :=
    ⟨[("b", some "1"), ("a", none), ("b", none)], [("a", some "2")], rfl, by decide⟩
  exact ⟨(order _ _).mpr (by decide), size.trans (by decide), ((found "a").2.1 "2").mpr one,
    (found "b").2.2.mpr null, third, ((again r "c" none).1 third).1,
    (texts r 2 "c" "").mpr (.inl ((placed 2 "c" _).mpr ⟨rfl, blank⟩))⟩

end Record
end RecordSync
