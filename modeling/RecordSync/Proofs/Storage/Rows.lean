import Mathlib
import RecordSync.Table
import RecordSync.User

/-!
# Rows that the store keeps

A row has an id, an owner, texts in its data columns, the time of its last write and the mark of
deletion; the types leave no other row. The ids of a table's rows differ, so a row is found by its
table and id, and putting a row under its id changes what is found there and nothing else.

Key definitions: `StoredRow`, `Rows`, `Rows.put`, `Store`, `Store.row?`, `Store.put`.
Key theorems: `Rows.row?_eq_some_iff`, `Rows.row?_put`, `Rows.map_eq_putInto`, `Store.row?_put`.
-/
namespace RecordSync

theorem UserId.eq_of_value {a b : UserId} (h : a.value = b.value) : a = b := by
  cases a
  cases b
  cases h
  rfl

theorem UserId.ofInt?_value (u : UserId) : UserId.ofInt? u.value = some u := by
  rw [ofInt?, dif_pos u.inRange]

/-- A row of a table. -/
structure StoredRow where
  id : String
  owner : UserId
  /-- The texts in data columns, where no text stands for NULL. -/
  values : DataColumn → Option String
  /-- When the row was last written, in microseconds since 1970. -/
  updatedAt : Int
  deleted : Bool

/-! ### Rows of one table -/

/-- The rows of a table, with different ids. -/
structure Rows where
  list : List StoredRow
  nodup : (list.map StoredRow.id).Nodup

namespace Rows

/-- No rows. -/
def empty : Rows := ⟨[], List.nodup_nil⟩

/-- The row of an id. -/
def row? (rows : Rows) (id : String) : Option StoredRow := rows.list.find? fun r => r.id == id

/-- Rows with one more, which takes the place of a row with its id. -/
def putInto (row : StoredRow) : List StoredRow → List StoredRow
  | [] => [row]
  | r :: rs => if r.id = row.id then row :: rs else r :: putInto row rs

theorem ids_putInto (row : StoredRow) (rs : List StoredRow) :
    (putInto row rs).map StoredRow.id =
      if row.id ∈ rs.map StoredRow.id then rs.map StoredRow.id
      else rs.map StoredRow.id ++ [row.id] := by
  induction rs with
  | nil => simp [putInto]
  | cons r rs ih =>
    rw [putInto]
    by_cases hr : r.id = row.id
    · simp [hr]
    · have hne : row.id ≠ r.id := fun h => hr h.symm
      simp only [hr, ↓reduceIte, List.map_cons, ih, List.mem_cons, hne, false_or]
      split <;> rfl

/-- The rows with one more, which takes the place of a row with its id. -/
def put (rows : Rows) (row : StoredRow) : Rows where
  list := putInto row rows.list
  nodup := by
    rw [ids_putInto]
    split
    · exact rows.nodup
    · rename_i hn
      rw [List.nodup_append]
      refine ⟨rows.nodup, by simp, fun a ha b hb hab => hn ?_⟩
      rw [← List.mem_singleton.mp hb, ← hab]
      exact ha

theorem ext {a b : Rows} (h : a.list = b.list) : a = b := by
  cases a
  cases b
  cases h
  rfl

theorem eq_of_mem {rows : Rows} {r r' : StoredRow} (hr : r ∈ rows.list) (hr' : r' ∈ rows.list)
    (h : r.id = r'.id) : r = r' :=
  List.inj_on_of_nodup_map rows.nodup hr hr' h

/-- A row is found exactly under its id. -/
theorem row?_eq_some_iff {rows : Rows} {id : String} {r : StoredRow} :
    rows.row? id = some r ↔ r ∈ rows.list ∧ r.id = id := by
  constructor
  · intro h
    exact ⟨List.mem_of_find?_eq_some h, by simpa using List.find?_some h⟩
  · rintro ⟨hm, rfl⟩
    cases hf : rows.row? r.id with
    | none => exact absurd (beq_self_eq_true r.id) (List.find?_eq_none.mp hf r hm)
    | some r' =>
      have hid : r'.id = r.id := by simpa using List.find?_some hf
      rw [eq_of_mem (List.mem_of_find?_eq_some hf) hm hid]

theorem find?_putInto (row : StoredRow) (rs : List StoredRow) (id : String) :
    (putInto row rs).find? (fun r => r.id == id) =
      if id = row.id then some row else rs.find? fun r => r.id == id := by
  induction rs with
  | nil =>
    by_cases h : id = row.id
    · simp [putInto, h]
    · have hne : row.id ≠ id := fun e => h e.symm
      simp [putInto, h, hne]
  | cons r rs ih =>
    rw [putInto]
    by_cases hr : r.id = row.id
    · by_cases h : id = row.id
      · simp [hr, h]
      · have hne : row.id ≠ id := fun e => h e.symm
        simp [hr, h, hne]
    · by_cases h : id = row.id
      · have hne : r.id ≠ id := fun e => hr (e.trans h)
        rw [if_neg hr, List.find?_cons_of_neg (by simpa using hne), ih, if_pos h, if_pos h]
      · rw [if_neg hr, List.find?_cons, List.find?_cons, ih, if_neg h, if_neg h]

/-- A row that was put is found under its id, and other ids lead where they led. -/
theorem row?_put (rows : Rows) (row : StoredRow) (id : String) :
    (rows.put row).row? id = if id = row.id then some row else rows.row? id :=
  find?_putInto row rows.list id

/-- Changing the one row of an id in its place is putting it. -/
theorem map_eq_putInto {rs : List StoredRow} (nodup : (rs.map StoredRow.id).Nodup)
    {f : StoredRow → StoredRow} {r : StoredRow} (hr : r ∈ rs) (hid : (f r).id = r.id)
    (others : ∀ x ∈ rs, x.id ≠ r.id → f x = x) : rs.map f = putInto (f r) rs := by
  induction rs with
  | nil => cases hr
  | cons x xs ih =>
    obtain ⟨hx, hxs⟩ := List.nodup_cons.mp nodup
    rw [List.map_cons, putInto, hid]
    rcases List.mem_cons.mp hr with rfl | hr
    · have rest : xs.map f = xs := by
        refine (List.map_congr_left fun y hy => ?_).trans (List.map_id xs)
        refine others y (List.mem_cons_of_mem _ hy) fun h => hx ?_
        exact List.mem_map.mpr ⟨y, hy, h⟩
      rw [if_pos rfl, rest]
    · have hne : x.id ≠ r.id := fun h => hx (h ▸ List.mem_map.mpr ⟨r, hr, rfl⟩)
      rw [if_neg hne, others x List.mem_cons_self hne,
        ih hxs hr fun y hy => others y (List.mem_cons_of_mem _ hy)]

/-- A test that only the row of an id can pass is passed once. -/
theorem countP_eq_one {rs : List StoredRow} (nodup : (rs.map StoredRow.id).Nodup)
    {p : StoredRow → Bool} {r : StoredRow} (hr : r ∈ rs) (hp : p r = true)
    (others : ∀ x ∈ rs, x.id ≠ r.id → p x = false) : rs.countP p = 1 := by
  induction rs with
  | nil => cases hr
  | cons x xs ih =>
    obtain ⟨hx, hxs⟩ := List.nodup_cons.mp nodup
    rcases List.mem_cons.mp hr with rfl | hr
    · have rest : xs.countP p = 0 := by
        refine List.countP_eq_zero.mpr fun y hy => ?_
        rw [others y (List.mem_cons_of_mem _ hy) fun h => hx (List.mem_map.mpr ⟨y, hy, h⟩)]
        exact Bool.false_ne_true
      rw [List.countP_cons_of_pos hp, rest]
    · have hne : x.id ≠ r.id := fun h => hx (h ▸ List.mem_map.mpr ⟨r, hr, rfl⟩)
      have hpx : ¬p x = true := by simp [others x List.mem_cons_self hne]
      rw [List.countP_cons_of_neg hpx, ih hxs hr fun y hy => others y (List.mem_cons_of_mem _ hy)]

theorem mem_putInto {row r : StoredRow} {rs : List StoredRow} (h : r ∈ putInto row rs) :
    r = row ∨ r ∈ rs := by
  induction rs with
  | nil => exact .inl (List.mem_singleton.mp h)
  | cons x xs ih =>
    rw [putInto] at h
    split at h
    · rcases List.mem_cons.mp h with h | h
      · exact .inl h
      · exact .inr (List.mem_cons_of_mem _ h)
    · rcases List.mem_cons.mp h with h | h
      · exact .inr (h ▸ List.mem_cons_self)
      · exact (ih h).imp id (List.mem_cons_of_mem _)

end Rows

/-! ### All tables -/

/-- The users that there are, and the rows of each table, which belong to users. -/
structure Store where
  users : List UserId
  rows : Table → Rows
  owned : ∀ t, ∀ r ∈ (rows t).list, r.owner ∈ users

namespace Store

/-- The store of some users that has no rows. -/
def ofUsers (users : List UserId) : Store where
  users := users
  rows _ := .empty
  owned _ _ h := absurd h List.not_mem_nil

/-- The row of a table that has an id. -/
def row? (db : Store) (t : Table) (id : String) : Option StoredRow := (db.rows t).row? id

/-- The store with other rows in a table. -/
def withRows (db : Store) (t : Table) (rows : Rows) (h : ∀ r ∈ rows.list, r.owner ∈ db.users) :
    Store where
  users := db.users
  rows t' := if t' = t then rows else db.rows t'
  owned t' r hr := by
    by_cases ht : t' = t
    · exact h r (by simpa [ht] using hr)
    · exact db.owned t' r (by simpa [ht] using hr)

/-- The store with a user's row in a table, in the place of a row with its id. -/
def put (db : Store) (t : Table) (row : StoredRow) (h : row.owner ∈ db.users) : Store :=
  db.withRows t ((db.rows t).put row) fun r hr => by
    rcases Rows.mem_putInto hr with rfl | hr
    · exact h
    · exact db.owned t r hr

theorem ext {a b : Store} (hu : a.users = b.users) (hr : ∀ t, (a.rows t).list = (b.rows t).list) :
    a = b := by
  cases a
  cases b
  cases hu
  obtain rfl := funext fun t => Rows.ext (hr t)
  rfl

/-- A row that was put is found in its table under its id, and nothing else is found elsewhere than
before. -/
theorem row?_put (db : Store) (t t' : Table) (row : StoredRow) (h : row.owner ∈ db.users)
    (id : String) :
    (db.put t row h).row? t' id = if t' = t ∧ id = row.id then some row else db.row? t' id := by
  unfold row? put withRows
  by_cases ht : t' = t
  · subst ht
    simp [Rows.row?_put]
  · simp [ht]

theorem owner_mem_users {db : Store} {t : Table} {id : String} {r : StoredRow}
    (h : db.row? t id = some r) : r.owner ∈ db.users :=
  db.owned t r (Rows.row?_eq_some_iff.mp h).1

theorem id_of_row? {db : Store} {t : Table} {id : String} {r : StoredRow}
    (h : db.row? t id = some r) : r.id = id :=
  (Rows.row?_eq_some_iff.mp h).2

end Store
end RecordSync
