import RecordSync.Proofs.Alignment
import RecordSync.Proofs.Storage.Rows

/-!
# What commands do

A command is carried out on the rows of a table at a time that the store's clock shows. Names are
resolved to the columns of the table, placeholders to the values of the query. What has no meaning
(an unknown name, a value of another type, a column assigned twice) is refused, as is a row that
breaks a rule of the table: an id twice, no id or owner, an owner that is no user. A refused command
changes nothing.

Key definitions: `Datum`, `Sql.Expr.value?`, `Sql.selects?`, `Store.insert?`, `Store.update?`,
`Store.execute?`.
Key theorems: `Table.column?_eq_some_iff`, `StoredRow.setAll?_texts`, `Sql.evaluated?_append`.
-/
namespace RecordSync

/-! ### Values in rows -/

/-- A value in a row. -/
inductive Datum where
  | null
  | int (n : Int)
  | text (s : String)
  | bool (b : Bool)
  /-- A point in time, in microseconds since 1970. -/
  | time (micros : Int)
  deriving DecidableEq, Repr

/-- The value that a placeholder stands for, in a row. -/
def Bind.datum : Bind → Datum
  | .int n => .int n
  | .text s => .text s
  | .time us => .time us

namespace Datum

/-- A time, moved on by a microsecond. -/
def later? : Datum → Option Datum
  | .null => some .null
  | .time us => some (.time (us + 1))
  | _ => none

/-- The greater of two values, NULL being none. -/
def greatest? : Datum → Datum → Option Datum
  | .null, d => some d
  | d, .null => some d
  | .int a, .int b => some (.int (max a b))
  | .time a, .time b => some (.time (max a b))
  | _, _ => none

/-- Whether two values are known to be equal. -/
def equal? : Datum → Datum → Option Bool
  | .null, _ => some false
  | _, .null => some false
  | .int a, .int b => some (a = b)
  | .text a, .text b => some (a = b)
  | .bool a, .bool b => some (a = b)
  | .time a, .time b => some (a = b)
  | _, _ => none

/-- Whether a value is known to be greater than another one; texts have no order here. -/
def greater? : Datum → Datum → Option Bool
  | .null, _ => some false
  | _, .null => some false
  | .int a, .int b => some (b < a)
  | .time a, .time b => some (b < a)
  | _, _ => none

end Datum

namespace StoredRow

/-- The value in a column. -/
def get (r : StoredRow) : Column → Datum
  | .convention .id => .text r.id
  | .convention .userId => .int r.owner.value
  | .convention .updatedAt => .time r.updatedAt
  | .convention .deleted => .bool r.deleted
  | .data c =>
    match r.values c with
    | some s => .text s
    | none => .null

/-- The row with a text, or none, in a data column. -/
def withValue (r : StoredRow) (c : DataColumn) (value : Option String) : StoredRow :=
  { r with values := fun c' => if c' = c then value else r.values c' }

/-- The row with another value in a column, if the column may have it. -/
def set? (r : StoredRow) : Column → Datum → Option StoredRow
  | .convention .id, .text s => some { r with id := s }
  | .convention .userId, .int n => (UserId.ofInt? n).map fun owner => { r with owner := owner }
  | .convention .updatedAt, .time us => some { r with updatedAt := us }
  | .convention .deleted, .bool b => some { r with deleted := b }
  | .data c, .text s => some (r.withValue c (some s))
  | .data c, .null => some (r.withValue c none)
  | _, _ => none

/-- The row with other values in some columns. -/
def setAll? (r : StoredRow) : List (Column × Datum) → Option StoredRow
  | [] => some r
  | a :: as => (r.set? a.1 a.2).bind fun r => r.setAll? as

/-- A row made at a time of given values: columns that are not given have their defaults, and an id
and an owner have to be given. -/
def new? (now : Int) (as : List (Column × Datum)) : Option StoredRow :=
  match as.lookup (.convention .id), as.lookup (.convention .userId) with
  | some (.text id), some (.int n) =>
    (UserId.ofInt? n).bind fun owner => setAll? ⟨id, owner, fun _ => none, now, false⟩ as
  | _, _ => none

end StoredRow

/-! ### Names -/

namespace Table

/-- The column that a name stands for. -/
def column? (t : Table) (name : String) : Option Column := t.columns.find? fun c => c.name == name

/-- The table that the catalog lists under a name. -/
def ofCatalogName? (name : String) : Option Table := all.find? fun t => t.catalogName == name

/-- A name stands for the one column of the table that has it. -/
theorem column?_eq_some_iff {t : Table} {name : String} {c : Column} :
    t.column? name = some c ↔ c ∈ t.columns ∧ c.name = name := by
  unfold column?
  constructor
  · intro h
    exact ⟨List.mem_of_find?_eq_some h, by simpa using List.find?_some h⟩
  · rintro ⟨listed, rfl⟩
    cases hf : t.columns.find? fun d => d.name == c.name with
    | none => exact absurd (beq_self_eq_true c.name) (List.find?_eq_none.mp hf c listed)
    | some d =>
      have hd : d.name = c.name := by simpa using List.find?_some hf
      rw [Column.name_injective hd]

theorem column?_name {t : Table} {c : Column} (h : c ∈ t.columns) : t.column? c.name = some c :=
  column?_eq_some_iff.mpr ⟨h, rfl⟩

theorem column?_convention (t : Table) (c : ConventionColumn) :
    t.column? c.name = some (.convention c) :=
  column?_name (t.convention_mem_columns c)

theorem ofCatalogName?_catalogName (t : Table) : ofCatalogName? t.catalogName = some t := by
  cases t <;> decide

end Table

/-! ### Expressions and conditions -/

namespace Sql

/-- What names, placeholders and the time of a statement stand for. -/
structure Scope where
  table : Table
  query : Query
  now : Int

/-- The value of an expression about a row, or about no row. -/
def Expr.value? (σ : Scope) (r : Option StoredRow) : Expr → Option Datum
  | .name s => r.bind fun r => (σ.table.column? s).map r.get
  | .placeholder n => (σ.query.bound? n).map Bind.datum
  | .bool b => some (.bool b)
  | .now => some (.time σ.now)
  | .later e => (e.value? σ r).bind Datum.later?
  | .greatest a b => (a.value? σ r).bind fun x => (b.value? σ r).bind fun y => x.greatest? y

/-- Whether a condition holds of a row. -/
def Condition.holds? (σ : Scope) (r : StoredRow) : Condition → Option Bool
  | .equal a b => (a.value? σ r).bind fun x => (b.value? σ r).bind fun y => x.equal? y
  | .greater a b => (a.value? σ r).bind fun x => (b.value? σ r).bind fun y => x.greater? y

/-- Whether all conditions hold of a row. -/
def selects? (σ : Scope) (r : StoredRow) : List Condition → Option Bool
  | [] => some true
  | c :: cs => (c.holds? σ r).bind fun x => (selects? σ r cs).map fun y => x && y

/-- Columns with the values that expressions about a row have. -/
def evaluated? (σ : Scope) (r : Option StoredRow) :
    List (String × Expr) → Option (List (Column × Datum))
  | [] => some []
  | a :: as => do
    let c ← σ.table.column? a.1
    let d ← a.2.value? σ r
    let rest ← evaluated? σ r as
    some ((c, d) :: rest)

/-- The row as a change leaves it, and whether it was selected. -/
def updated? (σ : Scope) (as : List (String × Expr)) (cs : List Condition) (r : StoredRow) :
    Option (Bool × StoredRow) := do
  if ← selects? σ r cs then
    let r' ← r.setAll? (← evaluated? σ (some r) as)
    some (true, r')
  else some (false, r)

end Sql

/-! ### Evaluation -/

namespace Sql

theorem evaluated?_append {σ : Scope} {r : Option StoredRow} {as bs : List (String × Expr)}
    {ds es : List (Column × Datum)} (ha : evaluated? σ r as = some ds)
    (hb : evaluated? σ r bs = some es) : evaluated? σ r (as ++ bs) = some (ds ++ es) := by
  induction as generalizing ds with
  | nil =>
    obtain rfl : ds = [] := by simpa [evaluated?, eq_comm] using ha
    exact hb
  | cons a as ih =>
    rw [evaluated?] at ha
    cases hc : σ.table.column? a.1 with
    | none => simp [hc] at ha
    | some c =>
      cases hd : a.2.value? σ r with
      | none => simp [hc, hd] at ha
      | some d =>
        cases hr : evaluated? σ r as with
        | none => simp [hc, hd, hr] at ha
        | some rest =>
          obtain rfl : (c, d) :: rest = ds := by simpa [hc, hd, hr] using ha
          simp [evaluated?, hc, hd, ih hr]

/-- Columns of the table with placeholders have the values that the placeholders stand for. -/
theorem evaluated?_placeholders {σ : Scope} (r : Option StoredRow) {vs : List (Column × Nat)}
    {ds : List (Column × Datum)} (known : ∀ v ∈ vs, v.1 ∈ σ.table.columns)
    (bound : (vs.map fun v => (v.1, (σ.query.bound? v.2).map Bind.datum)) =
      ds.map fun d => (d.1, some d.2)) :
    evaluated? σ r (vs.map fun v => (v.1.name, .placeholder v.2)) = some ds := by
  induction vs generalizing ds with
  | nil =>
    obtain rfl : ds = [] := by simpa using bound.symm
    rfl
  | cons v vs ih =>
    obtain ⟨hv, hvs⟩ := List.forall_mem_cons.mp known
    cases ds with
    | nil => simp at bound
    | cons d ds =>
      obtain ⟨hd, hds⟩ := List.cons.inj bound
      obtain ⟨hc, hb⟩ := Prod.mk.inj hd
      rw [List.map_cons, evaluated?, Table.column?_name hv]
      simp [Expr.value?, hb, ih hvs hds, hc]

end Sql

namespace StoredRow

theorem setAll?_append (r : StoredRow) (as bs : List (Column × Datum)) :
    r.setAll? (as ++ bs) = (r.setAll? as).bind fun r => r.setAll? bs := by
  induction as generalizing r with
  | nil => rfl
  | cons a as ih =>
    rw [List.cons_append, setAll?, setAll?]
    cases r.set? a.1 a.2 with
    | none => rfl
    | some r' => exact ih r'

/-- Texts in different data columns take the place of what was there. -/
theorem setAll?_texts (r : StoredRow) {values : List (DataColumn × String)}
    (nodup : (values.map Prod.fst).Nodup) :
    r.setAll? (values.map fun v => (.data v.1, .text v.2)) =
      some { r with values := fun c => (values.lookup c).or (r.values c) } := by
  induction values generalizing r with
  | nil => rfl
  | cons v vs ih =>
    obtain ⟨hv, hvs⟩ := List.nodup_cons.mp nodup
    have absent : vs.lookup v.1 = none := by
      rw [List.lookup_eq_none_iff]
      intro p hp
      rw [bne_iff_ne]
      exact fun heq => hv (List.mem_map.mpr ⟨p, hp, heq.symm⟩)
    rw [List.map_cons, setAll?, set?, Option.bind_some, ih _ hvs]
    congr 2
    funext c
    rw [List.lookup_cons]
    by_cases hc : c = v.1
    · subst hc
      simp [withValue, absent]
    · have hb : (c == v.1) = false := beq_false_of_ne hc
      simp [withValue, hc, hb]

end StoredRow

/-! ### Commands -/

namespace Store

open Sql

/-- Adds a row with given values, if they make a row that the table may have. -/
def insert? (db : Store) (σ : Scope) (columns : List String) (values : List Expr) :
    Option Store := do
  if columns.length = values.length then
    let as ← evaluated? σ none (columns.zip values)
    let row ← StoredRow.new? σ.now as
    if h : row.owner ∈ db.users ∧ (as.map Prod.fst).Nodup ∧ db.row? σ.table row.id = none then
      some (db.put σ.table row h.1)
    else none
  else none

/-- Changes the rows that satisfy conditions, if this makes rows that the table may have; gives
their number. -/
def update? (db : Store) (σ : Scope) (as : List (String × Expr)) (cs : List Condition) :
    Option (Nat × Store) := do
  let rs ← (db.rows σ.table).list.mapM (updated? σ as cs)
  if h : (as.map Prod.fst).Nodup ∧ ((rs.map Prod.snd).map StoredRow.id).Nodup ∧
      ∀ r ∈ rs.map Prod.snd, r.owner ∈ db.users then
    some (rs.countP Prod.fst, db.withRows σ.table ⟨rs.map Prod.snd, h.2.1⟩ h.2.2)
  else none

/-- Carries out a query that writes, at a time of the store's clock; gives the number of rows that
were written. -/
def execute? (db : Store) (now : Int) (q : Query) : Option (Nat × Store) :=
  match read? q.statement.text with
  | some (.insert name columns values) =>
    (Table.ofCatalogName? name).bind fun t =>
      (db.insert? ⟨t, q, now⟩ columns values).map fun db => (1, db)
  | some (.update name as cs) =>
    (Table.ofCatalogName? name).bind fun t => db.update? ⟨t, q, now⟩ as cs
  | _ => none

end Store
end RecordSync
