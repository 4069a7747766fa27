import RecordSync.Json.Printer
import RecordSync.Time.Rfc3339
import RecordSync.User

/-!
# Records

A record is a row that was read, as text: distinct column names in the order in which they first
came, each with the last value it was given, where no value stands for NULL. NULL and the empty
text stay apart except in `Record.toStringMap`.

Key definitions: `Record`, `Record.insert`, `Record.ofList`, `Record.get?`, `Record.isNull`,
`Record.toJson`.
-/
namespace RecordSync

/-- A row as text, by column name. -/
structure Record where
  entries : List (String × Option String)
  nodup : (entries.map Prod.fst).Nodup

namespace Record

/-- The record without columns. -/
def empty : Record := ⟨[], .nil⟩

/-- The entries with a value under a column, in its place if it is there, else at the end. -/
def insertEntry (column : String) (value : Option String) :
    List (String × Option String) → List (String × Option String)
  | [] => [(column, value)]
  | e :: es => if e.1 = column then (column, value) :: es else e :: insertEntry column value es

theorem mem_names_insertEntry {column x : String} {value : Option String}
    {es : List (String × Option String)} :
    x ∈ (insertEntry column value es).map Prod.fst ↔ x = column ∨ x ∈ es.map Prod.fst := by
  induction es with
  | nil => simp [insertEntry]
  | cons e es ih =>
    simp only [insertEntry]
    split
    · rename_i h
      simp [← h]
    · simp only [List.map_cons, List.mem_cons, ih]
      grind

theorem nodup_insertEntry (column : String) (value : Option String)
    {es : List (String × Option String)} (h : (es.map Prod.fst).Nodup) :
    ((insertEntry column value es).map Prod.fst).Nodup := by
  induction es with
  | nil => simp [insertEntry]
  | cons e es ih =>
    obtain ⟨he, hes⟩ := List.nodup_cons.mp h
    simp only [insertEntry]
    split
    · rename_i heq
      exact List.nodup_cons.mpr ⟨heq ▸ he, hes⟩
    · rename_i hne
      refine List.nodup_cons.mpr ⟨fun hm => ?_, ih hes⟩
      rcases mem_names_insertEntry.mp hm with h | h
      · exact hne h
      · exact he h

/-- The record with a value under a column. -/
def insert (r : Record) (column : String) (value : Option String) : Record :=
  ⟨insertEntry column value r.entries, nodup_insertEntry column value r.nodup⟩

/-- The record of columns and values, given one after the other. -/
def ofList (pairs : List (String × Option String)) : Record :=
  pairs.foldl (fun r p => r.insert p.1 p.2) empty

/-- What stands under a column, if the record has it. -/
def lookup? (r : Record) (column : String) : Option (Option String) :=
  (r.entries.find? fun e => e.1 == column).map Prod.snd

/-- The text under a column; nothing if the record has no such column or NULL there. -/
def get? (r : Record) (column : String) : Option String := (r.lookup? column).join

/-- Whether NULL stands under a column. -/
def isNull (r : Record) (column : String) : Bool := r.lookup? column == some none

/-- Whether the record has a column. -/
def contains (r : Record) (column : String) : Bool := (r.lookup? column).isSome

/-- The column names, in order. -/
def columns (r : Record) : List String := r.entries.map Prod.fst

/-- The number of columns. -/
def size (r : Record) : Nat := r.entries.length

/-- Whether there is no column. -/
def isEmpty (r : Record) : Bool := r.entries.isEmpty

/-- The record id. -/
def id? (r : Record) : Option String := r.get? "id"

/-- The id of the user that the record belongs to, if it is written as one. -/
def userId? (r : Record) : Option UserId := (r.get? "user_id").bind UserId.read?

/-- When the record was last written, if that is written as a timestamp. -/
def updatedAt? (r : Record) : Option Instant := (r.get? "updated_at").bind Rfc3339.read?

/-- Whether the record is marked as deleted. -/
def isDeleted (r : Record) : Bool := r.get? "deleted" == some "true"

/-- The columns with their texts, an empty one for NULL. -/
def toStringMap (r : Record) : List (String × String) :=
  r.entries.map fun e => (e.1, e.2.getD "")

/-- A text as a JSON string, and no text as null. -/
def valueJson : Option String → Json
  | some s => .str s
  | none => .null

/-- The record as a JSON object with a member for each column. -/
def toJson (r : Record) : Json := .obj (r.entries.map fun e => (e.1, valueJson e.2))

end Record
end RecordSync
