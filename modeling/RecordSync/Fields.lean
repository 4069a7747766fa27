import RecordSync.Text.Bytes

/-!
# Field values of a write

A write carries values by column name. Names are distinct and stand in the order of their bytes,
whatever the order in which the values were given; of two values for one name the later counts.

Key definitions: `Fields`, `Fields.insert`, `Fields.ofList`, `Fields.get?`.
-/
namespace RecordSync

/-- Values by name, in the order of the names' bytes. -/
structure Fields where
  entries : List (String × String)
  sorted : entries.Pairwise fun a b => Text.bytes a.1 < Text.bytes b.1

namespace Fields

/-- No values. -/
def empty : Fields := ⟨[], .nil⟩

/-- The entries with a value under a name, in its place. -/
def insertEntry (name value : String) : List (String × String) → List (String × String)
  | [] => [(name, value)]
  | e :: es =>
    if Text.bytes name < Text.bytes e.1 then (name, value) :: e :: es
    else if name = e.1 then (name, value) :: es
    else e :: insertEntry name value es

theorem mem_insertEntry {name value : String} {es : List (String × String)} {x : String × String}
    (h : x ∈ insertEntry name value es) : x = (name, value) ∨ x ∈ es := by
  induction es with
  | nil => simpa [insertEntry] using h
  | cons e es ih =>
    simp only [insertEntry] at h
    split at h
    · simpa using h
    · split at h
      · rcases List.mem_cons.mp h with h | h
        · exact .inl h
        · exact .inr (List.mem_cons_of_mem _ h)
      · rcases List.mem_cons.mp h with h | h
        · exact .inr (h ▸ List.mem_cons_self)
        · exact (ih h).imp id (List.mem_cons_of_mem _)

/-- Of two names that differ, one comes first. -/
theorem bytes_lt_of_ne {a b : String} (hne : a ≠ b) (h : ¬Text.bytes a < Text.bytes b) :
    Text.bytes b < Text.bytes a := by
  rcases List.le_iff_lt_or_eq.mp (List.not_lt.mp h) with h | h
  · exact h
  · exact absurd (Text.bytes_injective h).symm hne

theorem sorted_insertEntry (name value : String) {es : List (String × String)}
    (h : es.Pairwise fun a b => Text.bytes a.1 < Text.bytes b.1) :
    (insertEntry name value es).Pairwise fun a b => Text.bytes a.1 < Text.bytes b.1 := by
  induction es with
  | nil => simp [insertEntry]
  | cons e es ih =>
    obtain ⟨he, hes⟩ := List.pairwise_cons.mp h
    simp only [insertEntry]
    split
    · rename_i hlt
      refine List.pairwise_cons.mpr ⟨fun x hx => ?_, h⟩
      rcases List.mem_cons.mp hx with rfl | hx
      · exact hlt
      · exact List.lt_trans hlt (he x hx)
    · rename_i hnlt
      split
      · rename_i heq
        exact List.pairwise_cons.mpr ⟨fun x hx => heq ▸ he x hx, hes⟩
      · rename_i hne
        refine List.pairwise_cons.mpr ⟨fun x hx => ?_, ih hes⟩
        rcases mem_insertEntry hx with rfl | hx
        · exact bytes_lt_of_ne hne hnlt
        · exact he x hx

/-- The values with one more, which replaces an earlier one under its name. -/
def insert (fields : Fields) (name value : String) : Fields :=
  ⟨insertEntry name value fields.entries, sorted_insertEntry name value fields.sorted⟩

/-- The values with one more, if there is one. -/
def insertOpt (fields : Fields) (name : String) : Option String → Fields
  | some value => fields.insert name value
  | none => fields

/-- The values of pairs, the last one under each name. -/
def ofList (pairs : List (String × String)) : Fields :=
  pairs.foldl (fun fields p => fields.insert p.1 p.2) empty

/-- The value under a name. -/
def get? (fields : Fields) (name : String) : Option String :=
  (fields.entries.find? fun e => e.1 == name).map Prod.snd

/-- The names, in order. -/
def names (fields : Fields) : List String := fields.entries.map Prod.fst

end Fields
end RecordSync
