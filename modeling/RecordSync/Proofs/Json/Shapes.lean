import RecordSync.Proofs.Json.Records
import RecordSync.Proofs.Time.Stamps
import RecordSync.Shape

/-!
# Typed records read back from JSON

A typed record is an object with each of its members once. The reader looks them up by name, and
gets the same texts, the same metadata or none, and the same sync mark. The time of the mark is a
text with as many digits as it needs, and is read back whole as long as its year has four digits.

Key definitions: `SyncMark.FourDigits`.
Key theorems: `Json.readMembers?_obj`, `SyncMark.ofJson?_toJson`, `Shape.ofJson?_toJson`,
`Shape.json_reads_back`.
-/
namespace RecordSync

/-! ### Members of an object -/

/-- Steps that all give something give the list of it. -/
theorem mapM_eq_some_map {β γ : Type} {f : β → Option γ} {g : β → γ} {xs : List β}
    (h : ∀ x ∈ xs, f x = some (g x)) : xs.mapM f = some (xs.map g) := by
  induction xs with
  | nil => rfl
  | cons x xs ih =>
    obtain ⟨first, more⟩ := List.forall_mem_cons.mp h
    rw [List.mapM_cons, first, ih more]
    rfl

namespace Json

/-- A member is found by its name if no other has that name. -/
theorem member?_of_mem {ms : List (String × Json)} (nodup : (ms.map Prod.fst).Nodup)
    {m : String × Json} (mem : m ∈ ms) : member? ms m.1 = some (some m.2) := by
  have only : (ms.filter fun x => x.1 == m.1) = [m] := by
    induction ms with
    | nil => exact absurd mem List.not_mem_nil
    | cons x ms ih =>
      rw [List.map_cons, List.nodup_cons] at nodup
      rcases List.mem_cons.mp mem with rfl | later
      · have others : ∀ y ∈ ms, ¬(y.1 == m.1) = true := fun y hy same =>
          nodup.1 (beq_iff_eq.mp same ▸ List.mem_map_of_mem hy)
        rw [List.filter_cons, if_pos (beq_self_eq_true m.1), List.filter_eq_nil_iff.mpr others]
      · have apart : ¬(x.1 == m.1) = true := fun same =>
          nodup.1 (beq_iff_eq.mp same ▸ List.mem_map_of_mem later)
        rw [List.filter_cons, if_neg apart, ih nodup.2 later]
  rw [member?, only]

/-- The members of an object are read by their names. -/
theorem readMembers?_obj (ms : List (String × Json)) (nodup : (ms.map Prod.fst).Nodup)
    (least : Nat) :
    readMembers? (ms.map Prod.fst) least (.obj ms) = some ((ms.map Prod.snd).map some) := by
  rw [readMembers?, List.mapM_map, List.map_map]
  exact mapM_eq_some_map fun m hm => member?_of_mem nodup hm

end Json

/-! ### The sync mark -/

namespace SyncMark

/-- The time of the mark, if it has one, is in a year of four digits. -/
def FourDigits (m : SyncMark) : Prop := ∀ t, m.updatedAt = some t → Rfc3339.FourDigits t

theorem proper_toJson (m : SyncMark) : m.toJson.Proper :=
  .obj (List.forall_mem_cons.mpr
    ⟨Record.proper_valueJson _, List.forall_mem_singleton.mpr (.bool m.deleted)⟩)

theorem instantOfJson?_shortest {time : Option Instant}
    (years : ∀ t, time = some t → Rfc3339.FourDigits t) :
    instantOfJson? (some (Record.valueJson (time.map Rfc3339.shortest))) = some time := by
  cases time with
  | none => rfl
  | some t =>
    rw [Option.map_some, Record.valueJson, instantOfJson?, Rfc3339.read?_shortest (years t rfl),
      Option.map_some]

theorem ofJson?_toJson {m : SyncMark} (years : m.FourDigits) : ofJson? m.toJson = some m := by
  have names : ["updated_at", "deleted"].Nodup := by decide
  have members := Json.readMembers?_obj [("updated_at",
    Record.valueJson (m.updatedAt.map Rfc3339.shortest)), ("deleted", .bool m.deleted)] names 2
  simp only [List.map_cons, List.map_nil] at members
  simp only [ofJson?, toJson, members, instantOfJson?_shortest years, Json.bool?, bind, Option.bind]

end SyncMark

namespace Shape

variable {α : Type} [Shape α]

theorem nodup_memberNames (α : Type) [Shape α] : (memberNames α).Nodup := by
  rw [memberNames_eq]
  cases table α <;> decide

theorem length_memberValues (x : α) :
    (memberValues (parts x)).length = (memberNames α).length := by
  simp [memberValues, memberNames_eq, length_values x]

theorem proper_toJson (x : α) : (toJson x).Proper := by
  refine .obj fun m hm => ?_
  have value : m.2 ∈ memberValues (parts x) := (List.of_mem_zip hm).2
  simp only [memberValues, List.mem_append, List.mem_cons, List.mem_map, List.not_mem_nil,
    or_false] at value
  rcases value with (id | ⟨s, -, text⟩) | metadata | sync
  · rw [id]
    exact .str _
  · rw [← text]
    exact .str s
  · rw [metadata]
    exact Record.proper_valueJson _
  · rw [sync]
    exact (parts x).sync.proper_toJson

theorem partsOfMembers?_memberValues {p : Parts} (years : p.sync.FourDigits) :
    partsOfMembers? p.values.length ((memberValues p).map some) = some p := by
  have texts : (p.values.map fun s => some (Json.str s)).mapM textOfJson? = some p.values := by
    rw [List.mapM_map]
    exact (mapM_eq_some_map fun s _ => rfl).trans (congrArg some (List.map_id p.values))
  have metadata : optionalTextOfJson? (some (Record.valueJson p.metadata)) = some p.metadata := by
    cases p.metadata <;> rfl
  have width : (p.values.map fun s => some (Json.str s)).length = p.values.length := by
    rw [List.length_map]
  have split : (memberValues p).map some = some (.str p.id) ::
      ((p.values.map fun s => some (Json.str s)) ++
        [some (Record.valueJson p.metadata), some p.sync.toJson]) := by
    simp [memberValues]
  rw [split, partsOfMembers?, List.take_left' width, List.drop_left' width]
  simp only [textOfJson?, texts, metadata, syncOfJson?, SyncMark.ofJson?_toJson years, bind,
    Option.bind, Json.text?]

/-- A typed record is read back from its JSON value. -/
theorem ofJson?_toJson {x : α} (years : (parts x).sync.FourDigits) :
    ofJson? (toJson x) = some x := by
  have names := List.map_fst_zip (Nat.le_of_eq (length_memberValues x).symm)
  have values := List.map_snd_zip (Nat.le_of_eq (length_memberValues x))
  have once : (((memberNames α).zip (memberValues (parts x))).map Prod.fst).Nodup := by
    rw [names]
    exact nodup_memberNames α
  have members := Json.readMembers?_obj _ once ((memberNames α).length - 1)
  rw [names, values, ← toJson] at members
  have read := partsOfMembers?_memberValues years
  have width : (parts x).values.length = (tableOf α).requiredColumns.length := length_values x
  rw [width] at read
  simp only [ofJson?, members, read, ofParts?_parts, bind, Option.bind]

/-- **Typed records come back from JSON.** The text that a typed record is written as is JSON, and a
reader of any JSON text of the record gets the same record, whatever is in its texts, with metadata
or without and marked or not. The time of the sync mark may be any in a year of four digits, also in
a leap second: it is written with 0, 3, 6 or 9 digits of a second, and read back whole. -/
theorem json_reads_back (x : α) (years : (parts x).sync.FourDigits) :
    Json.Document (toJson x) (toJson x).compact ∧
    (Json.parse? (toJson x).compact).bind ofJson? = some x ∧
    (∀ s, Json.Document (toJson x) s → (Json.parse? s).bind ofJson? = some x) ∧
    ∀ t, (parts x).sync.updatedAt = some t →
      (Rfc3339.shortestFraction t).length ∈ [0, 4, 7, 10] ∧
      Rfc3339.read? (Rfc3339.shortest t) = some t := by
  have written := (proper_toJson x).document_compact
  have back (s : String) (document : Json.Document (toJson x) s) :
      (Json.parse? s).bind ofJson? = some x := by
    rw [document.parse?, Option.bind_some, ofJson?_toJson years]
  refine ⟨written, back _ written, back, fun t time => ⟨?_, Rfc3339.read?_shortest (years t time)⟩⟩
  exact Rfc3339.length_shortestFraction t

/-- A card that is marked as deleted in a leap second, and has no metadata. -/
theorem json_reads_back_of_leap_second :
    let t : Instant := ⟨1483228799, 1500000000, by decide⟩
    let x : Card := { id := "\x22\\", holder := "\x00\n", cvv := "😀", sync := ⟨some t, true⟩ }
    Rfc3339.shortest t = "2016-12-31T23:59:60.500Z" ∧
      (Json.parse? (toJson x).compact).bind ofJson? = some x := by
  intro t x
  have years : (parts x).sync.FourDigits := by
    intro u time
    have same : t = u := Option.some.inj time
    rw [← same]
    decide
  exact ⟨by decide, (json_reads_back x years).2.1⟩

end Shape
end RecordSync
