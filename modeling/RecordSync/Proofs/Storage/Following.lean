import RecordSync.Proofs.Storage.Clients

/-!
# Copies that are current

After each read a client's copy of a user's rows has, under every id, the row that the user has
there, unless the row was last written with a time that the client had reached before
(`Following.behind`). Such a row is not read again before it is written again: the read asks for
later times only. When the store's clock shows a new time for each write, no row falls behind. A
clock that shows a time twice is enough for one to do so, because a row is moved beyond its own time
and not beyond that of others.

Key definitions: `Following.Shows`, `Following.Inv`, `Following.Ticks`.
Key theorems: `Following.Step.inv`, `Following.Inv.isCurrent_received_iff`,
`Following.Step.not_behind`, `Following.current_unless_behind`.
-/
namespace RecordSync
namespace Following

variable {t : Table} {user : UserId} {s s' : Following}

/-! ### Records of rows as they were -/

/-- A record shows a row as it was at some time; if that is the time of its last write, the record
is that of the row. -/
def Shows (t : Table) (r : Record) (row : StoredRow) : Prop :=
  ∃ us i, Instant.ofMicros? us = some i ∧ r.get? "updated_at" = some (Rfc3339.micros i) ∧
    us ≤ row.updatedAt ∧ (us = row.updatedAt → r = row.record t)

theorem shows_record {row : StoredRow} (hi : row.instant? ≠ none) : Shows t (row.record t) row := by
  obtain ⟨i, hi⟩ := Option.ne_none_iff_exists'.mp hi
  refine ⟨row.updatedAt, i, hi, ?_, Int.le_refl _, fun _ => rfl⟩
  rw [row.get?_updatedAt_record t, hi]
  rfl

variable {r : Record} {row row' : StoredRow}

/-- What shows a row as it was does so when the row is written again. -/
theorem Shows.later (h : Shows t r row) (later : row.updatedAt < row'.updatedAt) :
    Shows t r row' := by
  obtain ⟨us, i, hi, hr, le, -⟩ := h
  exact ⟨us, i, hi, hr, by omega, by omega⟩

/-- It is then another record than that of the row: times of writing differ, and so do their texts.
-/
theorem Shows.ne_record (h : Shows t r row) (later : row.updatedAt < row'.updatedAt) :
    r ≠ row'.record t := by
  obtain ⟨us, i, hi, hr, le, -⟩ := h
  rintro rfl
  rw [row'.get?_updatedAt_record t] at hr
  obtain ⟨i', hi', text⟩ := Option.map_eq_some_iff.mp hr
  have whole := Rfc3339.micros_injective text
  rw [Instant.toMicros_of_ofMicros? hi', Instant.toMicros_of_ofMicros? hi] at whole
  have stored := Instant.storedMicros_of_ofMicros? hi'
  rw [whole, Instant.storedMicros_of_ofMicros? hi] at stored
  omega

/-- The time of writing in a row's record is read if its year has four digits. -/
theorem updatedAt?_record {i : Instant} (hi : row.instant? = some i) :
    (row.record t).updatedAt? = if Rfc3339.FourDigits i then some i else none := by
  rw [Record.updatedAt?, row.get?_updatedAt_record t, hi, Option.map_some, Option.bind_some,
    Rfc3339.read?_micros, Instant.toMicros_of_ofMicros? hi]

/-- What is read there is the time of the row. -/
theorem stamp_of_record {w : Instant} (h : (row.record t).updatedAt? = some w) :
    Client.IsWhole w ∧ w.storedMicros = row.updatedAt := by
  cases hi : row.instant? with
  | none =>
    rw [Record.updatedAt?, row.get?_updatedAt_record t, hi] at h
    cases h
  | some i =>
    rw [updatedAt?_record hi] at h
    split at h
    · obtain rfl := Option.some.inj h
      exact ⟨⟨_, hi⟩, Instant.storedMicros_of_ofMicros? hi⟩
    · cases h

/-! ### The invariant -/

/-- What holds of a client and its store at all times. -/
structure Inv (t : Table) (user : UserId) (s : Following) : Prop where
  /-- All of the copy shows rows of the user. -/
  shown : ∀ id r, s.client.copy id = some r →
    ∃ row, s.db.own? t user id = some row ∧ Shows t r row
  /-- The time that the client has reached is not beyond that of all rows. -/
  reached : ∀ w, s.client.since = some w → Client.IsWhole w ∧
    ∃ id row, s.db.own? t user id = some row ∧ w.storedMicros ≤ row.updatedAt
  /-- A row that is behind is not in the copy, and has a time that is not asked for. -/
  lost : ∀ id, s.behind id → ∃ row w, s.db.own? t user id = some row ∧ s.client.since = some w ∧
    row.updatedAt ≤ w.storedMicros ∧ s.client.copy id ≠ some (row.record t)
  /-- A row that is not behind is in the copy, or has a time that is still to be asked for. -/
  pending : ∀ id row, ¬s.behind id → s.db.own? t user id = some row →
    s.client.copy id = some (row.record t) ∨
      ∀ w, s.client.since = some w → w.storedMicros < row.updatedAt

theorem inv_start (db : Store) : Inv t user (start db) where
  shown _ _ h := by cases h
  reached _ h := by cases h
  lost _ h := h.elim
  pending _ _ _ _ := .inr fun _ h => by cases h

/-- What a write leaves under an id is what was there, or a row that is written later. -/
theorem change_of_step {q : Request} {db : Store} (h : q.Step s.db db) (id : String) :
    db.own? t user id = s.db.own? t user id ∨
      db.own? t user id ≠ s.db.own? t user id ∧ ∃ row, db.own? t user id = some row ∧
        row.updatedAt = StoredRow.nextStamp q.now (s.db.own? t user id) ∧
        ∀ old, s.db.own? t user id = some old → old.updatedAt < row.updatedAt := by
  rcases Store.own?_of_step h t user id with same | ⟨row, hrow, stamp⟩
  · exact .inl same
  · have later : ∀ old, s.db.own? t user id = some old → old.updatedAt < row.updatedAt := by
      intro old ho
      rw [ho] at stamp
      have : row.updatedAt = max q.now (old.updatedAt + 1) := stamp
      omega
    refine .inr ⟨fun same => ?_, row, hrow, stamp, later⟩
    have := later row (same ▸ hrow)
    omega

/-- Writes keep the invariant. -/
theorem Inv.written {q : Request} {db : Store} (hI : Inv t user s) (h : q.Step s.db db) :
    Inv t user (s.written t user db) where
  shown id r hr := by
    obtain ⟨row, hrow, shows⟩ := hI.shown id r hr
    rcases change_of_step h id with same | ⟨-, row', hrow', -, later⟩
    · exact ⟨row, same.trans hrow, shows⟩
    · exact ⟨row', hrow', shows.later (later row hrow)⟩
  reached w hw := by
    obtain ⟨whole, id, row, hrow, le⟩ := hI.reached w hw
    refine ⟨whole, id, ?_⟩
    rcases change_of_step h id with same | ⟨-, row', hrow', -, later⟩
    · exact ⟨row, same.trans hrow, le⟩
    · have := later row hrow
      exact ⟨row', hrow', by omega⟩
  lost id hb := by
    rcases hb with ⟨same, hb⟩ | ⟨changed, row, w, hrow, hw, le⟩
    · obtain ⟨row, w, hrow, rest⟩ := hI.lost id hb
      exact ⟨row, w, same.trans hrow, rest⟩
    · refine ⟨row, w, hrow, hw, le, fun hc => ?_⟩
      obtain ⟨old, ho, shows⟩ := hI.shown id _ hc
      rcases change_of_step h id with same | ⟨-, row', hrow', -, later⟩
      · exact changed same
      · obtain rfl := Option.some.inj (hrow.symm.trans hrow')
        exact shows.ne_record (later old ho) rfl
  pending id row hn hrow := by
    rcases change_of_step h id with same | ⟨changed, -⟩
    · exact hI.pending id row (fun hb => hn (.inl ⟨same, hb⟩)) (same.symm.trans hrow)
    · refine .inr fun w hw => ?_
      by_contra ge
      exact hn (.inr ⟨changed, row, w, hrow, hw, by omega⟩)

/-! ### Reads -/

section Reads

variable {l : Limits} {session : Session} {now : Int} {rs : List Record}

/-- What the client gets are the records of those rows of the user that have a later time than it
has reached. -/
theorem rows_of_read
    (faithful : s.db.Faithful now ((s.read t user l).asked session) session.replies)
    (given : ((s.read t user l).run session).1 = .ok rs) :
    ∃ rows : List StoredRow, rs = (rows.map fun row => row.record t) ∧
      (∀ row ∈ rows, row.instant? ≠ none) ∧
      ∀ row, row ∈ rows ↔ s.db.own? t user row.id = some row ∧
        ∀ w, s.client.since = some w → w.storedMicros < row.updatedAt := by
  obtain ⟨rows, ordered, instants, rfl⟩ := Engine.records_of_readAll faithful given
  refine ⟨rows, rfl, instants, fun row => ?_⟩
  rw [ordered.mem_iff, List.mem_filter, Store.own?_eq_some_iff_mem]
  cases s.client.since with
  | none => simp [StoredRow.isWanted]
  | some w =>
    simp [StoredRow.isWanted]
    tauto

variable {rows : List StoredRow}

/-- A row that was read is in the copy. -/
theorem copy_of_mem (mine : ∀ row ∈ rows, s.db.own? t user row.id = some row) (hm : row ∈ rows) :
    (s.client.receiveAll (rows.map fun row => row.record t)).copy row.id =
      some (row.record t) := by
  refine Client.copy_receiveAll_of_mem (List.mem_map.mpr ⟨row, hm, rfl⟩) (row.id?_record t) ?_
  intro r hr hid
  obtain ⟨row', hm', rfl⟩ := List.mem_map.mp hr
  rw [row'.id?_record t] at hid
  have found := mine row' hm'
  rw [Option.some.inj hid, mine row hm] at found
  rw [Option.some.inj found]

/-- What was not read stays in the copy as it was. -/
theorem copy_of_notMem {id : String} (h : ∀ row ∈ rows, row.id ≠ id) :
    (s.client.receiveAll (rows.map fun row => row.record t)).copy id = s.client.copy id := by
  refine Client.copy_receiveAll_of_notMem fun r hr hid => ?_
  obtain ⟨row, hm, rfl⟩ := List.mem_map.mp hr
  rw [row.id?_record t] at hid
  exact h row hm (Option.some.inj hid)

/-- A row that is not behind is in the copy after a read. -/
theorem Inv.copy_of_read (hI : Inv t user s)
    (faithful : s.db.Faithful now ((s.read t user l).asked session) session.replies)
    (given : ((s.read t user l).run session).1 = .ok rs) {id : String} (hn : ¬s.behind id)
    (hrow : s.db.own? t user id = some row) :
    (s.received rs).client.copy id = some (row.record t) := by
  obtain ⟨rows, rfl, -, chosen⟩ := rows_of_read faithful given
  have mine : ∀ row ∈ rows, s.db.own? t user row.id = some row := fun row hm =>
    ((chosen row).mp hm).1
  obtain rfl : row.id = id := (Store.own?_eq_some_iff_mem.mp hrow).2.1
  change (s.client.receiveAll (rows.map fun row => row.record t)).copy row.id = _
  by_cases hm : row ∈ rows
  · exact copy_of_mem mine hm
  · have unread : ∀ row' ∈ rows, row'.id ≠ row.id := by
      intro row' hm' hid
      have found := mine row' hm'
      rw [hid, hrow] at found
      exact hm (Option.some.inj found ▸ hm')
    rw [copy_of_notMem unread]
    refine (hI.pending row.id row hn hrow).resolve_right fun later => hm ?_
    exact (chosen row).mpr ⟨hrow, later⟩

/-- The times in records of rows are whole microseconds. -/
theorem whole_of_records (rows : List StoredRow) :
    ∀ r ∈ rows.map (fun row => row.record t), ∀ w, r.updatedAt? = some w → Client.IsWhole w := by
  intro r hr w hw
  obtain ⟨row, -, rfl⟩ := List.mem_map.mp hr
  exact (stamp_of_record hw).1

/-- Reads keep the invariant. -/
theorem Inv.received (hI : Inv t user s)
    (faithful : s.db.Faithful now ((s.read t user l).asked session) session.replies)
    (given : ((s.read t user l).run session).1 = .ok rs) : Inv t user (s.received rs) := by
  have current : ∀ id row, ¬s.behind id → s.db.own? t user id = some row →
      (s.received rs).client.copy id = some (row.record t) := fun id row =>
    hI.copy_of_read faithful given
  obtain ⟨rows, rfl, instants, chosen⟩ := rows_of_read faithful given
  have mine : ∀ row ∈ rows, s.db.own? t user row.id = some row := fun row hm =>
    ((chosen row).mp hm).1
  refine ⟨?_, ?_, ?_, fun id row hn hrow => .inl (current id row hn hrow)⟩
  · intro id r hr
    by_cases hm : ∃ row ∈ rows, row.id = id
    · obtain ⟨row, hm, rfl⟩ := hm
      obtain rfl := Option.some.inj ((copy_of_mem mine hm).symm.trans hr)
      exact ⟨row, mine row hm, shows_record (instants row hm)⟩
    · have unread : ∀ row ∈ rows, row.id ≠ id := fun row hr hid => hm ⟨row, hr, hid⟩
      exact hI.shown id r ((copy_of_notMem unread).symm.trans hr)
  · intro w hw
    rcases Client.received_of_since hw with hw | ⟨r, hr, hw⟩
    · exact hI.reached w hw
    · obtain ⟨row, hm, rfl⟩ := List.mem_map.mp hr
      obtain ⟨whole, stamp⟩ := stamp_of_record hw
      exact ⟨whole, row.id, row, mine row hm, by omega⟩
  · intro id hb
    obtain ⟨row, w, hrow, hw, le, stale⟩ := hI.lost id hb
    obtain ⟨w', hw', le'⟩ := Client.le_since (fun w hw => (hI.reached w hw).1)
      (whole_of_records rows) (.inl hw)
    -- The row is not read: its time is not later than that which the client had reached.
    have unread : ∀ row' ∈ rows, row'.id ≠ id := by
      rintro row' hm' rfl
      obtain ⟨hrow', later⟩ := (chosen row').mp hm'
      obtain rfl := Option.some.inj (hrow.symm.trans hrow')
      have := later w hw
      omega
    refine ⟨row, w', hrow, hw', by omega, ?_⟩
    change (s.client.receiveAll (rows.map fun row => row.record t)).copy id ≠ _
    rwa [copy_of_notMem unread]

/-- After a read the copy is current under the ids that are not behind, and under no other. -/
theorem Inv.isCurrent_received_iff (hI : Inv t user s)
    (faithful : s.db.Faithful now ((s.read t user l).asked session) session.replies)
    (given : ((s.read t user l).run session).1 = .ok rs) (id : String) :
    (s.received rs).IsCurrent t user id ↔ ¬s.behind id := by
  have after := hI.received faithful given
  constructor
  · intro current hb
    obtain ⟨row, w, hrow, -, -, stale⟩ := after.lost id hb
    rw [IsCurrent, hrow] at current
    exact stale current
  · intro hn
    rw [IsCurrent]
    change (s.received rs).client.copy id = (s.db.own? t user id).map _
    cases hrow : s.db.own? t user id with
    | some row => exact hI.copy_of_read faithful given hn hrow
    | none =>
      cases hc : (s.received rs).client.copy id with
      | none => rfl
      | some r =>
        obtain ⟨row, hrow', -⟩ := after.shown id r hc
        exact absurd (hrow'.symm.trans hrow) (Option.some_ne_none row)

/-- The client has reached the time of each row that it was given, if the year has four digits. -/
theorem Inv.reached_of_read (hI : Inv t user s) {id : String} {i : Instant}
    (faithful : s.db.Faithful now ((s.read t user l).asked session) session.replies)
    (given : ((s.read t user l).run session).1 = .ok rs)
    (hrow : s.db.own? t user id = some row)
    (later : ∀ w, s.client.since = some w → w.storedMicros < row.updatedAt)
    (hi : row.instant? = some i) (four : Rfc3339.FourDigits i) :
    ∃ w, (s.received rs).client.since = some w ∧ row.updatedAt ≤ w.storedMicros := by
  obtain ⟨rows, rfl, -, chosen⟩ := rows_of_read faithful given
  obtain rfl : row.id = id := (Store.own?_eq_some_iff_mem.mp hrow).2.1
  have hm : row ∈ rows := (chosen row).mpr ⟨hrow, later⟩
  have stamp : (row.record t).updatedAt? = some i := by rw [updatedAt?_record hi, if_pos four]
  obtain ⟨w, hw, le⟩ := Client.le_since (fun w hw => (hI.reached w hw).1) (whole_of_records rows)
    (.inr ⟨_, List.mem_map.mpr ⟨row, hm, rfl⟩, stamp⟩)
  rw [(stamp_of_record stamp).2] at le
  exact ⟨w, hw, le⟩

end Reads

/-- Turns keep the invariant. -/
theorem Step.inv {turn : Turn} (h : Step t user s turn s') (hI : Inv t user s) : Inv t user s' := by
  cases h with
  | write served => exact hI.written served
  | read faithful given => exact hI.received faithful given
  | failed given => exact hI

theorem Run.inv {turns : List Turn} (h : Run t user s turns s') (hI : Inv t user s) :
    Inv t user s' := by
  induction h with
  | nil => exact hI
  | cons step _ ih => exact ih (step.inv hI)

/-! ### Clocks -/

/-- The times of the store's clock at the writes among some turns. -/
def writeTimes (turns : List Turn) : List Int :=
  turns.filterMap fun
    | .write r => some r.now
    | .read _ _ _ => none

/-- The store's clock shows a new time for each write: one later than the times of the user's rows,
and later than for the writes before. -/
def Ticks (t : Table) (user : UserId) (db : Store) (turns : List Turn) : Prop :=
  (∀ id row, db.own? t user id = some row → ∀ now ∈ writeTimes turns, row.updatedAt < now) ∧
    (writeTimes turns).Pairwise (· < ·)

theorem nextStamp_of_lt {now : Int} {old : Option StoredRow}
    (h : ∀ r, old = some r → r.updatedAt < now) : StoredRow.nextStamp now old = now := by
  cases old with
  | none => rfl
  | some r =>
    have := h r rfl
    change max now (r.updatedAt + 1) = now
    omega

/-- When the clock ticks, a turn leaves no row behind, and the clock goes on ticking. -/
theorem Step.not_behind {turn : Turn} {turns : List Turn} (h : Step t user s turn s')
    (hI : Inv t user s) (ticks : Ticks t user s.db (turn :: turns)) (hn : ∀ id, ¬s.behind id) :
    Ticks t user s'.db turns ∧ ∀ id, ¬s'.behind id := by
  obtain ⟨times, rising⟩ := ticks
  cases h with
  | read faithful given => exact ⟨⟨times, rising⟩, hn⟩
  | failed given => exact ⟨⟨times, rising⟩, hn⟩
  | @write q db served =>
    obtain ⟨first, rising⟩ := List.pairwise_cons.mp rising
    have new : ∀ id row, s.db.own? t user id = some row → row.updatedAt < q.now :=
      fun id row hrow => times id row hrow q.now List.mem_cons_self
    -- What is written gets the time of the clock.
    have change (id : String) : db.own? t user id = s.db.own? t user id ∨
        ∃ row, db.own? t user id = some row ∧ row.updatedAt = q.now := by
      rcases change_of_step served id with same | ⟨-, row, hrow, next, -⟩
      · exact .inl same
      · exact .inr ⟨row, hrow, next.trans (nextStamp_of_lt (new id))⟩
    refine ⟨⟨fun id row hrow now hm => ?_, rising⟩, fun id hb => ?_⟩
    · rcases change id with same | ⟨row', hrow', stamp⟩
      · exact times id row (same.symm.trans hrow) now (List.mem_cons_of_mem _ hm)
      · obtain rfl := Option.some.inj (hrow'.symm.trans hrow)
        have := first now hm
        omega
    · rcases hb with ⟨-, hb⟩ | ⟨changed, row, w, hrow, hw, le⟩
      · exact hn id hb
      · rcases change id with same | ⟨row', hrow', stamp⟩
        · exact changed same
        · obtain rfl := Option.some.inj (hrow'.symm.trans hrow)
          obtain ⟨-, id', other, hother, le'⟩ := hI.reached w hw
          have := new id' other hother
          omega

/-- With a new time for each write no row falls behind. -/
theorem Run.not_behind {turns : List Turn} (h : Run t user s turns s') (hI : Inv t user s)
    (ticks : Ticks t user s.db turns) (hn : ∀ id, ¬s.behind id) (id : String) : ¬s'.behind id := by
  induction h with
  | nil => exact hn id
  | cons step _ ih =>
    obtain ⟨ticks, hn⟩ := step.not_behind hI ticks hn
    exact ih (step.inv hI) ticks hn

/-- **A copy is current unless a row is behind.** A client that starts with nothing has after each
of its reads, under every id, the record of the user's row of this id, unless the row was last
written with a time that the client had already reached, in which case it has another record or
none. With a new time for each write there is no such row. -/
theorem current_unless_behind {db : Store} {turns : List Turn} {l : Limits} {session : Session}
    {now : Int} {rs : List Record} (run : Run t user (start db) turns s)
    (faithful : s.db.Faithful now ((s.read t user l).asked session) session.replies)
    (given : ((s.read t user l).run session).1 = .ok rs) :
    (∀ id, (s.received rs).IsCurrent t user id ↔ ¬s.behind id) ∧
      (Ticks t user db turns → ∀ id, (s.received rs).IsCurrent t user id) := by
  have hI := run.inv (inv_start db)
  have exactly := hI.isCurrent_received_iff faithful given
  exact ⟨exactly, fun ticks id =>
    (exactly id).mpr (run.not_behind (inv_start db) ticks (fun _ hb => hb) id)⟩

/-- A user adds a row, and a client that reads then has its record. -/
theorem current_unless_behind_of_one_row :
    ∃ (user : UserId) (row : StoredRow) (turns : List Turn) (s : Following) (rs : List Record),
      writeTimes turns = [1714557600000000] ∧ s.db.own? .textData user "e1" = some row ∧
      (s.received rs).client.copy "e1" = some (row.record .textData) := by
  let user : UserId := ⟨7, by decide⟩
  let row : StoredRow := .ofFields user "e1" (Fields.ofList [("data", "v1")]) 1714557600000000
  let db : Store := (Store.ofUsers [user]).put .textData row List.mem_cons_self
  obtain ⟨r, -, -, hnow, served⟩ : ∃ r : Request, r.user = user ∧ r.table = .textData ∧
      r.now = 1714557600000000 ∧ r.Step (Store.ofUsers [user]) db :=
    Request.exists_step .textData user (.add "e1" (Fields.ofList [("data", "v1")])) _ rfl
      List.mem_cons_self rfl
  let s : Following := (start (Store.ofUsers [user])).written .textData user db
  have run : Run .textData user (start (Store.ofUsers [user])) [.write r] s :=
    .cons (.write served) (.nil s)
  have times : ∀ x ∈ (db.rows .textData).list, Wire.Fits x.updatedAt ∧ x.instant? ≠ none := by
    intro x hx
    obtain rfl := List.mem_singleton.mp hx
    decide
  obtain ⟨session, rs, faithful, given⟩ := db.exists_read 0 .textData user none true times
  have current := (current_unless_behind run faithful given).2
  have found : s.db.own? .textData user "e1" = some row := rfl
  have ticks : Ticks .textData user (Store.ofUsers [user]) [.write r] := by
    refine ⟨fun id row h => ?_, List.pairwise_singleton _ _⟩
    cases h
  refine ⟨user, row, [.write r], s, rs, congrArg (fun n => [n]) hnow, found, ?_⟩
  exact (current ticks "e1").trans (congrArg (Option.map fun row => row.record .textData) found)

/-- **A repeated time loses a change.** All of this happens within a microsecond: a user adds two
rows and deletes the first, which is moved a microsecond ahead; the client reads both, and reaches
that microsecond; the user changes the second row, which is moved to the same microsecond, and no
read asks for it. -/
theorem stale_copy_of_repeated_time :
    ¬∀ (t : Table) (user : UserId) (db : Store) (turns : List Turn) (s : Following) (l : Limits)
      (session : Session) (now : Int) (rs : List Record),
      (∀ id, db.own? t user id = none) →
      (∀ r, .write r ∈ turns → r.user = user ∧ r.table = t) →
      (turns.map Turn.now ++ [now]).Pairwise (· ≤ ·) →
      Run t user (start db) turns s →
      s.db.Faithful now ((s.read t user l).asked session) session.replies →
      ((s.read t user l).run session).1 = .ok rs →
      ∀ id, (s.received rs).IsCurrent t user id := by
  intro claim
  let user : UserId := ⟨7, by decide⟩
  let now : Int := 1714557600000000
  let v1 := Fields.ofList [("data", "v1")]
  let v2 := Fields.ofList [("data", "v2")]
  let gone : StoredRow := .ofFields user "gone" v1 now
  let kept : StoredRow := .ofFields user "kept" v1 now
  let deleted := gone.marked now
  let changed := kept.changed v2 now
  let db₀ := Store.ofUsers [user]
  let db₁ := db₀.put .textData gone List.mem_cons_self
  let db₂ := db₁.put .textData kept List.mem_cons_self
  let db₃ := db₂.put .textData deleted List.mem_cons_self
  let db₄ := db₃.put .textData changed List.mem_cons_self
  obtain ⟨r₁, user₁, table₁, now₁, served₁⟩ : ∃ r : Request, r.user = user ∧ r.table = .textData ∧
      r.now = now ∧ r.Step db₀ db₁ :=
    Request.exists_step .textData user (.add "gone" v1) now rfl List.mem_cons_self rfl
  obtain ⟨r₂, user₂, table₂, now₂, served₂⟩ : ∃ r : Request, r.user = user ∧ r.table = .textData ∧
      r.now = now ∧ r.Step db₁ db₂ :=
    Request.exists_step .textData user (.add "kept" v1) now rfl List.mem_cons_self rfl
  obtain ⟨r₃, user₃, table₃, now₃, served₃⟩ : ∃ r : Request, r.user = user ∧ r.table = .textData ∧
      r.now = now ∧ r.Step db₂ db₃ :=
    Request.exists_step .textData user (.delete "gone") now rfl List.mem_cons_self rfl
  obtain ⟨r₄, user₄, table₄, now₄, served₄⟩ : ∃ r : Request, r.user = user ∧ r.table = .textData ∧
      r.now = now ∧ r.Step db₃ db₄ :=
    Request.exists_step .textData user (.update "kept" v2) now rfl List.mem_cons_self rfl
  let s₂ := ((start db₀).written .textData user db₁).written .textData user db₂
  let s₃ := s₂.written .textData user db₃
  have known₃ : ∀ x ∈ (db₃.rows .textData).list, Wire.Fits x.updatedAt ∧ x.instant? ≠ none := by
    intro x hx
    have either : x = deleted ∨ x = kept := List.mem_pair.mp hx
    rcases either with h | h <;> rw [h] <;> decide
  obtain ⟨session, rs, faithful, given⟩ := db₃.exists_read now .textData user none true known₃
  let s₄ := (s₃.received rs).written .textData user db₄
  have run : Run .textData user (start db₀)
      [.write r₁, .write r₂, .write r₃, .read {} session now, .write r₄] s₄ :=
    .cons (.write served₁) (.cons (.write served₂) (.cons (.write served₃)
      (.cons (.read faithful given) (.cons (.write served₄) (.nil s₄)))))
  have run₃ : Run .textData user (start db₀) [.write r₁, .write r₂, .write r₃] s₃ :=
    .cons (.write served₁) (.cons (.write served₂) (.cons (.write served₃) (.nil s₃)))
  -- The client reaches the time of the deleted row.
  obtain ⟨i, hi⟩ := Option.ne_none_iff_exists'.mp (by decide : deleted.instant? ≠ none)
  have four : Rfc3339.FourDigits i := by
    unfold Rfc3339.FourDigits Rfc3339.day
    rw [(Instant.parts_of_ofMicros? hi).1]
    decide
  obtain ⟨w, hw, le⟩ := (run₃.inv (inv_start db₀)).reached_of_read faithful given
    (rfl : s₃.db.own? .textData user "gone" = some deleted) (fun w hw => by cases hw) hi four
  -- The changed row gets the same time.
  have behind : s₄.behind "kept" := by
    refine .inr ⟨fun same => ?_, changed, w, rfl, hw, le⟩
    have stamps : changed.updatedAt = kept.updatedAt :=
      congrArg StoredRow.updatedAt (Option.some.inj same)
    exact absurd stamps (by decide)
  have known₄ : ∀ x ∈ (db₄.rows .textData).list, Wire.Fits x.updatedAt ∧ x.instant? ≠ none := by
    intro x hx
    have either : x = deleted ∨ x = changed := List.mem_pair.mp hx
    rcases either with h | h <;> rw [h] <;> decide
  obtain ⟨session', rs', faithful', given'⟩ :=
    db₄.exists_read now .textData user s₄.client.since true known₄
  have current := claim .textData user db₀ _ s₄ {} session' now rs' (fun id => rfl)
    (by simp [user₁, user₂, user₃, user₄, table₁, table₂, table₃, table₄])
    (by simp [Turn.now, now₁, now₂, now₃, now₄]) run faithful' given' "kept"
  exact ((run.inv (inv_start db₀)).isCurrent_received_iff faithful' given' "kept").mp current behind

end Following
end RecordSync
