import RecordSync.Proofs.Storage.Answers
import RecordSync.Proofs.Storage.Runs

/-!
# Clients that follow a table

A client keeps a copy of a user's rows of a table, by record id, and the greatest time of writing
that it has received. It reads what was written later than this time, deleted rows among it, and
merges what it gets. The user and others go on writing between its reads.

Key definitions: `Client`, `Client.receiveAll`, `Store.own?`, `Following`, `Following.Step`.
Key theorems: `Client.received_of_since`, `Client.le_since`, `Store.own?_of_step`.
-/
namespace RecordSync

/-! ### Clients -/

/-- What a client has: records by their ids, and the greatest time of writing among all that it has
received. -/
structure Client where
  copy : String → Option Record
  since : Option Instant

namespace Client

/-- A client that has received nothing. -/
def fresh : Client := ⟨fun _ => none, none⟩

/-- The greater of two times, as far as there are any. -/
def greatest : Option Instant → Option Instant → Option Instant
  | none, b => b
  | some a, none => some a
  | some a, some b => if a.Before b then some b else some a

/-- The client with one more record, in the place of the one with its id. -/
def receive (c : Client) (r : Record) : Client where
  copy id := if r.id? = some id then some r else c.copy id
  since := greatest c.since r.updatedAt?

/-- The client with more records, one after the other. -/
def receiveAll (c : Client) (rs : List Record) : Client := rs.foldl receive c

@[simp] theorem copy_receive (c : Client) (r : Record) (id : String) :
    (c.receive r).copy id = if r.id? = some id then some r else c.copy id := rfl

@[simp] theorem since_receive (c : Client) (r : Record) :
    (c.receive r).since = greatest c.since r.updatedAt? := rfl

theorem receiveAll_cons (c : Client) (r : Record) (rs : List Record) :
    c.receiveAll (r :: rs) = (c.receive r).receiveAll rs := rfl

theorem copy_receiveAll_of_notMem {c : Client} {rs : List Record} {id : String}
    (h : ∀ r ∈ rs, r.id? ≠ some id) : (c.receiveAll rs).copy id = c.copy id := by
  induction rs generalizing c with
  | nil => rfl
  | cons r rs ih =>
    obtain ⟨hr, hrs⟩ := List.forall_mem_cons.mp h
    rw [receiveAll_cons, ih hrs, copy_receive, if_neg hr]

/-- A record that is the only one of its id among those received is then in the copy. -/
theorem copy_receiveAll_of_mem {c : Client} {rs : List Record} {r : Record} {id : String}
    (hm : r ∈ rs) (hid : r.id? = some id) (only : ∀ r' ∈ rs, r'.id? = some id → r' = r) :
    (c.receiveAll rs).copy id = some r := by
  induction rs generalizing c with
  | nil => cases hm
  | cons x rs ih =>
    rw [receiveAll_cons]
    by_cases later : r ∈ rs
    · exact ih later fun r' hr' => only r' (List.mem_cons_of_mem _ hr')
    · obtain rfl : r = x := (List.mem_cons.mp hm).resolve_right later
      have none_later : ∀ r' ∈ rs, r'.id? ≠ some id := fun r' hr' heq =>
        later (only r' (List.mem_cons_of_mem _ hr') heq ▸ hr')
      rw [copy_receiveAll_of_notMem none_later, copy_receive, if_pos hid]

/-- An instant that is a number of whole microseconds. -/
def IsWhole (t : Instant) : Prop := ∃ us, Instant.ofMicros? us = some t

theorem eq_of_greatest {a b : Option Instant} {t : Instant} (h : greatest a b = some t) :
    a = some t ∨ b = some t := by
  cases a with
  | none => exact .inr h
  | some a =>
    cases b with
    | none => exact .inl h
    | some b =>
      rw [greatest] at h
      split at h
      · exact .inr h
      · exact .inl h

theorem le_greatest {a b : Option Instant} (ha : ∀ t, a = some t → IsWhole t)
    (hb : ∀ t, b = some t → IsWhole t) {t : Instant} (h : a = some t ∨ b = some t) :
    ∃ t', greatest a b = some t' ∧ t.storedMicros ≤ t'.storedMicros := by
  cases a with
  | none =>
    rcases h with h | h
    · cases h
    · exact ⟨t, h, Int.le_refl _⟩
  | some a =>
    cases b with
    | none =>
      rcases h with h | h
      · exact ⟨t, h, Int.le_refl _⟩
      · cases h
    | some b =>
      obtain ⟨us, hus⟩ := ha a rfl
      obtain ⟨us', hus'⟩ := hb b rfl
      have order := Instant.before_iff_lt hus hus'
      have stored := Instant.storedMicros_of_ofMicros? hus
      have stored' := Instant.storedMicros_of_ofMicros? hus'
      rw [greatest]
      by_cases lt : a.Before b
      · have := order.mp lt
        refine ⟨b, if_pos lt, ?_⟩
        rcases h with h | h <;> cases h <;> omega
      · have : ¬us < us' := fun h => lt (order.mpr h)
        refine ⟨a, if_neg lt, ?_⟩
        rcases h with h | h <;> cases h <;> omega

/-- The time that a client has reached is one that it has received. -/
theorem received_of_since {c : Client} {rs : List Record} {t : Instant}
    (h : (c.receiveAll rs).since = some t) :
    c.since = some t ∨ ∃ r ∈ rs, r.updatedAt? = some t := by
  induction rs generalizing c with
  | nil => exact .inl h
  | cons r rs ih =>
    rcases ih h with h | ⟨r', hr', h⟩
    · rw [since_receive] at h
      exact (eq_of_greatest h).imp id fun h => ⟨r, List.mem_cons_self, h⟩
    · exact .inr ⟨r', List.mem_cons_of_mem _ hr', h⟩

/-- No time that a client has received is greater than the one that it has reached. -/
theorem le_since {c : Client} {rs : List Record} (hc : ∀ t, c.since = some t → IsWhole t)
    (hrs : ∀ r ∈ rs, ∀ t, r.updatedAt? = some t → IsWhole t) {t : Instant}
    (h : c.since = some t ∨ ∃ r ∈ rs, r.updatedAt? = some t) :
    ∃ t', (c.receiveAll rs).since = some t' ∧ t.storedMicros ≤ t'.storedMicros := by
  induction rs generalizing c t with
  | nil =>
    rcases h with h | ⟨r, hr, -⟩
    · exact ⟨t, h, Int.le_refl _⟩
    · cases hr
  | cons r rs ih =>
    obtain ⟨hr, hrs⟩ := List.forall_mem_cons.mp hrs
    have whole : ∀ t, (c.receive r).since = some t → IsWhole t := fun t ht =>
      (eq_of_greatest ht).elim (hc t) (hr t)
    have more (u : Instant) (hu : (c.receive r).since = some u) := ih whole hrs (.inl hu)
    rw [receiveAll_cons]
    by_cases later : ∃ r' ∈ rs, r'.updatedAt? = some t
    · exact ih whole hrs (.inr later)
    · have first : c.since = some t ∨ r.updatedAt? = some t := by
        refine h.imp id fun ⟨r', hr', ht⟩ => ?_
        rcases List.mem_cons.mp hr' with rfl | hr'
        · exact ht
        · exact absurd ⟨r', hr', ht⟩ later
      obtain ⟨u, hu, le⟩ := le_greatest hc hr first
      obtain ⟨t', ht', le'⟩ := more u hu
      exact ⟨t', ht', Int.le_trans le le'⟩

end Client

/-! ### Rows of one user -/

/-- The time that a write gives to a row: that of the store's clock, or the next one after the time
that the row had before. -/
def StoredRow.nextStamp (now : Int) (old : Option StoredRow) : Int :=
  old.elim now fun r => max now (r.updatedAt + 1)

theorem Write.updatedAt_of_made? {user : UserId} {w : Write} {now : Int} {old : Option StoredRow}
    {row : StoredRow} (hid : ∀ r, old = some r → r.id = w.id)
    (h : w.made? user now old = some row) : row.updatedAt = StoredRow.nextStamp now old := by
  cases old with
  | some r => exact ((Write.made?_spec hid h).2.2.2 r rfl).2.1
  | none =>
    cases w with
    | add id fields =>
      obtain rfl : StoredRow.ofFields user id fields now = row := by simpa [made?] using h
      rfl
    | update id fields => simp [made?] at h
    | delete id => simp [made?] at h

namespace Store

/-- The row of a user that a table has under an id. -/
def own? (db : Store) (t : Table) (user : UserId) (id : String) : Option StoredRow :=
  (db.row? t id).filter fun r => r.owner = user

variable {db db' : Store} {t : Table} {user : UserId} {id : String}

theorem own?_eq_some_iff {r : StoredRow} :
    db.own? t user id = some r ↔ db.row? t id = some r ∧ r.owner = user := by
  rw [own?, Option.filter_eq_some_iff, decide_eq_true_iff]

theorem own?_eq_some_iff_mem {r : StoredRow} :
    db.own? t user id = some r ↔ r ∈ (db.rows t).list ∧ r.id = id ∧ r.owner = user := by
  rw [own?_eq_some_iff, row?, Rows.row?_eq_some_iff, and_assoc]

/-- A write leaves what a user has under an id as it is, or puts a row there that is written at the
next time. -/
theorem own?_of_step {r : Request} (h : r.Step db db') (t : Table) (user : UserId) (id : String) :
    db'.own? t user id = db.own? t user id ∨
      ∃ row, db'.own? t user id = some row ∧
        row.updatedAt = StoredRow.nextStamp r.now (db.own? t user id) := by
  rcases h.outcome with ⟨_, -, rfl⟩ | ⟨-, rfl, -, -⟩ | ⟨row, hu, -, rfl, hm⟩
  · exact .inl rfl
  · exact .inl rfl
  · have known : ∀ old, r.row? db = some old → old.id = r.write.id := fun _ h => id_of_row? h
    obtain ⟨hid, howner, -, hold⟩ := Write.made?_spec known hm
    by_cases hc : t = r.table ∧ id = row.id
    · obtain ⟨rfl, rfl⟩ := hc
      have here : db.row? r.table row.id = r.row? db := by rw [Request.row?, hid]
      have found : (db.put r.table row hu).row? r.table row.id = some row := by
        rw [row?_put, if_pos ⟨rfl, rfl⟩]
      by_cases same : r.user = user
      · have mine : db.own? r.table user row.id = r.row? db := by
          rw [own?, here]
          cases ho : r.row? db with
          | none => rfl
          | some old => simp [(hold old ho).1, same]
        refine .inr ⟨row, own?_eq_some_iff.mpr ⟨found, howner.trans same⟩, ?_⟩
        rw [mine]
        exact Write.updatedAt_of_made? known hm
      · refine .inl ?_
        have theirs (x : StoredRow) (hx : x.owner = r.user) :
            (some x).filter (fun x => decide (x.owner = user)) = none := by
          simp [hx, same]
        rw [own?, own?, found, here, theirs row howner]
        cases ho : r.row? db with
        | none => rfl
        | some old => exact (theirs old (hold old ho).1).symm
    · refine .inl ?_
      rw [own?, own?, row?_put, if_neg hc]

end Store

/-! ### Following -/

/-- A store, and a client that follows a user's rows of a table there. -/
structure Following where
  db : Store
  client : Client
  /-- The ids of rows whose last write left them with a time that the client had already reached. -/
  behind : String → Prop

/-- What happens next: a write, by whomever, or a read of the client, at a time of the store's
clock. -/
inductive Turn where
  | write (r : Request)
  | read (limits : Limits) (session : Session) (now : Int)

/-- The time that the store's clock shows. -/
def Turn.now : Turn → Int
  | .write r => r.now
  | .read _ _ now => now

namespace Following

/-- A client that has received nothing. -/
def start (db : Store) : Following := ⟨db, .fresh, fun _ => False⟩

variable (t : Table) (user : UserId)

/-- The client's read: what was written since the time that it has reached. -/
def read (s : Following) (l : Limits) : Call (List Record) :=
  Engine.readAll l t user s.client.since true

/-- The copy has under an id the record of the row that the user has there, or nothing if there is
none. -/
def IsCurrent (s : Following) (id : String) : Prop :=
  s.client.copy id = (s.db.own? t user id).map fun row => row.record t

/-- The store has changed. A row that is not as it was is now behind if the time that it was given
is one that the client has reached; other rows are as they were. -/
def written (s : Following) (db : Store) : Following where
  db := db
  client := s.client
  behind id :=
    (db.own? t user id = s.db.own? t user id ∧ s.behind id) ∨
    (db.own? t user id ≠ s.db.own? t user id ∧ ∃ row reached, db.own? t user id = some row ∧
      s.client.since = some reached ∧ row.updatedAt ≤ reached.storedMicros)

/-- The client has received records. -/
def received (s : Following) (rs : List Record) : Following :=
  { s with client := s.client.receiveAll rs }

/-- One turn. A read in which the store answers as it should gives records, or fails. -/
inductive Step (s : Following) : Turn → Following → Prop
  | write {r : Request} {db : Store} (served : r.Step s.db db) :
    Step s (.write r) (s.written t user db)
  | read {l : Limits} {session : Session} {now : Int} {rs : List Record}
    (faithful : s.db.Faithful now ((s.read t user l).asked session) session.replies)
    (given : ((s.read t user l).run session).1 = .ok rs) :
    Step s (.read l session now) (s.received rs)
  | failed {l : Limits} {session : Session} {now : Int} {e : Halt}
    (given : ((s.read t user l).run session).1 = .error e) : Step s (.read l session now) s

/-- Any number of turns. -/
inductive Run : Following → List Turn → Following → Prop
  | nil (s : Following) : Run s [] s
  | cons {s s' s'' : Following} {turn : Turn} {turns : List Turn} (step : Step t user s turn s')
    (rest : Run s' turns s'') : Run s (turn :: turns) s''

end Following
end RecordSync
