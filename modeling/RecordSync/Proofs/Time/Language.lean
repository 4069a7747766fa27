import RecordSync.Proofs.Results
import RecordSync.Proofs.Time.Cursors

/-!
# The language of timestamps

Which texts are timestamps, and of which instant, is said by a grammar: a day, a separator, a time
of day, perhaps a fraction of a second, and an offset from UTC. The reader checks these parts in
another order, and some of them only after it has read others; it accepts the same texts all the
same. Every text of the grammar stands for an instant, and digits after the ninth do not count.

Key definitions: `Rfc3339.Spelling`, `Rfc3339.Spells`, `Rfc3339.Spelling.Means`.
Key theorems: `Rfc3339.readChars_eq_ok_iff`, `Rfc3339.spells_more_digits_iff`,
`Rfc3339.reads_its_language`.
-/
namespace RecordSync
namespace Rfc3339

open Decimal (AllDigits numeral)

/-! ### The grammar -/

/-- A number in a fixed count of ASCII digits. -/
structure Digits (width : Nat) (cs : List Char) (n : Nat) : Prop where
  length : cs.length = width
  digits : AllDigits cs
  value : n = numeral cs

/-- A day of the calendar as `YYYY-MM-DD`. -/
inductive SpellsDate : List Char → Civil.Date → Prop
  | intro {ys ms ds : List Char} {y m d : Nat} (year : Digits 4 ys y) (month : Digits 2 ms m)
    (day : Digits 2 ds d) (there : (Civil.Date.mk y m d).Exists) :
    SpellsDate (ys ++ '-' :: (ms ++ '-' :: ds)) ⟨y, m, d⟩

/-- A time as `HH:MM:SS`, of any value. -/
inductive SpellsClock : List Char → Clock → Prop
  | intro {hs ms ss : List Char} {h m s : Nat} (hour : Digits 2 hs h) (minute : Digits 2 ms m)
    (second : Digits 2 ss s) : SpellsClock (hs ++ ':' :: (ms ++ ':' :: ss)) ⟨h, m, s⟩

/-- A fraction of a second with its nanoseconds: the first nine digits, filled up with zeros. -/
inductive SpellsFraction : List Char → Nat → Prop
  | absent : SpellsFraction [] 0
  | point {ds : List Char} (given : ds ≠ []) (digits : AllDigits ds) :
    SpellsFraction ('.' :: ds) (numeral ((ds ++ List.replicate 9 '0').take 9))

/-- The sign of an offset; the minus sign is that of ASCII or the one for formulas. -/
inductive Sign : Char → Int → Prop
  | plus : Sign '+' 1
  | hyphen : Sign '-' (-1)
  | minus : Sign '\u2212' (-1)

/-- An offset from UTC, in seconds. -/
inductive SpellsOffset : List Char → Int → Prop
  | utc {c : Char} (letter : c = 'Z' ∨ c = 'z') : SpellsOffset [c] 0
  | signed {c : Char} {hs ms : List Char} {σ : Int} {h m : Nat} (sign : Sign c σ)
    (hours : Digits 2 hs h) (minutes : Digits 2 ms m) (hour_le : h ≤ 23) (minute_le : m ≤ 59) :
    SpellsOffset (c :: (hs ++ ':' :: ms)) (σ * (3600 * h + 60 * m))

/-- What the parts of a timestamp stand for. -/
structure Spelling where
  date : Civil.Date
  clock : Clock
  nanos : Nat
  offset : Int

/-- A time that a clock can show, a leap second among them. -/
def Clock.InDay (c : Clock) : Prop := c.hour ≤ 23 ∧ c.minute ≤ 59 ∧ c.second ≤ 60

/-- The characters of a timestamp, and what its parts stand for. -/
inductive Spells : List Char → Spelling → Prop
  | intro {day clock fraction offset : List Char} {sep : Char} {p : Spelling}
    (date : SpellsDate day p.date) (between : sep = 'T' ∨ sep = 't' ∨ sep = ' ')
    (time : SpellsClock clock p.clock) (inDay : p.clock.InDay)
    (second : SpellsFraction fraction p.nanos) (zone : SpellsOffset offset p.offset) :
    Spells (day ++ sep :: (clock ++ (fraction ++ offset))) p

/-- The instant that a timestamp stands for: the time of the day, as many days after the epoch as
that day is counted, less the offset. Second 60 is second 59 and another 10^9 nanoseconds. -/
def Spelling.Means (p : Spelling) (t : Instant) : Prop :=
  ∃ n, p.date.Numbered n ∧
    t.secs = 86400 * n + (3600 * p.clock.hour + 60 * p.clock.minute + min p.clock.second 59 : Nat) -
      p.offset ∧
    t.nanos = p.nanos + if p.clock.second = 60 then 1000000000 else 0

/-! ### What each reader takes from the front -/

section
variable {cs rest : List Char} {n : Nat}

/-- A number that is read is made of digits at the front. -/
theorem of_number_eq_ok {width high : Nat} (h : number width high cs = .ok (n, rest)) :
    ∃ ds, cs = ds ++ rest ∧ ds.length = width ∧ Decimal.valueFrom? high ds = some n := by
  induction width generalizing high cs with
  | zero =>
    cases h
    exact ⟨[], rfl, rfl, rfl⟩
  | succ width ih =>
    cases cs with
    | nil => cases h
    | cons c cs =>
      rw [number] at h
      cases hd : Decimal.digit? c with
      | none => simp [hd] at h
      | some d =>
        obtain ⟨ds, rfl, length, value⟩ := ih (by simpa [hd] using h)
        exact ⟨c :: ds, rfl, by rw [List.length_cons, length], by
          rw [Decimal.valueFrom?, hd, Option.bind_some, value]⟩

theorem Digits.number {width : Nat} {ds : List Char} (h : Digits width ds n) (rest : List Char) :
    number width 0 (ds ++ rest) = .ok (n, rest) := by
  obtain ⟨rfl, digits, rfl⟩ := h
  exact number_of_valueFrom? (Decimal.valueFrom?_eq_some_iff.mpr ⟨digits, by simp⟩) rest

theorem number_eq_ok_iff {width : Nat} :
    number width 0 cs = .ok (n, rest) ↔ ∃ ds, cs = ds ++ rest ∧ Digits width ds n := by
  constructor
  · intro h
    obtain ⟨ds, split, length, value⟩ := of_number_eq_ok h
    obtain ⟨digits, rfl⟩ := Decimal.valueFrom?_eq_some_iff.mp value
    exact ⟨ds, split, length, digits, by simp⟩
  · rintro ⟨ds, rfl, digits⟩
    exact digits.number rest

theorem char_eq_ok_iff {c : Char} : char c cs = .ok rest ↔ cs = c :: rest := by
  cases cs with
  | nil => simp [char]
  | cons x cs =>
    rw [char]
    split <;> simp [*]

theorem separator_eq_ok_iff :
    separator cs = .ok rest ↔ ∃ c, (c = 'T' ∨ c = 't' ∨ c = ' ') ∧ cs = c :: rest := by
  cases cs with
  | nil => simp [separator]
  | cons x cs =>
    rw [separator]
    split <;> simp_all [and_comm]

theorem SpellsDate.read {front : List Char} {d : Civil.Date} (h : SpellsDate front d)
    (rest : List Char) : readDate (front ++ rest) = .ok (d, rest) := by
  obtain ⟨year, month, day, there⟩ := h
  simp only [readDate, List.append_assoc, List.cons_append, year.number, month.number, day.number,
    char, ↓reduceIte, bind, Except.bind, there]

theorem readDate_eq_ok_iff {d : Civil.Date} :
    readDate cs = .ok (d, rest) ↔ ∃ front, cs = front ++ rest ∧ SpellsDate front d := by
  constructor
  · intro h
    simp only [readDate, bind_eq_ok_iff, Prod.exists, number_eq_ok_iff, char_eq_ok_iff] at h
    obtain ⟨y, _, ⟨ys, rfl, year⟩, _, rfl, m, _, ⟨ms, rfl, month⟩, _, rfl, k, _, ⟨ds, rfl, day⟩,
      h⟩ := h
    split at h
    · rename_i there
      cases h
      exact ⟨_, by simp, .intro year month day there⟩
    · cases h
  · rintro ⟨front, rfl, date⟩
    exact date.read rest

theorem SpellsClock.read {front : List Char} {c : Clock} (h : SpellsClock front c)
    (rest : List Char) : readClock (front ++ rest) = .ok (c, rest) := by
  obtain ⟨hour, minute, second⟩ := h
  simp only [readClock, List.append_assoc, List.cons_append, hour.number, minute.number,
    second.number, char, ↓reduceIte, bind, Except.bind]

theorem readClock_eq_ok_iff {c : Clock} :
    readClock cs = .ok (c, rest) ↔ ∃ front, cs = front ++ rest ∧ SpellsClock front c := by
  constructor
  · intro h
    simp only [readClock, bind_eq_ok_iff, Prod.exists, number_eq_ok_iff, char_eq_ok_iff] at h
    obtain ⟨h, _, ⟨hs, rfl, hour⟩, _, rfl, m, _, ⟨ms, rfl, minute⟩, _, rfl, s, _, ⟨ss, rfl, second⟩,
      done⟩ := h
    cases done
    exact ⟨_, by simp, .intro hour minute second⟩
  · rintro ⟨front, rfl, clock⟩
    exact clock.read rest

/-- The first nine digits of a fraction, with zeros in the place of missing ones, are digits. -/
theorem allDigits_nine {ds : List Char} (digits : AllDigits ds) :
    AllDigits ((ds ++ List.replicate 9 '0').take 9) := by
  intro c hc
  rcases List.mem_append.mp (List.mem_of_mem_take hc) with given | filled
  · exact digits c given
  · rw [List.eq_of_mem_replicate filled]
    decide

theorem fractionNanos_eq {ds : List Char} (digits : AllDigits ds) :
    fractionNanos ds = numeral ((ds ++ List.replicate 9 '0').take 9) := by
  rw [fractionNanos, Decimal.valueFrom?_eq_some_iff.mpr ⟨allDigits_nine digits, rfl⟩,
    Option.getD_some, Nat.zero_mul, Nat.zero_add]

theorem of_readFraction_eq_ok (h : readFraction cs = .ok (n, rest)) :
    ∃ front, cs = front ++ rest ∧ SpellsFraction front n := by
  unfold readFraction at h
  split at h
  · cases h
  · rename_i c cs
    split at h
    · rename_i digit
      cases h
      have digits : AllDigits ((c :: cs).takeWhile Decimal.isDigit) := fun x hx =>
        Decimal.isDigit_iff.mp (List.mem_takeWhile_imp hx)
      have given : (c :: cs).takeWhile Decimal.isDigit ≠ [] := by simp [digit]
      refine ⟨'.' :: (c :: cs).takeWhile Decimal.isDigit, ?_, ?_⟩
      · rw [List.cons_append, List.takeWhile_append_dropWhile]
      · rw [fractionNanos_eq digits]
        exact .point given digits
    · cases h
  · cases h
    exact ⟨[], rfl, .absent⟩

/-- A fraction is read up to what cannot stand in it. -/
theorem SpellsFraction.read {front : List Char} (h : SpellsFraction front n)
    {c : Char} (point : c ≠ '.') (digit : Decimal.isDigit c = false) (rest : List Char) :
    readFraction (front ++ c :: rest) = .ok (n, c :: rest) := by
  cases h with
  | absent =>
    rw [List.nil_append]
    unfold readFraction
    split
    · simp_all
    · simp_all
    · rfl
  | @point ds given digits =>
    have all : ∀ x ∈ ds, Decimal.isDigit x = true := fun x hx =>
      Decimal.isDigit_iff.mpr (digits x hx)
    have taken : (ds ++ c :: rest).takeWhile Decimal.isDigit = ds := by
      rw [List.takeWhile_append_of_pos all, List.takeWhile_cons, digit]
      simp
    have left : (ds ++ c :: rest).dropWhile Decimal.isDigit = c :: rest := by
      rw [List.dropWhile_append_of_pos all, List.dropWhile_cons, digit]
      simp
    cases ds with
    | nil => exact absurd rfl given
    | cons d ds =>
      rw [List.cons_append] at taken left
      rw [List.cons_append, List.cons_append, readFraction, if_pos (all d List.mem_cons_self),
        taken, left, fractionNanos_eq digits]

/-! ### The offset -/

theorem offsetDigits_eq_ok_iff :
    offsetDigits cs = .ok (n, rest) ↔ ∃ ds, cs = ds ++ rest ∧ Digits 2 ds n := by
  unfold offsetDigits
  split
  · rename_i short
    refine ⟨nofun, ?_⟩
    rintro ⟨ds, rfl, digits⟩
    have bytes := length_le_byteLength (ds ++ rest)
    rw [List.length_append, digits.length] at bytes
    omega
  · exact number_eq_ok_iff

theorem offsetColon_eq_ok_iff : offsetColon cs = .ok rest ↔ cs = ':' :: rest := by
  cases cs with
  | nil => simp [offsetColon]
  | cons c cs =>
    rw [offsetColon, char_eq_ok_iff]
    exact nofun

theorem readOffsetSize_eq_ok_iff {size : Nat} :
    readOffsetSize cs = .ok (size, rest) ↔ ∃ hs ms h m, cs = hs ++ ':' :: ms ++ rest ∧
      Digits 2 hs h ∧ Digits 2 ms m ∧ m ≤ 59 ∧ size = 3600 * h + 60 * m := by
  simp only [readOffsetSize, bind_eq_ok_iff, Prod.exists, offsetDigits_eq_ok_iff,
    offsetColon_eq_ok_iff]
  constructor
  · rintro ⟨h, _, ⟨hs, rfl, hours⟩, _, rfl, m, _, ⟨ms, rfl, minutes⟩, done⟩
    split at done
    · rename_i minute_le
      cases done
      exact ⟨hs, ms, h, m, by simp, hours, minutes, minute_le, rfl⟩
    · cases done
  · rintro ⟨hs, ms, h, m, rfl, hours, minutes, minute_le, rfl⟩
    refine ⟨h, ':' :: (ms ++ rest), ⟨hs, by simp, hours⟩, _, rfl, m, rest, ⟨ms, rfl, minutes⟩, ?_⟩
    rw [if_pos minute_le]

theorem readOffset_of_sign {c : Char} {σ : Int} (sign : Sign c σ) :
    readOffset (c :: cs) = (readOffsetSize cs).map fun r => (σ * (r.1 : Int), r.2) := by
  cases sign <;> simp [readOffset]

theorem of_readOffset_eq_ok {o : Int} (h : readOffset cs = .ok (o, rest)) :
    (∃ c, (c = 'Z' ∨ c = 'z') ∧ cs = c :: rest ∧ o = 0) ∨
      ∃ c σ tail size, Sign c σ ∧ cs = c :: tail ∧ readOffsetSize tail = .ok (size, rest) ∧
        o = σ * size := by
  have signed {c : Char} {σ : Int} {tail : List Char} (sign : Sign c σ)
      (h : readOffset (c :: tail) = .ok (o, rest)) :
      ∃ size, readOffsetSize tail = .ok (size, rest) ∧ o = σ * size := by
    rw [readOffset_of_sign sign, map_eq_ok_iff] at h
    obtain ⟨⟨size, left⟩, read, ⟨⟩⟩ := h
    exact ⟨size, read, rfl⟩
  cases cs with
  | nil => cases h
  | cons c tail =>
    by_cases letter : c = 'Z' ∨ c = 'z'
    · rw [readOffset, if_pos letter] at h
      cases h
      exact .inl ⟨c, letter, rfl, rfl⟩
    · have sign : ∃ σ, Sign c σ := by
        rw [readOffset, if_neg letter] at h
        split at h
        · rename_i plus
          exact ⟨1, plus ▸ .plus⟩
        · split at h
          · rename_i minus
            rcases minus with rfl | rfl
            · exact ⟨-1, .hyphen⟩
            · exact ⟨-1, .minus⟩
          · cases h
      obtain ⟨σ, sign⟩ := sign
      obtain ⟨size, read, value⟩ := signed sign h
      exact .inr ⟨c, σ, tail, size, sign, rfl, read, value⟩

/-- An offset of less than a day is read exactly if it is spelled. -/
theorem readOffset_eq_ok_iff {o : Int} :
    (readOffset cs = .ok (o, rest) ∧ o.natAbs < 86400) ↔
      ∃ front, cs = front ++ rest ∧ SpellsOffset front o := by
  constructor
  · rintro ⟨done, near⟩
    obtain ⟨c, letter, rfl, rfl⟩ | ⟨c, σ, tail, size, sign, rfl, read, rfl⟩ :=
      of_readOffset_eq_ok done
    · exact ⟨[c], rfl, .utc letter⟩
    · obtain ⟨hs, ms, h, m, rfl, hours, minutes, minute_le, rfl⟩ := readOffsetSize_eq_ok_iff.mp read
      have hour_le : h ≤ 23 := by cases sign <;> omega
      refine ⟨c :: (hs ++ ':' :: ms), rfl, ?_⟩
      push_cast
      exact .signed sign hours minutes hour_le minute_le
  · rintro ⟨_, rfl, spelled⟩
    cases spelled with
    | utc letter =>
      rw [List.cons_append, readOffset, if_pos letter]
      exact ⟨rfl, by decide⟩
    | @signed c hs ms σ h m sign hours minutes hour_le minute_le =>
      have size : readOffsetSize (hs ++ ':' :: ms ++ rest) = .ok (3600 * h + 60 * m, rest) :=
        readOffsetSize_eq_ok_iff.mpr ⟨hs, ms, h, m, rfl, hours, minutes, minute_le, rfl⟩
      rw [List.cons_append, readOffset_of_sign sign, size]
      constructor
      · simp [Except.map]
      · cases sign <;> omega

end

/-! ### Instants of spellings -/

section
variable {cs : List Char} {p : Spelling} {t : Instant}

theorem ofParts?_eq_some_iff {secs : Int} {nanos : Nat} :
    Instant.ofParts? secs nanos = some t ↔ t.secs = secs ∧ t.nanos = nanos := by
  unfold Instant.ofParts?
  constructor
  · intro h
    split at h
    · cases h
      exact ⟨rfl, rfl⟩
    · cases h
  · rintro ⟨rfl, rfl⟩
    rw [dif_pos t.valid]

theorem assemble_eq_some_iff (there : p.date.Exists) (second : p.clock.second ≤ 60) :
    assemble p.date p.clock p.nanos p.offset = some t ↔ p.Means t := by
  have shown : (if p.clock.second = 60 then 59 else p.clock.second) = min p.clock.second 59 := by
    split <;> omega
  simp only [assemble, ofParts?_eq_some_iff, Spelling.Means, Civil.numbered_iff, there, true_and,
    exists_eq_left', shown, nanosPerSecond]

theorem SpellsDate.length {d : Civil.Date} (h : SpellsDate cs d) : cs.length = 10 := by
  obtain ⟨year, month, day, -⟩ := h
  simp only [List.length_append, List.length_cons, year.length, month.length, day.length]

theorem SpellsClock.length {c : Clock} (h : SpellsClock cs c) : cs.length = 8 := by
  obtain ⟨hour, minute, second⟩ := h
  simp only [List.length_append, List.length_cons, hour.length, minute.length, second.length]

theorem SpellsDate.bounds {d : Civil.Date} (h : SpellsDate cs d) :
    d.Exists ∧ 0 ≤ d.year ∧ d.year ≤ 9999 := by
  obtain ⟨⟨length, digits, rfl⟩, -, -, there⟩ := h
  have small := Decimal.numeral_lt digits
  rw [length] at small
  exact ⟨there, by dsimp only; omega, by dsimp only; omega⟩

theorem SpellsFraction.bounds {n : Nat} (h : SpellsFraction cs n) : n < 1000000000 := by
  cases h with
  | absent => decide
  | @point ds given digits =>
    have small := Decimal.numeral_lt (allDigits_nine digits)
    rwa [List.length_take, List.length_append, List.length_replicate,
      Nat.min_eq_left (Nat.le_add_left 9 _)] at small

/-- An offset is less than a day, in whole minutes. -/
theorem SpellsOffset.bounds {o : Int} (h : SpellsOffset cs o) :
    -86400 < o ∧ o < 86400 ∧ o % 60 = 0 := by
  cases h with
  | utc _ => decide
  | signed sign _ _ hour_le minute_le => cases sign <;> omega

/-- An offset starts with what can stand neither in a fraction nor at its start. -/
theorem SpellsOffset.head {o : Int} (h : SpellsOffset cs o) :
    ∃ c tail, cs = c :: tail ∧ c ≠ '.' ∧ Decimal.isDigit c = false := by
  cases h with
  | @utc c letter =>
    refine ⟨c, [], rfl, ?_⟩
    rcases letter with rfl | rfl <;> decide
  | @signed c hs ms σ h m sign _ _ _ _ =>
    refine ⟨c, hs ++ ':' :: ms, rfl, ?_⟩
    cases sign <;> decide

/-- Day, separator and time alone are nineteen characters. -/
theorem Spells.length_le (h : Spells cs p) : 19 ≤ cs.length := by
  obtain ⟨date, -, time, -, -, -⟩ := h
  have day_length := date.length
  have clock_length := time.length
  simp only [List.length_append, List.length_cons]
  omega

/-- Every spelling stands for an instant. -/
theorem Spells.exists_means (h : Spells cs p) : ∃ t, p.Means t := by
  obtain ⟨date, -, -, ⟨hour_le, minute_le, second_le⟩, second, zone⟩ := h
  obtain ⟨there, least, most⟩ := date.bounds
  obtain ⟨west, east, minutes⟩ := zone.bounds
  have small := second.bounds
  have first : Civil.toDays ⟨0, 1, 1⟩ = -719528 := by decide
  have after : Civil.toDays ⟨10000, 1, 1⟩ = 2932897 := by decide
  have from_first := (Civil.toDays_newYear_le_iff there 0).mpr least
  have until_after := (Civil.toDays_newYear_le_iff there 10000).not.mpr (by omega)
  rw [first] at from_first
  rw [after] at until_after
  refine ⟨⟨86400 * Civil.toDays p.date + (3600 * p.clock.hour + 60 * p.clock.minute +
    min p.clock.second 59 : Nat) - p.offset,
    p.nanos + if p.clock.second = 60 then 1000000000 else 0, ?_⟩, _,
    Civil.numbered_iff.mpr ⟨there, rfl⟩, rfl, rfl⟩
  unfold Instant.Valid nanosPerSecond
  split <;> omega

/-! ### The whole text -/

/-- **The reader accepts the texts of the grammar, each as the instant that it stands for.** -/
theorem readChars_eq_ok_iff : readChars cs = .ok t ↔ ∃ p, Spells cs p ∧ p.Means t := by
  constructor
  · intro h
    rw [readChars] at h
    split at h
    · cases h
    simp only [bind_eq_ok_iff, Prod.exists, readDate_eq_ok_iff, separator_eq_ok_iff,
      readClock_eq_ok_iff] at h
    obtain ⟨d, _, ⟨day, rfl, date⟩, _, ⟨sep, between, rfl⟩, c, _, ⟨clock, rfl, time⟩, nanos, left,
      second_read, h⟩ := h
    split at h
    · cases h
    rename_i in_day
    rw [bind_eq_ok_iff] at h
    obtain ⟨⟨offset, behind⟩, zone_read, h⟩ := h
    split at h
    · cases h
    rename_i nothing_behind
    obtain rfl : behind = [] := not_not.mp nothing_behind
    split at h
    · cases h
    rename_i near
    obtain ⟨fraction, rfl, second⟩ := of_readFraction_eq_ok second_read
    obtain ⟨written, rfl, zone⟩ := readOffset_eq_ok_iff.mp ⟨zone_read, Nat.not_le.mp near⟩
    have inDay : c.InDay := by
      unfold Clock.InDay
      omega
    refine ⟨⟨d, c, nanos, offset⟩, ?_, ?_⟩
    · rw [List.append_nil]
      exact .intro date between time inDay second zone
    · split at h
      · rename_i assembled
        cases h
        exact (assemble_eq_some_iff (p := ⟨d, c, nanos, offset⟩) date.bounds.1 inDay.2.2).mp
          assembled
      · cases h
  · rintro ⟨p, spelled, means⟩
    have enough := spelled.length_le
    obtain ⟨date, between, time, inDay, second, zone⟩ := spelled
    obtain ⟨c, tail, rfl, point, digit⟩ := zone.head
    obtain ⟨utc, near⟩ := readOffset_eq_ok_iff.mpr ⟨_, (List.append_nil _).symm, zone⟩
    have assembled := (assemble_eq_some_iff date.bounds.1 inDay.2.2).mpr means
    have bytes := length_le_byteLength
    unfold Clock.InDay at inDay
    rw [readChars, if_neg (Nat.not_lt.mpr (enough.trans (bytes _)))]
    simp only [bind, Except.bind, date.read, separator, between, time.read, second.read point digit,
      utc, ne_eq, not_true_eq_false, ↓reduceIte, assembled]
    rw [if_neg (by omega), if_neg (by omega)]

/-! ### Digits that do not count -/

theorem point_notMem {ds : List Char} (digits : AllDigits ds) : '.' ∉ ds :=
  fun found => absurd (digits _ found) (by decide)

theorem SpellsDate.point_notMem {d : Civil.Date} (h : SpellsDate cs d) : '.' ∉ cs := by
  obtain ⟨year, month, day, -⟩ := h
  simp [Rfc3339.point_notMem year.digits, Rfc3339.point_notMem month.digits,
    Rfc3339.point_notMem day.digits]

theorem SpellsClock.point_notMem {c : Clock} (h : SpellsClock cs c) : '.' ∉ cs := by
  obtain ⟨hour, minute, second⟩ := h
  simp [Rfc3339.point_notMem hour.digits, Rfc3339.point_notMem minute.digits,
    Rfc3339.point_notMem second.digits]

theorem SpellsOffset.point_notMem {o : Int} (h : SpellsOffset cs o) : '.' ∉ cs := by
  cases h with
  | utc letter => rcases letter with rfl | rfl <;> decide
  | @signed c hs ms σ h m sign hours minutes _ _ =>
    have other : '.' ≠ c := by cases sign <;> decide
    simp [other, Rfc3339.point_notMem hours.digits, Rfc3339.point_notMem minutes.digits]

/-- The digits of a fraction that is followed by an offset are all digits that stand there. -/
theorem digits_split {ds all back offset : List Char} {o : Int} (digits : AllDigits ds)
    (zone : SpellsOffset offset o) (same : all ++ offset = ds ++ back) :
    ∃ more, all = ds ++ more ∧ back = more ++ offset := by
  rcases List.append_eq_append_iff.mp same with ⟨more, rfl, inside⟩ | split
  · obtain ⟨c, tail, rfl, -, other⟩ := zone.head
    cases more with
    | nil => exact ⟨[], by simp, inside.symm⟩
    | cons x more =>
      obtain ⟨rfl, -⟩ := List.cons.inj inside
      have digit := Decimal.isDigit_iff.mpr (digits c (by simp))
      rw [other] at digit
      cases digit
  · exact split

/-- Digits after the point may be replaced by others with the same first nine digits. -/
theorem Spells.replace {front ds ds' back : List Char} (digits : AllDigits ds)
    (given' : ds' ≠ []) (digits' : AllDigits ds')
    (same : ∀ more, (ds' ++ more ++ List.replicate 9 '0').take 9 =
      (ds ++ more ++ List.replicate 9 '0').take 9)
    (h : Spells (front ++ '.' :: (ds ++ back)) p) : Spells (front ++ '.' :: (ds' ++ back)) p := by
  generalize text : front ++ '.' :: (ds ++ back) = cs at h
  obtain ⟨date, between, time, inDay, second, zone⟩ := h
  rename_i day clock fraction offset sep
  obtain ⟨d, c, n, o⟩ := p
  dsimp only at *
  have sep_ne : '.' ≠ sep := by rintro rfl; simp at between
  have before : '.' ∉ day ++ sep :: clock := by
    simp [date.point_notMem, time.point_notMem, sep_ne]
  cases second with
  | absent =>
    have point : '.' ∈ day ++ sep :: (clock ++ ([] ++ offset)) := text ▸ by simp
    simp [date.point_notMem, time.point_notMem, sep_ne, zone.point_notMem] at point
  | @point all given all_digits =>
    have after : '.' ∉ all ++ offset := by
      simp [Rfc3339.point_notMem all_digits, zone.point_notMem]
    have split :
        (day ++ sep :: clock) ++ '.' :: (all ++ offset) = front ++ '.' :: (ds ++ back) := by
      simp [text]
    obtain ⟨rfl, -, behind⟩ := (List.append_cons_inj_of_notMem before after).mp split
    obtain ⟨more, rfl, rfl⟩ := digits_split digits zone behind
    have kept : AllDigits (ds' ++ more) := fun x hx =>
      (List.mem_append.mp hx).elim (digits' x) fun hx =>
        all_digits x (List.mem_append_right ds hx)
    have spelled := Spells.intro
      (p := ⟨d, c, numeral ((ds' ++ more ++ List.replicate 9 '0').take 9), o⟩) date between time
      inDay (.point (List.append_ne_nil_of_left_ne_nil given' more) kept) zone
    rw [same] at spelled
    simpa only [List.append_assoc, List.cons_append, List.nil_append] using spelled

/-- Digits after the ninth change nothing about what is spelled. -/
theorem spells_more_digits_iff {front nine more back : List Char} (length : nine.length = 9)
    (digits : AllDigits nine) (further : AllDigits more) :
    Spells (front ++ '.' :: (nine ++ more ++ back)) p ↔
      Spells (front ++ '.' :: (nine ++ back)) p := by
  have given : nine ≠ [] := by
    rintro rfl
    cases length
  have all : AllDigits (nine ++ more) := fun x hx =>
    (List.mem_append.mp hx).elim (digits x) (further x)
  have same (others : List Char) :
      (nine ++ others ++ List.replicate 9 '0').take 9 =
        (nine ++ more ++ others ++ List.replicate 9 '0').take 9 := by
    simp only [List.append_assoc, List.take_append_of_le_length length.ge]
  exact ⟨.replace all given digits same,
    .replace digits (List.append_ne_nil_of_left_ne_nil given more) all fun others =>
      (same others).symm⟩

end

/-! ### The readers of records and of the command line -/

theorem read?_eq_some_iff {s : String} {t : Instant} : read? s = some t ↔ read s = .ok t := by
  rw [read?]
  cases read s <;> simp [Except.toOption]

theorem read_eq_ok_iff {s : String} {t : Instant} :
    read s = .ok t ↔ ∃ p, Spells s.toList p ∧ p.Means t := readChars_eq_ok_iff

/-- **The texts of the grammar are accepted and no others**, each as the instant that it stands for.
That is a valid instant, and it depends on nine digits of a second at most. Records and the command
line read the same texts as the same instants. -/
theorem reads_its_language (s : String) :
    ((∃ t, read s = .ok t) ↔ ∃ p, Spells s.toList p) ∧
    (∀ p t, Spells s.toList p → (read s = .ok t ↔ p.Means t)) ∧
    (∀ t, read s = .ok t →
      t.nanos < 2000000000 ∧ (1000000000 ≤ t.nanos → t.secs % 60 = 59)) ∧
    (∀ front nine more back, nine.length = 9 → AllDigits nine → AllDigits more →
      s.toList = front ++ '.' :: (nine ++ more ++ back) →
      ∀ t, read s = .ok t ↔ read (String.ofList (front ++ '.' :: (nine ++ back))) = .ok t) ∧
    (∀ t, Cli.Given.readSince s = .ok t ↔ read s = .ok t) ∧
    ∀ r : Record, r.get? "updated_at" = some s → ∀ t, r.updatedAt? = some t ↔ read s = .ok t := by
  refine ⟨⟨?_, ?_⟩, fun p t spelled => ⟨fun h => ?_, fun means => ?_⟩, fun t _ => ?_, ?_,
    fun t => ?_, fun r text t => ?_⟩
  · rintro ⟨t, h⟩
    obtain ⟨p, spelled, -⟩ := read_eq_ok_iff.mp h
    exact ⟨p, spelled⟩
  · rintro ⟨p, spelled⟩
    obtain ⟨t, means⟩ := spelled.exists_means
    exact ⟨t, read_eq_ok_iff.mpr ⟨p, spelled, means⟩⟩
  · obtain ⟨t', means⟩ := spelled.exists_means
    have also_read := read_eq_ok_iff.mpr ⟨p, spelled, means⟩
    rw [h] at also_read
    cases also_read
    exact means
  · exact read_eq_ok_iff.mpr ⟨p, spelled, means⟩
  · exact ⟨t.valid.2.2.1, t.valid.2.2.2⟩
  · intro front nine more back length digits further text t
    rw [read_eq_ok_iff, read_eq_ok_iff, text, String.toList_ofList]
    simp only [spells_more_digits_iff length digits further]
  · rw [Cli.Given.readSince]
    cases read s <;> simp [Except.mapError]
  · rw [Record.updatedAt?, text, Option.bind_some, read?_eq_some_iff]

/-- A leap second an hour ahead of UTC, with ten digits of it. In 2015 there was no leap day. -/
theorem reads_its_language_of_leap_second :
    let s := "2017-01-01t00:59:60.1234567899+01:00"
    let t : Instant := ⟨1483228799, 1123456789, by decide⟩
    (∃ p, Spells s.toList p ∧ p.Means t) ∧ Cli.Given.readSince s = .ok t ∧
      (Record.ofList [("updated_at", some s)]).updatedAt? = some t ∧
      read "2017-01-01t00:59:60.123456789+01:00" = .ok t ∧
      ¬∃ p, Spells "2015-02-29 00:00:00Z".toList p := by
  intro s t
  have accepted : read s = .ok t := read?_eq_some_iff.mp (by decide +kernel)
  obtain ⟨spelled, meaning, -, nine, since, record⟩ := reads_its_language s
  obtain ⟨p, hp⟩ := spelled.mp ⟨t, accepted⟩
  refine ⟨⟨p, hp, (meaning p t hp).mp accepted⟩, (since t).mpr accepted,
    (record _ rfl t).mpr accepted, ?_, ?_⟩
  · exact (nine "2017-01-01t00:59:60".toList "123456789".toList ['9'] "+01:00".toList rfl
      (by simp [AllDigits]) (by simp [AllDigits]) (by decide +kernel) t).mp accepted
  · rw [← (reads_its_language "2015-02-29 00:00:00Z").1]
    rintro ⟨t', accepted'⟩
    have refused : read? "2015-02-29 00:00:00Z" = none := by decide +kernel
    rw [read?_eq_some_iff.mpr accepted'] at refused
    cases refused

end Rfc3339
end RecordSync
