import RecordSync.Proofs.Digits
import RecordSync.Proofs.Time.Calendar
import RecordSync.Time.Rfc3339

/-!
# Timestamps read back

A timestamp is read back as long as its year has four digits; with a sign in front of the year it is
no timestamp. What is read has the second of the instant, and within it what the digits of the
fraction say: with the shortest fraction it is the instant, with microseconds it is the instant
without what is finer. A text with microseconds determines the instant up to that, whatever its year
is. Instants of whole microseconds come in the order of their numbers.

Key definitions: `Rfc3339.FourDigits`, `Rfc3339.shownClock`, `Instant.Before`.
Key theorems: `Rfc3339.number_padded`, `Rfc3339.readChars_wholeSeconds`, `Rfc3339.read_micros`,
`Rfc3339.read?_micros`, `Rfc3339.read?_shortest`, `Rfc3339.micros_injective`,
`Instant.before_iff_lt`.
-/
namespace RecordSync

namespace Rfc3339

open Decimal (padded)

theorem number_of_valueFrom? {high m : Nat} {cs : List Char}
    (h : Decimal.valueFrom? high cs = some m) (rest : List Char) :
    number cs.length high (cs ++ rest) = .ok (m, rest) := by
  induction cs generalizing high with
  | nil =>
    obtain rfl : high = m := by simpa [Decimal.valueFrom?] using h
    rfl
  | cons c cs ih =>
    rw [Decimal.valueFrom?] at h
    cases hd : Decimal.digit? c with
    | none => simp [hd] at h
    | some d =>
      rw [List.length_cons, List.cons_append, number, hd]
      exact ih (by simpa [hd] using h)

/-- A number that is padded to a width is read back by the reader of that width. -/
theorem number_padded {width n : Nat} (hw : 0 < width) (h : n < 10 ^ width) (rest : List Char) :
    number width 0 (padded width n ++ rest) = .ok (n, rest) := by
  have read := number_of_valueFrom? (Decimal.valueFrom?_padded width n) rest
  rwa [Decimal.length_padded hw h] at read

/-! ### Parts of a timestamp -/

/-- The day that an instant falls on. -/
def day (t : Instant) : Civil.Date := Civil.ofDays (t.secs / 86400)

/-- The second of the day that an instant falls in. -/
def secondOfDay (t : Instant) : Nat := (t.secs % 86400).toNat

/-- A year of four digits. -/
def FourDigits (t : Instant) : Prop := 0 ≤ (day t).year ∧ (day t).year ≤ 9999

instance (t : Instant) : Decidable (FourDigits t) := by unfold FourDigits; infer_instance

theorem secondOfDay_lt (t : Instant) : secondOfDay t < 86400 := by
  unfold secondOfDay
  omega

theorem exists_day (t : Instant) : (day t).Exists := Civil.exists_ofDays _

theorem month_lt (t : Instant) : (day t).month < 10 ^ 2 := by
  have := (exists_day t).2.1
  omega

theorem day_lt (t : Instant) : (day t).day < 10 ^ 2 := by
  have short (y : Int) (m : Nat) : Civil.monthLength y m ≤ 31 := by
    unfold Civil.monthLength
    repeat' split
    all_goals omega
  have := short (day t).year (day t).month
  have := (exists_day t).2.2.2
  omega

theorem hour_lt (t : Instant) : secondOfDay t / 3600 < 10 ^ 2 := by
  have := secondOfDay_lt t
  omega

theorem minute_lt (t : Instant) : secondOfDay t / 60 % 60 < 10 ^ 2 := by omega

theorem second_lt (t : Instant) :
    secondOfDay t % 60 + (if t.isLeap then 1 else 0) < 10 ^ 2 := by
  have : secondOfDay t % 60 < 60 := Nat.mod_lt _ (by decide)
  split <;> omega

theorem length_year {t : Instant} (h : FourDigits t) : (year (day t).year).length = 4 := by
  rw [year, if_neg (by have := h.1; omega), if_pos h.2]
  exact Decimal.length_padded (by decide) (by have := h.2; have := h.1; omega)

/-- A year is written with four characters or more. -/
theorem le_length_year (y : Int) : 4 ≤ (year y).length := by
  have four := Decimal.le_length_padded 4 y.natAbs
  unfold year
  split_ifs
  · exact Nat.le_succ_of_le four
  · exact four
  · exact Nat.le_succ_of_le four

/-- All parts of a timestamp but its year have a fixed length. -/
theorem length_wholeSeconds_eq (t : Instant) :
    (wholeSeconds t).length = (year (day t).year).length + 15 := by
  have hour := Decimal.length_padded (by decide : 0 < 2) (hour_lt t)
  have minute := Decimal.length_padded (by decide : 0 < 2) (minute_lt t)
  have second := Decimal.length_padded (by decide : 0 < 2) (second_lt t)
  have clock : (clock t).length = 8 := by
    unfold secondOfDay at hour minute second
    simp only [clock, List.length_append, List.length_cons, hour, minute, second]
  have date : (date (day t)).length = (year (day t).year).length + 6 := by
    simp only [date, List.length_append, List.length_cons,
      Decimal.length_padded (by decide : 0 < 2) (month_lt t),
      Decimal.length_padded (by decide : 0 < 2) (day_lt t)]
  rw [wholeSeconds, List.length_append, List.length_cons, clock]
  exact congrArg (· + 9) date

theorem length_wholeSeconds {t : Instant} (h : FourDigits t) : (wholeSeconds t).length = 19 := by
  rw [length_wholeSeconds_eq, length_year h]

theorem le_length_wholeSeconds (t : Instant) : 19 ≤ (wholeSeconds t).length := by
  have := le_length_year (day t).year
  rw [length_wholeSeconds_eq]
  omega

/-! ### Reading back -/

theorem length_le_byteLength (cs : List Char) : cs.length ≤ Text.byteLength cs := by
  induction cs with
  | nil => exact Nat.le_refl 0
  | cons c cs ih =>
    have := c.utf8Size_pos
    rw [List.length_cons, Text.byteLength]
    omega

theorem readDate_date {t : Instant} (h : FourDigits t) (rest : List Char) :
    readDate (date (day t) ++ rest) = .ok (day t, rest) := by
  obtain ⟨h0, h9⟩ := h
  have natural : ((day t).year.natAbs : Int) = (day t).year := by omega
  have four : (day t).year.natAbs < 10 ^ 4 := by omega
  have written : year (day t).year = padded 4 (day t).year.natAbs := by
    rw [year, if_neg (by omega), if_pos h9]
  have whole : Civil.Date.mk ((day t).year.natAbs : Int) (day t).month (day t).day = day t := by
    rw [natural]
  rw [readDate, date, written]
  simp only [List.append_assoc, List.cons_append, number_padded (by decide : 0 < 4) four, char,
    ↓reduceIte, bind, Except.bind, number_padded (by decide : 0 < 2) (month_lt t),
    number_padded (by decide : 0 < 2) (day_lt t)]
  simp only [whole, exists_day t, ↓reduceIte]

/-- The time of day that a timestamp shows. -/
def shownClock (t : Instant) : Clock :=
  ⟨secondOfDay t / 3600, secondOfDay t / 60 % 60, secondOfDay t % 60 + if t.isLeap then 1 else 0⟩

theorem readClock_clock (t : Instant) (rest : List Char) :
    readClock (clock t ++ rest) = .ok (shownClock t, rest) := by
  have hour := number_padded (by decide : 0 < 2) (hour_lt t)
  have minute := number_padded (by decide : 0 < 2) (minute_lt t)
  have second := number_padded (by decide : 0 < 2) (second_lt t)
  unfold secondOfDay at hour minute second
  rw [readClock]
  simp only [clock, List.append_assoc, List.cons_append, char, ↓reduceIte, bind, Except.bind, hour,
    minute, second]
  rfl

/-- Digits of a second are read as nanoseconds, whatever their number up to nine. -/
theorem readFraction_padded {width n : Nat} (pos : 0 < width) (le : width ≤ 9)
    (h : n < 10 ^ width) :
    readFraction ('.' :: (padded width n ++ ['Z'])) = .ok (10 ^ (9 - width) * n, ['Z']) := by
  have length := Decimal.length_padded pos h
  have digits := Decimal.isDigit_padded width n
  have nanos : fractionNanos (padded width n) = 10 ^ (9 - width) * n := by
    have nine : (padded width n ++ List.replicate 9 '0').take 9 =
        padded width n ++ List.replicate (9 - width) '0' := by
      rw [List.take_append, length, List.take_of_length_le (by omega), List.take_replicate,
        Nat.min_eq_left (Nat.sub_le 9 width)]
    rw [fractionNanos, nine, Decimal.valueFrom?_append, Decimal.valueFrom?_padded,
      Option.bind_some, Decimal.valueFrom?_zeros, Option.getD_some]
  have taken : (padded width n ++ ['Z']).takeWhile Decimal.isDigit = padded width n := by
    rw [List.takeWhile_append_of_pos digits]
    have : ['Z'].takeWhile Decimal.isDigit = [] := by decide
    rw [this, List.append_nil]
  have left : (padded width n ++ ['Z']).dropWhile Decimal.isDigit = ['Z'] := by
    rw [List.dropWhile_append_of_pos digits]
    decide
  cases hp : padded width n with
  | nil =>
    rw [hp, List.length_nil] at length
    omega
  | cons c cs =>
    rw [hp] at digits taken left nanos
    have first : Decimal.isDigit c = true := digits c List.mem_cons_self
    rw [List.cons_append] at taken left ⊢
    rw [readFraction, if_pos first, taken, left, nanos]

/-- An instant is assembled from the day and the time that are shown for its second, and from what
it has within that second. -/
theorem assemble_shown {t u : Instant} (secs : u.secs = t.secs) (leap : u.isLeap = t.isLeap) :
    assemble (day t) (shownClock t) u.subsecond 0 = some u := by
  have days : Civil.toDays (day t) = t.secs / 86400 := Civil.toDays_ofDays _
  obtain ⟨-, -, hnanos, hleap⟩ := u.valid
  have second_eq : (secondOfDay t : Int) = t.secs % 86400 := by
    unfold secondOfDay
    omega
  rw [← secs] at days second_eq
  unfold assemble shownClock
  rw [← leap]
  cases hl : u.isLeap with
  | true =>
    -- Second 60 is shown, and stands for second 59 with a second of nanoseconds more.
    have long : nanosPerSecond ≤ u.nanos := by simpa [Instant.isLeap] using hl
    have last : secondOfDay t % 60 = 59 := by
      have := hleap long
      omega
    have whole : 86400 * Civil.toDays (day t) + ((3600 * (secondOfDay t / 3600) +
        60 * (secondOfDay t / 60 % 60) + 59 : Nat) : Int) - 0 = u.secs := by
      rw [days]
      omega
    have nanos : u.subsecond + nanosPerSecond = u.nanos := by
      unfold Instant.subsecond
      unfold nanosPerSecond at *
      omega
    simp only [last, ↓reduceIte, whole, nanos]
    exact dif_pos u.valid
  | false =>
    have short : u.nanos < nanosPerSecond := by simpa [Instant.isLeap] using hl
    have plain : secondOfDay t % 60 ≠ 60 := by omega
    have whole : 86400 * Civil.toDays (day t) + ((3600 * (secondOfDay t / 3600) +
        60 * (secondOfDay t / 60 % 60) + secondOfDay t % 60 : Nat) : Int) - 0 = u.secs := by
      rw [days]
      omega
    have nanos : u.subsecond = u.nanos := Nat.mod_eq_of_lt short
    simp only [Bool.false_eq_true, ↓reduceIte, Nat.add_zero, plain, whole, nanos]
    exact dif_pos u.valid

/-- A timestamp of a year with four digits is read back as the instant that has its second, and
within the second what its fraction says. -/
theorem readChars_wholeSeconds {t u : Instant} (h : FourDigits t) (secs : u.secs = t.secs)
    (leap : u.isLeap = t.isLeap) {fraction : List Char}
    (read : readFraction (fraction ++ ['Z']) = .ok (u.subsecond, ['Z'])) :
    readChars (wholeSeconds t ++ fraction ++ ['Z']) = .ok u := by
  have split : wholeSeconds t ++ fraction ++ ['Z'] =
      date (day t) ++ 'T' :: (clock t ++ (fraction ++ ['Z'])) := by
    simp only [wholeSeconds, day, List.append_assoc, List.cons_append]
  have enough : ¬Text.byteLength (wholeSeconds t ++ fraction ++ ['Z']) < 19 := by
    have := length_le_byteLength (wholeSeconds t ++ fraction ++ ['Z'])
    rw [List.length_append, List.length_append, length_wholeSeconds h] at this
    omega
  have inRange : ¬(23 < (shownClock t).hour ∨ 59 < (shownClock t).minute ∨
      60 < (shownClock t).second) := by
    have := secondOfDay_lt t
    simp only [shownClock]
    split <;> omega
  have utc : readOffset ['Z'] = .ok (0, []) := rfl
  have near : ¬86400 ≤ (0 : Int).natAbs := by decide
  rw [readChars, if_neg enough, split]
  simp only [readDate_date h, bind, Except.bind, separator, true_or, ↓reduceIte, readClock_clock,
    read, inRange, utc, ne_eq, not_true_eq_false, near, assemble_shown secs leap]

/-- A year that has not four digits has a sign. -/
theorem year_signed {y : Int} (h : ¬(0 ≤ y ∧ y ≤ 9999)) :
    ∃ sign, (sign = '-' ∨ sign = '+') ∧ year y = sign :: padded 4 y.natAbs := by
  by_cases hy : y < 0
  · exact ⟨'-', .inl rfl, by rw [year, if_pos hy]⟩
  · exact ⟨'+', .inr rfl, by rw [year, if_neg hy, if_neg (by omega)]⟩

/-- A timestamp whose year has a sign is not read back: the sign is no digit. -/
theorem readChars_signed {t : Instant} (h : ¬FourDigits t) (cs : List Char) :
    readChars (wholeSeconds t ++ cs) = .error .invalid := by
  obtain ⟨sign, hs, hy⟩ := year_signed h
  have none_read : Decimal.digit? sign = none := by rcases hs with rfl | rfl <;> decide
  have enough : ¬Text.byteLength (wholeSeconds t ++ cs) < 19 := by
    have bytes := length_le_byteLength (wholeSeconds t ++ cs)
    have chars := le_length_wholeSeconds t
    rw [List.length_append] at bytes
    omega
  have first : wholeSeconds t ++ cs = year (day t).year ++ ('-' :: padded 2 (day t).month ++
      '-' :: padded 2 (day t).day ++ 'T' :: clock t ++ cs) := by
    simp only [wholeSeconds, date, day, List.append_assoc, List.cons_append]
  rw [readChars, if_neg enough, first, hy, List.cons_append]
  simp only [readDate, number, none_read, bind, Except.bind]

/-! ### Whole microseconds are read back -/

theorem micro_lt (t : Instant) : t.subsecond / 1000 < 10 ^ 6 := by
  have : t.subsecond < nanosPerSecond := Nat.mod_lt _ (by decide)
  unfold nanosPerSecond at this
  omega

theorem isLeap_toMicros (t : Instant) : t.toMicros.isLeap = t.isLeap := by
  rw [Instant.isLeap, Instant.isLeap, Instant.toMicros, decide_eq_decide]
  simp only [nanosPerSecond]
  omega

theorem subsecond_toMicros (t : Instant) : t.toMicros.subsecond = 1000 * (t.subsecond / 1000) := by
  simp only [Instant.subsecond, Instant.toMicros, nanosPerSecond]
  omega

/-- **A timestamp of a year with four digits is read back in whole microseconds.** -/
theorem read_micros {t : Instant} (h : FourDigits t) : read (micros t) = .ok t.toMicros := by
  have fraction : readFraction (microsFraction t ++ ['Z']) = .ok (t.toMicros.subsecond, ['Z']) := by
    rw [subsecond_toMicros]
    exact readFraction_padded (by decide) (by decide) (micro_lt t)
  rw [read, micros, String.toList_ofList]
  exact readChars_wholeSeconds (u := t.toMicros) h rfl (isLeap_toMicros t) fraction

theorem read_micros_signed {t : Instant} (h : ¬FourDigits t) :
    read (micros t) = .error .invalid := by
  rw [read, micros, String.toList_ofList, List.append_assoc, readChars_signed h]

theorem read?_micros (t : Instant) :
    read? (micros t) = if FourDigits t then some t.toMicros else none := by
  by_cases h : FourDigits t
  · rw [read?, read_micros h, if_pos h]
    rfl
  · rw [read?, read_micros_signed h, if_neg h]
    rfl

/-! ### Nanoseconds are read back -/

/-- The shortest fraction has 0, 3, 6 or 9 digits, and these are all of the fraction. -/
theorem shortestFraction_cases (t : Instant) :
    (shortestFraction t = [] ∧ t.subsecond = 0) ∨
      ∃ width n, width ∈ [3, 6, 9] ∧ n < 10 ^ width ∧ t.subsecond = 10 ^ (9 - width) * n ∧
        shortestFraction t = '.' :: padded width n := by
  have small : t.subsecond < nanosPerSecond := Nat.mod_lt _ (by decide)
  unfold nanosPerSecond at small
  simp only [shortestFraction]
  split_ifs with none millis micros
  · exact .inl ⟨rfl, none⟩
  · exact .inr ⟨3, t.subsecond / 1000000, by decide, by omega, by omega, rfl⟩
  · exact .inr ⟨6, t.subsecond / 1000, by decide, by omega, by omega, rfl⟩
  · exact .inr ⟨9, t.subsecond, by decide, small, by omega, rfl⟩

/-- The shortest fraction is empty, or a point with 3, 6 or 9 digits. -/
theorem length_shortestFraction (t : Instant) :
    (shortestFraction t).length ∈ [0, 4, 7, 10] := by
  obtain ⟨empty, -⟩ | ⟨width, n, digits, small, -, shown⟩ := shortestFraction_cases t
  · rw [empty]
    decide
  · have all : ∀ w ∈ [3, 6, 9], 0 < w ∧ w + 1 ∈ [0, 4, 7, 10] := by decide
    obtain ⟨pos, length⟩ := all width digits
    rwa [shown, List.length_cons, Decimal.length_padded pos small]

theorem readFraction_shortest (t : Instant) :
    readFraction (shortestFraction t ++ ['Z']) = .ok (t.subsecond, ['Z']) := by
  obtain ⟨empty, zero⟩ | ⟨width, n, digits, small, value, shown⟩ := shortestFraction_cases t
  · rw [empty, zero]
    rfl
  · have pos : 0 < width ∧ width ≤ 9 := by
      have all : ∀ w ∈ [3, 6, 9], 0 < w ∧ w ≤ 9 := by decide
      exact all width digits
    rw [shown, value]
    exact readFraction_padded pos.1 pos.2 small

/-- **The shortest timestamp of a year with four digits is read back without loss.** -/
theorem read?_shortest {t : Instant} (h : FourDigits t) : read? (shortest t) = some t := by
  rw [read?, read, shortest, shortestWith, String.toList_ofList,
    readChars_wholeSeconds h rfl rfl (readFraction_shortest t)]
  rfl

/-! ### One instant for a text -/

/-- What stands in a timestamp after its year. -/
def afterYear (t : Instant) : List Char :=
  '-' :: (padded 2 (day t).month ++ '-' :: (padded 2 (day t).day ++ 'T' ::
    (padded 2 (secondOfDay t / 3600) ++ ':' :: (padded 2 (secondOfDay t / 60 % 60) ++ ':' ::
      (padded 2 (secondOfDay t % 60 + if t.isLeap then 1 else 0) ++ '.' ::
        (padded 6 (t.subsecond / 1000) ++ ['Z']))))))

theorem toList_micros (t : Instant) : (micros t).toList = year (day t).year ++ afterYear t := by
  rw [micros, String.toList_ofList]
  simp only [wholeSeconds, date, clock, microsFraction, afterYear, day, secondOfDay,
    List.append_assoc, List.cons_append]

theorem length_afterYear (t : Instant) : (afterYear t).length = 23 := by
  simp only [afterYear, List.length_cons, List.length_append, List.length_nil,
    Decimal.length_padded (by decide : 0 < 2) (month_lt t),
    Decimal.length_padded (by decide : 0 < 2) (day_lt t),
    Decimal.length_padded (by decide : 0 < 2) (hour_lt t),
    Decimal.length_padded (by decide : 0 < 2) (minute_lt t),
    Decimal.length_padded (by decide : 0 < 2) (second_lt t),
    Decimal.length_padded (by decide : 0 < 6) (micro_lt t)]

/-- The number of a year that is written with or without a sign. -/
def yearValue? : List Char → Option Int
  | '-' :: cs => (Decimal.valueFrom? 0 cs).map fun n : Nat => -(n : Int)
  | '+' :: cs => (Decimal.valueFrom? 0 cs).map Int.ofNat
  | cs => (Decimal.valueFrom? 0 cs).map Int.ofNat

theorem yearValue?_of_digits {cs : List Char} (h : ∀ c ∈ cs, Decimal.isDigit c = true) :
    yearValue? cs = (Decimal.valueFrom? 0 cs).map Int.ofNat := by
  unfold yearValue?
  split
  · exact absurd (h '-' List.mem_cons_self) (by decide)
  · exact absurd (h '+' List.mem_cons_self) (by decide)
  · rfl

theorem yearValue?_year (y : Int) : yearValue? (year y) = some y := by
  have value := Decimal.valueFrom?_padded 4 y.natAbs
  by_cases hy : y < 0
  · have natural : -(y.natAbs : Int) = y := by omega
    rw [year, if_pos hy]
    simp only [yearValue?, value, Option.map_some, natural]
  · have natural : Int.ofNat y.natAbs = y := Int.natAbs_of_nonneg (by omega)
    rw [year, if_neg hy]
    split
    · rw [yearValue?_of_digits (Decimal.isDigit_padded 4 y.natAbs), value, Option.map_some, natural]
    · simp only [yearValue?, value, Option.map_some, natural]

theorem padded_injective {width n n' : Nat} (h : padded width n = padded width n') : n = n' := by
  have := congrArg (Decimal.valueFrom? 0) h
  simpa [Decimal.valueFrom?_padded] using this

/-- Numbers of one width in front of texts can be told apart from what follows. -/
theorem padded_append_inj {width n n' : Nat} {cs cs' : List Char} (hw : 0 < width)
    (hn : n < 10 ^ width) (hn' : n' < 10 ^ width)
    (h : padded width n ++ cs = padded width n' ++ cs') : n = n' ∧ cs = cs' := by
  have lengths := (Decimal.length_padded hw hn).trans (Decimal.length_padded hw hn').symm
  obtain ⟨hp, hc⟩ := List.append_inj h lengths
  exact ⟨padded_injective hp, hc⟩

/-- **A timestamp determines its instant**, in whole microseconds. -/
theorem micros_injective {t t' : Instant} (h : micros t = micros t') :
    t.toMicros = t'.toMicros := by
  have chars := congrArg String.toList h
  rw [toList_micros, toList_micros] at chars
  have lengths := (length_afterYear t).trans (length_afterYear t').symm
  obtain ⟨years, rest⟩ := List.append_inj' chars lengths
  have year_eq : (day t).year = (day t').year := by
    have := congrArg yearValue? years
    simpa [yearValue?_year] using this
  unfold afterYear at rest
  obtain ⟨month_eq, rest⟩ := padded_append_inj (by decide) (month_lt t) (month_lt t')
    (List.cons.inj rest).2
  obtain ⟨day_eq, rest⟩ := padded_append_inj (by decide) (day_lt t) (day_lt t')
    (List.cons.inj rest).2
  obtain ⟨hour_eq, rest⟩ := padded_append_inj (by decide) (hour_lt t) (hour_lt t')
    (List.cons.inj rest).2
  obtain ⟨minute_eq, rest⟩ := padded_append_inj (by decide) (minute_lt t) (minute_lt t')
    (List.cons.inj rest).2
  obtain ⟨second_eq, rest⟩ := padded_append_inj (by decide) (second_lt t) (second_lt t')
    (List.cons.inj rest).2
  obtain ⟨micro_eq, -⟩ := padded_append_inj (by decide) (micro_lt t) (micro_lt t')
    (List.cons.inj rest).2
  have date_eq : day t = day t' := by
    cases hd : day t
    cases hd' : day t'
    rw [hd, hd'] at year_eq month_eq day_eq
    congr
  have clock_eq : shownClock t = shownClock t' := by
    rw [shownClock, hour_eq, minute_eq, second_eq, shownClock]
  have parts := assemble_shown (t := t) (u := t.toMicros) rfl (isLeap_toMicros t)
  have parts' := assemble_shown (t := t') (u := t'.toMicros) rfl (isLeap_toMicros t')
  rw [subsecond_toMicros, date_eq, clock_eq, micro_eq] at parts
  rw [subsecond_toMicros] at parts'
  exact Option.some.inj (parts.symm.trans parts')

end Rfc3339

/-! ### Whole microseconds -/

namespace Instant

/-- One instant comes before another one. -/
def Before (a b : Instant) : Prop := a.secs < b.secs ∨ a.secs = b.secs ∧ a.nanos < b.nanos

instance (a b : Instant) : Decidable (Before a b) := by unfold Before; infer_instance

variable {us us' : Int} {t t' : Instant}

theorem parts_of_ofMicros? (h : ofMicros? us = some t) :
    t.secs = us / 1000000 ∧ t.nanos = 1000 * (us % 1000000).toNat := by
  unfold ofMicros? ofParts? at h
  split at h
  · cases h
    exact ⟨rfl, rfl⟩
  · cases h

/-- The store is given back the number of microseconds that it sent. -/
theorem storedMicros_of_ofMicros? (h : ofMicros? us = some t) : t.storedMicros = us := by
  obtain ⟨secs, nanos⟩ := parts_of_ofMicros? h
  have rest : 0 ≤ us % 1000000 := Int.emod_nonneg us (by decide)
  have whole : (t.secs - storeEpoch) * nanosPerSecond + t.nanos =
      1000 * (us - 1000000 * storeEpoch) := by
    rw [secs, nanos]
    unfold nanosPerSecond storeEpoch
    omega
  rw [storedMicros, whole, Int.mul_tdiv_cancel_left _ (by decide)]
  omega

theorem toMicros_of_ofMicros? (h : ofMicros? us = some t) : t.toMicros = t := by
  obtain ⟨-, nanos⟩ := parts_of_ofMicros? h
  cases t
  simp only [toMicros, mk.injEq, true_and] at *
  omega

/-- Instants of microseconds come in the order of their numbers. -/
theorem before_iff_lt (h : ofMicros? us = some t) (h' : ofMicros? us' = some t') :
    Before t t' ↔ us < us' := by
  obtain ⟨secs, nanos⟩ := parts_of_ofMicros? h
  obtain ⟨secs', nanos'⟩ := parts_of_ofMicros? h'
  unfold Before
  omega

end Instant
end RecordSync
