import RecordSync.Proofs.Time.Cursors
import RecordSync.Proofs.Utf8
import RecordSync.Row

/-!
# Timestamps in the order of time

Texts are compared byte by byte. The texts of instants of the years 0 to 9999 all have 27 bytes, and
numbers of a fixed width at fixed places: the year first, the microsecond last. So the first place
where two of them differ decides, and it decides as the instants do: a day comes before another one
by its year, month and day, and within a day a leap second is a second 60, after second 59 and
before the next minute. What is finer than a microsecond is not shown and does not count.

Key definitions: `Text.Ascii`, `Instant.Dated`.
Key theorems: `Text.bytes_lt_iff_of_ascii`, `Decimal.lt_iff_numeral_lt`,
`Rfc3339.bytes_micros_lt_iff`, `Instant.texts_in_order_of_time`.
-/
namespace RecordSync

/-! ### The order of texts -/

namespace Text

/-- The characters are those that take one byte each. -/
def Ascii (cs : List Char) : Prop := ∀ c ∈ cs, c.toNat ≤ 127

theorem bytes_of_ascii {s : String} (h : Ascii s.toList) :
    bytes s = s.toList.map fun c => UInt8.ofNat c.toNat := by
  have single (cs : List Char) (hcs : Ascii cs) :
      cs.flatMap String.utf8EncodeChar = cs.map fun c => UInt8.ofNat c.toNat := by
    induction cs with
    | nil => rfl
    | cons c cs ih =>
      obtain ⟨hc, hcs⟩ := List.forall_mem_cons.mp hcs
      have one : String.utf8EncodeChar c = [UInt8.ofNat c.toNat] := if_pos hc
      rw [List.flatMap_cons, ih hcs, one, List.map_cons, List.singleton_append]
  rw [Utf8.bytes_eq, single s.toList h]

/-- Texts of ASCII characters come in the order of their characters. -/
theorem bytes_lt_iff_of_ascii {a b : String} (ha : Ascii a.toList) (hb : Ascii b.toList) :
    bytes a < bytes b ↔ a.toList < b.toList := by
  rw [bytes_of_ascii ha, bytes_of_ascii hb]
  generalize a.toList = cs at ha
  generalize b.toList = ds at hb
  induction cs generalizing ds with
  | nil => cases ds <;> simp
  | cons c cs ih =>
    cases ds with
    | nil => simp
    | cons d ds =>
      obtain ⟨hc, hcs⟩ := List.forall_mem_cons.mp ha
      obtain ⟨hd, hds⟩ := List.forall_mem_cons.mp hb
      have value := Utf8.toNat_byte (by omega : c.toNat < 256)
      have value' := Utf8.toNat_byte (by omega : d.toNat < 256)
      have less : UInt8.ofNat c.toNat < UInt8.ofNat d.toNat ↔ c < d := by
        rw [UInt8.lt_iff_toNat_lt, value, value']
        exact Iff.rfl
      have same : UInt8.ofNat c.toNat = UInt8.ofNat d.toNat ↔ c = d := by
        rw [← UInt8.toNat_inj, value, value', Char.toNat_inj]
      rw [List.map_cons, List.map_cons, List.cons_lt_cons_iff, List.cons_lt_cons_iff, less, same,
        ih hcs ds hds]

/-- Two beginnings of one length decide, or what follows them if they are the same. -/
theorem append_lt_append_iff {a b c d : List Char} (h : a.length = b.length) :
    a ++ c < b ++ d ↔ a < b ∨ a = b ∧ c < d := by
  induction a generalizing b with
  | nil =>
    obtain rfl : b = [] := List.length_eq_zero_iff.mp h.symm
    simp
  | cons x a ih =>
    cases b with
    | nil => cases h
    | cons y b =>
      rw [List.cons_append, List.cons_append, List.cons_lt_cons_iff, List.cons_lt_cons_iff,
        ih (Nat.succ.inj h), List.cons.injEq]
      tauto

end Text

/-! ### The order of numbers of one width -/

namespace Decimal

/-- Digits of as many places come in the order of their numbers. -/
theorem lt_iff_numeral_lt {cs ds : List Char} (hc : AllDigits cs) (hd : AllDigits ds)
    (h : cs.length = ds.length) : cs < ds ↔ numeral cs < numeral ds := by
  induction cs generalizing ds with
  | nil =>
    obtain rfl : ds = [] := List.length_eq_zero_iff.mp h.symm
    simp
  | cons c cs ih =>
    cases ds with
    | nil => cases h
    | cons d ds =>
      obtain ⟨⟨low, -⟩, rest⟩ := List.forall_mem_cons.mp hc
      obtain ⟨⟨low', -⟩, rest'⟩ := List.forall_mem_cons.mp hd
      have lengths : cs.length = ds.length := Nat.succ.inj h
      have below : numeral cs < 10 ^ ds.length := lengths ▸ numeral_lt rest
      have below' : numeral ds < 10 ^ ds.length := numeral_lt rest'
      have less : c < d ↔ c.toNat - '0'.toNat < d.toNat - '0'.toNat := by
        change '0'.toNat ≤ c.toNat at low
        change c.toNat < d.toNat ↔ _
        omega
      have same : c = d ↔ c.toNat - '0'.toNat = d.toNat - '0'.toNat := by
        change '0'.toNat ≤ c.toNat at low
        change '0'.toNat ≤ d.toNat at low'
        rw [← Char.toNat_inj]
        omega
      rw [List.cons_lt_cons_iff, ih rest rest' lengths, numeral_cons, numeral_cons, lengths, less,
        same]
      -- A greater first digit outweighs all digits after it.
      have outweighs {v v' : Nat} (hv : v < v') :
          v * 10 ^ ds.length + 10 ^ ds.length ≤ v' * 10 ^ ds.length := by
        rw [← Nat.succ_mul]
        exact Nat.mul_le_mul_right _ (Nat.succ_le_of_lt hv)
      generalize c.toNat - '0'.toNat = v, d.toNat - '0'.toNat = v'
      rcases lt_trichotomy v v' with smaller | rfl | greater
      · have := outweighs smaller
        omega
      · omega
      · have := outweighs greater
        omega

/-- Numbers of one width come in their order, and what follows them decides if they are the same. -/
theorem padded_append_lt_iff {width n n' : Nat} {cs cs' : List Char} (pos : 0 < width)
    (hn : n < 10 ^ width) (hn' : n' < 10 ^ width) :
    padded width n ++ cs < padded width n' ++ cs' ↔ n < n' ∨ n = n' ∧ cs < cs' := by
  have lengths := (length_padded pos hn).trans (length_padded pos hn').symm
  have same : padded width n = padded width n' ↔ n = n' :=
    ⟨Rfc3339.padded_injective, congrArg (padded width)⟩
  rw [Text.append_lt_append_iff lengths, same,
    lt_iff_numeral_lt (allDigits_padded width n) (allDigits_padded width n') lengths,
    numeral_padded, numeral_padded]

end Decimal

/-! ### The order of timestamps -/

namespace Rfc3339

open Decimal (padded)

variable {t t' : Instant}

theorem year_eq_padded (h : FourDigits t) :
    year (day t).year = padded 4 (day t).year.natAbs := by
  have natural : ¬(day t).year < 0 := Int.not_lt.mpr h.1
  rw [year, if_neg natural, if_pos h.2]

theorem ascii_padded (width n : Nat) : Text.Ascii (padded width n) := fun c hc => by
  have digit : c.toNat ≤ '9'.toNat := (Decimal.allDigits_padded width n c hc).2
  exact digit.trans (by decide)

theorem ascii_micros (h : FourDigits t) : Text.Ascii (micros t).toList := by
  intro c hc
  rw [toList_micros, year_eq_padded h, afterYear] at hc
  simp only [List.mem_append, List.mem_cons, List.not_mem_nil, or_false] at hc
  rcases hc with hc | rfl | hc | rfl | hc | rfl | hc | rfl | hc | rfl | hc | rfl | hc | rfl
  all_goals first | decide | exact ascii_padded _ _ c hc

/-- A timestamp of a year with four digits has 27 bytes. -/
theorem length_bytes_micros (h : FourDigits t) : (Text.bytes (micros t)).length = 27 := by
  rw [Text.bytes_of_ascii (ascii_micros h), List.length_map, toList_micros, List.length_append,
    length_year h, length_afterYear]

/-- Hours, minutes, seconds and microseconds as they are shown come in the order of time. A leap
second is shown as one second more in the last second of a minute. -/
theorem shown_lt_iff {second second' leap leap' micro micro' : Nat}
    (last : leap = 0 ∨ leap = 1 ∧ second % 60 = 59)
    (last' : leap' = 0 ∨ leap' = 1 ∧ second' % 60 = 59)
    (small : micro < 1000000) (small' : micro' < 1000000) :
    (second / 3600 < second' / 3600 ∨ second / 3600 = second' / 3600 ∧
      (second / 60 % 60 < second' / 60 % 60 ∨ second / 60 % 60 = second' / 60 % 60 ∧
        (second % 60 + leap < second' % 60 + leap' ∨ second % 60 + leap = second' % 60 + leap' ∧
          micro < micro'))) ↔
      second < second' ∨
        second = second' ∧ micro + 1000000 * leap < micro' + 1000000 * leap' := by
  omega

/-- What is shown of an instant after its second. -/
theorem shown_of_nanos (t : Instant) :
    ((if t.isLeap then 1 else 0) = 0 ∨
      (if t.isLeap then 1 else 0) = 1 ∧ secondOfDay t % 60 = 59) ∧
    t.toMicros.nanos = 1000 * (t.subsecond / 1000 + 1000000 * if t.isLeap then 1 else 0) := by
  obtain ⟨-, -, bound, last⟩ := t.valid
  have leap : t.isLeap = true ↔ nanosPerSecond ≤ t.nanos := by simp [Instant.isLeap]
  simp only [Instant.subsecond, Instant.toMicros, secondOfDay]
  unfold nanosPerSecond at *
  split_ifs with h
  · have long := leap.mp h
    have minute_end := last long
    have rest : t.nanos % 1000000000 = t.nanos - 1000000000 := by omega
    rw [rest]
    omega
  · have short : t.nanos < 1000000000 := Nat.lt_of_not_le fun long => h (leap.mpr long)
    rw [Nat.mod_eq_of_lt short]
    omega

/-- The day, and then the time of the day, decide which of two instants comes first. -/
theorem before_iff : t.toMicros.Before t'.toMicros ↔ (day t).Before (day t') ∨ day t = day t' ∧
    (secondOfDay t < secondOfDay t' ∨
      secondOfDay t = secondOfDay t' ∧ t.toMicros.nanos < t'.toMicros.nanos) := by
  have days : Civil.toDays (day t) = t.secs / 86400 := Civil.toDays_ofDays _
  have days' : Civil.toDays (day t') = t'.secs / 86400 := Civil.toDays_ofDays _
  rw [← Civil.toDays_lt_iff (exists_day t) (exists_day t'),
    ← Civil.toDays_inj (exists_day t) (exists_day t'), days, days']
  unfold Instant.Before secondOfDay
  simp only [Instant.toMicros]
  omega

/-- Years that are not negative, months and days decide as days do. -/
theorem date_before_iff {d d' : Civil.Date} (low : 0 ≤ d.year) (low' : 0 ≤ d'.year)
    (later : Prop) :
    (d.year.natAbs < d'.year.natAbs ∨ d.year.natAbs = d'.year.natAbs ∧
      (d.month < d'.month ∨ d.month = d'.month ∧ (d.day < d'.day ∨ d.day = d'.day ∧ later))) ↔
      d.Before d' ∨ d = d' ∧ later := by
  have less : d.year.natAbs < d'.year.natAbs ↔ d.year < d'.year := by omega
  have same : d.year.natAbs = d'.year.natAbs ↔ d.year = d'.year := by omega
  obtain ⟨y, m, k⟩ := d
  obtain ⟨y', m', k'⟩ := d'
  simp only [Civil.Date.Before, Civil.Date.mk.injEq] at less same ⊢
  rw [less, same]
  tauto

/-- **Timestamps of years with four digits come in the order of time.** -/
theorem bytes_micros_lt_iff (h : FourDigits t) (h' : FourDigits t') :
    Text.bytes (micros t) < Text.bytes (micros t') ↔ t.toMicros.Before t'.toMicros := by
  have low : 0 ≤ (day t).year := h.1
  have low' : 0 ≤ (day t').year := h'.1
  have high := h.2
  have high' := h'.2
  obtain ⟨last, nanos⟩ := shown_of_nanos t
  obtain ⟨last', nanos'⟩ := shown_of_nanos t'
  have years : (day t).year.natAbs < 10 ^ 4 := by omega
  have years' : (day t').year.natAbs < 10 ^ 4 := by omega
  have clock := shown_lt_iff last last' (micro_lt t) (micro_lt t')
  rw [Text.bytes_lt_iff_of_ascii (ascii_micros h) (ascii_micros h'), toList_micros, toList_micros,
    year_eq_padded h, year_eq_padded h', Decimal.padded_append_lt_iff (by decide) years years']
  unfold afterYear
  simp only [List.cons_lt_cons_iff, Char.lt_irrefl, List.lt_irrefl, false_or, true_and, and_false,
    or_false,
    Decimal.padded_append_lt_iff (by decide) (month_lt t) (month_lt t'),
    Decimal.padded_append_lt_iff (by decide) (day_lt t) (day_lt t'),
    Decimal.padded_append_lt_iff (by decide) (hour_lt t) (hour_lt t'),
    Decimal.padded_append_lt_iff (by decide) (minute_lt t) (minute_lt t'),
    Decimal.padded_append_lt_iff (by decide) (second_lt t) (second_lt t'),
    Decimal.padded_append_lt_iff (by decide) (micro_lt t) (micro_lt t')]
  rw [clock, date_before_iff low low', before_iff, nanos, nanos',
    Nat.mul_lt_mul_left (by decide : 0 < 1000)]

end Rfc3339

/-! ### Times that were read -/

namespace Instant

open Rfc3339

variable {t t' : Instant}

/-- The instant falls on a day of the years 0 to 9999. -/
def Dated (t : Instant) : Prop := ∃ d, t.OnDay d ∧ 0 ≤ d.year ∧ d.year ≤ 9999

theorem dated_iff : t.Dated ↔ FourDigits t := by
  constructor
  · rintro ⟨d, on_day, years⟩
    obtain rfl := onDay_iff.mp on_day
    exact years
  · exact fun years => ⟨day t, onDay_iff.mpr rfl, years⟩

theorem eq_of_not_before (h : ¬t.Before t') (h' : ¬t'.Before t) : t = t' := by
  unfold Before at h h'
  have secs : t.secs = t'.secs := by omega
  have nanos : t.nanos = t'.nanos := by omega
  cases t
  cases t'
  congr

theorem before_micros_iff (h : t.Dated) (h' : t'.Dated) :
    Text.before (micros t) (micros t') = true ↔ t.toMicros.Before t'.toMicros := by
  rw [Text.before, decide_eq_true_eq]
  exact bytes_micros_lt_iff (dated_iff.mp h) (dated_iff.mp h')

/-- The texts of times that were read are the timestamps of these. -/
theorem mapM_textOf {cells : List (List UInt8)} {ts : List Instant}
    (h : cells.mapM Wire.readInstant = .ok ts) :
    cells.mapM (Row.textOf .instant) = .ok (ts.map micros) := by
  induction cells generalizing ts with
  | nil =>
    obtain rfl : [] = ts := Except.ok.inj h
    rfl
  | cons bs cells ih =>
    rw [List.mapM_cons] at h ⊢
    cases hb : Wire.readInstant bs with
    | error e => simp [hb, bind, Except.bind] at h
    | ok t =>
      cases hc : cells.mapM Wire.readInstant with
      | error e => simp [hb, hc, bind, Except.bind] at h
      | ok rest =>
        obtain rfl : t :: rest = ts := by
          simpa [hb, hc, bind, Except.bind, pure, Except.pure] using h
        simp [Row.textOf, hb, ih hc, bind, Except.bind, pure, Except.pure, Except.map]

/-- The greatest text is that of the latest time. -/
theorem greatest_iff {ts : List Instant} (dated : ∀ t ∈ ts, t.Dated) (mem : t ∈ ts)
    (latest : ∀ t' ∈ ts, ¬t.toMicros.Before t'.toMicros) {s : String} (hs : s ∈ ts.map micros) :
    (∀ s' ∈ ts.map micros, Text.before s s' = false) ↔ read? s = some t.toMicros := by
  obtain ⟨u, hu, rfl⟩ := List.mem_map.mp hs
  have read : read? (micros u) = some u.toMicros := by
    rw [read?_micros, if_pos (dated_iff.mp (dated u hu))]
  rw [read, Option.some.injEq, List.forall_mem_map]
  constructor
  · intro greatest
    have not_before : ¬u.toMicros.Before t.toMicros := fun before => by
      have := (before_micros_iff (dated u hu) (dated t mem)).mpr before
      rw [greatest t mem] at this
      cases this
    exact eq_of_not_before not_before (latest u hu)
  · intro same v hv
    rw [Bool.eq_false_iff, ne_eq, before_micros_iff (dated u hu) (dated v hv), same]
    exact latest v hv

/-- **Timestamps sort as times do.** The text of an instant of the years 0 to 9999 has 27 bytes. One
such text comes before another one, byte by byte, exactly if its instant comes before the other one
once what is finer than a microsecond is cut off: by the second, and then by the nanosecond, a leap
second being a part of second 59 that comes last. So the texts that are decoded for times of the
store are sorted as these times are, and the greatest text is read back as the latest time. -/
theorem texts_in_order_of_time :
    (∀ t : Instant, t.Dated → (Text.bytes (micros t)).length = 27) ∧
    (∀ t t' : Instant, t.Dated → t'.Dated →
      (Text.before (micros t) (micros t') = true ↔ t.toMicros.Before t'.toMicros)) ∧
    ∀ (cells : List (List UInt8)) (ts : List Instant), cells.mapM Wire.readInstant = .ok ts →
      (∀ t ∈ ts, t.Dated) → ∃ texts, cells.mapM (Row.textOf .instant) = .ok texts ∧
        texts.mergeSort (fun a b => !Text.before b a) =
          (ts.mergeSort fun a b => !decide (b.toMicros.Before a.toMicros)).map micros ∧
        ∀ t ∈ ts, (∀ t' ∈ ts, ¬t.toMicros.Before t'.toMicros) → ∀ s ∈ texts,
          ((∀ s' ∈ texts, Text.before s s' = false) ↔ read? s = some t.toMicros) := by
  refine ⟨fun t dated => length_bytes_micros (dated_iff.mp dated),
    fun t t' dated dated' => before_micros_iff dated dated', fun cells ts given dated =>
    ⟨ts.map micros, mapM_textOf given, ?_,
      fun t mem latest s hs => greatest_iff dated mem latest hs⟩⟩
  refine (List.map_mergeSort fun a ha b hb => ?_).symm
  rw [Bool.not_inj_iff, Bool.eq_iff_iff, decide_eq_true_eq]
  exact (before_micros_iff (dated b hb) (dated a ha)).symm

/-- The end of a leap second and the second after it, and two times in the store: the start of the
year 2017 and that of the year 0. -/
theorem texts_in_order_of_time_of_leap_second :
    let leap : Instant := ⟨1483228799, 1999999999, by decide⟩
    let next : Instant := ⟨1483228800, 0, by decide⟩
    let first : Instant := ⟨-62167219200, 0, by decide⟩
    let cells := [Wire.microsBytes 1483228800000000, Wire.microsBytes (-62167219200000000)]
    (Text.bytes (micros leap)).length = 27 ∧
      Text.before (micros leap) (micros next) = true ∧
      Text.before (micros next) (micros leap) = false ∧
      ∃ texts, cells.mapM (Row.textOf .instant) = .ok texts ∧
        texts.mergeSort (fun a b => !Text.before b a) = [micros first, micros next] ∧
        ∀ s ∈ texts, (∀ s' ∈ texts, Text.before s s' = false) ↔ read? s = some next := by
  intro leap next first cells
  obtain ⟨length, order, sorted⟩ := texts_in_order_of_time
  have dated_leap : leap.Dated := ⟨⟨2016, 12, 31⟩, onDay_iff.mpr (by decide), by decide, by decide⟩
  have dated_next : next.Dated := ⟨⟨2017, 1, 1⟩, onDay_iff.mpr (by decide), by decide, by decide⟩
  have dated_first : first.Dated := ⟨⟨0, 1, 1⟩, onDay_iff.mpr (by decide), by decide, by decide⟩
  have dated : ∀ t ∈ [next, first], t.Dated :=
    List.forall_mem_cons.mpr ⟨dated_next, List.forall_mem_singleton.mpr dated_first⟩
  obtain ⟨texts, decoded, sorted, greatest⟩ := sorted cells [next, first] (by decide) dated
  have by_time : ([next, first].mergeSort fun a b => !decide (b.toMicros.Before a.toMicros)) =
      [first, next] := by cbv
  rw [by_time] at sorted
  refine ⟨length leap dated_leap, (order leap next dated_leap dated_next).mpr (by decide), ?_,
    texts, decoded, sorted, greatest next List.mem_cons_self (by decide)⟩
  rw [Bool.eq_false_iff, ne_eq, order next leap dated_next dated_leap]
  decide

end Instant
end RecordSync
