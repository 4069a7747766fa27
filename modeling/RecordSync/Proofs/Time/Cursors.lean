import RecordSync.Cli.Arguments
import RecordSync.Proofs.Time.Counting
import RecordSync.Proofs.Time.Stamps
import RecordSync.Record

/-!
# Timestamps as cursors

An operator asks for the records after a time, and the time is taken from the text of a record. The
record and the command line read that text alike: as the instant without what is finer than a
microsecond, for a year of four digits, and not at all for another year. Two instants are written
with the same text exactly if they are the same up to that.

Key definitions: `Instant.OnDay`.
Key theorems: `Rfc3339.fourDigits_iff`, `Rfc3339.micros_eq_iff`, `Instant.cursor_reads_back`.
-/
namespace RecordSync

namespace Rfc3339

/-- The instants of the years 0 to 9999 are those between two numbers of seconds. -/
theorem fourDigits_iff (t : Instant) :
    FourDigits t ↔ -62167219200 ≤ t.secs ∧ t.secs ≤ 253402300799 := by
  have days : Civil.toDays (day t) = t.secs / 86400 := Civil.toDays_ofDays _
  have first : Civil.toDays ⟨0, 1, 1⟩ = -719528 := by decide
  have after : Civil.toDays ⟨10000, 1, 1⟩ = 2932897 := by decide
  have from_first := Civil.toDays_newYear_le_iff (exists_day t) 0
  have until_after := Civil.toDays_newYear_le_iff (exists_day t) 10000
  rw [first, days] at from_first
  rw [after, days] at until_after
  unfold FourDigits
  omega

/-- The text of an instant shows nothing that is finer than a microsecond. -/
theorem micros_toMicros (t : Instant) : micros t.toMicros = micros t := by
  have whole : wholeSeconds t.toMicros = wholeSeconds t := by
    simp only [wholeSeconds, clock, isLeap_toMicros]
    rfl
  have fraction : microsFraction t.toMicros = microsFraction t := by
    rw [microsFraction, microsFraction, subsecond_toMicros,
      Nat.mul_div_cancel_left _ (by decide : 0 < 1000)]
  rw [micros, micros, whole, fraction]

/-- **Instants have the same text exactly if they are the same in whole microseconds.** -/
theorem micros_eq_iff {t t' : Instant} : micros t = micros t' ↔ t.toMicros = t'.toMicros := by
  refine ⟨micros_injective, fun same => ?_⟩
  rw [← micros_toMicros t, same, micros_toMicros]

end Rfc3339

namespace Instant

/-- The instant falls on the day, by the day's number. -/
def OnDay (t : Instant) (d : Civil.Date) : Prop := d.Numbered (t.secs / 86400)

theorem onDay_iff {t : Instant} {d : Civil.Date} : t.OnDay d ↔ d = Rfc3339.day t := by
  have there := Rfc3339.exists_day t
  have days : Civil.toDays (Rfc3339.day t) = t.secs / 86400 := Civil.toDays_ofDays _
  rw [OnDay, Civil.numbered_iff]
  constructor
  · rintro ⟨also_there, same⟩
    exact (Civil.toDays_inj also_there there).mp (same.trans days.symm)
  · rintro rfl
    exact ⟨there, days⟩

open Rfc3339 Cli

/-- **The text of an instant is read back as the same cursor**, by records and by the command line:
as the instant with the second it has, a leap second or none as before, and whole microseconds. That
is so for an instant of the years 0 to 9999, and the text of any other one is rejected. -/
theorem cursor_reads_back (t : Instant) :
    ∃ d, (∀ d', t.OnDay d' ↔ d' = d) ∧
      (0 ≤ d.year ∧ d.year ≤ 9999 →
        Given.readSince (micros t) = .ok t.toMicros ∧
        ∀ r : Record, r.get? "updated_at" = some (micros t) → r.updatedAt? = some t.toMicros) ∧
      (¬(0 ≤ d.year ∧ d.year ≤ 9999) →
        Given.readSince (micros t) = .error (.misuse (.invalidValue .since (micros t)
          "expected RFC 3339 timestamp: input contains invalid characters")) ∧
        ∀ r : Record, r.get? "updated_at" = some (micros t) → r.updatedAt? = none) ∧
      t.toMicros.secs = t.secs ∧ t.toMicros.nanos = 1000 * (t.nanos / 1000) ∧
      t.toMicros.isLeap = t.isLeap ∧
      ∀ t', micros t = micros t' ↔ t.toMicros = t'.toMicros := by
  have by_record {r : Record} (text : r.get? "updated_at" = some (micros t)) :
      r.updatedAt? = if FourDigits t then some t.toMicros else none := by
    rw [Record.updatedAt?, text, Option.bind_some, read?_micros]
  refine ⟨day t, fun d' => onDay_iff, fun year => ⟨?_, fun r text => ?_⟩,
    fun year => ⟨?_, fun r text => ?_⟩, rfl, ?_, isLeap_toMicros t, fun t' => micros_eq_iff⟩
  · rw [Given.readSince, read_micros year]
    rfl
  · rw [by_record text]
    exact if_pos year
  · rw [Given.readSince, read_micros_signed year]
    rfl
  · rw [by_record text]
    exact if_neg year
  · simp only [toMicros]
    omega

/-- The end of a leap second, and the start of the year 10000. -/
theorem cursor_reads_back_of_leap_second :
    let t : Instant := ⟨1483228799, 1999999999, by decide⟩
    let late : Instant := ⟨253402300800, 7, by decide⟩
    let row : Instant → Record := fun u => .ofList [("updated_at", some (micros u))]
    let cut : Instant := ⟨1483228799, 1999999000, by decide⟩
    micros t = "2016-12-31T23:59:60.999999Z" ∧ Given.readSince (micros t) = .ok cut ∧
      (row t).updatedAt? = some cut ∧
      micros late = "+10000-01-01T00:00:00.000000Z" ∧ (row late).updatedAt? = none := by
  intro t late row cut
  obtain ⟨d, on_day, kept, -⟩ := cursor_reads_back t
  obtain ⟨d', on_day', -, rejected, -⟩ := cursor_reads_back late
  obtain rfl : ⟨2016, 12, 31⟩ = d := (on_day _).mp (onDay_iff.mpr (by decide))
  obtain rfl : ⟨10000, 1, 1⟩ = d' := (on_day' _).mp (onDay_iff.mpr (by decide))
  obtain ⟨since, record⟩ := kept (by decide)
  have whole : t.toMicros = cut := by decide
  rw [whole] at since record
  exact ⟨by decide +kernel, since, record (row t) rfl, by decide +kernel,
    (rejected (by decide)).2 (row late) rfl⟩

end Instant
end RecordSync
