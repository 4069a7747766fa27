import Mathlib
import RecordSync.Time.Civil

/-!
# Days and their dates

The date of a number exists and leads back to the number. Within an era, a day is found in its year
by counting centuries, cycles of four years and years; each count stops at three, since the last
century and the last year of a cycle have a day more.

Key theorems: `Civil.yearOfEra_spec`, `Civil.toDays_ofDays`, `Civil.exists_ofDays`.
-/
namespace RecordSync
namespace Civil

/-- The days before a year whose centuries, cycles and years are counted apart. -/
theorem daysBeforeYear_split {c q y : Nat} (hq : q ≤ 24) (hy : y ≤ 3) :
    daysBeforeYear (100 * c + 4 * q + y) = 36524 * c + 1461 * q + 365 * y := by
  unfold daysBeforeYear
  have cycles : (100 * c + 4 * q + y) / 4 = 25 * c + q := by omega
  have centuries : (100 * c + 4 * q + y) / 100 = c := by omega
  rw [cycles, centuries]
  omega

/-- A day of an era is found in the year that it is counted to. Only a year whose last day falls on
the 29th of February has 366 days. -/
theorem yearOfEra_spec {d : Nat} (h : d < 146097) :
    ∃ y k, yearOfEra d = (y, k) ∧ daysBeforeYear y + k = d ∧ y < 400 ∧ k ≤ 365 ∧
      (k = 365 → (y + 1) % 4 = 0 ∧ ((y + 1) % 100 ≠ 0 ∨ (y + 1) % 400 = 0)) := by
  obtain ⟨c, hc⟩ : ∃ c, c = min (d / 36524) 3 := ⟨_, rfl⟩
  obtain ⟨i, hi⟩ : ∃ i, i = d - 36524 * c := ⟨_, rfl⟩
  obtain ⟨q, hq⟩ : ∃ q, q = i / 1461 := ⟨_, rfl⟩
  obtain ⟨r, hr⟩ : ∃ r, r = i % 1461 := ⟨_, rfl⟩
  obtain ⟨y, hy⟩ : ∃ y, y = min (r / 365) 3 := ⟨_, rfl⟩
  have hq24 : q ≤ 24 := by omega
  have hy3 : y ≤ 3 := by omega
  have whole : i = 1461 * q + r := by omega
  refine ⟨100 * c + 4 * q + y, r - 365 * y, ?_, ?_, ?_, ?_, ?_⟩
  · rw [yearOfEra, ← hc, ← hi, ← hq, ← hr, ← hy]
  · rw [daysBeforeYear_split hq24 hy3]
    omega
  · omega
  · omega
  · intro hk
    have last : y = 3 := by omega
    have full : r = 1460 := by omega
    refine ⟨by omega, ?_⟩
    -- the last cycle of a century lacks this day, but for the last century
    by_cases h24 : q = 24
    · exact .inr (by omega)
    · exact .inl (by omega)

/-- The day of the year in its month: the month is counted from March. -/
theorem month_spec {k : Nat} (h : k ≤ 365) :
    (5 * k + 2) / 153 ≤ 11 ∧ daysBeforeMonth ((5 * k + 2) / 153) ≤ k ∧
      k < daysBeforeMonth ((5 * k + 2) / 153 + 1) := by
  unfold daysBeforeMonth
  omega

/-- What a day is made of: its era, its year in the era, and its day in the year. -/
theorem ofDays_spec (n : Int) : ∃ (era : Int) (y k : Nat),
    n + 719468 = 146097 * era + (daysBeforeYear y + k : Nat) ∧ y < 400 ∧ k ≤ 365 ∧
      (k = 365 → (y + 1) % 4 = 0 ∧ ((y + 1) % 100 ≠ 0 ∨ (y + 1) % 400 = 0)) ∧
      ofDays n =
        if (5 * k + 2) / 153 < 10 then
          ⟨400 * era + y, (5 * k + 2) / 153 + 3, k - daysBeforeMonth ((5 * k + 2) / 153) + 1⟩
        else
          ⟨400 * era + y + 1, (5 * k + 2) / 153 - 9,
            k - daysBeforeMonth ((5 * k + 2) / 153) + 1⟩ := by
  have hd : ((n + 719468) % 146097).toNat < 146097 := by omega
  obtain ⟨y, k, hyk, hsum, hy, hk, hleap⟩ := yearOfEra_spec hd
  refine ⟨(n + 719468) / 146097, y, k, ?_, hy, hk, hleap, ?_⟩
  · rw [hsum]
    omega
  · simp only [ofDays, hyk]

/-- **The number of a date is the number that it was made of.** -/
theorem toDays_ofDays (n : Int) : toDays (ofDays n) = n := by
  obtain ⟨era, y, k, hn, hy, hk, -, hof⟩ := ofDays_spec n
  obtain ⟨hm, hle, -⟩ := month_spec hk
  rw [hof]
  have year : ((400 * era + y) % 400).toNat = y := by omega
  have wholes : (400 * era + y) / 400 = era := by omega
  by_cases early : (5 * k + 2) / 153 < 10
  · have late : ¬(5 * k + 2) / 153 + 3 ≤ 2 := by omega
    have month : ((5 * k + 2) / 153 + 3 + 9) % 12 = (5 * k + 2) / 153 := by omega
    rw [if_pos early]
    simp only [toDays, late, ↓reduceIte, year, wholes, month]
    omega
  · have late : (5 * k + 2) / 153 - 9 ≤ 2 := by omega
    have month : ((5 * k + 2) / 153 - 9 + 9) % 12 = (5 * k + 2) / 153 := by omega
    rw [if_neg early]
    simp only [toDays, late, ↓reduceIte, Int.add_sub_cancel, year, wholes, month]
    omega

/-- A leap year, by its place in its era. -/
theorem isLeap_of_era {era : Int} {y : Nat}
    (h : (y + 1) % 4 = 0 ∧ ((y + 1) % 100 ≠ 0 ∨ (y + 1) % 400 = 0)) :
    isLeap (400 * era + y + 1) = true := by
  have four : (400 * era + y + 1) % 4 = 0 := by omega
  unfold isLeap
  rcases h.2 with hundred | whole
  · have apart : (400 * era + y + 1) % 100 ≠ 0 := by omega
    simp [four, apart]
  · have era_start : (400 * era + y + 1) % 400 = 0 := by omega
    simp [four, era_start]

/-- The date of a number names a day of the calendar. -/
theorem exists_ofDays (n : Int) : (ofDays n).Exists := by
  obtain ⟨era, y, k, -, hy, hk, hleap, hof⟩ := ofDays_spec n
  obtain ⟨hm, hle, hlt⟩ := month_spec hk
  rw [hof]
  obtain ⟨m, hmk⟩ : ∃ m, m = (5 * k + 2) / 153 := ⟨_, rfl⟩
  rw [← hmk] at hm hle hlt ⊢
  by_cases early : m < 10
  · rw [if_pos early]
    change 1 ≤ m + 3 ∧ m + 3 ≤ 12 ∧ 1 ≤ k - daysBeforeMonth m + 1 ∧
      k - daysBeforeMonth m + 1 ≤ monthLength (400 * era + y) (m + 3)
    refine ⟨by omega, by omega, by omega, ?_⟩
    rw [monthLength, if_neg (by omega : ¬m + 3 = 2)]
    unfold daysBeforeMonth at hle hlt ⊢
    split <;> omega
  · rw [if_neg early]
    change 1 ≤ m - 9 ∧ m - 9 ≤ 12 ∧ 1 ≤ k - daysBeforeMonth m + 1 ∧
      k - daysBeforeMonth m + 1 ≤ monthLength (400 * era + y + 1) (m - 9)
    refine ⟨by omega, by omega, by omega, ?_⟩
    rw [monthLength]
    unfold daysBeforeMonth at hle hlt ⊢
    by_cases feb : m - 9 = 2
    · rw [if_pos feb]
      by_cases last : k = 365
      · rw [if_pos (isLeap_of_era (hleap last))]
        omega
      · have short : 28 ≤ if isLeap (400 * era + y + 1) = true then 29 else 28 := by split <;> omega
        omega
    · rw [if_neg feb]
      split <;> omega

end Civil
end RecordSync
