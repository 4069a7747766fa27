import RecordSync.Proofs.Time.Calendar

/-!
# Days counted one by one

The day after a day is found by the lengths of the months alone. Counting such days up and down from
the first of January 1970 gives every day of the calendar, and each one gets the number that
`Civil.toDays` computes for it at once.

Key definitions: `Civil.Date.next`, `Civil.Date.Before`, `Civil.Date.Numbered`.
Key theorems: `Civil.toDays_next`, `Civil.toDays_lt`, `Civil.toDays_lt_iff`, `Civil.ofDays_toDays`,
`Civil.numbered_iff`.
-/
namespace RecordSync
namespace Civil

/-! ### The next day -/

/-- The day after a day: in the same month, or the first of the next month or year. -/
def Date.next (d : Date) : Date :=
  if d.day < monthLength d.year d.month then ⟨d.year, d.month, d.day + 1⟩
  else if d.month < 12 then ⟨d.year, d.month + 1, 1⟩
  else ⟨d.year + 1, 1, 1⟩

theorem isLeap_iff {y : Int} :
    isLeap y = true ↔ y % 4 = 0 ∧ (y % 100 ≠ 0 ∨ y % 400 = 0) := by
  simp [isLeap]

theorem monthLength_pos (y : Int) (m : Nat) : 1 ≤ monthLength y m := by
  unfold monthLength
  split_ifs <;> decide

theorem exists_next {d : Date} (h : d.Exists) : d.next.Exists := by
  obtain ⟨low, high, first, last⟩ := h
  unfold Date.next
  split_ifs with within before
  · exact ⟨low, high, Nat.le_add_left 1 d.day, within⟩
  · exact ⟨Nat.le_add_left 1 d.month, before, Nat.le_refl 1, monthLength_pos _ _⟩
  · exact ⟨Nat.le_refl 1, Nat.le_add_left 1 11, Nat.le_refl 1, monthLength_pos _ _⟩

/-- The days before a year that starts in March, counted from the year 0. -/
def daysToYear (y : Int) : Int := 365 * y + y / 4 - y / 100 + y / 400

/-- The year of a day, if years start in March. -/
def Date.marchYear (d : Date) : Int := if d.month ≤ 2 then d.year - 1 else d.year

/-- The number of a day in its year, if years start in March. -/
def Date.dayOfYear (d : Date) : Nat := daysBeforeMonth ((d.month + 9) % 12) + d.day

theorem toDays_eq (d : Date) :
    toDays d = daysToYear d.marchYear + d.dayOfYear - 719469 := by
  have year : (if d.month ≤ 2 then d.year - 1 else d.year) = d.marchYear := rfl
  unfold toDays Date.dayOfYear daysToYear daysBeforeYear
  simp only [year]
  omega

/-- A year that starts in March ends with the February of the next year. -/
theorem daysToYear_succ (y : Int) :
    daysToYear (y + 1) = daysToYear y + if isLeap (y + 1) then 366 else 365 := by
  unfold daysToYear
  by_cases h : isLeap (y + 1) = true
  · rw [if_pos h]
    rw [isLeap_iff] at h
    omega
  · rw [if_neg h]
    rw [isLeap_iff] at h
    omega

/-- The first of a month comes after the last of the month before. -/
theorem toDays_month {y : Int} {m : Nat} (low : 1 ≤ m) (high : m < 12) :
    toDays ⟨y, m + 1, 1⟩ = toDays ⟨y, m, monthLength y m⟩ + 1 := by
  simp only [toDays_eq, Date.marchYear, Date.dayOfYear]
  by_cases february : m = 2
  · -- Here a year that starts in March begins.
    have year := daysToYear_succ (y - 1)
    rw [Int.sub_add_cancel] at year
    subst february
    cases leap : isLeap y <;> simp [leap, daysBeforeMonth, monthLength] at year ⊢ <;> omega
  · interval_cases m <;> simp [daysBeforeMonth, monthLength] at february ⊢ <;> omega

/-- **Days are numbered one after the other.** -/
theorem toDays_next {d : Date} (h : d.Exists) : toDays d.next = toDays d + 1 := by
  obtain ⟨low, high, first, last⟩ := h
  unfold Date.next
  split_ifs with within before
  · simp only [toDays_eq, Date.marchYear, Date.dayOfYear]
    omega
  · have full : d = ⟨d.year, d.month, monthLength d.year d.month⟩ := by
      rw [Nat.le_antisymm (Nat.le_of_not_lt within) last]
    rw [toDays_month low before, ← full]
  · obtain ⟨y, m, k⟩ := d
    dsimp only at *
    obtain rfl : m = 12 := by omega
    obtain rfl : k = 31 := Nat.le_antisymm last (Nat.le_of_not_lt within)
    simp only [toDays_eq, Date.marchYear, Date.dayOfYear, daysBeforeMonth]
    norm_num
    omega

/-! ### Days in order -/

theorem daysToYear_strictMono : StrictMono daysToYear := by
  refine strictMono_int_of_lt_succ fun y => ?_
  rw [daysToYear_succ]
  split <;> omega

/-- A day stands in its month, if months are counted from March. -/
theorem day_le {d : Date} (h : d.Exists) (early : (d.month + 9) % 12 ≤ 10) :
    daysBeforeMonth ((d.month + 9) % 12) + d.day ≤ daysBeforeMonth ((d.month + 9) % 12 + 1) := by
  obtain ⟨low, high, -, last⟩ := h
  obtain ⟨y, m, k⟩ := d
  dsimp only at *
  unfold monthLength at last
  interval_cases m <;> simp [daysBeforeMonth] at early last ⊢ <;> omega

/-- A day stands in its year, if years start in March. -/
theorem dayOfYear_le {d : Date} (h : d.Exists) :
    daysToYear d.marchYear + d.dayOfYear ≤ daysToYear (d.marchYear + 1) := by
  rw [daysToYear_succ]
  by_cases early : (d.month + 9) % 12 ≤ 10
  · have := day_le h early
    have : daysBeforeMonth ((d.month + 9) % 12 + 1) ≤ 337 := by
      unfold daysBeforeMonth
      omega
    unfold Date.dayOfYear
    split <;> omega
  · obtain ⟨low, high, -, last⟩ := h
    obtain ⟨y, m, k⟩ := d
    dsimp only at *
    obtain rfl : m = 2 := by omega
    simp only [Date.marchYear, Date.dayOfYear, monthLength, daysBeforeMonth, le_refl, ↓reduceIte,
      Int.sub_add_cancel] at last ⊢
    split at last <;> simp [*] <;> omega

/-- One day comes before another one, by its numbers. -/
def Date.Before (d d' : Date) : Prop :=
  d.year < d'.year ∨ d.year = d'.year ∧ (d.month < d'.month ∨ d.month = d'.month ∧ d.day < d'.day)

/-- Of two days of a year that starts in March, the earlier one has the smaller number in it. -/
theorem dayOfYear_lt {d d' : Date} (h : d.Exists) (h' : d'.Exists) (before : d.Before d')
    (years : d.marchYear = d'.marchYear) : d.dayOfYear < d'.dayOfYear := by
  have months : (d.month + 9) % 12 < (d'.month + 9) % 12 ∨
      (d.month + 9) % 12 = (d'.month + 9) % 12 ∧ d.day < d'.day := by
    obtain ⟨low, high, -, -⟩ := h
    obtain ⟨low', high', -, -⟩ := h'
    unfold Date.marchYear at years
    unfold Date.Before at before
    split_ifs at years <;> omega
  unfold Date.dayOfYear
  rcases months with earlier | ⟨same, earlier⟩
  · have in_month := day_le h (by omega)
    have until_month : daysBeforeMonth ((d.month + 9) % 12 + 1) ≤
        daysBeforeMonth ((d'.month + 9) % 12) := by
      unfold daysBeforeMonth
      omega
    have := h'.2.2.1
    omega
  · rw [same]
    omega

/-- Days are numbered in their order. -/
theorem toDays_lt {d d' : Date} (h : d.Exists) (h' : d'.Exists) (before : d.Before d') :
    toDays d < toDays d' := by
  have in_year := dayOfYear_le h
  have later : 0 < d'.dayOfYear := Nat.lt_of_lt_of_le h'.2.2.1 (Nat.le_add_left _ _)
  rw [toDays_eq, toDays_eq]
  rcases lt_trichotomy d.marchYear d'.marchYear with years | years | years
  · have := daysToYear_strictMono.monotone (Int.add_one_le_of_lt years)
    omega
  · have days : d.dayOfYear < d'.dayOfYear := dayOfYear_lt h h' before years
    rw [years]
    omega
  · obtain ⟨low, high, -, -⟩ := h
    obtain ⟨low', high', -, -⟩ := h'
    unfold Date.marchYear at years
    unfold Date.Before at before
    split_ifs at years <;> omega

theorem toDays_inj {d d' : Date} (h : d.Exists) (h' : d'.Exists) :
    toDays d = toDays d' ↔ d = d' := by
  refine ⟨fun same => ?_, fun same => same ▸ rfl⟩
  have not_before : ¬d.Before d' := fun before => absurd (toDays_lt h h' before) (by omega)
  have not_after : ¬d'.Before d := fun after => absurd (toDays_lt h' h after) (by omega)
  obtain ⟨y, m, k⟩ := d
  obtain ⟨y', m', k'⟩ := d'
  simp only [Date.Before] at not_before not_after
  congr <;> omega

theorem toDays_lt_iff {d d' : Date} (h : d.Exists) (h' : d'.Exists) :
    toDays d < toDays d' ↔ d.Before d' := by
  refine ⟨fun numbers => ?_, toDays_lt h h'⟩
  have not_after : ¬d'.Before d := fun after => absurd (toDays_lt h' h after) (by omega)
  have apart : d ≠ d' := fun same => absurd numbers (by rw [same]; omega)
  obtain ⟨y, m, k⟩ := d
  obtain ⟨y', m', k'⟩ := d'
  simp only [ne_eq, Date.mk.injEq] at apart
  simp only [Date.Before] at not_after ⊢
  omega

theorem exists_newYear (y : Int) : (Date.mk y 1 1).Exists :=
  ⟨Nat.le_refl 1, Nat.le_add_left 1 11, Nat.le_refl 1, monthLength_pos y 1⟩

/-- The days of a year and of later years are those from its first of January on. -/
theorem toDays_newYear_le_iff {d : Date} (h : d.Exists) (y : Int) :
    toDays ⟨y, 1, 1⟩ ≤ toDays d ↔ y ≤ d.year := by
  have new_year := exists_newYear y
  constructor
  · intro numbers
    by_contra earlier
    exact absurd (toDays_lt h new_year (.inl (Int.not_le.mp earlier))) (by omega)
  · intro years
    by_cases same : d = ⟨y, 1, 1⟩
    · rw [same]
    · refine (toDays_lt new_year h ?_).le
      obtain ⟨low, -, first, -⟩ := h
      obtain ⟨year, month, day⟩ := d
      simp only [Date.mk.injEq] at same
      simp only [Date.Before] at *
      omega

theorem ofDays_toDays {d : Date} (h : d.Exists) : ofDays (toDays d) = d :=
  (toDays_inj (exists_ofDays _) h).mp (toDays_ofDays _)

/-! ### Counting days -/

/-- The day is the one that is so many days after 1970-01-01, counted one at a time. -/
inductive Date.Numbered : Date → Int → Prop
  | epoch : Numbered ⟨1970, 1, 1⟩ 0
  | next {d : Date} {n : Int} (h : Numbered d n) : Numbered d.next (n + 1)
  | previous {d : Date} {n : Int} (there : d.Exists) (h : Numbered d.next (n + 1)) : Numbered d n

/-- The day after the day of a number is the day of the next number. -/
theorem ofDays_succ (n : Int) : ofDays (n + 1) = (ofDays n).next := by
  have there := exists_next (exists_ofDays n)
  rw [← ofDays_toDays there, toDays_next (exists_ofDays n), toDays_ofDays]

theorem numbered_ofDays (n : Int) : (ofDays n).Numbered n := by
  induction n with
  | zero => exact .epoch
  | succ n ih =>
    rw [ofDays_succ]
    exact ih.next
  | pred n ih =>
    refine .previous (exists_ofDays _) ?_
    rwa [← ofDays_succ, Int.sub_add_cancel]

/-- **A day is counted exactly if it exists, and its number is the one that is computed.** -/
theorem numbered_iff {d : Date} {n : Int} : d.Numbered n ↔ d.Exists ∧ toDays d = n := by
  constructor
  · intro h
    induction h with
    | epoch => exact ⟨by decide, by decide⟩
    | next _ ih => exact ⟨exists_next ih.1, by rw [toDays_next ih.1, ih.2]⟩
    | previous there _ ih =>
      have := toDays_next there
      exact ⟨there, by omega⟩
  · rintro ⟨there, rfl⟩
    have counted := numbered_ofDays (toDays d)
    rwa [ofDays_toDays there] at counted

end Civil
end RecordSync
