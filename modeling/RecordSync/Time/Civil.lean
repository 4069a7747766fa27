/-!
# The proleptic Gregorian calendar

Days are counted from 1970-01-01. The calendar repeats every 400 years, 146097 days; within such an
era a year is counted from the first of March, so that a leap day is the last day of its year.

Key definitions: `Civil.Date`, `Civil.Date.Exists`, `Civil.toDays`, `Civil.ofDays`.
-/
namespace RecordSync
namespace Civil

/-- A day of the calendar, by its numbers. -/
structure Date where
  year : Int
  month : Nat
  day : Nat
  deriving DecidableEq, Repr

/-- Whether a year has a 29th of February. -/
def isLeap (year : Int) : Bool := year % 4 == 0 && (year % 100 != 0 || year % 400 == 0)

/-- The number of days of a month. -/
def monthLength (year : Int) (month : Nat) : Nat :=
  if month = 2 then (if isLeap year then 29 else 28)
  else if month = 4 ∨ month = 6 ∨ month = 9 ∨ month = 11 then 30
  else 31

/-- Whether the numbers name a day. -/
def Date.Exists (d : Date) : Prop :=
  1 ≤ d.month ∧ d.month ≤ 12 ∧ 1 ≤ d.day ∧ d.day ≤ monthLength d.year d.month

instance (d : Date) : Decidable d.Exists := by unfold Date.Exists; infer_instance

/-- The days of a 400-year era before its year of a given number. -/
def daysBeforeYear (year : Nat) : Nat := 365 * year + year / 4 - year / 100

/-- The days of a year that starts in March before its month of a given number. -/
def daysBeforeMonth (month : Nat) : Nat := (153 * month + 2) / 5

/-- The number of a day, counted from 1970-01-01. -/
def toDays (d : Date) : Int :=
  let year := if d.month ≤ 2 then d.year - 1 else d.year
  let month := (d.month + 9) % 12
  let day := daysBeforeYear (year % 400).toNat + daysBeforeMonth month + d.day
  146097 * (year / 400) + day - 719469

/-- The year of an era, and the day in it, of a day of the era. -/
def yearOfEra (day : Nat) : Nat × Nat :=
  let century := min (day / 36524) 3
  let inCentury := day - 36524 * century
  let inCycle := inCentury % 1461
  let year := min (inCycle / 365) 3
  (100 * century + 4 * (inCentury / 1461) + year, inCycle - 365 * year)

/-- The day of a given number. -/
def ofDays (n : Int) : Date :=
  let shifted := n + 719468
  let (year, inYear) := yearOfEra (shifted % 146097).toNat
  let month := (5 * inYear + 2) / 153
  let day := inYear - daysBeforeMonth month + 1
  let start := 400 * (shifted / 146097) + year
  if month < 10 then ⟨start, month + 3, day⟩ else ⟨start + 1, month - 9, day⟩

end Civil
end RecordSync
