/-!
# Dates

Days of the proleptic Gregorian calendar from 1 January -262143 to 31 December 262142. A date holds
its year, month and day, with proofs that they name a day of the calendar; its number counts days,
1 January of the year 1 being day zero. The order of dates is the order of their numbers.

The civil date of a number is found from the largest cycle down: 400 years, centuries, spans of four
years, years. The last century of a cycle and the last year of a span are the long ones, so their
quotients are cut at three.
-/

namespace Fabricate.Calendar

/-- Whether a year has a 29 February. -/
def isLeap (year : Int) : Bool :=
  year % 4 = 0 && (year % 100 ≠ 0 || year % 400 = 0)

/-- The number of days of a month, counted from one. -/
def monthLength (leap : Bool) (month : Nat) : Nat :=
  if month = 2 then (if leap then 29 else 28)
  else if month = 4 || month = 6 || month = 9 || month = 11 then 30
  else 31

/-- The number of days before a month in its year. -/
def daysBeforeMonth (leap : Bool) : (month : Nat) → Nat
  | 0 | 1 => 0
  | month + 2 => daysBeforeMonth leap (month + 1) + monthLength leap (month + 1)

/-- The number of days before a year. -/
def daysBeforeYear (year : Int) : Int :=
  let y := year - 1
  365 * y + y / 4 - y / 100 + y / 400

/-- The first year of the calendar. -/
def minYear : Int := -262143

/-- The last year of the calendar. -/
def maxYear : Int := 262142

/-- A day of the calendar. -/
structure Date where
  year : Int
  month : Nat
  day : Nat
  year_mem : minYear ≤ year ∧ year ≤ maxYear
  month_mem : 1 ≤ month ∧ month ≤ 12
  day_mem : 1 ≤ day ∧ day ≤ monthLength (isLeap year) month
  deriving DecidableEq

namespace Date

/-- The day of that year, month and day, if the calendar has it. -/
def ofCivil? (year : Int) (month day : Nat) : Option Date :=
  if h : (minYear ≤ year ∧ year ≤ maxYear) ∧ (1 ≤ month ∧ month ≤ 12) ∧
      1 ≤ day ∧ day ≤ monthLength (isLeap year) month then
    some ⟨year, month, day, h.1, h.2.1, h.2.2⟩
  else none

/-- The number of days since 1 January of the year 1. -/
def number (d : Date) : Int :=
  daysBeforeYear d.year + daysBeforeMonth (isLeap d.year) d.month + (d.day - 1 : Nat)

/-- The year of a day number. -/
def yearOfNumber (n : Int) : Int :=
  let cycle := n / 146097
  let inCycle := n % 146097
  let century := min (inCycle / 36524) 3
  let inCentury := inCycle - 36524 * century
  let span := inCentury / 1461
  let inSpan := inCentury - 1461 * span
  let yearInSpan := min (inSpan / 365) 3
  400 * cycle + 100 * century + 4 * span + yearInSpan + 1

/-- The month that the day of a year lies in, counted from zero. -/
def monthOfDay (leap : Bool) (dayOfYear : Nat) : Nat :=
  ((List.range 12).filter fun m => daysBeforeMonth leap (m + 1) ≤ dayOfYear).length

/-- The day with that number, if the calendar has it. -/
def ofNumber? (n : Int) : Option Date :=
  let year := yearOfNumber n
  let dayOfYear := (n - daysBeforeYear year).toNat
  let month := monthOfDay (isLeap year) dayOfYear
  ofCivil? year month (dayOfYear - daysBeforeMonth (isLeap year) month + 1)

instance : LE Date := ⟨fun a b => a.number ≤ b.number⟩

instance (a b : Date) : Decidable (a ≤ b) :=
  inferInstanceAs (Decidable (a.number ≤ b.number))

instance : LT Date := ⟨fun a b => a.number < b.number⟩

instance (a b : Date) : Decidable (a < b) :=
  inferInstanceAs (Decidable (a.number < b.number))

/-- 1 January 1970. -/
def epoch : Date where
  year := 1970
  month := 1
  day := 1
  year_mem := by decide
  month_mem := by decide
  day_mem := by decide

/-- The day that many days later, if the calendar has it. -/
def addDays? (d : Date) (days : Int) : Option Date :=
  ofNumber? (d.number + days)

/-- The same day of the month that many months later, or the last day of that month where it has no
such day, if the calendar has it. -/
def addMonths? (d : Date) (months : Int) : Option Date :=
  let count := 12 * d.year + (d.month - 1 : Nat) + months
  let year := count / 12
  let month := (count % 12).toNat + 1
  ofCivil? year month (min d.day (monthLength (isLeap year) month))

end Date

end Fabricate.Calendar
