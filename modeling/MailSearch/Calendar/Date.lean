/-!
# Dates

The proleptic Gregorian calendar, with a year zero and negative years before it. A `Date` is a day
that exists, in one of the years from -262143 to 262142.

* `Date.ofYmd?` is the day with the given year, month and day, if there is one.
* `Date.dayNumber` counts days from 0001-01-01, and `Date.ofDayNumber?` finds the day of a count.
* `Date.subDays?` and `Date.subMonths?` step back on the calendar; a month step that would leave
  the month stops at its last day.
-/

namespace MailSearch.Calendar

/-- Every fourth year is a leap year, but of the hundreds only every fourth. -/
def isLeapYear (year : Int) : Bool :=
  year % 4 == 0 && (year % 100 != 0 || year % 400 == 0)

/-- The days of a month, which is counted from 1. -/
def daysInMonth (year : Int) : Nat → Nat
  | 2 => if isLeapYear year then 29 else 28
  | 4 | 6 | 9 | 11 => 30
  | _ => 31

/-- The first year of the calendar. -/
def minYear : Int := -262143

/-- The last year of the calendar. -/
def maxYear : Int := 262142

/-- A year in range, a month from 1 to 12 and a day of that month. -/
def IsDay (year : Int) (month day : Nat) : Prop :=
  minYear ≤ year ∧ year ≤ maxYear ∧ 1 ≤ month ∧ month ≤ 12 ∧
    1 ≤ day ∧ day ≤ daysInMonth year month

instance (year : Int) (month day : Nat) : Decidable (IsDay year month day) := by
  unfold IsDay; infer_instance

/-- A day of the calendar. -/
structure Date where
  year : Int
  month : Nat
  day : Nat
  isDay : IsDay year month day := by decide
  deriving DecidableEq

/-- The days from 0001-01-01 to the first day of a year. -/
def daysBeforeYear (year : Int) : Int :=
  let past := year - 1
  365 * past + past / 4 - past / 100 + past / 400

/-- The days of a year before the first day of a month. -/
def daysBeforeMonth (year : Int) : Nat → Nat
  | 0 | 1 => 0
  | month + 1 => daysBeforeMonth year month + daysInMonth year month

/-- The year that holds a day count from 0001-01-01. It takes the whole periods of 400, 100, 4
years and of one year in turn; the last period of 100 years and of one year is a day longer. -/
def yearOfDay (number : Int) : Int :=
  let past400 := number / 146097
  let day400 := number % 146097
  let past100 := min (day400 / 36524) 3
  let day100 := day400 - past100 * 36524
  let past4 := day100 / 1461
  let day4 := day100 - past4 * 1461
  let past1 := min (day4 / 365) 3
  400 * past400 + 100 * past100 + 4 * past4 + past1 + 1

/-- The month of a year that holds a day, counted from 0 within the year: the number of months
that begin on or before it. -/
def monthOfDay (year : Int) (day : Nat) : Nat :=
  ((List.range' 1 12).filter (daysBeforeMonth year · ≤ day)).length

namespace Date

/-- The day with the given year, month and day, if there is one. -/
def ofYmd? (year : Int) (month day : Nat) : Option Date :=
  if h : IsDay year month day then some ⟨year, month, day, h⟩ else none

/-- The days from 0001-01-01 to the day. -/
def dayNumber (d : Date) : Int :=
  daysBeforeYear d.year + daysBeforeMonth d.year d.month + (d.day - 1 : Nat)

/-- The day that many days after 0001-01-01, if it is in range. -/
def ofDayNumber? (number : Int) : Option Date :=
  let year := yearOfDay number
  let day := (number - daysBeforeYear year).toNat
  let month := monthOfDay year day
  ofYmd? year month (day - daysBeforeMonth year month + 1)

/-- The day that many days later, or earlier when the count is negative. -/
def addDays? (d : Date) (days : Int) : Option Date := ofDayNumber? (d.dayNumber + days)

/-- The day that many days earlier. -/
def subDays? (d : Date) (days : Nat) : Option Date := d.addDays? (-days)

/-- The same day of the month that many months earlier, or the last day of that month if it is
shorter. -/
def subMonths? (d : Date) (months : Nat) : Option Date :=
  let count : Int := d.year * 12 + (d.month - 1 : Nat) - months
  let year := count / 12
  let month := (count % 12).toNat + 1
  ofYmd? year month (min d.day (daysInMonth year month))

theorem ofYmd?_eq_some_iff {year : Int} {month day : Nat} {d : Date} :
    ofYmd? year month day = some d ↔ d.year = year ∧ d.month = month ∧ d.day = day := by
  unfold ofYmd?
  constructor
  · intro h
    split at h
    · cases h; exact ⟨rfl, rfl, rfl⟩
    · cases h
  · rintro ⟨rfl, rfl, rfl⟩
    rw [dif_pos d.isDay]

@[simp] theorem ofYmd?_self (d : Date) : ofYmd? d.year d.month d.day = some d :=
  ofYmd?_eq_some_iff.2 ⟨rfl, rfl, rfl⟩

end Date

end MailSearch.Calendar
