import MailSearch.Calendar.Date

/-!
# Points in time

A `Timestamp` is a day and a time of day in UTC, to the nanosecond. Nanoseconds beyond a full second
stand for a leap second. After the last second of a minute it is written as second 60; after any
other, as the second that follows (`Clock.carried`), so that such a time is not read back as it was.
Clocks whose leap seconds end a minute are regular (`Clock.IsRegular`), as all that is read is.

Timestamps are ordered by `Timestamp.rank`, and two of the same rank are equal.
-/

namespace MailSearch.Calendar

/-- The nanoseconds of a second. -/
def nanosPerSecond : Nat := 1000000000

/-- The seconds of a day. -/
def secondsPerDay : Nat := 86400

/-- A second of the day, and nanoseconds past it; from 10⁹ on they lie in a leap second that
follows. -/
def IsClock (second nano : Nat) : Prop := second < secondsPerDay ∧ nano < 2 * nanosPerSecond

instance (second nano : Nat) : Decidable (IsClock second nano) := by
  unfold IsClock; infer_instance

/-- A time of day. -/
structure Clock where
  second : Nat
  nano : Nat
  isClock : IsClock second nano := by decide
  deriving DecidableEq

namespace Clock

/-- The start of a day. -/
def midnight : Clock := ⟨0, 0, by decide⟩

/-- The last whole second of a day. -/
def lastSecond : Clock := ⟨86399, 0, by decide⟩

/-- The time of day of a second and nanoseconds past it, if there is one. -/
def of? (second nano : Nat) : Option Clock :=
  if h : IsClock second nano then some ⟨second, nano, h⟩ else none

/-- The time of day read off a clock. Second 60 is the leap second after second 59. -/
def ofHms? (hour minute second nano : Nat) : Option Clock :=
  if hour < 24 ∧ minute < 60 ∧ second ≤ 60 ∧ nano < nanosPerSecond then
    if second = 60 then of? (hour * 3600 + minute * 60 + 59) (nanosPerSecond + nano)
    else of? (hour * 3600 + minute * 60 + second) nano
  else
    none

/-- Whether the time lies in a leap second. -/
def isLeap (t : Clock) : Bool := nanosPerSecond ≤ t.nano

def hour (t : Clock) : Nat := t.second / 3600

def minute (t : Clock) : Nat := t.second / 60 % 60

/-- A leap second follows the last second of a minute only. -/
def IsRegular (t : Clock) : Prop := t.isLeap = true → t.second % 60 = 59

instance (t : Clock) : Decidable t.IsRegular := inferInstanceAs (Decidable (_ → _))

/-- A leap second within a minute is the second after. -/
theorem isClock_carried {t : Clock} (h : ¬ t.IsRegular) :
    IsClock (t.second + 1) (t.nano - nanosPerSecond) := by
  have hclock := t.isClock
  simp only [IsRegular, isLeap, IsClock, secondsPerDay, nanosPerSecond] at *
  omega

/-- The regular time of day that is written like this one. -/
def carried (t : Clock) : Clock :=
  if h : t.IsRegular then t else ⟨t.second + 1, t.nano - nanosPerSecond, isClock_carried h⟩

/-- The second as it is written; a leap second after the last second of a minute is second 60. -/
def writtenSecond (t : Clock) : Nat := t.second % 60 + t.nano / nanosPerSecond

/-- The nanoseconds past the written second. -/
def fraction (t : Clock) : Nat := t.nano % nanosPerSecond

end Clock

/-- A point in time, in UTC. -/
structure Timestamp where
  date : Date
  clock : Clock
  deriving DecidableEq

namespace Timestamp

/-- The clock is regular. -/
def IsRegular (t : Timestamp) : Prop := t.clock.IsRegular

instance (t : Timestamp) : Decidable t.IsRegular := inferInstanceAs (Decidable t.clock.IsRegular)

/-- The regular point in time that is written like this one. -/
def carried (t : Timestamp) : Timestamp := { t with clock := t.clock.carried }

/-- The start of a day. -/
def startOfDay (d : Date) : Timestamp := ⟨d, .midnight⟩

/-- The last whole second of a day. -/
def endOfDay (d : Date) : Timestamp := ⟨d, .lastSecond⟩

/-- A number that grows with time: two billion steps for each second leave room for its leap
second. -/
def rank (t : Timestamp) : Int :=
  (t.date.dayNumber * secondsPerDay + t.clock.second) * (2 * nanosPerSecond) + t.clock.nano

instance : LE Timestamp := ⟨fun a b => a.rank ≤ b.rank⟩

instance (a b : Timestamp) : Decidable (a ≤ b) := inferInstanceAs (Decidable (a.rank ≤ b.rank))

/-- The same time of day that many days earlier. -/
def subDays? (t : Timestamp) (days : Nat) : Option Timestamp :=
  (t.date.subDays? days).map ({ t with date := · })

/-- The same time of day that many months earlier. -/
def subMonths? (t : Timestamp) (months : Nat) : Option Timestamp :=
  (t.date.subMonths? months).map ({ t with date := · })

/-- The point in time of a second of a day, where seconds before or past the day count into its
neighbours. -/
def ofSeconds? (d : Date) (second : Int) (nano : Nat) : Option Timestamp := do
  let date ← d.addDays? (second / secondsPerDay)
  let clock ← Clock.of? (second % secondsPerDay).toNat nano
  return ⟨date, clock⟩

/-- The point in time a number of milliseconds later. From within a leap second it first counts
to the end of that second. -/
def addMillis? (t : Timestamp) (millis : Nat) : Option Timestamp :=
  let seconds := millis / 1000
  let nanos := millis % 1000 * 1000000
  if t.clock.isLeap && seconds == 0 && t.clock.nano + nanos < 2 * nanosPerSecond then
    ofSeconds? t.date t.clock.second (t.clock.nano + nanos)
  else
    let total := t.clock.fraction + nanos
    ofSeconds? t.date (t.clock.second + seconds + total / nanosPerSecond : Nat)
      (total % nanosPerSecond)

/-- The nanoseconds from an earlier point in time to a later one, negative if it is not earlier. A
leap second counts when it lies between their times of day. -/
def nanosSince (later earlier : Timestamp) : Int :=
  let days := later.date.dayNumber - earlier.date.dayNumber
  let seconds : Int := later.clock.second - earlier.clock.second
  let leap : Int :=
    if later.clock.second > earlier.clock.second && earlier.clock.isLeap then 1
    else if later.clock.second < earlier.clock.second && later.clock.isLeap then -1
    else 0
  (days * secondsPerDay + seconds + leap) * nanosPerSecond +
    (later.clock.nano - earlier.clock.nano : Int)

/-- The whole seconds from an earlier point in time to a later one, rounded toward zero. -/
def secondsSince (later earlier : Timestamp) : Int :=
  (nanosSince later earlier).tdiv nanosPerSecond

theorem le_def {a b : Timestamp} : a ≤ b ↔ a.rank ≤ b.rank := Iff.rfl

end Timestamp

end MailSearch.Calendar
