import MailSearch.Calendar.Timestamp
import MailSearch.Text.Digits

/-!
# Written dates and times

* `Date.text` is `YYYY-MM-DD`.
* `Timestamp.stored` is the form kept in the store: nine fraction digits, so that within the years
  0000 to 9999 the order of the texts is the order of the times.
* `Timestamp.text` is the form of answers: as many fraction digits, of 0, 3, 6 and 9, as the time
  needs.
* `Timestamp.display` is the form shown to a reader, to the second.

A year outside 0000 to 9999 is written with its sign.
-/

namespace MailSearch.Calendar

open MailSearch.Text

/-- A year: four digits, and a sign as well when they do not hold it. -/
def yearText (year : Int) : List Char :=
  if 0 ≤ year ∧ year ≤ 9999 then padded 4 year.natAbs
  else (if year < 0 then '-' else '+') :: padded 4 year.natAbs

namespace Date

/-- The characters of a day's text. -/
def chars (d : Date) : List Char :=
  yearText d.year ++ '-' :: (padded 2 d.month ++ '-' :: padded 2 d.day)

/-- A day as `YYYY-MM-DD`. -/
def text (d : Date) : String := String.ofList d.chars

end Date

/-- A time of day as `hh:mm:ss`. -/
def Clock.chars (t : Clock) : List Char :=
  padded 2 t.hour ++ ':' :: (padded 2 t.minute ++ ':' :: padded 2 t.writtenSecond)

/-- A point and the fewest of 3, 6 or 9 digits that write the fraction of a second; nothing for a
whole second. -/
def fractionText (nanos : Nat) : List Char :=
  if nanos = 0 then []
  else if nanos % 1000000 = 0 then '.' :: padded 3 (nanos / 1000000)
  else if nanos % 1000 = 0 then '.' :: padded 6 (nanos / 1000)
  else '.' :: padded 9 nanos

namespace Timestamp

/-- The characters of the stored form. -/
def storedChars (t : Timestamp) : List Char :=
  t.date.chars ++ 'T' :: (t.clock.chars ++ '.' :: (padded 9 t.clock.fraction ++ ['Z']))

/-- The form kept in the store, always to the nanosecond. -/
def stored (t : Timestamp) : String := String.ofList t.storedChars

/-- The form of answers, to the fraction that the time needs. -/
def text (t : Timestamp) : String :=
  String.ofList
    (t.date.chars ++ 'T' :: (t.clock.chars ++ fractionText t.clock.fraction ++ ['Z']))

/-- The form shown to a reader. -/
def display (t : Timestamp) : String :=
  String.ofList (t.date.chars ++ ' ' :: t.clock.chars) ++ " UTC"

end Timestamp

end MailSearch.Calendar
