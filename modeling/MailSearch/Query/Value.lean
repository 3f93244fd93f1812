import MailSearch.Calendar.Timestamp
import MailSearch.Text.Digits

/-!
# Values of terms

Three kinds of value are more than text:

* `Duration.read?`: a count of days, months or years, such as `7d`, `2m` or `1y`;
* `readSize?`: a count of bytes, perhaps in units of 1024, such as `500K`, `10m` or `1G`;
* `readDay?`: a day as `YYYY-MM-DD` or `YYYY/MM/DD`, which stands for its midnight.
-/

namespace MailSearch

open Text Calendar

/-- A unit of the calendar. -/
inductive CalendarUnit where
  | day
  | month
  | year
  deriving DecidableEq, Repr

/-- The unit that a letter stands for, in either case. -/
def CalendarUnit.ofLetter? (c : Char) : Option CalendarUnit :=
  if c.toLower = 'd' then some day
  else if c.toLower = 'm' then some month
  else if c.toLower = 'y' then some year
  else none

/-- A count of units of the calendar. -/
structure Duration where
  amount : Nat
  unit : CalendarUnit
  deriving DecidableEq, Repr

namespace Duration

/-- The duration that a text writes: digits and one letter. The count has 32 bits. -/
def read? (cs : List Char) : Option Duration :=
  match spanDigits cs with
  | (digits, [letter]) => do
    let amount ← readBelow? word32 digits
    let unit ← CalendarUnit.ofLetter? letter
    return ⟨amount, unit⟩
  | _ => none

/-- The point in time that lies the duration before another, if the calendar reaches it. A month or
year step that leaves the month stops at its last day. -/
def before? (d : Duration) (t : Timestamp) : Option Timestamp :=
  match d.unit with
  | .day => t.subDays? d.amount
  | .month => t.subMonths? d.amount
  | .year => t.subMonths? (d.amount * 12)

end Duration

/-- The bytes of a unit of size: none, or a letter in either case. -/
def unitBytes? : List Char → Option Nat
  | [] => some 1
  | [c] =>
    if c.toUpper = 'K' then some 1024
    else if c.toUpper = 'M' then some (1024 * 1024)
    else if c.toUpper = 'G' then some (1024 * 1024 * 1024)
    else none
  | _ => none

/-- The bytes that a text writes: digits, and perhaps a unit. The count has 64 bits. -/
def readSize? (cs : List Char) : Option UInt64 := do
  let (digits, letters) := spanDigits cs
  let amount ← readBelow? word64 digits
  let unit ← unitBytes? letters
  if amount * unit < word64 then some (amount * unit).toUInt64 else none

/-- The midnight of the day that a text writes in ten characters, with dashes or slashes. -/
def readDay? : List Char → Option Timestamp
  | [y1, y2, y3, y4, s1, m1, m2, s2, d1, d2] =>
    if (s1 = '-' ∨ s1 = '/') ∧ s2 = s1 ∧ [y1, y2, y3, y4, m1, m2, d1, d2].all Char.isDigit then
      (Date.ofYmd? (digitsValue [y1, y2, y3, y4]) (digitsValue [m1, m2])
        (digitsValue [d1, d2])).map Timestamp.startOfDay
    else none
  | _ => none

end MailSearch
