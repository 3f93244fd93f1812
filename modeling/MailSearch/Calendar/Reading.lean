import MailSearch.Calendar.Timestamp
import MailSearch.Text.Blank
import MailSearch.Text.Digits

/-!
# Reading dates and times

* `readStored` reads the stored form of a timestamp. It is strict: RFC 3339, fixed field widths,
  and a reason (`TimestampError`) when the text is not of that form.
* `readTimestamp?` reads timestamps given by a caller: blanks may stand around the numbers, months
  and days may have one digit, and a year may be signed and then have any length.
* `readDate?` reads days in the same spirit, and `readDateArgument?` a day on a command line, where
  blanks may stand before a number only.

Each reader works through the text from the left; a step returns what it read and the rest.
-/

namespace MailSearch.Calendar

open MailSearch.Text

/-- Why a text is not a point in time. -/
inductive TimestampError where
  /-- The text ends too early. -/
  | tooShort
  /-- A character that cannot stand where it stands. -/
  | invalid
  /-- A number beyond its range, or a day that does not exist. -/
  | outOfRange
  /-- Text after the end. -/
  | tooLong
  /-- A time that its offset takes out of the calendar. -/
  | impossible
  deriving DecidableEq, Repr

/-- The reason in words. -/
def TimestampError.message : TimestampError → String
  | .tooShort => "premature end of input"
  | .invalid => "input contains invalid characters"
  | .outOfRange => "input is out of range"
  | .tooLong => "trailing input"
  | .impossible => "no possible date and time matching input"

/-- The outcome of a reader or of one of its steps. A step gives what it read and the rest of the
text. -/
abbrev Read := Except TimestampError

/-- The length of a text in UTF-8. -/
def byteLength : List Char → Nat
  | [] => 0
  | c :: cs => c.utf8Size + byteLength cs

/-- Reads a number of at least `least` and at most `most` digits. -/
def scanNumber (least most : Nat) (cs : List Char) : Read (Nat × List Char) :=
  let digits := (cs.take most).takeWhile Char.isDigit
  if byteLength cs < least then .error .tooShort
  else if digits.length < least then .error .invalid
  else .ok (digitsValue digits, cs.drop digits.length)

/-- Reads one given character. -/
def scanChar (expected : Char) : List Char → Read (Unit × List Char)
  | [] => .error .tooShort
  | c :: cs => if c = expected then .ok ((), cs) else .error .invalid

/-- Reads the mark between a date and a time: `T`, `t` or a space. -/
def scanTimeMark : List Char → Read (Unit × List Char)
  | [] => .error .tooShort
  | c :: cs => if c = 'T' ∨ c = 't' ∨ c = ' ' then .ok ((), cs) else .error .invalid

/-- Reads a number that must lie in a range. -/
def scanWithin (least most low high : Nat) (cs : List Char) : Read (Nat × List Char) := do
  let (n, rest) ← scanNumber least most cs
  if low ≤ n ∧ n ≤ high then .ok (n, rest) else .error .outOfRange

/-- Reads a fraction of a second in nanoseconds, if one follows. Digits beyond the ninth are
passed over. -/
def scanFraction : List Char → Read (Nat × List Char)
  | '.' :: cs => do
    let (n, rest) ← scanNumber 1 9 cs
    .ok (n * tenTo (9 - (cs.length - rest.length)), rest.dropWhile Char.isDigit)
  | cs => .ok (0, cs)

/-- Reads two digits of an offset. -/
def scanOffsetPart (cs : List Char) : Read (Nat × List Char) :=
  if byteLength cs < 2 then .error .tooShort
  else match cs with
    | a :: b :: rest =>
      if a.isDigit && b.isDigit then .ok (digitsValue [a, b], rest) else .error .invalid
    | _ => .error .invalid

/-- Reads the sign of an offset from UTC. -/
def scanSign : List Char → Read (Int × List Char)
  | [] => .error .tooShort
  | '+' :: cs => .ok (1, cs)
  | '-' :: cs => .ok (-1, cs)
  | '−' :: cs => .ok (-1, cs)
  | _ => .error .invalid

/-- Reads an offset from UTC in seconds: `Z`, or a sign, hours and minutes with the given
separator between them. -/
def scanOffset (separator : List Char → Read (Unit × List Char)) :
    List Char → Read (Int × List Char)
  | 'Z' :: cs | 'z' :: cs => .ok (0, cs)
  | cs => do
    let (sign, cs) ← scanSign cs
    let (hours, cs) ← scanOffsetPart cs
    let (_, cs) ← separator cs
    let (minutes, cs) ← scanOffsetPart cs
    if minutes < 60 then .ok (sign * (hours * 3600 + minutes * 60 : Nat), cs)
    else .error .outOfRange

/-- The point in time of a local date and time at an offset from UTC. -/
def resolve (year : Int) (month day hour minute second nano : Nat) (offset : Int) :
    Read Timestamp :=
  match Date.ofYmd? year month day, Clock.ofHms? hour minute second nano with
  | some date, some clock =>
    if offset.natAbs < secondsPerDay then
      match Timestamp.ofSeconds? date (clock.second - offset) clock.nano with
      | some t => .ok t
      | none => .error .impossible
    else .error .outOfRange
  | _, _ => .error .outOfRange

/-- Reads the stored form of a timestamp. -/
def readStoredChars (cs : List Char) : Read Timestamp := do
  let (year, cs) ← scanNumber 4 4 cs
  let (_, cs) ← scanChar '-' cs
  let (month, cs) ← scanWithin 2 2 1 12 cs
  let (_, cs) ← scanChar '-' cs
  let (day, cs) ← scanWithin 2 2 1 31 cs
  let (_, cs) ← scanTimeMark cs
  let (hour, cs) ← scanWithin 2 2 0 23 cs
  let (_, cs) ← scanChar ':' cs
  let (minute, cs) ← scanWithin 2 2 0 59 cs
  let (_, cs) ← scanChar ':' cs
  let (second, cs) ← scanWithin 2 2 0 60 cs
  let (nano, cs) ← scanFraction cs
  let (offset, cs) ← scanOffset (scanChar ':') cs
  if offset.natAbs ≥ secondsPerDay then .error .outOfRange
  else if cs ≠ [] then .error .tooLong
  else resolve year month day hour minute second nano offset

/-- Reads the stored form of a timestamp. -/
def readStored (s : String) : Read Timestamp := readStoredChars s.toList

/-! ## Texts given by a caller -/

/-- Reads a year: after a sign any number of digits, else at most four. -/
def scanYear (cs : List Char) : Read (Int × List Char) :=
  match trimLeft cs with
  | '-' :: rest => do
    let (n, rest) ← scanNumber 1 rest.length rest
    .ok (-n, rest)
  | '+' :: rest => do
    let (n, rest) ← scanNumber 1 rest.length rest
    .ok (n, rest)
  | rest => do
    let (n, rest) ← scanNumber 1 4 rest
    .ok (n, rest)

/-- Reads a number of one or two digits after blanks. -/
def scanPart (cs : List Char) : Read (Nat × List Char) := scanNumber 1 2 (trimLeft cs)

/-- Reads a year, a month and a day. With `loose` blanks may stand before the separators. -/
def scanDate (loose : Bool) (cs : List Char) : Read ((Int × Nat × Nat) × List Char) := do
  let skip := if loose then trimLeft else id
  let (year, cs) ← scanYear cs
  let (_, cs) ← scanChar '-' (skip cs)
  let (month, cs) ← scanPart cs
  let (_, cs) ← scanChar '-' (skip cs)
  let (day, cs) ← scanPart cs
  .ok ((year, month, day), cs)

/-- Passes over colons and blanks. -/
def skipColons (cs : List Char) : Read (Unit × List Char) :=
  .ok ((), cs.dropWhile fun c => c = ':' || isBlank c)

/-- Whether the text starts with the name of the zone UTC, in any case. -/
def startsUtc (cs : List Char) : Bool := (cs.take 3).map Char.toLower = ['u', 't', 'c']

/-- Reads a timestamp given by a caller. -/
def readTimestampChars (cs : List Char) : Read Timestamp := do
  let ((year, month, day), cs) ← scanDate true cs
  let (_, cs) ← scanTimeMark cs
  let (hour, cs) ← scanPart cs
  let (_, cs) ← scanChar ':' (trimLeft cs)
  let (minute, cs) ← scanPart cs
  let (_, cs) ← scanChar ':' (trimLeft cs)
  let (second, cs) ← scanPart cs
  let (nano, cs) ← scanFraction cs
  let cs := trimLeft cs
  let (offset, cs) ← if startsUtc cs then .ok (0, cs.drop 3) else scanOffset skipColons cs
  if trimLeft cs ≠ [] then .error .tooLong
  else resolve year month day hour minute second nano offset

/-- Reads a timestamp given by a caller. -/
def readTimestamp? (s : String) : Option Timestamp := (readTimestampChars s.toList).toOption

/-- Reads a day given by a caller; the text must end after it, blanks aside if it is `loose`. -/
def readDay? (loose : Bool) (cs : List Char) : Option Date := do
  let ((year, month, day), rest) ← (scanDate loose cs).toOption
  if (if loose then trimLeft rest else rest) = [] then Date.ofYmd? year month day else none

/-- Reads a day given by a caller. -/
def readDate? (s : String) : Option Date := readDay? true s.toList

/-- Reads a day given on a command line. -/
def readDateArgument? (s : String) : Option Date := readDay? false (trim s.toList)

end MailSearch.Calendar
