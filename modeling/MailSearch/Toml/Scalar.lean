import MailSearch.Calendar.Date
import MailSearch.Toml.Text
import MailSearch.Toml.Value

/-!
# Numbers and times in TOML

Integers in four bases, fractional numbers, dates and times of day. `Toml.readScalar?` reads any of
them.
-/

namespace MailSearch.Toml

open Text

/-- Reads digits with single underscores between them. -/
def digitRun (isDigit : Char → Bool) : List Char → List Char × List Char
  | '_' :: c :: cs =>
    if isDigit c then
      let (digits, rest) := digitRun isDigit cs
      (c :: digits, rest)
    else ([], '_' :: c :: cs)
  | c :: cs =>
    if isDigit c then
      let (digits, rest) := digitRun isDigit cs
      (c :: digits, rest)
    else ([], c :: cs)
  | [] => ([], [])

/-- Reads digits with single underscores between them; a digit comes first. -/
def readDigits? (isDigit : Char → Bool) : List Char → Option (List Char × List Char)
  | c :: cs => if isDigit c then some (digitRun isDigit (c :: cs)) else none
  | [] => none

/-- The number that digits write in a base. -/
def numberIn (base : Nat) (digits : List Char) : Nat :=
  digits.foldl (fun n c => base * n + (Json.hexValue? c).getD 0) 0

/-- Reads an integer in another base than ten, after its mark. -/
def readBased? (base : Nat) (isDigit : Char → Bool) (cs : List Char) :
    Option (Toml × List Char) := do
  let (digits, rest) ← readDigits? isDigit cs
  let n := numberIn base digits
  if n ≤ maxInt64 then some (integer n, rest) else none

/-- Reads the sign of a number: whether it is negative. -/
def readSign : List Char → Bool × List Char
  | '-' :: rest => (true, rest)
  | '+' :: rest => (false, rest)
  | rest => (false, rest)

/-- Reads the digits of a decimal number: a zero, or digits that start with no zero. -/
def readDecimal? : List Char → Option (List Char × List Char)
  | '0' :: rest => some (['0'], rest)
  | rest => readDigits? Char.isDigit rest

/-- Reads a point with digits after it, if there is one. -/
def readPoint? : List Char → Option (Bool × List Char)
  | '.' :: rest => (readDigits? Char.isDigit rest).map fun (_, rest) => (true, rest)
  | rest => some (false, rest)

/-- Reads an exponent, if there is one. -/
def readExponent? : List Char → Option (Bool × List Char)
  | c :: rest =>
    if c = 'e' ∨ c = 'E' then
      (readDigits? Char.isDigit (readSign rest).2).map fun (_, rest) => (true, rest)
    else some (false, c :: rest)
  | [] => some (false, [])

/-- Reads a decimal number. -/
def readDecimalNumber? (cs : List Char) : Option (Toml × List Char) := do
  let (negative, rest) := readSign cs
  let (digits, rest) ← readDecimal? rest
  let (point, rest) ← readPoint? rest
  let (exponent, rest) ← readExponent? rest
  if point || exponent then some (fraction, rest)
  else
    let n := digitsValue digits
    if negative then
      if n ≤ maxInt64 + 1 then some (integer (-n), rest) else none
    else if n ≤ maxInt64 then some (integer n, rest) else none

/-- Reads a number. -/
def readNumber? (cs : List Char) : Option (Toml × List Char) :=
  match (readSign cs).2 with
  | 'i' :: 'n' :: 'f' :: rest => some (fraction, rest)
  | 'n' :: 'a' :: 'n' :: rest => some (fraction, rest)
  | _ =>
    match cs with
    | '0' :: 'x' :: rest => readBased? 16 (fun c => (Json.hexValue? c).isSome) rest
    | '0' :: 'o' :: rest => readBased? 8 (fun c => '0' ≤ c && c ≤ '7') rest
    | '0' :: 'b' :: rest => readBased? 2 (fun c => c = '0' || c = '1') rest
    | _ => readDecimalNumber? cs

/-- Reads two digits that write a number up to a bound. -/
def readTwo? (most : Nat) : List Char → Option (Nat × List Char)
  | a :: b :: rest =>
    if a.isDigit && b.isDigit && digitsValue [a, b] ≤ most then some (digitsValue [a, b], rest)
    else none
  | _ => none

/-- Reads one given character. -/
def readChar? (expected : Char) : List Char → Option (List Char)
  | c :: rest => if c = expected then some rest else none
  | [] => none

/-- Whether the text starts as a time does: two digits and a colon. -/
def startsTime : List Char → Bool
  | a :: b :: ':' :: _ => a.isDigit && b.isDigit && digitsValue [a, b] ≤ 23
  | _ => false

/-- Whether the text starts as a date does: four digits and a dash. -/
def startsDate : List Char → Bool
  | a :: b :: c :: d :: '-' :: _ => a.isDigit && b.isDigit && c.isDigit && d.isDigit
  | _ => false

/-- Reads a time of day. -/
def readTime? (cs : List Char) : Option (List Char) := do
  let (_, rest) ← readTwo? 23 cs
  let rest ← readChar? ':' rest
  let (_, rest) ← readTwo? 59 rest
  let rest ← readChar? ':' rest
  let (_, rest) ← readTwo? 60 rest
  match rest with
  | '.' :: digits =>
    let (run, rest) := spanDigits digits
    if run = [] then some ('.' :: digits) else some rest
  | rest => some rest

/-- Reads an offset from UTC, if there is one. -/
def readOffset? : List Char → Option (List Char)
  | c :: rest =>
    if c = 'Z' ∨ c = 'z' then some rest
    else if c = '+' ∨ c = '-' then do
      let (_, rest) ← readTwo? 23 rest
      let rest ← readChar? ':' rest
      let (_, rest) ← readTwo? 59 rest
      return rest
    else some (c :: rest)
  | [] => some []

/-- Reads a date, and a time after it if there is one. -/
def readDateTime? (cs : List Char) : Option (List Char) := do
  let year := digitsValue (cs.take 4)
  let (month, rest) ← readTwo? 12 (cs.drop 5)
  let rest ← readChar? '-' rest
  let (day, rest) ← readTwo? 31 rest
  if ¬(Calendar.IsDay year month day) then none
  match rest with
  | c :: time =>
    if (c = 'T' ∨ c = 't' ∨ c = ' ') ∧ startsTime time then
      (readTime? time).bind readOffset?
    else some rest
  | [] => some []

/-- Reads a value that starts with a digit or a sign. -/
def readScalar? (cs : List Char) : Option (Toml × List Char) :=
  if startsDate cs then (readDateTime? cs).map (moment, ·)
  else if startsTime cs then (readTime? cs).map (moment, ·)
  else readNumber? cs

end MailSearch.Toml
