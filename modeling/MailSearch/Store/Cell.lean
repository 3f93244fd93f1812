import MailSearch.Json.Printer
import MailSearch.Json.Reader
import MailSearch.Text.Digits
import MailSearch.Text.Blank

/-!
# Stored values

A `Cell` is one value of a stored row. Cells are ordered: nothing comes first, then numbers, then
texts by their characters (`Cell.compare`).

A column may prefer texts or numbers (`Affinity`). A value is converted to what its column prefers
when it is stored, if that loses nothing.
-/

namespace MailSearch

open Text

/-- A stored value. -/
inductive Cell where
  | null
  | integer (value : Int)
  /-- A number that is not a 64-bit integer: a whole number divided by a power of ten. -/
  | real (digits : Int) (scale : Nat)
  | text (value : String)
  deriving DecidableEq, Repr

/-- The kinds of stored values. -/
inductive CellType where
  | null
  | integer
  | real
  | text
  deriving DecidableEq, Repr

/-- The name of a kind. -/
def CellType.name : CellType → String
  | null => "Null"
  | integer => "Integer"
  | real => "Real"
  | text => "Text"

namespace Cell

/-- The kind of a value. -/
def type : Cell → CellType
  | null => .null
  | integer _ => .integer
  | real .. => .real
  | text _ => .text

/-- A text, or nothing. -/
def ofText? : Option String → Cell
  | none => null
  | some s => text s

/-- A truth value is stored as a number. -/
def ofBool (b : Bool) : Cell := integer (if b then 1 else 0)

/-- Whether a number fits into 64 bits with a sign. -/
def fitsInt64 (n : Int) : Bool := -9223372036854775808 ≤ n && n ≤ 9223372036854775807

/-- The integer, or the next best number when it is too large for one. -/
def ofInt (n : Int) : Cell := if fitsInt64 n then integer n else real n 0

/-- The order of stored values. -/
def compare : Cell → Cell → Ordering
  | null, null => .eq
  | null, _ => .lt
  | _, null => .gt
  | integer a, integer b => Ord.compare a b
  | integer a, real b s => Ord.compare (a * tenTo s) b
  | real a s, integer b => Ord.compare a (b * tenTo s)
  | real a s, real b t => Ord.compare (a * tenTo t) (b * tenTo s)
  | text _, integer _ | text _, real .. => .gt
  | integer _, text _ | real .., text _ => .lt
  | text a, text b => if a = b then .eq else if a < b then .lt else .gt

/-! ## Numbers written as text -/

/-- The blanks that may stand around a written number. -/
def isPadding (c : Char) : Bool := c = ' ' || (9 ≤ c.toNat && c.toNat ≤ 13)

/-- The number of a decimal text: a sign, digits with a point among them, and an exponent, of which
only a digit must be there. -/
def readNumber? (s : String) : Option Cell := do
  let cs := ((s.toList.dropWhile isPadding).reverse.dropWhile isPadding).reverse
  let (negative, cs) := match cs with
    | '-' :: cs => (true, cs)
    | '+' :: cs => (false, cs)
    | cs => (false, cs)
  let (whole, rest) := spanDigits cs
  let (part, rest) := match rest with
    | '.' :: rest => spanDigits rest
    | rest => ([], rest)
  if whole = [] ∧ part = [] then none
  let exponent ← readExponent? rest
  let digits : Int := digitsValue (whole ++ part)
  let digits := if negative then -digits else digits
  let shift : Int := exponent - part.length
  if 0 ≤ shift then return ofInt (digits * tenTo shift.toNat)
  else
    let scale := (-shift).toNat
    if digits % tenTo scale = 0 then return ofInt (digits / tenTo scale)
    else return real digits scale
where
  /-- The exponent that ends a written number. -/
  readExponent? : List Char → Option Int
    | [] => some 0
    | c :: cs =>
      if c = 'e' ∨ c = 'E' then
        match cs with
        | '-' :: cs => (readBelow? 1000 cs).map fun n => -(n : Int)
        | '+' :: cs => (readBelow? 1000 cs).map fun n => (n : Int)
        | cs => (readBelow? 1000 cs).map fun n => (n : Int)
      else none

end Cell

/-- What a column prefers to hold. -/
inductive Affinity where
  | text
  | number
  deriving DecidableEq, Repr

/-- A whole number divided by a power of ten, written with fifteen significant digits at most and a
digit on each side of the point. Very large and very small numbers have an exponent. -/
def Cell.realText (digits : Int) (scale : Nat) : List Char :=
  let extra := (decimal digits.natAbs).length - 15
  let kept := decimal ((digits.natAbs + tenTo extra / 2) / tenTo extra)
  let exponent : Int := (kept.length : Int) - 1 + extra - scale
  let kept := (kept.reverse.dropWhile (· = '0')).reverse
  (if digits < 0 then ['-'] else []) ++
    (if kept = [] then ['0', '.', '0']
    else if exponent < -4 ∨ 14 < exponent then
      pointed 1 kept ++ ['e', if exponent < 0 then '-' else '+'] ++ padded 2 exponent.natAbs
    else if exponent < 0 then '0' :: '.' :: (List.replicate (exponent.natAbs - 1) '0' ++ kept)
    else pointed (exponent.toNat + 1) kept)
where
  /-- Digits with a point after the given number of them, filled with zeros where there is none. -/
  pointed (whole : Nat) (digits : List Char) : List Char :=
    let part := digits.drop whole
    digits.take whole ++ List.replicate (whole - digits.length) '0' ++
      '.' :: (if part = [] then ['0'] else part)

/-- The text of a number. -/
def Cell.numberText : Cell → Option String
  | integer n => some (String.ofList (decimalInt n))
  | real digits scale => some (String.ofList (realText digits scale))
  | _ => none

/-- A value as a column with the affinity stores it. -/
def Affinity.store : Affinity → Cell → Cell
  | text, v => match v.numberText with
    | some s => .text s
    | none => v
  | number, .text s => (Cell.readNumber? s).getD (.text s)
  | number, .real digits scale =>
    if digits % tenTo scale = 0 then Cell.ofInt (digits / tenTo scale) else .real digits scale
  | number, v => v

/-! ## Lists -/

/-- The stored value for an item of a list. A nested list or object becomes its text. -/
def Cell.ofJson : Json → Cell
  | .null => null
  | .bool b => ofBool b
  | .integer n => ofInt n
  | .decimal written => match readNumber? written with
    | some (integer n) => real n 0
    | some v => v
    | none => null
  | .text s => text s
  | v => text v.compact

/-- The items of a stored list: those of a list, the values of an object, and any other value as
the one item. A column without a value is an empty list, and a text that is not JSON is none. -/
def Cell.items? : Cell → Option (List Cell)
  | null => some []
  | text s => (Json.read? s).map fun
    | .list items => items.map ofJson
    | .object fields => fields.map fun field => ofJson field.2
    | v => [ofJson v]
  | v => some [v]

/-- The texts of a stored list, or none at all if it holds anything else. -/
def Cell.texts : Cell → List String
  | text s => ((Json.read? s).bind Json.asTexts?).getD []
  | _ => []

/-- A list of texts as it is stored. -/
def Cell.ofTexts (values : List String) : Cell := text (Json.ofTexts values).compact

end MailSearch
