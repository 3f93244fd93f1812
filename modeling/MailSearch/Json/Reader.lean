import MailSearch.Json.Basic
import MailSearch.Text.Digits

/-!
# Reading JSON

`Json.read?` is the document that a text writes, if it writes one: RFC 8259, with nothing but
blanks around the value. A string may not hold a raw control character or half of a surrogate pair.

A reader that knows the records it looks for passes over the fields that it does not know
(`Json.readAs?`, with a `Shape` that says what is wanted). Strings in what is passed over may hold
halves of surrogate pairs.

Values nest, so the readers of values, items and fields call each other; `fuel` bounds the calls.
Two for each character are more than enough, because no two calls in a row leave the text as it is.
-/

namespace MailSearch.Json

open MailSearch.Text

/-- The blanks of JSON. -/
def isGap (c : Char) : Bool := c = ' ' || c = '\n' || c = '\t' || c = '\r'

/-- The text without the blanks it starts with. -/
def skipGap (cs : List Char) : List Char := cs.dropWhile isGap

/-- The value of a hexadecimal digit. -/
def hexValue? (c : Char) : Option Nat :=
  if c.isDigit then some (digitValue c)
  else if 'a' ≤ c ∧ c ≤ 'f' then some (c.toNat - 'a'.toNat + 10)
  else if 'A' ≤ c ∧ c ≤ 'F' then some (c.toNat - 'A'.toNat + 10)
  else none

/-- The value of four hexadecimal digits. -/
def hexWord? (a b c d : Char) : Option Nat := do
  let a ← hexValue? a
  let b ← hexValue? b
  let c ← hexValue? c
  let d ← hexValue? d
  return ((a * 16 + b) * 16 + c) * 16 + d

/-- The character that a letter stands for after a backslash. -/
def escaped? (c : Char) : Option Char :=
  if c = '"' ∨ c = '\\' ∨ c = '/' then some c
  else if c = 'n' then some '\n'
  else if c = 'r' then some '\r'
  else if c = 't' then some '\t'
  else if c = 'b' then some '\x08'
  else if c = 'f' then some '\x0c'
  else none

/-- The character of a surrogate pair. -/
def surrogatePair? (high low : Nat) : Option Char :=
  if 0xD800 ≤ high ∧ high < 0xDC00 ∧ 0xDC00 ≤ low ∧ low < 0xE000 then
    some (Char.ofNat (0x10000 + (high - 0xD800) * 0x400 + (low - 0xDC00)))
  else
    none

/-- The character of a code unit that is no surrogate. -/
def unitChar? (code : Nat) : Option Char :=
  if 0xD800 ≤ code ∧ code < 0xE000 then none else some (Char.ofNat code)

/-- The character of a code unit, where half of a surrogate pair counts as the replacement
character. -/
def looseUnitChar? (code : Nat) : Option Char := some ((unitChar? code).getD '\ufffd')

/-- What is wanted of a value. -/
inductive Shape where
  /-- All of it. -/
  | whole
  /-- The items of a list, all of one shape. -/
  | each (item : Shape)
  /-- The members of a record, each with its own shape. -/
  | record (members : List (String × Shape))
  /-- Nothing. -/
  | skipped

namespace Shape

/-- What is wanted of a field. -/
def field : Shape → String → Shape
  | whole, _ => whole
  | record members, name => (members.lookup name).getD skipped
  | _, _ => skipped

/-- What is wanted of the first item of a list. -/
def head : Shape → Shape
  | whole => whole
  | each item => item
  | record (member :: _) => member.2
  | _ => skipped

/-- What is wanted of the items after the first. -/
def tail : Shape → Shape
  | record (_ :: members) => record members
  | shape => shape

/-- The character of a code unit that is no part of a surrogate pair. -/
def unitChar? : Shape → Nat → Option Char
  | skipped => looseUnitChar?
  | _ => Json.unitChar?

end Shape

/-- Reads a string up to its closing quote, the opening quote being read. -/
def readString (unit? : Nat → Option Char) : List Char → Option (List Char × List Char)
  | [] => none
  | '"' :: rest => some ([], rest)
  | '\\' :: 'u' :: a :: b :: c :: d :: '\\' :: 'u' :: e :: f :: g :: h :: rest =>
    match (do surrogatePair? (← hexWord? a b c d) (← hexWord? e f g h)) with
    | some x => (readString unit? rest).map fun (s, rest) => (x :: s, rest)
    | none => do
      let x ← unit? (← hexWord? a b c d)
      (readString unit? ('\\' :: 'u' :: e :: f :: g :: h :: rest)).map
        fun (s, rest) => (x :: s, rest)
  | '\\' :: 'u' :: a :: b :: c :: d :: rest => do
    let x ← unit? (← hexWord? a b c d)
    (readString unit? rest).map fun (s, rest) => (x :: s, rest)
  | '\\' :: c :: rest => do
    let x ← escaped? c
    (readString unit? rest).map fun (s, rest) => (x :: s, rest)
  | c :: rest =>
    if c.toNat < 0x20 ∨ c = '\\' then none
    else (readString unit? rest).map fun (s, rest) => (c :: s, rest)

/-- Reads the digits after a point, if there is one. -/
def readFraction : List Char → Option (List Char × List Char)
  | '.' :: rest =>
    let (digits, rest) := spanDigits rest
    if digits = [] then none else some ('.' :: digits, rest)
  | rest => some ([], rest)

/-- Reads an exponent, if there is one. -/
def readExponent : List Char → Option (List Char × List Char)
  | c :: rest =>
    if c = 'e' ∨ c = 'E' then
      let (sign, rest) := match rest with
        | '+' :: rest => (['+'], rest)
        | '-' :: rest => (['-'], rest)
        | rest => ([], rest)
      let (digits, rest) := spanDigits rest
      if digits = [] then none else some (c :: (sign ++ digits), rest)
    else some ([], c :: rest)
  | [] => some ([], [])

/-- Reads a number. A minus zero is not an integer. -/
def readNumber (cs : List Char) : Option (Json × List Char) := do
  let (negative, unsigned) := match cs with
    | '-' :: rest => (true, rest)
    | rest => (false, rest)
  let (digits, rest) := spanDigits unsigned
  if digits = [] ∨ (digits.head? = some '0' ∧ digits.length ≠ 1) then none
  else
    let (fraction, rest) ← readFraction rest
    let (exponent, rest) ← readExponent rest
    let value := digitsValue digits
    if fraction = [] ∧ exponent = [] ∧ ¬(negative ∧ value = 0) then
      some (integer (if negative then -value else value), rest)
    else
      let sign := if negative then ['-'] else []
      some (decimal (String.ofList (sign ++ digits ++ fraction ++ exponent)), rest)

mutual

/-- Reads a value at the start of the text. -/
def readValue : Nat → Shape → List Char → Option (Json × List Char)
  | 0, _, _ => none
  | fuel + 1, shape, cs =>
    match cs with
    | '"' :: rest =>
      (readString shape.unitChar? rest).map fun (s, rest) => (text (String.ofList s), rest)
    | '[' :: rest =>
      match skipGap rest with
      | ']' :: rest => some (list [], rest)
      | rest => (readItems fuel shape rest).map fun (items, rest) => (list items, rest)
    | '\x7b' :: rest =>
      match skipGap rest with
      | '\x7d' :: rest => some (object [], rest)
      | rest => (readFields fuel shape rest).map fun (fields, rest) => (object fields, rest)
    | 'n' :: 'u' :: 'l' :: 'l' :: rest => some (null, rest)
    | 't' :: 'r' :: 'u' :: 'e' :: rest => some (bool true, rest)
    | 'f' :: 'a' :: 'l' :: 's' :: 'e' :: rest => some (bool false, rest)
    | rest => readNumber rest

/-- Reads the items of a list up to its closing bracket. -/
def readItems : Nat → Shape → List Char → Option (List Json × List Char)
  | 0, _, _ => none
  | fuel + 1, shape, cs => do
    let (v, rest) ← readValue fuel shape.head (skipGap cs)
    match skipGap rest with
    | ']' :: rest => some ([v], rest)
    | ',' :: rest =>
      (readItems fuel shape.tail rest).map fun (items, rest) => (v :: items, rest)
    | _ => none

/-- Reads the fields of an object up to its closing brace. -/
def readFields : Nat → Shape → List Char → Option (List (String × Json) × List Char)
  | 0, _, _ => none
  | fuel + 1, shape, cs =>
    match skipGap cs with
    | '"' :: rest => do
      let (chars, rest) ← readString shape.unitChar? rest
      let name := String.ofList chars
      match skipGap rest with
      | ':' :: rest =>
        let (v, rest) ← readValue fuel (shape.field name) (skipGap rest)
        match skipGap rest with
        | '\x7d' :: rest => some ([(name, v)], rest)
        | ',' :: rest =>
          (readFields fuel shape rest).map fun (fields, rest) => ((name, v) :: fields, rest)
        | _ => none
      | _ => none
    | _ => none

end

/-- The document that the characters write, where so much of it is wanted. -/
def readChars? (shape : Shape) (cs : List Char) : Option Json := do
  let (v, rest) ← readValue (2 * cs.length + 2) shape (skipGap cs)
  if skipGap rest = [] then some v else none

/-- The document that a text writes, where so much of it is wanted. -/
def readAs? (shape : Shape) (s : String) : Option Json := readChars? shape s.toList

/-- The document that a text writes. -/
def read? (s : String) : Option Json := readAs? .whole s

end MailSearch.Json
