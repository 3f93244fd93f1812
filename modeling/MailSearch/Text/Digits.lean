/-!
# Decimal digits

Reading and writing natural numbers in base ten. `readNat?` takes digits only: no sign, no blank,
no separator.
-/

namespace MailSearch.Text

/-- The value of an ASCII digit. -/
def digitValue (c : Char) : Nat := c.toNat - '0'.toNat

/-- The number that a run of digits writes. -/
def digitsValue (cs : List Char) : Nat := cs.foldl (fun n c => 10 * n + digitValue c) 0

/-- The number written by a non-empty text of digits. -/
def readNat? (cs : List Char) : Option Nat :=
  if cs ≠ [] ∧ cs.all Char.isDigit then some (digitsValue cs) else none

/-- The number written by a text of digits, when it is below the bound. -/
def readBelow? (bound : Nat) (cs : List Char) : Option Nat :=
  (readNat? cs).filter (· < bound)

/-- One more than the largest unsigned 32-bit number. -/
def word32 : Nat := 4294967296

/-- One more than the largest unsigned 64-bit number. -/
def word64 : Nat := 18446744073709551616

/-- The largest signed 64-bit number. -/
def maxInt64 : Nat := 9223372036854775807

/-- A power of ten: what a digit counts with so many digits after it. -/
def tenTo (n : Nat) : Nat := Nat.pow 10 n

/-- The digits of a number. -/
def decimal (n : Nat) : List Char := Nat.toDigits 10 n

/-- The digits of a number, filled with zeros on the left to a width. -/
def padded (width n : Nat) : List Char :=
  List.replicate (width - (decimal n).length) '0' ++ decimal n

/-- The text of an integer, with a sign only when it is negative. -/
def decimalInt (n : Int) : List Char :=
  if n < 0 then '-' :: decimal n.natAbs else decimal n.natAbs

/-- A text cut after its leading digits. -/
def spanDigits (cs : List Char) : List Char × List Char :=
  (cs.takeWhile Char.isDigit, cs.dropWhile Char.isDigit)

theorem spanDigits_append (cs : List Char) : (spanDigits cs).1 ++ (spanDigits cs).2 = cs :=
  List.takeWhile_append_dropWhile

end MailSearch.Text
