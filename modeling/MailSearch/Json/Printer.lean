import MailSearch.Json.Basic
import MailSearch.Text.Digits

/-!
# Printing JSON

`Json.compact` writes a document without blanks, `Json.pretty` over several lines with two spaces
for each level. Strings escape the quote, the backslash and control characters, and nothing else.
-/

namespace MailSearch.Json

open MailSearch.Text

/-- A hexadecimal digit in lower case. -/
def hexDigit (n : Nat) : Char := Nat.digitChar n

/-- A character as it stands inside a string. -/
def escapeChar (c : Char) : List Char :=
  if c = '"' then ['\\', '"']
  else if c = '\\' then ['\\', '\\']
  else if c = '\n' then ['\\', 'n']
  else if c = '\r' then ['\\', 'r']
  else if c = '\t' then ['\\', 't']
  else if c = '\x08' then ['\\', 'b']
  else if c = '\x0c' then ['\\', 'f']
  else if c.toNat < 0x20 then
    ['\\', 'u', '0', '0', hexDigit (c.toNat / 16), hexDigit (c.toNat % 16)]
  else [c]

/-- A quoted string. -/
def quoted (s : String) : List Char := '"' :: (s.toList.flatMap escapeChar ++ ['"'])

mutual

/-- The characters of a document without blanks. -/
def chars : Json → List Char
  | null => ['n', 'u', 'l', 'l']
  | bool true => ['t', 'r', 'u', 'e']
  | bool false => ['f', 'a', 'l', 's', 'e']
  | integer n => decimalInt n
  | decimal written => written.toList
  | text s => quoted s
  | list [] => ['[', ']']
  | list (v :: rest) => '[' :: (v.chars ++ charsOfItems rest)
  | object [] => ['\x7b', '\x7d']
  | object ((name, v) :: rest) =>
    '\x7b' :: (quoted name ++ ':' :: (v.chars ++ charsOfFields rest))

/-- The items after the first, and the closing bracket. -/
def charsOfItems : List Json → List Char
  | [] => [']']
  | v :: rest => ',' :: (v.chars ++ charsOfItems rest)

/-- The fields after the first, and the closing brace. -/
def charsOfFields : List (String × Json) → List Char
  | [] => ['\x7d']
  | (name, v) :: rest => ',' :: (quoted name ++ ':' :: (v.chars ++ charsOfFields rest))

end

/-- A document without blanks. -/
def compact (v : Json) : String := String.ofList v.chars

/-- A new line at a level. -/
def newLine (level : Nat) : List Char := '\n' :: List.replicate (2 * level) ' '

mutual

/-- The characters of a document over several lines, from a level of indentation on. -/
def prettyChars (level : Nat) : Json → List Char
  | list (v :: rest) =>
    '[' :: (newLine (level + 1) ++ (v.prettyChars (level + 1) ++ prettyItems level rest))
  | object ((name, v) :: rest) =>
    '\x7b' :: (newLine (level + 1) ++ (quoted name ++ ':' :: ' ' ::
      (v.prettyChars (level + 1) ++ prettyFields level rest)))
  | v => v.chars

/-- The items after the first, and the closing bracket. -/
def prettyItems (level : Nat) : List Json → List Char
  | [] => newLine level ++ [']']
  | v :: rest =>
    ',' :: (newLine (level + 1) ++ (v.prettyChars (level + 1) ++ prettyItems level rest))

/-- The fields after the first, and the closing brace. -/
def prettyFields (level : Nat) : List (String × Json) → List Char
  | [] => newLine level ++ ['\x7d']
  | (name, v) :: rest =>
    ',' :: (newLine (level + 1) ++ (quoted name ++ ':' :: ' ' ::
      (v.prettyChars (level + 1) ++ prettyFields level rest)))

end

/-- A document over several lines. -/
def pretty (v : Json) : String := String.ofList (v.prettyChars 0)

end MailSearch.Json
