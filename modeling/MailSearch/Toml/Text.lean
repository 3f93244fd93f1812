import MailSearch.Text.Digits
import MailSearch.Json.Reader

/-!
# The characters of TOML

Blanks, line ends, comments and strings. A reader takes the text that follows and gives what it
read and the rest, or nothing when the text is not of its form.
-/

namespace MailSearch.Toml

open Text

/-- The blanks within a line. -/
def isSpace (c : Char) : Bool := c = ' ' || c = '\t'

/-- The characters that a comment or a string can hold as they are: no control character but the
tab. -/
def isPlain (c : Char) : Bool := c = '\t' || (0x20 ≤ c.toNat && c.toNat ≠ 0x7F)

/-- The text without the blanks that it starts with. -/
def skipSpace (cs : List Char) : List Char := cs.dropWhile isSpace

/-- The text after the line end that it starts with. -/
def newline? : List Char → Option (List Char)
  | '\n' :: rest => some rest
  | '\r' :: '\n' :: rest => some rest
  | _ => none

/-- The text after the end of a line, which may have blanks and a comment before it. The text may
end there too. -/
def lineEnd? (cs : List Char) : Option (List Char) :=
  let rest := match skipSpace cs with
    | '#' :: rest => rest.dropWhile isPlain
    | rest => rest
  if rest = [] then some [] else newline? rest

/-- The text without the blanks, line ends and comments that it starts with; `comment` says whether
it starts within a comment. -/
def skipFill (comment : Bool) : List Char → List Char
  | [] => []
  | c :: cs =>
    if comment && isPlain c then skipFill true cs
    else if isSpace c || c = '\n' || (c = '\r' && cs.head? = some '\n') then skipFill false cs
    else if c = '#' then skipFill true cs
    else c :: cs

/-- The character that a letter stands for after a backslash. -/
def escaped? (c : Char) : Option Char :=
  if c = '"' ∨ c = '\\' then some c
  else if c = 'b' then some '\x08'
  else if c = 't' then some '\t'
  else if c = 'n' then some '\n'
  else if c = 'f' then some '\x0c'
  else if c = 'r' then some '\r'
  else none

/-- The character with a number, if it has one. -/
def charOf? (code : Nat) : Option Char :=
  if code < 0xD800 ∨ (0xE000 ≤ code ∧ code < 0x110000) then some (Char.ofNat code) else none

/-- The number that four hexadecimal digits write. -/
def hexFour? (a b c d : Char) : Option Nat := Json.hexWord? a b c d

/-- Adds a character in front of what was read. -/
def prepend (c : Char) : Option (List Char × List Char) → Option (List Char × List Char) :=
  Option.map fun (cs, rest) => (c :: cs, rest)

/-- Reads a string of one line with escapes, after its opening quote. -/
def readBasic : List Char → Option (List Char × List Char)
  | '"' :: rest => some ([], rest)
  | '\\' :: 'u' :: a :: b :: c :: d :: rest => do
    let x ← charOf? (← hexFour? a b c d)
    prepend x (readBasic rest)
  | '\\' :: 'U' :: a :: b :: c :: d :: e :: f :: g :: h :: rest => do
    let x ← charOf? ((← hexFour? a b c d) * 0x10000 + (← hexFour? e f g h))
    prepend x (readBasic rest)
  | '\\' :: c :: rest => do
    let x ← escaped? c
    prepend x (readBasic rest)
  | c :: rest => if isPlain c && c ≠ '\\' then prepend c (readBasic rest) else none
  | [] => none

/-- Reads a string of one line as it stands, after its opening quote. -/
def readLiteral : List Char → Option (List Char × List Char)
  | '\'' :: rest => some ([], rest)
  | c :: rest => if isPlain c then prepend c (readLiteral rest) else none
  | [] => none

/-- What three closing quotes and up to two more mean: the additional quotes belong to the
string. -/
def closeThree (quote : Char) : List Char → List Char × List Char
  | a :: b :: rest =>
    if a = quote ∧ b = quote then ([quote, quote], rest)
    else if a = quote then ([quote], b :: rest)
    else ([], a :: b :: rest)
  | [a] => if a = quote then ([quote], []) else ([], [a])
  | [] => ([], [])

/-- Whether a line ends here, blanks aside. -/
def endsLine (cs : List Char) : Bool := (newline? (skipSpace cs)).isSome

/-- Reads a string of several lines with escapes, after its opening quotes. A backslash at the end
of a line takes away all blanks and line ends up to the next character; `trimming` says that one
has just been read. -/
def readBasicLines (trimming : Bool) : List Char → Option (List Char × List Char)
  | '"' :: '"' :: '"' :: rest => some (closeThree '"' rest)
  | '\\' :: 'u' :: a :: b :: c :: d :: rest => do
    let x ← charOf? (← hexFour? a b c d)
    prepend x (readBasicLines false rest)
  | '\\' :: 'U' :: a :: b :: c :: d :: e :: f :: g :: h :: rest => do
    let x ← charOf? ((← hexFour? a b c d) * 0x10000 + (← hexFour? e f g h))
    prepend x (readBasicLines false rest)
  | '\\' :: c :: rest =>
    match escaped? c with
    | some x => prepend x (readBasicLines false rest)
    | none => if endsLine (c :: rest) then readBasicLines true (c :: rest) else none
  | '\r' :: '\n' :: rest =>
    if trimming then readBasicLines true rest else prepend '\n' (readBasicLines false rest)
  | '\n' :: rest =>
    if trimming then readBasicLines true rest else prepend '\n' (readBasicLines false rest)
  | c :: rest =>
    if trimming && isSpace c then readBasicLines true rest
    else if isPlain c && c ≠ '\\' then prepend c (readBasicLines false rest)
    else none
  | [] => none

/-- Reads a string of several lines as it stands, after its opening quotes. -/
def readLiteralLines : List Char → Option (List Char × List Char)
  | '\'' :: '\'' :: '\'' :: rest => some (closeThree '\'' rest)
  | '\r' :: '\n' :: rest => prepend '\n' (readLiteralLines rest)
  | '\n' :: rest => prepend '\n' (readLiteralLines rest)
  | c :: rest => if isPlain c then prepend c (readLiteralLines rest) else none
  | [] => none

/-- The text without a line end that it starts with. -/
def dropNewline (cs : List Char) : List Char := (newline? cs).getD cs

/-- Reads a string in any of its four forms. -/
def readString? : List Char → Option (List Char × List Char)
  | '"' :: '"' :: '"' :: rest => readBasicLines false (dropNewline rest)
  | '"' :: rest => readBasic rest
  | '\'' :: '\'' :: '\'' :: rest => readLiteralLines (dropNewline rest)
  | '\'' :: rest => readLiteral rest
  | _ => none

/-! ## Keys -/

/-- The characters of a key without quotes. -/
def isKeyChar (c : Char) : Bool := c.isAlphanum || c = '_' || c = '-'

/-- Reads one part of a key. -/
def readKeyPart? : List Char → Option (String × List Char)
  | '"' :: rest => (readBasic rest).map fun (cs, rest) => (String.ofList cs, rest)
  | '\'' :: rest => (readLiteral rest).map fun (cs, rest) => (String.ofList cs, rest)
  | cs =>
    let part := cs.takeWhile isKeyChar
    if part = [] then none else some (String.ofList part, cs.dropWhile isKeyChar)

/-- The largest depth of keys and values. -/
def maxDepth : Nat := 80

/-- Reads a key of at most `depth` parts with points between them, and the blanks around it. -/
def readKey? : (depth : Nat) → List Char → Option (List String × List Char)
  | 0, _ => none
  | depth + 1, cs => do
    let (part, rest) ← readKeyPart? (skipSpace cs)
    match skipSpace rest with
    | '.' :: rest => (readKey? depth rest).map fun (parts, rest) => (part :: parts, rest)
    | rest => some ([part], rest)

end MailSearch.Toml
