import MailSearch.Text.Lowercase

/-!
# Search operators

The sixteen operators of the query language. A term is written `keyword:value`; its keyword is read
without regard to ASCII case (`Operator.ofKeyword?`). Five operators can be negated, and two take
a quoted phrase for a value.
-/

namespace MailSearch

open Text

/-- What a term of a query speaks about. -/
inductive Operator where
  | sender
  | recipient
  | cc
  | bcc
  | subject
  | has
  | status
  | folder
  | label
  | filename
  | before
  | after
  | olderThan
  | newerThan
  | larger
  | smaller
  deriving DecidableEq, Repr

namespace Operator

/-- Every operator. -/
def all : List Operator :=
  [sender, recipient, cc, bcc, subject, has, status, folder, label, filename, before, after,
    olderThan, newerThan, larger, smaller]

/-- The word before the colon. -/
def keyword : Operator → String
  | sender => "from"
  | recipient => "to"
  | cc => "cc"
  | bcc => "bcc"
  | subject => "subject"
  | has => "has"
  | status => "is"
  | folder => "in"
  | label => "label"
  | filename => "filename"
  | before => "before"
  | after => "after"
  | olderThan => "older_than"
  | newerThan => "newer_than"
  | larger => "larger"
  | smaller => "smaller"

/-- The operator of a keyword, in any ASCII case. -/
def ofKeyword? (word : List Char) : Option Operator :=
  all.find? fun op => op.keyword.toList = word.map Char.toLower

/-- Whether a minus before the keyword turns the term around. -/
def canNegate : Operator → Bool
  | sender | recipient | subject | has | status => true
  | _ => false

/-- Whether the value may be a quoted phrase. -/
def takesPhrase : Operator → Bool
  | subject | filename => true
  | _ => false

theorem ofKeyword?_keyword (op : Operator) : ofKeyword? op.keyword.toList = some op := by
  cases op <;> decide

theorem keyword_of_ofKeyword? {word : List Char} {op : Operator} (h : ofKeyword? word = some op) :
    op.keyword.toList = word.map Char.toLower := by
  simpa using List.find?_some h

end Operator

end MailSearch
