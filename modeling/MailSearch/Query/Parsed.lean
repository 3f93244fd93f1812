import MailSearch.Query.Token
import MailSearch.Query.Value
import MailSearch.Calendar.Format
import MailSearch.Json.Basic

/-!
# Parsed queries

`ParsedQuery` holds what a query asks for, operator by operator. `ParsedQuery.parse` reads one; it
never fails: a term that cannot be applied is kept in `ignored`, and what is no term is searched
for as text.

Terms are applied from left to right (`ParsedQuery.add?`). A value is listed once. A value wanted
and unwanted for one operator counts as what its last term says. A later day, duration or size takes
the place of an earlier one.
-/

namespace MailSearch

open Text Calendar

/-- The operators whose terms can be turned around. -/
inductive Aspect where
  | sender
  | recipient
  | subject
  | has
  | status
  deriving DecidableEq, Repr

/-- The values given for each aspect, in order of first mention. -/
structure AspectValues where
  sender : List String := []
  recipient : List String := []
  subject : List String := []
  has : List String := []
  status : List String := []
  deriving DecidableEq, Repr

namespace AspectValues

/-- The values of an aspect. -/
def get (v : AspectValues) : Aspect → List String
  | .sender => v.sender
  | .recipient => v.recipient
  | .subject => v.subject
  | .has => v.has
  | .status => v.status

/-- Changes the values of an aspect. -/
def modify (v : AspectValues) (change : List String → List String) : Aspect → AspectValues
  | .sender => { v with sender := change v.sender }
  | .recipient => { v with recipient := change v.recipient }
  | .subject => { v with subject := change v.subject }
  | .has => { v with has := change v.has }
  | .status => { v with status := change v.status }

/-- Whether there is no value. -/
def isEmpty (v : AspectValues) : Bool :=
  v.sender.isEmpty && v.recipient.isEmpty && v.subject.isEmpty && v.has.isEmpty && v.status.isEmpty

end AspectValues

/-- What a query asks for. -/
structure ParsedQuery where
  wanted : AspectValues := {}
  unwanted : AspectValues := {}
  cc : List String := []
  bcc : List String := []
  folders : List String := []
  labels : List String := []
  filenames : List String := []
  /-- The last point in time asked for, from a day or from a duration. -/
  before : Option Timestamp := none
  /-- The first point in time asked for. -/
  after : Option Timestamp := none
  /-- The duration that gave `before`, as written. -/
  olderThan : Option String := none
  /-- The duration that gave `after`, as written. -/
  newerThan : Option String := none
  larger : Option UInt64 := none
  smaller : Option UInt64 := none
  /-- The texts to search for: phrases before words. -/
  texts : List String := []
  /-- The terms that could not be applied, as written. -/
  ignored : List String := []
  deriving DecidableEq

namespace ParsedQuery

/-- Whether nothing is asked for. Ignored terms do not count. -/
def isEmpty (q : ParsedQuery) : Bool :=
  q.wanted.isEmpty && q.unwanted.isEmpty && q.cc.isEmpty && q.bcc.isEmpty && q.folders.isEmpty &&
  q.labels.isEmpty && q.filenames.isEmpty && q.before.isNone && q.after.isNone &&
  q.larger.isNone && q.smaller.isNone && q.texts.isEmpty

/-- A list with a value added at its end, unless it is there. -/
def addOnce (value : String) (values : List String) : List String :=
  if value ∈ values then values else values ++ [value]

/-- A list without a value. -/
def drop (value : String) (values : List String) : List String := values.filter (· ≠ value)

/-- Applies a term of an aspect: the value moves to the side that the term is on. -/
def addAspect (q : ParsedQuery) (aspect : Aspect) (negated : Bool) (value : String) :
    ParsedQuery :=
  if negated then
    { q with
      wanted := q.wanted.modify (drop value) aspect
      unwanted := q.unwanted.modify (addOnce value) aspect }
  else
    { q with
      wanted := q.wanted.modify (addOnce value) aspect
      unwanted := q.unwanted.modify (drop value) aspect }

/-- The point in time that lies the duration written in a text before `now`. -/
def resolveDuration? (now : Timestamp) (value : List Char) : Option Timestamp :=
  (Duration.read? value).bind (·.before? now)

/-- The query with one more term, or nothing if its value does not suit the operator. -/
def add? (now : Timestamp) (q : ParsedQuery) (op : Operator) (negated : Bool)
    (value : List Char) : Option ParsedQuery :=
  let s := String.ofList value
  if negated && !op.canNegate then none
  else match op with
    | .sender => some (q.addAspect .sender negated s)
    | .recipient => some (q.addAspect .recipient negated s)
    | .subject => some (q.addAspect .subject negated s)
    | .has => some (q.addAspect .has negated s)
    | .status => some (q.addAspect .status negated s)
    | .cc => some { q with cc := addOnce s q.cc }
    | .bcc => some { q with bcc := addOnce s q.bcc }
    | .folder => some { q with folders := addOnce s q.folders }
    | .label => some { q with labels := addOnce s q.labels }
    | .filename => some { q with filenames := addOnce s q.filenames }
    | .before => (readDay? value).map fun t => { q with before := some t }
    | .after => (readDay? value).map fun t => { q with after := some t }
    | .olderThan =>
      (resolveDuration? now value).map fun t => { q with before := some t, olderThan := some s }
    | .newerThan =>
      (resolveDuration? now value).map fun t => { q with after := some t, newerThan := some s }
    | .larger => (readSize? value).map fun n => { q with larger := some n }
    | .smaller => (readSize? value).map fun n => { q with smaller := some n }

/-- The query with one more token. Words and phrases are left to `texts`. -/
def step (now : Timestamp) (q : ParsedQuery) : Token → ParsedQuery
  | .word _ | .phrase _ => q
  | token@(.term negated _ op value) =>
    match value.content?.bind (q.add? now op negated) with
    | some q' => q'
    | none => { q with ignored := q.ignored ++ [String.ofList token.source] }

/-- The content of a phrase. -/
def phraseText? : Token → Option String
  | .phrase content => some (String.ofList content)
  | _ => none

/-- The text of a word. -/
def wordText? : Token → Option String
  | .word source => some (String.ofList source)
  | _ => none

/-- What the tokens of a query ask for. -/
def ofTokens (now : Timestamp) (tokens : List Token) : ParsedQuery :=
  { tokens.foldl (step now) {} with
    texts := tokens.filterMap phraseText? ++ tokens.filterMap wordText? }

/-- What a query asks for at a point in time, from which its durations count back. -/
def parse (now : Timestamp) (query : String) : ParsedQuery :=
  ofTokens now (Token.scan query.toList)

end ParsedQuery

end MailSearch
