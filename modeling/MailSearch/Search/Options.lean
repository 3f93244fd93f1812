import MailSearch.Calendar.Format
import MailSearch.Calendar.Reading
import MailSearch.Json.Printer
import MailSearch.Json.Record
import MailSearch.Text.Blank

/-!
# Search options

What a caller asks for beside the query text: filters, and which page of the result.

* `SearchOptions.queryText?` is the query without blanks around it, if anything is left.
* `SearchOptions.pageSize` keeps the page size within bounds; zero stands for the default.
* `SearchOptions.fingerprint` is a text that is equal for equal filters, whatever the query and
  the page.
-/

namespace MailSearch

open Calendar Json Text

/-- The page size of a caller who gives none. -/
def defaultPageSize : Nat := 20

/-- The largest page size, unless configured. -/
def maxPageSize : Nat := 100

/-- A search request. -/
structure SearchOptions where
  query : Option String := none
  fromEmail : Option String := none
  subject : Option String := none
  dateFrom : Option Date := none
  dateTo : Option Date := none
  hasAttachments : Option Bool := none
  isRead : Option Bool := none
  isStarred : Option Bool := none
  accountIds : Option (List String) := none
  labels : Option (List String) := none
  limit : Nat := defaultPageSize
  offset : Nat := 0
  deriving DecidableEq

namespace SearchOptions

/-- A text without blanks around it, unless nothing is left. -/
def nonBlank? (s : String) : Option String :=
  if trim s.toList = [] then none else some (trimString s)

/-- The query to parse, if there is one. -/
def queryText? (o : SearchOptions) : Option String := o.query.bind nonBlank?

/-- The page size: at least 1 and at most `largest`; zero asks for `standard`. -/
def pageSize (o : SearchOptions) (standard largest : Nat) : Nat :=
  let largest := max largest 1
  if o.limit = 0 then min (max standard 1) largest else min o.limit largest

/-- The options as an object. -/
def toJson (o : SearchOptions) : Json :=
  object [
    ("query", ofText? o.query),
    ("fromEmail", ofText? o.fromEmail),
    ("subject", ofText? o.subject),
    ("dateFrom", ofText? (o.dateFrom.map Date.text)),
    ("dateTo", ofText? (o.dateTo.map Date.text)),
    ("hasAttachments", ofBool? o.hasAttachments),
    ("isRead", ofBool? o.isRead),
    ("isStarred", ofBool? o.isStarred),
    ("accountIds", (o.accountIds.map ofTexts).getD null),
    ("labels", (o.labels.map ofTexts).getD null),
    ("limit", integer o.limit),
    ("offset", integer o.offset)]

/-- The filters alone: no query and no page. -/
def filters (o : SearchOptions) : SearchOptions := { o with query := none, limit := 0, offset := 0 }

/-- The filters as one line of text. -/
def fingerprint (o : SearchOptions) : String := o.filters.toJson.compact

/-- The names of the options. -/
def memberNames : List String :=
  ["query", "fromEmail", "subject", "dateFrom", "dateTo", "hasAttachments", "isRead", "isStarred",
    "accountIds", "labels", "limit", "offset"]

/-- The day that a text value gives. -/
def dateOfJson? (v : Json) : Option Date := v.asText?.bind readDate?

/-- The options that a record describes. Each may be absent. -/
def ofJson? (v : Json) : Option SearchOptions := do
  let r ← Record.ofJson? memberNames 0 v
  return {
    query := ← r.opt? "query" asText?
    fromEmail := ← r.opt? "fromEmail" asText?
    subject := ← r.opt? "subject" asText?
    dateFrom := ← r.opt? "dateFrom" dateOfJson?
    dateTo := ← r.opt? "dateTo" dateOfJson?
    hasAttachments := ← r.opt? "hasAttachments" asBool?
    isRead := ← r.opt? "isRead" asBool?
    isStarred := ← r.opt? "isStarred" asBool?
    accountIds := ← r.opt? "accountIds" asTexts?
    labels := ← r.opt? "labels" asTexts?
    limit := ← r.getD? "limit" asWord? defaultPageSize
    offset := ← r.getD? "offset" asWord? 0 }

end SearchOptions

end MailSearch
