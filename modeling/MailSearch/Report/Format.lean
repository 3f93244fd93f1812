import MailSearch.Json.Printer
import MailSearch.Report.Table

/-!
# Reports

A report is written as a table for people or as JSON for programs.
-/

namespace MailSearch

open Calendar Json

/-- The size of a store as an object. -/
def Stats.toJson (s : Stats) : Json :=
  object [
    ("total_accounts", integer s.accounts),
    ("total_messages", integer s.messages),
    ("total_attachments", integer s.attachments),
    ("messages_by_account", list (s.byAccount.map fun a =>
      object [("account_id", text a.accountId), ("count", integer a.count)]))]

/-- The forms of a report. -/
inductive ReportFormat where
  | table
  | json
  deriving DecidableEq, Repr

namespace Report

/-- A report in either form. -/
def render (format : ReportFormat) (table : List Char) (document : Json) : String :=
  match format with
  | .table => String.ofList table
  | .json => document.pretty

/-- The report of a search. -/
def ofResult (format : ReportFormat) (now : Timestamp) (r : SearchResult) : String :=
  render format (searchResult now r) r.toJson

/-- The report of a parsed query. -/
def ofQuery (format : ReportFormat) (q : ParsedQuery) : String :=
  render format (parsedQuery q) q.toJson

/-- The operator reference. -/
def ofHelp (format : ReportFormat) : String :=
  render format (operatorReference operatorHelp) (list (operatorHelp.map HelpCategory.toJson))

/-- The report of a store's size. -/
def ofStats (format : ReportFormat) (s : Stats) : String := render format (stats s) s.toJson

end Report

end MailSearch
