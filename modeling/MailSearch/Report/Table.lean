import MailSearch.Query.Help
import MailSearch.Search.Service
import MailSearch.Text.Width

/-!
# Tables

Reports as text for a terminal. Columns are measured in the width that a terminal gives the
characters, and cells that are too wide end in an ellipsis. All functions give lists of characters;
each line ends with a line feed.
-/

namespace MailSearch.Report

open Text Calendar

/-- The widths of the columns of a message table. -/
def flagsWidth : Nat := 4

def fromWidth : Nat := 24

def subjectWidth : Nat := 52

def dateWidth : Nat := 12

/-- A line of text. -/
def line (cs : List Char) : List Char := cs ++ ['\n']

/-- Spaces after a text, up to a number of characters. -/
def fill (width : Nat) (cs : List Char) : List Char := cs ++ List.replicate (width - cs.length) ' '

/-- A line of dashes. -/
def dashes (width : Nat) : List Char := List.replicate width '-'

/-- Cells with a gap of two spaces between them. -/
def row (cells : List (List Char)) : List Char := line ([' ', ' '].intercalate cells)

/-- A cell of a width: the text, cut or filled up. -/
def cell (width : Nat) (cs : List Char) : List Char := padRight width (truncate width cs)

/-! ## Messages -/

/-- A mark, or a space in its place. -/
def mark (shown : Bool) (sign : Char) : Char := if shown then sign else ' '

/-- The marks of a message: unread, starred, important, and with attachments. -/
def flags (m : Message) : List Char :=
  [mark (!m.isRead) '*', mark m.isStarred 's', mark m.isImportant '!', mark m.hasAttachments '@']

/-- How long ago a point in time was; a week ago and more, its day. -/
def relativeDate (now sent : Timestamp) : List Char :=
  let seconds := now.secondsSince sent
  if seconds < 0 then "in future".toList
  else
    let seconds := seconds.toNat
    if seconds < 60 then "just now".toList
    else if seconds < 3600 then decimal (seconds / 60) ++ "m ago".toList
    else if seconds < 86400 then decimal (seconds / 3600) ++ "h ago".toList
    else if seconds < 172800 then "yesterday".toList
    else if seconds < 604800 then decimal (seconds / 86400) ++ "d ago".toList
    else sent.date.chars

/-- Who sent a message: a name, or else an address. -/
def senderText (m : Message) : String := (m.fromName.or m.fromAddress).getD "(unknown)"

/-- The subject of a message. -/
def subjectText (m : Message) : String := m.subject.getD "(no subject)"

/-- The two lines above the messages. -/
def header : List Char :=
  row [fill flagsWidth [], fill fromWidth "From".toList, fill subjectWidth "Subject".toList,
    fill dateWidth "Date".toList] ++
  row [dashes flagsWidth, dashes fromWidth, dashes subjectWidth, dashes dateWidth]

/-- The line of a message. -/
def messageRow (now : Timestamp) (m : Message) : List Char :=
  row [padRight flagsWidth (flags m), cell fromWidth (senderText m).toList,
    cell subjectWidth (subjectText m).toList, truncate dateWidth (relativeDate now m.sentAt)]

/-- The messages of a page. -/
def messageTable (now : Timestamp) (messages : List Message) : List Char :=
  if messages.isEmpty then line "No emails found.".toList
  else header ++ messages.flatMap (messageRow now)

/-- The line below the messages. -/
def footer (r : SearchResult) : List Char :=
  line ("Showing ".toList ++ decimal r.page.messages.length ++ " of ".toList ++
    decimal r.page.total ++ " (".toList ++ decimal r.searchTimeMs ++ " ms".toList ++
    (if r.cached then ", cached".toList else []) ++ [')'])

/-- The suggestions, if there are any. -/
def suggestionLines (suggestions : List String) : List Char :=
  if suggestions.isEmpty then []
  else line [] ++ line "Try instead:".toList ++
    suggestions.flatMap fun s => line (' ' :: ' ' :: s.toList)

/-- The terms that were ignored, if there are any. -/
def ignoredLines (ignored : List String) : List Char :=
  if ignored.isEmpty then []
  else line [] ++
    line ("Ignored: ".toList ++ [' '].intercalate (ignored.map String.toList))

/-- The outcome of a search. -/
def searchResult (now : Timestamp) (r : SearchResult) : List Char :=
  messageTable now r.page.messages ++ line [] ++ footer r ++ suggestionLines r.suggestions ++
    ignoredLines ((r.query.map (·.ignored)).getD [])

/-! ## Queries -/

/-- A row for a list of values, left out when there is none. -/
def listRow (label : String) (values : List String) : List (String × List Char) :=
  if values.isEmpty then [] else [(label, [',', ' '].intercalate (values.map String.toList))]

/-- A row for a point in time. -/
def timeRow (label : String) (t : Option Timestamp) : List (String × List Char) :=
  (t.map fun t => (label, t.display.toList)).toList

/-- A row for a size. -/
def sizeRow (label : String) (bytes : Option UInt64) : List (String × List Char) :=
  (bytes.map fun n => (label, decimal n.toNat ++ " bytes".toList)).toList

/-- What a query asks for, by label. -/
def queryRows (q : ParsedQuery) : List (String × List Char) :=
  listRow "from" q.wanted.sender ++ listRow "to" q.wanted.recipient ++ listRow "cc" q.cc ++
  listRow "bcc" q.bcc ++ listRow "subject" q.wanted.subject ++ listRow "has" q.wanted.has ++
  listRow "is" q.wanted.status ++ listRow "in" q.folders ++ listRow "label" q.labels ++
  listRow "filename" q.filenames ++ listRow "text" q.texts ++
  listRow "-from" q.unwanted.sender ++ listRow "-to" q.unwanted.recipient ++
  listRow "-subject" q.unwanted.subject ++ listRow "-has" q.unwanted.has ++
  listRow "-is" q.unwanted.status ++ listRow "unparsed" q.ignored ++
  timeRow "after" q.after ++ timeRow "before" q.before ++
  sizeRow "larger" q.larger ++ sizeRow "smaller" q.smaller

/-- What a query asks for. -/
def parsedQuery (q : ParsedQuery) : List Char :=
  let rows := queryRows q
  if rows.isEmpty then "Empty query.".toList
  else rows.flatMap fun (label, value) => line (fill 10 label.toList ++ ' ' :: value)

/-! ## The operator reference -/

/-- The line of an operator. -/
def helpRow (h : OperatorHelp) : List Char :=
  line (' ' :: ' ' :: (fill 16 h.operator.toList ++ ' ' :: (fill 52 h.description.toList ++
    ' ' :: h.sample.toList)))

/-- The lines of a category. -/
def helpCategory (c : HelpCategory) : List Char :=
  line c.title.toList ++ line (dashes (textWidth c.title.toList)) ++ c.operators.flatMap helpRow

/-- The operator reference, with an empty line between categories. -/
def operatorReference (categories : List HelpCategory) : List Char :=
  ['\n'].intercalate (categories.map helpCategory)

/-! ## The size of a store -/

/-- The line of an account. -/
def accountRow (a : AccountCount) : List Char :=
  let digits := decimalInt a.count
  line (cell 24 a.accountId.toList ++ ' ' :: (List.replicate (8 - digits.length) ' ' ++ digits))

/-- The size of a store. -/
def stats (s : Stats) : List Char :=
  line "Mailsift Stats".toList ++ line "==============".toList ++
  line ("Accounts:    ".toList ++ decimalInt s.accounts) ++
  line ("Messages:    ".toList ++ decimalInt s.messages) ++
  line ("Attachments: ".toList ++ decimalInt s.attachments) ++
  (if s.byAccount.isEmpty then []
    else line [] ++ line "Messages by account".toList ++ line "-------------------".toList ++
      s.byAccount.flatMap accountRow)

end MailSearch.Report
