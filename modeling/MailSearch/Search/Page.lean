import MailSearch.Json.Printer
import MailSearch.Json.Reader
import MailSearch.Mail.Encoding

/-!
# Pages of a result

One page of a search result with the number of all matches, and its form in the cache.
-/

namespace MailSearch

open Json

/-- One page of the messages found, and the number of all messages found. -/
structure Page where
  messages : List Message
  total : Nat
  deriving DecidableEq

namespace Page

/-- A page as an object. -/
def toJson (p : Page) : Json :=
  object [("messages", list (p.messages.map Message.toJson)), ("total_count", integer p.total)]

/-- The page that a record describes. -/
def ofJson? (v : Json) : Option Page := do
  let r ← Record.ofJson? ["messages", "total_count"] 2 v
  return {
    messages := ← r.need? "messages" messagesOfJson?
    total := ← r.need? "total_count" asWord? }

/-- A page as it is kept in the cache. -/
def encode (p : Page) : String := p.toJson.compact

/-- What is wanted of the record of a page. -/
def shape : Shape := .record [("messages", .each Message.shape), ("total_count", .whole)]

/-- The page that a text from the cache holds, if it can be read. -/
def decode? (s : String) : Option Page := (readAs? shape s).bind ofJson?

end Page

end MailSearch
