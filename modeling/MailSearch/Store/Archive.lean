import MailSearch.Mail.Encoding
import MailSearch.Store.Database

/-!
# Archives

An archive is a JSON record of the accounts and messages of a database, each in the order in which
it is to be stored. `Database.ofArchive?` stores what an archive holds in a new database.
-/

namespace MailSearch

open Json

/-- What is kept in an archive. -/
structure Archive where
  accounts : List Account
  messages : List Message

namespace Archive

/-- An archive as an object. -/
def toJson (a : Archive) : Json :=
  object [
    ("accounts", list (a.accounts.map Account.toJson)),
    ("messages", list (a.messages.map Message.toJson))]

/-- The archive that a record describes. -/
def ofJson? (v : Json) : Option Archive := do
  let r ← Record.ofJson? ["accounts", "messages"] 2 v
  return {
    accounts := ← r.need? "accounts" accountsOfJson?
    messages := ← r.need? "messages" messagesOfJson? }

/-- An archive as a text. -/
def encode (a : Archive) : String := a.toJson.compact

/-- The archive that a text holds. -/
def decode? (s : String) : Option Archive := (read? s).bind ofJson?

end Archive

namespace Database

/-- A new database with what the archive in a text holds. -/
def ofArchive? (s : String) : Option Database := do
  let a ← Archive.decode? s
  let db ← (migrate {}).toOption
  (db.insertAll a.accounts a.messages).toOption

end Database

end MailSearch
