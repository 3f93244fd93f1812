import MailSearch.Store.Summary
import MailSearch.Store.Update

/-!
# Databases

A `Database` is a store together with the record of its schema version. A new database has neither
tables nor version; `Database.migrate` brings it up to date, and refuses a version that it cannot
read or does not know. It is run whenever a database is opened.

Every operation on the store needs its tables (`Database.withStore`).
-/

namespace MailSearch

open Text

/-- The columns of the state records, in order. -/
inductive StateColumn where
  | key
  | value
  | updatedAt
  deriving DecidableEq, Repr

namespace StateColumn

/-- The name of a column. -/
def name : StateColumn → String
  | key => "key"
  | value => "value"
  | updatedAt => "updated_at"

/-- The column with a name. -/
def ofName? (s : String) : Option StateColumn := [key, value, updatedAt].find? (·.name = s)

end StateColumn

/-- A state record. -/
abbrev StateRow := StateColumn → Cell

/-- The state record of a key and a value. -/
def StateRow.of (stateKey value : String) : StateRow
  | .key => .text stateKey
  | .value => .text value
  | .updatedAt => .text ""

/-- A store with its state records. The tables may not exist yet. -/
structure Database where
  states : List StateRow := []
  store : Option Store := none

namespace Database

/-- The key of the record that holds the schema version. -/
def versionKey : String := "schema_version"

/-- The version of the tables that this library reads and writes. -/
def latestVersion : Nat := 1

/-- A written version: digits, perhaps after a plus. -/
def readVersion? (raw : String) : Option Nat :=
  readBelow? word32 (match raw.toList with
    | '+' :: cs => cs
    | cs => cs)

/-- The schema version of a database; one without a record is at version 0. -/
def version (db : Database) : Except MigrationError Nat :=
  match db.states.find? fun r => r .key = .text versionKey with
  | none => .ok 0
  | some r =>
    match r .value with
    | .text raw =>
      match readVersion? raw with
      | some n => .ok n
      | none => .error (.notANumber raw)
    | _ => .error .unreadable

/-- State records with the version record set. -/
def setVersion (states : List StateRow) (n : Nat) : List StateRow :=
  let row := StateRow.of versionKey (String.ofList (decimal n))
  if states.any fun r => r .key = .text versionKey then
    states.map fun r => if r .key = .text versionKey then row else r
  else
    states ++ [row]

/-- Brings a database to the latest version. Tables that exist are kept. -/
def migrate (db : Database) : Except StoreError Database :=
  match db.version with
  | .error e => .error (.migration e)
  | .ok n =>
    if latestVersion < n then .error (.migration (.tooNew n latestVersion))
    else if n = latestVersion then .ok db
    else .ok ⟨setVersion db.states latestVersion, some (db.store.getD {})⟩

/-- A database that holds nothing but a version record. -/
def ofVersion (version : String) : Database := ⟨[StateRow.of versionKey version], none⟩

/-- The store, for an operation that starts with a table. -/
def withStore (db : Database) (table : String) : Except StoreError Store :=
  match db.store with
  | none => .error (.noSuchTable table)
  | some s => .ok s

/-- Adds an account, or changes the one with its id. -/
def insertAccount (db : Database) (account : Account) : Except StoreError Database := do
  let s ← db.withStore "accounts"
  return { db with store := some (s.insertAccount account) }

/-- Stores a message with its attachments in the place of the message with its id. -/
def insertMessage (db : Database) (m : Message) : Except StoreError Database := do
  let s ← db.withStore "messages"
  return { db with store := some (← s.insertMessage m) }

/-- The database with accounts and then messages stored. -/
def insertAll (db : Database) (accounts : List Account) (messages : List Message) :
    Except StoreError Database := do
  let db ← accounts.foldlM insertAccount db
  messages.foldlM insertMessage db

/-- The message with an id, if there is one. -/
def getMessage (db : Database) (id : String) : Except StoreError (Option Message) := do
  (← db.withStore "messages").getMessage id

/-- The accounts of a user, by their addresses. -/
def accountsOf (db : Database) (userId : String) : Except StoreError (List Account) := do
  return (← db.withStore "accounts").accountsOf userId

/-- One page of the messages that satisfy a clause. -/
def find (db : Database) (clause : Clause) (limit offset : Nat) :
    Except StoreError (List Message) := do
  (← db.withStore "messages").find clause limit offset

/-- The number of messages that satisfy a clause. -/
def count (db : Database) (clause : Clause) : Except StoreError Nat := do
  (← db.withStore "messages").count clause

/-- The most frequent values of a column in one user's messages. -/
def topValues (db : Database) (userId : String) (column : MessageColumn) (limit : Nat) :
    Except StoreError (List ValueCount) := do
  return (← db.withStore "messages").topValues userId column limit

/-- The size of the store. -/
def stats (db : Database) : Except StoreError Stats := do
  return (← db.withStore "accounts").stats

/-! ## Changing single cells -/

/-- The tables with cells that can be changed one by one. -/
inductive Table where
  | messages
  | attachments
  | states
  deriving DecidableEq, Repr

/-- The table with a name. -/
def Table.ofName? (s : String) : Option Table :=
  if s = "messages" then some messages
  else if s = "attachments" then some attachments
  else if s = "sync_state" then some states
  else none

/-- A column's outcome, or the error that there is none of that name. -/
def column {α : Type} (name : String) (found : Option α) : Except StoreError α :=
  match found with
  | some c => .ok c
  | none => .error (.noSuchColumn name)

/-- Sets a column in the rows of a table that have an id, and gives the number of rows set. -/
def update (db : Database) (table : Table) (id columnName : String) (value : Cell) :
    Except StoreError (Database × Nat) := do
  match table with
  | .messages =>
    let s ← db.withStore "messages"
    let c ← column columnName (MessageColumn.ofName? columnName)
    let (s, n) ← s.updateMessages id c value
    return ({ db with store := some s }, n)
  | .attachments =>
    let s ← db.withStore "attachments"
    let c ← column columnName (AttachmentColumn.ofName? columnName)
    let (s, n) ← s.updateAttachments id c value
    return ({ db with store := some s }, n)
  | .states =>
    let c ← column columnName (StateColumn.ofName? columnName)
    let (states, n) ← Store.setCell db.states "sync_state" columnName .key c (c = .updatedAt) id
      (Affinity.text.store value)
    return ({ db with states }, n)

end Database

end MailSearch
