import MailSearch.Store.Basic

/-!
# Changing single cells

`Store.updateMessages` and `Store.updateAttachments` set one column in the rows with an id, and give
the number of rows set. A value is stored as its column prefers. The change is refused when a
column that needs a value would have none, when two rows would share an id, or when a row would
speak of one that does not exist.
-/

namespace MailSearch

/-- Whether two values are equal keys; rows without a key never clash. -/
def sameKey (a b : Cell) : Bool := a ≠ .null && a = b

namespace Store

/-- Whether every message has its account, and every attachment its message. -/
def isLinked (s : Store) : Bool :=
  (s.messages.all fun r => s.accounts.any fun a => r .accountId = .text a.accountId) &&
  (s.attachments.all fun r => s.messages.any fun m => sameKey (m .id) (r .messageId))

/-- Sets a column in the rows that a test picks. -/
def setColumn {κ : Type} [DecidableEq κ] (rows : List (κ → Cell)) (picks : (κ → Cell) → Bool)
    (column : κ) (value : Cell) : List (κ → Cell) :=
  rows.map fun r => if picks r then fun c => if c = column then value else r c else r

/-- A change of one column of a table: the rows after it and the number of rows changed. -/
def setCell {κ : Type} [DecidableEq κ] (rows : List (κ → Cell)) (table columnName : String)
    (key column : κ) (required : Bool) (id : String) (value : Cell) :
    Except StoreError (List (κ → Cell) × Nat) :=
  let picks (r : κ → Cell) : Bool := r key = .text id
  let changed := rows.countP picks
  if changed = 0 then .ok (rows, 0)
  else if required && value = .null then .error (.missingValue table columnName)
  else if column = key && rows.any fun r => !picks r && sameKey (r key) value then
    .error (.duplicateKey table columnName)
  else .ok (setColumn rows picks column value, changed)

/-- The store after a change, if its rows are linked as they should be. -/
def linked (s : Store) (changed : Nat) : Except StoreError (Store × Nat) :=
  if s.isLinked then .ok (s, changed) else .error .foreignKey

/-- Sets a column of the message with an id. -/
def updateMessages (s : Store) (id : String) (column : MessageColumn) (value : Cell) :
    Except StoreError (Store × Nat) := do
  let (messages, changed) ← setCell s.messages "messages" column.name .id column column.required id
    (column.affinity.store value)
  linked { s with messages } changed

/-- Sets a column of the attachment with an id. -/
def updateAttachments (s : Store) (id : String) (column : AttachmentColumn) (value : Cell) :
    Except StoreError (Store × Nat) := do
  let (attachments, changed) ← setCell s.attachments "attachments" column.name .id column
    column.required id (column.affinity.store value)
  linked { s with attachments } changed

end Store

end MailSearch
