import MailSearch.Store.Row

/-!
# The mail store

A `Store` holds accounts, messages and attachments, each in the order in which it was stored.

* `Store.insertAccount` adds an account or changes the one with its id.
* `Store.insertMessage` puts a message in the place of the one with its id, attachments included.
  It fails as a whole, and then the store stays as it was, when the account does not exist or an
  attachment is too large. An attachment takes the place of any other with its id.
* `Store.accountsOf` and `Store.getMessage` read back.
-/

namespace MailSearch

/-- The tables of a store. -/
structure Store where
  accounts : List Account := []
  messages : List MessageRow := []
  attachments : List AttachmentRow := []

/-- Whether one key comes no later than another, where each key counts only if the keys before it
are equal. -/
def keysLe : List (Cell × Cell) → Bool
  | [] => true
  | (a, b) :: rest =>
    match a.compare b with
    | .lt => true
    | .eq => keysLe rest
    | .gt => false

namespace Store

/-! ## Accounts -/

/-- Accounts with one added, in the place of the one with its id if there is one. -/
def upsertAccount (account : Account) : List Account → List Account
  | [] => [account]
  | a :: rest =>
    if a.accountId = account.accountId then account :: rest else a :: upsertAccount account rest

/-- Adds an account, or changes the one with its id. -/
def insertAccount (s : Store) (account : Account) : Store :=
  { s with accounts := upsertAccount account s.accounts }

/-- Whether an account exists. -/
def hasAccount (s : Store) (accountId : String) : Bool :=
  s.accounts.any (·.accountId = accountId)

/-- The accounts of a user, by their addresses. -/
def accountsOf (s : Store) (userId : String) : List Account :=
  (s.accounts.filter (·.userId = userId)).mergeSort fun a b => a.emailAddress ≤ b.emailAddress

/-! ## Messages -/

/-- Attachments with one stored last, in the place of any with its id. -/
def putAttachment (rows : List AttachmentRow) (row : AttachmentRow) : List AttachmentRow :=
  rows.filter (fun r => r .id ≠ row .id) ++ [row]

/-- The store without a message and its attachments. -/
def removeMessage (s : Store) (id : String) : Store :=
  { s with
    messages := s.messages.filter fun r => r .id ≠ .text id
    attachments := s.attachments.filter fun r => r .messageId ≠ .text id }

/-- Stores a message with its attachments in the place of the message with its id. -/
def insertMessage (s : Store) (m : Message) : Except StoreError Store :=
  if s.hasAccount m.accountId then
    (m.attachments.mapM (AttachmentRow.ofAttachment m.id)).map fun rows =>
      let rest := s.removeMessage m.id
      { rest with
        messages := rest.messages ++ [MessageRow.ofMessage m]
        attachments := rows.foldl putAttachment rest.attachments }
  else
    .error .foreignKey

/-! ## Reading -/

/-- The rows of a message's attachments. -/
def attachmentRows (s : Store) (messageId : Cell) : List AttachmentRow :=
  s.attachments.filter fun r => r .messageId = messageId

/-- The attachments of a message, by name and then by id. -/
def attachmentsOf (s : Store) (messageId : String) : Except StoreError (List Attachment) :=
  ((s.attachmentRows (.text messageId)).mergeSort fun a b =>
    keysLe [(a .filename, b .filename), (a .id, b .id)]).mapM AttachmentRow.read

/-- A message with its attachments. -/
def withAttachments (s : Store) (m : Message) : Except StoreError Message :=
  (s.attachmentsOf m.id).map fun attachments => { m with attachments }

/-- The message with an id, if there is one. -/
def getMessage (s : Store) (id : String) : Except StoreError (Option Message) :=
  match s.messages.find? fun r => r .id = .text id with
  | none => .ok none
  | some row => do
    let m ← row.read
    return some (← s.withAttachments m)

end Store

end MailSearch
