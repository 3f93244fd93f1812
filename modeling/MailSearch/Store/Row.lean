import MailSearch.Mail.Basic
import MailSearch.Calendar.Format
import MailSearch.Store.Error

/-!
# Rows

How messages and attachments lie in the store: a row gives each column a cell. Writing
(`MessageRow.ofMessage`, `AttachmentRow.ofAttachment`) never fails, save for an attachment whose
size has no room. Reading (`MessageRow.read`, `AttachmentRow.read`) fails at the first column that
does not hold what it should, since cells can be changed one by one.
-/

namespace MailSearch

open Calendar Text

/-- The columns of the messages, in order. -/
inductive MessageColumn where
  | id
  | userId
  | accountId
  | threadId
  | subject
  | fromAddress
  | fromName
  | toAddresses
  | ccAddresses
  | bccAddresses
  | bodyText
  | bodyHtml
  | sentAt
  | isRead
  | isStarred
  | isImportant
  | folder
  | labels
  deriving DecidableEq, Repr

namespace MessageColumn

/-- Every column. -/
def all : List MessageColumn :=
  [id, userId, accountId, threadId, subject, fromAddress, fromName, toAddresses, ccAddresses,
    bccAddresses, bodyText, bodyHtml, sentAt, isRead, isStarred, isImportant, folder, labels]

/-- The name of a column. -/
def name : MessageColumn → String
  | id => "id"
  | userId => "user_id"
  | accountId => "account_id"
  | threadId => "thread_id"
  | subject => "subject"
  | fromAddress => "from_address"
  | fromName => "from_name"
  | toAddresses => "to_addresses"
  | ccAddresses => "cc_addresses"
  | bccAddresses => "bcc_addresses"
  | bodyText => "body_text"
  | bodyHtml => "body_html"
  | sentAt => "sent_at"
  | isRead => "is_read"
  | isStarred => "is_starred"
  | isImportant => "is_important"
  | folder => "folder"
  | labels => "labels"

/-- The place of a column, from 0. -/
def index (c : MessageColumn) : Nat := all.idxOf c

/-- What a column prefers to hold. -/
def affinity : MessageColumn → Affinity
  | isRead | isStarred | isImportant => .number
  | _ => .text

/-- Whether a column must hold a value. -/
def required : MessageColumn → Bool
  | userId | accountId | sentAt | isRead | isStarred | isImportant => true
  | _ => false

/-- The column with a name. -/
def ofName? (s : String) : Option MessageColumn := all.find? (·.name = s)

end MessageColumn

/-- The columns of the attachments, in order. -/
inductive AttachmentColumn where
  | id
  | messageId
  | filename
  | contentType
  | sizeBytes
  deriving DecidableEq, Repr

namespace AttachmentColumn

/-- Every column. -/
def all : List AttachmentColumn := [id, messageId, filename, contentType, sizeBytes]

/-- The name of a column. -/
def name : AttachmentColumn → String
  | id => "id"
  | messageId => "message_id"
  | filename => "filename"
  | contentType => "content_type"
  | sizeBytes => "size_bytes"

/-- The place of a column, from 0. -/
def index (c : AttachmentColumn) : Nat := all.idxOf c

/-- What a column prefers to hold. -/
def affinity : AttachmentColumn → Affinity
  | sizeBytes => .number
  | _ => .text

/-- Whether a column must hold a value. -/
def required : AttachmentColumn → Bool
  | messageId | filename | sizeBytes => true
  | _ => false

/-- The column with a name. -/
def ofName? (s : String) : Option AttachmentColumn := all.find? (·.name = s)

end AttachmentColumn

/-! ## Reading cells -/

/-- The text of a cell that must hold one. -/
def Cell.readText (index : Nat) (column : String) : Cell → Except StoreError String
  | text s => .ok s
  | v => .error (.wrongType v.type index column)

/-- The text of a cell that may hold nothing. -/
def Cell.readText? (index : Nat) (column : String) : Cell → Except StoreError (Option String)
  | null => .ok none
  | v => (v.readText index column).map some

/-- The integer of a cell. -/
def Cell.readInt (index : Nat) (column : String) : Cell → Except StoreError Int
  | integer n => .ok n
  | v => .error (.wrongType v.type index column)

/-- The truth value of a cell: any integer but zero is true. -/
def Cell.readBool (index : Nat) (column : String) (v : Cell) : Except StoreError Bool :=
  (v.readInt index column).map fun n => n ≠ 0

/-- The point in time of a stored text. -/
def readTimestamp (s : String) : Except StoreError Timestamp :=
  (readStored s).mapError (StoreError.badTimestamp s.utf8ByteSize)

/-- A stored message, without its attachments. -/
abbrev MessageRow := MessageColumn → Cell

namespace MessageRow

/-- The row that a message is stored in. -/
def ofMessage (m : Message) : MessageRow
  | .id => .text m.id
  | .userId => .text m.userId
  | .accountId => .text m.accountId
  | .threadId => .ofText? m.threadId
  | .subject => .ofText? m.subject
  | .fromAddress => .ofText? m.fromAddress
  | .fromName => .ofText? m.fromName
  | .toAddresses => .ofTexts m.toAddresses
  | .ccAddresses => .ofTexts m.ccAddresses
  | .bccAddresses => .ofTexts m.bccAddresses
  | .bodyText => .ofText? m.bodyText
  | .bodyHtml => .ofText? m.bodyHtml
  | .sentAt => .text m.sentAt.stored
  | .isRead => .ofBool m.isRead
  | .isStarred => .ofBool m.isStarred
  | .isImportant => .ofBool m.isImportant
  | .folder => .ofText? m.folder
  | .labels => .ofTexts m.labels

/-- The text in a column. -/
def text (r : MessageRow) (c : MessageColumn) : Except StoreError String :=
  (r c).readText c.index c.name

/-- The text in a column, if there is one. -/
def text? (r : MessageRow) (c : MessageColumn) : Except StoreError (Option String) :=
  (r c).readText? c.index c.name

/-- The truth value in a column. -/
def bool (r : MessageRow) (c : MessageColumn) : Except StoreError Bool :=
  (r c).readBool c.index c.name

/-- The texts of the list in a column; a list that cannot be read is empty. -/
def texts (r : MessageRow) (c : MessageColumn) : Except StoreError (List String) :=
  (r.text? c).map fun _ => (r c).texts

/-- The message of a row, without its attachments. -/
def read (r : MessageRow) : Except StoreError Message := do
  return {
    id := ← r.text .id
    userId := ← r.text .userId
    accountId := ← r.text .accountId
    threadId := ← r.text? .threadId
    subject := ← r.text? .subject
    fromAddress := ← r.text? .fromAddress
    fromName := ← r.text? .fromName
    toAddresses := ← r.texts .toAddresses
    ccAddresses := ← r.texts .ccAddresses
    bccAddresses := ← r.texts .bccAddresses
    bodyText := ← r.text? .bodyText
    bodyHtml := ← r.text? .bodyHtml
    sentAt := ← (r.text .sentAt).bind readTimestamp
    isRead := ← r.bool .isRead
    isStarred := ← r.bool .isStarred
    isImportant := ← r.bool .isImportant
    folder := ← r.text? .folder
    labels := ← r.texts .labels
    attachments := [] }

end MessageRow

/-- A stored attachment. -/
abbrev AttachmentRow := AttachmentColumn → Cell

namespace AttachmentRow

/-- The row that an attachment of a message is stored in. -/
def ofAttachment (messageId : String) (a : Attachment) : Except StoreError AttachmentRow :=
  if a.sizeBytes.toNat ≤ maxInt64 then
    .ok fun
      | .id => .text a.id
      | .messageId => .text messageId
      | .filename => .text a.filename
      | .contentType => .ofText? a.contentType
      | .sizeBytes => .integer a.sizeBytes.toNat
  else
    .error (.attachmentTooLarge a.id)

/-- The text in a column. -/
def text (r : AttachmentRow) (c : AttachmentColumn) : Except StoreError String :=
  (r c).readText c.index c.name

/-- The attachment of a row; a negative size counts as zero. -/
def read (r : AttachmentRow) : Except StoreError Attachment := do
  let size ← (r .sizeBytes).readInt AttachmentColumn.sizeBytes.index AttachmentColumn.sizeBytes.name
  return {
    id := ← r.text .id
    messageId := ← r.text .messageId
    filename := ← r.text .filename
    contentType := ← (r .contentType).readText? AttachmentColumn.contentType.index
      AttachmentColumn.contentType.name
    sizeBytes := size.toNat.toUInt64 }

end AttachmentRow

end MailSearch
