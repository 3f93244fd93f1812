import MailSearch.Mail.Basic
import MailSearch.Calendar.Format
import MailSearch.Calendar.Reading
import MailSearch.Json.Reader
import MailSearch.Json.Record

/-!
# Mail in JSON

Messages, attachments and accounts as JSON records (`toJson`) and back (`ofJson?`). Every member is
written; in reading, a member that may be `null` may be absent, and so may the attachments.
-/

namespace MailSearch

open Calendar Json

/-- The record of an attachment. -/
def Attachment.toJson (a : Attachment) : Json :=
  object [
    ("id", text a.id),
    ("message_id", text a.messageId),
    ("filename", text a.filename),
    ("content_type", ofText? a.contentType),
    ("size_bytes", integer a.sizeBytes.toNat)]

/-- The names of an attachment's members. -/
def Attachment.memberNames : List String :=
  ["id", "message_id", "filename", "content_type", "size_bytes"]

/-- What is wanted of the record of an attachment. -/
def Attachment.shape : Shape := .record (memberNames.map fun name => (name, .whole))

/-- The attachment that a record describes. -/
def Attachment.ofJson? (v : Json) : Option Attachment := do
  let r ← Record.ofJson? memberNames 5 v
  return {
    id := ← r.need? "id" asText?
    messageId := ← r.need? "message_id" asText?
    filename := ← r.need? "filename" asText?
    contentType := ← r.opt? "content_type" asText?
    sizeBytes := (← r.need? "size_bytes" asWord?).toUInt64 }

/-- The record of a message. -/
def Message.toJson (m : Message) : Json :=
  object [
    ("id", text m.id),
    ("user_id", text m.userId),
    ("account_id", text m.accountId),
    ("thread_id", ofText? m.threadId),
    ("subject", ofText? m.subject),
    ("from_address", ofText? m.fromAddress),
    ("from_name", ofText? m.fromName),
    ("to_addresses", ofTexts m.toAddresses),
    ("cc_addresses", ofTexts m.ccAddresses),
    ("bcc_addresses", ofTexts m.bccAddresses),
    ("body_text", ofText? m.bodyText),
    ("body_html", ofText? m.bodyHtml),
    ("sent_at", text m.sentAt.text),
    ("is_read", bool m.isRead),
    ("is_starred", bool m.isStarred),
    ("is_important", bool m.isImportant),
    ("folder", ofText? m.folder),
    ("labels", ofTexts m.labels),
    ("attachments", list (m.attachments.map Attachment.toJson))]

/-- The names of a message's members. -/
def Message.memberNames : List String :=
  ["id", "user_id", "account_id", "thread_id", "subject", "from_address", "from_name",
    "to_addresses", "cc_addresses", "bcc_addresses", "body_text", "body_html", "sent_at", "is_read",
    "is_starred", "is_important", "folder", "labels", "attachments"]

/-- What is wanted of the record of a message. -/
def Message.shape : Shape :=
  .record (memberNames.map fun name =>
    (name, if name = "attachments" then .each Attachment.shape else .whole))

/-- The point in time that a text value gives. -/
def timestampOfJson? (v : Json) : Option Timestamp := v.asText?.bind readTimestamp?

/-- The attachments that a list of records describes. -/
def attachmentsOfJson? (v : Json) : Option (List Attachment) :=
  v.asList?.bind (·.mapM Attachment.ofJson?)

/-- The message that a record describes. -/
def Message.ofJson? (v : Json) : Option Message := do
  let r ← Record.ofJson? memberNames 18 v
  return {
    id := ← r.need? "id" asText?
    userId := ← r.need? "user_id" asText?
    accountId := ← r.need? "account_id" asText?
    threadId := ← r.opt? "thread_id" asText?
    subject := ← r.opt? "subject" asText?
    fromAddress := ← r.opt? "from_address" asText?
    fromName := ← r.opt? "from_name" asText?
    toAddresses := ← r.need? "to_addresses" asTexts?
    ccAddresses := ← r.need? "cc_addresses" asTexts?
    bccAddresses := ← r.need? "bcc_addresses" asTexts?
    bodyText := ← r.opt? "body_text" asText?
    bodyHtml := ← r.opt? "body_html" asText?
    sentAt := ← r.need? "sent_at" timestampOfJson?
    isRead := ← r.need? "is_read" asBool?
    isStarred := ← r.need? "is_starred" asBool?
    isImportant := ← r.need? "is_important" asBool?
    folder := ← r.opt? "folder" asText?
    labels := ← r.need? "labels" asTexts?
    attachments := ← r.getD? "attachments" attachmentsOfJson? [] }

/-- The messages that a list of records describes. -/
def messagesOfJson? (v : Json) : Option (List Message) := v.asList?.bind (·.mapM Message.ofJson?)

/-- The record of an account. -/
def Account.toJson (a : Account) : Json :=
  object [
    ("account_id", text a.accountId),
    ("user_id", text a.userId),
    ("email_address", text a.emailAddress),
    ("display_name", ofText? a.displayName)]

/-- The names of an account's members. -/
def Account.memberNames : List String := ["account_id", "user_id", "email_address", "display_name"]

/-- The account that a record describes. -/
def Account.ofJson? (v : Json) : Option Account := do
  let r ← Record.ofJson? memberNames 4 v
  return {
    accountId := ← r.need? "account_id" asText?
    userId := ← r.need? "user_id" asText?
    emailAddress := ← r.need? "email_address" asText?
    displayName := ← r.opt? "display_name" asText? }

/-- The accounts that a list of records describes. -/
def accountsOfJson? (v : Json) : Option (List Account) := v.asList?.bind (·.mapM Account.ofJson?)

end MailSearch
