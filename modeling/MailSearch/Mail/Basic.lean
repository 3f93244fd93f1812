import MailSearch.Calendar.Timestamp

/-!
# Mail

A user owns accounts, an account holds messages, and a message has attachments. Sizes are counted
in bytes, in 64 bits.
-/

namespace MailSearch

open Calendar

/-- A mail account of a user. -/
structure Account where
  accountId : String
  userId : String
  emailAddress : String
  displayName : Option String
  deriving DecidableEq

/-- A file attached to a message. -/
structure Attachment where
  id : String
  messageId : String
  filename : String
  contentType : Option String
  sizeBytes : UInt64
  deriving DecidableEq

/-- A message. -/
structure Message where
  id : String
  userId : String
  accountId : String
  threadId : Option String
  subject : Option String
  fromAddress : Option String
  fromName : Option String
  toAddresses : List String
  ccAddresses : List String
  bccAddresses : List String
  bodyText : Option String
  bodyHtml : Option String
  sentAt : Timestamp
  isRead : Bool
  isStarred : Bool
  isImportant : Bool
  folder : Option String
  labels : List String
  attachments : List Attachment
  deriving DecidableEq

/-- Whether the message has an attachment. -/
def Message.hasAttachments (m : Message) : Bool := !m.attachments.isEmpty

end MailSearch
