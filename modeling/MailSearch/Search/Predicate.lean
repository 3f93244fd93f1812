import MailSearch.Mail.Basic
import MailSearch.Query.Parsed
import MailSearch.Search.Options

/-!
# Predicates on messages

A search is a conjunction of predicates. `PredicateSet.compile` makes one from a parsed query and
the search options; its first predicate is always that the message belongs to the user who asks.

`Predicate.holds` says what a predicate means for a message, and `PredicateSet.holds` what a set
means. Texts are compared without regard to case.
-/

namespace MailSearch

open Text Calendar

/-- The address fields of a message. -/
inductive AddressField where
  | sender
  | recipient
  | cc
  | bcc
  deriving DecidableEq, Repr

/-- The marks a message can have. -/
inductive MessageFlag where
  | read
  | starred
  | important
  deriving DecidableEq, Repr

/-- On which side of a bound a size lies. -/
inductive SizeSide where
  | larger
  | smaller
  deriving DecidableEq, Repr

/-- One condition on a message. -/
inductive Predicate where
  /-- The message belongs to the user. -/
  | ownedBy (userId : String)
  /-- The message is in one of the accounts. -/
  | inAccounts (accountIds : List String)
  /-- An address of the field contains a needle, or, negated, none does. -/
  | addressContains (field : AddressField) (needles : List String) (negated : Bool)
  /-- The subject contains a needle, or, negated, contains none. -/
  | subjectContains (needles : List String) (negated : Bool)
  | flagIs (flag : MessageFlag) (expected : Bool)
  /-- The message has an attachment, or has none. -/
  | attachmentExists (expected : Bool)
  /-- The name of an attachment contains a needle. -/
  | attachmentNamed (needles : List String)
  /-- An attachment is larger, or smaller, than a number of bytes. -/
  | attachmentSized (side : SizeSide) (bytes : UInt64)
  /-- The message was sent between two points in time, both included. -/
  | sentWithin (after before : Option Timestamp)
  /-- The message is in one of the folders. -/
  | inFolders (folders : List String)
  /-- The message has one of the labels. -/
  | labelled (labels : List String)
  /-- Each term stands in the subject, in a body or in the sender's address. -/
  | mentions (terms : List String)
  deriving DecidableEq

/-! ## Meaning -/

/-- The addresses of a field; a message without a sender has an empty one. -/
def Message.addresses (m : Message) : AddressField → List String
  | .sender => [m.fromAddress.getD ""]
  | .recipient => m.toAddresses
  | .cc => m.ccAddresses
  | .bcc => m.bccAddresses

/-- The state of a mark. -/
def Message.flag (m : Message) : MessageFlag → Bool
  | .read => m.isRead
  | .starred => m.isStarred
  | .important => m.isImportant

/-- The texts that a free-text term is looked for in. -/
def Message.searchedTexts (m : Message) : List String :=
  [m.subject, m.bodyText, m.bodyHtml, m.fromAddress].filterMap fun text => text

/-- Whether the hay contains one of the needles. -/
def containsAny (needles : List String) (hay : String) : Bool :=
  needles.any (containsFolded hay)

/-- Whether the value is one of the candidates. -/
def isAny (candidates : List String) (value : String) : Bool :=
  candidates.any fun candidate => fold candidate = fold value

/-- Whether a size lies on the side of the bound. -/
def SizeSide.holds : SizeSide → (size bound : UInt64) → Bool
  | .larger, size, bound => bound < size
  | .smaller, size, bound => size < bound

namespace Predicate

/-- Whether a message satisfies the condition. -/
def holds (m : Message) : Predicate → Bool
  | ownedBy userId => m.userId = userId
  | inAccounts accountIds => accountIds.contains m.accountId
  | addressContains field needles negated =>
    (m.addresses field).any (containsAny needles) != negated
  | subjectContains needles negated => containsAny needles (m.subject.getD "") != negated
  | flagIs flag expected => m.flag flag = expected
  | attachmentExists expected => m.hasAttachments = expected
  | attachmentNamed needles => m.attachments.any (containsAny needles ·.filename)
  | attachmentSized side bytes => m.attachments.any (side.holds ·.sizeBytes bytes)
  | sentWithin after before =>
    after.all (fun t => decide (t ≤ m.sentAt)) && before.all (fun t => decide (m.sentAt ≤ t))
  | inFolders folders => m.folder.any (isAny folders)
  | labelled labels => m.labels.any (isAny labels)
  | mentions terms => terms.all fun term => m.searchedTexts.any (containsFolded · term)

/-! ## Compilation -/

/-- Predicates that need a list of values, left out when there is none. -/
def given {α : Type} (values : List α) (make : List α → Predicate) : List Predicate :=
  if values.isEmpty then [] else [make values]

/-- The predicate for a pair of bounds, left out when there is neither. -/
def ofBounds (after before : Option Timestamp) : List Predicate :=
  if after.isSome || before.isSome then [sentWithin after before] else []

/-- Whether a `has:` value asks for attachments. -/
def namesAttachment (value : String) : Bool :=
  ["attachment", "attachments"].contains (asciiLower value)

/-- The mark that an `is:` value speaks of, and the state it asks for. -/
def flagOf? (value : String) : Option (MessageFlag × Bool) :=
  let word := asciiLower value
  if word = "read" then some (.read, true)
  else if word = "unread" then some (.read, false)
  else if word = "starred" ∨ word = "star" then some (.starred, true)
  else if word = "important" then some (.important, true)
  else none

/-- The predicate for an `is:` value. -/
def ofStatus? (negated : Bool) (value : String) : Option Predicate :=
  (flagOf? value).map fun (flag, expected) => flagIs flag (expected != negated)

/-- The predicates of a parsed query. -/
def ofQuery (q : ParsedQuery) : List Predicate :=
  given q.wanted.sender (addressContains .sender · false) ++
  given q.unwanted.sender (addressContains .sender · true) ++
  given q.wanted.recipient (addressContains .recipient · false) ++
  given q.unwanted.recipient (addressContains .recipient · true) ++
  given q.cc (addressContains .cc · false) ++
  given q.bcc (addressContains .bcc · false) ++
  given q.wanted.subject (subjectContains · false) ++
  given q.unwanted.subject (subjectContains · true) ++
  (if q.wanted.has.any namesAttachment then [attachmentExists true] else []) ++
  (if q.unwanted.has.any namesAttachment then [attachmentExists false] else []) ++
  q.wanted.status.filterMap (ofStatus? false) ++
  q.unwanted.status.filterMap (ofStatus? true) ++
  given q.folders inFolders ++
  given q.labels labelled ++
  given q.filenames attachmentNamed ++
  (q.larger.map (attachmentSized .larger)).toList ++
  (q.smaller.map (attachmentSized .smaller)).toList ++
  ofBounds q.after q.before ++
  given q.texts mentions

/-- The predicate for the accounts of the options. -/
def ofAccounts (o : SearchOptions) : List Predicate := given (o.accountIds.getD []) inAccounts

/-- The predicates of the options, the accounts aside. -/
def ofOptions (o : SearchOptions) : List Predicate :=
  given (o.fromEmail.bind SearchOptions.nonBlank?).toList (addressContains .sender · false) ++
  given (o.subject.bind SearchOptions.nonBlank?).toList (subjectContains · false) ++
  ofBounds (o.dateFrom.map Timestamp.startOfDay) (o.dateTo.map Timestamp.endOfDay) ++
  (o.hasAttachments.map attachmentExists).toList ++
  (o.isRead.map (flagIs .read)).toList ++
  (o.isStarred.map (flagIs .starred)).toList ++
  given (o.labels.getD []) labelled

end Predicate

/-- A conjunction of predicates for one user. -/
structure PredicateSet where
  userId : String
  /-- The predicates beside the owner's. -/
  conditions : List Predicate
  deriving DecidableEq

namespace PredicateSet

/-- All predicates, the owner's first. -/
def toList (s : PredicateSet) : List Predicate := .ownedBy s.userId :: s.conditions

/-- The set that asks for the owner only. -/
def forUser (userId : String) : PredicateSet := ⟨userId, []⟩

/-- The predicates of a search. -/
def compile (userId : String) (query : Option ParsedQuery) (o : SearchOptions) : PredicateSet :=
  ⟨userId, Predicate.ofAccounts o ++ (query.map Predicate.ofQuery).getD [] ++
    Predicate.ofOptions o⟩

/-- Whether a message satisfies every predicate. -/
def holds (s : PredicateSet) (m : Message) : Bool := s.toList.all (Predicate.holds m)

theorem holds_iff (s : PredicateSet) (m : Message) :
    s.holds m = true ↔ m.userId = s.userId ∧ ∀ p ∈ s.conditions, p.holds m = true := by
  simp [holds, toList, Predicate.holds]

end PredicateSet

end MailSearch
