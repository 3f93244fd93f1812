import MailSearch.Clause.Basic
import MailSearch.Clause.Pattern
import MailSearch.Search.Predicate

/-!
# Clauses for predicates

`PredicateSet.clause` is the clause that selects, among stored messages, those that satisfy every
predicate of a set. Each predicate becomes one condition.
-/

namespace MailSearch

open Text

/-- The pattern of the texts that contain a needle, case aside. -/
def foldedPattern (needle : String) : String :=
  String.ofList (likePattern (lowercase needle.toList))

/-- The choice that a text contains one of the needles. -/
def Choice.containsAny (operand : Operand) (needles : List String) : Choice :=
  .any (needles.map fun needle => .foldedLike operand (foldedPattern needle))

/-- The test that a text is one of the values, case aside. -/
def Test.isAny (operand : Operand) (values : List String) : Test :=
  .foldedOneOf operand (values.map fold)

/-- The column of a mark. -/
def MessageFlag.column : MessageFlag → MessageColumn
  | read => .isRead
  | starred => .isStarred
  | important => .isImportant

/-- A size as a parameter. The largest number that the column can hold stands for larger ones. -/
def sizeParam (bytes : UInt64) : Param := .integer (min bytes.toNat maxInt64 : Nat)

/-- The comparison for a side. -/
def SizeSide.comparison : SizeSide → Comparison
  | larger => .above
  | smaller => .below

/-- The columns that free text is looked for in. -/
def searchedColumns : List MessageColumn := [.subject, .bodyText, .bodyHtml, .fromAddress]

/-- The choice that one of the searched columns contains a term. -/
def Choice.mentions (term : String) : Choice :=
  .any (searchedColumns.map fun c => .foldedLike (.orEmpty c) (foldedPattern term))

/-- The test that a stored time lies on the given side of a bound. -/
def Choice.sent (comparison : Comparison) (bound : Calendar.Timestamp) : Choice :=
  .one (.compare (.column .sentAt) comparison (.text bound.stored))

/-- The body for a pair of bounds. -/
def Body.sentWithin (after before : Option Calendar.Timestamp) : Body :=
  let bounds :=
    (after.map (Choice.sent .atLeast)).toList ++ (before.map (Choice.sent .atMost)).toList
  if bounds.isEmpty then .one (.one .always) else .all bounds

/-- The scope for needles in an address field. -/
def Scope.addressContains (needles : List String) : AddressField → Scope
  | .sender => .message (.one (.containsAny (.orEmpty .fromAddress) needles))
  | .recipient => .someItem .toAddresses (.one (.containsAny (.item .toAddresses) needles))
  | .cc => .someItem .ccAddresses (.one (.containsAny (.item .ccAddresses) needles))
  | .bcc => .someItem .bccAddresses (.one (.containsAny (.item .bccAddresses) needles))

/-- A condition that a test holds of the message. -/
def Condition.ofTest (test : Test) : Condition := ⟨false, .message (.one (.one test))⟩

/-- The condition for a predicate. -/
def Predicate.condition : Predicate → Condition
  | ownedBy userId => .ofTest (.compare (.column .userId) .equal (.text userId))
  | inAccounts accountIds => .ofTest (.oneOf (.column .accountId) (accountIds.map Param.text))
  | addressContains field needles negated => ⟨negated, .addressContains needles field⟩
  | subjectContains needles negated =>
    ⟨negated, .message (.one (.containsAny (.orEmpty .subject) needles))⟩
  | flagIs flag expected =>
    .ofTest (.compare (.column flag.column) .equal (.integer (if expected then 1 else 0)))
  | attachmentExists expected => ⟨!expected, .someAttachment none⟩
  | attachmentNamed needles =>
    ⟨false, .someAttachment (some (.one (.containsAny (.attachment .filename) needles)))⟩
  | attachmentSized side bytes =>
    ⟨false, .someAttachment (some (.one (.one
      (.compare (.attachment .sizeBytes) side.comparison (sizeParam bytes)))))⟩
  | sentWithin after before => ⟨false, .message (.sentWithin after before)⟩
  | inFolders folders => .ofTest (.isAny (.orEmpty .folder) folders)
  | labelled labels =>
    ⟨false, .someItem .labels (.one (.one (.isAny (.item .labels) labels)))⟩
  | mentions terms => ⟨false, .message (.all (terms.map Choice.mentions))⟩

/-- The clause for a set of predicates. -/
def PredicateSet.clause (s : PredicateSet) : Clause := s.toList.map Predicate.condition

end MailSearch
