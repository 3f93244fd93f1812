import MailSearch.Search.Predicate
import MailSearch.Query.Encoding

/-!
# Predicates in JSON

A predicate as an object whose field `kind` says what it asks for.
-/

namespace MailSearch

open Json

/-- The name of an address field. -/
def AddressField.name : AddressField → String
  | sender => "from"
  | recipient => "to"
  | cc => "cc"
  | bcc => "bcc"

/-- The name of a mark. -/
def MessageFlag.name : MessageFlag → String
  | read => "read"
  | starred => "starred"
  | important => "important"

/-- The name of a side. -/
def SizeSide.name : SizeSide → String
  | larger => "larger"
  | smaller => "smaller"

namespace Predicate

/-- The name of the kind of a predicate. -/
def kind : Predicate → String
  | ownedBy _ => "owner_scope"
  | inAccounts _ => "account_in"
  | addressContains .. => "address_contains_any"
  | subjectContains .. => "subject_contains_any"
  | flagIs .. => "flag_equals"
  | attachmentExists _ => "attachment_exists"
  | attachmentNamed _ => "attachment_name_contains_any"
  | attachmentSized .. => "attachment_size_compare"
  | sentWithin .. => "date_range"
  | inFolders _ => "folder_in"
  | labelled _ => "label_any"
  | mentions _ => "text_contains_any"

/-- What a predicate is given. -/
def fields : Predicate → List (String × Json)
  | ownedBy userId => [("user_id", text userId)]
  | inAccounts accountIds => [("account_ids", ofTexts accountIds)]
  | addressContains field needles negated =>
    [("field", text field.name), ("needles", ofTexts needles), ("negated", bool negated)]
  | subjectContains needles negated => [("needles", ofTexts needles), ("negated", bool negated)]
  | flagIs flag expected => [("flag", text flag.name), ("expected", bool expected)]
  | attachmentExists expected => [("expected", bool expected)]
  | attachmentNamed needles => [("needles", ofTexts needles)]
  | attachmentSized side bytes =>
    [("comparison", text side.name), ("bytes", integer bytes.toNat)]
  | sentWithin after before =>
    [("after", ofTimestamp? after), ("before", ofTimestamp? before)]
  | inFolders folders => [("folders", ofTexts folders)]
  | labelled labels => [("labels", ofTexts labels)]
  | mentions terms => [("terms", ofTexts terms)]

/-- A predicate as an object. -/
def toJson (p : Predicate) : Json := object (("kind", text p.kind) :: p.fields)

end Predicate

end MailSearch
