import MailSearch.Clause.Limits
import MailSearch.Clause.Pattern
import MailSearch.Text.Lowercase

/-!
# Evaluating clauses

`Clause.select` decides whether a stored message satisfies a clause, given the message's row and
its attachments' rows. A test on a missing value is neither true nor false (`Truth`), and a
condition selects a message only if it is true.

Conditions on the owner and the time are decided first, by the index that the rows are found with,
and those that range over attachments or list items last. The first condition that is not true ends
the evaluation, and so does the first test of a choice that is true. So a list that is not JSON, or
a pattern that is too long, is an error only where it is come to.
-/

namespace MailSearch

open Text

/-- True, false, or undecided. -/
abbrev Truth := Option Bool

namespace Truth

/-- A negated truth value. -/
def not (t : Truth) : Truth := Option.map Bool.not t

/-- Whether a test is true of one of a list; if not, an undecided one leaves it open. The first
that it is true of ends the evaluation. -/
def anyOf {α : Type} (test : α → Except StoreError Truth) : List α → Except StoreError Truth
  | [] => .ok (some false)
  | x :: rest =>
    match test x with
    | .error e => .error e
    | .ok (some true) => .ok (some true)
    | .ok (some false) => anyOf test rest
    | .ok none => (anyOf test rest).map fun t => if t = some true then some true else none

/-- Whether a test is true of all of a list; if it is false of none, an undecided one leaves it
open. The first that it is false of ends the evaluation. -/
def allOf {α : Type} (test : α → Except StoreError Truth) : List α → Except StoreError Truth
  | [] => .ok (some true)
  | x :: rest =>
    match test x with
    | .error e => .error e
    | .ok (some false) => .ok (some false)
    | .ok (some true) => allOf test rest
    | .ok none => (allOf test rest).map fun t => if t = some false then some false else none

end Truth

/-- What the operands of a test stand for. -/
structure Bindings where
  message : MessageRow
  attachment : AttachmentColumn → Cell := fun _ => .null
  item : Cell := .null

/-- The value of an operand. -/
def Operand.cell (b : Bindings) : Operand → Cell
  | column c => b.message c
  | orEmpty c => match b.message c with
    | .null => .text ""
    | v => v
  | attachment c => b.attachment c
  | item _ => b.item

/-- Whether a comparison holds of an order. -/
def Comparison.holds : Comparison → Ordering → Bool
  | equal, o => o = .eq
  | atLeast, o => o ≠ .lt
  | atMost, o => o ≠ .gt
  | above, o => o = .gt
  | below, o => o = .lt

/-- The folded text of a value. -/
def Cell.folded : Cell → Except StoreError (Option String)
  | null => .ok none
  | text s => .ok (some (fold s))
  | v => .error (.notFoldable v.type)

/-- The truth of a test. -/
def Test.truth (b : Bindings) : Test → Except StoreError Truth
  | always => .ok (some true)
  | compare operand comparison value =>
    match operand.cell b with
    | .null => .ok none
    | v => .ok (some (comparison.holds (v.compare value.cell)))
  | oneOf operand values =>
    match operand.cell b with
    | .null => .ok (if values.isEmpty then some false else none)
    | v => .ok (some (values.any fun value => v.compare value.cell = .eq))
  | foldedLike operand pattern =>
    match (operand.cell b).folded with
    | .error e => .error e
    | .ok s =>
      if maxPatternBytes < pattern.utf8ByteSize then .error .patternTooLong
      else .ok (s.map fun s => like pattern.toList s.toList)
  | foldedOneOf operand values =>
    ((operand.cell b).folded).map fun
      | none => if values.isEmpty then some false else none
      | some s => some (values.contains s)

/-- The truth of a choice. -/
def Choice.truth (b : Bindings) : Choice → Except StoreError Truth
  | one test => test.truth b
  | any tests => Truth.anyOf (Test.truth b) tests

/-- The truth of a body. -/
def Body.truth (b : Bindings) : Body → Except StoreError Truth
  | one choice => choice.truth b
  | all choices => Truth.allOf (Choice.truth b) choices

/-- Whether a test is true of some candidate. The first that it is true of ends the search. -/
def anyTrue {α : Type} (test : α → Except StoreError Truth) : List α → Except StoreError Bool
  | [] => .ok false
  | x :: rest =>
    match test x with
    | .error e => .error e
    | .ok (some true) => .ok true
    | .ok _ => anyTrue test rest

/-- The truth of a scope. -/
def Scope.truth (message : MessageRow) (attachments : List AttachmentRow) :
    Scope → Except StoreError Truth
  | .message body => body.truth { message }
  | someAttachment none => .ok (some (!attachments.isEmpty))
  | someAttachment (some body) =>
    (anyTrue (fun a => body.truth { message, attachment := a }) attachments).map some
  | someItem list body =>
    match (message list.column).items? with
    | none => .error .malformedJson
    | some items => (anyTrue (fun item => body.truth { message, item }) items).map some

/-- The truth of a condition. -/
def Condition.truth (message : MessageRow) (attachments : List AttachmentRow) (c : Condition) :
    Except StoreError Truth :=
  (c.scope.truth message attachments).map fun t => if c.negated then t.not else t

/-- Whether a test looks at the owner or the time only. -/
def Test.isIndexed : Test → Bool
  | always => true
  | compare operand _ _ => operand = .column .userId || operand = .column .sentAt
  | _ => false

/-- Whether a choice looks at the owner or the time only. -/
def Choice.isIndexed : Choice → Bool
  | one test => test.isIndexed
  | any _ => false

/-- Whether a condition is decided by the index of the messages: it looks at the owner or the time
only. -/
def Condition.isIndexed (c : Condition) : Bool :=
  match c.scope with
  | .message (.one choice) => choice.isIndexed
  | .message (.all choices) => choices.all Choice.isIndexed
  | _ => false

/-- Whether a condition ranges over attachments or list items. -/
def Condition.isNested (c : Condition) : Bool :=
  match c.scope with
  | .message _ => false
  | _ => true

/-- Whether all conditions are true. The first that is not ends the evaluation. -/
def allTrue (message : MessageRow) (attachments : List AttachmentRow) :
    List Condition → Except StoreError Bool
  | [] => .ok true
  | c :: rest =>
    match c.truth message attachments with
    | .error e => .error e
    | .ok (some true) => allTrue message attachments rest
    | .ok _ => .ok false

/-- The conditions in the order in which they are decided. -/
def Clause.ordered (clause : Clause) : List Condition :=
  clause.filter (·.isIndexed) ++ clause.filter (fun c => !c.isIndexed && !c.isNested) ++
    clause.filter (·.isNested)

/-- Whether a stored message satisfies a clause. -/
def Clause.select (clause : Clause) (message : MessageRow) (attachments : List AttachmentRow) :
    Except StoreError Bool :=
  allTrue message attachments clause.ordered

end MailSearch
