import MailSearch.Store.Row

/-!
# Clauses

The condition of an SQL statement over the messages, `m`. A clause is a conjunction of conditions.
A condition is about the message itself, about some attachment `a` of it, or about some item of one
of its lists; it is made of tests, of which any or all must hold. Values that a caller gives are
parameters and never part of the text.

`Clause.write` writes a clause down: it makes the SQL text, with a `?` for each parameter, and
pushes the parameters on a list of their own as it goes. `Clause.text` and `Clause.params` are the
two.
-/

namespace MailSearch

/-- A value that a clause is given. -/
inductive Param where
  | text (value : String)
  | integer (value : Int)
  deriving DecidableEq, Repr

/-- A parameter as a stored value. -/
def Param.cell : Param → Cell
  | text s => .text s
  | integer n => .integer n

/-- The columns that hold lists. -/
inductive ListColumn where
  | toAddresses
  | ccAddresses
  | bccAddresses
  | labels
  deriving DecidableEq, Repr

namespace ListColumn

/-- The column. -/
def column : ListColumn → MessageColumn
  | toAddresses => .toAddresses
  | ccAddresses => .ccAddresses
  | bccAddresses => .bccAddresses
  | labels => .labels

/-- The name that an item of the list goes by. -/
def itemName : ListColumn → String
  | labels => "l"
  | _ => "j"

end ListColumn

/-- What a test looks at. -/
inductive Operand where
  | column (c : MessageColumn)
  /-- The column, or an empty text if it holds nothing. -/
  | orEmpty (c : MessageColumn)
  /-- A column of the attachment at hand. -/
  | attachment (c : AttachmentColumn)
  /-- The item at hand of a list. -/
  | item (list : ListColumn)
  deriving DecidableEq, Repr

/-- The comparisons. -/
inductive Comparison where
  | equal
  | atLeast
  | atMost
  | above
  | below
  deriving DecidableEq, Repr

/-- A single test. Folded tests compare texts without regard to case. -/
inductive Test where
  | always
  | compare (operand : Operand) (comparison : Comparison) (value : Param)
  | oneOf (operand : Operand) (values : List Param)
  | foldedLike (operand : Operand) (pattern : String)
  | foldedOneOf (operand : Operand) (values : List String)
  deriving DecidableEq, Repr

/-- One test, or a choice of tests. -/
inductive Choice where
  | one (test : Test)
  | any (tests : List Test)
  deriving DecidableEq, Repr

/-- One choice, or several that must all hold. -/
inductive Body where
  | one (choice : Choice)
  | all (choices : List Choice)
  deriving DecidableEq, Repr

/-- What a condition ranges over. -/
inductive Scope where
  /-- The message itself. -/
  | message (body : Body)
  /-- Some attachment of the message, perhaps one that satisfies a body. -/
  | someAttachment (body : Option Body)
  /-- Some item of a list. -/
  | someItem (list : ListColumn) (body : Body)
  deriving DecidableEq, Repr

/-- A condition, which can be negated. -/
structure Condition where
  negated : Bool
  scope : Scope
  deriving DecidableEq, Repr

/-- A conjunction of conditions. -/
abbrev Clause := List Condition

/-! ## Text and parameters -/

/-- The text of an operand. -/
def Operand.text : Operand → String
  | column c => "m." ++ c.name
  | orEmpty c => "COALESCE(m." ++ c.name ++ ", '')"
  | attachment c => "a." ++ c.name
  | item list => list.itemName ++ ".value"

/-- The text of an operand whose case is folded. -/
def Operand.foldedText (operand : Operand) : String := "mailsift_fold(" ++ operand.text ++ ")"

/-- The sign of a comparison. -/
def Comparison.text : Comparison → String
  | equal => "="
  | atLeast => ">="
  | atMost => "<="
  | above => ">"
  | below => "<"

/-- Writing SQL: what it makes is a text, and it pushes parameters meanwhile. -/
abbrev Writing := StateM (List Param)

/-- Pushes parameters. -/
def pushParams (values : List Param) : Writing Unit := modify (· ++ values)

/-- Some marks in a row. -/
def placeholders (count : Nat) : String := ", ".intercalate (List.replicate count "?")

/-- Writes a test. -/
def Test.write : Test → Writing String
  | always => return "1 = 1"
  | compare operand comparison value => do
    pushParams [value]
    return operand.text ++ " " ++ comparison.text ++ " ?"
  | oneOf operand values => do
    pushParams values
    return operand.text ++ " IN (" ++ placeholders values.length ++ ")"
  | foldedLike operand pattern => do
    pushParams [.text pattern]
    return operand.foldedText ++ " LIKE ? ESCAPE '\\'"
  | foldedOneOf operand values => do
    pushParams (values.map Param.text)
    return operand.foldedText ++ " IN (" ++ placeholders values.length ++ ")"

/-- Writes a choice. -/
def Choice.write : Choice → Writing String
  | one test => test.write
  | any tests => do
    let alternatives ← tests.mapM Test.write
    return "(" ++ " OR ".intercalate alternatives ++ ")"

/-- Writes a body. -/
def Body.write : Body → Writing String
  | one choice => choice.write
  | all choices => do
    let parts ← choices.mapM Choice.write
    return "(" ++ " AND ".intercalate parts ++ ")"

/-- Writes a scope. -/
def Scope.write : Scope → Writing String
  | message body => body.write
  | someAttachment none =>
    return "EXISTS (SELECT 1 FROM attachments a WHERE a.message_id = m.id)"
  | someAttachment (some body) => do
    let condition ← body.write
    return "EXISTS (SELECT 1 FROM attachments a WHERE a.message_id = m.id AND " ++ condition ++ ")"
  | someItem list body => do
    let condition ← body.write
    return "EXISTS (SELECT 1 FROM json_each(COALESCE(m." ++ list.column.name ++ ", '[]')) " ++
      list.itemName ++ " WHERE " ++ condition ++ ")"

/-- Writes a condition. -/
def Condition.write (c : Condition) : Writing String := do
  let matched ← c.scope.write
  return if c.negated then "NOT " ++ matched else matched

namespace Clause

/-- Writes a clause. -/
def write (clause : Clause) : Writing String := do
  let fragments ← clause.mapM Condition.write
  return if fragments.isEmpty then "1 = 1" else " AND ".intercalate fragments

/-- The SQL text of a clause. -/
def text (clause : Clause) : String := (clause.write.run []).1

/-- The parameters of a clause, in the order in which they are pushed. -/
def params (clause : Clause) : List Param := (clause.write.run []).2

end Clause

end MailSearch
