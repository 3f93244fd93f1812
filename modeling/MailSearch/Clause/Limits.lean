import MailSearch.Clause.Basic

/-!
# Limits of statements

The engine refuses a statement whose expressions are nested too deeply or that has too many
parameters, before it looks at a row: `Clause.prepare`. The height of an expression is the longest
way down from it. What a nested condition asks of its rows counts below the whole statement.

A pattern that is too long is refused only when a text is matched with it (`maxPatternBytes`).
-/

namespace MailSearch

/-- The greatest depth of a statement's expressions. -/
def maxDepth : Nat := 1000

/-- The most parameters of a statement. -/
def maxParams : Nat := 32766

/-- The length of the longest pattern, in bytes. -/
def maxPatternBytes : Nat := 50000

/-- The height of expressions that are joined one after the other, each with all before it. -/
def joinedHeight : List Nat → Nat
  | [] => 0
  | first :: rest => rest.foldl (fun height next => max height next + 1) first

/-- A name and its table are two levels. -/
def Operand.height : Operand → Nat
  | orEmpty _ => 3
  | _ => 2

def Test.height : Test → Nat
  | always => 2
  | compare operand _ _ | oneOf operand _ => operand.height + 1
  | foldedLike operand _ | foldedOneOf operand _ => operand.height + 2

def Choice.height : Choice → Nat
  | one test => test.height
  | any tests => joinedHeight (tests.map Test.height)

def Body.height : Body → Nat
  | one choice => choice.height
  | all choices => joinedHeight (choices.map Choice.height)

/-- The height of what a nested condition asks of its rows: that they belong to the message, and
the body. -/
def Scope.innerHeight : Scope → Nat
  | message _ => 0
  | someAttachment none => 3
  | someAttachment (some body) => joinedHeight [3, body.height]
  | someItem _ body => max 3 body.height

def Scope.height : Scope → Nat
  | message body => body.height
  | someItem _ body => body.height + 1
  | scope => scope.innerHeight + 1

def Condition.height (c : Condition) : Nat := c.scope.height + if c.negated then 1 else 0

namespace Clause

/-- The depth of a clause: its height, and below that the highest of its nested conditions. -/
def depth (clause : Clause) : Nat :=
  joinedHeight (clause.map Condition.height) +
    (clause.map (·.scope.innerHeight)).foldl max 0

/-- Prepares a statement with a clause, and so many parameters beside those of the clause. -/
def prepare (clause : Clause) (others : Nat) : Except StoreError Unit :=
  if maxDepth < clause.depth then .error (.tooDeep maxDepth)
  else if maxParams < clause.params.length + others then .error .tooManyParams
  else .ok ()

end Clause

end MailSearch
