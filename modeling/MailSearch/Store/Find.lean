import MailSearch.Store.Basic
import MailSearch.Clause.Evaluation

/-!
# Finding messages

`Store.find` is one page of the messages that satisfy a clause, newest first, and `Store.count`
their number. Messages sent at one time are in the order of their ids. The clause is prepared before
any message is looked at; a page has two parameters of its own, the limit and the offset.
-/

namespace MailSearch

/-- The members of a page: as many as `limit` after the first `offset`. Counts of 2⁶³ and more are
beyond what a page can say: such a limit is none, and such an offset is zero. -/
def pageOf {α : Type} (limit offset : Nat) (items : List α) : List α :=
  let rest := if offset ≤ Text.maxInt64 then items.drop offset else items
  if limit ≤ Text.maxInt64 then rest.take limit else rest

namespace Store

/-- The rows that satisfy a clause. -/
def select (s : Store) (clause : Clause) : Except StoreError (List MessageRow) :=
  s.messages.filterM fun row => clause.select row (s.attachmentRows (row .id))

/-- The order of a page: newest first, then by id. -/
def newestFirst (a b : MessageRow) : Bool := keysLe [(b .sentAt, a .sentAt), (a .id, b .id)]

/-- One page of the messages that satisfy a clause. -/
def find (s : Store) (clause : Clause) (limit offset : Nat) :
    Except StoreError (List Message) := do
  clause.prepare 2
  let rows ← s.select clause
  let messages ← (pageOf limit offset (rows.mergeSort newestFirst)).mapM MessageRow.read
  messages.mapM s.withAttachments

/-- The number of messages that satisfy a clause. -/
def count (s : Store) (clause : Clause) : Except StoreError Nat := do
  clause.prepare 0
  return (← s.select clause).length

end Store

end MailSearch
