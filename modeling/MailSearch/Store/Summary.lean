import MailSearch.Store.Find

/-!
# Summaries of a store

`Store.topValues` are the values that occur most often in a column of one user's messages, and
`Store.stats` the size of the store.
-/

namespace MailSearch

/-- How often a value occurs. -/
structure ValueCount where
  value : String
  count : Nat
  deriving DecidableEq

/-- The number of messages of an account. -/
structure AccountCount where
  accountId : String
  count : Int
  deriving DecidableEq

/-- The size of a store. A report may be given any numbers, so they are integers here; those of
a store are never negative. -/
structure Stats where
  accounts : Int
  messages : Int
  attachments : Int
  byAccount : List AccountCount
  deriving DecidableEq

/-- The distinct values of a list with their counts, in the order of their first occurrence. -/
def tally (values : List String) : List ValueCount :=
  values.eraseDups.map fun value => ⟨value, values.count value⟩

/-- Whether a value comes first: the more frequent, and of equals the smaller text. -/
def moreFrequent (a b : ValueCount) : Bool :=
  b.count < a.count || (a.count = b.count && decide (a.value ≤ b.value))

/-- The distinct values of a list, most frequent first. -/
def ranked (values : List String) : List ValueCount := (tally values).mergeSort moreFrequent

/-- The text of a cell. -/
def Cell.textValue? : Cell → Option String
  | text s => some s
  | _ => none

namespace Store

/-- The texts of a column in one user's messages, empty ones left out. -/
def columnValues (s : Store) (userId : String) (column : MessageColumn) : List String :=
  ((s.messages.filter fun r => r .userId = .text userId).filterMap fun r =>
    (r column).textValue?).filter (· ≠ "")

/-- The most frequent values of a column in one user's messages. -/
def topValues (s : Store) (userId : String) (column : MessageColumn) (limit : Nat) :
    List ValueCount :=
  pageOf limit 0 (ranked (s.columnValues userId column))

/-- The size of the store. -/
def stats (s : Store) : Stats where
  accounts := s.accounts.length
  messages := s.messages.length
  attachments := s.attachments.length
  byAccount :=
    (ranked (s.messages.filterMap fun r => (r .accountId).textValue?)).map fun v =>
      ⟨v.value, v.count⟩

end Store

end MailSearch
