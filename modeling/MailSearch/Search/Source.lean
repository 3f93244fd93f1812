import MailSearch.Clause.Lowering
import MailSearch.Store.Database

/-!
# Message sources

What a search asks of the place that holds the messages (`MessageSource`). A database is one
(`Database.source`): it answers by the clause for the predicates.
-/

namespace MailSearch

/-- A place that can be searched for messages. -/
structure MessageSource where
  /-- One page of the messages that satisfy the predicates, newest first. -/
  fetchPage : PredicateSet → (limit offset : Nat) → Except StoreError (List Message)
  /-- The number of messages that satisfy the predicates. -/
  countMatching : PredicateSet → Except StoreError Nat
  /-- A user's most frequent senders. -/
  topSenders : (userId : String) → (limit : Nat) → Except StoreError (List ValueCount)
  /-- A user's most frequent subjects. -/
  topSubjects : (userId : String) → (limit : Nat) → Except StoreError (List ValueCount)

/-- A database as a place to search. -/
def Database.source (db : Database) : MessageSource where
  fetchPage predicates limit offset := db.find predicates.clause limit offset
  countMatching predicates := db.count predicates.clause
  topSenders userId limit := db.topValues userId .fromAddress limit
  topSubjects userId limit := db.topValues userId .subject limit

end MailSearch
