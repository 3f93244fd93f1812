import MailSearch.Config.Basic
import MailSearch.Search.Source

/-!
# Suggestions

Other queries to try when a search finds nothing: first the user's frequent senders whose address
contains the query, then subjects, and for a plain text the text as a sender, as a subject and with
an attachment. No suggestion is made twice.
-/

namespace MailSearch

open Text

/-- A sender as a query. -/
def suggestSender (sender : String) : String := "from:" ++ sender

/-- A subject as a query. -/
def suggestSubject (subject : String) : String := "subject:\"" ++ subject ++ "\""

/-- Other ways to search for a plain text. A text with a colon has none. -/
def rewrites (query : String) : List String :=
  if query.toList.contains ':' then []
  else ["from:" ++ query, "subject:" ++ query, query ++ " has:attachment"]

/-- The values that contain the query, case aside. -/
def matchingValues (query : String) (pool : List ValueCount) : List String :=
  (pool.map (·.value)).filter (containsFolded · query)

/-- Every candidate for a query, in order and without repetition. -/
def candidates (query : String) (senders subjects : List ValueCount) : List String :=
  ((matchingValues query senders).map suggestSender ++
    (matchingValues query subjects).map suggestSubject ++ rewrites query).eraseDups

/-- Queries to try instead of one that found nothing. A source that fails leaves none. -/
def suggest (source : MessageSource) (userId query : String) (config : SuggestionConfig) :
    List String :=
  let query := trimString query
  if query = "" ∨ config.maxSuggestions = 0 then []
  else
    let pool := config.poolSize
    match source.topSenders userId pool, source.topSubjects userId pool with
    | .ok senders, .ok subjects => (candidates query senders subjects).take config.maxSuggestions
    | _, _ => []

end MailSearch
