import MailSearch.Json.Basic
import MailSearch.Search.Options

/-!
# Configuration

The settings of the program, with their defaults.
-/

namespace MailSearch

open Json

/-- Where the messages are kept. -/
structure StorageConfig where
  databasePath : Option String := none
  deriving DecidableEq

/-- How searches are paged and cached. -/
structure SearchConfig where
  /-- The page size of a search that asks for none. -/
  defaultLimit : Nat := defaultPageSize
  maxLimit : Nat := maxPageSize
  /-- How long a page stays in the cache; zero keeps pages out of it. -/
  cacheTtlSecs : Nat := 30
  /-- What cache keys start with. -/
  cacheNamespace : String := "email_search"
  deriving DecidableEq

/-- How alternatives to a search without result are found. -/
structure SuggestionConfig where
  /-- How many frequent senders and subjects are looked at. -/
  poolSize : Nat := 10
  maxSuggestions : Nat := 5
  deriving DecidableEq

/-- What is logged. -/
structure LoggingConfig where
  level : String := "warn"
  deriving DecidableEq

/-- The settings of the program. -/
structure Config where
  storage : StorageConfig := {}
  search : SearchConfig := {}
  suggestions : SuggestionConfig := {}
  logging : LoggingConfig := {}
  deriving DecidableEq

/-- The settings as an object. -/
def Config.toJson (c : Config) : Json :=
  object [
    ("storage", object [("database_path", ofText? c.storage.databasePath)]),
    ("search", object [
      ("default_limit", integer c.search.defaultLimit),
      ("max_limit", integer c.search.maxLimit),
      ("cache_ttl_secs", integer c.search.cacheTtlSecs),
      ("cache_namespace", text c.search.cacheNamespace)]),
    ("suggestions", object [
      ("pool_size", integer c.suggestions.poolSize),
      ("max_suggestions", integer c.suggestions.maxSuggestions)]),
    ("logging", object [("level", text c.logging.level)])]

end MailSearch
