import MailSearch.Query.Encoding
import MailSearch.Search.Cache
import MailSearch.Search.Page
import MailSearch.Search.Suggest

/-!
# Searching

`SearchService.search` runs one search of a user. The first page of a search with a query is kept
in the cache, under a key that names everything the page depends on but the messages and the clock
(`cacheKey`). A cache that fails, and a cached text that cannot be read, count as not found; only a
source that fails makes a search fail.
-/

namespace MailSearch

open Json Calendar

/-- The outcome of a search. -/
structure SearchResult where
  page : Page
  searchTimeMs : Nat
  suggestions : List String
  query : Option ParsedQuery
  /-- Whether the page comes from the cache. -/
  cached : Bool

/-- Why a search could not be completed. -/
inductive SearchError where
  | store (cause : StoreError)
  deriving DecidableEq, Repr

/-- The reason in words. -/
def SearchError.message : SearchError → String
  | store cause => "search failed: " ++ cause.message

/-- A search result as an object, given the form of its messages. -/
def SearchResult.toJsonWith (message : Message → Json) (r : SearchResult) : Json :=
  object [
    ("messages", list (r.page.messages.map message)),
    ("totalCount", integer r.page.total),
    ("searchTimeMs", integer r.searchTimeMs),
    ("suggestions", ofTexts r.suggestions),
    ("parsedQuery", (r.query.map ParsedQuery.toJson).getD null),
    ("cached", bool r.cached)]

/-- A search result as an object. -/
def SearchResult.toJson (r : SearchResult) : Json := r.toJsonWith Message.toJson

/-- The cache key of a page: the namespace, and a list of what identifies the page. -/
def cacheKey (cacheNamespace userId : String) (offset limit : Nat) (fingerprint query : String) :
    String :=
  cacheNamespace ++ ":" ++ (list [text userId, integer offset, integer limit, text fingerprint,
    text query]).compact

/-- A source and a cache to search with. -/
structure SearchService (σ : Type) where
  source : MessageSource
  cache : CacheBackend σ
  search : SearchConfig
  suggestions : SuggestionConfig

/-- The time of a search: what the clock shows, and the milliseconds that the cache counts by. -/
structure Moment where
  clock : Timestamp
  millis : Nat

namespace SearchService

variable {σ : Type}

/-- How long a page is kept, in milliseconds. -/
def ttl (s : SearchService σ) : Nat := s.search.cacheTtlSecs * 1000

/-- The page size of a search. -/
def limit (s : SearchService σ) (o : SearchOptions) : Nat :=
  o.pageSize s.search.defaultLimit s.search.maxLimit

/-- The key of the page that a search asks for, if such pages are cached: first pages of searches
with a query. -/
def key? (s : SearchService σ) (userId : String) (o : SearchOptions) : Option String :=
  if o.offset = 0 then
    o.queryText?.map (cacheKey s.search.cacheNamespace userId o.offset (s.limit o) o.fingerprint)
  else
    none

/-- The readable page under a key. -/
def readCache (s : SearchService σ) (now : Nat) (key? : Option String) (state : σ) :
    Option Page × σ :=
  match key? with
  | none => (none, state)
  | some key =>
    match s.cache.get state now key with
    | (.ok (some raw), state) => (Page.decode? raw, state)
    | (_, state) => (none, state)

/-- Puts a page under a key, if pages are kept at all. -/
def writeCache (s : SearchService σ) (now : Nat) (key? : Option String) (page : Page) (state : σ) :
    σ :=
  match key? with
  | none => state
  | some key => if s.ttl = 0 then state else (s.cache.set state now key page.encode s.ttl).2

/-- The page that the source has for a search. -/
def fetch (s : SearchService σ) (userId : String) (query : Option ParsedQuery)
    (o : SearchOptions) : Except StoreError Page := do
  let predicates := PredicateSet.compile userId query o
  let messages ← s.source.fetchPage predicates (s.limit o) o.offset
  let total ← s.source.countMatching predicates
  return ⟨messages, total⟩

/-- Other queries to try for a search whose page is empty. -/
def suggestionsFor (s : SearchService σ) (userId : String) (o : SearchOptions) (page : Page) :
    List String :=
  match o.queryText? with
  | some query => if page.messages.isEmpty then suggest s.source userId query s.suggestions else []
  | none => []

/-- Runs one search of a user. -/
def run (s : SearchService σ) (now : Moment) (userId : String) (o : SearchOptions) (state : σ) :
    Except SearchError SearchResult × σ :=
  let query := o.queryText?.map (ParsedQuery.parse now.clock)
  let key? := s.key? userId o
  match s.readCache now.millis key? state with
  | (some page, state) => (.ok ⟨page, 0, [], query, true⟩, state)
  | (none, state) =>
    match s.fetch userId query o with
    | .error e => (.error (.store e), state)
    | .ok page =>
      (.ok ⟨page, 0, s.suggestionsFor userId o page, query, false⟩,
        s.writeCache now.millis key? page state)

end SearchService

end MailSearch
