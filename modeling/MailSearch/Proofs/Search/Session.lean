import MailSearch.Proofs.Search.CacheKey
import MailSearch.Proofs.Search.CachedPage
import MailSearch.Proofs.Store.Faithful

/-!
# Sessions

A `Session` is a new database and an empty cache in memory, the clocks, and a log of the searches
run so far. What happens in it (`Event`) are calls that store something, advances of the clocks,
and searches of any users, each with settings of its own: services with other settings may share
the database and the cache.

* `Origin log key page deadline`: the log holds the fresh search that a page in the cache comes
  from, and since then the page was only served.
* `Session.Sound`: the invariant. Every entry that can be read has its origin, and so had every
  page that was served (`SearchRecord.Explained`).
* `Session.Sound.step`, `Session.sound_after`: every event keeps it, so it always holds.
-/

namespace MailSearch

open Calendar

/-! ## Records and events -/

/-- The service with these settings that searches a database and caches in memory. -/
def Config.service (config : Config) (db : Database) : SearchService MemoryCache :=
  ⟨db.source, .memory, config.search, config.suggestions⟩

/-- The messages that a database gives have regular times. -/
theorem Database.isRegular_source (db : Database) : db.source.IsRegular :=
  fun h => Database.isRegular_of_find h

/-- A search that was run: when, in which database, and what came of it. -/
structure SearchRecord where
  moment : Moment
  database : Database
  config : Config
  userId : String
  options : SearchOptions
  outcome : Except SearchError SearchResult

namespace SearchRecord

/-- The service that ran the search. -/
def service (r : SearchRecord) : SearchService MemoryCache := r.config.service r.database

/-- The key of the page that was asked for, if such pages are cached. -/
def key? (r : SearchRecord) : Option String := r.service.key? r.userId r.options

/-- The search gave a result that was not served from the cache. -/
def IsFresh (r : SearchRecord) (result : SearchResult) : Prop :=
  r.outcome = .ok result ∧ result.cached = false

/-- The search gave a result that was served from the cache. -/
def IsServed (r : SearchRecord) (result : SearchResult) : Prop :=
  r.outcome = .ok result ∧ result.cached = true

/-- The page size of the search. -/
def limit (r : SearchRecord) : Nat := r.service.limit r.options

/-- Two searches of one user for one page: of one query, with the same filters. -/
structure SameSearch (a b : SearchRecord) : Prop where
  userId : a.userId = b.userId
  query : a.options.queryText? = b.options.queryText?
  filters : a.options.filters = b.options.filters
  limit : a.limit = b.limit
  offset : a.options.offset = b.options.offset

end SearchRecord

/-- A database and a cache in use. -/
structure Session where
  database : Database := .opened
  cache : MemoryCache := {}
  moment : Moment
  /-- The searches that were run, the first one first. -/
  log : List SearchRecord := []

/-- What happens in a session. -/
inductive Event where
  | store (call : StoreCall)
  /-- Some milliseconds go by. The clock on the wall may show anything after them. -/
  | advance (millis : Nat) (clock : Timestamp)
  | search (config : Config) (userId : String) (options : SearchOptions)

namespace Session

/-- The session after an event. -/
def step (s : Session) : Event → Session
  | .store call => { s with database := s.database.call call }
  | .advance millis clock => { s with moment := ⟨clock, s.moment.millis + millis⟩ }
  | .search config userId options =>
    let (outcome, cache) := (config.service s.database).run s.moment userId options s.cache
    let r := ⟨s.moment, s.database, config, userId, options, outcome⟩
    { s with cache, log := s.log ++ [r] }

/-- A search is recorded with its outcome. -/
theorem step_search {s : Session} {config : Config} {userId : String} {options : SearchOptions}
    {outcome : Except SearchError SearchResult} {cache : MemoryCache}
    (hrun : (config.service s.database).run s.moment userId options s.cache = (outcome, cache)) :
    s.step (.search config userId options) =
      { s with
        cache
        log := s.log ++ [⟨s.moment, s.database, config, userId, options, outcome⟩] } := by
  simp only [step, hrun]

/-- A session that starts at a moment, after some events. -/
def after (start : Moment) (events : List Event) : Session :=
  events.foldl step { moment := start }

end Session

/-! ## Keys -/

namespace SearchRecord

variable {a b : SearchRecord} {key : String}

/-- A page with a key is the first one of a search with a query. -/
theorem key?_eq_some (h : a.key? = some key) : a.options.offset = 0 ∧
    ∃ query, a.options.queryText? = some query ∧
      cacheKey a.config.search.cacheNamespace a.userId 0 a.limit a.options.fingerprint query =
        key := by
  unfold key? SearchService.key? at h
  split at h
  · rename_i hoffset
    rw [hoffset] at h
    exact ⟨hoffset, Option.map_eq_some_iff.mp h⟩
  · cases h

/-- Searches with one key are for one page. -/
theorem sameSearch_of_key? (ha : a.key? = some key) (hb : b.key? = some key) : a.SameSearch b := by
  obtain ⟨hoffset, query, hquery, hkey⟩ := key?_eq_some ha
  obtain ⟨hoffset', query', hquery', hkey'⟩ := key?_eq_some hb
  obtain ⟨-, huser, -, hlimit, hfingerprint, rfl⟩ := cacheKey_inj (hkey.trans hkey'.symm)
  exact ⟨huser, hquery.trans hquery'.symm, SearchOptions.fingerprint_inj hfingerprint, hlimit,
    hoffset.trans hoffset'.symm⟩

/-- Searches for one page have one key, if services with one namespace run them. -/
theorem SameSearch.key?_eq (h : a.SameSearch b)
    (hnamespace : a.config.search.cacheNamespace = b.config.search.cacheNamespace) :
    a.key? = b.key? := by
  have hfingerprint : a.options.fingerprint = b.options.fingerprint := by
    rw [SearchOptions.fingerprint, h.filters, ← SearchOptions.fingerprint]
  have hlimit : a.service.limit a.options = b.service.limit b.options := h.limit
  have hspace : a.service.search.cacheNamespace = b.service.search.cacheNamespace := hnamespace
  unfold key? SearchService.key?
  rw [h.offset, h.query, h.userId, hfingerprint, hlimit, hspace]

end SearchRecord

/-! ## Origins -/

/-- The page under a key, to be served before a deadline, is that of the latest fresh search for
it: every search for the key since then was served. -/
def Origin (log : List SearchRecord) (key : String) (page : Page) (deadline : Nat) : Prop :=
  ∃ earlier origin between result, log = earlier ++ origin :: between ∧
    origin.key? = some key ∧ origin.IsFresh result ∧ result.page = page ∧
    deadline = origin.moment.millis + origin.service.ttl ∧
    ∀ x ∈ between, x.key? = some key → ∃ served, x.IsServed served

section Origin

variable {log : List SearchRecord} {key : String} {page : Page} {deadline : Nat} {r : SearchRecord}

/-- A search for another key leaves the origin of a page, and so does one that is served. -/
theorem Origin.concat (h : Origin log key page deadline)
    (hr : r.key? = some key → ∃ served, r.IsServed served) :
    Origin (log ++ [r]) key page deadline := by
  obtain ⟨earlier, origin, between, result, rfl, hkey, hfresh, hpage, hdeadline, hbetween⟩ := h
  refine ⟨earlier, origin, between ++ [r], result, by simp, hkey, hfresh, hpage, hdeadline, ?_⟩
  intro x hx
  rcases List.mem_append.mp hx with hx | hx
  · exact hbetween x hx
  · rw [List.mem_singleton.mp hx]
    exact hr

end Origin

/-! ## The invariant -/

/-- What is known of a search from the searches before it. -/
structure SearchRecord.Explained (r : SearchRecord) (before : List SearchRecord) : Prop where
  database : r.database.Faithful
  times : ∀ x ∈ before, x.moment.millis ≤ r.moment.millis
  /-- A fresh page is what the service has for the search. -/
  fresh : ∀ result, r.IsFresh result →
    r.service.fetch r.userId (r.options.queryText?.map (ParsedQuery.parse r.moment.clock))
        r.options = .ok result.page ∧
      result.suggestions = r.service.suggestionsFor r.userId r.options result.page
  /-- A served page has an origin, and its deadline is still to come. -/
  served : ∀ result, r.IsServed result → result.suggestions = [] ∧
    ∃ key deadline, r.key? = some key ∧ Origin before key result.page deadline ∧
      r.moment.millis < deadline

/-- The invariant of a session. -/
structure Session.Sound (s : Session) : Prop where
  database : s.database.Faithful
  keys : s.cache.HasOwnKeys
  entries : ∀ e ∈ s.cache.entries, ∀ page, Page.decode? e.value = some page →
    Origin s.log e.key page e.expiresAt
  times : ∀ x ∈ s.log, x.moment.millis ≤ s.moment.millis
  records : ∀ before r after, s.log = before ++ r :: after → r.Explained before

namespace Session

variable {s : Session}

theorem sound_start (start : Moment) : Session.Sound { moment := start } where
  database := ⟨{}, rfl, Store.faithful_empty⟩
  keys := List.nodup_nil
  entries := fun _ he => nomatch he
  times := fun _ hx => nomatch hx
  records := fun before r after h => by simp at h

/-- A record at the end of the log keeps the invariant if it is explained, and if the entries of
the cache that goes with it have their origins. -/
theorem Sound.concat (h : s.Sound) {r : SearchRecord} {cache : MemoryCache}
    (hnow : r.moment = s.moment) (hr : r.Explained s.log) (hkeys : cache.HasOwnKeys)
    (hentries : ∀ e ∈ cache.entries, ∀ page, Page.decode? e.value = some page →
      Origin (s.log ++ [r]) e.key page e.expiresAt) :
    Session.Sound { s with cache, log := s.log ++ [r] } where
  database := h.database
  keys := hkeys
  entries := hentries
  times := by
    intro x hx
    rcases List.mem_append.mp hx with hx | hx
    · exact h.times x hx
    · have hmoment : x.moment = s.moment := by rw [List.mem_singleton.mp hx, hnow]
      exact Nat.le_of_eq (congrArg Moment.millis hmoment)
  records := by
    intro before x after hsplit
    rcases List.append_eq_append_iff.mp hsplit with ⟨us, rfl, hus⟩ | ⟨us, hlog, hus⟩
    · match us with
      | [] =>
        obtain ⟨rfl, -⟩ := List.cons.inj hus
        rwa [List.append_nil]
      | u :: us => simp at hus
    · match us with
      | [] =>
        obtain ⟨rfl, -⟩ := List.cons.inj hus
        rwa [hlog, List.append_nil] at hr
      | u :: us =>
        obtain ⟨rfl, -⟩ := List.cons.inj hus
        exact h.records before x us hlog

/-- What a search leaves under its key where it is not served cannot be read, so the other
entries keep their origins. -/
theorem Sound.entries_concat (h : s.Sound) {config : Config} {userId : String}
    {options : SearchOptions} {cache : MemoryCache}
    (hread : (config.service s.database).readCache s.moment.millis
      ((config.service s.database).key? userId options) s.cache = (none, cache)) :
    cache.HasOwnKeys ∧ ∀ e ∈ cache.entries, ∀ page, Page.decode? e.value = some page → ∀ outcome,
      Origin (s.log ++ [⟨s.moment, s.database, config, userId, options, outcome⟩]) e.key page
        e.expiresAt := by
  obtain ⟨hsub, hunread⟩ := SearchService.readCache_eq_none rfl h.keys hread
  refine ⟨h.keys.sublist hsub, fun e he page hpage outcome => ?_⟩
  refine (h.entries e (hsub.mem he) page hpage).concat fun hkey => ?_
  rw [hunread e he hkey] at hpage
  cases hpage

/-- A search keeps the invariant. -/
theorem Sound.search (h : s.Sound) (config : Config) (userId : String) (options : SearchOptions) :
    (s.step (.search config userId options)).Sound := by
  have hmemory : (config.service s.database).cache = .memory := rfl
  obtain ⟨found, cache, hread⟩ : ∃ found cache, (config.service s.database).readCache
      s.moment.millis ((config.service s.database).key? userId options) s.cache = (found, cache) :=
    ⟨_, _, rfl⟩
  cases found with
  | some page =>
    -- The page is served, and the cache is as it was.
    obtain ⟨rfl, e, he, hkey, hlive, hpage⟩ := SearchService.readCache_eq_some hmemory hread
    rw [step_search (SearchService.run_served hread)]
    refine h.concat rfl ⟨h.database, h.times, ?_, ?_⟩ h.keys ?_
    · rintro result ⟨hok, hcached⟩
      cases hok
      cases hcached
    · rintro result ⟨hok, -⟩
      cases hok
      exact ⟨rfl, e.key, e.expiresAt, hkey, h.entries e he page hpage, hlive⟩
    · intro x hx q hq
      exact (h.entries x hx q hq).concat fun _ => ⟨_, rfl, rfl⟩
  | none =>
    obtain ⟨hkeys, hentries⟩ := h.entries_concat hread
    cases hfetch : (config.service s.database).fetch userId
        (options.queryText?.map (ParsedQuery.parse s.moment.clock)) options with
    | error e =>
      rw [step_search (SearchService.run_failed hread hfetch)]
      refine h.concat rfl ⟨h.database, h.times, ?_, ?_⟩ hkeys fun x hx q hq => hentries x hx q hq _
      · rintro result ⟨hok, -⟩
        cases hok
      · rintro result ⟨hok, -⟩
        cases hok
    | ok page =>
      -- The page is fresh, and may be written.
      rw [step_search (SearchService.run_fresh hread hfetch)]
      refine h.concat rfl ⟨h.database, h.times, ?_, ?_⟩
        (SearchService.hasOwnKeys_writeCache hmemory hkeys page) ?_
      · rintro result ⟨hok, -⟩
        cases hok
        exact ⟨hfetch, rfl⟩
      · rintro result ⟨hok, hcached⟩
        cases hok
        cases hcached
      · intro x hx q hq
        rcases SearchService.mem_writeCache hmemory hx with hx | ⟨hkey, hvalue, hexpires⟩
        · exact hentries x hx q hq _
        · rw [hvalue] at hq
          have hsame := Page.carried_of_isRegular
            (SearchService.isRegular_of_fetch s.database.isRegular_source hfetch)
          rw [Page.eq_of_decode?_encode hq, hsame, hexpires]
          exact ⟨s.log, _, [], _, rfl, hkey, ⟨rfl, rfl⟩, rfl, rfl, fun _ hx => nomatch hx⟩

/-- Every event keeps the invariant. -/
theorem Sound.step (h : s.Sound) (event : Event) : (s.step event).Sound := by
  cases event with
  | store call => exact ⟨h.database.call call, h.keys, h.entries, h.times, h.records⟩
  | advance millis clock =>
    exact ⟨h.database, h.keys, h.entries,
      fun x hx => Nat.le_trans (h.times x hx) (Nat.le_add_right _ _), h.records⟩
  | search config userId options => exact h.search config userId options

/-- The invariant holds after any events. -/
theorem sound_after (start : Moment) (events : List Event) : (after start events).Sound := by
  have hfold : ∀ s : Session, s.Sound → (events.foldl Session.step s).Sound := by
    induction events with
    | nil => exact fun s h => h
    | cons event events ih => exact fun s h => ih (s.step event) (h.step event)
  exact hfold _ (sound_start start)

end Session

end MailSearch
