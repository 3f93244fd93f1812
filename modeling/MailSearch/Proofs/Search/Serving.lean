import MailSearch.Proofs.Search.Agreement
import MailSearch.Proofs.Search.Session

/-!
# Served pages

* `Session.served_page_has_origin`: where one service runs every search of a session, a page that
  is served from the cache is the page of an earlier fresh search for the same, not older than the
  time to live.
* `log_sample`: a session in which this happens.
-/

namespace MailSearch

open Calendar

/-! ## One service -/

/-- If the event is a search, the service with these settings runs it. -/
def Event.UsesOnly (config : Config) : Event → Prop
  | .search c _ _ => c = config
  | _ => True

namespace Session

/-- Where one service runs every search, every record is of that service. -/
theorem config_of_mem_log {start : Moment} {events : List Event} {config : Config}
    (h : ∀ e ∈ events, e.UsesOnly config) : ∀ r ∈ (after start events).log, r.config = config := by
  have hfold : ∀ s : Session, (∀ r ∈ s.log, r.config = config) →
      ∀ r ∈ (events.foldl step s).log, r.config = config := by
    induction events with
    | nil => exact fun s hs => hs
    | cons event events ih =>
      intro s hs
      refine ih (fun e he => h e (List.mem_cons_of_mem _ he)) (s.step event) ?_
      have hevent := h event List.mem_cons_self
      cases event with
      | store call => exact hs
      | advance millis clock => exact hs
      | search c userId options =>
        intro r hr
        rcases List.mem_append.mp hr with hr | hr
        · exact hs r hr
        · rw [List.mem_singleton.mp hr]
          exact hevent
  exact hfold _ fun _ hr => nomatch hr

/-- **Soundness of the cache.** Where one service runs every search, a page that is served is the
page of an earlier fresh search: the first page for the same user, query text, filters and page
size, fetched less than the time to live ago. Every search for it in between was served too. -/
theorem served_page_has_origin (start : Moment) (events : List Event) (config : Config)
    (hconfig : ∀ e ∈ events, e.UsesOnly config) {before later : List SearchRecord}
    {r : SearchRecord} {result : SearchResult}
    (hlog : (after start events).log = before ++ r :: later) (hserved : r.IsServed result) :
    ∃ earlier origin between fresh, before = earlier ++ origin :: between ∧
      origin.IsFresh fresh ∧ fresh.page = result.page ∧
      origin.SameSearch r ∧ origin.options.offset = 0 ∧
      origin.moment.millis ≤ r.moment.millis ∧
      r.moment.millis - origin.moment.millis < config.search.cacheTtlSecs * 1000 ∧
      ∀ x ∈ between, x.SameSearch r → ∃ served, x.IsServed served := by
  have hexplained := (sound_after start events).records before r later hlog
  have hrecords : ∀ x ∈ before ++ r :: later, x.config = config :=
    hlog ▸ config_of_mem_log hconfig
  obtain ⟨-, key, deadline, hkey, horigin, hlive⟩ := hexplained.served result hserved
  obtain ⟨earlier, origin, between, fresh, rfl, horiginKey, hfresh, hpage, rfl, hbetween⟩ := horigin
  have htime := hexplained.times origin (by simp)
  have httl : origin.service.ttl = config.search.cacheTtlSecs * 1000 := by
    rw [← hrecords origin (by simp)]
    rfl
  refine ⟨earlier, origin, between, fresh, rfl, hfresh, hpage,
    SearchRecord.sameSearch_of_key? horiginKey hkey, (SearchRecord.key?_eq_some horiginKey).1,
    htime, by omega, ?_⟩
  intro x hx hsame
  have hnamespace : x.config = r.config := by
    rw [hrecords x (by simp [hx]), hrecords r (by simp)]
  exact hbetween x hx (by rw [hsame.key?_eq (by rw [hnamespace]), hkey])

end Session

/-- What a service fetches is what the store of its database has. -/
theorem SearchService.fetch_of_store {σ : Type} {s : SearchService σ} {db : Database}
    {store : Store} (hsource : s.source = db.source) (hstore : db.store = some store)
    {userId : String} {query : Option ParsedQuery} {o : SearchOptions} {messages : List Message}
    {total : Nat}
    (hfind : store.find (PredicateSet.compile userId query o).clause (s.limit o) o.offset =
      .ok messages)
    (hcount : store.count (PredicateSet.compile userId query o).clause = .ok total) :
    s.fetch userId query o = .ok ⟨messages, total⟩ := by
  unfold fetch
  rw [hsource]
  simp only [Database.source, Database.find, Database.count, Database.withStore, hstore, bind,
    Except.bind, hfind, hcount]
  rfl

/-- A new cache in memory holds no page. -/
theorem SearchService.readCache_new {s : SearchService MemoryCache} (hs : s.cache = .memory)
    (now : Nat) (key? : Option String) : s.readCache now key? {} = (none, {}) := by
  cases key? with
  | none => rfl
  | some key => simp only [readCache, hs, CacheBackend.memory, MemoryCache.get, List.find?_nil]

/-! ## A page served -/

/-- The search that finds the message of the account by its sender and a word of its subject. -/
def sampleOptions : SearchOptions := { query := some "from:bob report" }

theorem queryText_sample : sampleOptions.queryText? = some "from:bob report" := by decide

/-- The account and its one message, and two searches a second apart. -/
def sampleEvents : List Event :=
  sampleCalls.map .store ++ [.search {} "user-1" sampleOptions,
    .advance 1000 sampleCalls.message.sentAt, .search {} "user-1" sampleOptions]

/-- The service that runs the searches, with the settings that are standard. -/
def sampleService : SearchService MemoryCache := Config.service {} (Database.after sampleCalls)

/-- The predicates of the searches. -/
def samplePredicates : PredicateSet :=
  PredicateSet.compile "user-1"
    (some (ParsedQuery.parse sampleCalls.message.sentAt "from:bob report")) {}

theorem takes_sample : sampleStore.Takes samplePredicates := faithful_sampleStore.takes fits_sample

theorem selects_sample : ∀ m ∈ [sampleCalls.message],
    sampleStore.selects samplePredicates m = true := by
  intro m hm
  obtain rfl := List.mem_singleton.mp hm
  have hrows := faithful_sampleStore.attachmentsOf_full sampleCalls.message
  rw [full_sampleStore] at hrows
  have hset : ∀ p ∈ samplePredicates.toList, p.IsComparable ∧ p.HasNoEmptyText := fun p hp =>
    ⟨isComparable_sample p hp, PredicateSet.hasNoEmptyText_compile _ _ _ _ p hp⟩
  have hrow : MessageRow.ofMessage sampleCalls.message ∈ sampleStore.messages :=
    List.mem_cons_self
  rw [takes_sample.selects_eq faithful_sampleStore hrow, full_sampleStore,
    PredicateSet.storeHolds_eq_holds hrows (by decide) (by decide) hasPlainTexts_sample hset]
  exact holds_sample

theorem found_sample :
    sampleStore.found [sampleCalls.message] (fun _ => true) = [sampleCalls.message] := by
  rw [Store.found, List.filter_eq_self.mpr fun _ _ => rfl, List.mergeSort_singleton,
    List.map_singleton, full_sampleStore]

/-- The message is what the service fetches. -/
theorem fetch_sample :
    sampleService.fetch "user-1"
      (sampleOptions.queryText?.map (ParsedQuery.parse sampleCalls.message.sentAt))
      sampleOptions = .ok ⟨[sampleCalls.message], 1⟩ := by
  obtain ⟨hfind, hcount⟩ := takes_sample.find_eq_ok faithful_sampleStore
    hasPlainYears_sampleStore messages_sampleStore isRegular_sample selects_sample 20 0
  rw [found_sample] at hfind hcount
  rw [queryText_sample]
  exact SearchService.fetch_of_store rfl rfl hfind hcount

theorem foldl_store (calls : List StoreCall) (s : Session) :
    (calls.map .store).foldl Session.step s =
      { s with database := calls.foldl Database.call s.database } := by
  induction calls generalizing s with
  | nil => rfl
  | cons call calls ih => exact ih _

/-- The cache after the first search. -/
def sampleCache : MemoryCache :=
  sampleService.writeCache 0 (sampleService.key? "user-1" sampleOptions)
    ⟨[sampleCalls.message], 1⟩ {}

/-- The result of a search, from the cache or not. -/
def sampleResult (cached : Bool) : SearchResult :=
  ⟨⟨[sampleCalls.message], 1⟩, 0, [],
    sampleOptions.queryText?.map (ParsedQuery.parse sampleCalls.message.sentAt), cached⟩

/-- The record of a search. -/
def sampleRecord (millis : Nat) (cached : Bool) : SearchRecord :=
  ⟨⟨sampleCalls.message.sentAt, millis⟩, Database.after sampleCalls, {}, "user-1", sampleOptions,
    .ok (sampleResult cached)⟩

/-- A search that finds no page in the cache fetches the message. -/
theorem run_sample_missed {c c' : MemoryCache}
    (hread : sampleService.readCache 0 (sampleService.key? "user-1" sampleOptions) c =
      (none, c')) :
    sampleService.run ⟨sampleCalls.message.sentAt, 0⟩ "user-1" sampleOptions c =
      (.ok (sampleResult false),
        sampleService.writeCache 0 (sampleService.key? "user-1" sampleOptions)
          ⟨[sampleCalls.message], 1⟩ c') := by
  have hsuggestions : sampleService.suggestionsFor "user-1" sampleOptions
      ⟨[sampleCalls.message], 1⟩ = [] := by
    rw [SearchService.suggestionsFor, queryText_sample]
    rfl
  have hrun : sampleService.run ⟨sampleCalls.message.sentAt, 0⟩ "user-1" sampleOptions c = _ :=
    SearchService.run_fresh hread fetch_sample
  rw [hsuggestions] at hrun
  exact hrun

theorem run_sample_first : sampleService.run ⟨sampleCalls.message.sentAt, 0⟩ "user-1" sampleOptions
    {} = (.ok (sampleResult false), sampleCache) :=
  run_sample_missed (SearchService.readCache_new rfl _ _)

theorem run_sample_second : sampleService.run ⟨sampleCalls.message.sentAt, 1000⟩ "user-1"
    sampleOptions sampleCache = (.ok (sampleResult true), sampleCache) := by
  obtain ⟨key, hkey⟩ : ∃ key, sampleService.key? "user-1" sampleOptions = some key := by
    rw [SearchService.key?, queryText_sample]
    exact ⟨_, rfl⟩
  refine SearchService.run_served ?_
  have hregular : Page.IsRegular ⟨[sampleCalls.message], 1⟩ := isRegular_sample
  rw [sampleCache, hkey, SearchService.readCache_writeCache rfl (by decide) (by decide)
    (by decide) (by decide) key, Page.carried_of_isRegular hregular]

/-- What is recorded of two searches, some time apart. -/
theorem log_two_searches {db : Database} {config : Config} {userId : String} {o : SearchOptions}
    {clock : Timestamp} {millis : Nat} {first second : Except SearchError SearchResult}
    {cache cache' : MemoryCache}
    (hfirst : (config.service db).run ⟨clock, 0⟩ userId o {} = (first, cache))
    (hsecond : (config.service db).run ⟨clock, millis⟩ userId o cache = (second, cache')) :
    ([.search config userId o, .advance millis clock, .search config userId o].foldl Session.step
      { database := db, moment := ⟨clock, 0⟩ }).log =
      [⟨⟨clock, 0⟩, db, config, userId, o, first⟩,
        ⟨⟨clock, millis⟩, db, config, userId, o, second⟩] := by
  simp only [List.foldl_cons, List.foldl_nil, Session.step, hfirst, Nat.zero_add, hsecond,
    List.nil_append, List.cons_append]

/-- The first search finds the message, and the second one is served its page. -/
theorem log_sample : (Session.after ⟨sampleCalls.message.sentAt, 0⟩ sampleEvents).log =
    [sampleRecord 0 false, sampleRecord 1000 true] := by
  rw [Session.after, sampleEvents, List.foldl_append, foldl_store]
  exact log_two_searches run_sample_first run_sample_second

/-- The page served to the second search is that of the first one. -/
theorem Session.served_page_of_sample :
    ∃ before r result earlier origin between fresh,
      (Session.after ⟨sampleCalls.message.sentAt, 0⟩ sampleEvents).log = before ++ [r] ∧
        r.IsServed result ∧ result.page = ⟨[sampleCalls.message], 1⟩ ∧
        before = earlier ++ origin :: between ∧ origin.IsFresh fresh ∧
        fresh.page = result.page := by
  have hconfig : ∀ e ∈ sampleEvents, e.UsesOnly {} := by
    intro e he
    simp only [sampleEvents, sampleCalls, List.map_cons, List.map_nil, List.cons_append,
      List.nil_append, List.mem_cons, List.not_mem_nil, or_false] at he
    rcases he with rfl | rfl | rfl | rfl | rfl <;> trivial
  have hlog : (Session.after ⟨sampleCalls.message.sentAt, 0⟩ sampleEvents).log =
      [sampleRecord 0 false] ++ sampleRecord 1000 true :: [] := log_sample
  have hserved : (sampleRecord 1000 true).IsServed (sampleResult true) := ⟨rfl, rfl⟩
  obtain ⟨earlier, origin, between, fresh, hbefore, hfresh, hpage, -⟩ :=
    Session.served_page_has_origin _ sampleEvents {} hconfig hlog hserved
  exact ⟨_, _, sampleResult true, earlier, origin, between, fresh, hlog, hserved, rfl, hbefore,
    hfresh, hpage⟩

end MailSearch
