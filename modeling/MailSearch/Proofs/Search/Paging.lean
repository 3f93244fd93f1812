import MailSearch.Proofs.Search.LongWords
import MailSearch.Proofs.Search.Serving

/-!
# Pages tile the result

The pages of a search without a cache, put one after another, are the whole list of messages that
match, with none left out and none twice: `SearchService.pages_tile`. The pages are those whose
offset can be said to the store (`lt_pageCount_iff`). Where the engine refuses the search, each of
them fails instead, as in `SearchService.long_word_not_tiled`.

* `flatMap_pageOf`: a list that is not too long is cut into its pages.
* `Store.Takes.matches_iff_holds`: a message matches if the predicates of the search hold of it,
  given what it takes to compare the two.
* `CacheBackend.IsOff`: a cache that finds nothing, such as none at all or one out of reach.
-/

namespace MailSearch

open Calendar Text

/-! ## Cutting a list into pages -/

section Pages

variable {α : Type} {limit : Nat} {items : List α}

theorem flatMap_take_drop (limit count : Nat) (items : List α) :
    ((List.range count).flatMap fun k => (items.drop (k * limit)).take limit) =
      items.take (count * limit) := by
  induction count with
  | zero => simp
  | succ count ih =>
    rw [List.range_succ, List.flatMap_append, ih, List.flatMap_singleton, Nat.succ_mul,
      List.take_add]

/-- The number of pages whose offset can be said to the store. -/
def pageCount (limit : Nat) : Nat := maxInt64 / limit + 1

theorem lt_pageCount_iff (hlimit : 0 < limit) {k : Nat} :
    k < pageCount limit ↔ k * limit ≤ maxInt64 := by
  rw [pageCount, Nat.lt_succ_iff, Nat.le_div_iff_mul_le hlimit]

/-- A list of no more than 2⁶³ items is cut into its pages. -/
theorem flatMap_pageOf (hlimit : 0 < limit) (hlength : items.length ≤ maxInt64 + 1) :
    ((List.range (pageCount limit)).flatMap fun k => pageOf limit (k * limit) items) = items := by
  by_cases hsmall : limit ≤ maxInt64
  · have hpage : ∀ k ∈ List.range (pageCount limit),
        pageOf limit (k * limit) items = (items.drop (k * limit)).take limit := by
      intro k hk
      have hoffset := (lt_pageCount_iff hlimit).mp (List.mem_range.mp hk)
      unfold pageOf
      rw [if_pos hsmall, if_pos hoffset]
    have hlast : maxInt64 < pageCount limit * limit := by
      have := (not_congr (lt_pageCount_iff hlimit)).mp (Nat.lt_irrefl (pageCount limit))
      omega
    rw [List.flatMap_def, List.map_congr_left hpage, ← List.flatMap_def, flatMap_take_drop]
    exact List.take_of_length_le (by omega)
  · -- a limit beyond 2⁶³ - 1 is none, and there is one page
    have hone : pageCount limit = 1 := by
      rw [pageCount, Nat.div_eq_of_lt (by omega)]
    rw [hone, List.range_one, List.flatMap_singleton, Nat.zero_mul,
      pageOf_unlimited (Nat.lt_of_not_le hsmall)]

theorem length_pageOf_le (hlength : items.length ≤ maxInt64 + 1) (offset : Nat) :
    (pageOf limit offset items).length ≤ limit := by
  have hrest : (if offset ≤ maxInt64 then items.drop offset else items).length ≤ maxInt64 + 1 := by
    split
    · rw [List.length_drop]
      omega
    · exact hlength
  unfold pageOf
  generalize (if offset ≤ maxInt64 then items.drop offset else items) = rest at hrest
  simp only
  split
  · exact List.length_take_le _ _
  · omega

end Pages

/-! ## Messages that match -/

/-- The predicates of a search. -/
def SearchOptions.predicates (o : SearchOptions) (clock : Timestamp) (userId : String) :
    PredicateSet :=
  PredicateSet.compile userId (o.queryText?.map (ParsedQuery.parse clock)) o

namespace Database

/-- The message is stored, as it is read by its id, and the search selects it. -/
def Matches (db : Database) (set : PredicateSet) (m : Message) : Prop :=
  ∃ s, db.store = some s ∧ s.getMessage m.id = .ok (some m) ∧ s.selects set m = true

/-- The messages can be counted: a count in the store is a signed number of 64 bits. A file is far
too small to hold more messages than that. -/
def IsCountable (db : Database) : Prop :=
  ∀ s, db.store = some s → s.messages.length ≤ maxInt64

end Database

theorem PredicateSet.hasNoEmptyText_predicates (o : SearchOptions) (clock : Timestamp)
    (userId : String) : ∀ p ∈ (o.predicates clock userId).toList, p.HasNoEmptyText := by
  unfold SearchOptions.predicates
  cases o.queryText? with
  | some query => exact hasNoEmptyText_compile userId query clock o
  | none =>
    have haccounts : ∀ p ∈ Predicate.ofAccounts o, p.HasNoEmptyText := forall_given trivial
    simp only [toList, compile, Option.map_none, Option.getD_none, List.append_nil,
      List.forall_mem_cons, List.forall_mem_append]
    exact ⟨trivial, haccounts, Predicate.hasNoEmptyText_ofOptions o⟩

/-- What can be compared matches exactly if the predicates of the search hold of it. -/
theorem Store.Takes.matches_iff_holds {store : Store} {o : SearchOptions} {clock : Timestamp}
    {userId : String} (htakes : store.Takes (o.predicates clock userId)) (hf : store.Faithful)
    (hyears : store.HasPlainYears)
    (hbounds : ∀ p ∈ (o.predicates clock userId).toList, p.IsComparable) {m : Message}
    (htexts : m.HasPlainTexts) :
    store.getMessage m.id = .ok (some m) ∧ store.selects (o.predicates clock userId) m = true ↔
      store.getMessage m.id = .ok (some m) ∧ (o.predicates clock userId).holds m = true := by
  obtain ⟨ms, hms, hnodup, hregular⟩ := hf.messages
  have hempty := PredicateSet.hasNoEmptyText_predicates o clock userId
  refine and_congr_right fun hget => ?_
  obtain ⟨x, hx, -, rfl⟩ := (hf.getMessage_iff hyears hms hnodup hregular).mp hget
  have hrow : MessageRow.ofMessage x ∈ store.messages := hms ▸ List.mem_map_of_mem hx
  have hselects : store.selects (o.predicates clock userId) (store.full x) =
      (o.predicates clock userId).storeHolds (store.full x) := htakes.selects_eq hf hrow
  rw [hselects, PredicateSet.storeHolds_eq_holds (hf.attachmentsOf_full x) (hyears x hrow)
    (hregular x hx) htexts fun p hp => ⟨hbounds p hp, hempty p hp⟩]

/-! ## Searching without a cache -/

/-- The cache never finds anything. -/
def CacheBackend.IsOff {σ : Type} (b : CacheBackend σ) : Prop :=
  ∀ state now key raw, (b.get state now key).1 ≠ .ok (some raw)

theorem CacheBackend.isOff_disabled {σ : Type} : (disabled : CacheBackend σ).IsOff := by
  intro state now key raw h
  cases h

theorem Message.StandsBefore.ne {a b : Message} (h : a.StandsBefore b) : a ≠ b := by
  rintro rfl
  rcases h with h | ⟨-, h⟩
  · exact Int.lt_irrefl _ h
  · exact String.lt_irrefl _ h

namespace SearchService

variable {σ : Type} {s : SearchService σ}

theorem readCache_of_isOff (h : s.cache.IsOff) (now : Nat) (key? : Option String) (state : σ) :
    ∃ state', s.readCache now key? state = (none, state') := by
  unfold readCache
  cases key? with
  | none => exact ⟨state, rfl⟩
  | some key =>
    simp only
    split
    · rename_i heq
      exact absurd (congrArg Prod.fst heq) (h state now key _)
    · exact ⟨_, rfl⟩

theorem limit_pos (s : SearchService σ) (o : SearchOptions) : 0 < s.limit o := by
  unfold limit SearchOptions.pageSize
  simp only
  split <;> omega

theorem limit_le (s : SearchService σ) (o : SearchOptions) :
    s.limit o ≤ max 1 s.search.maxLimit := by
  unfold limit SearchOptions.pageSize
  simp only
  split <;> omega

/-- Without a cache, a search gives what the source has. -/
theorem run_of_isOff {now : Moment} {userId : String} {o : SearchOptions} {page : Page}
    (hcache : s.cache.IsOff)
    (hfetch : s.fetch userId (o.queryText?.map (ParsedQuery.parse now.clock)) o = .ok page)
    (state : σ) :
    ∃ result state', s.run now userId o state = (.ok result, state') ∧ result.cached = false ∧
      result.page = page := by
  obtain ⟨state', hread⟩ := readCache_of_isOff hcache now.millis (s.key? userId o) state
  exact ⟨_, _, run_fresh hread hfetch, rfl, rfl⟩

/-- Without a cache, a search fails with the source. -/
theorem run_of_isOff_error {now : Moment} {userId : String} {o : SearchOptions} {e : StoreError}
    (hcache : s.cache.IsOff)
    (hfetch : s.fetch userId (o.queryText?.map (ParsedQuery.parse now.clock)) o = .error e)
    (state : σ) : ∃ state', s.run now userId o state = (.error (.store e), state') := by
  obtain ⟨state', hread⟩ := readCache_of_isOff hcache now.millis (s.key? userId o) state
  exact ⟨_, run_failed hread hfetch⟩

/-- The pages of a search, put one after another, are the list of what matches. -/
structure Tiles (s : SearchService σ) (db : Database) (clock : Timestamp) (userId : String)
    (o : SearchOptions) (found : List Message) (page : Nat → List Message) : Prop where
  /-- The list holds what matches, and nothing else. -/
  mem_iff : ∀ m, m ∈ found ↔ db.Matches (o.predicates clock userId) m
  /-- What can be compared is in the list if the predicates hold of it. -/
  mem_iff_holds : (∀ p ∈ (o.predicates clock userId).toList, p.IsComparable) →
    ∀ m : Message, m.HasPlainTexts → (m ∈ found ↔
      db.getMessage m.id = .ok (some m) ∧ (o.predicates clock userId).holds m = true)
  /-- The newest messages stand first, and by id where sent at one time. -/
  newestFirst : found.Pairwise Message.StandsBefore
  /-- Each message is there once. -/
  nodup : found.Nodup
  /-- A search for a page succeeds, whatever the state of the cache, and counts the whole list. -/
  search : ∀ k, k * s.limit o ≤ maxInt64 → ∀ millis state, ∃ result state',
    s.run ⟨clock, millis⟩ userId { o with offset := k * s.limit o } state = (.ok result, state') ∧
      result.cached = false ∧ result.page = ⟨page k, found.length⟩
  /-- No page is longer than the largest limit. -/
  length_le : ∀ k, (page k).length ≤ max 1 s.search.maxLimit
  /-- The pages whose offset can be said make up the list. -/
  joined : (List.range (pageCount (s.limit o))).flatMap page = found

theorem fetch_eq_error {clock : Timestamp} {userId : String} {o : SearchOptions} {e : StoreError}
    (h : s.source.fetchPage (o.predicates clock userId) (s.limit o) o.offset = .error e) :
    s.fetch userId (o.queryText?.map (ParsedQuery.parse clock)) o = .error e :=
  congrArg (· >>= _) h

/-- Every page of a search that does not fit fails with one refusal of the engine. -/
def Refused (s : SearchService σ) (clock : Timestamp) (userId : String) (o : SearchOptions) :
    Prop :=
  ¬ (o.predicates clock userId).Fits ∧ ∃ e : StoreError, e.IsRefusal ∧ ∀ offset millis state,
    ∃ state', s.run ⟨clock, millis⟩ userId { o with offset } state = (.error (.store e), state')

/-- A page fails wherever the store has none. -/
theorem run_of_find_error {db : Database} (hsource : s.source = db.source)
    (hcache : s.cache.IsOff) {now : Moment} {userId : String} {o : SearchOptions} {e : StoreError}
    (hfind : db.find (o.predicates now.clock userId).clause (s.limit o) o.offset = .error e)
    (state : σ) : ∃ state', s.run now userId o state = (.error (.store e), state') := by
  refine run_of_isOff_error hcache (fetch_eq_error ?_) state
  rw [hsource]
  exact hfind

/-- A search that the engine takes has pages that are cut out of one list. -/
theorem exists_tiles {db : Database} {store : Store} {clock : Timestamp} {userId : String}
    {o : SearchOptions} (hsource : s.source = db.source) (hcache : s.cache.IsOff)
    (hstore : db.store = some store) (hf : store.Faithful) (hyears : store.HasPlainYears)
    (hcount : store.messages.length ≤ maxInt64) (htakes : store.Takes (o.predicates clock userId)) :
    ∃ found page, s.Tiles db clock userId o found page := by
  obtain ⟨ms, hms, hnodup, hregular⟩ := hf.messages
  have hagree (hbounds : ∀ p ∈ (o.predicates clock userId).toList, p.IsComparable) (m : Message)
      (htexts : m.HasPlainTexts) := htakes.matches_iff_holds hf hyears hbounds htexts
  generalize hset : o.predicates clock userId = set at htakes hagree
  have hfind := htakes.find_eq_ok hf hyears hms hregular fun _ _ => rfl
  have hmem : ∀ m, m ∈ store.found ms (store.selects set) ↔
      store.getMessage m.id = .ok (some m) ∧ store.selects set m = true :=
    Store.mem_found hf hyears hms hnodup hregular fun _ _ => rfl
  have horder := Store.found_newestFirst hyears hms hnodup hregular (store.selects set)
  have hkept := Store.length_found_le hms (store.selects set)
  generalize hfound : store.found ms (store.selects set) = found at hfind hmem horder hkept
  have hlength : found.length ≤ maxInt64 + 1 := by omega
  refine ⟨found, fun k => pageOf (s.limit o) (k * s.limit o) found, ?_⟩
  constructor
  case mem_iff =>
    intro m
    rw [hset]
    simp only [Database.Matches, hstore, Option.some.injEq, exists_eq_left', hmem]
  case mem_iff_holds =>
    intro hbounds m htexts
    rw [hset] at hbounds
    rw [hmem m, hset, Database.getMessage_eq hstore]
    exact hagree hbounds m htexts
  case newestFirst => exact horder
  case nodup => exact horder.imp Message.StandsBefore.ne
  case search =>
    intro k _ millis state
    obtain ⟨hpage, htotal⟩ := hfind (s.limit o) (k * s.limit o)
    -- the predicates do not depend on the offset
    have hoffset : PredicateSet.compile userId (o.queryText?.map (ParsedQuery.parse clock))
        { o with offset := k * s.limit o } = set := hset
    refine run_of_isOff hcache ?_ state
    refine fetch_of_store hsource hstore ?_ ?_
    · exact hoffset ▸ hpage
    · exact hoffset ▸ htotal
  case length_le =>
    intro k
    exact Nat.le_trans (length_pageOf_le hlength _) (s.limit_le o)
  case joined => exact flatMap_pageOf (s.limit_pos o) hlength

/-- **Pages tile the result.** After any calls on a new database that leave it with plain years, the
pages of a search at one time and without a cache make up the whole list of messages that match,
unless the engine refuses the search. -/
theorem pages_tile (calls : List StoreCall) (s : SearchService σ)
    (hsource : s.source = (Database.after calls).source) (hcache : s.cache.IsOff)
    (hyears : (Database.after calls).HasPlainYears)
    (hcount : (Database.after calls).IsCountable) (clock : Timestamp) (userId : String)
    (o : SearchOptions) :
    (∃ found page, s.Tiles (Database.after calls) clock userId o found page) ∨
      s.Refused clock userId o := by
  obtain ⟨store, hstore, hf⟩ := Database.faithful_after calls
  rcases hf.takes_or_fails (o.predicates clock userId) with htakes | ⟨hfits, e, he, hfind⟩
  · exact .inl (exists_tiles hsource hcache hstore hf (hyears _ hstore) (hcount _ hstore) htakes)
  · refine .inr ⟨hfits, e, he, fun offset millis state => run_of_find_error hsource hcache ?_ state⟩
    rw [Database.find_eq hstore]
    exact hfind _ _

/-- The service of the sample, without a cache. -/
def sampleUncached : SearchService MemoryCache := { sampleService with cache := .disabled }

theorem predicates_sampleOptions :
    sampleOptions.predicates sampleCalls.message.sentAt "user-1" = samplePredicates := by
  rw [SearchOptions.predicates, queryText_sample]
  rfl

/-- The one message of the sample is on the pages of a search that finds it. -/
theorem pages_tile_sample :
    ∃ found page, sampleUncached.Tiles (Database.after sampleCalls) sampleCalls.message.sentAt
      "user-1" sampleOptions found page ∧ sampleCalls.message ∈ found := by
  have hyears : (Database.after sampleCalls).HasPlainYears := by
    intro s hs
    cases hs
    exact hasPlainYears_sampleStore
  have hcount : (Database.after sampleCalls).IsCountable := by
    intro s hs
    cases hs
    decide
  obtain ⟨found, page, htiles⟩ | ⟨hno, -⟩ := pages_tile sampleCalls sampleUncached rfl
    CacheBackend.isOff_disabled hyears hcount sampleCalls.message.sentAt "user-1" sampleOptions
  · have hget : sampleStore.getMessage "m-1" = .ok (some sampleCalls.message) :=
      getMessage_sampleCalls.mpr ⟨rfl, rfl⟩
    refine ⟨found, page, htiles, (htiles.mem_iff _).mpr ⟨sampleStore, rfl, hget, ?_⟩⟩
    rw [predicates_sampleOptions, selects_sample _ (List.mem_singleton_self _)]
  · rw [predicates_sampleOptions] at hno
    exact absurd fits_sample hno

/-! ## A word that is too long -/

/-- The options that search for a word. -/
def wordOptions (word : String) (offset : Nat) : SearchOptions := { query := some word, offset }

theorem predicates_word {word : String} (hword : (Token.word word.toList).Grammatical)
    (hquery : SearchOptions.nonBlank? word = some word) (offset : Nat) (clock : Timestamp) :
    (wordOptions word offset).predicates clock "user-1" = ⟨"user-1", [.mentions [word]]⟩ := by
  have htext : (wordOptions word offset).queryText? = some word := hquery
  rw [← PredicateSet.ofText_word hword "user-1" clock, SearchOptions.predicates, htext]
  rfl

theorem predicates_longWord (clock : Timestamp) :
    (wordOptions longWord 0).predicates clock "user-1" = ⟨"user-1", [.mentions [longWord]]⟩ := by
  unfold longWord
  have hbare := isBareValue_repeatedWord (n := 49999) (by decide)
  exact predicates_word (grammatical_repeatedWord (by decide)) hbare.nonBlank? 0 clock

theorem run_of_not_fits {word : String} (h : ¬ PatternFits word) {clock : Timestamp}
    (hset : (wordOptions word 0).predicates clock "user-1" = ⟨"user-1", [.mentions [word]]⟩) :
    ∃ state', sampleUncached.run ⟨clock, 0⟩ "user-1" (wordOptions word 0) {} =
      (.error (.store .patternTooLong), state') := by
  have hcache : sampleUncached.cache.IsOff := CacheBackend.isOff_disabled
  refine run_of_isOff_error hcache (fetch_eq_error ?_) {}
  rw [hset]
  exact Store.find_of_not_fits h _ _

/-- So the pages of the search are not those of a list: they fail. -/
theorem long_word_not_tiled :
    ¬ (∃ found page, sampleUncached.Tiles (Database.after sampleCalls) sampleCalls.message.sentAt
      "user-1" (wordOptions longWord 0) found page) ∧
    ∃ state', sampleUncached.run ⟨sampleCalls.message.sentAt, 0⟩ "user-1" (wordOptions longWord 0)
      {} = (.error (.store .patternTooLong), state') := by
  obtain ⟨state', hrun⟩ := run_of_not_fits not_patternFits_longWord
    (predicates_longWord sampleCalls.message.sentAt)
  refine ⟨?_, state', hrun⟩
  rintro ⟨found, page, htiles⟩
  obtain ⟨result, state'', hok, -⟩ := htiles.search 0 (by simp) 0 {}
  rw [Nat.zero_mul] at hok
  have hsame : { wordOptions longWord 0 with offset := 0 } = wordOptions longWord 0 := rfl
  rw [hsame, hrun] at hok
  cases hok

end SearchService

end MailSearch
