import MailSearch.Proofs.Search.Paging

/-!
# Searching again

A search that succeeds and is run again at once gives the same page, whichever of the caches it is
run with and whatever the cache holds: `SearchService.run_again`.

* `CacheBackend.IsSteady`: between two calls at one time, nothing becomes readable but what was
  written. `CacheBackend.IsStandard.isSteady`: every cache that a service is run with is so.
* `SearchService.readCache_again`, `SearchService.readCache_of_write`: what a second read finds, of
  a page that was served and of one that was written.
-/

namespace MailSearch

open Calendar

/-! ## Caches between two calls -/

/-- From the live entries that a read leaves, what it found is found again. -/
theorem MemoryCache.get_live (c : MemoryCache) (now : Nat) (key : String) :
    (get ⟨(c.get now key).2.entries.filter (isLive now)⟩ now key).1 = (c.get now key).1 := by
  cases hfind : c.entries.find? (·.key = key) with
  | none =>
    have hnone : (c.entries.filter (isLive now)).find? (·.key = key) = none :=
      List.find?_eq_none.mpr fun e he =>
        List.find?_eq_none.mp hfind e (List.mem_filter.mp he).1
    simp only [get, hfind, hnone]
  | some e =>
    by_cases hlive : isLive now e = true
    · have hfirst : (c.entries.filter (isLive now)).find? (·.key = key) = some e := by
        obtain ⟨hkey, before, after, hentries, hbefore⟩ :=
          List.find?_eq_some_iff_append.mp hfind
        rw [hentries, List.filter_append, List.filter_cons_of_pos hlive]
        exact List.find?_eq_some_iff_append.mpr ⟨hkey, _, _, rfl,
          fun x hx => hbefore x (List.mem_filter.mp hx).1⟩
      simp only [get, hfind, if_pos hlive, hfirst]
    · have hnone : ((c.erase key).entries.filter (isLive now)).find? (·.key = key) = none :=
        List.find?_eq_none.mpr fun x hx => by
          simpa using (mem_erase.mp (List.mem_filter.mp hx).1).2
      simp only [get, hfind, if_neg hlive, hnone]

namespace CacheBackend

variable {σ : Type} {b : CacheBackend σ}

/-- The caches that a service is run with: the one in memory, none at all, and one of which every
call fails. -/
inductive IsStandard : {σ : Type} → CacheBackend σ → Prop
  | memory : IsStandard memory
  | disabled {σ : Type} : IsStandard (disabled : CacheBackend σ)
  | failing {σ : Type} {b : CacheBackend σ}
      (get : ∀ state now key, ∃ e, (b.get state now key).1 = .error e)
      (set : ∀ state now key value ttl, ∃ e, (b.set state now key value ttl).1 = .error e) :
      IsStandard b

/-- Between two calls at one time, nothing becomes readable but what was written. -/
structure IsSteady (b : CacheBackend σ) : Prop where
  /-- A read finds what the read before it found. -/
  get_get : ∀ state now key raw,
    (b.get (b.get state now key).2 now key).1 = .ok (some raw) ↔
      (b.get state now key).1 = .ok (some raw)
  /-- After a read and a write, nothing is found but the text written, or what was read. -/
  get_set : ∀ state now key value ttl raw, ttl ≠ 0 →
    (b.get (b.set (b.get state now key).2 now key value ttl).2 now key).1 = .ok (some raw) →
      raw = value ∨ (b.get state now key).1 = .ok (some raw)

theorem isSteady_memory : memory.IsSteady where
  get_get c now key raw := by
    rcases c.get_cases now key with ⟨e, -, -, -, hget⟩ | hget
    · simp only [memory, hget]
    · -- the key is gone, so that it is not found again
      have hnone : (c.erase key).entries.find? (·.key = key) = none :=
        List.find?_eq_none.mpr fun e he => by simpa using (MemoryCache.mem_erase.mp he).2
      have hagain : (c.erase key).get now key = (none, c.erase key) := by
        simp only [MemoryCache.get, hnone]
      simp only [memory, hget, hagain]
  get_set c now key value ttl raw httl h := by
    have hlive : now < now + ttl := Nat.lt_add_of_pos_right (Nat.pos_of_ne_zero httl)
    simp only [memory, Except.ok.injEq] at h ⊢
    rcases (c.get now key).2.set_eq now key value ttl with ⟨hzero, -⟩ | ⟨-, hend, -⟩ | ⟨-, -, hset⟩
    · exact absurd hzero httl
    · rw [MemoryCache.get_set httl hend hlive] at h
      exact .inl (Option.some.inj h).symm
    · rw [hset, c.get_live] at h
      exact .inr h

/-- A cache that never finds anything is steady. -/
theorem IsOff.isSteady (h : b.IsOff) : b.IsSteady where
  get_get state now key raw := by
    constructor <;> intro hfound
    · exact absurd hfound (h _ now key raw)
    · exact absurd hfound (h _ now key raw)
  get_set state now key value ttl raw _ hfound := absurd hfound (h _ now key raw)

theorem IsStandard.isSteady (h : b.IsStandard) : b.IsSteady := by
  cases h with
  | memory => exact isSteady_memory
  | disabled => exact isOff_disabled.isSteady
  | failing get set =>
    have hoff : b.IsOff := by
      intro state now key raw hfound
      obtain ⟨e, he⟩ := get state now key
      rw [he] at hfound
      cases hfound
    exact hoff.isSteady

end CacheBackend

/-! ## The second search -/

namespace SearchService

variable {σ : Type} {s : SearchService σ}

/-- A page is read exactly if a text is found that holds it. -/
theorem readCache_eq_some_iff {now : Nat} {key : String} {state : σ} {page : Page} :
    (s.readCache now (some key) state).1 = some page ↔
      ∃ raw, (s.cache.get state now key).1 = .ok (some raw) ∧ Page.decode? raw = some page := by
  simp only [readCache]
  split
  · rename_i raw state' hget
    simp [hget]
  · rename_i found state' hmiss hget
    constructor
    · intro h
      cases h
    · rintro ⟨raw, hfound, -⟩
      rw [hget] at hfound
      exact absurd hfound (hmiss raw)

theorem readCache_state (s : SearchService σ) (now : Nat) (key : String) (state : σ) :
    (s.readCache now (some key) state).2 = (s.cache.get state now key).2 := by
  simp only [readCache]
  split
  · rename_i hget
    rw [hget]
  · rename_i hget
    rw [hget]

/-- A second read gives the page that the first one gave, or none again. -/
theorem readCache_again (h : s.cache.IsSteady) (now : Nat) (key? : Option String) (state : σ) :
    (s.readCache now key? (s.readCache now key? state).2).1 =
      (s.readCache now key? state).1 := by
  cases key? with
  | none => rfl
  | some key =>
    refine Option.ext fun page => ?_
    rw [readCache_eq_some_iff, readCache_eq_some_iff, readCache_state]
    simp only [h.get_get]

/-- After a page was written where none could be read, none is read but that page as it is
written. -/
theorem readCache_of_write (h : s.cache.IsSteady) {now : Nat} {key? : Option String}
    {state state' : σ} (hread : s.readCache now key? state = (none, state')) {page found : Page}
    (hfound : (s.readCache now key? (s.writeCache now key? page state')).1 = some found) :
    found = page.carried := by
  have hnone : (s.readCache now key? state').1 = none := by
    have hagain := readCache_again h now key? state
    rwa [hread] at hagain
  unfold writeCache at hfound
  cases key? with
  | none => cases hfound
  | some key =>
    simp only at hfound
    split at hfound
    · rw [hnone] at hfound
      cases hfound
    · rename_i httl
      have hstate : state' = (s.cache.get state now key).2 := by
        rw [← readCache_state, hread]
      obtain ⟨raw, hget, hpage⟩ := readCache_eq_some_iff.mp hfound
      rw [hstate] at hget
      rcases h.get_set state now key page.encode s.ttl raw httl hget with rfl | hbefore
      · exact Page.eq_of_decode?_encode hpage
      · have hsome := readCache_eq_some_iff.mpr ⟨raw, hbefore, hpage⟩
        rw [hread] at hsome
        cases hsome

section Run

variable {now : Moment} {userId : String} {o : SearchOptions} {state state' : σ} {page : Page}

/-- A search that can read a page from the cache gives that page. -/
theorem run_of_read (h : (s.readCache now.millis (s.key? userId o) state).1 = some page) :
    ∃ result state', s.run now userId o state = (.ok result, state') ∧ result.page = page := by
  obtain ⟨left, hread⟩ : ∃ left,
      s.readCache now.millis (s.key? userId o) state = (some page, left) :=
    ⟨_, Prod.ext h rfl⟩
  exact ⟨_, _, run_served hread, rfl⟩

/-- One that can read none gives the page of the source. -/
theorem run_of_fetch (h : (s.readCache now.millis (s.key? userId o) state).1 = none)
    (hfetch : s.fetch userId (o.queryText?.map (ParsedQuery.parse now.clock)) o = .ok page) :
    ∃ result state', s.run now userId o state = (.ok result, state') ∧ result.page = page := by
  obtain ⟨left, hread⟩ : ∃ left, s.readCache now.millis (s.key? userId o) state = (none, left) :=
    ⟨_, Prod.ext h rfl⟩
  exact ⟨_, _, run_fresh hread hfetch, rfl⟩

/-- **Searching again.** A search that succeeds and is run again at once succeeds again, with the
same messages and the same total. -/
theorem run_again (hcache : s.cache.IsStandard) (hsource : s.source.IsRegular)
    {result : SearchResult}
    (hrun : s.run now userId o state = (.ok result, state')) :
    ∃ again state'', s.run now userId o state' = (.ok again, state'') ∧
      again.page.messages = result.page.messages ∧ again.page.total = result.page.total := by
  have hsteady := hcache.isSteady
  suffices hpage : ∃ again state'', s.run now userId o state' = (.ok again, state'') ∧
      again.page = result.page by
    obtain ⟨again, state'', hagain, hpage⟩ := hpage
    exact ⟨again, state'', hagain, by rw [hpage], by rw [hpage]⟩
  obtain ⟨found, left, hread⟩ : ∃ found left,
      s.readCache now.millis (s.key? userId o) state = (found, left) := ⟨_, _, rfl⟩
  cases found with
  | some page =>
    have hsecond := readCache_again hsteady now.millis (s.key? userId o) state
    rw [hread] at hsecond
    rw [run_served hread] at hrun
    cases hrun
    exact run_of_read hsecond
  | none =>
    cases hfetch : s.fetch userId (o.queryText?.map (ParsedQuery.parse now.clock)) o with
    | error e =>
      rw [run_failed hread hfetch] at hrun
      cases hrun
    | ok page =>
      rw [run_fresh hread hfetch] at hrun
      cases hrun
      -- The second search reads the page that the first one wrote, or fetches it once more.
      cases hsecond : (s.readCache now.millis (s.key? userId o)
          (s.writeCache now.millis (s.key? userId o) page left)).1 with
      | some found =>
        have hfound := readCache_of_write hsteady hread hsecond
        rw [Page.carried_of_isRegular (isRegular_of_fetch hsource hfetch)] at hfound
        rw [hfound] at hsecond
        exact run_of_read hsecond
      | none => exact run_of_fetch hsecond hfetch

end Run

/-! ## A cache with a text that is no page -/

/-- A cache in which a text that is no page stands under a key. -/
def spoiltCache (key? : Option String) : MemoryCache := ⟨(key?.map (⟨·, "[", 500⟩)).toList⟩

theorem readCache_spoiltCache {s : SearchService MemoryCache} (hs : s.cache = .memory)
    (key? : Option String) : s.readCache 0 key? (spoiltCache key?) = (none, spoiltCache key?) := by
  cases key? with
  | none => rfl
  | some key =>
    have hunreadable : Page.decode? "[" = none := by decide
    have hget : (spoiltCache (some key)).get 0 key = (some "[", spoiltCache (some key)) := by
      simp [spoiltCache, MemoryCache.get, MemoryCache.isLive]
    simp only [readCache, hs, CacheBackend.memory, hget, hunreadable]

/-- The text does not count, and what the first search finds, the second one finds again. -/
theorem run_again_spoilt : sampleService.cache.IsStandard ∧ sampleService.source.IsRegular ∧
    ∃ state',
    sampleService.run ⟨sampleCalls.message.sentAt, 0⟩ "user-1" sampleOptions
        (spoiltCache (sampleService.key? "user-1" sampleOptions)) =
      (.ok (sampleResult false), state') ∧
    ∃ again state'', sampleService.run ⟨sampleCalls.message.sentAt, 0⟩ "user-1" sampleOptions
        state' = (.ok again, state'') ∧
      again.page.messages = [sampleCalls.message] ∧ again.page.total = 1 := by
  have hrun := run_sample_missed (readCache_spoiltCache rfl _)
  exact ⟨.memory, Database.isRegular_source _, _, hrun,
    run_again .memory (Database.isRegular_source _) hrun⟩

end SearchService

end MailSearch
