import MailSearch.Proofs.Data.Outcome
import MailSearch.Proofs.Data.Sorting
import MailSearch.Proofs.Mail.RoundTrip
import MailSearch.Search.Service

/-!
# Pages in the cache

What one search does with a cache in memory, whose entries have keys of their own
(`MemoryCache.HasOwnKeys`).

* `Page.eq_of_decode?_encode`: what is read from the text of a page is that page as it is written.
* `MemoryCache.get_cases`, `MemoryCache.mem_set_iff`: what a read finds and what a write leaves.
* `SearchService.run_served`, `SearchService.run_failed`, `SearchService.run_fresh`: the three ways
  that a search can go.
* `SearchService.readCache_eq_some`, `SearchService.readCache_eq_none`,
  `SearchService.mem_writeCache`: what each of them says of the entries.
-/

namespace MailSearch

open Json

/-! ## Pages -/

theorem Page.exact_toJson (p : Page) : Exact p.toJson := by
  have hmessages : Exact (list (p.messages.map Message.toJson)) := by
    refine .list ?_
    simpa using fun m _ => m.exact_toJson
  refine .object ?_
  simp only [List.forall_mem_cons]
  exact ⟨hmessages, .integer _, by simp⟩

/-- The times of the messages are regular. -/
def Page.IsRegular (p : Page) : Prop := ∀ m ∈ p.messages, m.sentAt.IsRegular

instance (p : Page) : Decidable p.IsRegular := List.decidableBAll _ _

/-- The page with the regular times that are written like its own. -/
def Page.carried (p : Page) : Page := { p with messages := p.messages.map Message.carried }

theorem Page.carried_of_isRegular {p : Page} (h : p.IsRegular) : p.carried = p := by
  have hsame : p.messages.map Message.carried = p.messages.map id :=
    List.map_congr_left fun m hm => Message.carried_of_isRegular (h m hm)
  rw [carried, hsame, List.map_id]

/-- The text of a page holds its messages as they are written, and its total if that can be
read. -/
theorem Page.decode?_encode (p : Page) :
    Page.decode? p.encode = (asWord? (integer p.total)).map (Page.mk p.carried.messages) := by
  have hrecord : Record.ofJson? ["messages", "total_count"] 2 p.toJson = some
      ⟨[("messages", list (p.messages.map Message.toJson)), ("total_count", integer p.total)]⟩ :=
    Record.ofJson?_object 2 rfl (by decide)
  unfold decode? encode
  rw [readAs?_compact shape p.exact_toJson, Option.bind_some]
  unfold Page.ofJson?
  have hmessages : Record.need?
      ⟨[("messages", list (p.messages.map Message.toJson)), ("total_count", integer p.total)]⟩
      "messages" messagesOfJson? = some p.carried.messages :=
    Record.need?_eq_some rfl (messagesOfJson?_map _)
  have htotal : Record.need?
      ⟨[("messages", list (p.messages.map Message.toJson)), ("total_count", integer p.total)]⟩
      "total_count" asWord? = asWord? (integer p.total) :=
    Record.need?_of_lookup rfl
  rw [hrecord, Option.bind_eq_bind, Option.bind_some, hmessages, htotal]
  cases asWord? (integer p.total) <;> rfl

/-- What is read from the text of a page is that page as it is written. -/
theorem Page.eq_of_decode?_encode {p q : Page} (h : Page.decode? p.encode = some q) :
    q = p.carried := by
  rw [decode?_encode] at h
  obtain ⟨total, htotal, rfl⟩ := Option.map_eq_some_iff.mp h
  rw [asWord?] at htotal
  by_cases hbound : 0 ≤ (p.total : Int) ∧ (p.total : Int) < 18446744073709551616
  · rw [if_pos hbound] at htotal
    obtain rfl : p.total = total := Option.some.inj htotal
    rfl
  · rw [if_neg hbound] at htotal
    cases htotal

/-- A page whose total has 64 bits is read from its text as it is written. -/
theorem Page.decode?_encode_self {p : Page} (htotal : p.total < Text.word64) :
    Page.decode? p.encode = some p.carried := by
  have hbound : 0 ≤ (p.total : Int) ∧ (p.total : Int) < 18446744073709551616 := by
    rw [Text.word64] at htotal
    omega
  rw [decode?_encode, asWord?, if_pos hbound]
  rfl

/-! ## The cache in memory -/

namespace MemoryCache

variable {c : MemoryCache} {now : Nat} {key : String}

/-- No two entries have one key. -/
def HasOwnKeys (c : MemoryCache) : Prop := (c.entries.map (·.key)).Nodup

theorem mem_erase {e : CacheEntry} : e ∈ (c.erase key).entries ↔ e ∈ c.entries ∧ e.key ≠ key := by
  simp [erase]

theorem HasOwnKeys.sublist {c' : MemoryCache} (h : c.HasOwnKeys)
    (hsub : c'.entries.Sublist c.entries) : c'.HasOwnKeys :=
  List.Nodup.sublist (hsub.map _) h

/-- With keys of their own, entries with one key are one entry. -/
theorem HasOwnKeys.eq_of_key_eq (h : c.HasOwnKeys) {e e' : CacheEntry} (he : e ∈ c.entries)
    (he' : e' ∈ c.entries) (hkey : e.key = e'.key) : e = e' :=
  List.inj_on_of_nodup_map h he he' hkey

/-- A live entry is found and the cache kept, or nothing is and the key is gone. -/
theorem get_cases (c : MemoryCache) (now : Nat) (key : String) :
    (∃ e ∈ c.entries, e.key = key ∧ now < e.expiresAt ∧ c.get now key = (some e.value, c)) ∨
      c.get now key = (none, c.erase key) := by
  unfold get
  cases hfind : c.entries.find? (·.key = key) with
  | none =>
    have hkeep : c.erase key = c := by
      have hne := List.find?_eq_none.mp hfind
      have hfilter : c.entries.filter (·.key ≠ key) = c.entries :=
        List.filter_eq_self.mpr fun e he => by simpa using hne e he
      rw [erase, hfilter]
    exact .inr (by simp only [hkeep])
  | some e =>
    have he := List.mem_of_find?_eq_some hfind
    have hkey : e.key = key := by simpa using List.find?_some hfind
    simp only
    by_cases hlive : now < e.expiresAt
    · exact .inl ⟨e, he, hkey, hlive, if_pos (by simpa [isLive] using hlive)⟩
    · exact .inr (if_neg (by simpa [isLive] using hlive))

/-- What a write leaves: no entry past its time, and the new one unless the call breaks off. -/
theorem set_eq (c : MemoryCache) (now : Nat) (key value : String) (ttl : Nat) :
    (ttl = 0 ∧ c.set now key value ttl = erase ⟨c.entries.filter (isLive now)⟩ key) ∨
      (ttl ≠ 0 ∧ now + ttl < endOfTime ∧ c.set now key value ttl =
        ⟨(erase ⟨c.entries.filter (isLive now)⟩ key).entries ++ [⟨key, value, now + ttl⟩]⟩) ∨
      (ttl ≠ 0 ∧ endOfTime ≤ now + ttl ∧
        c.set now key value ttl = ⟨c.entries.filter (isLive now)⟩) := by
  unfold set
  by_cases httl : ttl = 0
  · exact .inl ⟨httl, if_pos httl⟩
  · by_cases hend : now + ttl < endOfTime
    · exact .inr (.inl ⟨httl, hend, by simp only [if_neg httl, if_pos hend]⟩)
    · exact .inr (.inr ⟨httl, Nat.not_lt.mp hend, by simp only [if_neg httl, if_neg hend]⟩)

theorem mem_live_erase {e : CacheEntry} :
    e ∈ (erase ⟨c.entries.filter (isLive now)⟩ key).entries ↔
      e ∈ c.entries ∧ now < e.expiresAt ∧ e.key ≠ key := by
  rw [mem_erase, List.mem_filter, isLive, decide_eq_true_eq, and_assoc]

/-- Writing for a time that a clock can say leaves the live entries under other keys, and the new
one. -/
theorem mem_set_iff {value : String} {ttl : Nat} (hend : ttl ≠ 0 → now + ttl < endOfTime)
    {e : CacheEntry} :
    e ∈ (c.set now key value ttl).entries ↔
      (e ∈ c.entries ∧ now < e.expiresAt ∧ e.key ≠ key) ∨
        (0 < ttl ∧ e = ⟨key, value, now + ttl⟩) := by
  rcases c.set_eq now key value ttl with ⟨rfl, h⟩ | ⟨httl, -, h⟩ | ⟨httl, hlate, -⟩
  · simp only [h, mem_live_erase, Nat.lt_irrefl, false_and, or_false]
  · simp only [h, List.mem_append, mem_live_erase, List.mem_singleton, Nat.pos_of_ne_zero httl,
      true_and]
  · exact absurd (hend httl) (Nat.not_lt.mpr hlate)

/-- Writing under another key drops no live entry, even if the call breaks off. -/
theorem mem_set_of_ne {value : String} {ttl : Nat} {e : CacheEntry} (he : e ∈ c.entries)
    (hlive : now < e.expiresAt) (hkey : e.key ≠ key) : e ∈ (c.set now key value ttl).entries := by
  have hkept := mem_live_erase.mpr ⟨he, hlive, hkey⟩
  rcases c.set_eq now key value ttl with ⟨-, hset⟩ | ⟨-, -, hset⟩ | ⟨-, -, hset⟩
  · rwa [hset]
  · rw [hset]
    exact List.mem_append_left _ hkept
  · rw [hset]
    exact (mem_erase.mp hkept).1

/-- An entry of a cache that was written to is an old one or the new one. -/
theorem mem_set {value : String} {ttl : Nat} {e : CacheEntry}
    (h : e ∈ (c.set now key value ttl).entries) :
    e ∈ c.entries ∨ e = ⟨key, value, now + ttl⟩ := by
  rcases c.set_eq now key value ttl with ⟨-, hset⟩ | ⟨-, -, hset⟩ | ⟨-, -, hset⟩
  · exact .inl (mem_live_erase.mp (hset ▸ h)).1
  · rw [hset, List.mem_append, List.mem_singleton, mem_live_erase] at h
    exact h.imp_left And.left
  · rw [hset] at h
    exact .inl (List.mem_filter.mp h).1

theorem HasOwnKeys.set (h : c.HasOwnKeys) (now : Nat) (key value : String) (ttl : Nat) :
    (c.set now key value ttl).HasOwnKeys := by
  have hlive : HasOwnKeys ⟨c.entries.filter (isLive now)⟩ := h.sublist List.filter_sublist
  have hrest : (erase ⟨c.entries.filter (isLive now)⟩ key).HasOwnKeys :=
    hlive.sublist List.filter_sublist
  rcases c.set_eq now key value ttl with ⟨-, hset⟩ | ⟨-, -, hset⟩ | ⟨-, -, hset⟩
  · rwa [hset]
  · rw [hset]
    exact nodup_map_append_singleton hrest fun e he => (mem_erase.mp he).2
  · rwa [hset]

/-- What is written for a time that a clock can say is found until its time has come. -/
theorem get_set {value : String} {ttl : Nat} (httl : ttl ≠ 0) (hend : now + ttl < endOfTime)
    {later : Nat} (hlive : later < now + ttl) :
    (c.set now key value ttl).get later key = (some value, c.set now key value ttl) := by
  rcases c.set_eq now key value ttl with ⟨hzero, -⟩ | ⟨-, -, hset⟩ | ⟨-, hlate, -⟩
  · exact absurd hzero httl
  · have hnone : (erase ⟨c.entries.filter (isLive now)⟩ key).entries.find? (·.key = key) =
        none := List.find?_eq_none.mpr fun e he => by simpa using (mem_erase.mp he).2
    have hfind : (c.set now key value ttl).entries.find? (·.key = key) =
        some ⟨key, value, now + ttl⟩ := by
      rw [hset, List.find?_append, hnone]
      simp
    simp only [get, hfind, isLive, decide_eq_true_eq, if_pos hlive]
  · exact absurd hend (Nat.not_lt.mpr hlate)

end MemoryCache

/-! ## A search -/

/-- The messages that the source gives have regular times. -/
def MessageSource.IsRegular (source : MessageSource) : Prop :=
  ∀ {predicates limit offset messages}, source.fetchPage predicates limit offset = .ok messages →
    ∀ m ∈ messages, m.sentAt.IsRegular

namespace SearchService

variable {σ : Type}

/-- So have those of a page that is fetched from it. -/
theorem isRegular_of_fetch {s : SearchService σ} (hsource : s.source.IsRegular) {userId : String}
    {query : Option ParsedQuery} {o : SearchOptions} {page : Page}
    (h : s.fetch userId query o = .ok page) : page.IsRegular := by
  obtain ⟨messages, hmessages, h⟩ := Outcome.bind_eq_ok h
  obtain ⟨total, -, h⟩ := Outcome.bind_eq_ok h
  cases h
  exact hsource hmessages

section Run

variable {s : SearchService σ} {now : Moment} {userId : String} {o : SearchOptions}
  {state state' : σ} {page : Page}

/-- A page that can be read from the cache is served. -/
theorem run_served (hread : s.readCache now.millis (s.key? userId o) state = (some page, state')) :
    s.run now userId o state =
      (.ok ⟨page, 0, [], o.queryText?.map (ParsedQuery.parse now.clock), true⟩, state') := by
  simp only [run, hread]

/-- Else a search fails with the source. -/
theorem run_failed (hread : s.readCache now.millis (s.key? userId o) state = (none, state'))
    {e : StoreError}
    (hfetch : s.fetch userId (o.queryText?.map (ParsedQuery.parse now.clock)) o = .error e) :
    s.run now userId o state = (.error (.store e), state') := by
  simp only [run, hread, hfetch]

/-- Else it gives the page of the source, and writes it. -/
theorem run_fresh (hread : s.readCache now.millis (s.key? userId o) state = (none, state'))
    (hfetch : s.fetch userId (o.queryText?.map (ParsedQuery.parse now.clock)) o = .ok page) :
    s.run now userId o state =
      (.ok ⟨page, 0, s.suggestionsFor userId o page,
          o.queryText?.map (ParsedQuery.parse now.clock), false⟩,
        s.writeCache now.millis (s.key? userId o) page state') := by
  simp only [run, hread, hfetch]

/-- So the outcome of a search that is not served is what comes of the page of the source. -/
theorem run_missed (hread : (s.readCache now.millis (s.key? userId o) state).1 = none) :
    (s.run now userId o state).1 =
      ((s.fetch userId (o.queryText?.map (ParsedQuery.parse now.clock)) o).map fun page =>
        ⟨page, 0, s.suggestionsFor userId o page,
          o.queryText?.map (ParsedQuery.parse now.clock), false⟩).mapError SearchError.store := by
  obtain ⟨left, hleft⟩ : ∃ left, s.readCache now.millis (s.key? userId o) state = (none, left) :=
    ⟨_, Prod.ext hread rfl⟩
  cases hfetch : s.fetch userId (o.queryText?.map (ParsedQuery.parse now.clock)) o with
  | error e =>
    rw [run_failed hleft hfetch]
    rfl
  | ok page =>
    rw [run_fresh hleft hfetch]
    rfl

end Run

variable {s : SearchService MemoryCache} {now : Nat} {key? : Option String} {c c' : MemoryCache}

/-- A page is served from a live entry under its key. -/
theorem readCache_eq_some (hs : s.cache = .memory) {page : Page}
    (h : s.readCache now key? c = (some page, c')) :
    c' = c ∧ ∃ e ∈ c.entries, key? = some e.key ∧ now < e.expiresAt ∧
      Page.decode? e.value = some page := by
  cases key? with
  | none => cases h
  | some key =>
    simp only [readCache, hs, CacheBackend.memory] at h
    rcases c.get_cases now key with ⟨e, he, rfl, hlive, hget⟩ | hget
    · simp only [hget, Prod.mk.injEq] at h
      obtain ⟨hpage, rfl⟩ := h
      exact ⟨rfl, e, he, rfl, hlive, hpage⟩
    · simp only [hget] at h
      cases h

/-- Where no page is served, none can be read from what is left under the key. -/
theorem readCache_eq_none (hs : s.cache = .memory) (hkeys : c.HasOwnKeys)
    (h : s.readCache now key? c = (none, c')) :
    c'.entries.Sublist c.entries ∧
      ∀ e ∈ c'.entries, key? = some e.key → Page.decode? e.value = none := by
  cases key? with
  | none =>
    cases h
    exact ⟨.refl _, fun e _ hkey => nomatch hkey⟩
  | some key =>
    simp only [readCache, hs, CacheBackend.memory] at h
    rcases c.get_cases now key with ⟨e, he, rfl, hlive, hget⟩ | hget
    · simp only [hget, Prod.mk.injEq] at h
      obtain ⟨hpage, rfl⟩ := h
      refine ⟨.refl _, fun x hx hkey => ?_⟩
      rw [hkeys.eq_of_key_eq hx he (Option.some.inj hkey).symm]
      exact hpage
    · simp only [hget, Prod.mk.injEq, true_and] at h
      subst h
      refine ⟨List.filter_sublist, fun x hx hkey => ?_⟩
      exact absurd (Option.some.inj hkey).symm (MemoryCache.mem_erase.mp hx).2

/-- After a page is written, an entry is an old one or holds the page. -/
theorem mem_writeCache (hs : s.cache = .memory) {page : Page} {e : CacheEntry}
    (h : e ∈ (s.writeCache now key? page c).entries) :
    e ∈ c.entries ∨
      (key? = some e.key ∧ e.value = page.encode ∧ e.expiresAt = now + s.ttl) := by
  unfold writeCache at h
  split at h
  · exact .inl h
  · split at h
    · exact .inl h
    · rw [hs] at h
      rcases MemoryCache.mem_set h with h | rfl
      · exact .inl h
      · exact .inr ⟨rfl, rfl, rfl⟩

/-- A page that is written for a time that a clock can say is served until its time has come, as it
is written. -/
theorem readCache_writeCache (hs : s.cache = .memory) (httl : s.ttl ≠ 0)
    (hend : now + s.ttl < MemoryCache.endOfTime) {later : Nat} (hlive : later < now + s.ttl)
    {page : Page} (htotal : page.total < Text.word64) (key : String) :
    s.readCache later (some key) (s.writeCache now (some key) page c) =
      (some page.carried, s.writeCache now (some key) page c) := by
  simp only [readCache, writeCache, if_neg httl, hs, CacheBackend.memory,
    MemoryCache.get_set httl hend hlive, Page.decode?_encode_self htotal]

theorem hasOwnKeys_writeCache (hs : s.cache = .memory) (hkeys : c.HasOwnKeys) (page : Page) :
    (s.writeCache now key? page c).HasOwnKeys := by
  unfold writeCache
  split
  · exact hkeys
  · split
    · exact hkeys
    · rw [hs]
      exact hkeys.set _ _ _ _

end SearchService

end MailSearch
