import MailSearch.Proofs.Search.Paging

/-!
# Pages past the end

A page that starts after the last message that a search selects is empty, while the total still is
the number of those messages. This holds of the offsets that can be said to the store, the signed
numbers of 64 bits, and of no other: `SearchService.past_end_iff`. A larger offset counts as none
(`pageOf_beyond`), so that its page is the first one: `SearchService.offset_beyond_starts_again`.
-/

namespace MailSearch

open Calendar Text

/-! ## Empty pages -/

section Pages

variable {α : Type} {limit offset : Nat} {items : List α}

/-- An offset that a page cannot say is none. -/
theorem pageOf_beyond (h : maxInt64 < offset) :
    pageOf limit offset items = pageOf limit 0 items := by
  unfold pageOf
  rw [if_neg (Nat.not_le.mpr h), if_pos (Nat.zero_le _), List.drop_zero]

/-- A page that starts at the end or after it is empty if its offset can be said. Else it is the
first page. -/
theorem pageOf_eq_nil_iff (h : items.length ≤ offset) :
    pageOf limit offset items = [] ↔ offset ≤ maxInt64 ∨ limit = 0 ∨ items = [] := by
  by_cases hoffset : offset ≤ maxInt64
  · have hnil : items.drop offset = [] := List.drop_eq_nil_iff.mpr h
    unfold pageOf
    rw [if_pos hoffset, hnil]
    simp [hoffset]
  · rw [pageOf_beyond (Nat.lt_of_not_le hoffset)]
    simp only [hoffset, false_or]
    constructor
    · intro hpage
      by_contra hne
      obtain ⟨hlimit, hitems⟩ := not_or.mp hne
      exact pageOf_ne_nil (Nat.pos_of_ne_zero hlimit) hitems hpage
    · rintro (rfl | rfl)
      · simp [pageOf]
      · simp [pageOf]

end Pages

/-! ## The store -/

namespace Store

variable {s : Store}

/-- What is read of a page is empty exactly if the page is. -/
theorem Takes.find_eq_nil_iff_pageOf {set : PredicateSet} (h : s.Takes set) {limit offset : Nat} :
    s.find set.clause limit offset = .ok [] ↔
      pageOf limit offset ((s.messages.filter (s.keeps set)).mergeSort newestFirst) = [] := by
  rw [h.find]
  generalize pageOf limit offset ((s.messages.filter (s.keeps set)).mergeSort newestFirst) = rows
  constructor
  · intro hread
    obtain ⟨messages, hmessages, hread⟩ := Outcome.bind_eq_ok hread
    have hempty := Outcome.length_of_mapM_eq_ok hread
    rw [List.length_nil] at hempty
    rw [← List.length_eq_zero_iff, ← Outcome.length_of_mapM_eq_ok hmessages, ← hempty]
  · rintro rfl
    rfl

theorem length_kept (s : Store) (set : PredicateSet) :
    ((s.messages.filter (s.keeps set)).mergeSort newestFirst).length = s.selectedCount set := by
  rw [List.length_mergeSort, selectedCount, List.countP_eq_length_filter]

/-- When what is read of a page behind the last message is empty. -/
theorem Takes.find_eq_nil_iff {set : PredicateSet} (h : s.Takes set) {limit offset : Nat}
    (hoffset : s.selectedCount set ≤ offset) :
    s.find set.clause limit offset = .ok [] ↔
      offset ≤ maxInt64 ∨ limit = 0 ∨ s.selectedCount set = 0 := by
  have hlength := s.length_kept set
  rw [h.find_eq_nil_iff_pageOf, ← hlength, List.length_eq_zero_iff,
    ← pageOf_eq_nil_iff (hlength ▸ hoffset)]

end Store

theorem Database.find_eq_nil_iff (calls : List StoreCall) {set : PredicateSet}
    (htaken : ¬ (after calls).Refuses set) {limit offset : Nat}
    (hoffset : (after calls).selectedCount set ≤ offset) :
    (after calls).find set.clause limit offset = .ok [] ↔
      offset ≤ maxInt64 ∨ limit = 0 ∨ (after calls).selectedCount set = 0 := by
  obtain ⟨s, hs, -, htakes⟩ := exists_takes calls htaken
  rw [selectedCount_eq hs] at hoffset
  rw [find_eq hs, selectedCount_eq hs]
  exact htakes.find_eq_nil_iff hoffset

/-! ## Searches -/

/-- The number of stored messages that a search selects. -/
def Database.total (db : Database) (clock : Timestamp) (userId : String) (o : SearchOptions) :
    Nat :=
  db.selectedCount (o.predicates clock userId)

namespace SearchService

variable {σ : Type} {s : SearchService σ} {now : Moment} {userId : String} {o : SearchOptions}

/-- A search that is not served gives what the source has. -/
theorem run_page_iff {state : σ} {page : Page}
    (hfresh : (s.readCache now.millis (s.key? userId o) state).1 = none) :
    (∃ result state', s.run now userId o state = (.ok result, state') ∧ result.page = page) ↔
      s.fetch userId (o.queryText?.map (ParsedQuery.parse now.clock)) o = .ok page := by
  obtain ⟨state', hread⟩ : ∃ state',
      s.readCache now.millis (s.key? userId o) state = (none, state') := ⟨_, Prod.ext hfresh rfl⟩
  constructor
  · rintro ⟨result, _, hrun, rfl⟩
    cases hfetch : s.fetch userId (o.queryText?.map (ParsedQuery.parse now.clock)) o with
    | error e =>
      rw [run_failed hread hfetch] at hrun
      cases hrun
    | ok page =>
      rw [run_fresh hread hfetch] at hrun
      cases hrun
      rfl
  · intro hfetch
    exact ⟨_, _, run_fresh hread hfetch, rfl⟩

/-- What a service fetches is a page of its database, with the count of all messages. -/
theorem fetch_eq_ok_iff {db : Database} (hsource : s.source = db.source) {clock : Timestamp}
    {page : Page} :
    s.fetch userId (o.queryText?.map (ParsedQuery.parse clock)) o = .ok page ↔
      db.find (o.predicates clock userId).clause (s.limit o) o.offset = .ok page.messages ∧
        db.count (o.predicates clock userId).clause = .ok page.total := by
  have hset : PredicateSet.compile userId (o.queryText?.map (ParsedQuery.parse clock)) o =
      o.predicates clock userId := rfl
  rw [fetch, hsource, hset]
  simp only [Database.source]
  constructor
  · intro h
    obtain ⟨messages, hmessages, h⟩ := Outcome.bind_eq_ok h
    obtain ⟨total, htotal, h⟩ := Outcome.bind_eq_ok h
    cases h
    exact ⟨hmessages, htotal⟩
  · rintro ⟨hmessages, htotal⟩
    rw [hmessages, htotal]
    rfl

/-- **Past the end.** After any calls on a new database, let a search that the engine does not
refuse ask for a page that starts at the number of messages that it selects, or after it. Every
count of the messages is that number. A page of the store is empty, and so is that of a search that
is not served from the cache, with the number as its total, if the offset is a signed number of 64
bits. Else they are empty only if there is nothing to show. -/
theorem past_end_iff (calls : List StoreCall) (hsource : s.source = (Database.after calls).source)
    (now : Moment) (userId : String) (o : SearchOptions)
    (htaken : ¬ (Database.after calls).Refuses (o.predicates now.clock userId))
    (hoffset : (Database.after calls).total now.clock userId o ≤ o.offset) :
    (Database.after calls).count (o.predicates now.clock userId).clause =
        .ok ((Database.after calls).total now.clock userId o) ∧
      (∀ limit, (Database.after calls).find (o.predicates now.clock userId).clause limit o.offset =
          .ok [] ↔
        o.offset ≤ maxInt64 ∨ limit = 0 ∨ (Database.after calls).total now.clock userId o = 0) ∧
      ∀ state, (s.readCache now.millis (s.key? userId o) state).1 = none →
        ((∃ result state', s.run now userId o state = (.ok result, state') ∧
            result.page = ⟨[], (Database.after calls).total now.clock userId o⟩) ↔
          o.offset ≤ maxInt64 ∨ (Database.after calls).total now.clock userId o = 0) := by
  have hcount := Database.count_after calls htaken
  refine ⟨hcount, fun limit => Database.find_eq_nil_iff calls htaken hoffset,
    fun state hfresh => ?_⟩
  have hlimit : s.limit o ≠ 0 := Nat.ne_of_gt (s.limit_pos o)
  rw [run_page_iff hfresh, fetch_eq_ok_iff hsource, Database.find_eq_nil_iff calls htaken hoffset,
    Database.total, and_iff_left hcount, or_iff_right hlimit]

/-! ## One message -/

theorem predicates_sample (offset : Nat) :
    { sampleOptions with offset }.predicates sampleCalls.message.sentAt "user-1" =
      samplePredicates := by
  have hquery : { sampleOptions with offset }.queryText? = sampleOptions.queryText? := rfl
  rw [SearchOptions.predicates, hquery, queryText_sample]
  rfl

/-- A search counts the message of the sample if it selects it. -/
theorem selectedCount_sampleStore (set : PredicateSet) : sampleStore.selectedCount set =
    if sampleStore.selects set sampleCalls.message then 1 else 0 := by
  have hkeeps : sampleStore.keeps set (MessageRow.ofMessage sampleCalls.message) =
      sampleStore.selects set sampleCalls.message := rfl
  rw [Store.selectedCount, messages_sampleStore, List.map_singleton, List.countP_singleton, hkeeps]

/-- A search that finds the one message of the sample. -/
theorem total_sample (offset : Nat) : (Database.after sampleCalls).total
    sampleCalls.message.sentAt "user-1" { sampleOptions with offset } = 1 := by
  have hselects := selects_sample _ (List.mem_singleton_self sampleCalls.message)
  have htotal : (Database.after sampleCalls).selectedCount samplePredicates =
      sampleStore.selectedCount samplePredicates := rfl
  rw [Database.total, predicates_sample, htotal, selectedCount_sampleStore, if_pos hselects]

/-- The page after the message is empty. -/
theorem past_end_sample :
    ∃ result state', sampleUncached.run ⟨sampleCalls.message.sentAt, 0⟩ "user-1"
      { sampleOptions with offset := 1 } {} = (.ok result, state') ∧ result.page = ⟨[], 1⟩ := by
  have htotal := total_sample 1
  have htaken : ¬ (Database.after sampleCalls).Refuses
      ({ sampleOptions with offset := 1 }.predicates sampleCalls.message.sentAt "user-1") := by
    rw [predicates_sample]
    exact fun hrefuses => hrefuses.1 fits_sample
  obtain ⟨-, -, hsearch⟩ := past_end_iff (s := sampleUncached) sampleCalls rfl
    ⟨sampleCalls.message.sentAt, 0⟩ "user-1" { sampleOptions with offset := 1 } htaken
    (Nat.le_of_eq htotal)
  rw [htotal] at hsearch
  exact (hsearch {} rfl).mpr (.inl (by decide))

/-- At an offset of 2⁶³, the first page is shown again. -/
theorem offset_beyond_starts_again :
    ∃ result state', sampleUncached.run ⟨sampleCalls.message.sentAt, 0⟩ "user-1"
        { sampleOptions with offset := 2 ^ 63 } {} = (.ok result, state') ∧
      result.page = ⟨[sampleCalls.message], 1⟩ := by
  obtain ⟨hfind, hcount⟩ := takes_sample.find_eq_ok faithful_sampleStore
    hasPlainYears_sampleStore messages_sampleStore isRegular_sample selects_sample 20 (2 ^ 63)
  rw [found_sample] at hfind hcount
  have hsource : sampleUncached.source = (Database.after sampleCalls).source := rfl
  rw [run_page_iff rfl, fetch_eq_ok_iff hsource, predicates_sample]
  exact ⟨hfind, hcount⟩

end SearchService

end MailSearch
