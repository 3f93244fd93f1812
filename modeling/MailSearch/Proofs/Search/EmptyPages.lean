import MailSearch.Proofs.Search.AddedTerms
import MailSearch.Proofs.Search.Negation
import MailSearch.Proofs.Search.Suggestions

/-!
# Suggestions on empty pages

A search makes suggestions if its page is empty. On a first page nothing is selected then. On a
later page this only says that the page starts behind the last message:
`SearchService.suggestions_behind_messages`. A search that finds a message makes suggestions behind
it: `SearchService.suggestions_despite_message`.
-/

namespace MailSearch

open Calendar Text

/-! ## Empty pages -/

/-- An empty page starts behind the last item. -/
theorem length_le_of_pageOf_eq_nil {α : Type} {limit offset : Nat} {items : List α}
    (hlimit : 0 < limit) (h : pageOf limit offset items = []) : items.length ≤ offset := by
  by_cases hoffset : offset ≤ maxInt64
  · by_contra hlength
    have hpage : pageOf limit offset items = pageOf limit 0 (items.drop offset) := by
      unfold pageOf
      rw [if_pos hoffset, if_pos (Nat.zero_le _), List.drop_zero]
    have hrest : items.drop offset ≠ [] := fun hnil => hlength (List.drop_eq_nil_iff.mp hnil)
    exact pageOf_ne_nil hlimit hrest (hpage ▸ h)
  · rw [pageOf_beyond (Nat.lt_of_not_le hoffset)] at h
    have hnil : items = [] := by
      by_contra hne
      exact pageOf_ne_nil hlimit hne h
    rw [hnil]
    exact Nat.zero_le _

theorem Store.Takes.selectedCount_le_of_find {s : Store} {set : PredicateSet} (h : s.Takes set)
    {limit offset : Nat} (hlimit : 0 < limit) (hfind : s.find set.clause limit offset = .ok []) :
    s.selectedCount set ≤ offset := by
  rw [← s.length_kept set]
  exact length_le_of_pageOf_eq_nil hlimit (h.find_eq_nil_iff_pageOf.mp hfind)

namespace Database

theorem selectedCount_le_of_find (calls : List StoreCall) {set : PredicateSet} {limit offset : Nat}
    (hlimit : 0 < limit) (hfind : (after calls).find set.clause limit offset = .ok []) :
    (after calls).selectedCount set ≤ offset := by
  obtain ⟨s, hs, hf⟩ := faithful_after calls
  rw [find_eq hs] at hfind
  rw [selectedCount_eq hs]
  exact (hf.takes_of_find hfind).selectedCount_le_of_find hlimit hfind

/-- The count of the selected messages is zero if there is none. -/
theorem selectedCount_eq_zero_iff (calls : List StoreCall) {set : PredicateSet} :
    (after calls).selectedCount set = 0 ↔ ∀ m, ¬ (after calls).Selects set m := by
  obtain ⟨s, hs, hf⟩ := faithful_after calls
  simp only [selectedCount, Selects, hs, Option.map_some, Option.getD_some, Option.some.injEq,
    exists_eq_left', Store.selectedCount, List.countP_eq_zero]
  constructor
  · rintro h m ⟨hm, hselects⟩
    exact h _ hm hselects
  · intro h row hrow hkeeps
    obtain ⟨m, rfl⟩ := hf.exists_message hrow
    exact h m ⟨hrow, hkeeps⟩

end Database

/-! ## Searches -/

/-- A plain text always has other ways to search for it. -/
theorem suggest_ne_nil {source : MessageSource} {userId query : String} {config : SuggestionConfig}
    {senders subjects : List ValueCount}
    (hsenders : source.topSenders userId config.poolSize = .ok senders)
    (hsubjects : source.topSubjects userId config.poolSize = .ok subjects)
    (hmax : config.maxSuggestions ≠ 0) (hne : trimString query ≠ "")
    (hcolon : ':' ∉ (trimString query).toList) : suggest source userId query config ≠ [] := by
  have hrewrites : "from:" ++ trimString query ∈ rewrites (trimString query) := by
    simp [rewrites, hcolon]
  have hcandidates : candidates (trimString query) senders subjects ≠ [] :=
    List.ne_nil_of_mem (List.mem_eraseDups.mpr (List.mem_append_right _ hrewrites))
  have hany : ¬ (trimString query = "" ∨ config.maxSuggestions = 0) := not_or.mpr ⟨hne, hmax⟩
  simp only [suggest, hsenders, hsubjects, if_neg hany]
  exact fun hnil => (List.take_eq_nil_iff.mp hnil).elim hmax hcandidates

namespace SearchService

variable {σ : Type} {s : SearchService σ} {now : Moment} {userId : String} {o : SearchOptions}

/-- A search that makes suggestions has fetched an empty page. -/
theorem fetch_of_suggestions {state state' : σ} {result : SearchResult}
    (hrun : s.run now userId o state = (.ok result, state')) (hne : result.suggestions ≠ []) :
    result.page.messages = [] ∧
      s.fetch userId (o.queryText?.map (ParsedQuery.parse now.clock)) o = .ok result.page := by
  cases hread : s.readCache now.millis (s.key? userId o) state with
  | mk page? left =>
    cases page? with
    | some page =>
      rw [run_served hread] at hrun
      cases hrun
      exact absurd rfl hne
    | none =>
      cases hfetch : s.fetch userId (o.queryText?.map (ParsedQuery.parse now.clock)) o with
      | error e =>
        rw [run_failed hread hfetch] at hrun
        cases hrun
      | ok page =>
        rw [run_fresh hread hfetch] at hrun
        cases hrun
        refine ⟨?_, rfl⟩
        by_contra hmessages
        refine hne ?_
        simp only [suggestionsFor, List.isEmpty_iff, hmessages, if_false]
        split <;> rfl

/-- **Suggestions behind the last message.** After any calls on a new database, if a search makes
suggestions, its page is empty, and its total is at most its offset. So the total is zero on a first
page. It is zero exactly if the search selects no message. -/
theorem suggestions_behind_messages (calls : List StoreCall)
    (hsource : s.source = (Database.after calls).source) {state state' : σ} {result : SearchResult}
    (hrun : s.run now userId o state = (.ok result, state')) (hne : result.suggestions ≠ []) :
    result.page.messages = [] ∧ result.page.total ≤ o.offset ∧
      (result.page.total = 0 ↔
        ∀ m, ¬ (Database.after calls).Selects (o.predicates now.clock userId) m) := by
  obtain ⟨hempty, hfetch⟩ := fetch_of_suggestions hrun hne
  obtain ⟨hfind, hcount⟩ := (fetch_eq_ok_iff hsource).mp hfetch
  rw [hempty] at hfind
  rw [Database.count_of_ok hcount]
  exact ⟨hempty, Database.selectedCount_le_of_find calls (s.limit_pos o) hfind,
    Database.selectedCount_eq_zero_iff calls⟩

/-! ## One message -/

/-- The message of the sample counts if the predicates of a search that fits hold of it. -/
theorem selectedCount_sample {set : PredicateSet} (hfits : set.Fits)
    (hset : ∀ p ∈ set.toList, p.IsComparable ∧ p.HasNoEmptyText) :
    (Database.after sampleCalls).selectedCount set =
      if set.holds sampleCalls.message then 1 else 0 := by
  have hrows := faithful_sampleStore.attachmentsOf_full sampleCalls.message
  have hselects := faithful_sampleStore.selects_eq hfits.patterns sampleCalls.message
  rw [full_sampleStore] at hrows hselects
  rw [PredicateSet.storeHolds_eq_holds hrows (by decide) (by decide) hasPlainTexts_sample hset]
    at hselects
  rw [← hselects]
  exact selectedCount_sampleStore set

theorem of_nonBlank?_eq_self {word : String} (h : SearchOptions.nonBlank? word = some word) :
    word ≠ "" ∧ trimString word = word := by
  unfold SearchOptions.nonBlank? at h
  split at h
  · cases h
  · rename_i hblank
    exact ⟨fun hempty => hblank (by rw [hempty]; rfl), Option.some.inj h⟩

section Word

variable {word : String} (hword : (Token.word word.toList).Grammatical)
  (hquery : SearchOptions.nonBlank? word = some word)
include hword hquery

variable (hplain : IsPlain word.toList)
  (hfits : (⟨"user-1", [.mentions [word]]⟩ : PredicateSet).Fits) {offset total : Nat}
  (htotal : (if (⟨"user-1", [.mentions [word]]⟩ : PredicateSet).holds sampleCalls.message
    then 1 else 0) = total)
  (hle : total ≤ offset) (hoffset : offset ≤ maxInt64)
include hplain hfits htotal hle hoffset

/-- Behind what a search for a word finds, the page is empty. -/
theorem fetch_word : sampleUncached.fetch "user-1" ((wordOptions word offset).queryText?.map
    (ParsedQuery.parse sampleCalls.message.sentAt)) (wordOptions word offset) =
      .ok ⟨[], total⟩ := by
  have hne : word ≠ "" := (of_nonBlank?_eq_self hquery).1
  have hset : ∀ p ∈ (⟨"user-1", [.mentions [word]]⟩ : PredicateSet).toList,
      p.IsComparable ∧ p.HasNoEmptyText := by
    refine List.forall_mem_cons.mpr ⟨⟨trivial, trivial⟩, List.forall_mem_singleton.mpr ⟨?_, ?_⟩⟩
    · exact List.forall_mem_singleton.mpr hplain
    · exact fun hempty => hne (List.mem_singleton.mp hempty).symm
  have hcount := (selectedCount_sample hfits hset).trans htotal
  have htaken : ¬ (Database.after sampleCalls).Refuses ⟨"user-1", [.mentions [word]]⟩ :=
    fun hrefuses => hrefuses.1 hfits
  have hsource : sampleUncached.source = (Database.after sampleCalls).source := rfl
  rw [fetch_eq_ok_iff hsource, predicates_word hword hquery, Database.count_after _ htaken, hcount]
  exact ⟨(Database.find_eq_nil_iff sampleCalls htaken (hcount ▸ hle)).mpr (.inl hoffset), rfl⟩

/-- So the search makes suggestions. -/
theorem run_word (hcolon : ':' ∉ word.toList) :
    ∃ result state', sampleUncached.run ⟨sampleCalls.message.sentAt, 0⟩ "user-1"
        (wordOptions word offset) {} = (.ok result, state') ∧
      result.suggestions ≠ [] ∧ result.page.total = total := by
  have htext : (wordOptions word offset).queryText? = some word := hquery
  have hread : sampleUncached.readCache 0
      (sampleUncached.key? "user-1" (wordOptions word offset)) {} = (none, {}) := by
    cases sampleUncached.key? "user-1" (wordOptions word offset) <;> rfl
  have hsenders : sampleUncached.source.topSenders "user-1" 10 = .ok [⟨"Bob@example.com", 1⟩] :=
    topValues_singleton sampleStore rfl (by decide)
  have hsubjects : sampleUncached.source.topSubjects "user-1" 10 = .ok [⟨"Quarterly report", 1⟩] :=
    topValues_singleton sampleStore rfl (by decide)
  have hfetch := fetch_word hword hquery hplain hfits htotal hle hoffset
  refine ⟨_, _, run_fresh hread hfetch, ?_, rfl⟩
  obtain ⟨hne, htrim⟩ := of_nonBlank?_eq_self hquery
  rw [← htrim] at hne hcolon
  simp only [suggestionsFor, htext, List.isEmpty_nil, if_true]
  exact suggest_ne_nil hsenders hsubjects (by decide) hne hcolon

end Word

/-- The first page of a search that finds nothing. -/
theorem suggestions_behind_sample :
    ∃ result state', sampleUncached.run ⟨sampleCalls.message.sentAt, 0⟩ "user-1"
        (wordOptions "invoice" 0) {} = (.ok result, state') ∧ result.suggestions ≠ [] ∧
      ∀ m, ¬ (Database.after sampleCalls).Selects
        ((wordOptions "invoice" 0).predicates sampleCalls.message.sentAt "user-1") m := by
  have hword : (Token.word "invoice".toList).Grammatical := .word_of_letters (by decide) (by decide)
  have hquery : SearchOptions.nonBlank? "invoice" = some "invoice" := by decide
  have hmissed : ¬ (⟨"user-1", [.mentions ["invoice"]]⟩ : PredicateSet).holds sampleCalls.message =
      true := by decide
  obtain ⟨result, state', hrun, hne, -⟩ :=
    run_word hword hquery (by decide) (by decide +kernel) (if_neg hmissed) (Nat.le_refl 0)
      (by decide) (by decide)
  obtain ⟨-, hle, hnone⟩ := suggestions_behind_messages sampleCalls rfl hrun hne
  exact ⟨result, state', hrun, hne, hnone.mp (Nat.le_zero.mp hle)⟩

/-- **A later page.** The search finds one message. Behind it the page is empty, and there are
suggestions, though the total is one. -/
theorem suggestions_despite_message :
    ∃ result state', sampleUncached.run ⟨sampleCalls.message.sentAt, 0⟩ "user-1"
        (wordOptions "report" 1) {} = (.ok result, state') ∧ result.suggestions ≠ [] ∧
      result.page.total = 1 := by
  have hword : (Token.word "report".toList).Grammatical := .word_of_letters (by decide) (by decide)
  have hquery : SearchOptions.nonBlank? "report" = some "report" := by decide
  have hholds : (⟨"user-1", [.mentions ["report"]]⟩ : PredicateSet).holds sampleCalls.message =
      true := by decide
  exact run_word hword hquery (by decide) (by decide +kernel) (if_pos hholds) (Nat.le_refl 1)
    (by decide) (by decide)

end SearchService

end MailSearch
