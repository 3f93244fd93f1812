import MailSearch.Proofs.Search.Suggestions

/-!
# The list of suggestions

How the suggestions for a query are listed, for any source.

* `everySuggestion`: the list without its limit. `suggest_eq_take`: the suggestions are the first of
  it.
* `InGroups`: senders, then subjects, then rewrites of the query. `take_candidates_inGroups`: the
  first candidates stand so.
* `sender_mem_take`: a sender that contains the query is only left out for senders before it.
* `suggest_listing`: all this of the suggestions.
-/

namespace MailSearch

open Text

/-! ## Groups -/

/-- The texts are senders, then subjects, then rewrites of the query, each in the order of those
that there are for the query. -/
def InGroups (query : String) (senders subjects : List ValueCount) (texts : List String) : Prop :=
  ∃ froms abouts others : List String,
    texts = froms.map suggestSender ++ abouts.map suggestSubject ++ others ∧
      froms.Sublist (matchingValues query senders) ∧
      abouts.Sublist (matchingValues query subjects) ∧ others.Sublist (rewrites query)

section Candidates

variable {query : String} {senders subjects : List ValueCount}

theorem InGroups.of_sublist {texts : List String}
    (h : texts.Sublist ((matchingValues query senders).map suggestSender ++
      (matchingValues query subjects).map suggestSubject ++ rewrites query)) :
    InGroups query senders subjects texts := by
  obtain ⟨values, others, rfl, hvalues, hothers⟩ := List.sublist_append_iff.mp h
  obtain ⟨firsts, seconds, rfl, hfirsts, hseconds⟩ := List.sublist_append_iff.mp hvalues
  obtain ⟨froms, hfroms, rfl⟩ := List.sublist_map_iff.mp hfirsts
  obtain ⟨abouts, habouts, rfl⟩ := List.sublist_map_iff.mp hseconds
  exact ⟨froms, abouts, others, rfl, hfroms, habouts, hothers⟩

theorem take_candidates_inGroups (max : Nat) :
    InGroups query senders subjects ((candidates query senders subjects).take max) :=
  .of_sublist ((List.take_sublist _ _).trans (eraseDups_sublist _))

/-- A sender that contains the query is among the first candidates, if few such senders rank before
it. -/
theorem sender_mem_take {before after : List ValueCount} {v : ValueCount} {max : Nat}
    (hv : containsFolded v.value query = true)
    (hbefore : (matchingValues query before).eraseDups.length < max) :
    suggestSender v.value ∈ (candidates query (before ++ v :: after) subjects).take max := by
  have hmatching : matchingValues query (before ++ v :: after) =
      matchingValues query before ++ v.value :: matchingValues query after := by
    simp only [matchingValues, List.map_append, List.map_cons, List.filter_append, List.filter_cons,
      hv, if_true]
  rw [candidates, hmatching, List.map_append, List.map_cons, List.append_assoc, List.append_assoc,
    List.cons_append]
  exact mem_take_eraseDups (Nat.lt_of_le_of_lt (length_eraseDups_map_le _ _) hbefore)

end Candidates

/-! ## Suggestions -/

/-- All suggestions for a query, however many are allowed. -/
def everySuggestion (source : MessageSource) (userId query : String) (poolSize : Nat) :
    List String :=
  if trimString query = "" then []
  else
    match source.topSenders userId poolSize, source.topSubjects userId poolSize with
    | .ok senders, .ok subjects => candidates (trimString query) senders subjects
    | _, _ => []

section Listing

variable {source : MessageSource} {userId query : String} {poolSize : Nat}

/-- The suggestions are the first of them. -/
theorem suggest_eq_take (source : MessageSource) (userId query : String)
    (config : SuggestionConfig) : suggest source userId query config =
      (everySuggestion source userId query config.poolSize).take config.maxSuggestions := by
  unfold suggest everySuggestion
  by_cases hquery : trimString query = ""
  · rw [if_pos (.inl hquery), if_pos hquery, List.take_nil]
  · rw [if_neg hquery]
    by_cases hmax : config.maxSuggestions = 0
    · rw [if_pos (.inr hmax), hmax, List.take_zero]
    · rw [if_neg (not_or.mpr ⟨hquery, hmax⟩)]
      simp only
      cases source.topSenders userId config.poolSize with
      | error e => exact List.take_nil.symm
      | ok senders =>
        cases source.topSubjects userId config.poolSize with
        | error e => exact List.take_nil.symm
        | ok subjects => rfl

theorem nodup_everySuggestion : (everySuggestion source userId query poolSize).Nodup := by
  unfold everySuggestion
  split
  · exact List.nodup_nil
  · split
    · exact nodup_eraseDups _
    · exact List.nodup_nil

theorem everySuggestion_of_error {e : StoreError}
    (h : source.topSenders userId poolSize = .error e ∨
      source.topSubjects userId poolSize = .error e) :
    everySuggestion source userId query poolSize = [] := by
  unfold everySuggestion
  split
  · rfl
  · split
    · rename_i hsenders hsubjects
      rcases h with h | h
      · cases hsenders.symm.trans h
      · cases hsubjects.symm.trans h
    · rfl

theorem everySuggestion_of_ok {senders subjects : List ValueCount}
    (hsenders : source.topSenders userId poolSize = .ok senders)
    (hsubjects : source.topSubjects userId poolSize = .ok subjects)
    (hquery : trimString query ≠ "") : everySuggestion source userId query poolSize =
      candidates (trimString query) senders subjects := by
  simp only [everySuggestion, if_neg hquery, hsenders, hsubjects]

/-- How suggestions are listed, where `list` gives those for a number that is allowed. -/
structure IsListing (source : MessageSource) (userId query : String) (poolSize : Nat)
    (list : Nat → List String) : Prop where
  /-- No suggestion is made twice. -/
  distinct : ∀ max, (list max).Nodup
  /-- There are no more than allowed. -/
  length_le : ∀ max, (list max).length ≤ max
  /-- Where fewer are allowed, the list is the first part of a longer one. -/
  first : ∀ m n, m ≤ n → list m <+: list n
  /-- Where the source fails, there are none. -/
  failed : ∀ e, source.topSenders userId poolSize = .error e ∨
    source.topSubjects userId poolSize = .error e → ∀ max, list max = []
  /-- Senders stand before subjects and subjects before rewrites, each in their order. -/
  grouped : ∀ senders subjects, source.topSenders userId poolSize = .ok senders →
    source.topSubjects userId poolSize = .ok subjects →
      ∀ max, InGroups (trimString query) senders subjects (list max)
  /-- For a query that is not blank, a sender that contains it is there, if fewer senders that do
  rank before it than are allowed. Where the source gives a sender twice, it counts once. -/
  senders : ∀ before v after subjects,
    source.topSenders userId poolSize = .ok (before ++ v :: after) →
    source.topSubjects userId poolSize = .ok subjects → trimString query ≠ "" →
    containsFolded v.value (trimString query) = true →
      ∀ max, (matchingValues (trimString query) before).eraseDups.length < max →
        suggestSender v.value ∈ list max

/-- **The list of suggestions.** For any source, user, query and pool, suggestions are listed so. -/
theorem suggest_listing (source : MessageSource) (userId query : String) (poolSize : Nat) :
    IsListing source userId query poolSize
      fun max => suggest source userId query ⟨poolSize, max⟩ := by
  simp only [suggest_eq_take]
  constructor
  case distinct => exact fun max => nodup_everySuggestion.sublist (List.take_sublist _ _)
  case length_le => exact fun max => List.length_take_le _ _
  case first => exact fun m n hmn => List.take_prefix_take_left hmn
  case failed =>
    intro e herror max
    rw [everySuggestion_of_error herror, List.take_nil]
  case grouped =>
    intro senders subjects hsenders hsubjects max
    by_cases hquery : trimString query = ""
    · rw [everySuggestion, if_pos hquery, List.take_nil]
      exact .of_sublist (List.nil_sublist _)
    · rw [everySuggestion_of_ok hsenders hsubjects hquery]
      exact take_candidates_inGroups max
  case senders =>
    intro before v after subjects hsenders hsubjects hquery hv max hbefore
    rw [everySuggestion_of_ok hsenders hsubjects hquery]
    exact sender_mem_take hv hbefore

end Listing

/-! ## A sender and a blank query -/

theorem topSenders_sample :
    (Database.after sampleCalls).source.topSenders "user-1" 10 = .ok [⟨"Bob@example.com", 1⟩] :=
  SearchService.topValues_singleton sampleStore rfl (by decide)

theorem topSubjects_sample :
    (Database.after sampleCalls).source.topSubjects "user-1" 10 = .ok [⟨"Quarterly report", 1⟩] :=
  SearchService.topValues_singleton sampleStore rfl (by decide)

/-- The sender of the sample is suggested where one suggestion is allowed. -/
theorem suggest_listing_sample : suggestSender "Bob@example.com" ∈
    suggest (Database.after sampleCalls).source "user-1" " BOB " ⟨10, 1⟩ :=
  (suggest_listing (Database.after sampleCalls).source "user-1" " BOB " 10).senders [] _ [] _
    topSenders_sample topSubjects_sample (by decide) (by decide) 1 (by decide)

/-- Every sender contains a blank query, but none is suggested for it. -/
theorem blank_query_without_senders :
    (Database.after sampleCalls).source.topSenders "user-1" 10 =
        .ok ([] ++ ⟨"Bob@example.com", 1⟩ :: []) ∧
      containsFolded "Bob@example.com" (trimString "  ") = true ∧
      (matchingValues (trimString "  ") []).length < 1 ∧
      suggestSender "Bob@example.com" ∉
        suggest (Database.after sampleCalls).source "user-1" "  " ⟨10, 1⟩ := by
  have hquery : trimString "  " = "" := by decide
  refine ⟨topSenders_sample, by decide, by decide, ?_⟩
  rw [suggest_eq_take, everySuggestion, if_pos hquery]
  exact List.not_mem_nil

end MailSearch
