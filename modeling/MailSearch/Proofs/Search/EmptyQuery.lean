import MailSearch.Proofs.Query.Emptiness
import MailSearch.Proofs.Search.Selected

/-!
# Searches with an empty query

A query that asks for nothing adds no predicate to a search (`PredicateSet.compile_of_isEmpty`), and
neither do options without a filter (`PredicateSet.compile_eq_forUser_iff`). What is left is the
owner, so that the search finds what the user has.

* `Database.exists_shows_forUser`: a search for the owner only shows the messages of the user.
* `Database.empty_query_finds_all`: a query whose terms were all set aside finds all messages of the
  user.
-/

namespace MailSearch

open Calendar

/-! ## Predicates that are left out -/

/-- No filter is set: each one is missing, blank or a list without a value. -/
structure SearchOptions.Unfiltered (o : SearchOptions) : Prop where
  accountIds : o.accountIds.getD [] = []
  fromEmail : o.fromEmail.bind nonBlank? = none
  subject : o.subject.bind nonBlank? = none
  dateFrom : o.dateFrom = none
  dateTo : o.dateTo = none
  hasAttachments : o.hasAttachments = none
  isRead : o.isRead = none
  isStarred : o.isStarred = none
  labels : o.labels.getD [] = []

namespace Predicate

theorem given_eq_nil_iff {α : Type} {values : List α} {make : List α → Predicate} :
    given values make = [] ↔ values = [] := by
  cases values <;> simp [given]

theorem ofBounds_eq_nil_iff {after before : Option Timestamp} :
    ofBounds after before = [] ↔ after = none ∧ before = none := by
  cases after <;> cases before <;> simp [ofBounds]

theorem ofQuery_empty (olderThan newerThan : Option String) (ignored : List String) :
    ofQuery { olderThan, newerThan, ignored } = [] := by
  unfold ofQuery
  simp only [given, List.isEmpty_nil, if_true, List.any_nil, Bool.false_eq_true, if_false,
    List.filterMap_nil, Option.map_none, Option.toList_none, ofBounds, Option.isSome_none,
    Bool.or_self, List.append_nil]

/-- A query that asks for nothing has no predicates. -/
theorem ofQuery_of_isEmpty {q : ParsedQuery} (h : q.isEmpty = true) : ofQuery q = [] :=
  (congrArg ofQuery (ParsedQuery.isEmpty_iff.mp h).eq).trans (ofQuery_empty _ _ _)

/-- Options have no predicates exactly if they filter nothing. -/
theorem ofOptions_eq_nil_iff {o : SearchOptions} :
    ofAccounts o = [] ∧ ofOptions o = [] ↔ o.Unfiltered := by
  simp only [ofAccounts, ofOptions, List.append_eq_nil_iff, given_eq_nil_iff, ofBounds_eq_nil_iff,
    Option.map_eq_none_iff, Option.toList_eq_nil_iff]
  constructor
  · rintro ⟨accountIds, ⟨⟨⟨⟨⟨fromEmail, subject⟩, dateFrom, dateTo⟩, hasAttachments⟩, isRead⟩,
      isStarred⟩, labels⟩
    exact ⟨accountIds, fromEmail, subject, dateFrom, dateTo, hasAttachments, isRead, isStarred,
      labels⟩
  · intro h
    exact ⟨h.accountIds, ⟨⟨⟨⟨⟨h.fromEmail, h.subject⟩, h.dateFrom, h.dateTo⟩, h.hasAttachments⟩,
      h.isRead⟩, h.isStarred⟩, h.labels⟩

end Predicate

namespace PredicateSet

/-- Without a query, a search asks for the owner only exactly if its options filter nothing. -/
theorem compile_eq_forUser_iff {userId : String} {o : SearchOptions} :
    compile userId none o = forUser userId ↔ o.Unfiltered := by
  rw [← Predicate.ofOptions_eq_nil_iff, compile, forUser, PredicateSet.mk.injEq]
  simp

/-- A query that asks for nothing is no query. -/
theorem compile_of_isEmpty {q : ParsedQuery} (h : q.isEmpty = true) (userId : String)
    (o : SearchOptions) : compile userId (some q) o = compile userId none o := by
  rw [compile, compile, Option.map_some, Option.getD_some, Predicate.ofQuery_of_isEmpty h]
  rfl

end PredicateSet

/-! ## The messages of a user -/

namespace Database

/-- What a search for the owner only selects are the messages of the user. -/
theorem selects_forUser_iff {db : Database} {userId : String} {m : Message} :
    db.Selects (.forUser userId) m ↔ db.Holds m ∧ m.userId = userId := by
  simp only [Selects, Holds, Store.selects_forUser, decide_eq_true_eq]
  constructor
  · rintro ⟨s, hs, hm, huser⟩
    exact ⟨⟨s, hs, hm⟩, huser⟩
  · rintro ⟨⟨s, hs, hm⟩, huser⟩
    exact ⟨s, hs, hm, huser⟩

/-- Such a search shows them, by a list of their ids. -/
theorem exists_shows_forUser (calls : List StoreCall) (userId : String) :
    ∃ ids, (after calls).Shows (.forUser userId) ids := by
  obtain ⟨s, hs, hf⟩ := faithful_after calls
  obtain ⟨ms, hms, hnodup, -⟩ := hf.messages
  exact ⟨_, (hf.takes (PredicateSet.fits_forUser userId)).shows hs hf hms hnodup⟩

/-- **An empty query.** A query asks for nothing exactly if all its tokens were set aside, so that
its ignored terms are all that was written. With options that filter nothing either, it is a search
for the owner only, and after any calls it finds all messages of the user: it counts them, and its
pages show them as they are read by their ids. -/
theorem empty_query_finds_all (now : Timestamp) (query : String) :
    ((ParsedQuery.parse now query).isEmpty = true ↔ (ParsedQuery.parse now query).ignored =
      (Token.scan query.toList).map (String.ofList ·.source)) ∧
    ((ParsedQuery.parse now query).isEmpty = true → ∀ (userId : String) (o : SearchOptions),
      o.Unfiltered →
        PredicateSet.compile userId (some (ParsedQuery.parse now query)) o = .forUser userId ∧
        ∀ calls, ∃ ids : List String, ids.Nodup ∧
          (∀ id, id ∈ ids ↔ ∃ m, (after calls).Holds m ∧ m.id = id ∧ m.userId = userId) ∧
          (after calls).count (PredicateSet.compile userId
            (some (ParsedQuery.parse now query)) o).clause = .ok ids.length ∧
          ∀ limit offset, ((after calls).find (PredicateSet.compile userId
              (some (ParsedQuery.parse now query)) o).clause limit offset).map (List.map some) =
            (pageOf limit offset ids).mapM (after calls).getMessage) := by
  constructor
  · exact ParsedQuery.isEmpty_ofTokens_iff.trans ParsedQuery.ignored_ofTokens_iff.symm
  · intro hempty userId o ho
    have hset : PredicateSet.compile userId (some (ParsedQuery.parse now query)) o =
        .forUser userId :=
      (PredicateSet.compile_of_isEmpty hempty userId o).trans
        (PredicateSet.compile_eq_forUser_iff.mpr ho)
    rw [hset]
    refine ⟨rfl, fun calls => ?_⟩
    obtain ⟨ids, hshows⟩ := exists_shows_forUser calls userId
    refine ⟨ids, hshows.nodup, fun id => ?_, hshows.count, hshows.find⟩
    simp only [hshows.mem_iff, selects_forUser_iff, and_assoc, and_comm (a := _ = userId)]

theorem isEmpty_sample : (ParsedQuery.parse sampleCalls.message.sentAt "larger:lots").isEmpty =
    true := by
  have hquery : "larger:lots".toList =
      ['l', 'a', 'r', 'g', 'e', 'r', ':', 'l', 'o', 't', 's'] := by decide
  rw [ParsedQuery.parse, hquery, Token.scan_of_trimLeft_cons rfl, Token.scan_of_trimLeft_nil rfl]
  decide

/-- A size that is no number is set aside, and the one message of the user is found. -/
theorem empty_query_finds_sample :
    (ParsedQuery.parse sampleCalls.message.sentAt "larger:lots").ignored =
        (Token.scan "larger:lots".toList).map (String.ofList ·.source) ∧
      ∃ ids : List String, "m-1" ∈ ids ∧
        (after sampleCalls).count (PredicateSet.compile "user-1"
          (some (ParsedQuery.parse sampleCalls.message.sentAt "larger:lots")) {}).clause =
            .ok ids.length := by
  obtain ⟨hiff, hsearch⟩ := empty_query_finds_all sampleCalls.message.sentAt "larger:lots"
  have hfilters : ({} : SearchOptions).Unfiltered :=
    ⟨rfl, rfl, rfl, rfl, rfl, rfl, rfl, rfl, rfl⟩
  obtain ⟨-, hall⟩ := hsearch isEmpty_sample "user-1" {} hfilters
  obtain ⟨ids, -, hmem, hcount, -⟩ := hall sampleCalls
  refine ⟨hiff.mp isEmpty_sample, ids, (hmem "m-1").mpr ?_, hcount⟩
  exact ⟨sampleCalls.message, ⟨sampleStore, rfl, List.mem_singleton_self _⟩, rfl, rfl⟩

end Database

end MailSearch
