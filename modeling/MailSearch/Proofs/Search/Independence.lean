import MailSearch.Proofs.Query.Repeated
import MailSearch.Proofs.Search.OneUser
import MailSearch.Proofs.Search.Paging

/-!
# Independence of other users

What other users keep in a store has no influence on a search: `SearchService.run_of_sameMail`. Two
searches of a user, over databases that hold the same of that user, have one outcome, be it a result
or an error. The order in which the user's own attachments were stored can matter, in one case: if a
value of the search is too long for a pattern, the search succeeds where other attachments are found
first, and fails where they are not (`SearchService.attachment_order_decides`).

* `MessageSource.Agrees`: two sources answer a search alike. `Database.SameMail.agrees_or_refused`:
  so do two databases that hold the same of the user, unless a pattern does not fit.
* `SearchService.run_of_agrees`: sources that agree lead to one outcome.
-/

namespace MailSearch

open Text Calendar

/-- Two sources give one answer to everything that a search with these predicates asks. The number
is asked for only behind a page. -/
structure MessageSource.Agrees (a b : MessageSource) (set : PredicateSet) : Prop where
  fetchPage : ∀ limit offset, a.fetchPage set limit offset = b.fetchPage set limit offset
  countMatching : ∀ limit offset page, a.fetchPage set limit offset = .ok page →
    a.countMatching set = b.countMatching set
  topSenders : ∀ limit, a.topSenders set.userId limit = b.topSenders set.userId limit
  topSubjects : ∀ limit, a.topSubjects set.userId limit = b.topSubjects set.userId limit

/-- A source refuses to match a pattern of the search. -/
def MessageSource.RefusesPattern (a : MessageSource) (set : PredicateSet) : Prop :=
  ∀ limit offset, a.fetchPage set limit offset = .error .patternTooLong

/-- Databases that calls have made answer a user alike if they hold the same of that user, unless a
pattern of the search does not fit. -/
theorem Database.SameMail.agrees_or_refused {calls calls' : List StoreCall} {set : PredicateSet}
    (h : (after calls).SameMail (after calls') set.userId) :
    (after calls).source.Agrees (after calls').source set ∨
      ¬ set.PatternsFit ∧ ((after calls).source.RefusesPattern set ∨
        (after calls').source.RefusesPattern set) := by
  obtain ⟨s, hs, hreached⟩ := reached_after calls
  obtain ⟨s', hs', hreached'⟩ := reached_after calls'
  have hsame := h.store hs hs' hreached hreached'
  have hpage (limit offset : Nat) : (after calls).source.fetchPage set limit offset =
      s.find set.clause limit offset := find_eq hs _ _ _
  have hpage' (limit offset : Nat) : (after calls').source.fetchPage set limit offset =
      s'.find set.clause limit offset := find_eq hs' _ _ _
  rcases hsame.answers hreached hreached' with ⟨hfind, hcount⟩ | ⟨hfit, hrefused⟩
  · refine .inl ⟨fun limit offset => ?_, fun limit offset page hok => ?_, fun limit => ?_,
      fun limit => ?_⟩
    · rw [hpage, hpage', hfind]
    · have htotal := hcount limit offset page (hpage limit offset ▸ hok)
      exact (count_eq hs _).trans (htotal.trans (count_eq hs' _).symm)
    · simp only [source, topValues, withStore, hs, hs', bind, Except.bind]
      rw [hsame.topValues_eq hreached hreached']
    · simp only [source, topValues, withStore, hs, hs', bind, Except.bind]
      rw [hsame.topValues_eq hreached hreached']
  · refine .inr ⟨hfit, hrefused.imp (fun h limit offset => ?_) fun h limit offset => ?_⟩
    · rw [hpage, h]
    · rw [hpage', h]

namespace SearchService

variable {σ τ : Type} {s : SearchService σ} {s' : SearchService τ} {userId : String}

/-- Without a cache, the outcome of a search is what comes of the page of the source. -/
theorem run_eq_of_isOff (hcache : s.cache.IsOff) (now : Moment) (userId : String)
    (o : SearchOptions) (state : σ) :
    (s.run now userId o state).1 =
      ((s.fetch userId (o.queryText?.map (ParsedQuery.parse now.clock)) o).map fun page =>
        ⟨page, 0, s.suggestionsFor userId o page,
          o.queryText?.map (ParsedQuery.parse now.clock), false⟩).mapError SearchError.store := by
  obtain ⟨left, hread⟩ := readCache_of_isOff hcache now.millis (s.key? userId o) state
  exact run_missed (congrArg Prod.fst hread)

theorem fetch_of_agrees {query : Option ParsedQuery} {o : SearchOptions}
    (h : s.source.Agrees s'.source (.compile userId query o)) (hconfig : s.search = s'.search) :
    s.fetch userId query o = s'.fetch userId query o := by
  have hlimit : s.limit o = s'.limit o := by rw [limit, limit, hconfig]
  simp only [fetch, hlimit, ← h.fetchPage]
  cases hpage : s.source.fetchPage (.compile userId query o) (s'.limit o) o.offset with
  | error e => rfl
  | ok messages => simp only [bind, Except.bind, h.countMatching _ _ _ hpage]

theorem suggestionsFor_of_agrees {set : PredicateSet} (h : s.source.Agrees s'.source set)
    (hconfig : s.suggestions = s'.suggestions) (o : SearchOptions) (page : Page) :
    s.suggestionsFor set.userId o page = s'.suggestionsFor set.userId o page := by
  unfold suggestionsFor suggest
  simp only [h.topSenders, h.topSubjects, hconfig]

/-- Sources that agree on a search lead it to one outcome. -/
theorem run_of_agrees {now : Moment} {o : SearchOptions}
    (h : s.source.Agrees s'.source (o.predicates now.clock userId)) (hsearch : s.search = s'.search)
    (hsuggestions : s.suggestions = s'.suggestions) (hcache : s.cache.IsOff)
    (hcache' : s'.cache.IsOff) (state : σ) (state' : τ) :
    (s.run now userId o state).1 = (s'.run now userId o state').1 := by
  have hsuggested : ∀ page, s.suggestionsFor userId o page = s'.suggestionsFor userId o page :=
    suggestionsFor_of_agrees h hsuggestions o
  rw [run_eq_of_isOff hcache, run_eq_of_isOff hcache', fetch_of_agrees h hsearch]
  simp only [hsuggested]

theorem run_of_refusesPattern {now : Moment} {o : SearchOptions} (hcache : s.cache.IsOff)
    (h : s.source.RefusesPattern (o.predicates now.clock userId)) (state : σ) :
    (s.run now userId o state).1 = .error (.store .patternTooLong) := by
  obtain ⟨_, hrun⟩ := run_of_isOff_error hcache (fetch_eq_error (h _ _)) state
  rw [hrun]

/-- **Independence.** The outcome of a search without a cache depends on nothing that a database
holds but the messages and attachments of the user who asks. If a pattern of the search does not
fit, one of two databases with the same of the user may refuse to match it. -/
theorem run_of_sameMail (calls calls' : List StoreCall)
    (h : (Database.after calls).SameMail (Database.after calls') userId)
    (hsource : s.source = (Database.after calls).source)
    (hsource' : s'.source = (Database.after calls').source) (hsearch : s.search = s'.search)
    (hsuggestions : s.suggestions = s'.suggestions) (hcache : s.cache.IsOff)
    (hcache' : s'.cache.IsOff) (now : Moment) (o : SearchOptions) (state : σ) (state' : τ) :
    (s.run now userId o state).1 = (s'.run now userId o state').1 ∨
      ¬ (o.predicates now.clock userId).PatternsFit ∧
        ((s.run now userId o state).1 = .error (.store .patternTooLong) ∨
          (s'.run now userId o state').1 = .error (.store .patternTooLong)) := by
  have huser : (o.predicates now.clock userId).userId = userId := rfl
  rw [← huser] at h
  have hagrees := h.agrees_or_refused
  rw [← hsource, ← hsource'] at hagrees
  rcases hagrees with hagrees | ⟨hfit, hrefused⟩
  · exact .inl (run_of_agrees hagrees hsearch hsuggestions hcache hcache' state state')
  · exact .inr ⟨hfit, hrefused.imp (run_of_refusesPattern hcache · state)
      (run_of_refusesPattern hcache' · state')⟩

/-! ## Another user's message -/

/-- The calls of the sample after those of another user, whose message the sample's search would
find too if it were not for its owner. -/
def crowdedCalls : List StoreCall :=
  [.account ⟨"acc-2", "user-2", "eve@example.com", none⟩, .message other] ++ sampleCalls
where
  /-- The other user's message. -/
  other : Message :=
    { sampleCalls.message with
      id := "m-2", userId := "user-2", accountId := "acc-2"
      attachments := [⟨"a-2", "m-2", "report.pdf", none, 2048⟩] }

theorem sameMail_crowded :
    (Database.after sampleCalls).SameMail (Database.after crowdedCalls) "user-1" := by
  obtain ⟨accounts, r, hr, hstore⟩ : ∃ accounts r, r .messageId = .text "m-2" ∧
      (Database.after crowdedCalls).store =
        some ⟨accounts, MessageRow.ofMessage crowdedCalls.other :: sampleStore.messages,
          r :: sampleStore.attachments⟩ := ⟨_, _, rfl, rfl⟩
  have hsample : (Database.after sampleCalls).store = some sampleStore := rfl
  constructor
  · intro m huser
    rw [Database.holds_iff hsample, Database.holds_iff hstore, List.mem_cons]
    refine ⟨.inr, fun h => h.resolve_left fun hother => ?_⟩
    have huser' : m.userId = "user-2" := Cell.text.inj (congrFun hother .userId)
    rw [huser] at huser'
    exact absurd huser' (by decide)
  · intro m hm huser a ha
    rw [Database.holds_iff hsample, messages_sampleStore] at hm
    have hid : m.id = "m-1" := Cell.text.inj (congrFun (List.mem_singleton.mp hm) .id)
    simp only [Database.HoldsAttachment, hsample, hstore, Option.some.injEq, exists_eq_left',
      List.exists_mem_cons_iff]
    refine ⟨.inr, fun h => h.resolve_left fun hof => ?_⟩
    have hmessage : a.messageId = "m-2" := Cell.text.inj (hof.cells.2.2.1.symm.trans hr)
    rw [ha, hid] at hmessage
    exact absurd hmessage (by decide)

/-- The service of the sample, over the database with both users. -/
def crowdedUncached : SearchService MemoryCache :=
  { sampleUncached with source := (Database.after crowdedCalls).source }

/-- The search finds the one message, as it does without the other user. -/
theorem run_of_sameMail_crowded :
    (Database.after sampleCalls).SameMail (Database.after crowdedCalls) "user-1" ∧
    sampleUncached.cache.IsOff ∧ crowdedUncached.cache.IsOff ∧
    (crowdedUncached.run ⟨sampleCalls.message.sentAt, 0⟩ "user-1" sampleOptions {}).1 =
      .ok (sampleResult false) := by
  have hoff : sampleUncached.cache.IsOff := CacheBackend.isOff_disabled
  have hoff' : crowdedUncached.cache.IsOff := CacheBackend.isOff_disabled
  have hrun : (sampleUncached.run ⟨sampleCalls.message.sentAt, 0⟩ "user-1" sampleOptions {}).1 =
      .ok (sampleResult false) := by
    have hfetch : sampleUncached.fetch "user-1" (sampleOptions.queryText?.map
      (ParsedQuery.parse sampleCalls.message.sentAt)) sampleOptions = _ := fetch_sample
    rw [run_eq_of_isOff hoff, hfetch, sampleResult, queryText_sample]
    rfl
  have hsame : (sampleUncached.run ⟨sampleCalls.message.sentAt, 0⟩ "user-1" sampleOptions {}).1 =
      (crowdedUncached.run ⟨sampleCalls.message.sentAt, 0⟩ "user-1" sampleOptions {}).1 := by
    refine (run_of_sameMail sampleCalls crowdedCalls sameMail_crowded ?_ ?_ ?_ ?_ hoff hoff'
      ..).resolve_right fun hrefused => hrefused.1 ?_
    case refine_5 =>
      rw [predicates_sampleOptions]
      exact fits_sample.patterns
    all_goals rfl
  exact ⟨sameMail_crowded, hoff, hoff', hsame.symm.trans hrun⟩

/-! ## The order of attachments -/

section Named

variable {needle word : String} {row : MessageRow} {r : AttachmentRow} {a : Attachment}

/-- An attachment with the needle in its name is found, whatever else is looked for and wherever. -/
theorem truth_attachmentNamed (hof : r.Of a) (hfit : PatternFits needle)
    (hfound : likeFolded a.filename needle = true) (rest : List AttachmentRow) :
    (Predicate.attachmentNamed [needle, word]).condition.truth row (r :: rest) =
      .ok (some true) := by
  have hcell : (Operand.attachment .filename).cell { message := row, attachment := r } =
      .text a.filename := hof.cells.2.2.2.1
  have htest := (Test.gives_foldedLike hcell needle).eq_ok hfit
  have hchoice : (Choice.containsAny (.attachment .filename) [needle, word]).truth
      { message := row, attachment := r } = .ok (some true) := by
    simp only [Choice.containsAny, List.map_cons, Choice.truth, Truth.anyOf, htest, hfound]
  simp only [Predicate.condition, Condition.truth, Scope.truth, Body.truth, anyTrue, hchoice]
  rfl

/-- At an attachment without it, the next needle is tried, and refused if it is too long. -/
theorem truth_attachmentNamed_of_not_fits (hof : r.Of a) (hfit : PatternFits needle)
    (hmissed : likeFolded a.filename needle = false) (hlong : ¬ PatternFits word)
    (rest : List AttachmentRow) :
    (Predicate.attachmentNamed [needle, word]).condition.truth row (r :: rest) =
      .error .patternTooLong := by
  have hcell : (Operand.attachment .filename).cell { message := row, attachment := r } =
      .text a.filename := hof.cells.2.2.2.1
  have htest := (Test.gives_foldedLike hcell needle).eq_ok hfit
  have hrefused := Test.truth_foldedLike_of_not_fits hcell hlong
  have hchoice : (Choice.containsAny (.attachment .filename) [needle, word]).truth
      { message := row, attachment := r } = .error .patternTooLong := by
    simp only [Choice.containsAny, List.map_cons, Choice.truth, Truth.anyOf, htest, hmissed,
      hrefused, List.map_nil]
  simp only [Predicate.condition, Condition.truth, Scope.truth, Body.truth, anyTrue, hchoice]
  rfl

end Named

/-- The message of the sample, with these attachments. -/
def attachedMessage (attachments : List Attachment) : Message :=
  { sampleCalls.message with attachments }

/-- The account with this message. -/
def attachedCalls (attachments : List Attachment) : List StoreCall :=
  [.account ⟨"acc-1", "user-1", "ann@example.com", none⟩, .message (attachedMessage attachments)]

/-- One of two attachments of the message. -/
def attachmentX : Attachment := ⟨"a-1", "m-1", "x", none, 2048⟩

/-- The other one. -/
def attachmentZ : Attachment := ⟨"a-2", "m-1", "z", none, 2048⟩

/-- The service of the sample, without a cache and over the database with these attachments. -/
def attachedUncached (attachments : List Attachment) : SearchService MemoryCache :=
  { sampleUncached with source := (Database.after (attachedCalls attachments)).source }

/-- The options that search for an attachment with an x or a word in its name. -/
def namedOptions (word : String) : SearchOptions :=
  { query := some (repeatedQuery .filename ["x", word]) }

/-- The predicates of the search. -/
def namedPredicates (word : String) : PredicateSet := ⟨"user-1", [.attachmentNamed ["x", word]]⟩

theorem isBareValue_x : IsBareValue "x" := by
  have hword : asciiLower "x" ∈ ["x"] := by decide
  exact isBareValue_of_words hword (by decide)

theorem queryText_named {word : String} (h : IsBareValue word) :
    (namedOptions word).queryText? = some (repeatedQuery .filename ["x", word]) := by
  have hchars : (repeatedQuery .filename ["x", word]).toList =
      (termQuery false .filename "x").toList ++ [' '] ++
        (termQuery false .filename word).toList := by
    simp [repeatedQuery, String.intercalate_cons_cons]
  have hfirst := Token.ne_nil_of_scan (scan_termQuery isBareValue_x false .filename)
  have hlast := Token.ne_nil_of_scan (scan_termQuery h false .filename)
  have htrim : trim (repeatedQuery .filename ["x", word]).toList =
      (repeatedQuery .filename ["x", word]).toList := by
    rw [hchars]
    refine trim_eq_self (fun c hc => ?_) fun c hc => ?_
    · rw [List.append_assoc, List.head?_append_of_ne_nil _ hfirst] at hc
      exact isBlank_of_mem_termQuery isBareValue_x _ _ c (List.mem_of_mem_head? hc)
    · rw [List.getLast?_append_of_ne_nil _ hlast] at hc
      exact isBlank_of_mem_termQuery h _ _ c (List.mem_of_mem_getLast? hc)
  have hne : (repeatedQuery .filename ["x", word]).toList ≠ [] := by
    rw [hchars]
    exact List.append_ne_nil_of_right_ne_nil _ hlast
  have htext : (namedOptions word).queryText? =
      SearchOptions.nonBlank? (repeatedQuery .filename ["x", word]) := rfl
  rw [htext, SearchOptions.nonBlank?, htrim, if_neg hne, trimString, htrim, String.ofList_toList]

theorem predicates_named {word : String} (h : IsBareValue word) (hne : word ≠ "x")
    (clock : Timestamp) :
    (namedOptions word).predicates clock "user-1" = namedPredicates word := by
  have hvalues : ∀ value ∈ ["x", word], IsBareValue value := by
    simp [isBareValue_x, h]
  have honce : ["x", word].eraseDups = ["x", word] := by
    simp [List.eraseDups_cons, hne]
  rw [SearchOptions.predicates, queryText_named h, Option.map_some,
    ParsedQuery.parse_repeatedQuery rfl clock hvalues, honce]
  simp [PredicateSet.compile, Predicate.ofAccounts, Predicate.ofOptions, Predicate.ofQuery,
    Predicate.ofBounds, Predicate.given, ParsedQuery.listing, namedOptions, namedPredicates]

theorem repeatedWord_ne {n : Nat} (hn : n ≠ 0) : repeatedWord n ≠ "x" := by
  intro h
  have hmem : 'y' ∈ (repeatedWord n).toList := by
    rw [toList_repeatedWord]
    exact List.mem_replicate.mpr ⟨hn, rfl⟩
  rw [h] at hmem
  exact absurd hmem (by decide)

theorem sameMail_attached :
    (Database.after (attachedCalls [attachmentX, attachmentZ])).SameMail
      (Database.after (attachedCalls [attachmentZ, attachmentX])) "user-1" := by
  obtain ⟨accounts, row, x, z, hstore, hstore'⟩ : ∃ accounts row x z,
      (Database.after (attachedCalls [attachmentX, attachmentZ])).store =
        some ⟨accounts, [row], [x, z]⟩ ∧
      (Database.after (attachedCalls [attachmentZ, attachmentX])).store =
        some ⟨accounts, [row], [z, x]⟩ := ⟨_, _, _, _, rfl, rfl⟩
  constructor
  · intro m _
    rw [Database.holds_iff hstore, Database.holds_iff hstore']
  · intro m _ _ a _
    simp only [Database.HoldsAttachment, hstore, hstore', Option.some.injEq, exists_eq_left']
    simp only [List.exists_mem_cons_iff, List.not_mem_nil, false_and, exists_false, or_false]
    exact or_comm

theorem fits_named (word : String) : (namedPredicates word).clause.Fits :=
  ⟨show 14 ≤ maxDepth by decide, show 3 + 2 ≤ maxParams by decide⟩

section Attached

variable {attachments : List Attachment} {s : Store}
  (hms : s.messages = [attachedMessage attachments].map MessageRow.ofMessage)
  {r : AttachmentRow} {rest : List AttachmentRow}
  (hrows : s.attachmentRows (.text "m-1") = r :: rest) {word : String}
include hms hrows

/-- The search does what its condition on the attachments comes to. -/
theorem select_attached : s.select (namedPredicates word).clause =
    ((Predicate.attachmentNamed ["x", word]).condition.truth
      (MessageRow.ofMessage (attachedMessage attachments)) (r :: rest)).map
        fun t => if t = some true then s.messages else [] := by
  have hdecided := PredicateSet.select_singleton (attachedMessage attachments) (r :: rest)
    (p := .attachmentNamed ["x", word]) rfl
  have hcell : MessageRow.ofMessage (attachedMessage attachments) .id = .text "m-1" := rfl
  rw [Store.select_of_messages_eq_singleton hms, hcell, hrows]
  refine (congrArg (Except.map _) hdecided).trans ?_
  rw [hms]
  rcases (Predicate.attachmentNamed ["x", word]).condition.truth
    (MessageRow.ofMessage (attachedMessage attachments)) (r :: rest) with e | _ | _ | _ <;> rfl

variable (hs : (Database.after (attachedCalls attachments)).store = some s) {a : Attachment}
  (hof : r.Of a) {clock : Timestamp}
  (hset : (namedOptions word).predicates clock "user-1" = namedPredicates word)
include hs hof hset

/-- The search succeeds if the attachment that is looked at first has an x in its name. -/
theorem run_attached_found (hfit : PatternFits "x") (hfound : likeFolded a.filename "x" = true) :
    ∃ result, ((attachedUncached attachments).run ⟨clock, 0⟩ "user-1" (namedOptions word) {}).1 =
      .ok result := by
  have hf : s.Faithful := by
    obtain ⟨t, ht, hf⟩ := Database.faithful_after (attachedCalls attachments)
    exact Option.some.inj (ht.symm.trans hs) ▸ hf
  have hselect : s.select (namedPredicates word).clause = .ok s.messages := by
    rw [select_attached hms hrows, truth_attachmentNamed hof hfit hfound rest]
    rfl
  have htakes : s.Takes (namedPredicates word) := by
    refine ⟨fits_named word, ?_⟩
    rw [← Store.select_eq_filter_of_ok hselect]
    exact hselect
  have hyears : s.HasPlainYears := by
    refine Store.hasPlainYears_of_messages hms (List.forall_mem_singleton.mpr ?_)
    show sampleCalls.message.sentAt.HasPlainYear
    decide
  have hregular : ∀ m ∈ [attachedMessage attachments], m.sentAt.IsRegular :=
    List.forall_mem_singleton.mpr (isRegular_sample sampleCalls.message List.mem_cons_self)
  obtain ⟨hfind, hcount⟩ := htakes.find_eq_ok hf hyears hms hregular (fun _ _ => rfl)
    ((attachedUncached attachments).limit (namedOptions word)) 0
  have hcache : (attachedUncached attachments).cache.IsOff := CacheBackend.isOff_disabled
  have hfetch := fetch_of_store (s := attachedUncached attachments)
    (o := namedOptions word) rfl hs (hset ▸ hfind) (hset ▸ hcount)
  rw [run_eq_of_isOff hcache, hfetch]
  exact ⟨_, rfl⟩

/-- It fails if that has none, and the word is too long. -/
theorem run_attached_refused (hfit : PatternFits "x")
    (hmissed : likeFolded a.filename "x" = false) (hlong : ¬ PatternFits word) :
    ((attachedUncached attachments).run ⟨clock, 0⟩ "user-1" (namedOptions word) {}).1 =
      .error (.store .patternTooLong) := by
  have hselect : s.select (namedPredicates word).clause = .error .patternTooLong := by
    rw [select_attached hms hrows, truth_attachmentNamed_of_not_fits hof hfit hmissed hlong rest]
    rfl
  have hcache : (attachedUncached attachments).cache.IsOff := CacheBackend.isOff_disabled
  refine run_of_refusesPattern hcache (fun limit offset => ?_) {}
  have hpage : (attachedUncached attachments).source.fetchPage (namedPredicates word) limit offset =
      s.find (namedPredicates word).clause limit offset := Database.find_eq hs _ _ _
  rw [hset, hpage, Store.find, (fits_named word).prepare (Nat.le_refl 2), hselect]
  rfl

end Attached

/-- The order of a user's own attachments decides whether the search for a word that is too long
finds a message or fails. -/
theorem attachment_order_decides :
    (Database.after (attachedCalls [attachmentX, attachmentZ])).SameMail
        (Database.after (attachedCalls [attachmentZ, attachmentX])) "user-1" ∧
      (∃ result, ((attachedUncached [attachmentX, attachmentZ]).run
        ⟨sampleCalls.message.sentAt, 0⟩ "user-1" (namedOptions longWord) {}).1 = .ok result) ∧
      ((attachedUncached [attachmentZ, attachmentX]).run
        ⟨sampleCalls.message.sentAt, 0⟩ "user-1" (namedOptions longWord) {}).1 =
          .error (.store .patternTooLong) := by
  have hset (clock : Timestamp) : (namedOptions longWord).predicates clock "user-1" =
      namedPredicates longWord := by
    unfold longWord
    exact predicates_named (isBareValue_repeatedWord (by decide)) (repeatedWord_ne (by decide))
      clock
  have hfit : PatternFits "x" := by decide +kernel
  refine ⟨sameMail_attached, ?_, ?_⟩
  · obtain ⟨s, r, rest, hs, hms, hrows, hof⟩ : ∃ s r rest,
        (Database.after (attachedCalls [attachmentX, attachmentZ])).store = some s ∧
        s.messages = [attachedMessage [attachmentX, attachmentZ]].map MessageRow.ofMessage ∧
        s.attachmentRows (.text "m-1") = r :: rest ∧ r.Of attachmentX :=
      ⟨_, _, _, rfl, rfl, rfl, rfl⟩
    exact run_attached_found hms hrows hs hof (hset _) hfit (by decide +kernel)
  · obtain ⟨s, r, rest, hs, hms, hrows, hof⟩ : ∃ s r rest,
        (Database.after (attachedCalls [attachmentZ, attachmentX])).store = some s ∧
        s.messages = [attachedMessage [attachmentZ, attachmentX]].map MessageRow.ofMessage ∧
        s.attachmentRows (.text "m-1") = r :: rest ∧ r.Of attachmentZ :=
      ⟨_, _, _, rfl, rfl, rfl, rfl⟩
    exact run_attached_refused hms hrows hs hof (hset _) hfit (by decide +kernel)
      not_patternFits_longWord

end SearchService

end MailSearch
