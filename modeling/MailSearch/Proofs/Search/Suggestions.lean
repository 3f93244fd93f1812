import MailSearch.Proofs.Query.Negation
import MailSearch.Proofs.Search.Repeating
import MailSearch.Proofs.Search.Isolation

/-!
# Where suggestions lead

A suggestion that is made of a stored sender or subject is built by pasting it into a query. Where
the query is read back as that sender or subject, the search finds the message that it stands in:
`SearchService.suggestions_lead_to_messages`. A subject with a quote is not read back, and its
suggestion may find nothing: `SearchService.quoted_subject_not_found`.

* `likeFolded_of_isPart`: what is a part of a stored text is found in it, whatever characters it
  holds.
* `SearchService.finds_of_truth`: a search finds something if its predicates are true of a stored
  message of the user.
-/

namespace MailSearch

open Calendar Text

/-! ## Parts are found -/

section Parts

variable {m : Message} {hay : String}

/-- A part of a text is found in it, if no NUL character stands before the part. -/
theorem likeFolded_of_isPart {needle : String} (h : IsPart needle.toList hay.toList)
    (hnul : NulInLastPart hay.toList) : likeFolded hay needle = true := by
  obtain ⟨before, after, hparts, hbefore, hafter⟩ := h
  obtain ⟨left, right, hfolded, hleft⟩ :=
    exists_lowercase_of_isPart needle.toList hbefore hafter
  rw [hparts] at hnul
  rw [likeFolded, foldedPattern, String.toList_ofList, fold_toList, hparts, hfolded]
  exact like_of_starts (hleft (hnul.nul_not_mem hbefore))

/-- The whole text is found in itself, whatever it holds. -/
theorem likeFolded_self (text : String) : likeFolded text text = true := by
  have hwhole : lowercase text.toList = [] ++ (lowercase text.toList ++ []) := by simp
  rw [likeFolded, foldedPattern, String.toList_ofList, fold_toList]
  nth_rewrite 2 [hwhole]
  exact like_of_starts List.not_mem_nil

variable {sender : String} (hsender : m.fromAddress = some sender)
  (hnul : NulInLastPart sender.toList)
include hsender hnul

/-- A sender with the needles for parts is found by them. -/
theorem Predicate.storeHolds_of_sender {needles : List String} (hne : needles ≠ [])
    (h : ∀ needle ∈ needles, IsPart needle.toList sender.toList) :
    (addressContains .sender needles false).storeHolds m = true := by
  obtain ⟨needle, hn⟩ := List.exists_mem_of_ne_nil needles hne
  have hfound : likesAny needles sender = true :=
    List.any_eq_true.mpr ⟨needle, hn, likeFolded_of_isPart (h needle hn) hnul⟩
  simp [storeHolds, Message.addresses, hsender, hfound]

/-- Terms that are parts of the sender stand in a searched text. -/
theorem Predicate.storeHolds_mentions_of_sender {terms : List String}
    (h : ∀ term ∈ terms, IsPart term.toList sender.toList) :
    (mentions terms).storeHolds m = true := by
  have hfield : (MessageColumn.fromAddress, some sender) ∈ m.searchedFields := by
    simp [Message.searchedFields, hsender]
  exact List.all_eq_true.mpr fun term hterm =>
    List.any_eq_true.mpr ⟨_, hfield, likeFolded_of_isPart (h term hterm) hnul⟩

end Parts

/-! ## Searches that find something -/

theorem Predicate.of_mem_given {α : Type} {values : List α} {make : List α → Predicate}
    {p : Predicate} (h : p ∈ given values make) : values ≠ [] ∧ p = make values := by
  unfold given at h
  split at h
  · cases h
  · rename_i hne
    exact ⟨by simpa using hne, List.mem_singleton.mp h⟩

/-- Without filters, a search has the predicates of its query and its owner's. -/
theorem PredicateSet.toList_compile (userId text : String) (q : ParsedQuery) (limit : Nat) :
    (compile userId (some q) { query := some text, limit }).toList =
      .ownedBy userId :: Predicate.ofQuery q := by
  simp [toList, compile, Predicate.ofAccounts, Predicate.ofOptions, Predicate.given,
    Predicate.ofBounds]

/-- If the predicates of a search hold of a stored message, the search selects some. -/
theorem Store.Takes.found_ne_nil {s : Store} {set : PredicateSet} (htakes : s.Takes set)
    (hf : s.Faithful) {ms : List Message} (hms : s.messages = ms.map MessageRow.ofMessage)
    {m : Message} (hm : MessageRow.ofMessage m ∈ s.messages)
    (h : set.storeHolds (s.full m) = true) : s.found ms (s.selects set) ≠ [] := by
  obtain ⟨x, hx, hrow⟩ := List.mem_map.mp (hms ▸ hm)
  have hselects := s.selects_congr set hrow
  rw [htakes.selects_eq hf hm, h] at hselects
  have hmem : s.full x ∈ s.found ms (s.selects set) :=
    List.mem_map_of_mem (List.mem_mergeSort.mpr (List.mem_filter.mpr ⟨hx, hselects⟩))
  exact List.ne_nil_of_mem hmem

namespace SearchService

variable {σ : Type}

/-- Searching for a text and nothing else finds a message, whatever the page size, unless a page is
served from the cache. -/
def Finds (s : SearchService σ) (now : Moment) (userId text : String) : Prop :=
  ∀ (limit : Nat) (state : σ),
    (s.readCache now.millis (s.key? userId { query := some text, limit }) state).1 = none →
      ∃ result state', s.run now userId { query := some text, limit } state = (.ok result, state') ∧
        result.page.messages ≠ []

/-- The predicates of such a search. -/
def textPredicates (now : Moment) (userId text : String) : PredicateSet :=
  ({ query := some text } : SearchOptions).predicates now.clock userId

section Finds

variable {s : SearchService σ} {db : Database} {now : Moment} {userId text : String} {m : Message}

/-- Searching for a text finds something if its predicates hold of a stored message of the user,
unless the engine refuses the search. -/
theorem finds_of_holds (hsource : s.source = db.source) (hdb : db.Faithful)
    (hyears : db.HasPlainYears) (hne : trim text.toList ≠ []) (hm : db.Holds m)
    (huser : m.userId = userId)
    (hholds : ∀ p ∈ Predicate.ofQuery (ParsedQuery.parse now.clock (trimString text)),
      ∀ attachments, p.storeHolds { m with attachments } = true) :
    s.Finds now userId text ∨ db.Refuses (textPredicates now userId text) := by
  obtain ⟨store, hstore, hf⟩ := hdb
  obtain ⟨ms, hms, -, hregular⟩ := hf.messages
  obtain ⟨held, hheld, hrow⟩ := hm
  obtain rfl : store = held := Option.some.inj (hstore.symm.trans hheld)
  have hquery (limit : Nat) :
      SearchOptions.queryText? { query := some text, limit } = some (trimString text) := if_neg hne
  have hset (limit : Nat) : PredicateSet.compile userId
      ((SearchOptions.queryText? { query := some text, limit }).map
        (ParsedQuery.parse now.clock)) { query := some text, limit } =
        textPredicates now userId text := by
    rw [textPredicates, SearchOptions.predicates, hquery, hquery]
    rfl
  have hall : (textPredicates now userId text).storeHolds (store.full m) = true := by
    rw [← hset 0, hquery, Option.map_some, PredicateSet.storeHolds, PredicateSet.toList_compile]
    refine List.all_eq_true.mpr fun p hp => ?_
    rcases List.mem_cons.mp hp with rfl | hp
    · exact decide_eq_true huser
    · exact hholds p hp _
  rcases hf.takes_or_refuses (textPredicates now userId text) with htakes | hrefuses
  · refine .inl fun limit state hread => ?_
    obtain ⟨hfind, hcount⟩ := htakes.find_eq_ok hf (hyears store hstore) hms hregular
      (fun _ _ => rfl) (s.limit { query := some text, limit }) 0
    have hfetch := fetch_of_store (o := { query := some text, limit }) hsource hstore
      ((hset limit).symm ▸ hfind) ((hset limit).symm ▸ hcount)
    obtain ⟨result, state', hrun, hpage⟩ := run_of_fetch hread hfetch
    refine ⟨result, state', hrun, ?_⟩
    rw [hpage]
    exact pageOf_ne_nil (s.limit_pos _) (htakes.found_ne_nil hf hms hrow hall)
  · exact .inr ((Database.refuses_iff hstore).mpr hrefuses)

/-- A sender that is read back is found. -/
theorem finds_sender {sender : String} (hsource : s.source = db.source) (hdb : db.Faithful)
    (hyears : db.HasPlainYears) (hm : db.Holds m) (huser : m.userId = userId)
    (hsender : MessageRow.ofMessage m .fromAddress = .text sender)
    (hone : IsOneSender now.clock sender) (hnul : NulInLastPart sender.toList) :
    s.Finds now userId (suggestSender sender) ∨
      db.Refuses (textPredicates now userId (suggestSender sender)) := by
  obtain ⟨value, rest, hscan, -⟩ := Token.scan_suggestSender sender
  obtain ⟨needles, terms, hquery, hneedles, hterms⟩ := exists_ofQuery_suggestSender hone
  have haddress : m.fromAddress = some sender := Cell.ofText?_eq_text_iff.mp hsender
  refine finds_of_holds hsource hdb hyears (Token.ne_nil_of_scan hscan) hm huser ?_
  intro p hp attachments
  rw [hquery, List.mem_append] at hp
  have hkept : { m with attachments }.fromAddress = some sender := haddress
  rcases hp with hp | hp
  · obtain ⟨hne, rfl⟩ := Predicate.of_mem_given hp
    exact Predicate.storeHolds_of_sender hkept hnul hne hneedles
  · obtain ⟨-, rfl⟩ := Predicate.of_mem_given hp
    exact Predicate.storeHolds_mentions_of_sender hkept hnul hterms

/-- A subject without a quote is found. -/
theorem finds_subject {subject : String} (hsource : s.source = db.source) (hdb : db.Faithful)
    (hyears : db.HasPlainYears) (hm : db.Holds m) (huser : m.userId = userId)
    (hsubject : MessageRow.ofMessage m .subject = .text subject) (hne : subject ≠ "")
    (hquote : '"' ∉ subject.toList) :
    s.Finds now userId (suggestSubject subject) ∨
      db.Refuses (textPredicates now userId (suggestSubject subject)) := by
  have hscan := Token.scan_suggestSubject hne hquote
  have hstored : m.subject = some subject := Cell.ofText?_eq_text_iff.mp hsubject
  refine finds_of_holds hsource hdb hyears (Token.ne_nil_of_scan hscan) hm huser ?_
  intro p hp attachments
  rw [ofQuery_suggestSubject hne hquote, List.mem_singleton] at hp
  rw [hp]
  simp [Predicate.storeHolds, hstored, likesAny, likeFolded_self]

end Finds

/-- **Suggestions lead to messages.** After any calls on a new database that leave it with plain
years, a suggestion that is made of a sender or a subject counted for the user finds a message of
that user, unless the engine refuses the search: for senders, if none of their other words is
applied as a term and none stands behind a NUL character, and for subjects, if they hold no
quote. -/
theorem suggestions_lead_to_messages (calls : List StoreCall) {s : SearchService σ}
    (hsource : s.source = (Database.after calls).source)
    (hyears : (Database.after calls).HasPlainYears) (now : Moment)
    {userId query text : String} {config : SuggestionConfig}
    (htext : text ∈ suggest s.source userId query config) :
    ∃ senders subjects, s.source.topSenders userId config.poolSize = .ok senders ∧
      s.source.topSubjects userId config.poolSize = .ok subjects ∧
      text ∈ candidates (trimString query) senders subjects ∧
      (∀ v ∈ senders, text = suggestSender v.value → IsOneSender now.clock v.value →
        NulInLastPart v.value.toList → s.Finds now userId text ∨
          (Database.after calls).Refuses (textPredicates now userId text)) ∧
      ∀ v ∈ subjects, text = suggestSubject v.value → '"' ∉ v.value.toList →
        s.Finds now userId text ∨
          (Database.after calls).Refuses (textPredicates now userId text) := by
  obtain ⟨senders, subjects, hsenders, hsubjects, hcandidate⟩ := exists_of_mem_suggest htext
  refine ⟨senders, subjects, hsenders, hsubjects, hcandidate, ?_, ?_⟩
  · rintro v hv rfl hone hnul
    rw [hsource] at hsenders
    obtain ⟨m, hm, huser, hcell⟩ :=
      Database.hasValue_of_mem_topValues (Database.faithful_after calls) hsenders v hv
    exact finds_sender hsource (Database.faithful_after calls) hyears hm huser hcell hone hnul
  · rintro v hv rfl hquote
    rw [hsource] at hsubjects
    obtain ⟨m, hm, huser, hcell⟩ :=
      Database.hasValue_of_mem_topValues (Database.faithful_after calls) hsubjects v hv
    have hne := Database.ne_empty_of_mem_topValues hsubjects v hv
    exact finds_subject hsource (Database.faithful_after calls) hyears hm huser hcell hne hquote

/-- The values of a column in which a user has one value. -/
theorem topValues_singleton {db : Database} (store : Store) (hstore : db.store = some store)
    {userId : String} {column : MessageColumn} {value : String}
    (h : store.columnValues userId column = [value]) :
    db.topValues userId column 10 = .ok [⟨value, 1⟩] := by
  have htally : tally [value] = [⟨value, 1⟩] := by simp [tally, List.eraseDups_cons]
  have htop : store.topValues userId column 10 = [⟨value, 1⟩] := by
    rw [Store.topValues, h, ranked, htally, List.mergeSort_singleton]
    rfl
  simp only [Database.topValues, Database.withStore, hstore, bind, Except.bind, htop]
  rfl

theorem fits_bob : (textPredicates ⟨sampleCalls.message.sentAt, 0⟩ "user-1"
    (suggestSender "Bob@example.com")).Fits := by
  have hsolid : "Bob@example.com".toList.all (isBlank · = false) = true := by decide
  have hbob : IsBareValue "Bob@example.com" :=
    ⟨by decide, fun c hc => of_decide_eq_true (List.all_eq_true.mp hsolid c hc), by decide⟩
  have hterm : suggestSender "Bob@example.com" =
      termQuery false Aspect.sender.operator "Bob@example.com" := by decide
  have hquery : SearchOptions.queryText?
      { query := some (termQuery false Aspect.sender.operator "Bob@example.com") } =
        some (termQuery false Aspect.sender.operator "Bob@example.com") :=
    nonBlank?_termQuery hbob false Aspect.sender.operator
  rw [hterm, textPredicates, SearchOptions.predicates, hquery, Option.map_some,
    hbob.parse_termQuery]
  decide +kernel

/-- The sender of the message of the sample is suggested, and found. -/
theorem suggestions_lead_to_sample :
    suggestSender "Bob@example.com" ∈ suggest sampleService.source "user-1" "bob" {} ∧
      ∃ result state', sampleService.run ⟨sampleCalls.message.sentAt, 0⟩ "user-1"
        { query := some (suggestSender "Bob@example.com"), limit := 20 } {} =
          (.ok result, state') ∧ result.page.messages ≠ [] := by
  have hsenders : sampleService.source.topSenders "user-1" 10 = .ok [⟨"Bob@example.com", 1⟩] :=
    topValues_singleton sampleStore rfl (by decide)
  have hsubjects : sampleService.source.topSubjects "user-1" 10 =
      .ok [⟨"Quarterly report", 1⟩] :=
    topValues_singleton sampleStore rfl (by decide)
  have hquery : trimString "bob" = "bob" := by decide
  have hsuggested : suggestSender "Bob@example.com" ∈
      suggest sampleService.source "user-1" "bob" {} := by
    simp only [suggest, hquery, hsenders, hsubjects]
    decide
  have hyears : (Database.after sampleCalls).HasPlainYears := by
    intro s hs
    cases hs
    exact hasPlainYears_sampleStore
  obtain ⟨senders, subjects, hpool, -, -, hfinds, -⟩ := suggestions_lead_to_messages sampleCalls
    (s := sampleService) rfl hyears ⟨sampleCalls.message.sentAt, 0⟩ hsuggested
  obtain rfl := Except.ok.inj (hsenders.symm.trans hpool)
  have hfound := (hfinds _ (List.mem_singleton_self _) rfl (isOneSender_of_no_colon (by decide) _)
    (nulInLastPart_of_not_mem (by decide))).resolve_right fun hrefuses => hrefuses.1 fits_bob
  exact ⟨hsuggested, hfound 20 {} (congrArg Prod.fst (readCache_new rfl _ _))⟩

/-! ## A subject with quotes -/

/-- An account and its one message, whose subject stands in quotes. -/
def quotedCalls : List StoreCall :=
  [.account ⟨"acc-1", "user-1", "ann@example.com", none⟩, .message message]
where
  /-- The message. -/
  message : Message := { sampleCalls.message with subject := some "\"urgent\"", attachments := [] }

/-- The service that suggests the subject and searches for it. -/
def quotedService : SearchService MemoryCache := Config.service {} (Database.after quotedCalls)

/-- The time of the search. -/
def quotedMoment : Moment := ⟨quotedCalls.message.sentAt, 0⟩

theorem scan_quoted : Token.scan (trimString (suggestSubject "\"urgent\"")).toList =
    [.term false ['s', 'u', 'b', 'j', 'e', 'c', 't'] .subject
      (.bare ['"', '"', 'u', 'r', 'g', 'e', 'n', 't', '"', '"'])] := by
  have htext : (trimString (suggestSubject "\"urgent\"")).toList =
      ['s', 'u', 'b', 'j', 'e', 'c', 't', ':'] ++
        ['"', '"', 'u', 'r', 'g', 'e', 'n', 't', '"', '"'] := by
    decide
  rw [htext, Token.scan_of_trimLeft_cons rfl, Token.scan_of_trimLeft_nil rfl]
  decide

/-- The store of the sample. -/
def quotedStore : Store := (Database.after quotedCalls).store.getD {}

theorem suggest_quoted : suggestSubject "\"urgent\"" ∈
    suggest quotedService.source "user-1" "urgent" {} := by
  have hsenders : quotedService.source.topSenders "user-1" 10 = .ok [⟨"Bob@example.com", 1⟩] :=
    topValues_singleton quotedStore rfl (by decide)
  have hsubjects : quotedService.source.topSubjects "user-1" 10 = .ok [⟨"\"urgent\"", 1⟩] :=
    topValues_singleton quotedStore rfl (by decide)
  have hquery : trimString "urgent" = "urgent" := by decide
  simp only [suggest, hquery, hsenders, hsubjects]
  decide

/-- The search for the suggestion. -/
def quotedOptions : SearchOptions := { query := some (suggestSubject "\"urgent\"") }

/-- The predicates of the search. -/
def quotedPredicates : PredicateSet :=
  PredicateSet.compile "user-1"
    (quotedOptions.queryText?.map (ParsedQuery.parse quotedMoment.clock)) quotedOptions

theorem quotedPredicates_eq :
    quotedPredicates = ⟨"user-1", [.subjectContains ["\"\"urgent\"\""] false]⟩ := by
  have hquery : quotedOptions.queryText? =
      some (trimString (suggestSubject "\"urgent\"")) := by decide
  rw [quotedPredicates, hquery, Option.map_some, ParsedQuery.parse, scan_quoted]
  decide

theorem full_quotedStore : quotedStore.full quotedCalls.message = quotedCalls.message :=
  Store.full_eq_self rfl rfl

theorem messages_quotedStore :
    quotedStore.messages = [quotedCalls.message].map MessageRow.ofMessage := rfl

theorem hasPlainYears_quotedCalls : (Database.after quotedCalls).HasPlainYears := by
  intro s hs
  cases hs
  refine Store.hasPlainYears_of_messages messages_quotedStore fun m hm => ?_
  rw [List.mem_singleton.mp hm]
  decide

theorem isComparable_quotedPredicates :
    ∀ p ∈ quotedPredicates.toList, p.IsComparable ∧ p.HasNoEmptyText := by
  have hneedle : IsPlain "\"\"urgent\"\"".toList := by decide
  rw [quotedPredicates_eq]
  intro p hp
  simp only [PredicateSet.toList, List.mem_cons, List.not_mem_nil, or_false] at hp
  rcases hp with rfl | rfl
  · exact ⟨trivial, trivial⟩
  · refine ⟨fun needle hmem => ?_, trivial⟩
    rw [List.mem_singleton.mp hmem]
    exact hneedle

theorem takes_quoted : quotedStore.Takes quotedPredicates := by
  obtain ⟨s, hs, hf⟩ := Database.faithful_after quotedCalls
  obtain rfl : quotedStore = s := by rw [quotedStore, hs]; rfl
  refine hf.takes ?_
  rw [quotedPredicates_eq]
  decide +kernel

theorem fetch_quoted : quotedService.fetch "user-1"
    (quotedOptions.queryText?.map (ParsedQuery.parse quotedMoment.clock)) quotedOptions =
      .ok ⟨[], 0⟩ := by
  obtain ⟨s, hs, hf⟩ := Database.faithful_after quotedCalls
  obtain rfl : quotedStore = s := by rw [quotedStore, hs]; rfl
  have hselects : ∀ m ∈ [quotedCalls.message], quotedStore.selects quotedPredicates m = false := by
    intro m hm
    obtain rfl := List.mem_singleton.mp hm
    have hrows := hf.attachmentsOf_full quotedCalls.message
    rw [full_quotedStore] at hrows
    have hholds : quotedPredicates.holds quotedCalls.message = false := by
      rw [quotedPredicates_eq]
      decide
    rw [takes_quoted.selects_eq hf List.mem_cons_self, full_quotedStore,
      PredicateSet.storeHolds_eq_holds hrows (by decide) (by decide) (by decide)
        isComparable_quotedPredicates, hholds]
  obtain ⟨hfind, hcount⟩ := takes_quoted.find_nothing messages_quotedStore hselects
    (quotedService.limit quotedOptions) 0
  exact fetch_of_store rfl rfl hfind hcount

/-- **A suggestion that finds nothing.** The grammar of queries has no escape for a quote, so the
subject `"urgent"` is suggested as `subject:""urgent""`, which is read as a subject with the two
more quotes. The search succeeds and finds nothing. -/
theorem quoted_subject_not_found :
    (Database.after quotedCalls).HasPlainYears ∧
      suggestSubject "\"urgent\"" ∈ suggest quotedService.source "user-1" "urgent" {} ∧
      ∃ result state', quotedService.run quotedMoment "user-1" quotedOptions {} =
        (.ok result, state') ∧ result.page.messages = [] := by
  refine ⟨hasPlainYears_quotedCalls, suggest_quoted, ?_⟩
  obtain ⟨result, state', hrun, hpage⟩ :=
    run_of_fetch (congrArg Prod.fst (readCache_new rfl _ _)) fetch_quoted
  exact ⟨result, state', hrun, by rw [hpage]⟩

end SearchService

end MailSearch
