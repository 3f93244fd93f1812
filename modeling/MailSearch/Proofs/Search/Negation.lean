import MailSearch.Proofs.Query.Negation
import MailSearch.Proofs.Search.Selected

/-!
# A minus turns a search around

Of the messages that a search without a query finds, the query of a term finds some, and the same
term with a minus the others: `Negatable.splits`. In the store this needs no condition on what the
messages hold. A missing sender or subject counts as an empty text there, so that every condition is
either true or false, and a negated one is what is left.

What it takes is that the engine does not refuse one of the searches, as it does in
`Database.long_sender_not_split`.
-/

namespace MailSearch

open Text Calendar

/-! ## Sets of predicates -/

/-- Of opposite predicates, the store too takes one to hold of each message, and not the other. -/
theorem Predicate.Opposite.storeHolds_eq {p q : Predicate} (h : Opposite p q) (m : Message) :
    q.storeHolds m = !p.storeHolds m := by
  cases h with
  | address => simp [storeHolds]
  | subject => simp [storeHolds]
  | attachment => cases hm : m.hasAttachments <;> simp [storeHolds, hm]
  | @flag flag expected => cases hm : m.flag flag <;> cases expected <;> simp [storeHolds, hm]

/-- Every one of the whole is in exactly one of two parts, which hold nothing else. -/
structure SplitsInto {α : Type} (whole one other : α → Prop) : Prop where
  covers : ∀ x, whole x ↔ one x ∨ other x
  disjoint : ∀ x, ¬ (one x ∧ other x)

theorem splitsInto_of_test {α : Type} {whole one other : α → Prop} (test : α → Bool)
    (hone : ∀ x, one x ↔ whole x ∧ test x = true)
    (hother : ∀ x, other x ↔ whole x ∧ (!test x) = true) : SplitsInto whole one other where
  covers x := by
    rw [hone, hother]
    cases test x <;> simp
  disjoint x := by
    rw [hone, hother]
    cases test x <;> simp

/-- One more member among others is one more condition. -/
theorem all_insert {α : Type} (f : α → Bool) (first x : α) (before after : List α) :
    (first :: (before ++ [x] ++ after)).all f = ((first :: (before ++ after)).all f && f x) := by
  simp only [List.all_cons, List.all_append, List.all_nil, Bool.and_true]
  ac_rfl

namespace PredicateSet

variable (userId : String) (before after : List Predicate) (p : Predicate) (m : Message)

theorem holds_insert : (⟨userId, before ++ [p] ++ after⟩ : PredicateSet).holds m =
    ((⟨userId, before ++ after⟩ : PredicateSet).holds m && p.holds m) :=
  all_insert _ _ p before after

theorem storeHolds_insert : (⟨userId, before ++ [p] ++ after⟩ : PredicateSet).storeHolds m =
    ((⟨userId, before ++ after⟩ : PredicateSet).storeHolds m && p.storeHolds m) :=
  all_insert _ _ p before after

end PredicateSet

/-! ## Options -/

namespace SearchOptions

/-- The options with another query. -/
def asking (o : SearchOptions) (query : Option String) : SearchOptions := { o with query }

theorem predicates_asking_none (o : SearchOptions) (clock : Timestamp) (userId : String) :
    (o.asking none).predicates clock userId =
      ⟨userId, Predicate.ofAccounts o ++ Predicate.ofOptions o⟩ := by
  have haccounts : Predicate.ofAccounts (o.asking none) = Predicate.ofAccounts o := rfl
  have hoptions : Predicate.ofOptions (o.asking none) = Predicate.ofOptions o := rfl
  have hquery : (o.asking none).queryText? = none := rfl
  rw [predicates, hquery, PredicateSet.compile, haccounts, hoptions, Option.map_none,
    Option.map_none, Option.getD_none, List.append_nil]

theorem predicates_asking_term (o : SearchOptions) (clock : Timestamp) (userId : String)
    {value : String} (h : IsBareValue value) (negated : Bool) (op : Operator) :
    (o.asking (some (termQuery negated op value))).predicates clock userId =
      ⟨userId, Predicate.ofAccounts o ++
        Predicate.ofQuery (ParsedQuery.parse clock (termQuery negated op value)) ++
          Predicate.ofOptions o⟩ := by
  have hquery : (o.asking (some (termQuery negated op value))).queryText? =
      some (termQuery negated op value) := nonBlank?_termQuery h negated op
  rw [predicates, hquery]
  rfl

end SearchOptions

/-! ## Stores -/

/-- A part and what is left of it make up the whole. -/
theorem filter_perm_of_test {α : Type} {whole one other : α → Bool} {l : List α} (test : α → Bool)
    (hone : ∀ x ∈ l, one x = (whole x && test x))
    (hother : ∀ x ∈ l, other x = (whole x && !test x)) :
    (l.filter whole).Perm (l.filter one ++ l.filter other) := by
  have hleft : l.filter one = (l.filter whole).filter test := by
    rw [List.filter_filter]
    exact List.filter_congr fun x hx => by rw [hone x hx, Bool.and_comm]
  have hright : l.filter other = (l.filter whole).filter fun x => !test x := by
    rw [List.filter_filter]
    exact List.filter_congr fun x hx => by rw [hother x hx, Bool.and_comm]
  rw [hleft, hright]
  exact (List.filter_append_perm test _).symm

namespace Store

variable {s : Store} {whole one other : PredicateSet}

/-- What a search with one more predicate selects, where the engine takes both. -/
theorem Takes.selects_insert {userId : String} {before after : List Predicate} {p : Predicate}
    (hwhole : s.Takes ⟨userId, before ++ after⟩) (hone : s.Takes ⟨userId, before ++ [p] ++ after⟩)
    (hf : s.Faithful) {m : Message} (hm : MessageRow.ofMessage m ∈ s.messages) :
    s.selects ⟨userId, before ++ [p] ++ after⟩ m =
      (s.selects ⟨userId, before ++ after⟩ m && p.storeHolds (s.full m)) := by
  rw [hone.selects_eq hf hm, hwhole.selects_eq hf hm, PredicateSet.storeHolds_insert]

/-- Two searches that a test tells apart show the parts of what the whole shows. -/
theorem shownIds_perm_append {ms : List Message} (test : Message → Bool)
    (hone : ∀ m ∈ ms, s.selects one m = (s.selects whole m && test m))
    (hother : ∀ m ∈ ms, s.selects other m = (s.selects whole m && !test m)) :
    (s.shownIds whole ms).Perm (s.shownIds one ms ++ s.shownIds other ms) := by
  have hids := (filter_perm_of_test test hone hother).map (·.id)
  rw [List.map_append] at hids
  have hparts := (s.shownIds_perm one ms).append (s.shownIds_perm other ms)
  exact (s.shownIds_perm whole ms).trans (hids.trans hparts.symm)

end Store

theorem Database.selects_and_iff {db : Database} {s : Store} (hs : db.store = some s)
    {whole part : PredicateSet} {test : Message → Bool}
    (h : ∀ m, MessageRow.ofMessage m ∈ s.messages →
      s.selects part m = (s.selects whole m && test m)) (m : Message) :
    db.Selects part m ↔ db.Selects whole m ∧ test m = true := by
  simp only [Selects, hs, Option.some.injEq, exists_eq_left', and_assoc]
  refine and_congr_right fun hm => ?_
  rw [h m hm, Bool.and_eq_true]

/-! ## Searches -/

/-- Two searches show, on their pages, the two parts of what another search shows. -/
structure Database.Splits (db : Database) (clock : Timestamp) (userId : String)
    (whole one other : SearchOptions) (all found others : List String) : Prop where
  /-- Of the messages that the search selects, each is selected by exactly one of the two. -/
  selects : SplitsInto (db.Selects (whole.predicates clock userId))
    (db.Selects (one.predicates clock userId)) (db.Selects (other.predicates clock userId))
  /-- The lists hold the ids of the messages that are selected, each once. -/
  showsAll : db.Shows (whole.predicates clock userId) all
  showsFound : db.Shows (one.predicates clock userId) found
  showsOthers : db.Shows (other.predicates clock userId) others
  /-- Two of them make up the third. -/
  parts : all.Perm (found ++ others)
  /-- So the counts of the parts add up. -/
  count : db.count (whole.predicates clock userId).clause = .ok (found.length + others.length)
  /-- What any service over the database gives are pages of these lists, with their lengths. -/
  pages : ∀ {σ : Type} (s : SearchService σ), s.source = db.source →
    s.GivesPage db clock userId whole all ∧ s.GivesPage db clock userId one found ∧
      s.GivesPage db clock userId other others

/-- Opposite predicates split what a search shows, where the engine refuses none of the three. -/
theorem Database.splits_of_opposite (calls : List StoreCall) {clock : Timestamp} {userId : String}
    {whole one other : SearchOptions} {before after : List Predicate} {p q : Predicate}
    (hpq : Predicate.Opposite p q)
    (hwhole : whole.predicates clock userId = ⟨userId, before ++ after⟩)
    (hone : one.predicates clock userId = ⟨userId, before ++ [p] ++ after⟩)
    (hother : other.predicates clock userId = ⟨userId, before ++ [q] ++ after⟩)
    (hrefused : ¬ ((Database.after calls).Refuses (whole.predicates clock userId) ∨
      (Database.after calls).Refuses (one.predicates clock userId) ∨
        (Database.after calls).Refuses (other.predicates clock userId))) :
    ∃ all found others,
      (Database.after calls).Splits clock userId whole one other all found others := by
  obtain ⟨s, hs, hf⟩ := Database.faithful_after calls
  obtain ⟨ms, hms, hnodup, -⟩ := hf.messages
  have htakes (set : PredicateSet) (h : ¬ s.Refuses set) : s.Takes set :=
    (hf.takes_or_refuses set).resolve_right h
  simp only [refuses_iff hs, not_or] at hrefused
  have htwhole := htakes _ hrefused.1
  have htone := htakes _ hrefused.2.1
  have htother := htakes _ hrefused.2.2
  -- the store looks at the attachments in its rows, whatever the message itself lists
  let test (m : Message) : Bool := p.storeHolds (s.full m)
  have hselects : ∀ m, MessageRow.ofMessage m ∈ s.messages →
      s.selects (one.predicates clock userId) m =
          (s.selects (whole.predicates clock userId) m && test m) ∧
        s.selects (other.predicates clock userId) m =
          (s.selects (whole.predicates clock userId) m && !test m) := by
    rw [hwhole] at htwhole ⊢
    rw [hone] at htone ⊢
    rw [hother] at htother ⊢
    intro m hm
    refine ⟨htwhole.selects_insert htone hf hm, ?_⟩
    rw [htwhole.selects_insert htother hf hm, hpq.storeHolds_eq]
  have hrow : ∀ m ∈ ms, MessageRow.ofMessage m ∈ s.messages := fun m hm =>
    hms ▸ List.mem_map_of_mem hm
  have hparts := Store.shownIds_perm_append test (fun m hm => (hselects m (hrow m hm)).1)
    fun m hm => (hselects m (hrow m hm)).2
  have hshows := htwhole.shows hs hf hms hnodup
  have hshowsone := htone.shows hs hf hms hnodup
  have hshowsother := htother.shows hs hf hms hnodup
  refine ⟨_, _, _, ?_, hshows, hshowsone, hshowsother, hparts, ?_, fun service hsource => ?_⟩
  · exact splitsInto_of_test test (selects_and_iff hs fun m hm => (hselects m hm).1)
      (selects_and_iff hs fun m hm => (hselects m hm).2)
  · rw [hshows.count, hparts.length_eq, List.length_append]
  · exact ⟨SearchService.givesPage_of_shows hsource hshows,
      SearchService.givesPage_of_shows hsource hshowsone,
      SearchService.givesPage_of_shows hsource hshowsother⟩

/-- The pattern of a term fits, if it has one. -/
def Aspect.TermFits (value : String) : Aspect → Prop
  | sender | recipient | subject => PatternFits value
  | has | status => True

/-- The search for a negatable term alone fits, if its pattern does. -/
theorem Negatable.fits {aspect : Aspect} {value : String} (h : Negatable aspect value)
    (hfit : aspect.TermFits value) (negated : Bool) (userId : String) :
    (⟨userId, Predicate.ofAspect negated value aspect⟩ : PredicateSet).Fits := by
  have hnone {p : Predicate} (hneedles : p.needles = []) : p.PatternsFit := by
    rw [Predicate.PatternsFit, hneedles]
    exact fun _ hneedle => nomatch hneedle
  have hset {p : Predicate} (hp : p.PatternsFit) :
      (⟨userId, [p]⟩ : PredicateSet).PatternsFit :=
    List.forall_mem_cons.mpr ⟨hnone rfl, List.forall_mem_singleton.mpr hp⟩
  cases h with
  | sender _ | recipient _ | subject _ =>
    refine ⟨?_, hset (List.forall_mem_singleton.mpr hfit)⟩
    cases negated <;> exact ⟨Nat.le_of_ble_eq_true rfl, Nat.le_of_ble_eq_true rfl⟩
  | has h =>
    rw [Predicate.ofAspect, if_pos h]
    refine ⟨?_, hset (hnone rfl)⟩
    cases negated <;> exact ⟨Nat.le_of_ble_eq_true rfl, Nat.le_of_ble_eq_true rfl⟩
  | status h =>
    obtain ⟨mark, hmark⟩ := Option.isSome_iff_exists.mp h
    rw [Predicate.ofAspect, Predicate.ofStatus?, hmark]
    exact ⟨⟨Nat.le_of_ble_eq_true rfl, Nat.le_of_ble_eq_true rfl⟩, hset (hnone rfl)⟩

/-- The predicates of a search for a term alone. -/
theorem IsBareValue.predicates_term {value : String} (h : IsBareValue value) (clock : Timestamp)
    (userId : String) (negated : Bool) (aspect : Aspect) :
    ({ query := some (termQuery negated aspect.operator value) } : SearchOptions).predicates clock
      userId = ⟨userId, Predicate.ofAspect negated value aspect⟩ := by
  have hset := ({} : SearchOptions).predicates_asking_term clock userId h negated aspect.operator
  rw [h.parse_termQuery, Predicate.ofQuery_addAspect] at hset
  exact hset.trans (congrArg (PredicateSet.mk userId) (List.append_nil _))

/-- **Negation is what is left.** After any calls on a new database, the query of a negatable term
and the same with a minus split what a search without a query finds, whatever other filters the
searches have. So it is in memory, and in the store unless the engine refuses one of the searches;
of those without other filters it refuses none whose pattern fits. Without filters, a search without
a query finds all messages of the user. -/
theorem Negatable.splits {aspect : Aspect} {value : String} (h : Negatable aspect value)
    (calls : List StoreCall) (clock : Timestamp) (userId : String) :
    (∀ o : SearchOptions,
      SplitsInto (fun m => ((o.asking none).predicates clock userId).holds m = true)
        (fun m => ((o.asking (some (termQuery false aspect.operator value))).predicates clock
          userId).holds m = true)
        fun m => ((o.asking (some (termQuery true aspect.operator value))).predicates clock
          userId).holds m = true) ∧
    (∀ o : SearchOptions,
      (∃ all found others, (Database.after calls).Splits clock userId (o.asking none)
        (o.asking (some (termQuery false aspect.operator value)))
        (o.asking (some (termQuery true aspect.operator value))) all found others) ∨
      (Database.after calls).Refuses ((o.asking none).predicates clock userId) ∨
      (Database.after calls).Refuses
        ((o.asking (some (termQuery false aspect.operator value))).predicates clock userId) ∨
      (Database.after calls).Refuses
        ((o.asking (some (termQuery true aspect.operator value))).predicates clock userId)) ∧
    (aspect.TermFits value →
      ∃ all found others, (Database.after calls).Splits clock userId {}
        { query := some (termQuery false aspect.operator value) }
        { query := some (termQuery true aspect.operator value) } all found others) ∧
    (∀ m, (({} : SearchOptions).predicates clock userId).holds m = true ↔ m.userId = userId) ∧
    ∀ m, (Database.after calls).Selects (({} : SearchOptions).predicates clock userId) m ↔
      (Database.after calls).Holds m ∧ m.userId = userId := by
  obtain ⟨p, q, hpq, hquery⟩ := h.exists_opposite
  obtain ⟨hp, hq⟩ := hquery clock
  have hwhole (o : SearchOptions) := o.predicates_asking_none clock userId
  have hone (o : SearchOptions) :=
    o.predicates_asking_term clock userId h.isBareValue false aspect.operator
  have hother (o : SearchOptions) :=
    o.predicates_asking_term clock userId h.isBareValue true aspect.operator
  have hall : ({} : SearchOptions).predicates clock userId = .forUser userId := hwhole {}
  have hterm (hfit : aspect.TermFits value) (negated : Bool) :
      (({ query := some (termQuery negated aspect.operator value) } : SearchOptions).predicates
        clock userId).Fits :=
    h.isBareValue.predicates_term clock userId negated aspect ▸ h.fits hfit negated userId
  simp only [hp] at hone
  simp only [hq] at hother
  refine ⟨fun o => ?_, fun o => ?_, fun hfit => ?_, fun m => ?_, fun m => ?_⟩
  · refine splitsInto_of_test (fun m => p.holds m) (fun m => ?_) fun m => ?_
    · rw [hone, hwhole, PredicateSet.holds_insert, Bool.and_eq_true]
    · rw [hother, hwhole, PredicateSet.holds_insert, hpq.holds_eq, Bool.and_eq_true]
  · refine or_iff_not_imp_right.mpr fun hrefused => ?_
    exact Database.splits_of_opposite calls hpq (hwhole o) (hone o) (hother o) hrefused
  · refine Database.splits_of_opposite calls hpq (hwhole {}) (hone {}) (hother {}) ?_
    rintro (hrefuses | hrefuses | hrefuses)
    · exact hrefuses.1 (hall ▸ PredicateSet.fits_forUser userId)
    · exact hrefuses.1 (hterm hfit false)
    · exact hrefuses.1 (hterm hfit true)
  · rw [hall, PredicateSet.holds_iff]
    simp [PredicateSet.forUser]
  · rw [hall]
    simp only [Database.Selects, Database.Holds, Store.selects_forUser, decide_eq_true_eq]
    constructor
    · rintro ⟨s, hs, hm, huser⟩
      exact ⟨⟨s, hs, hm⟩, huser⟩
    · rintro ⟨⟨s, hs, hm⟩, huser⟩
      exact ⟨s, hs, hm, huser⟩

/-- The searches for `from:bob` and for `-from:bob` split the messages of the sample's user. -/
theorem splits_sample :
    ∃ all found others, (Database.after sampleCalls).Splits sampleCalls.message.sentAt "user-1" {}
      { query := some "from:bob" } { query := some "-from:bob" } all found others := by
  have hbob : IsBareValue "bob" := by
    have hword : asciiLower "bob" ∈ ["bob"] := by decide
    exact isBareValue_of_words hword (by decide)
  have hqueries : termQuery false .sender "bob" = "from:bob" ∧
      termQuery true .sender "bob" = "-from:bob" := by decide
  have hfits : PatternFits "bob" := by decide
  obtain ⟨-, -, hsplits, -⟩ := (Negatable.sender hbob).splits sampleCalls
    sampleCalls.message.sentAt "user-1"
  have := hsplits hfits
  rwa [Aspect.operator, hqueries.1, hqueries.2] at this

/-! ## A sender that is too long -/

/-- The engine refuses to look for a word that is too long in the sender of a message. -/
theorem Condition.truth_sender_of_not_fits {word : String} (h : ¬ PatternFits word)
    (negated : Bool) (m : Message) (rows : List AttachmentRow) :
    (Predicate.addressContains .sender [word] negated).condition.truth (MessageRow.ofMessage m)
      rows = .error .patternTooLong := by
  have hsender : (Operand.orEmpty .fromAddress).cell { message := MessageRow.ofMessage m } =
      .text (m.fromAddress.getD "") := cell_orEmpty rfl
  have hscope : (Scope.addressContains [word] .sender).truth (MessageRow.ofMessage m) rows =
      .error .patternTooLong := Choice.truth_containsAny_of_not_fits hsender h
  rw [Predicate.condition, Condition.truth, hscope]
  rfl

/-- Such a search of the one message of the sample is not counted. -/
theorem count_of_sender_not_fits {word : String} (hword : IsBareValue word)
    (h : ¬ PatternFits word) (clock : Timestamp) (negated : Bool) :
    (Database.after sampleCalls).count
      (({ query := some (termQuery negated .sender word) } : SearchOptions).predicates clock
        "user-1").clause = .error .patternTooLong := by
  have hset := hword.predicates_term clock "user-1" negated .sender
  rw [Aspect.operator] at hset
  have hselect : sampleStore.select
      (⟨"user-1", Predicate.ofAspect negated word .sender⟩ : PredicateSet).clause =
        .error .patternTooLong := by
    have hrow := PredicateSet.select_singleton sampleCalls.message
      (sampleStore.attachmentRows (.text "m-1"))
      (p := .addressContains .sender [word] negated) rfl
    rw [Condition.truth_sender_of_not_fits h] at hrow
    rw [Store.select_of_messages_eq_singleton messages_sampleStore]
    exact congrArg (Except.map _) hrow
  have hclause : (⟨"user-1", Predicate.ofAspect negated word .sender⟩ :
      PredicateSet).clause.Fits := by
    cases negated <;> exact ⟨Nat.le_of_ble_eq_true rfl, Nat.le_of_ble_eq_true rfl⟩
  have hstore : (Database.after sampleCalls).store = some sampleStore := rfl
  rw [hset, Database.count_eq hstore, Store.count, hclause.prepare (Nat.zero_le 2), hselect]
  rfl

/-- With such a sender, both searches fail, while the one message of the sample is counted. -/
theorem Database.long_sender_not_split :
    (∀ negated, (Database.after sampleCalls).count
      (({ query := some (termQuery negated .sender longWord) } : SearchOptions).predicates
        sampleCalls.message.sentAt "user-1").clause = .error .patternTooLong) ∧
      (Database.after sampleCalls).count
        (({} : SearchOptions).predicates sampleCalls.message.sentAt "user-1").clause = .ok 1 := by
  have hlong : IsBareValue longWord := by
    unfold longWord
    exact isBareValue_repeatedWord (by decide)
  refine ⟨count_of_sender_not_fits hlong not_patternFits_longWord _, ?_⟩
  have htakes := faithful_sampleStore.takes (PredicateSet.fits_forUser "user-1")
  have hselects : sampleStore.selects (.forUser "user-1") sampleCalls.message = true := by
    rw [Store.selects_forUser]
    rfl
  have hset : ({} : SearchOptions).predicates sampleCalls.message.sentAt "user-1" =
      .forUser "user-1" := SearchOptions.predicates_asking_none {} _ _
  have hstore : (Database.after sampleCalls).store = some sampleStore := rfl
  rw [hset, count_eq hstore, htakes.count, SearchService.selectedCount_sampleStore,
    if_pos hselects]

end MailSearch
