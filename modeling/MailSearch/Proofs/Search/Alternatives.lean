import MailSearch.Proofs.Query.Repeated
import MailSearch.Proofs.Search.AddedTerms
import MailSearch.Proofs.Search.Negation

/-!
# Values of one operator

An operator may be given with several values. For eight operators they are alternatives: a message
is found if it is found with one of them. The marks of `is:` are asked for together, each with a
predicate of its own, so that a message is found if it is found with every one of them.

* `Operator.AnyOf op make`: the values of the operator make up one predicate, which holds if it
  holds with one of them alone (`Operator.AnyOf.holds_eq`, `Operator.AnyOf.storeHolds_eq`).
* `KnownValues.repeatsAs`: what a repeated operator finds, in memory and in the store.
-/

namespace MailSearch

open Text Calendar

/-! ## Predicates with several values -/

/-- The operators whose values make up one predicate, of which one has to be there. -/
inductive Operator.AnyOf : Operator → (List String → Predicate) → Prop
  | sender : AnyOf .sender (.addressContains .sender · false)
  | recipient : AnyOf .recipient (.addressContains .recipient · false)
  | cc : AnyOf .cc (.addressContains .cc · false)
  | bcc : AnyOf .bcc (.addressContains .bcc · false)
  | subject : AnyOf .subject (.subjectContains · false)
  | folder : AnyOf .folder .inFolders
  | label : AnyOf .label .labelled
  | filename : AnyOf .filename .attachmentNamed

/-- One of some values suits one of some items if one of the values alone does. -/
theorem any_any_eq {α β : Type} (items : List α) (values : List β) (test : α → β → Bool) :
    (items.any fun item => values.any (test item)) =
      values.any fun value => items.any fun item => [value].any (test item) := by
  rw [Bool.eq_iff_iff]
  simp only [List.any_eq_true, List.any_cons, List.any_nil, Bool.or_false]
  constructor
  · rintro ⟨item, hitem, value, hvalue, htest⟩
    exact ⟨value, hvalue, item, hitem, htest⟩
  · rintro ⟨value, hvalue, item, hitem, htest⟩
    exact ⟨item, hitem, value, hvalue, htest⟩

namespace Operator.AnyOf

variable {op : Operator} {make : List String → Predicate} (h : op.AnyOf make)
include h

theorem lists : op.lists = true := by
  cases h <;> rfl

theorem ne_status : op ≠ .status := by
  cases h <;> decide

theorem ofQuery_listing (values : List String) :
    Predicate.ofQuery (ParsedQuery.listing op values) = Predicate.given values make := by
  cases h <;> simp [ParsedQuery.listing, Predicate.ofQuery, Predicate.given_nil, Predicate.ofBounds]

/-- The predicate holds of a message if it does with one of the values alone. -/
theorem holds_eq (m : Message) (values : List String) :
    (make values).holds m = values.any fun value => (make [value]).holds m := by
  cases h with
  | sender | recipient | cc | bcc =>
    simp only [Predicate.holds, Bool.bne_false]
    exact any_any_eq _ values containsFolded
  | subject => simp [Predicate.holds, containsAny]
  | folder =>
    simp only [Predicate.holds]
    cases m.folder <;> simp [isAny]
  | label => exact any_any_eq m.labels values fun label value => fold value = fold label
  | filename => exact any_any_eq m.attachments values (containsFolded ·.filename)

/-- So it does as the store decides. -/
theorem storeHolds_eq (m : Message) (values : List String) :
    (make values).storeHolds m = values.any fun value => (make [value]).storeHolds m := by
  cases h with
  | sender | recipient | cc | bcc =>
    simp only [Predicate.storeHolds, Bool.bne_false]
    exact any_any_eq _ values likeFolded
  | subject => simp [Predicate.storeHolds, likesAny]
  | folder => simp [Predicate.storeHolds, isAny]
  | label => exact any_any_eq m.labels values fun label value => fold value = fold label
  | filename => exact any_any_eq m.attachments values (likeFolded ·.filename)

end Operator.AnyOf

/-! ## Queries of one operator -/

/-- Some values that an operator knows, each written without a blank or a quote. -/
inductive KnownValues : Operator → List String → Prop
  | anyOf {op : Operator} {make : List String → Predicate} {values : List String}
      (hop : op.AnyOf make) (hne : values ≠ []) (h : ∀ value ∈ values, IsBareValue value) :
      KnownValues op values
  | marks {values : List String} (hne : values ≠ [])
      (h : ∀ value ∈ values, (Predicate.flagOf? value).isSome = true) : KnownValues .status values

section Repeated

variable {op : Operator} {value : String} {values : List String} (now : Timestamp)

/-- The query asks for one of its values, each taken once. -/
theorem Operator.AnyOf.ofQuery_repeatedQuery {make : List String → Predicate}
    (hop : op.AnyOf make) (hne : values ≠ []) (h : ∀ value ∈ values, IsBareValue value) :
    Predicate.ofQuery (ParsedQuery.parse now (repeatedQuery op values)) =
      [make values.eraseDups] := by
  have hsome : values.eraseDups ≠ [] := by
    obtain ⟨value, hvalue⟩ := List.exists_mem_of_ne_nil values hne
    exact List.ne_nil_of_mem (List.mem_eraseDups.mpr hvalue)
  rw [ParsedQuery.parse_repeatedQuery hop.lists now h, hop.ofQuery_listing, Predicate.given,
    if_neg (by simpa using hsome)]

/-- With one value, the query asks for that one. -/
theorem Operator.AnyOf.ofQuery_termQuery {make : List String → Predicate} (hop : op.AnyOf make)
    (h : IsBareValue value) :
    Predicate.ofQuery (ParsedQuery.parse now (termQuery false op value)) = [make [value]] := by
  have hbare : ∀ v ∈ [value], IsBareValue v := List.forall_mem_singleton.mpr h
  rw [← repeatedQuery_singleton, hop.ofQuery_repeatedQuery now (List.cons_ne_nil _ _) hbare]
  rfl

/-- Every mark has a predicate of its own. -/
theorem ofQuery_repeatedStatus (h : ∀ value ∈ values, IsBareValue value) :
    Predicate.ofQuery (ParsedQuery.parse now (repeatedQuery .status values)) =
      values.eraseDups.filterMap (Predicate.ofStatus? false) := by
  rw [ParsedQuery.parse_repeatedQuery rfl now h]
  simp [ParsedQuery.listing, Predicate.ofQuery, Predicate.given_nil, Predicate.ofBounds]

theorem forall_repeatedStatus_iff {P : Predicate → Prop}
    (h : ∀ value ∈ values, IsBareValue value) :
    (∀ p ∈ Predicate.ofQuery (ParsedQuery.parse now (repeatedQuery .status values)), P p) ↔
      ∀ value ∈ values, ∀ p ∈ Predicate.ofStatus? false value, P p := by
  rw [ofQuery_repeatedStatus now h]
  simp only [List.mem_filterMap, List.mem_eraseDups, Option.mem_def]
  constructor
  · exact fun hall value hvalue p hp => hall p ⟨value, hvalue, hp⟩
  · rintro hall p ⟨value, hvalue, hp⟩
    exact hall value hvalue p hp

theorem forall_termStatus_iff {P : Predicate → Prop} (h : IsBareValue value) :
    (∀ p ∈ Predicate.ofQuery (ParsedQuery.parse now (termQuery false .status value)), P p) ↔
      ∀ p ∈ Predicate.ofStatus? false value, P p := by
  have hbare : ∀ v ∈ [value], IsBareValue v := List.forall_mem_singleton.mpr h
  rw [← repeatedQuery_singleton, forall_repeatedStatus_iff now hbare, List.forall_mem_singleton]

end Repeated

/-! ## Searches -/

/-- The query of a repeated operator, and those of its values. -/
def operatorQueries (op : Operator) (values : List String) : List String :=
  repeatedQuery op values :: values.map (termQuery false op)

theorem forall_operatorQueries_iff {op : Operator} {values : List String} {P : String → Prop} :
    (∀ query ∈ operatorQueries op values, P query) ↔
      P (repeatedQuery op values) ∧ ∀ value ∈ values, P (termQuery false op value) := by
  rw [operatorQueries, List.forall_mem_cons, List.forall_mem_map]

/-- What the query of a repeated operator finds, and what the queries of its values find. -/
structure RepeatsAs (op : Operator) (values : List String) (finds : String → Message → Prop) :
    Prop where
  /-- One value is enough, but not of marks. -/
  any : op ≠ .status → ∀ m, finds (repeatedQuery op values) m ↔
    ∃ value ∈ values, finds (termQuery false op value) m
  /-- Marks are asked for together. -/
  all : op = .status → ∀ m, finds (repeatedQuery op values) m ↔
    ∀ value ∈ values, finds (termQuery false op value) m
  /-- So the values are alternatives for a message, unless it has some of the marks that the query
  names, and not all. -/
  alternatives_iff : ∀ m,
    (finds (repeatedQuery op values) m ↔ ∃ value ∈ values, finds (termQuery false op value) m) ↔
      (op = .status → (∃ value ∈ values, finds (termQuery false op value) m) →
        ∀ value ∈ values, finds (termQuery false op value) m)

theorem RepeatsAs.of_any_all {op : Operator} {values : List String}
    {finds : String → Message → Prop} (hne : values ≠ [])
    (any : op ≠ .status → ∀ m, finds (repeatedQuery op values) m ↔
      ∃ value ∈ values, finds (termQuery false op value) m)
    (all : op = .status → ∀ m, finds (repeatedQuery op values) m ↔
      ∀ value ∈ values, finds (termQuery false op value) m) : RepeatsAs op values finds := by
  refine ⟨any, all, fun m => ?_⟩
  by_cases hop : op = .status
  · obtain ⟨first, hfirst⟩ := List.exists_mem_of_ne_nil values hne
    rw [all hop m]
    exact ⟨fun h _ => h.mpr, fun h => ⟨fun hall => ⟨first, hfirst, hall first hfirst⟩, h hop⟩⟩
  · exact iff_of_true (any hop m) fun h => absurd h hop

/-- What holds of every search that decides predicate by predicate. -/
theorem KnownValues.repeatsAs_of_tests {op : Operator} {values : List String}
    (h : KnownValues op values) {now : Timestamp} {finds : String → Message → Prop}
    {base : Message → Prop} {test : Message → Predicate → Bool}
    (hfinds : ∀ query ∈ operatorQueries op values, ∀ m, finds query m ↔
      base m ∧ ∀ p ∈ Predicate.ofQuery (ParsedQuery.parse now query), test m p = true)
    (hany : ∀ {op make}, Operator.AnyOf op make → ∀ m values,
      test m (make values) = values.any fun value => test m (make [value])) :
    RepeatsAs op values finds := by
  obtain ⟨hrepeated, hterm⟩ := forall_operatorQueries_iff.mp hfinds
  cases h with
  | @anyOf _ make _ hop hne h =>
    refine .of_any_all hne (fun _ m => ?_) fun hstatus => absurd hstatus hop.ne_status
    have hone : ∀ value ∈ values, finds (termQuery false op value) m ↔
        base m ∧ test m (make [value]) = true := by
      intro value hvalue
      rw [hterm value hvalue, hop.ofQuery_termQuery now (h value hvalue),
        List.forall_mem_singleton]
    have hmany : finds (repeatedQuery op values) m ↔
        base m ∧ ∃ value ∈ values, test m (make [value]) = true := by
      rw [hrepeated, hop.ofQuery_repeatedQuery now hne h, List.forall_mem_singleton, hany hop,
        List.any_eq_true]
      simp only [List.mem_eraseDups]
    rw [hmany]
    constructor
    · rintro ⟨hbase, value, hvalue, htest⟩
      exact ⟨value, hvalue, (hone value hvalue).mpr ⟨hbase, htest⟩⟩
    · rintro ⟨value, hvalue, hfound⟩
      obtain ⟨hbase, htest⟩ := (hone value hvalue).mp hfound
      exact ⟨hbase, value, hvalue, htest⟩
  | marks hne h =>
    have hbare : ∀ value ∈ values, IsBareValue value :=
      fun value hvalue => isBareValue_of_flagOf? (h value hvalue)
    refine .of_any_all hne (absurd rfl) fun _ m => ?_
    have hone : ∀ value ∈ values, finds (termQuery false .status value) m ↔
        base m ∧ ∀ p ∈ Predicate.ofStatus? false value, test m p = true := by
      intro value hvalue
      rw [hterm value hvalue, forall_termStatus_iff now (hbare value hvalue)]
    rw [hrepeated, forall_repeatedStatus_iff now hbare]
    constructor
    · rintro ⟨hbase, htests⟩ value hvalue
      exact (hone value hvalue).mpr ⟨hbase, htests value hvalue⟩
    · intro hfound
      obtain ⟨first, hfirst⟩ := List.exists_mem_of_ne_nil values hne
      exact ⟨((hone first hfirst).mp (hfound first hfirst)).1,
        fun value hvalue => ((hone value hvalue).mp (hfound value hvalue)).2⟩

/-- Where the engine takes a search, it selects the messages that the other predicates select, as
the store decides, and those of the query. -/
theorem Database.selects_compile_iff {db : Database} {s : Store} (hs : db.store = some s)
    (hf : s.Faithful) {userId : String} {q : ParsedQuery} {o : SearchOptions}
    (htakes : s.Takes (.compile userId (some q) o)) {m : Message} :
    db.Selects (.compile userId (some q) o) m ↔
      (MessageRow.ofMessage m ∈ s.messages ∧
        (PredicateSet.compile userId none o).storeHolds (s.full m) = true) ∧
        ∀ p ∈ Predicate.ofQuery q, p.storeHolds (s.full m) = true := by
  simp only [Selects, hs, Option.some.injEq, exists_eq_left', and_assoc]
  refine and_congr_right fun hm => ?_
  rw [htakes.selects_eq hf hm, PredicateSet.storeHolds, PredicateSet.storeHolds, List.all_eq_true,
    List.all_eq_true, PredicateSet.forall_mem_compile_iff]

/-- **Repeated operators.** Of the messages in memory, and of those stored after any calls on a new
database, the query of a repeated operator finds those that the query of one of its values finds,
and for `is:` those that the query of each of its values finds. In the store this is said of queries
that the engine does not refuse. -/
theorem KnownValues.repeatsAs {op : Operator} {values : List String} (h : KnownValues op values)
    (calls : List StoreCall) (userId : String) (now : Timestamp) (o : SearchOptions) :
    RepeatsAs op values
        (fun query m => (PredicateSet.ofText userId now query o).holds m = true) ∧
      ((∀ query ∈ operatorQueries op values,
          ¬ (Database.after calls).Refuses (.ofText userId now query o)) →
        RepeatsAs op values fun query m =>
          (Database.after calls).Selects (.ofText userId now query o) m) := by
  obtain ⟨s, hs, hf⟩ := Database.faithful_after calls
  constructor
  · exact h.repeatsAs_of_tests (fun _ _ _ => PredicateSet.holds_compile_iff) fun hop => hop.holds_eq
  · intro htaken
    have htakes : ∀ query ∈ operatorQueries op values, s.Takes (.ofText userId now query o) :=
      fun query hquery => (hf.takes_or_refuses _).resolve_right
        ((Database.refuses_iff hs).not.mp (htaken query hquery))
    exact h.repeatsAs_of_tests
      (fun query hquery _ => Database.selects_compile_iff hs hf (htakes query hquery))
      fun hop m => hop.storeHolds_eq (s.full m)

/-! ## One message -/

/-- Without other filters, the query of an operator asks for the user and its own predicates. -/
theorem PredicateSet.ofText_eq {now : Timestamp} {query : String} {predicates : List Predicate}
    (h : Predicate.ofQuery (ParsedQuery.parse now query) = predicates) (userId : String) :
    ofText userId now query {} = ⟨userId, predicates⟩ := by
  rw [ofText, compile, Option.map_some, Option.getD_some, h]
  exact congrArg (PredicateSet.mk userId) (List.append_nil _)

/-- A search of the sample that fits selects the message if its predicates are satisfied. -/
theorem selects_of_fits {now : Timestamp} {query : String} {predicates : List Predicate}
    (h : Predicate.ofQuery (ParsedQuery.parse now query) = predicates)
    (hfits : (⟨"user-1", predicates⟩ : PredicateSet).Fits) :
    (Database.after sampleCalls).Selects (.ofText "user-1" now query {}) sampleCalls.message ↔
      (⟨"user-1", predicates⟩ : PredicateSet).storeHolds sampleCalls.message = true := by
  have hstore : (Database.after sampleCalls).store = some sampleStore := rfl
  have hrow : MessageRow.ofMessage sampleCalls.message ∈ sampleStore.messages := by
    rw [messages_sampleStore]
    exact List.mem_map_of_mem (List.mem_singleton_self _)
  have hselects := (faithful_sampleStore.takes hfits).selects_eq faithful_sampleStore hrow
  rw [full_sampleStore] at hselects
  rw [PredicateSet.ofText_eq h]
  simp only [Database.Selects, hstore, Option.some.injEq, exists_eq_left', hrow, true_and, hselects]

/-- The message in the inbox is found by `in:archive in:inbox`. -/
theorem repeatsAs_sample :
    KnownValues .folder ["archive", "inbox"] ∧
      (Database.after sampleCalls).Selects
        (.ofText "user-1" sampleCalls.message.sentAt "in:archive in:inbox" {})
        sampleCalls.message := by
  have hwords : ∀ value ∈ ["archive", "inbox"], asciiLower value ∈ ["archive", "inbox"] := by decide
  have hbare : ∀ value ∈ ["archive", "inbox"], IsBareValue value := fun value hvalue =>
    isBareValue_of_words (hwords value hvalue) (by decide)
  have hknown : KnownValues .folder ["archive", "inbox"] := .anyOf .folder (by decide) hbare
  have hquery : repeatedQuery .folder ["archive", "inbox"] = "in:archive in:inbox" := by decide
  have hrepeated := Operator.AnyOf.folder.ofQuery_repeatedQuery sampleCalls.message.sentAt
    (by decide) hbare
  have hone : ∀ value ∈ ["archive", "inbox"], Predicate.ofQuery (ParsedQuery.parse
      sampleCalls.message.sentAt (termQuery false .folder value)) = [.inFolders [value]] :=
    fun value hvalue => Operator.AnyOf.folder.ofQuery_termQuery _ (hbare value hvalue)
  have hfits : ∀ value ∈ ["archive", "inbox"],
      (⟨"user-1", [.inFolders [value]]⟩ : PredicateSet).Fits := by
    decide +kernel
  obtain ⟨-, hselects⟩ := hknown.repeatsAs sampleCalls "user-1" sampleCalls.message.sentAt {}
  have htaken : ∀ query ∈ operatorQueries .folder ["archive", "inbox"],
      ¬ (Database.after sampleCalls).Refuses
        (.ofText "user-1" sampleCalls.message.sentAt query {}) := by
    refine forall_operatorQueries_iff.mpr ⟨fun hrefuses => ?_, fun value hvalue hrefuses => ?_⟩
    · rw [PredicateSet.ofText_eq hrepeated] at hrefuses
      exact hrefuses.1 (by decide +kernel)
    · rw [PredicateSet.ofText_eq (hone value hvalue)] at hrefuses
      exact hrefuses.1 (hfits value hvalue)
  have hfound := (selects_of_fits (hone "inbox" (by decide)) (hfits "inbox" (by decide))).mpr
    (by decide +kernel)
  rw [← hquery]
  exact ⟨hknown, ((hselects htaken).any (by decide) _).mpr ⟨"inbox", by decide, hfound⟩⟩

/-- Of two marks, the message has one. It is found by `is:unread`, and not by
`is:unread is:starred`. -/
theorem marks_not_alternatives :
    KnownValues .status ["unread", "starred"] ∧
      repeatedQuery .status ["unread", "starred"] = "is:unread is:starred" ∧
      ¬ ((Database.after sampleCalls).Selects (.ofText "user-1" sampleCalls.message.sentAt
            (repeatedQuery .status ["unread", "starred"]) {}) sampleCalls.message ↔
          ∃ value ∈ ["unread", "starred"], (Database.after sampleCalls).Selects
            (.ofText "user-1" sampleCalls.message.sentAt (termQuery false .status value) {})
            sampleCalls.message) := by
  have hmarks : ∀ value ∈ ["unread", "starred"], (Predicate.flagOf? value).isSome = true := by
    decide
  have hknown : KnownValues .status ["unread", "starred"] := .marks (by decide) hmarks
  have hbare : ∀ value ∈ ["unread", "starred"], IsBareValue value :=
    fun value hvalue => isBareValue_of_flagOf? (hmarks value hvalue)
  have hunread : ∀ value ∈ ["unread"], IsBareValue value := fun value hvalue =>
    hbare value (List.mem_cons.mpr (.inl (List.mem_singleton.mp hvalue)))
  have hboth := ofQuery_repeatedStatus sampleCalls.message.sentAt hbare
  have hone := ofQuery_repeatedStatus sampleCalls.message.sentAt hunread
  rw [repeatedQuery_singleton] at hone
  have hfound := (selects_of_fits hone (by decide +kernel)).mpr (by decide +kernel)
  refine ⟨hknown, by decide, fun hiff => ?_⟩
  have hstarred := (selects_of_fits hboth (by decide +kernel)).mp
    (hiff.mpr ⟨"unread", by decide, hfound⟩)
  revert hstarred
  decide +kernel

end MailSearch
