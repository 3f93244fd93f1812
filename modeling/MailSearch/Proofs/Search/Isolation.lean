import MailSearch.Proofs.Clause.Truth
import MailSearch.Proofs.Search.Serving
import MailSearch.Proofs.Store.Finding

/-!
# Users are kept apart

* `PredicateSet.owner_of_select`: what the clause of a search selects belongs to its user, whatever
  its other conditions are.
* `Database.hasValue_of_mem_topValues`: the values that are counted for a user stand in messages of
  that user.
* `Session.results_are_own`: in every session, a user is shown nothing of the messages of others,
  be it served from the cache or not.
-/

namespace MailSearch

/-! ## Messages found -/

/-- Only one value is equal to a text. -/
theorem Test.cell_of_equal {b : Bindings} {operand : Operand} {t : String}
    (h : (Test.compare operand .equal (.text t)).truth b = .ok (some true)) :
    operand.cell b = .text t := by
  simp only [truth] at h
  split at h
  · cases h
  · have hequal : Comparison.equal.holds ((operand.cell b).compare (.text t)) = true :=
      Option.some.inj (Except.ok.inj h)
    exact Cell.eq_of_compare_text_eq (of_decide_eq_true hequal)

/-- What the clause of a search selects belongs to the user. -/
theorem PredicateSet.owner_of_select {set : PredicateSet} {row : MessageRow}
    {rows : List AttachmentRow} (h : set.clause.select row rows = .ok true) :
    row .userId = .text set.userId := by
  have howner := Clause.of_select h (Predicate.ownedBy set.userId).condition List.mem_cons_self
  obtain ⟨t, htruth, ht⟩ := Outcome.map_eq_ok howner
  obtain rfl : t = some true := ht
  exact Test.cell_of_equal htruth

/-- A row that is read as a message holds the message's user. -/
theorem MessageRow.userId_of_read {row : MessageRow} {m : Message} (h : row.read = .ok m) :
    row .userId = .text m.userId := by
  unfold read at h
  obtain ⟨_, -, h⟩ := Outcome.bind_eq_ok h
  obtain ⟨userId, huser, h⟩ := Outcome.bind_eq_ok h
  iterate 16 obtain ⟨_, -, h⟩ := Outcome.bind_eq_ok h
  cases h
  unfold text Cell.readText at huser
  split at huser
  · rename_i s hcell
    cases huser
    exact hcell
  · cases huser

/-- Every message on a page belongs to the user. -/
theorem Store.owner_of_mem_find {s : Store} {set : PredicateSet} {limit offset : Nat}
    {found : List Message} (h : s.find set.clause limit offset = .ok found) :
    ∀ m ∈ found, m.userId = set.userId := by
  intro m hm
  obtain ⟨-, -, h⟩ := Outcome.bind_eq_ok h
  obtain ⟨rows, hrows, h⟩ := Outcome.bind_eq_ok h
  obtain ⟨messages, hmessages, h⟩ := Outcome.bind_eq_ok h
  obtain ⟨x, hx, hfull⟩ := Outcome.exists_of_mapM_eq_ok h m hm
  obtain ⟨row, hrow, hread⟩ := Outcome.exists_of_mapM_eq_ok hmessages x hx
  obtain ⟨-, hselect⟩ :=
    Outcome.of_filterM_eq_ok hrows row (List.mem_mergeSort.mp (mem_of_mem_pageOf hrow))
  obtain ⟨attachments, -, rfl⟩ := Outcome.map_eq_ok hfull
  have hcell := MessageRow.userId_of_read hread
  rw [PredicateSet.owner_of_select hselect] at hcell
  exact (Cell.text.inj hcell).symm

/-- Every message on a page that a database gives a service belongs to the user. -/
theorem Database.owner_of_mem_fetch {db : Database} {config : Config} {userId : String}
    {query : Option ParsedQuery} {o : SearchOptions} {page : Page}
    (h : (config.service db).fetch userId query o = .ok page) :
    ∀ m ∈ page.messages, m.userId = userId := by
  obtain ⟨messages, hmessages, h⟩ := Outcome.bind_eq_ok h
  obtain ⟨total, -, h⟩ := Outcome.bind_eq_ok h
  cases h
  obtain ⟨s, -, hfind⟩ := Outcome.bind_eq_ok hmessages
  exact Store.owner_of_mem_find hfind

/-! ## Values counted -/

namespace Database

/-- The database holds the message. Its attachments are in rows of their own. -/
def Holds (db : Database) (m : Message) : Prop :=
  ∃ s, db.store = some s ∧ MessageRow.ofMessage m ∈ s.messages

/-- The address is that of a sender of one of the user's messages. -/
def HasSender (db : Database) (userId address : String) : Prop :=
  ∃ m, db.Holds m ∧ m.userId = userId ∧ m.fromAddress = some address

/-- The text is the subject of one of the user's messages. -/
def HasSubject (db : Database) (userId subject : String) : Prop :=
  ∃ m, db.Holds m ∧ m.userId = userId ∧ m.subject = some subject

end Database

theorem Cell.eq_of_ofText? {s : Option String} {t : String} (h : ofText? s = text t) :
    s = some t := by
  cases s with
  | none => cases h
  | some s => rw [Cell.text.inj h]

theorem Store.mem_columnValues_of_mem_topValues {s : Store} {userId : String}
    {column : MessageColumn} {limit : Nat} {v : ValueCount}
    (h : v ∈ s.topValues userId column limit) : v.value ∈ s.columnValues userId column := by
  obtain ⟨value, hvalue, rfl⟩ := List.mem_map.mp (List.mem_mergeSort.mp (mem_of_mem_pageOf h))
  exact List.mem_eraseDups.mp hvalue

/-- The values counted for a user stand in the rows of that user. -/
theorem Store.exists_row_of_mem_topValues {s : Store} {userId : String} {column : MessageColumn}
    {limit : Nat} {v : ValueCount} (h : v ∈ s.topValues userId column limit) :
    ∃ row ∈ s.messages, row .userId = .text userId ∧ row column = .text v.value := by
  have hcolumn := (List.mem_filter.mp (mem_columnValues_of_mem_topValues h)).1
  obtain ⟨row, hrow, htext⟩ := List.mem_filterMap.mp hcolumn
  obtain ⟨hmem, huser⟩ := List.mem_filter.mp hrow
  refine ⟨row, hmem, of_decide_eq_true huser, ?_⟩
  cases hcell : row column with
  | text s =>
    rw [hcell] at htext
    cases htext
    rfl
  | _ =>
    rw [hcell] at htext
    cases htext

/-- The values counted for a user stand in messages of that user. -/
theorem Database.hasValue_of_mem_topValues {db : Database} (hdb : db.Faithful) {userId : String}
    {column : MessageColumn} {limit : Nat} {values : List ValueCount}
    (h : db.topValues userId column limit = .ok values) :
    ∀ v ∈ values, ∃ m, db.Holds m ∧ m.userId = userId ∧
      MessageRow.ofMessage m column = .text v.value := by
  intro v hv
  obtain ⟨s, hs, hfaithful⟩ := hdb
  obtain ⟨ms, hms, -⟩ := hfaithful.messages
  simp only [topValues, withStore, hs] at h
  cases h
  obtain ⟨row, hrow, huser, hvalue⟩ := Store.exists_row_of_mem_topValues hv
  obtain ⟨m, hm, rfl⟩ := List.mem_map.mp (hms ▸ hrow)
  exact ⟨m, ⟨s, hs, hrow⟩, Cell.text.inj huser, hvalue⟩

/-- No empty value is counted. -/
theorem Database.ne_empty_of_mem_topValues {db : Database} {userId : String}
    {column : MessageColumn} {limit : Nat} {values : List ValueCount}
    (h : db.topValues userId column limit = .ok values) : ∀ v ∈ values, v.value ≠ "" := by
  intro v hv
  obtain ⟨s, -, h⟩ := Outcome.bind_eq_ok h
  cases h
  have hvalue := (List.mem_filter.mp (Store.mem_columnValues_of_mem_topValues hv)).2
  exact of_decide_eq_true hvalue

/-! ## Suggestions -/

theorem mem_candidates {query text : String} {senders subjects : List ValueCount}
    (h : text ∈ candidates query senders subjects) :
    (∃ v ∈ senders, text = suggestSender v.value) ∨
      (∃ v ∈ subjects, text = suggestSubject v.value) ∨ text ∈ rewrites query := by
  have hmatching : ∀ {pool value}, value ∈ matchingValues query pool →
      ∃ v ∈ pool, v.value = value :=
    fun hv => List.mem_map.mp (List.mem_filter.mp hv).1
  rcases List.mem_append.mp (List.mem_eraseDups.mp h) with h | h
  · rcases List.mem_append.mp h with h | h
    · obtain ⟨value, hvalue, rfl⟩ := List.mem_map.mp h
      obtain ⟨v, hv, rfl⟩ := hmatching hvalue
      exact .inl ⟨v, hv, rfl⟩
    · obtain ⟨value, hvalue, rfl⟩ := List.mem_map.mp h
      obtain ⟨v, hv, rfl⟩ := hmatching hvalue
      exact .inr (.inl ⟨v, hv, rfl⟩)
  · exact .inr (.inr h)

/-- Suggestions are candidates, made of the values that the source counts for the user. -/
theorem exists_of_mem_suggest {source : MessageSource} {userId query text : String}
    {config : SuggestionConfig} (h : text ∈ suggest source userId query config) :
    ∃ senders subjects, source.topSenders userId config.poolSize = .ok senders ∧
      source.topSubjects userId config.poolSize = .ok subjects ∧
      text ∈ candidates (Text.trimString query) senders subjects := by
  unfold suggest at h
  simp only at h
  split at h
  · cases h
  · split at h
    · rename_i senders subjects hsenders hsubjects
      exact ⟨senders, subjects, hsenders, hsubjects, List.mem_of_mem_take h⟩
    · cases h

/-- A suggestion comes from a value that the source counts for the user, or from the query. -/
theorem mem_suggest {source : MessageSource} {userId query text : String}
    {config : SuggestionConfig} (h : text ∈ suggest source userId query config) :
    (∃ pool, source.topSenders userId config.poolSize = .ok pool ∧
        ∃ v ∈ pool, text = suggestSender v.value) ∨
      (∃ pool, source.topSubjects userId config.poolSize = .ok pool ∧
        ∃ v ∈ pool, text = suggestSubject v.value) ∨
      text ∈ rewrites (Text.trimString query) := by
  obtain ⟨senders, subjects, hsenders, hsubjects, h⟩ := exists_of_mem_suggest h
  rcases mem_candidates h with hv | hv | hv
  · exact .inl ⟨senders, hsenders, hv⟩
  · exact .inr (.inl ⟨subjects, hsubjects, hv⟩)
  · exact .inr (.inr hv)

/-! ## Sessions -/

/-- What a search shows comes from its user alone: the messages found, the values counted, and the
suggestions, which are made of those values or of the query. -/
structure SearchRecord.IsOwn (r : SearchRecord) (result : SearchResult) : Prop where
  messages : ∀ m ∈ result.page.messages, m.userId = r.userId
  senders : ∀ limit values, r.service.source.topSenders r.userId limit = .ok values →
    ∀ v ∈ values, r.database.HasSender r.userId v.value
  subjects : ∀ limit values, r.service.source.topSubjects r.userId limit = .ok values →
    ∀ v ∈ values, r.database.HasSubject r.userId v.value
  suggestions : ∀ text ∈ result.suggestions,
    (∃ sender, r.database.HasSender r.userId sender ∧ text = suggestSender sender) ∨
    (∃ subject, r.database.HasSubject r.userId subject ∧ text = suggestSubject subject) ∨
    ∃ query, r.options.queryText? = some query ∧ text ∈ rewrites (Text.trimString query)

namespace SearchRecord

variable {r : SearchRecord} {before : List SearchRecord} {result : SearchResult}

theorem Explained.senders (h : r.Explained before) (limit : Nat) (values : List ValueCount)
    (hvalues : r.service.source.topSenders r.userId limit = .ok values) :
    ∀ v ∈ values, r.database.HasSender r.userId v.value := by
  intro v hv
  obtain ⟨m, hm, huser, hcell⟩ := Database.hasValue_of_mem_topValues h.database hvalues v hv
  exact ⟨m, hm, huser, Cell.eq_of_ofText? hcell⟩

theorem Explained.subjects (h : r.Explained before) (limit : Nat) (values : List ValueCount)
    (hvalues : r.service.source.topSubjects r.userId limit = .ok values) :
    ∀ v ∈ values, r.database.HasSubject r.userId v.value := by
  intro v hv
  obtain ⟨m, hm, huser, hcell⟩ := Database.hasValue_of_mem_topValues h.database hvalues v hv
  exact ⟨m, hm, huser, Cell.eq_of_ofText? hcell⟩

/-- The messages of a fresh page are the user's. -/
theorem Explained.messages_of_isFresh (h : r.Explained before) (hfresh : r.IsFresh result) :
    ∀ m ∈ result.page.messages, m.userId = r.userId :=
  Database.owner_of_mem_fetch (h.fresh result hfresh).1

theorem Explained.suggestions (h : r.Explained before) (hfresh : r.IsFresh result) :
    ∀ text ∈ result.suggestions,
      (∃ sender, r.database.HasSender r.userId sender ∧ text = suggestSender sender) ∨
      (∃ subject, r.database.HasSubject r.userId subject ∧ text = suggestSubject subject) ∨
      ∃ query, r.options.queryText? = some query ∧ text ∈ rewrites (Text.trimString query) := by
  intro text htext
  rw [(h.fresh result hfresh).2] at htext
  unfold SearchService.suggestionsFor at htext
  split at htext
  · rename_i query hquery
    split at htext
    · rcases mem_suggest htext with ⟨pool, hpool, v, hv, rfl⟩ | ⟨pool, hpool, v, hv, rfl⟩ | hrewrite
      · exact .inl ⟨_, h.senders _ pool hpool v hv, rfl⟩
      · exact .inr (.inl ⟨_, h.subjects _ pool hpool v hv, rfl⟩)
      · exact .inr (.inr ⟨query, hquery, hrewrite⟩)
    · cases htext
  · cases htext

end SearchRecord

/-- **Isolation.** Whatever is stored, searched and served in a session, what a user is shown comes
from that user alone. -/
theorem Session.results_are_own (start : Moment) (events : List Event) {r : SearchRecord}
    {result : SearchResult} (hr : r ∈ (after start events).log) (hok : r.outcome = .ok result) :
    r.IsOwn result := by
  have hsound := sound_after start events
  obtain ⟨before, later, hlog⟩ := List.append_of_mem hr
  have hexplained := hsound.records before r later hlog
  refine ⟨?_, hexplained.senders, hexplained.subjects, ?_⟩
  · cases hcached : result.cached with
    | false => exact hexplained.messages_of_isFresh ⟨hok, hcached⟩
    | true =>
      -- The page was fetched by an earlier search under this key, which is one of this user.
      obtain ⟨-, key, deadline, hkey, horigin, -⟩ := hexplained.served result ⟨hok, hcached⟩
      obtain ⟨earlier, origin, between, fresh, rfl, horiginKey, hfresh, hpage, -⟩ := horigin
      have horiginExplained := hsound.records earlier origin (between ++ r :: later)
        (by rw [hlog, List.append_assoc]; rfl)
      have huser := (SearchRecord.sameSearch_of_key? horiginKey hkey).userId
      rw [← hpage, ← huser]
      exact horiginExplained.messages_of_isFresh hfresh
  · cases hcached : result.cached with
    | false => exact hexplained.suggestions ⟨hok, hcached⟩
    | true =>
      rw [(hexplained.served result ⟨hok, hcached⟩).1]
      exact fun _ htext => nomatch htext

/-- The message that is served to its user is the user's. -/
theorem Session.results_of_sample_are_own :
    ∃ r ∈ (after ⟨sampleCalls.message.sentAt, 0⟩ sampleEvents).log, ∃ result,
      r.IsServed result ∧ result.page.messages = [sampleCalls.message] ∧ r.IsOwn result := by
  have hrecord : sampleRecord 1000 true ∈
      (after ⟨sampleCalls.message.sentAt, 0⟩ sampleEvents).log := by
    rw [log_sample]
    exact List.mem_cons_of_mem _ List.mem_cons_self
  exact ⟨_, hrecord, sampleResult true, ⟨rfl, rfl⟩, rfl,
    results_are_own _ sampleEvents hrecord rfl⟩

end MailSearch
