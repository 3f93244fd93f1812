import MailSearch.Proofs.Clause.Agreement
import MailSearch.Proofs.Query.Values
import MailSearch.Proofs.Store.Finding

/-!
# Two evaluations of a search agree

The clause of a search finds, in the database, exactly the stored messages for which its predicates
hold, newest first, and counts them: `Database.find_clause_agrees`. The database may be any that
calls on a new one lead to. The engine refuses some searches, none of which fits
(`PredicateSet.Fits`). What it cannot compare is left out by three conditions: stored years from
0000 to 9999 (`Database.HasPlainYears`), compared texts without NUL characters and the two
noncharacters (`Message.HasPlainTexts`), and bounds within reach (`Predicate.IsComparable`).
-/

namespace MailSearch

open Calendar Text

/-! ## The predicates of a search -/

section Predicates

variable {P : Predicate → Prop}

theorem forall_given {α : Type} {values : List α} {make : List α → Predicate}
    (h : P (make values)) : ∀ p ∈ Predicate.given values make, P p := by
  unfold Predicate.given
  split
  · simp
  · simpa using h

theorem forall_ofBounds {after before : Option Timestamp} (h : P (.sentWithin after before)) :
    ∀ p ∈ Predicate.ofBounds after before, P p := by
  unfold Predicate.ofBounds
  split
  · simpa using h
  · simp

theorem forall_toList {α : Type} {make : α → Predicate} (h : ∀ x, P (make x)) (value : Option α) :
    ∀ p ∈ (value.map make).toList, P p := by
  cases value with
  | none => simp
  | some x => simpa using h x

theorem forall_ite {c : Bool} {p : Predicate} (h : P p) :
    ∀ q ∈ if c then [p] else [], P q := by
  split
  · simpa using h
  · simp

theorem forall_ofStatus? (h : ∀ flag expected, P (.flagIs flag expected)) (negated : Bool)
    (values : List String) : ∀ p ∈ values.filterMap (Predicate.ofStatus? negated), P p := by
  intro p hp
  obtain ⟨value, -, hvalue⟩ := List.mem_filterMap.mp hp
  obtain ⟨⟨flag, expected⟩, -, rfl⟩ := Option.map_eq_some_iff.mp hvalue
  exact h flag _

end Predicates

/-- No predicate of a query asks for an empty folder or an empty term. -/
theorem Predicate.hasNoEmptyText_ofQuery (now : Timestamp) (query : String) :
    ∀ p ∈ Predicate.ofQuery (ParsedQuery.parse now query), p.HasNoEmptyText := by
  have hfolders : (inFolders (ParsedQuery.parse now query).folders).HasNoEmptyText :=
    ParsedQuery.folder_ne_empty now query
  have htexts : (mentions (ParsedQuery.parse now query).texts).HasNoEmptyText :=
    ParsedQuery.text_ne_empty now query
  unfold ofQuery
  simp only [List.forall_mem_append, and_assoc]
  exact ⟨forall_given trivial, forall_given trivial, forall_given trivial, forall_given trivial,
    forall_given trivial, forall_given trivial, forall_given trivial, forall_given trivial,
    forall_ite trivial, forall_ite trivial, forall_ofStatus? (fun _ _ => trivial) _ _,
    forall_ofStatus? (fun _ _ => trivial) _ _, forall_given hfolders, forall_given trivial,
    forall_given trivial, forall_toList (fun _ => trivial) _, forall_toList (fun _ => trivial) _,
    forall_ofBounds trivial, forall_given htexts⟩

/-- Nor does one of the options. -/
theorem Predicate.hasNoEmptyText_ofOptions (o : SearchOptions) :
    ∀ p ∈ Predicate.ofOptions o, p.HasNoEmptyText := by
  unfold ofOptions
  simp only [List.forall_mem_append, and_assoc]
  exact ⟨forall_given trivial, forall_given trivial, forall_ofBounds trivial,
    forall_toList (fun _ => trivial) _, forall_toList (fun _ => trivial) _,
    forall_toList (fun _ => trivial) _, forall_given trivial⟩

theorem PredicateSet.hasNoEmptyText_compile (userId query : String) (now : Timestamp)
    (o : SearchOptions) :
    ∀ p ∈ (compile userId (some (ParsedQuery.parse now query)) o).toList, p.HasNoEmptyText := by
  have haccounts : ∀ p ∈ Predicate.ofAccounts o, p.HasNoEmptyText := forall_given trivial
  simp only [toList, compile, Option.map_some, Option.getD_some, List.forall_mem_cons,
    List.forall_mem_append]
  exact ⟨trivial, ⟨haccounts, Predicate.hasNoEmptyText_ofQuery now query⟩,
    Predicate.hasNoEmptyText_ofOptions o⟩

/-! ## One message -/

/-- In the store, a message satisfies the predicates as it does in memory. -/
theorem PredicateSet.storeHolds_eq_holds {set : PredicateSet} {m : Message}
    {rows : List AttachmentRow} (hrows : AttachmentsOf rows m) (hyear : m.sentAt.HasPlainYear)
    (hregular : m.sentAt.IsRegular) (htexts : m.HasPlainTexts)
    (hset : ∀ p ∈ set.toList, p.IsComparable ∧ p.HasNoEmptyText) :
    set.storeHolds m = set.holds m := by
  rw [storeHolds, holds, Bool.eq_iff_iff, List.all_eq_true, List.all_eq_true]
  refine forall₂_congr fun p hp => ?_
  obtain ⟨hcomparable, hempty⟩ := hset p hp
  rw [p.storeHolds_eq_holds hrows.size_le hyear hregular htexts hcomparable hempty]

/-! ## A database -/

/-- Every stored message was sent in a year from 0000 to 9999. -/
def Database.HasPlainYears (db : Database) : Prop := ∀ s, db.store = some s → s.HasPlainYears

/-- **Agreement.** After any calls on a new database, the engine refuses a search, which then does
not fit; or else an unlimited page for its clause holds exactly the stored messages, as they are
read by their ids, that satisfy the predicates of the search. They stand newest first, and by id
where sent at one time, and the count is their number. -/
theorem Database.find_clause_agrees (calls : List StoreCall) (userId query : String)
    (now : Timestamp) (o : SearchOptions) (limit : Nat) (hlimit : maxInt64 < limit)
    (hyears : (Database.after calls).HasPlainYears)
    (htexts : ∀ id m, (Database.after calls).getMessage id = .ok (some m) → m.HasPlainTexts)
    (hbounds : ∀ p ∈ (PredicateSet.compile userId (some (ParsedQuery.parse now query)) o).toList,
      p.IsComparable) :
    (Database.after calls).Refuses
        (PredicateSet.compile userId (some (ParsedQuery.parse now query)) o) ∨
    ∃ found : List Message,
      (Database.after calls).find
          (PredicateSet.compile userId (some (ParsedQuery.parse now query)) o).clause limit 0 =
        .ok found ∧
      (Database.after calls).count
          (PredicateSet.compile userId (some (ParsedQuery.parse now query)) o).clause =
        .ok found.length ∧
      (∀ m, m ∈ found ↔ (Database.after calls).getMessage m.id = .ok (some m) ∧
        (PredicateSet.compile userId (some (ParsedQuery.parse now query)) o).holds m = true) ∧
      found.Pairwise Message.StandsBefore := by
  obtain ⟨s, hs, hf⟩ := Database.faithful_after calls
  obtain ⟨ms, hms, hnodup, hregular⟩ := hf.messages
  have hplain := hyears s hs
  have hempty := PredicateSet.hasNoEmptyText_compile userId query now o
  generalize PredicateSet.compile userId (some (ParsedQuery.parse now query)) o = set at *
  simp only [getMessage_eq hs, find_eq hs, count_eq hs, refuses_iff hs] at htexts ⊢
  refine (hf.takes_or_refuses set).symm.imp_right fun htakes => ?_
  have hkeep : ∀ m ∈ ms, s.selects set m = set.holds (s.full m) := by
    intro m hm
    have hrow : MessageRow.ofMessage m ∈ s.messages := hms ▸ List.mem_map_of_mem hm
    have hread : s.getMessage m.id = .ok (some (s.full m)) :=
      (hf.getMessage_iff hplain hms hnodup hregular).mpr ⟨m, hm, rfl, rfl⟩
    rw [htakes.selects_eq hf hrow]
    exact PredicateSet.storeHolds_eq_holds (hf.attachmentsOf_full m) (hplain m hrow)
      (hregular m hm) (htexts m.id _ hread) fun p hp => ⟨hbounds p hp, hempty p hp⟩
  obtain ⟨hfind, hcount⟩ := htakes.find_eq_ok hf hplain hms hregular hkeep limit 0
  rw [pageOf_unlimited hlimit] at hfind
  exact ⟨_, hfind, hcount, Store.mem_found hf hplain hms hnodup hregular fun _ _ => rfl,
    Store.found_newestFirst hplain hms hnodup hregular _⟩

/-! ## An account with one message -/

/-- An account and its one message. -/
def sampleCalls : List StoreCall :=
  [.account ⟨"acc-1", "user-1", "ann@example.com", none⟩, .message message]
where
  /-- The message. -/
  message : Message := {
    id := "m-1"
    userId := "user-1"
    accountId := "acc-1"
    threadId := none
    subject := some "Quarterly report"
    fromAddress := some "Bob@example.com"
    fromName := none
    toAddresses := ["ann@example.com"]
    ccAddresses := []
    bccAddresses := []
    bodyText := none
    bodyHtml := none
    sentAt := .startOfDay ⟨2024, 1, 15, by decide⟩
    isRead := false
    isStarred := false
    isImportant := false
    folder := some "Inbox"
    labels := []
    attachments := [⟨"a-1", "m-1", "report.pdf", none, 2048⟩] }

/-- The store that the calls lead to. -/
def sampleStore : Store := (Database.after sampleCalls).store.getD {}

theorem messages_sampleStore :
    sampleStore.messages = [sampleCalls.message].map MessageRow.ofMessage := rfl

theorem full_sampleStore : sampleStore.full sampleCalls.message = sampleCalls.message := by
  obtain ⟨row, hrow⟩ : ∃ row, sampleStore.attachments = [row] := ⟨_, rfl⟩
  have hrows : sampleStore.attachmentRows (.text "m-1") = sampleStore.attachments := rfl
  have hattached : sampleStore.attached "m-1" = sampleCalls.message.attachments := by
    rw [Store.attached, Store.attachmentsOf, hrows, hrow, List.mergeSort_singleton, ← hrow]
    rfl
  have hid : sampleCalls.message.id = "m-1" := rfl
  rw [Store.full, hid, hattached]
  rfl

theorem faithful_sampleStore : sampleStore.Faithful := by
  obtain ⟨s, hs, hf⟩ := Database.faithful_after sampleCalls
  cases hs
  exact hf

theorem hasPlainYears_sampleStore : sampleStore.HasPlainYears := by
  refine Store.hasPlainYears_of_messages messages_sampleStore fun m hm => ?_
  rw [List.mem_singleton.mp hm]
  decide

theorem isRegular_sample : ∀ m ∈ [sampleCalls.message], m.sentAt.IsRegular := by
  rw [List.forall_mem_singleton]
  decide

theorem hasPlainTexts_sample : sampleCalls.message.HasPlainTexts := by decide

theorem getMessage_sampleCalls {id : String} {m : Message} :
    (Database.after sampleCalls).getMessage id = .ok (some m) ↔
      id = "m-1" ∧ m = sampleCalls.message := by
  have hiff : sampleStore.getMessage id = .ok (some m) ↔
      ∃ x ∈ [sampleCalls.message], x.id = id ∧ sampleStore.full x = m :=
    faithful_sampleStore.getMessage_iff hasPlainYears_sampleStore messages_sampleStore (by simp)
      isRegular_sample
  refine hiff.trans ⟨?_, ?_⟩
  · rintro ⟨x, hx, rfl, rfl⟩
    rw [List.mem_singleton.mp hx]
    exact ⟨rfl, full_sampleStore⟩
  · rintro ⟨rfl, rfl⟩
    exact ⟨_, List.mem_singleton_self _, rfl, full_sampleStore⟩

theorem scan_sample : Token.scan "from:bob report".toList =
    [.term false ['f', 'r', 'o', 'm'] .sender (.bare ['b', 'o', 'b']),
      .word ['r', 'e', 'p', 'o', 'r', 't']] := by
  have hquery : "from:bob report".toList =
      ['f', 'r', 'o', 'm', ':', 'b', 'o', 'b', ' ', 'r', 'e', 'p', 'o', 'r', 't'] := by decide
  rw [hquery, Token.scan_of_trimLeft_cons rfl, Token.scan_of_trimLeft_cons rfl,
    Token.scan_of_trimLeft_nil rfl]
  decide

theorem compile_sample :
    PredicateSet.compile "user-1"
        (some (ParsedQuery.parse sampleCalls.message.sentAt "from:bob report")) {} =
      ⟨"user-1", [.addressContains .sender ["bob"] false, .mentions ["report"]]⟩ := by
  rw [ParsedQuery.parse, scan_sample]
  decide

theorem isComparable_sample : ∀ p ∈ (PredicateSet.compile "user-1"
    (some (ParsedQuery.parse sampleCalls.message.sentAt "from:bob report")) {}).toList,
    p.IsComparable := by
  have hbob : IsPlain "bob".toList := by decide
  have hreport : IsPlain "report".toList := by decide
  rw [compile_sample]
  intro p hp
  simp only [PredicateSet.toList, List.mem_cons, List.not_mem_nil, or_false] at hp
  rcases hp with rfl | rfl | rfl
  · trivial
  · intro needle hneedle
    rw [List.mem_singleton.mp hneedle]
    exact hbob
  · intro term hterm
    rw [List.mem_singleton.mp hterm]
    exact hreport

theorem fits_sample : (PredicateSet.compile "user-1"
    (some (ParsedQuery.parse sampleCalls.message.sentAt "from:bob report")) {}).Fits := by
  rw [compile_sample]
  decide +kernel

theorem holds_sample : (PredicateSet.compile "user-1"
    (some (ParsedQuery.parse sampleCalls.message.sentAt "from:bob report")) {}).holds
      sampleCalls.message = true := by
  rw [compile_sample]
  decide

/-- The message is found by its sender and a word of its subject. -/
theorem Database.find_clause_finds_sample :
    ∃ found, (Database.after sampleCalls).find (PredicateSet.compile "user-1"
        (some (ParsedQuery.parse sampleCalls.message.sentAt "from:bob report")) {}).clause
        (2 ^ 63) 0 = .ok found ∧ sampleCalls.message ∈ found := by
  have hyears : (Database.after sampleCalls).HasPlainYears := by
    intro s hs
    cases hs
    exact hasPlainYears_sampleStore
  have htexts : ∀ id m, (Database.after sampleCalls).getMessage id = .ok (some m) →
      m.HasPlainTexts := by
    intro id m hm
    rw [(getMessage_sampleCalls.mp hm).2]
    exact hasPlainTexts_sample
  obtain ⟨hno, -⟩ | ⟨found, hfind, -, hmem, -⟩ := Database.find_clause_agrees sampleCalls "user-1"
    "from:bob report" sampleCalls.message.sentAt {} (2 ^ 63) (by decide) hyears htexts
    isComparable_sample
  · exact absurd fits_sample hno
  · exact ⟨found, hfind, (hmem _).mpr ⟨getMessage_sampleCalls.mpr ⟨rfl, rfl⟩, holds_sample⟩⟩

end MailSearch
