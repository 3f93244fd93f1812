import MailSearch.Proofs.Clause.Truth
import MailSearch.Proofs.Store.Faithful

/-!
# What a search decides of a stored message

The row of a message has texts wherever a predicate folds and lists wherever it looks for items,
and no test meets a missing value. So the condition for a predicate is true or false of every stored
message, and never undecided; and the one thing that can fail is a pattern that does not fit.

* `Predicate.storeHolds`: what the condition comes to. `Predicate.gives_stored`: it does, whatever
  the message holds.
* `PredicateSet.gives_stored`: what the clause of a search comes to.
* `Store.selects`, `Store.keeps`: what a search decides of a message, or a row, of a store.
  `Store.Faithful.gives_select`: the rows that are selected, unless the search is refused.
* `Store.Takes`, `Store.Refuses`: what the engine does with a search. `Database.count_after`: how
  many messages a search selects that is not refused.
-/

namespace MailSearch

open Text Calendar

/-! ## Attachments -/

/-- The rows are those of the attachments of the message. -/
structure AttachmentsOf (rows : List AttachmentRow) (m : Message) : Prop where
  of_row : ∀ r ∈ rows, ∃ a, r.Of a
  mem_iff : ∀ a, a ∈ m.attachments ↔ ∃ r ∈ rows, r.Of a

variable {row : MessageRow} {rows rows' : List AttachmentRow} {m : Message}

theorem AttachmentsOf.isEmpty_eq (h : AttachmentsOf rows m) :
    rows.isEmpty = m.attachments.isEmpty := by
  rw [Bool.eq_iff_iff, List.isEmpty_iff, List.isEmpty_iff, List.eq_nil_iff_forall_not_mem,
    List.eq_nil_iff_forall_not_mem]
  constructor
  · intro hnone a ha
    obtain ⟨r, hr, -⟩ := (h.mem_iff a).mp ha
    exact hnone r hr
  · intro hnone r hr
    obtain ⟨a, ha⟩ := h.of_row r hr
    exact hnone a ((h.mem_iff a).mpr ⟨r, hr, ha⟩)

/-- An attachment whose row is stored has a size that the store can hold. -/
theorem AttachmentsOf.size_le (h : AttachmentsOf rows m) :
    ∀ a ∈ m.attachments, a.sizeBytes.toNat ≤ maxInt64 := by
  intro a ha
  obtain ⟨r, -, hof⟩ := (h.mem_iff a).mp ha
  exact hof.cells.1

/-- The order of the rows does not matter. -/
theorem AttachmentsOf.perm (h : AttachmentsOf rows m) (hperm : rows.Perm rows') :
    AttachmentsOf rows' m where
  of_row r hr := h.of_row r (hperm.mem_iff.mpr hr)
  mem_iff a := by simp only [h.mem_iff, hperm.mem_iff]

/-- Rows that can be read are those of some attachments. -/
theorem exists_attachmentsOf (hrows : ∀ r ∈ rows, ∃ a, r.Of a) (m : Message) :
    ∃ attachments, AttachmentsOf rows { m with attachments } := by
  induction rows with
  | nil => exact ⟨[], hrows, by simp⟩
  | cons r rows ih =>
    obtain ⟨a, ha⟩ := hrows r List.mem_cons_self
    obtain ⟨attachments, h⟩ := ih fun r hr => hrows r (List.mem_cons_of_mem _ hr)
    refine ⟨a :: attachments, hrows, fun b => ?_⟩
    have hhead : r.Of b ↔ b = a := ⟨fun hb => hb.unique ha, fun hb => hb ▸ ha⟩
    have htail := h.mem_iff b
    simp only [List.mem_cons, exists_eq_or_imp, hhead] at htail ⊢
    rw [htail]

/-! ## Scopes -/

theorem Condition.gives_of_scope {fit : Prop} {scope : Scope} {b : Bool} (negated : Bool)
    (h : Gives fit (scope.truth row rows) (some b)) :
    Gives fit ((Condition.mk negated scope).truth row rows) (some (b != negated)) := by
  have hvalue : some (b != negated) = if negated then Truth.not (some b) else some b := by
    cases negated <;> cases b <;> rfl
  rw [hvalue]
  exact h.map _

theorem Condition.gives_plain {fit : Prop} {scope : Scope} {b : Bool}
    (h : Gives fit (scope.truth row rows) (some b)) :
    Gives fit ((Condition.mk false scope).truth row rows) (some b) := by
  have hplain := gives_of_scope false h
  rwa [Bool.bne_false] at hplain

theorem Condition.truth_plain {scope : Scope} {b : Bool}
    (h : scope.truth row rows = .ok (some b)) :
    (Condition.mk false scope).truth row rows = .ok (some b) := by
  have hdecided : Gives True (scope.truth row rows) (some b) := .inl h
  exact (gives_plain hdecided).eq_ok trivial

/-- Some item of a stored list satisfies a body of decided tests. -/
theorem Scope.gives_someItem {fit : Prop} {list : ListColumn} {body : Body}
    {values : List String} {p : String → Bool} (hcell : row list.column = .ofTexts values)
    (hbody : ∀ v, Gives fit (body.truth { message := row, item := .text v }) (some (p v))) :
    Gives fit ((Scope.someItem list body).truth row rows) (some (values.any p)) := by
  have hany : Gives fit (anyTrue (fun item => body.truth { message := row, item })
      (values.map Cell.text)) (values.any p) := gives_anyTrue fun v _ => hbody v
  simp only [truth, hcell, Cell.items?_ofTexts]
  exact hany.map some

/-- Some attachment of the message satisfies a body of decided tests. -/
theorem Scope.gives_someAttachment {fit : Prop} {body : Body} {p : Attachment → Bool}
    (hrows : AttachmentsOf rows m)
    (hbody : ∀ (r : AttachmentRow) (a : Attachment), r.Of a →
      Gives fit (body.truth { message := row, attachment := r }) (some (p a))) :
    Gives fit ((Scope.someAttachment (some body)).truth row rows)
      (some (m.attachments.any p)) := by
  let q (r : AttachmentRow) : Bool := match r.read with
    | .ok a => p a
    | .error _ => false
  have hq : ∀ (r : AttachmentRow) (a : Attachment), r.Of a → q r = p a := fun r a h => by
    simp only [q, h.read]
  have htest : ∀ r ∈ rows,
      Gives fit (body.truth { message := row, attachment := r }) (some (q r)) := by
    intro r hr
    obtain ⟨a, ha⟩ := hrows.of_row r hr
    rw [hq r a ha]
    exact hbody r a ha
  have hany : rows.any q = m.attachments.any p := by
    rw [Bool.eq_iff_iff, List.any_eq_true, List.any_eq_true]
    constructor
    · rintro ⟨r, hr, h⟩
      obtain ⟨a, ha⟩ := hrows.of_row r hr
      exact ⟨a, (hrows.mem_iff a).mpr ⟨r, hr, ha⟩, by rwa [← hq r a ha]⟩
    · rintro ⟨a, ha, h⟩
      obtain ⟨r, hr, hof⟩ := (hrows.mem_iff a).mp ha
      exact ⟨r, hr, by rwa [hq r a hof]⟩
  have hsearch : Gives fit (anyTrue (fun a => body.truth { message := row, attachment := a })
      (rows.map id)) (rows.any q) := gives_anyTrue htest
  rw [List.map_id, hany] at hsearch
  exact hsearch.map some

/-- A missing text counts as an empty one. -/
theorem cell_orEmpty {b : Bindings} {c : MessageColumn} {v : Option String}
    (h : b.message c = .ofText? v) : (Operand.orEmpty c).cell b = .text (v.getD "") := by
  simp only [Operand.cell, h]
  cases v <;> rfl

/-! ## Predicates -/

/-- The columns that free text is looked for in, with what a message has there. -/
def Message.searchedFields (m : Message) : List (MessageColumn × Option String) :=
  [(.subject, m.subject), (.bodyText, m.bodyText), (.bodyHtml, m.bodyHtml),
    (.fromAddress, m.fromAddress)]

/-- On which side of a bound a time is, as the store compares the two. -/
def Comparison.holdsStored (comparison : Comparison) (t bound : Timestamp) : Bool :=
  comparison.holds ((Cell.text t.stored).compare (.text bound.stored))

/-- Whether a message satisfies the condition, as the store decides it. -/
def Predicate.storeHolds (m : Message) : Predicate → Bool
  | ownedBy userId => m.userId = userId
  | inAccounts accountIds => accountIds.contains m.accountId
  | addressContains field needles negated =>
    (m.addresses field).any (likesAny needles) != negated
  | subjectContains needles negated => likesAny needles (m.subject.getD "") != negated
  | flagIs flag expected => m.flag flag = expected
  | attachmentExists expected => m.hasAttachments = expected
  | attachmentNamed needles => m.attachments.any (likesAny needles ·.filename)
  | attachmentSized side bytes => m.attachments.any fun a =>
      side.comparison.holds ((Cell.integer a.sizeBytes.toNat).compare (sizeParam bytes).cell)
  | sentWithin after before =>
    after.all (Comparison.atLeast.holdsStored m.sentAt) &&
      before.all (Comparison.atMost.holdsStored m.sentAt)
  | inFolders folders => isAny folders (m.folder.getD "")
  | labelled labels => m.labels.any (isAny labels)
  | mentions terms =>
    terms.all fun term => m.searchedFields.any fun f => likeFolded (f.2.getD "") term

/-- The condition for needles in an address field. -/
theorem Scope.gives_addressContains (needles : List String) (field : AddressField) :
    Gives (∀ needle ∈ needles, PatternFits needle)
      ((Scope.addressContains needles field).truth (MessageRow.ofMessage m) rows)
      (some ((m.addresses field).any (likesAny needles))) := by
  have hitem : ∀ (list : ListColumn) (v : String), Gives (∀ needle ∈ needles, PatternFits needle)
      ((Body.one (.containsAny (.item list) needles)).truth
        { message := MessageRow.ofMessage m, item := .text v }) (some (likesAny needles v)) :=
    fun list v => Choice.gives_containsAny rfl needles
  cases field with
  | sender =>
    have hcell := cell_orEmpty (b := { message := MessageRow.ofMessage m })
      (c := .fromAddress) (v := m.fromAddress) rfl
    have hsender := Choice.gives_containsAny hcell needles
    simpa [addressContains, truth, Body.truth, Message.addresses] using hsender
  | recipient => exact gives_someItem rfl (hitem .toAddresses)
  | cc => exact gives_someItem rfl (hitem .ccAddresses)
  | bcc => exact gives_someItem rfl (hitem .bccAddresses)

/-- The choice for a term decides whether one of the searched columns contains it. -/
theorem Choice.gives_mentions (m : Message) (term : String) :
    Gives (PatternFits term) ((Choice.mentions term).truth { message := MessageRow.ofMessage m })
      (some (m.searchedFields.any fun f => likeFolded (f.2.getD "") term)) := by
  have hcolumns : mentions term = .any (m.searchedFields.map fun f =>
      .foldedLike (.orEmpty f.1) (foldedPattern term)) := rfl
  have hfield : ∀ f ∈ m.searchedFields, MessageRow.ofMessage m f.1 = .ofText? f.2 := by
    simp [Message.searchedFields, MessageRow.ofMessage]
  rw [hcolumns]
  exact Choice.gives_any fun f hf => Test.gives_foldedLike (cell_orEmpty (hfield f hf)) term

/-- The body for a pair of bounds decides on which sides of them a stored time lies. -/
theorem Body.truth_sentWithin (m : Message) (after before : Option Timestamp) :
    (Body.sentWithin after before).truth { message := MessageRow.ofMessage m } =
      .ok (some ((Predicate.sentWithin after before).storeHolds m)) := by
  let sides : List (Comparison × Timestamp) :=
    (after.map (Comparison.atLeast, ·)).toList ++ (before.map (Comparison.atMost, ·)).toList
  have hchoices : (after.map (Choice.sent .atLeast)).toList ++
      (before.map (Choice.sent .atMost)).toList = sides.map fun s => Choice.sent s.1 s.2 := by
    cases after <;> cases before <;> rfl
  have hholds : (Predicate.sentWithin after before).storeHolds m =
      sides.all fun s => s.1.holdsStored m.sentAt s.2 := by
    cases after <;> cases before <;> simp [Predicate.storeHolds, sides]
  rw [hholds, sentWithin, hchoices]
  cases hsides : sides with
  | nil => rfl
  | cons s rest =>
    have hdecided : Gives True ((Body.all ((s :: rest).map fun s => Choice.sent s.1 s.2)).truth
        { message := MessageRow.ofMessage m })
        (some ((s :: rest).all fun s => s.1.holdsStored m.sentAt s.2)) :=
      Body.gives_all fun _ _ => .ok _
    exact hdecided.eq_ok trivial

/-- The condition for an owner decides whose the message is. -/
theorem Predicate.truth_ownedBy (userId : String) :
    (ownedBy userId).condition.truth (MessageRow.ofMessage m) rows =
      .ok (some (decide (m.userId = userId))) := by
  have htest : (Test.compare (.column .userId) .equal (.text userId)).truth
      { message := MessageRow.ofMessage m } = .ok (some (decide (m.userId = userId))) := by
    simp only [Test.truth, Operand.cell, MessageRow.ofMessage, Comparison.holds, Param.cell,
      Cell.compare_text_eq_iff]
  exact Condition.truth_plain htest

/-- **One predicate.** The condition for a predicate is decided for every stored message, unless a
pattern does not fit. -/
theorem Predicate.gives_stored (p : Predicate) (hrows : AttachmentsOf rows m) :
    Gives p.PatternsFit (p.condition.truth (MessageRow.ofMessage m) rows)
      (some (p.storeHolds m)) := by
  cases p with
  | ownedBy userId => exact .inl (truth_ownedBy userId)
  | inAccounts accountIds =>
    have htest : (Test.oneOf (.column .accountId) (accountIds.map Param.text)).truth
        { message := MessageRow.ofMessage m } =
          .ok (some (accountIds.contains m.accountId)) := by
      simp only [Test.truth, Operand.cell, MessageRow.ofMessage, List.any_map]
      congr 2
      rw [Bool.eq_iff_iff, List.contains_iff_mem, List.any_eq_true]
      simp [Param.cell, Cell.compare_text_eq_iff]
    exact .inl (Condition.truth_plain htest)
  | addressContains field needles negated =>
    exact Condition.gives_of_scope negated (Scope.gives_addressContains needles field)
  | subjectContains needles negated =>
    have hcell := cell_orEmpty (b := { message := MessageRow.ofMessage m })
      (c := .subject) (v := m.subject) rfl
    exact Condition.gives_of_scope negated (Choice.gives_containsAny hcell needles)
  | flagIs flag expected =>
    have hcell : MessageRow.ofMessage m flag.column = .integer (if m.flag flag then 1 else 0) := by
      cases flag <;> rfl
    have htest : (Test.compare (.column flag.column) .equal
        (.integer (if expected then 1 else 0))).truth { message := MessageRow.ofMessage m } =
          .ok (some (decide (m.flag flag = expected))) := by
      simp only [Test.truth, Operand.cell, hcell]
      cases m.flag flag <;> cases expected <;> rfl
    exact .inl (Condition.truth_plain htest)
  | attachmentExists expected =>
    have hscope : (Scope.someAttachment none).truth (MessageRow.ofMessage m) rows =
        .ok (some m.hasAttachments) := by
      rw [Scope.truth, hrows.isEmpty_eq, Message.hasAttachments]
    have hholds : storeHolds m (attachmentExists expected) = (m.hasAttachments != !expected) := by
      simp only [storeHolds]
      cases m.hasAttachments <;> cases expected <;> rfl
    rw [hholds]
    exact Condition.gives_of_scope (!expected) (.inl hscope)
  | attachmentNamed needles =>
    refine Condition.gives_plain (Scope.gives_someAttachment hrows fun r a hof => ?_)
    have hcell : (Operand.attachment .filename).cell
        { message := MessageRow.ofMessage m, attachment := r } = .text a.filename :=
      hof.cells.2.2.2.1
    exact Choice.gives_containsAny hcell needles
  | attachmentSized side bytes =>
    refine Condition.gives_plain (Scope.gives_someAttachment hrows fun r a hof => .inl ?_)
    obtain ⟨-, -, -, -, -, hcell⟩ := hof.cells
    simp only [Body.truth, Choice.truth, Test.truth, Operand.cell, hcell]
  | sentWithin after before =>
    exact .inl (Condition.truth_plain (Body.truth_sentWithin m after before))
  | inFolders folders =>
    have hcell := cell_orEmpty (b := { message := MessageRow.ofMessage m })
      (c := .folder) (v := m.folder) rfl
    exact .inl (Condition.truth_plain (Test.truth_isAny hcell))
  | labelled labels =>
    have htest : ∀ v, (Test.isAny (.item .labels) labels).truth
        { message := MessageRow.ofMessage m, item := .text v } = .ok (some (isAny labels v)) :=
      fun v => Test.truth_isAny rfl
    exact Condition.gives_plain (Scope.gives_someItem rfl fun v => .inl (htest v))
  | mentions terms =>
    refine Condition.gives_plain (Body.gives_all fun term hterm => ?_)
    exact (Choice.gives_mentions m term).of_imp fun h => h term hterm

/-- Where its patterns fit, it is decided. -/
theorem Predicate.truth_stored {p : Predicate} (hfit : p.PatternsFit)
    (hrows : AttachmentsOf rows m) :
    p.condition.truth (MessageRow.ofMessage m) rows = .ok (some (p.storeHolds m)) :=
  (p.gives_stored hrows).eq_ok hfit

/-! ## Searches -/

/-- Whether a message satisfies every predicate, as the store decides it. -/
def PredicateSet.storeHolds (set : PredicateSet) (m : Message) : Bool :=
  set.toList.all (Predicate.storeHolds m)

section Searches

variable {set : PredicateSet}

/-- **A search.** The clause of a search is decided for every stored message, unless a pattern does
not fit. -/
theorem PredicateSet.gives_stored (set : PredicateSet) (hrows : AttachmentsOf rows m) :
    Gives set.PatternsFit (set.clause.select (MessageRow.ofMessage m) rows) (set.storeHolds m) :=
  Clause.gives_select fun p hp => (p.gives_stored hrows).of_imp fun hfit => hfit p hp

/-- With one predicate, which the index does not decide, a search of a message's owner selects the
message if that predicate's condition is true. -/
theorem PredicateSet.select_singleton (m : Message) (rows : List AttachmentRow) {p : Predicate}
    (hp : p.condition.isIndexed = false) :
    (⟨m.userId, [p]⟩ : PredicateSet).clause.select (MessageRow.ofMessage m) rows =
      (p.condition.truth (MessageRow.ofMessage m) rows).map fun t => decide (t = some true) := by
  have howner : (Predicate.ownedBy m.userId).condition.truth (MessageRow.ofMessage m) rows =
      .ok (some true) := by
    rw [Predicate.truth_ownedBy, decide_eq_true rfl]
  have hordered : (⟨m.userId, [p]⟩ : PredicateSet).clause.ordered =
      [(Predicate.ownedBy m.userId).condition, p.condition] := by
    have hclause : (⟨m.userId, [p]⟩ : PredicateSet).clause =
        [(Predicate.ownedBy m.userId).condition, p.condition] := rfl
    have hindexed : (Predicate.ownedBy m.userId).condition.isIndexed = true := rfl
    have hnested : (Predicate.ownedBy m.userId).condition.isNested = false := rfl
    rw [hclause, Clause.ordered]
    cases hnests : p.condition.isNested <;> simp [hindexed, hnested, hp, hnests]
  rw [Clause.select, hordered, allTrue, howner]
  simp only [allTrue]
  rcases p.condition.truth (MessageRow.ofMessage m) rows with e | _ | _ | _ <;> rfl

/-- A word that is too long fails the choice for it, whatever the text is. -/
theorem Choice.truth_containsAny_of_not_fits {b : Bindings} {operand : Operand} {hay : String}
    (hcell : operand.cell b = .text hay) {word : String} (h : ¬ PatternFits word) :
    (Choice.containsAny operand [word]).truth b = .error .patternTooLong := by
  have htest := Test.truth_foldedLike_of_not_fits hcell h
  simp only [containsAny, List.map_cons, Choice.truth, Truth.anyOf, htest]

theorem Choice.truth_mentions_of_not_fits {word : String} (h : ¬ PatternFits word) (m : Message) :
    (Choice.mentions word).truth { message := MessageRow.ofMessage m } =
      .error .patternTooLong := by
  have hsubject : (Operand.orEmpty .subject).cell { message := MessageRow.ofMessage m } =
      .text (m.subject.getD "") := cell_orEmpty rfl
  have htest := Test.truth_foldedLike_of_not_fits hsubject h
  simp only [mentions, searchedColumns, List.map_cons, Choice.truth, Truth.anyOf, htest]

/-- A search of a user for a word that is too long fails at every message of the user. -/
theorem PredicateSet.select_of_not_fits {word : String} (h : ¬ PatternFits word) (m : Message)
    (rows : List AttachmentRow) :
    (⟨m.userId, [.mentions [word]]⟩ : PredicateSet).clause.select (MessageRow.ofMessage m) rows =
      .error .patternTooLong := by
  rw [select_singleton m rows rfl]
  simp only [Predicate.condition, Condition.truth, Scope.truth, Body.truth, List.map_cons,
    Truth.allOf, Choice.truth_mentions_of_not_fits h, Except.map]

/-- What a search decides does not depend on the order of the attachments' rows. -/
theorem PredicateSet.exists_gives_perm (set : PredicateSet) (hrows : ∀ r ∈ rows, ∃ a, r.Of a)
    (hperm : rows.Perm rows') :
    ∃ b, Gives set.PatternsFit (set.clause.select (MessageRow.ofMessage m) rows) b ∧
      Gives set.PatternsFit (set.clause.select (MessageRow.ofMessage m) rows') b := by
  obtain ⟨attachments, h⟩ := exists_attachmentsOf hrows m
  have hrow : MessageRow.ofMessage { m with attachments } = MessageRow.ofMessage m := rfl
  rw [← hrow]
  exact ⟨_, set.gives_stored h, set.gives_stored (h.perm hperm)⟩

end Searches

namespace Store

variable {s : Store} {set : PredicateSet}

theorem Faithful.attachmentsOf_full (h : s.Faithful) (m : Message) :
    AttachmentsOf (s.attachmentRows (.text m.id)) (s.full m) where
  of_row r hr := h.attachments r (List.mem_filter.mp hr).1
  mem_iff := (h.attachmentsOf m.id).2

/-- Whether a search selects a message of the store. -/
def selects (s : Store) (set : PredicateSet) (m : Message) : Bool :=
  (set.clause.select (MessageRow.ofMessage m) (s.attachmentRows (.text m.id))).toOption.getD false

/-- The row of a message tells whether a search selects it. -/
theorem selects_congr (s : Store) (set : PredicateSet) {a b : Message}
    (h : MessageRow.ofMessage a = MessageRow.ofMessage b) : s.selects set a = s.selects set b := by
  have hid : a.id = b.id := Cell.text.inj (congrFun h .id)
  simp only [selects, h, hid]

theorem Faithful.gives_full (h : s.Faithful) (set : PredicateSet) (m : Message) :
    Gives set.PatternsFit (set.clause.select (MessageRow.ofMessage m)
      (s.attachmentRows (.text m.id))) (set.storeHolds (s.full m)) := by
  have hrow : MessageRow.ofMessage (s.full m) = MessageRow.ofMessage m := rfl
  rw [← hrow]
  exact set.gives_stored (h.attachmentsOf_full m)

theorem Faithful.selects_eq (h : s.Faithful) (hfit : set.PatternsFit) (m : Message) :
    s.selects set m = set.storeHolds (s.full m) := by
  rw [selects, (h.gives_full set m).eq_ok hfit]
  rfl

/-! ## Rows -/

/-- Whether a search selects a row. -/
def keeps (s : Store) (set : PredicateSet) (row : MessageRow) : Bool :=
  (set.clause.select row (s.attachmentRows (row .id))).toOption.getD false

theorem Faithful.exists_message (h : s.Faithful) {row : MessageRow} (hrow : row ∈ s.messages) :
    ∃ m, MessageRow.ofMessage m = row := by
  obtain ⟨ms, hms, -, -⟩ := h.messages
  obtain ⟨m, -, rfl⟩ := List.mem_map.mp (hms ▸ hrow)
  exact ⟨m, rfl⟩

theorem Faithful.gives_row (h : s.Faithful) (set : PredicateSet) {row : MessageRow}
    (hrow : row ∈ s.messages) :
    Gives set.PatternsFit (set.clause.select row (s.attachmentRows (row .id)))
      (s.keeps set row) := by
  obtain ⟨m, rfl⟩ := h.exists_message hrow
  have hfull := h.gives_full set m
  have hid : (MessageRow.ofMessage m) .id = .text m.id := rfl
  rw [keeps, hid]
  rcases hfull with hok | ⟨hfit, hrefused⟩
  · rw [hok]
    exact .ok _
  · rw [hrefused]
    exact .refused hfit

/-- The rows that a search selects, unless a pattern does not fit. -/
theorem Faithful.gives_select (h : s.Faithful) (set : PredicateSet) :
    Gives set.PatternsFit (s.select set.clause) (s.messages.filter (s.keeps set)) :=
  Gives.filterM fun _ hrow => h.gives_row set hrow

/-- The one row of a store is selected or not. -/
theorem select_of_messages_eq_singleton {row : MessageRow} (h : s.messages = [row])
    (clause : Clause) : s.select clause =
      (clause.select row (s.attachmentRows (row .id))).map fun b => if b then [row] else [] := by
  rw [select, h, List.filterM, List.filterAuxM]
  rcases clause.select row (s.attachmentRows (row .id)) with e | _ | _ <;> rfl

/-- Where a search selects rows, each of them is decided. -/
theorem select_row_of_ok {rows : List MessageRow} (h : s.select set.clause = .ok rows) :
    ∀ row ∈ s.messages,
      set.clause.select row (s.attachmentRows (row .id)) = .ok (s.keeps set row) := by
  intro row hrow
  obtain ⟨b, hb⟩ := Outcome.exists_of_filterM_eq_ok h row hrow
  rw [keeps, hb]
  rfl

/-- Wherever no row makes it fail, a search selects the rows that it keeps. -/
theorem select_eq_filter_of_ok {rows : List MessageRow} (h : s.select set.clause = .ok rows) :
    rows = s.messages.filter (s.keeps set) :=
  Except.ok.inj (h.symm.trans (Outcome.filterM_eq_ok (select_row_of_ok h)))

/-- The number of stored messages that a search selects. -/
def selectedCount (s : Store) (set : PredicateSet) : Nat := s.messages.countP (s.keeps set)

/-- The engine takes a search: its statements are prepared, and every row is decided. -/
structure Takes (s : Store) (set : PredicateSet) : Prop where
  clause : set.clause.Fits
  select : s.select set.clause = .ok (s.messages.filter (s.keeps set))

/-- A page is read from the rows that the search selects. -/
theorem Takes.find (h : s.Takes set) (limit offset : Nat) :
    s.find set.clause limit offset =
      (pageOf limit offset ((s.messages.filter (s.keeps set)).mergeSort newestFirst)).mapM
        MessageRow.read >>= fun messages => messages.mapM s.withAttachments := by
  rw [Store.find, h.clause.prepare (Nat.le_refl 2), h.select]
  rfl

/-- The selected messages are counted. -/
theorem Takes.count (h : s.Takes set) : s.count set.clause = .ok (s.selectedCount set) := by
  rw [Store.count, h.clause.prepare (Nat.zero_le 2), h.select, selectedCount,
    List.countP_eq_length_filter]
  rfl

/-- A message is selected as its predicates are decided in the store. -/
theorem Takes.selects_eq (h : s.Takes set) (hf : s.Faithful) {m : Message}
    (hm : MessageRow.ofMessage m ∈ s.messages) : s.selects set m = set.storeHolds (s.full m) :=
  (hf.gives_full set m).eq_of_ok (select_row_of_ok h.select _ hm)

/-- The engine refuses a search that does not fit: the unlimited page, for which every row is
decided, fails. -/
def Refuses (s : Store) (set : PredicateSet) : Prop :=
  ¬ set.Fits ∧ ∃ e : StoreError, e.IsRefusal ∧ ∀ limit, maxInt64 < limit →
    s.find set.clause limit 0 = .error e

/-- A search whose statements are prepared is taken, unless a pattern does not fit. -/
theorem Faithful.takes_or_pattern (h : s.Faithful) (hclause : set.clause.Fits) :
    s.Takes set ∨ ¬ set.PatternsFit ∧
      ∀ limit offset, s.find set.clause limit offset = .error .patternTooLong := by
  rcases h.gives_select set with hselect | ⟨hfit, hselect⟩
  · exact .inl ⟨hclause, hselect⟩
  · refine .inr ⟨hfit, fun limit offset => ?_⟩
    rw [Store.find, hclause.prepare (Nat.le_refl 2), hselect]
    rfl

/-- The engine takes a search; or the search does not fit, and every page fails alike. -/
theorem Faithful.takes_or_fails (h : s.Faithful) (set : PredicateSet) :
    s.Takes set ∨ ¬ set.Fits ∧ ∃ e : StoreError, e.IsRefusal ∧ ∀ limit offset,
      s.find set.clause limit offset = .error e := by
  rcases set.clause.fits_or_refused with hclause | ⟨hclause, e, he, hprepare⟩
  · refine (h.takes_or_pattern hclause).imp_right ?_
    rintro ⟨hfit, hfind⟩
    exact ⟨fun hfits => hfit hfits.patterns, _, .inr (.inr rfl), hfind⟩
  · refine .inr ⟨fun hfits => hclause hfits.clause, e, he, fun limit offset => ?_⟩
    rw [Store.find, hprepare]
    rfl

/-- The engine takes a search or refuses it. -/
theorem Faithful.takes_or_refuses (h : s.Faithful) (set : PredicateSet) :
    s.Takes set ∨ s.Refuses set := by
  refine (h.takes_or_fails set).imp_right ?_
  rintro ⟨hfits, e, he, hfind⟩
  exact ⟨hfits, e, he, fun limit _ => hfind limit 0⟩

/-- It takes every search that fits. -/
theorem Faithful.takes (h : s.Faithful) (hfits : set.Fits) : s.Takes set :=
  (h.takes_or_refuses set).resolve_right fun hrefuses => hrefuses.1 hfits

/-- It takes a search of which a page is given. -/
theorem Faithful.takes_of_find (h : s.Faithful) {limit offset : Nat} {page : List Message}
    (hpage : s.find set.clause limit offset = .ok page) : s.Takes set := by
  refine (h.takes_or_fails set).resolve_right ?_
  rintro ⟨-, e, -, hfind⟩
  rw [hfind] at hpage
  cases hpage

/-- Every count that is given is that of the selected messages. -/
theorem count_of_ok {total : Nat} (h : s.count set.clause = .ok total) :
    total = s.selectedCount set := by
  obtain ⟨-, -, h⟩ := Outcome.bind_eq_ok h
  obtain ⟨rows, hrows, h⟩ := Outcome.bind_eq_ok h
  cases h
  rw [select_eq_filter_of_ok hrows, selectedCount, List.countP_eq_length_filter]

end Store

/-! ## Databases -/

namespace Database

/-- The number of stored messages that a search selects. -/
def selectedCount (db : Database) (set : PredicateSet) : Nat :=
  (db.store.map (·.selectedCount set)).getD 0

/-- The engine refuses a search that does not fit: the unlimited page, for which every row is
decided, fails. -/
def Refuses (db : Database) (set : PredicateSet) : Prop :=
  ¬ set.Fits ∧ ∃ e : StoreError, e.IsRefusal ∧ ∀ limit, maxInt64 < limit →
    db.find set.clause limit 0 = .error e

section Tables

variable {db : Database} {s : Store} {set : PredicateSet}

theorem find_eq (h : db.store = some s) (clause : Clause) (limit offset : Nat) :
    db.find clause limit offset = s.find clause limit offset := by
  simp only [find, withStore, h, bind, Except.bind]

theorem count_eq (h : db.store = some s) (clause : Clause) :
    db.count clause = s.count clause := by
  simp only [count, withStore, h, bind, Except.bind]

theorem selectedCount_eq (h : db.store = some s) (set : PredicateSet) :
    db.selectedCount set = s.selectedCount set := by
  rw [selectedCount, h]
  rfl

theorem refuses_iff (h : db.store = some s) : db.Refuses set ↔ s.Refuses set := by
  simp only [Refuses, Store.Refuses, find_eq h]

end Tables

/-- After any calls on a new database, the engine takes a search that it does not refuse. -/
theorem exists_takes (calls : List StoreCall) {set : PredicateSet}
    (h : ¬ (after calls).Refuses set) :
    ∃ s, (after calls).store = some s ∧ s.Faithful ∧ s.Takes set := by
  obtain ⟨s, hs, hf⟩ := faithful_after calls
  exact ⟨s, hs, hf, (hf.takes_or_refuses set).resolve_right fun hr => h ((refuses_iff hs).mpr hr)⟩

/-- Then the count succeeds. -/
theorem count_after (calls : List StoreCall) {set : PredicateSet}
    (h : ¬ (after calls).Refuses set) :
    (after calls).count set.clause = .ok ((after calls).selectedCount set) := by
  obtain ⟨s, hs, -, htakes⟩ := exists_takes calls h
  rw [count_eq hs, selectedCount_eq hs, htakes.count]

/-- Every count that is given is that of the selected messages. -/
theorem count_of_ok {db : Database} {set : PredicateSet} {total : Nat}
    (h : db.count set.clause = .ok total) : total = db.selectedCount set := by
  obtain ⟨s, hs, h⟩ := Outcome.bind_eq_ok h
  unfold withStore at hs
  split at hs
  · cases hs
  · rename_i s' hstore
    cases hs
    rw [selectedCount_eq hstore]
    exact Store.count_of_ok h

end Database

end MailSearch
