import MailSearch.Proofs.Clause.Stored
import MailSearch.Proofs.Data.Sorting
import MailSearch.Proofs.Search.Isolation

/-!
# What a store holds of one user

Two stores that hold the same messages of a user, with the same attachments, answer the user's
searches alike, whatever else they hold and in whichever order they came by it. A search with a
pattern that does not fit is the exception: the rows of a message's attachments are looked at in the
order of the store, up to the first that the search finds, and a pattern is refused only where it is
come to.

* `Store.OwnAttachmentIds`: attachments have ids of their own; so it is after any calls
  (`Database.reached_after`).
* `Store.SameMail`: the same rows of a user. `Store.SameMail.find_eq`, `Store.SameMail.count_eq` and
  `Store.SameMail.topValues_eq`: the same answers.
* `Store.SameMail.answers`: what comes of any search of the user.
-/

namespace MailSearch

open Text Outcome

/-! ## Ids of attachments -/

namespace Store

/-- No two attachments have one id. -/
def OwnAttachmentIds (s : Store) : Prop := (s.attachments.map fun r => r .id).Nodup

theorem nodup_putAttachment {rows : List AttachmentRow} (h : (rows.map fun r => r .id).Nodup)
    (row : AttachmentRow) : ((putAttachment rows row).map fun r => r .id).Nodup := by
  refine nodup_map_append_singleton (h.sublist (List.filter_sublist.map _)) fun r hr => ?_
  simpa using (List.mem_filter.mp hr).2

theorem nodup_foldl_putAttachment (rows : List AttachmentRow) {start : List AttachmentRow}
    (h : (start.map fun r => r .id).Nodup) :
    ((rows.foldl putAttachment start).map fun r => r .id).Nodup := by
  induction rows generalizing start with
  | nil => exact h
  | cons row rows ih => exact ih (nodup_putAttachment h row)

theorem OwnAttachmentIds.insertMessage {s s' : Store} {m : Message} (h : s.OwnAttachmentIds)
    (hm : s.insertMessage m = .ok s') : s'.OwnAttachmentIds := by
  obtain ⟨rows, -, -, hattachments⟩ := insertMessage_eq_ok hm
  rw [OwnAttachmentIds, hattachments]
  exact nodup_foldl_putAttachment rows (h.sublist (List.filter_sublist.map _))

/-- What a store is after calls: the rows of messages and attachments, all with ids of their own. -/
structure Reached (s : Store) : Prop where
  faithful : s.Faithful
  ownIds : s.OwnAttachmentIds

end Store

theorem Database.reached_after (calls : List StoreCall) :
    ∃ s, (after calls).store = some s ∧ s.Reached :=
  after_induction ⟨Store.faithful_empty, List.nodup_nil⟩
    (fun hs a => ⟨hs.faithful.insertAccount a, hs.ownIds⟩)
    (fun hs hm => ⟨hs.faithful.insertMessage hm, hs.ownIds.insertMessage hm⟩) calls

/-! ## Rows -/

/-- A row that is read as a message holds the message's id. -/
theorem MessageRow.id_of_read {row : MessageRow} {m : Message} (h : row.read = .ok m) :
    row .id = .text m.id := by
  unfold read at h
  obtain ⟨id, hid, h⟩ := Outcome.bind_eq_ok h
  iterate 17 obtain ⟨_, -, h⟩ := Outcome.bind_eq_ok h
  cases h
  unfold text Cell.readText at hid
  split at hid
  · rename_i s hcell
    cases hid
    exact hcell
  · cases hid

/-- The text of a cell, or none at all. -/
def Cell.asText (v : Cell) : String := v.textValue?.getD ""

namespace Store

variable {s s' : Store}

theorem Faithful.nodup_ids (h : s.Faithful) : (s.messages.map fun row => row .id).Nodup := by
  obtain ⟨ms, hms, hnodup, -⟩ := h.messages
  have hids : (s.messages.map fun row => row .id) = (ms.map (·.id)).map Cell.text := by
    rw [hms, List.map_map, List.map_map]
    rfl
  rw [hids]
  exact hnodup.map fun a b h => Cell.text.inj h

/-- The order of a page goes by the time, the latest first, and by the id. -/
theorem Faithful.isOrderOn_newestFirst (h : s.Faithful) : IsOrderOn newestFirst s.messages := by
  refine isOrderOn_of_key
    (fun row => toLex (OrderDual.toDual (row .sentAt).asText, (row .id).asText))
    (fun a ha b hb => ?_) fun a ha b hb hkey => ?_
  · obtain ⟨x, rfl⟩ := h.exists_message ha
    obtain ⟨y, rfl⟩ := h.exists_message hb
    rw [Prod.Lex.toLex_le_toLex]
    exact pageOrder_iff.trans (or_congr_right (and_congr_left' eq_comm))
  · refine List.inj_on_of_nodup_map h.nodup_ids ha hb ?_
    obtain ⟨x, rfl⟩ := h.exists_message ha
    obtain ⟨y, rfl⟩ := h.exists_message hb
    exact congrArg Cell.text (congrArg (fun k => (ofLex k).2) hkey)

/-- The order of a message's attachments. -/
def byName (a b : AttachmentRow) : Bool := keysLe [(a .filename, b .filename), (a .id, b .id)]

/-- It goes by the name and the id. -/
theorem Faithful.isOrderOn_byName (h : s.Faithful) (hids : s.OwnAttachmentIds) :
    IsOrderOn byName s.attachments := by
  have hcells : ∀ r ∈ s.attachments,
      r .filename = .text (r .filename).asText ∧ r .id = .text (r .id).asText := by
    intro r hr
    obtain ⟨a, ha⟩ := h.attachments r hr
    obtain ⟨-, hid, -, hname, -⟩ := ha.cells
    rw [hid, hname]
    exact ⟨rfl, rfl⟩
  refine isOrderOn_of_key (fun r => toLex ((r .filename).asText, (r .id).asText))
    (fun a ha b hb => ?_) fun a ha b hb hkey => ?_
  · rw [Prod.Lex.toLex_le_toLex, byName, (hcells a ha).1, (hcells a ha).2, (hcells b hb).1,
      (hcells b hb).2]
    exact keysLe_texts
  · refine List.inj_on_of_nodup_map hids ha hb ?_
    have hid : (a .id).asText = (b .id).asText := congrArg (fun k => (ofLex k).2) hkey
    change a .id = b .id
    rw [(hcells a ha).2, (hcells b hb).2, hid]

/-! ## One user's rows -/

/-- The stores hold the same messages of a user, with the same attachments. -/
structure SameMail (s s' : Store) (userId : String) : Prop where
  messages : ∀ row, row .userId = .text userId → (row ∈ s.messages ↔ row ∈ s'.messages)
  attachments : ∀ row ∈ s.messages, row .userId = .text userId →
    ∀ r, r .messageId = row .id → (r ∈ s.attachments ↔ r ∈ s'.attachments)

variable {userId : String} {row : MessageRow}

/-- A message of the user has the same attachments in both stores. -/
theorem SameMail.attachmentRows_perm (h : s.SameMail s' userId) (hs : s.Reached) (hs' : s'.Reached)
    (hrow : row ∈ s.messages) (huser : row .userId = .text userId) :
    (s.attachmentRows (row .id)).Perm (s'.attachmentRows (row .id)) := by
  refine perm_filter_of_mem_iff (hs.ownIds.of_map _) (hs'.ownIds.of_map _) fun r => ?_
  rw [decide_eq_true_eq]
  exact and_congr_left fun hr => h.attachments row hrow huser r hr

variable {set : PredicateSet}

/-- A search that both stores decide decides the same of it. -/
theorem SameMail.keeps_eq (h : s.SameMail s' userId) (hs : s.Reached) (hs' : s'.Reached)
    (htakes : s.Takes set) (htakes' : s'.Takes set) (hrow : row ∈ s.messages)
    (huser : row .userId = .text userId) : s.keeps set row = s'.keeps set row := by
  have hperm := h.attachmentRows_perm hs hs' hrow huser
  have hof : ∀ r ∈ s.attachmentRows (row .id), ∃ a, r.Of a :=
    fun r hr => hs.faithful.attachments r (List.mem_filter.mp hr).1
  have hdecided := select_row_of_ok htakes.select row hrow
  have hdecided' := select_row_of_ok htakes'.select row ((h.messages row huser).mp hrow)
  obtain ⟨m, rfl⟩ := hs.faithful.exists_message hrow
  obtain ⟨b, hb, hb'⟩ := set.exists_gives_perm hof hperm
  rw [hb.eq_of_ok hdecided, hb'.eq_of_ok hdecided']

/-- What a search selects belongs to its user. -/
theorem owner_of_keeps (hkeeps : s.keeps set row = true) : row .userId = .text set.userId := by
  unfold keeps at hkeeps
  cases hselect : set.clause.select row (s.attachmentRows (row .id)) with
  | error e => simp [hselect, Except.toOption] at hkeeps
  | ok b =>
    obtain rfl : b = true := by simpa [hselect, Except.toOption] using hkeeps
    exact PredicateSet.owner_of_select hselect

/-- The user's searches select the same rows. -/
theorem SameMail.selected_perm (h : s.SameMail s' set.userId) (hs : s.Reached) (hs' : s'.Reached)
    (htakes : s.Takes set) (htakes' : s'.Takes set) :
    (s.messages.filter (s.keeps set)).Perm (s'.messages.filter (s'.keeps set)) := by
  refine perm_filter_of_mem_iff (hs.faithful.nodup_ids.of_map _) (hs'.faithful.nodup_ids.of_map _)
    fun row => ?_
  have hsame (hrow : row ∈ s.messages) (huser : row .userId = .text set.userId) :=
    h.keeps_eq hs hs' htakes htakes' hrow huser
  constructor
  · rintro ⟨hrow, hkeeps⟩
    have huser := owner_of_keeps hkeeps
    exact ⟨(h.messages row huser).mp hrow, hsame hrow huser ▸ hkeeps⟩
  · rintro ⟨hrow, hkeeps⟩
    have huser := owner_of_keeps hkeeps
    have hrow' := (h.messages row huser).mpr hrow
    exact ⟨hrow', (hsame hrow' huser).trans hkeeps⟩

/-- Its attachments are read alike. -/
theorem SameMail.attachmentsOf_eq (h : s.SameMail s' userId) (hs : s.Reached) (hs' : s'.Reached)
    (hrow : row ∈ s.messages) (huser : row .userId = .text userId) {id : String}
    (hid : row .id = .text id) : s.attachmentsOf id = s'.attachmentsOf id := by
  have hperm := h.attachmentRows_perm hs hs' hrow huser
  rw [hid] at hperm
  have horder : IsOrderOn byName (s.attachmentRows (.text id)) :=
    (hs.faithful.isOrderOn_byName hs.ownIds).mono (List.filter_subset_self _)
  exact congrArg (List.mapM AttachmentRow.read) (horder.mergeSort_eq_of_perm hperm)

theorem SameMail.find_eq (h : s.SameMail s' set.userId) (hs : s.Reached) (hs' : s'.Reached)
    (htakes : s.Takes set) (htakes' : s'.Takes set) (limit offset : Nat) :
    s.find set.clause limit offset = s'.find set.clause limit offset := by
  have hperm := h.selected_perm hs hs' htakes htakes'
  have horder : IsOrderOn newestFirst (s.messages.filter (s.keeps set)) :=
    hs.faithful.isOrderOn_newestFirst.mono (List.filter_subset_self _)
  rw [htakes.find, htakes'.find, ← horder.mergeSort_eq_of_perm hperm]
  simp only [bind, Except.bind]
  cases hread : (pageOf limit offset
      ((s.messages.filter (s.keeps set)).mergeSort newestFirst)).mapM MessageRow.read with
  | error e => rfl
  | ok messages =>
    refine mapM_congr fun m hm => ?_
    obtain ⟨row, hrow, hm⟩ := exists_of_mapM_eq_ok hread m hm
    obtain ⟨hmem, hkeeps⟩ := List.mem_filter.mp (List.mem_mergeSort.mp (mem_of_mem_pageOf hrow))
    unfold withAttachments
    rw [h.attachmentsOf_eq hs hs' hmem (owner_of_keeps hkeeps) (MessageRow.id_of_read hm)]

theorem SameMail.count_eq (h : s.SameMail s' set.userId) (hs : s.Reached) (hs' : s'.Reached)
    (htakes : s.Takes set) (htakes' : s'.Takes set) :
    s.count set.clause = s'.count set.clause := by
  have hlength := (h.selected_perm hs hs' htakes htakes').length_eq
  rw [htakes.count, htakes'.count, selectedCount, selectedCount, List.countP_eq_length_filter,
    List.countP_eq_length_filter, hlength]

/-- **One user's searches.** Two stores with the same mail of a user give one answer to a search of
the user, unless a pattern does not fit and one of them refuses to match it. The number is asked for
only behind a page. -/
theorem SameMail.answers (h : s.SameMail s' set.userId) (hs : s.Reached) (hs' : s'.Reached) :
    ((∀ limit offset, s.find set.clause limit offset = s'.find set.clause limit offset) ∧
        ∀ limit offset page, s.find set.clause limit offset = .ok page →
          s.count set.clause = s'.count set.clause) ∨
      ¬ set.PatternsFit ∧
        ((∀ limit offset, s.find set.clause limit offset = .error .patternTooLong) ∨
          ∀ limit offset, s'.find set.clause limit offset = .error .patternTooLong) := by
  rcases set.clause.fits_or_refused with hclause | ⟨-, e, -, hprepare⟩
  · rcases hs.faithful.takes_or_pattern hclause with htakes | ⟨hfit, hrefused⟩
    · rcases hs'.faithful.takes_or_pattern hclause with htakes' | ⟨hfit, hrefused⟩
      · exact .inl ⟨h.find_eq hs hs' htakes htakes',
          fun _ _ _ _ => h.count_eq hs hs' htakes htakes'⟩
      · exact .inr ⟨hfit, .inr hrefused⟩
    · exact .inr ⟨hfit, .inl hrefused⟩
  · -- what the statements are refused for does not depend on the rows
    have hfind (t : Store) (limit offset : Nat) : t.find set.clause limit offset = .error e := by
      rw [Store.find, hprepare]
      rfl
    refine .inl ⟨fun limit offset => by rw [hfind, hfind], fun limit offset page hpage => ?_⟩
    rw [hfind] at hpage
    cases hpage

end Store

/-! ## Values counted -/

/-- The more frequent values come first, and of equals the smaller. -/
theorem isOrderOn_moreFrequent (l : List ValueCount) : IsOrderOn moreFrequent l := by
  refine isOrderOn_of_key (fun v => toLex (OrderDual.toDual v.count, v.value))
    (fun a _ b _ => ?_) fun a _ b _ hkey => ?_
  · rw [Prod.Lex.toLex_le_toLex]
    simp [moreFrequent]
  · cases a
    cases b
    cases hkey
    rfl

/-- The distinct values are ranked alike in whichever order they are found. -/
theorem ranked_eq_of_perm {values values' : List String} (h : values.Perm values') :
    ranked values = ranked values' := by
  have htally : (tally values).Perm (tally values') := by
    unfold tally
    simp only [h.count_eq]
    exact (perm_eraseDups h).map _
  exact (isOrderOn_moreFrequent _).mergeSort_eq_of_perm htally

theorem Store.SameMail.topValues_eq {s s' : Store} {userId : String} (h : s.SameMail s' userId)
    (hs : s.Reached) (hs' : s'.Reached) (column : MessageColumn) (limit : Nat) :
    s.topValues userId column limit = s'.topValues userId column limit := by
  have hrows : (s.messages.filter fun r => r .userId = .text userId).Perm
      (s'.messages.filter fun r => r .userId = .text userId) := by
    refine perm_filter_of_mem_iff (hs.faithful.nodup_ids.of_map _)
      (hs'.faithful.nodup_ids.of_map _) fun row => ?_
    rw [decide_eq_true_eq]
    exact and_congr_left (h.messages row)
  have hvalues : (s.columnValues userId column).Perm (s'.columnValues userId column) :=
    (hrows.filterMap _).filter _
  rw [topValues, topValues, ranked_eq_of_perm hvalues]

/-! ## Databases -/

namespace Database

/-- The database holds the attachment. -/
def HoldsAttachment (db : Database) (a : Attachment) : Prop :=
  ∃ s, db.store = some s ∧ ∃ r ∈ s.attachments, r.Of a

/-- The databases hold the same messages of a user, with the same attachments. All else may
differ. -/
structure SameMail (db db' : Database) (userId : String) : Prop where
  messages : ∀ m, m.userId = userId → (db.Holds m ↔ db'.Holds m)
  attachments : ∀ m, db.Holds m → m.userId = userId →
    ∀ a, a.messageId = m.id → (db.HoldsAttachment a ↔ db'.HoldsAttachment a)

theorem holds_iff {db : Database} {s : Store} (h : db.store = some s) {m : Message} :
    db.Holds m ↔ MessageRow.ofMessage m ∈ s.messages := by
  simp only [Holds, h, Option.some.injEq, exists_eq_left']

theorem holdsAttachment_iff {db : Database} {s : Store} (h : db.store = some s)
    {r : AttachmentRow} {a : Attachment} (hr : r.Of a) :
    db.HoldsAttachment a ↔ r ∈ s.attachments := by
  simp only [HoldsAttachment, h, Option.some.injEq, exists_eq_left']
  constructor
  · rintro ⟨r', hr', hof⟩
    obtain rfl : r' = r := Except.ok.inj (hof.symm.trans hr)
    exact hr'
  · exact fun hmem => ⟨r, hmem, hr⟩

/-- Their stores hold the same rows of the user. -/
theorem SameMail.store {db db' : Database} {userId : String} (h : db.SameMail db' userId)
    {s s' : Store} (hs : db.store = some s) (hs' : db'.store = some s') (hreached : s.Reached)
    (hreached' : s'.Reached) : s.SameMail s' userId where
  messages row huser := by
    constructor
    · intro hrow
      obtain ⟨m, rfl⟩ := hreached.faithful.exists_message hrow
      exact (holds_iff hs').mp ((h.messages m (Cell.text.inj huser)).mp ((holds_iff hs).mpr hrow))
    · intro hrow
      obtain ⟨m, rfl⟩ := hreached'.faithful.exists_message hrow
      exact (holds_iff hs).mp ((h.messages m (Cell.text.inj huser)).mpr ((holds_iff hs').mpr hrow))
  attachments row hrow huser r hr := by
    obtain ⟨m, rfl⟩ := hreached.faithful.exists_message hrow
    have hsame := h.attachments m ((holds_iff hs).mpr hrow) (Cell.text.inj huser)
    have hmessage : ∀ {a}, r.Of a → a.messageId = m.id := by
      intro a ha
      obtain ⟨-, -, hcell, -⟩ := ha.cells
      exact Cell.text.inj (hcell.symm.trans hr)
    constructor
    · intro hmem
      obtain ⟨a, ha⟩ := hreached.faithful.attachments r hmem
      rw [← holdsAttachment_iff hs' ha, ← hsame a (hmessage ha), holdsAttachment_iff hs ha]
      exact hmem
    · intro hmem
      obtain ⟨a, ha⟩ := hreached'.faithful.attachments r hmem
      rw [← holdsAttachment_iff hs ha, hsame a (hmessage ha), holdsAttachment_iff hs' ha]
      exact hmem

end Database

end MailSearch
