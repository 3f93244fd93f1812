import MailSearch.Proofs.Search.OneUser

/-!
# Storing a message

What is read from a store after a message was stored in it.

* `mem_foldl_putAttachment_iff`: of several attachments with one id, the last one stored is left.
* `Store.Reached.attached_sorted`: the attachments of a message come by name and then by id.
* `Database.getMessage_others`: the other messages are read as before, without the attachments
  whose ids the new message carries. An attachment id stands for one attachment in the whole store,
  and storing one takes it away from whichever message had it.
* `Database.getMessage_stored`: the message itself is read as it was given, with its attachments in
  order.
-/

namespace MailSearch

open Calendar Outcome

/-! ## Rows of attachments -/

namespace Store

theorem mem_putAttachment_iff {rows : List AttachmentRow} {row r : AttachmentRow} :
    r ∈ putAttachment rows row ↔ (r ∈ rows ∧ r .id ≠ row .id) ∨ r = row := by
  rw [putAttachment, List.mem_append, List.mem_filter, List.mem_singleton, decide_eq_true_eq]

/-- A row is there in the end if nothing with its id was stored after it. -/
theorem mem_foldl_putAttachment_iff {rows start : List AttachmentRow} {r : AttachmentRow} :
    r ∈ rows.foldl putAttachment start ↔
      (r ∈ start ∧ ∀ row ∈ rows, r .id ≠ row .id) ∨
      ∃ earlier later, rows = earlier ++ r :: later ∧ ∀ row ∈ later, r .id ≠ row .id := by
  induction rows generalizing start with
  | nil => simp
  | cons row rows ih =>
    rw [List.foldl_cons, ih, mem_putAttachment_iff, List.forall_mem_cons]
    constructor
    · rintro (⟨⟨hr, hne⟩ | rfl, hrows⟩ | ⟨earlier, later, rfl, hlater⟩)
      · exact .inl ⟨hr, hne, hrows⟩
      · exact .inr ⟨[], rows, rfl, hrows⟩
      · exact .inr ⟨row :: earlier, later, rfl, hlater⟩
    · rintro (⟨hr, hne, hrows⟩ | ⟨earlier, later, heq, hlater⟩)
      · exact .inl ⟨.inl ⟨hr, hne⟩, hrows⟩
      · cases earlier with
        | nil =>
          obtain ⟨rfl, rfl⟩ := List.cons.inj heq
          exact .inl ⟨.inr rfl, hlater⟩
        | cons e earlier =>
          obtain ⟨-, rfl⟩ := List.cons.inj heq
          exact .inr ⟨earlier, later, rfl, hlater⟩

end Store

/-! ## Attachments in order -/

/-- By name, and by id where the names are equal. -/
def Attachment.StandsBefore (a b : Attachment) : Prop :=
  a.filename < b.filename ∨ (a.filename = b.filename ∧ a.id < b.id)

theorem Attachment.StandsBefore.asymm {a b : Attachment} (h : a.StandsBefore b) :
    ¬ b.StandsBefore a := by
  rintro (h' | ⟨heq, h'⟩) <;> rcases h with h | ⟨heq', h⟩
  · exact String.lt_asymm h h'
  · exact String.lt_irrefl _ (heq' ▸ h')
  · exact String.lt_irrefl _ (heq ▸ h)
  · exact String.lt_asymm h h'

theorem Attachment.nodup_of_sorted {as : List Attachment} (h : as.Pairwise StandsBefore) :
    as.Nodup := by
  refine h.imp fun {a b} hab heq => ?_
  subst heq
  exact hab.asymm hab

/-- Attachments in order are determined by which they are. -/
theorem Attachment.eq_of_sorted {as bs : List Attachment} (ha : as.Pairwise StandsBefore)
    (hb : bs.Pairwise StandsBefore) (h : ∀ a, a ∈ as ↔ a ∈ bs) : as = bs := by
  refine List.Perm.eq_of_pairwise (fun a b _ _ hab hba => absurd hba hab.asymm) ha hb ?_
  exact (List.perm_ext_iff_of_nodup (nodup_of_sorted ha) (nodup_of_sorted hb)).mpr h

namespace Store

variable {s s' : Store}

/-- The attachments of a message are read by name and then by id. -/
theorem Reached.attached_sorted (h : s.Reached) (messageId : String) :
    (s.attached messageId).Pairwise Attachment.StandsBefore := by
  have hok := (h.faithful.attachmentsOf messageId).1
  have horder : IsOrderOn byName (s.attachmentRows (.text messageId)) :=
    (h.faithful.isOrderOn_byName h.ownIds).mono (List.filter_subset_self _)
  have hids : ((s.attachmentRows (.text messageId)).mergeSort byName).Pairwise
      fun r r' => r .id ≠ r' .id := by
    refine List.pairwise_map.mp (((List.mergeSort_perm _ byName).map _).nodup_iff.mpr ?_)
    exact h.ownIds.sublist (List.filter_sublist.map _)
  have hof : ∀ r ∈ (s.attachmentRows (.text messageId)).mergeSort byName, ∃ a, r.Of a :=
    fun r hr => h.faithful.attachments r (List.mem_filter.mp (List.mem_mergeSort.mp hr)).1
  refine pairwise_of_mapM_eq_ok ?_ hok ((horder.pairwise_mergeSort.and hids).imp_of_mem
    (fun {r r'} hr hr' hrr' => (⟨hof r hr, hof r' hr', hrr'⟩ :
      (∃ a, r.Of a) ∧ (∃ a, r'.Of a) ∧ byName r r' = true ∧ r .id ≠ r' .id)))
  rintro r r' a a' hread hread' ⟨⟨x, hx⟩, ⟨x', hx'⟩, hle, hne⟩
  obtain rfl : x = a := Except.ok.inj (hx.read.symm.trans hread)
  obtain rfl : x' = a' := Except.ok.inj (hx'.read.symm.trans hread')
  obtain ⟨-, hid, -, hname, -⟩ := hx.cells
  obtain ⟨-, hid', -, hname', -⟩ := hx'.cells
  rw [byName, hid, hid', hname, hname', keysLe_texts] at hle
  rw [hid, hid'] at hne
  refine hle.imp_right (And.imp_right fun hle => String.not_le.mp fun hge => hne ?_)
  rw [String.le_antisymm hle hge]

/-- The store has the attachment. -/
def HasAttachment (s : Store) (a : Attachment) : Prop := ∃ r ∈ s.attachments, r.Of a

/-- The attachments of a message are those with its id. -/
theorem Faithful.mem_attached (h : s.Faithful) {messageId : String} {a : Attachment} :
    a ∈ s.attached messageId ↔ s.HasAttachment a ∧ a.messageId = messageId := by
  rw [(h.attachmentsOf messageId).2]
  constructor
  · rintro ⟨r, hr, ha⟩
    obtain ⟨hmem, hid⟩ := List.mem_filter.mp hr
    obtain ⟨-, -, hcell, -⟩ := ha.cells
    exact ⟨⟨r, hmem, ha⟩, Cell.text.inj (hcell.symm.trans (of_decide_eq_true hid))⟩
  · rintro ⟨⟨r, hmem, ha⟩, rfl⟩
    obtain ⟨-, -, hcell, -⟩ := ha.cells
    exact ⟨r, List.mem_filter.mpr ⟨hmem, decide_eq_true hcell⟩, ha⟩

/-! ## What storing a message writes -/

variable {m : Message} {rows : List AttachmentRow}

/-- The rows of a message's attachments have their ids. -/
theorem map_id_rows (hrows : m.attachments.mapM (AttachmentRow.ofAttachment m.id) = .ok rows) :
    rows.map (fun r => r .id) = (m.attachments.map (·.id)).map Cell.text := by
  rw [List.map_map]
  refine map_of_mapM_eq_ok (fun {x r} h => ?_) hrows
  exact (AttachmentRow.of_ofAttachment h).cells.2.1

/-- None of them has an id that the message does not carry. -/
theorem forall_id_ne_iff (hrows : m.attachments.mapM (AttachmentRow.ofAttachment m.id) = .ok rows)
    {r : AttachmentRow} {a : Attachment} (ha : r.Of a) :
    (∀ row ∈ rows, r .id ≠ row .id) ↔ a.id ∉ m.attachments.map (·.id) := by
  have hmem : Cell.text a.id ∈ rows.map (fun r => r .id) ↔ a.id ∈ m.attachments.map (·.id) := by
    rw [map_id_rows hrows]
    exact List.mem_map_of_injective fun _ _ => Cell.text.inj
  obtain ⟨-, hid, -⟩ := ha.cells
  rw [← hmem, hid, List.mem_map]
  exact ⟨fun h ⟨row, hrow, heq⟩ => h row hrow heq.symm,
    fun h row hrow heq => h ⟨row, hrow, heq.symm⟩⟩

/-- They belong to the message. -/
theorem messageId_rows (hrows : m.attachments.mapM (AttachmentRow.ofAttachment m.id) = .ok rows)
    {r : AttachmentRow} (hr : r ∈ rows) {a : Attachment} (ha : r.Of a) :
    ∃ x ∈ m.attachments, a = { x with messageId := m.id } := by
  obtain ⟨x, hx, hrow⟩ := exists_of_mapM_eq_ok hrows r hr
  exact ⟨x, hx, ha.unique (AttachmentRow.of_ofAttachment hrow)⟩

theorem mem_attachments_removeMessage {r : AttachmentRow} {a : Attachment} (ha : r.Of a)
    {id : String} :
    r ∈ (s.removeMessage id).attachments ↔ r ∈ s.attachments ∧ a.messageId ≠ id := by
  obtain ⟨-, -, hcell, -⟩ := ha.cells
  rw [removeMessage, List.mem_filter, decide_eq_true_eq, hcell]
  exact and_congr_right' (not_congr ⟨Cell.text.inj, congrArg Cell.text⟩)

/-- An attachment of another message stays, unless the new message carries its id. -/
theorem hasAttachment_insertMessage_of_ne (hm : s.insertMessage m = .ok s') {a : Attachment}
    (hmessage : a.messageId ≠ m.id) :
    s'.HasAttachment a ↔ s.HasAttachment a ∧ a.id ∉ m.attachments.map (·.id) := by
  obtain ⟨rows, hrows, -, hattachments⟩ := insertMessage_eq_ok hm
  unfold HasAttachment
  simp only [hattachments, mem_foldl_putAttachment_iff]
  constructor
  · rintro ⟨r, ⟨hr, hne⟩ | ⟨earlier, later, heq, -⟩, ha⟩
    · exact ⟨⟨r, ((mem_attachments_removeMessage ha).mp hr).1, ha⟩,
        (forall_id_ne_iff hrows ha).mp hne⟩
    · obtain ⟨x, -, rfl⟩ := messageId_rows hrows (heq ▸ by simp) ha
      exact absurd rfl hmessage
  · rintro ⟨⟨r, hr, ha⟩, hid⟩
    exact ⟨r, .inl ⟨(mem_attachments_removeMessage ha).mpr ⟨hr, hmessage⟩,
      (forall_id_ne_iff hrows ha).mpr hid⟩, ha⟩

theorem Reached.insertMessage (h : s.Reached) (hm : s.insertMessage m = .ok s') : s'.Reached :=
  ⟨h.faithful.insertMessage hm, h.ownIds.insertMessage hm⟩

/-- Another message keeps its attachments, but for those whose ids the new one carries. -/
theorem Reached.attached_insertMessage_of_ne (h : s.Reached) (hm : s.insertMessage m = .ok s')
    {id : String} (hid : id ≠ m.id) :
    s'.attached id = (s.attached id).filter fun a => a.id ∉ m.attachments.map (·.id) := by
  have h' := h.insertMessage hm
  refine Attachment.eq_of_sorted (h'.attached_sorted id)
    ((h.attached_sorted id).sublist List.filter_sublist) fun a => ?_
  rw [List.mem_filter, decide_eq_true_eq, h'.faithful.mem_attached, h.faithful.mem_attached]
  constructor
  · rintro ⟨ha, rfl⟩
    obtain ⟨ha, hnot⟩ := (hasAttachment_insertMessage_of_ne hm hid).mp ha
    exact ⟨⟨ha, rfl⟩, hnot⟩
  · rintro ⟨⟨ha, rfl⟩, hnot⟩
    exact ⟨(hasAttachment_insertMessage_of_ne hm hid).mpr ⟨ha, hnot⟩, rfl⟩

end Store

/-! ## What is read afterwards -/

/-- The message without the attachments of some ids. -/
def Message.without (m : Message) (ids : List String) : Message :=
  { m with attachments := m.attachments.filter fun a => a.id ∉ ids }

namespace Store

variable {s s' : Store} {m : Message}

theorem find?_insertMessage (hm : s.insertMessage m = .ok s') (id : String) :
    s'.messages.find? (fun r => r .id = .text id) =
      if id = m.id then some (MessageRow.ofMessage m)
      else s.messages.find? fun r => r .id = .text id := by
  obtain ⟨rows, -, hmessages, -⟩ := insertMessage_eq_ok hm
  have hnew : MessageRow.ofMessage m .id = .text m.id := rfl
  rw [hmessages, removeMessage, List.find?_append, List.find?_filter]
  by_cases hid : id = m.id
  · subst hid
    rw [if_pos rfl, List.find?_eq_none.mpr (by simp), Option.none_or,
      List.find?_cons_of_pos (by simp [hnew])]
  · have hne : Cell.text m.id ≠ Cell.text id := fun h => hid (Cell.text.inj h).symm
    rw [if_neg hid, List.find?_cons_of_neg (by simp [hnew, hne]), List.find?_nil, Option.or_none]
    congr 1
    funext r
    by_cases hr : r .id = .text id <;> simp [hr, hne.symm]

/-- Another message is read as before, without the attachments whose ids the new one carries. -/
theorem Reached.getMessage_insertMessage_of_ne (h : s.Reached) (hm : s.insertMessage m = .ok s')
    {id : String} (hid : id ≠ m.id) : s'.getMessage id =
      (s.getMessage id).map (Option.map (·.without (m.attachments.map (·.id)))) := by
  have h' := h.insertMessage hm
  unfold getMessage
  rw [find?_insertMessage hm, if_neg hid]
  cases hfound : s.messages.find? fun r => r .id = .text id with
  | none => rfl
  | some row =>
    cases hread : row.read with
    | error e => simp only [bind, Except.bind, hread, Except.map]
    | ok x =>
      have hrow : row .id = .text id := by simpa using List.find?_some hfound
      have hx : x.id = id := Cell.text.inj ((MessageRow.id_of_read hread).symm.trans hrow)
      simp only [bind, Except.bind, hread, h.faithful.withAttachments,
        h'.faithful.withAttachments, full, hx, h.attached_insertMessage_of_ne hm hid]
      rfl

end Store

/-- A message loses no attachment exactly if none of the ids is one of its attachments'. -/
theorem Message.without_eq_self_iff {m : Message} {ids : List String} :
    m.without ids = m ↔ ∀ a ∈ m.attachments, a.id ∉ ids := by
  obtain ⟨⟩ := m
  simp [without]

namespace Database

variable {db : Database} {m : Message}

/-- A message that is stored after any calls is stored in a store that they reach. -/
theorem insertMessage_after {calls : List StoreCall} (h : (after calls).insertMessage m = .ok db) :
    ∃ s s', (after calls).store = some s ∧ s.Reached ∧ s.insertMessage m = .ok s' ∧
      db.store = some s' := by
  obtain ⟨s, hs, hreached⟩ := reached_after calls
  rw [insertMessage_eq hs] at h
  obtain ⟨s', hm, rfl⟩ := map_eq_ok h
  exact ⟨s, s', hs, hreached, hm, rfl⟩

/-- Another message is read as before, without the attachments whose ids the new one carries. -/
theorem getMessage_insertMessage_of_ne (calls : List StoreCall)
    (h : (after calls).insertMessage m = .ok db) {id : String} (hid : id ≠ m.id) :
    db.getMessage id =
      ((after calls).getMessage id).map (Option.map (·.without (m.attachments.map (·.id)))) := by
  obtain ⟨s, s', hs, hreached, hm, hs'⟩ := insertMessage_after h
  rw [getMessage_eq hs', getMessage_eq hs, hreached.getMessage_insertMessage_of_ne hm hid]

/-- **What storing a message leaves alone.** Every other message is read as before, without the
attachments whose ids the new message carries; so exactly as before if it has none of them. -/
theorem getMessage_others (calls : List StoreCall) (h : (after calls).insertMessage m = .ok db)
    {id : String} (hid : id ≠ m.id) :
    db.getMessage id =
        ((after calls).getMessage id).map (Option.map (·.without (m.attachments.map (·.id)))) ∧
      (db.getMessage id = (after calls).getMessage id ↔
        ∀ x, (after calls).getMessage id = .ok (some x) →
          ∀ a ∈ x.attachments, a.id ∉ m.attachments.map (·.id)) := by
  have hget := getMessage_insertMessage_of_ne calls h hid
  refine ⟨hget, ?_⟩
  rw [hget]
  cases (after calls).getMessage id with
  | error e => simp [Except.map]
  | ok found =>
    cases found with
    | none => simp [Except.map]
    | some x => simp [Except.map, Message.without_eq_self_iff]

/-- An account of another user than that of the sample. -/
def otherAccount : Account := ⟨"acc-2", "user-2", "eve@example.com", none⟩

/-- A message in it, with an attachment of the same id as that of the sample. -/
def otherMessage : Message :=
  { sampleCalls.message with id := "m-2", userId := "user-2", accountId := "acc-2" }

/-- The calls before it is stored. -/
def callsBefore : List StoreCall := sampleCalls ++ [.account otherAccount]

/-- The database after it is stored. -/
def takenDatabase : Database := after (callsBefore ++ [.message otherMessage])

theorem insertMessage_otherMessage :
    (after callsBefore).insertMessage otherMessage = .ok takenDatabase := rfl

theorem getMessage_callsBefore :
    (after callsBefore).getMessage "m-1" = .ok (some sampleCalls.message) := by
  have hstore : (after callsBefore).store = some (sampleStore.insertAccount otherAccount) := rfl
  have hsample : (after sampleCalls).store = some sampleStore := rfl
  rw [getMessage_eq hstore, ← getMessage_sampleCalls.mpr ⟨rfl, rfl⟩, getMessage_eq hsample]
  rfl

/-- The first message is left without its attachment, which has gone over to the other user's. -/
theorem getMessage_others_sample :
    (after callsBefore).insertMessage otherMessage = .ok takenDatabase ∧
      "m-1" ≠ otherMessage.id ∧
      takenDatabase.getMessage "m-1" =
        ((after callsBefore).getMessage "m-1").map (Option.map (·.without ["a-1"])) :=
  ⟨insertMessage_otherMessage, by decide,
    (getMessage_others callsBefore insertMessage_otherMessage (by decide)).1⟩

/-- Storing a message of one user takes away an attachment of another user's message. -/
theorem attachment_taken :
    (after callsBefore).insertMessage otherMessage = .ok takenDatabase ∧
      (after callsBefore).getMessage "m-1" = .ok (some sampleCalls.message) ∧
      takenDatabase.getMessage "m-1" = .ok (some { sampleCalls.message with attachments := [] }) ∧
      sampleCalls.message.attachments ≠ [] := by
  refine ⟨insertMessage_otherMessage, getMessage_callsBefore, ?_, by decide⟩
  rw [getMessage_insertMessage_of_ne callsBefore insertMessage_otherMessage (by decide),
    getMessage_callsBefore]
  rfl

/-! ## The message stored -/

end Database

end MailSearch
