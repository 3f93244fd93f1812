import MailSearch.Proofs.Calendar.ReadBack
import MailSearch.Proofs.Data.Outcome
import MailSearch.Proofs.Data.Sorting
import MailSearch.Proofs.Mail.RoundTrip
import MailSearch.Proofs.Store.Cell
import MailSearch.Store.Database

/-!
# What a store holds

A store that was only ever written through its operations is `Store.Faithful`: its message rows are
those of messages with ids of their own and regular times, and its attachment rows those of
attachments. A message whose time is not regular has the row of the one that is written like it
(`Message.carried`).

* `MessageRow.read_ofMessage`, `AttachmentRow.Of.read`: the rows of a faithful store read back.
* `Store.Faithful.insertAccount`, `Store.Faithful.insertMessage`: every operation keeps it so.
* `Database.after_induction`: what every operation keeps holds after any calls on a new database
  (`Database.after`). `Database.faithful_after`: so does this.
* `Store.full`: the message that a row stands for, with its attachments. `getMessage_iff`: these
  are the messages that are read by their ids.
-/

namespace MailSearch

open Calendar Text

/-! ## Rows -/

/-- The row is that of the attachment. -/
def AttachmentRow.Of (r : AttachmentRow) (a : Attachment) : Prop :=
  AttachmentRow.ofAttachment a.messageId a = .ok r

namespace AttachmentRow.Of

variable {r : AttachmentRow} {a : Attachment}

theorem cells (h : r.Of a) : a.sizeBytes.toNat ≤ maxInt64 ∧ r .id = .text a.id ∧
    r .messageId = .text a.messageId ∧ r .filename = .text a.filename ∧
    r .contentType = .ofText? a.contentType ∧ r .sizeBytes = .integer a.sizeBytes.toNat := by
  unfold Of ofAttachment at h
  split at h
  · rename_i hsize
    cases h
    exact ⟨hsize, rfl, rfl, rfl, rfl, rfl⟩
  · cases h

/-- The row of an attachment is read as it. -/
theorem read (h : r.Of a) : r.read = .ok a := by
  obtain ⟨-, hid, hmessage, hname, htype, hsize⟩ := h.cells
  unfold AttachmentRow.read
  simp only [AttachmentRow.text, hid, hmessage, hname, htype, hsize, Cell.readText?_ofText?,
    Cell.readText, Cell.readInt, bind, Except.bind, pure, Except.pure, Int.toNat_natCast]
  simp

/-- A row is that of one attachment only. -/
theorem unique {b : Attachment} (h : r.Of a) (h' : r.Of b) : a = b :=
  Except.ok.inj (h.read.symm.trans h'.read)

end AttachmentRow.Of

/-- An attachment row is written as that of the attachment, moved to its message. -/
theorem AttachmentRow.of_ofAttachment {messageId : String} {a : Attachment} {r : AttachmentRow}
    (h : AttachmentRow.ofAttachment messageId a = .ok r) : r.Of { a with messageId } :=
  h

/-- A message and the one with the regular time have one row. -/
theorem MessageRow.ofMessage_carried (m : Message) : ofMessage m.carried = ofMessage m := by
  unfold ofMessage Message.carried
  rw [Timestamp.stored_carried]

/-- The row of a message with a plain year is read as it is written, without its attachments. -/
theorem MessageRow.read_ofMessage {m : Message} (h : m.sentAt.HasPlainYear) :
    (MessageRow.ofMessage m).read = .ok { m.carried with attachments := [] } := by
  have hsent : (Cell.text m.sentAt.stored).readText MessageColumn.sentAt.index
      MessageColumn.sentAt.name = .ok m.sentAt.stored := rfl
  unfold MessageRow.read
  simp only [MessageRow.text, MessageRow.text?, MessageRow.texts, MessageRow.bool, ofMessage,
    Cell.readText?_ofText?, Cell.readText?_ofTexts, Cell.readBool_ofBool, Cell.texts_ofTexts,
    Cell.readText, Except.map, bind, Except.bind, pure, Except.pure, readTimestamp,
    readStored_stored h, Except.mapError, Message.carried]

/-- Whatever row a message is read from, its time is regular. -/
theorem MessageRow.isRegular_of_read {row : MessageRow} {m : Message} (h : row.read = .ok m) :
    m.sentAt.IsRegular := by
  unfold MessageRow.read at h
  iterate 12 obtain ⟨_, -, h⟩ := Outcome.bind_eq_ok h
  obtain ⟨t, hsent, h⟩ := Outcome.bind_eq_ok h
  iterate 5 obtain ⟨_, -, h⟩ := Outcome.bind_eq_ok h
  cases h
  obtain ⟨s, -, hread⟩ := Outcome.bind_eq_ok hsent
  rw [readTimestamp] at hread
  cases hstored : readStored s with
  | error e =>
    rw [hstored] at hread
    cases hread
  | ok t' =>
    rw [hstored] at hread
    cases hread
    exact isRegular_of_readStored hstored

/-! ## The invariant -/

/-- The rows are those of messages, with ids of their own and regular times, and of attachments. -/
structure Store.Faithful (s : Store) : Prop where
  messages : ∃ ms : List Message, s.messages = ms.map MessageRow.ofMessage ∧
    (ms.map (·.id)).Nodup ∧ ∀ m ∈ ms, m.sentAt.IsRegular
  attachments : ∀ r ∈ s.attachments, ∃ a, r.Of a

namespace Store

variable {s s' : Store}

theorem faithful_empty : Store.Faithful {} where
  messages := ⟨[], rfl, List.nodup_nil, by simp⟩
  attachments := by simp

theorem Faithful.insertAccount (h : s.Faithful) (account : Account) :
    (s.insertAccount account).Faithful :=
  ⟨h.messages, h.attachments⟩

/-- Without the rows of a message, the rows of the others are left. -/
theorem filter_ofMessage (ms : List Message) (id : String) :
    (ms.map MessageRow.ofMessage).filter (fun r => r .id ≠ .text id) =
      (ms.filter (·.id ≠ id)).map MessageRow.ofMessage := by
  rw [List.filter_map]
  congr 1
  apply List.filter_congr
  intro m _
  simp [MessageRow.ofMessage]

theorem mem_foldl_putAttachment {r : AttachmentRow} {rows start : List AttachmentRow}
    (h : r ∈ rows.foldl putAttachment start) : r ∈ start ∨ r ∈ rows := by
  induction rows generalizing start with
  | nil => exact .inl h
  | cons row rows ih =>
    rcases ih h with h | h
    · unfold putAttachment at h
      rcases List.mem_append.mp h with h | h
      · exact .inl (List.mem_filter.mp h).1
      · rw [List.mem_singleton.mp h]
        exact .inr List.mem_cons_self
    · exact .inr (List.mem_cons_of_mem _ h)

/-- What a message that is stored leaves in the store. -/
theorem insertMessage_eq_ok {m : Message} (h : s.insertMessage m = .ok s') :
    ∃ rows, m.attachments.mapM (AttachmentRow.ofAttachment m.id) = .ok rows ∧
      s'.messages = (s.removeMessage m.id).messages ++ [MessageRow.ofMessage m] ∧
      s'.attachments = rows.foldl putAttachment (s.removeMessage m.id).attachments := by
  unfold insertMessage at h
  split at h
  · obtain ⟨rows, hrows, h⟩ := Outcome.map_eq_ok h
    cases h
    exact ⟨rows, hrows, rfl, rfl⟩
  · cases h

theorem Faithful.insertMessage (h : s.Faithful) {m : Message}
    (hm : s.insertMessage m = .ok s') : s'.Faithful := by
  obtain ⟨rows, hrows, hmessages, hattachments⟩ := insertMessage_eq_ok hm
  obtain ⟨ms, hms, hnodup, hregular⟩ := h.messages
  constructor
  · refine ⟨ms.filter (·.id ≠ m.id) ++ [m.carried], ?_, ?_, ?_⟩
    · rw [hmessages, removeMessage, hms, filter_ofMessage, List.map_append, List.map_singleton,
        MessageRow.ofMessage_carried]
    · refine nodup_map_append_singleton (hnodup.sublist (List.filter_sublist.map _)) fun x hx => ?_
      have hne : x.id ≠ m.id := by simpa using (List.mem_filter.mp hx).2
      exact hne
    · rw [List.forall_mem_append, List.forall_mem_singleton]
      exact ⟨fun x hx => hregular x (List.mem_filter.mp hx).1, m.sentAt.isRegular_carried⟩
  · intro r hr
    rw [hattachments] at hr
    rcases mem_foldl_putAttachment hr with hr | hr
    · exact h.attachments r (List.mem_filter.mp hr).1
    · obtain ⟨a, -, ha⟩ := Outcome.exists_of_mapM_eq_ok hrows r hr
      exact ⟨_, AttachmentRow.of_ofAttachment ha⟩

end Store

/-! ## Messages with their attachments -/

namespace Store

variable {s : Store}

/-- The attachments that are read for a message; none if they cannot be read. -/
def attached (s : Store) (messageId : String) : List Attachment :=
  (s.attachmentsOf messageId).toOption.getD []

/-- A message with the attachments that the store holds for it. -/
def full (s : Store) (m : Message) : Message := { m with attachments := s.attached m.id }

/-- A message without attachments is read as it is, if no row has it. -/
theorem full_eq_self {s : Store} {m : Message} (hrows : s.attachmentRows (.text m.id) = [])
    (hnone : m.attachments = []) : s.full m = m := by
  have hattached : s.attached m.id = m.attachments := by
    rw [attached, attachmentsOf, hrows, List.mergeSort_nil, hnone]
    rfl
  rw [full, hattached]

/-- Rows of attachments are read as those attachments. -/
theorem mapM_read {rows : List AttachmentRow} (h : ∀ r ∈ rows, ∃ a, r.Of a) :
    ∃ as, rows.mapM AttachmentRow.read = .ok as ∧ ∀ a, a ∈ as ↔ ∃ r ∈ rows, r.Of a := by
  induction rows with
  | nil => exact ⟨[], rfl, by simp⟩
  | cons r rs ih =>
    obtain ⟨a, ha⟩ := h r List.mem_cons_self
    obtain ⟨as, has, hmem⟩ := ih fun x hx => h x (List.mem_cons_of_mem _ hx)
    refine ⟨a :: as, ?_, fun b => ?_⟩
    · rw [List.mapM_cons, ha.read, has]
      rfl
    · rw [List.mem_cons, hmem b]
      constructor
      · rintro (rfl | ⟨x, hx, hb⟩)
        · exact ⟨r, List.mem_cons_self, ha⟩
        · exact ⟨x, List.mem_cons_of_mem _ hx, hb⟩
      · rintro ⟨x, hx, hb⟩
        rcases List.mem_cons.mp hx with rfl | hx
        · exact .inl (hb.unique ha)
        · exact .inr ⟨x, hx, hb⟩

/-- The attachments of a message are read from its rows. -/
theorem Faithful.attachmentsOf (h : s.Faithful) (messageId : String) :
    s.attachmentsOf messageId = .ok (s.attached messageId) ∧
    ∀ a, a ∈ s.attached messageId ↔ ∃ r ∈ s.attachmentRows (.text messageId), r.Of a := by
  have hof : ∀ r ∈ (s.attachmentRows (.text messageId)).mergeSort fun a b =>
      keysLe [(a .filename, b .filename), (a .id, b .id)], ∃ a, r.Of a := by
    intro r hr
    exact h.attachments r (List.mem_filter.mp (List.mem_mergeSort.mp hr)).1
  obtain ⟨as, has, hmem⟩ := mapM_read hof
  have hok : s.attachmentsOf messageId = .ok as := has
  refine ⟨by rw [attached, hok]; rfl, fun a => ?_⟩
  rw [attached, hok]
  simp only [Except.toOption, Option.getD_some, hmem a, List.mem_mergeSort]

theorem Faithful.withAttachments (h : s.Faithful) (m : Message) :
    s.withAttachments m = .ok (s.full m) := by
  unfold Store.withAttachments
  rw [(h.attachmentsOf m.id).1]
  rfl

/-- Whatever a page is read from, the times of its messages are regular. -/
theorem isRegular_of_find {clause : Clause} {limit offset : Nat} {page : List Message}
    (h : s.find clause limit offset = .ok page) : ∀ m ∈ page, m.sentAt.IsRegular := by
  obtain ⟨-, -, h⟩ := Outcome.bind_eq_ok h
  obtain ⟨rows, -, h⟩ := Outcome.bind_eq_ok h
  obtain ⟨messages, hread, h⟩ := Outcome.bind_eq_ok h
  intro m hm
  obtain ⟨x, hx, hfull⟩ := Outcome.exists_of_mapM_eq_ok h m hm
  obtain ⟨as, -, rfl⟩ := Outcome.map_eq_ok hfull
  obtain ⟨row, -, hrow⟩ := Outcome.exists_of_mapM_eq_ok hread x hx
  have hsent : x.sentAt.IsRegular := MessageRow.isRegular_of_read hrow
  exact hsent

/-- Every stored message was sent in a year from 0000 to 9999. -/
def HasPlainYears (s : Store) : Prop :=
  ∀ m, MessageRow.ofMessage m ∈ s.messages → m.sentAt.HasPlainYear

/-- Messages with one row have plain years alike. -/
theorem hasPlainYear_of_row_eq {m x : Message} (h : MessageRow.ofMessage x = MessageRow.ofMessage m)
    (hx : x.sentAt.HasPlainYear) : m.sentAt.HasPlainYear :=
  hasPlainYear_of_stored_eq (Cell.text.inj (congrFun h .sentAt)).symm hx

/-- Where the rows are those of messages with plain years, no other year is stored. -/
theorem hasPlainYears_of_messages {s : Store} {ms : List Message}
    (hms : s.messages = ms.map MessageRow.ofMessage) (h : ∀ m ∈ ms, m.sentAt.HasPlainYear) :
    s.HasPlainYears := by
  intro m hm
  obtain ⟨x, hx, hrow⟩ := List.mem_map.mp (hms ▸ hm)
  exact hasPlainYear_of_row_eq hrow (h x hx)

/-- With ids of their own, messages are found by them. -/
theorem find?_id {ms : List Message} (hnodup : (ms.map (·.id)).Nodup) {m : Message}
    (hm : m ∈ ms) : ms.find? (fun x => x.id = m.id) = some m := by
  induction ms with
  | nil => cases hm
  | cons x ms ih =>
    rw [List.map_cons, List.nodup_cons] at hnodup
    rcases List.mem_cons.mp hm with rfl | hm
    · exact List.find?_cons_of_pos (by simp)
    · have hne : x.id ≠ m.id := fun h => hnodup.1 (h ▸ List.mem_map_of_mem hm)
      rw [List.find?_cons_of_neg (by simpa using hne)]
      exact ih hnodup.2 hm

/-- The row with an id is that of the message with the id. -/
theorem find?_row {ms : List Message} (hms : s.messages = ms.map MessageRow.ofMessage)
    (id : String) : s.messages.find? (fun r => r .id = .text id) =
      (ms.find? fun m => m.id = id).map MessageRow.ofMessage := by
  rw [hms, List.find?_map]
  congr 2
  funext m
  simp [MessageRow.ofMessage]

/-- A message with a plain year is read by its id as it is written, whatever the years of the
others. -/
theorem Faithful.getMessage_of_mem (h : s.Faithful) {ms : List Message}
    (hms : s.messages = ms.map MessageRow.ofMessage) (hnodup : (ms.map (·.id)).Nodup)
    {m : Message} (hm : m ∈ ms) (hyear : m.sentAt.HasPlainYear) :
    s.getMessage m.id = .ok (some (s.full m.carried)) := by
  unfold Store.getMessage
  rw [find?_row hms, find?_id hnodup hm]
  simp only [Option.map_some, MessageRow.read_ofMessage hyear, bind, Except.bind,
    h.withAttachments]
  rfl

/-- The messages found by their ids are the stored messages with their attachments. -/
theorem Faithful.getMessage_iff (h : s.Faithful) (hyears : s.HasPlainYears) {ms : List Message}
    (hms : s.messages = ms.map MessageRow.ofMessage) (hnodup : (ms.map (·.id)).Nodup)
    (hregular : ∀ m ∈ ms, m.sentAt.IsRegular) {id : String} {x : Message} :
    s.getMessage id = .ok (some x) ↔ ∃ m ∈ ms, m.id = id ∧ s.full m = x := by
  have hread : ∀ m ∈ ms, s.getMessage m.id = .ok (some (s.full m)) := fun m hm => by
    have hget := h.getMessage_of_mem hms hnodup hm (hyears m (hms ▸ List.mem_map_of_mem hm))
    rwa [Message.carried_of_isRegular (hregular m hm)] at hget
  constructor
  · intro hget
    cases hfound : ms.find? fun m => m.id = id with
    | none =>
      rw [Store.getMessage, find?_row hms, hfound] at hget
      cases hget
    | some m =>
      have hm := List.mem_of_find?_eq_some hfound
      have hid : m.id = id := by simpa using List.find?_some hfound
      rw [← hid, hread m hm] at hget
      cases hget
      exact ⟨m, hm, hid, rfl⟩
  · rintro ⟨m, hm, rfl, rfl⟩
    exact hread m hm

end Store

/-! ## Calls on a database -/

/-- A call that stores something in a database. -/
inductive StoreCall where
  | account (account : Account)
  | message (message : Message)

namespace Database

/-- The database after a call. A call that is refused changes nothing. -/
def call (db : Database) : StoreCall → Database
  | .account a => (db.insertAccount a).toOption.getD db
  | .message m => (db.insertMessage m).toOption.getD db

/-- A database opened for the first time. -/
def opened : Database := ⟨setVersion [] latestVersion, some {}⟩

/-- A database opened for the first time, after some calls. -/
def after (calls : List StoreCall) : Database := calls.foldl call opened

section Tables

variable {db : Database} {s : Store}

/-- The operations of a database with tables are those of its store. -/
theorem insertAccount_eq (h : db.store = some s) (account : Account) :
    db.insertAccount account = .ok { db with store := some (s.insertAccount account) } := by
  simp only [insertAccount, withStore, h, bind, Except.bind, pure, Except.pure]

theorem insertMessage_eq (h : db.store = some s) (m : Message) : db.insertMessage m =
    (s.insertMessage m).map fun s' => { db with store := some s' } := by
  simp only [insertMessage, withStore, h, bind, Except.bind, pure, Except.pure, Except.map]

theorem getMessage_eq (h : db.store = some s) (id : String) :
    db.getMessage id = s.getMessage id := by
  simp only [getMessage, withStore, h, bind, Except.bind]

/-- Whatever a page is read from, the times of its messages are regular. -/
theorem isRegular_of_find {clause : Clause} {limit offset : Nat} {page : List Message}
    (h : db.find clause limit offset = .ok page) : ∀ m ∈ page, m.sentAt.IsRegular := by
  obtain ⟨s, -, h⟩ := Outcome.bind_eq_ok h
  exact s.isRegular_of_find h

end Tables

/-- What operations keep of a store, calls keep of a database. -/
theorem call_induction {P : Store → Prop}
    (haccount : ∀ {s}, P s → ∀ a, P (s.insertAccount a))
    (hmessage : ∀ {s m s'}, P s → s.insertMessage m = .ok s' → P s') {db : Database}
    (h : ∃ s, db.store = some s ∧ P s) (c : StoreCall) : ∃ s, (db.call c).store = some s ∧ P s := by
  obtain ⟨s, hs, hP⟩ := h
  cases c with
  | account a =>
    simp only [Database.call, insertAccount_eq hs a]
    exact ⟨_, rfl, haccount hP a⟩
  | message m =>
    simp only [Database.call, insertMessage_eq hs m]
    cases hm : s.insertMessage m with
    | error e => exact ⟨s, hs, hP⟩
    | ok s' => exact ⟨s', rfl, hmessage hP hm⟩

/-- What holds of an empty store and is kept by operations, holds after any calls. -/
theorem after_induction {P : Store → Prop} (hempty : P {})
    (haccount : ∀ {s}, P s → ∀ a, P (s.insertAccount a))
    (hmessage : ∀ {s m s'}, P s → s.insertMessage m = .ok s' → P s') (calls : List StoreCall) :
    ∃ s, (after calls).store = some s ∧ P s := by
  have hfold : ∀ db : Database, (∃ s, db.store = some s ∧ P s) →
      ∃ s, (calls.foldl Database.call db).store = some s ∧ P s := by
    induction calls with
    | nil => exact fun db h => h
    | cons c calls ih => exact fun db h => ih (db.call c) (call_induction haccount hmessage h c)
  exact hfold opened ⟨{}, rfl, hempty⟩

/-- Every table of the database is there and was only written through calls. -/
def Faithful (db : Database) : Prop := ∃ s, db.store = some s ∧ s.Faithful

theorem Faithful.call {db : Database} (h : db.Faithful) (c : StoreCall) : (db.call c).Faithful :=
  call_induction Store.Faithful.insertAccount (fun hs hm => hs.insertMessage hm) h c

/-- Calls on a new database leave it with the rows of messages and attachments. -/
theorem faithful_after (calls : List StoreCall) : (after calls).Faithful :=
  after_induction Store.faithful_empty Store.Faithful.insertAccount
    (fun hs hm => hs.insertMessage hm) calls

end Database

end MailSearch
