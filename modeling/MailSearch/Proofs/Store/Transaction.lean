import MailSearch.Proofs.Search.Agreement

/-!
# Storing a message as a transaction

`Store.insertMessage` says what the store is after a message was stored. Here it is taken apart into
the writes of its rows, one after the other, and the transaction that holds them together.

* `Write.run`: what one write leaves in the tables, also when it fails.
* `Transaction.execAll`: writes run one after the other up to the first that fails. It leaves
  what is committed alone (`Transaction.committed_execAll`).
* `Store.transact`: all writes are committed, or else everything is rolled back.
  `Store.transact_storing`: this is what `Store.insertMessage` says.
* `Database.insertMessage_all_or_nothing`: after any calls, a message is stored as a whole if its
  account exists and its attachments are not too large, and else nothing is changed.
-/

namespace MailSearch

open Outcome Text

/-! ## Writes -/

/-- A statement that writes a part of a message. -/
inductive Write where
  /-- Puts the row of a message in the place of the one with its id. -/
  | replaceMessage (message : Message)
  /-- Removes the attachments of a message. -/
  | clearAttachments (messageId : String)
  /-- Puts the row of an attachment in the place of the one with its id. -/
  | replaceAttachment (messageId : String) (attachment : Attachment)

namespace Store

/-- Puts the row of a message in the place of the one with its id, whose attachments go with it. -/
def replaceMessage (s : Store) (m : Message) : Store :=
  let rest := s.removeMessage m.id
  { rest with messages := rest.messages ++ [MessageRow.ofMessage m] }

/-- Stores attachments one after the other. -/
def putAttachments (s : Store) (rows : List AttachmentRow) : Store :=
  { s with attachments := rows.foldl putAttachment s.attachments }

/-- Whether there is a message with an id. -/
def hasMessage (s : Store) (id : String) : Bool := s.messages.any fun r => r .id = .text id

theorem hasMessage_replaceMessage (s : Store) (m : Message) :
    (s.replaceMessage m).hasMessage m.id = true := by
  simp [hasMessage, replaceMessage, MessageRow.ofMessage]

end Store

namespace Write

/-- The tables after a write, and why it failed if it did. What a row refers to is looked up after
the row was written. A write that fails is left half done here, so that to take it back is all up to
the transaction. -/
def run (s : Store) : Write → Store × Option StoreError
  | replaceMessage m =>
    (s.replaceMessage m, if s.hasAccount m.accountId then none else some .foreignKey)
  | clearAttachments messageId =>
    ({ s with attachments := s.attachments.filter fun r => r .messageId ≠ .text messageId }, none)
  | replaceAttachment messageId a =>
    match AttachmentRow.ofAttachment messageId a with
    | .error e => (s, some e)
    | .ok row =>
      (s.putAttachments [row], if s.hasMessage messageId then none else some .foreignKey)

/-- The writes that store a message. -/
def storing (m : Message) : List Write :=
  replaceMessage m :: clearAttachments m.id :: m.attachments.map (replaceAttachment m.id)

variable {s : Store} {m : Message} {id : String} {a : Attachment}

theorem run_replaceMessage_of_account (h : s.hasAccount m.accountId = true) :
    (replaceMessage m).run s = (s.replaceMessage m, none) := by
  rw [run, if_pos h]

theorem run_replaceMessage_of_no_account (h : ¬ s.hasAccount m.accountId = true) :
    (replaceMessage m).run s = (s.replaceMessage m, some .foreignKey) := by
  rw [run, if_neg h]

/-- Once the row of a message was replaced, there is no attachment left to be removed. -/
theorem run_clearAttachments_replaceMessage (s : Store) (m : Message) :
    (clearAttachments m.id).run (s.replaceMessage m) = (s.replaceMessage m, none) := by
  simp [run, Store.replaceMessage, Store.removeMessage, List.filter_filter]

theorem run_replaceAttachment_of_ok {row : AttachmentRow} (hmessage : s.hasMessage id = true)
    (h : AttachmentRow.ofAttachment id a = .ok row) :
    (replaceAttachment id a).run s = (s.putAttachments [row], none) := by
  simp only [run, h, hmessage, if_true]

theorem run_replaceAttachment_of_error {e : StoreError}
    (h : AttachmentRow.ofAttachment id a = .error e) :
    (replaceAttachment id a).run s = (s, some e) := by
  simp only [run, h]

end Write

/-! ## Transactions -/

/-- An open transaction: the tables that are committed, and those that it has changed. -/
structure Transaction where
  committed : Store
  current : Store

namespace Transaction

/-- Runs a write within the transaction. -/
def exec (t : Transaction) (write : Write) : Transaction × Option StoreError :=
  let (current, error?) := write.run t.current
  ({ t with current }, error?)

/-- Runs writes up to the first that fails. -/
def execAll (t : Transaction) : List Write → Transaction × Option StoreError
  | [] => (t, none)
  | write :: rest =>
    match t.exec write with
    | (t, none) => t.execAll rest
    | (t, some e) => (t, some e)

theorem committed_exec (t : Transaction) (write : Write) :
    (t.exec write).1.committed = t.committed :=
  rfl

/-- However far the writes get, what is committed stays. -/
theorem committed_execAll (t : Transaction) (writes : List Write) :
    (t.execAll writes).1.committed = t.committed := by
  induction writes generalizing t with
  | nil => rfl
  | cons write rest ih =>
    have hstep := t.committed_exec write
    unfold execAll
    split
    · rename_i t' heq
      rw [heq] at hstep
      rw [ih, hstep]
    · rename_i t' e heq
      rwa [heq] at hstep

theorem execAll_cons_of_ok {t : Transaction} {write : Write} {s : Store} {rest : List Write}
    (h : write.run t.current = (s, none)) :
    t.execAll (write :: rest) = { t with current := s }.execAll rest := by
  rw [execAll, exec, h]

theorem execAll_cons_of_error {t : Transaction} {write : Write} {s : Store} {rest : List Write}
    {e : StoreError} (h : write.run t.current = (s, some e)) :
    t.execAll (write :: rest) = ({ t with current := s }, some e) := by
  rw [execAll, exec, h]

variable {id : String} {as : List Attachment}

/-- The attachments of a message that is there are stored one after the other. -/
theorem execAll_replaceAttachment_of_ok (t : Transaction) {rows : List AttachmentRow}
    (hmessage : t.current.hasMessage id = true)
    (h : as.mapM (AttachmentRow.ofAttachment id) = .ok rows) :
    t.execAll (as.map (.replaceAttachment id)) =
      ({ t with current := t.current.putAttachments rows }, none) := by
  induction as generalizing t rows with
  | nil =>
    cases h
    rfl
  | cons a as ih =>
    rw [List.mapM_cons] at h
    obtain ⟨row, hrow, h⟩ := bind_eq_ok h
    obtain ⟨rest, hrest, h⟩ := bind_eq_ok h
    cases h
    rw [List.map_cons, execAll_cons_of_ok (Write.run_replaceAttachment_of_ok hmessage hrow)]
    exact ih { t with current := t.current.putAttachments [row] } hmessage hrest

/-- The first one that is too large ends it. -/
theorem execAll_replaceAttachment_of_error (t : Transaction) {e : StoreError}
    (hmessage : t.current.hasMessage id = true)
    (h : as.mapM (AttachmentRow.ofAttachment id) = .error e) :
    (t.execAll (as.map (.replaceAttachment id))).2 = some e := by
  induction as generalizing t with
  | nil => cases h
  | cons a as ih =>
    rw [List.mapM_cons] at h
    rw [List.map_cons]
    rcases bind_eq_error h with hrow | ⟨row, hrow, h⟩
    · rw [execAll_cons_of_error (Write.run_replaceAttachment_of_error hrow)]
    · rw [execAll_cons_of_ok (Write.run_replaceAttachment_of_ok hmessage hrow)]
      rcases bind_eq_error h with hrest | ⟨rest, -, h⟩
      · exact ih { t with current := t.current.putAttachments [row] } hmessage hrest
      · cases h

end Transaction

namespace Store

/-- The tables after a transaction, and why it failed if it did: all its writes are committed,
or else it is rolled back to what was committed before. -/
def transact (s : Store) (writes : List Write) : Store × Option StoreError :=
  match Transaction.execAll ⟨s, s⟩ writes with
  | (t, none) => (t.current, none)
  | (t, some e) => (t.committed, some e)

variable {s s' : Store} {m : Message}

theorem transact_of_ok {t : Transaction} {writes : List Write}
    (h : Transaction.execAll ⟨s, s⟩ writes = (t, none)) :
    s.transact writes = (t.current, none) := by
  rw [transact, h]

/-- A write that fails takes back all that were run before it. -/
theorem transact_of_error {writes : List Write} {e : StoreError}
    (h : (Transaction.execAll ⟨s, s⟩ writes).2 = some e) :
    s.transact writes = (s, some e) := by
  have hcommitted := Transaction.committed_execAll ⟨s, s⟩ writes
  unfold transact
  split
  · rename_i t heq
    rw [heq] at h
    cases h
  · rename_i t e' heq
    rw [heq] at h hcommitted
    cases h
    rw [hcommitted]

theorem insertMessage_eq (s : Store) (m : Message) : s.insertMessage m =
    if s.hasAccount m.accountId then
      (m.attachments.mapM (AttachmentRow.ofAttachment m.id)).map (s.replaceMessage m).putAttachments
    else .error .foreignKey :=
  rfl

/-- **One transaction.** Its writes store a message as a whole, or nothing is changed. -/
theorem transact_storing (s : Store) (m : Message) :
    s.transact (Write.storing m) =
      match s.insertMessage m with
      | .ok s' => (s', none)
      | .error e => (s, some e) := by
  rw [insertMessage_eq]
  by_cases haccount : s.hasAccount m.accountId = true
  · have hstart : Transaction.execAll ⟨s, s⟩ (Write.storing m) =
        Transaction.execAll ⟨s, s.replaceMessage m⟩
          (m.attachments.map (.replaceAttachment m.id)) := by
      rw [Write.storing,
        Transaction.execAll_cons_of_ok (Write.run_replaceMessage_of_account haccount),
        Transaction.execAll_cons_of_ok (Write.run_clearAttachments_replaceMessage s m)]
    have hmessage := s.hasMessage_replaceMessage m
    rw [if_pos haccount]
    cases hrows : m.attachments.mapM (AttachmentRow.ofAttachment m.id) with
    | error e =>
      refine transact_of_error ?_
      rw [hstart, Transaction.execAll_replaceAttachment_of_error _ hmessage hrows]
    | ok rows =>
      rw [transact_of_ok (hstart.trans
        (Transaction.execAll_replaceAttachment_of_ok _ hmessage hrows))]
      rfl
  · rw [if_neg haccount]
    refine transact_of_error ?_
    rw [Write.storing,
      Transaction.execAll_cons_of_error (Write.run_replaceMessage_of_no_account haccount)]

/-- The account of a message exists, and its attachments are not too large. -/
def Admits (s : Store) (m : Message) : Prop :=
  (∃ a ∈ s.accounts, a.accountId = m.accountId) ∧
    ∀ a ∈ m.attachments, a.sizeBytes.toNat ≤ maxInt64

theorem returns_ofAttachment_iff {messageId : String} {a : Attachment} :
    Returns (AttachmentRow.ofAttachment messageId a) ↔ a.sizeBytes.toNat ≤ maxInt64 := by
  unfold AttachmentRow.ofAttachment
  split
  · rename_i hsize
    exact iff_of_true ⟨_, rfl⟩ hsize
  · rename_i hsize
    exact iff_of_false not_returns_error hsize

/-- These are the messages that can be stored. -/
theorem returns_insertMessage_iff : Returns (s.insertMessage m) ↔ s.Admits m := by
  have haccount : s.hasAccount m.accountId = true ↔
      ∃ a ∈ s.accounts, a.accountId = m.accountId := by
    simp [hasAccount]
  have hrows : Returns (m.attachments.mapM (AttachmentRow.ofAttachment m.id)) ↔
      ∀ a ∈ m.attachments, a.sizeBytes.toNat ≤ maxInt64 := by
    simp only [returns_mapM_iff, returns_ofAttachment_iff]
  unfold insertMessage Admits
  rw [← haccount, ← hrows]
  split
  · rename_i h
    refine ⟨fun ⟨_, hs⟩ => ?_, fun hrows => hrows.2.map _⟩
    obtain ⟨rows, hrows, -⟩ := map_eq_ok hs
    exact ⟨h, rows, hrows⟩
  · rename_i h
    exact iff_of_false not_returns_error fun hrows => h hrows.1

end Store

namespace Database

/-- **All or nothing.** After any calls, a message whose account exists and whose attachments are
not too large is stored, and the transaction that stores it is committed. Any other message is
refused, and its transaction is rolled back: the tables are as before. -/
theorem insertMessage_all_or_nothing (calls : List StoreCall) (m : Message) :
    ∃ s, (after calls).store = some s ∧
      ((s.Admits m ∧ ∃ s', (after calls).insertMessage m =
          .ok { after calls with store := some s' } ∧
        s.transact (Write.storing m) = (s', none)) ∨
      (¬ s.Admits m ∧ ∃ e, (after calls).insertMessage m = .error e ∧
        s.transact (Write.storing m) = (s, some e) ∧
        (after calls).call (.message m) = after calls)) := by
  obtain ⟨s, hs, -⟩ := faithful_after calls
  refine ⟨s, hs, ?_⟩
  rw [← Store.returns_insertMessage_iff, Store.transact_storing, call, insertMessage_eq hs]
  cases hm : s.insertMessage m with
  | ok s' => exact .inl ⟨⟨s', rfl⟩, s', rfl, rfl⟩
  | error e => exact .inr ⟨not_returns_error, e, rfl, rfl, rfl⟩

/-- A second version of the sample, whose second attachment is too large. -/
def tooLarge : Message :=
  { sampleCalls.message with
    attachments :=
      [⟨"a-2", "m-1", "cover.txt", none, 1⟩,
        ⟨"a-3", "m-1", "scan.png", none, 9223372036854775808⟩] }

/-- When it fails, the old attachment is gone and the first of the new ones is written. -/
example : (Transaction.execAll ⟨sampleStore, sampleStore⟩
    (Write.storing tooLarge)).1.current.attachments.map (fun r => r .id) = [.text "a-2"] := by
  decide

end Database

end MailSearch
