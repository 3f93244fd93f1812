import MailSearch.Proofs.Search.Readable
import MailSearch.Proofs.Search.OneUser

/-!
# Integrity of a store

What holds between the tables of a store after any calls, those that were refused included.

* `Store.Intact`: rows have ids of their own, every message has its account and every attachment
  its message. `Database.intact_after`: so it is after any calls.
* `Store.Counted`: the statistics list every account with messages once, with the number of its
  messages. `Store.counted_stats`: those of a store do.
* `Store.Intact.attachments_eq_sum_iff`: when the attachments that are counted are those that come
  back with the messages (`attachmentsIn`).
* `Database.integrity_after`: all this after any calls.
-/

namespace MailSearch

open Outcome

namespace Store

/-! ## Rows that refer to others -/

/-- Every message has its account, and every attachment its message. Accounts have ids of their
own. -/
structure Linked (s : Store) : Prop where
  accountIds : (s.accounts.map (·.accountId)).Nodup
  accountOf : ∀ r ∈ s.messages, ∃ a ∈ s.accounts, r .accountId = .text a.accountId
  messageOf : ∀ r ∈ s.attachments, ∃ m ∈ s.messages, r .messageId = m .id

/-- Rows have ids of their own, and what they refer to is there. -/
structure Intact (s : Store) : Prop extends s.Linked where
  messageIds : (s.messages.map fun r => r .id).Nodup
  attachmentIds : (s.attachments.map fun r => r .id).Nodup

variable {s s' : Store}

/-- An account takes the place of the one with its id, or is the last one. -/
theorem map_upsertAccount (account : Account) (accounts : List Account) :
    (upsertAccount account accounts).map (·.accountId) =
      if account.accountId ∈ accounts.map (·.accountId) then accounts.map (·.accountId)
      else accounts.map (·.accountId) ++ [account.accountId] := by
  induction accounts with
  | nil => rfl
  | cons a accounts ih =>
    by_cases ha : a.accountId = account.accountId
    · simp [upsertAccount, ha]
    · have hne : ¬ account.accountId = a.accountId := Ne.symm ha
      simp only [upsertAccount, if_neg ha, List.map_cons, ih, List.mem_cons, hne, false_or]
      split <;> rfl

theorem linked_empty : Linked {} where
  accountIds := List.nodup_nil
  accountOf := fun _ hr => nomatch hr
  messageOf := fun _ hr => nomatch hr

/-- Adding or changing an account leaves the others. -/
theorem Linked.insertAccount (h : s.Linked) (account : Account) :
    (s.insertAccount account).Linked where
  accountIds := by
    rw [Store.insertAccount, map_upsertAccount]
    split
    · exact h.accountIds
    · rename_i hnew
      rw [← List.concat_eq_append, List.nodup_concat]
      exact ⟨hnew, h.accountIds⟩
  accountOf := by
    intro r hr
    obtain ⟨a, ha, hid⟩ := h.accountOf r hr
    have hmem : a.accountId ∈ (upsertAccount account s.accounts).map (·.accountId) := by
      have hold : a.accountId ∈ s.accounts.map (·.accountId) := List.mem_map_of_mem ha
      rw [map_upsertAccount]
      split
      · exact hold
      · exact List.mem_append_left _ hold
    obtain ⟨b, hb, hbid⟩ := List.mem_map.mp hmem
    exact ⟨b, hb, hid.trans (congrArg Cell.text hbid.symm)⟩
  messageOf := h.messageOf

/-- A message is stored only for an account, and leaves the accounts as they are. -/
theorem accounts_of_insertMessage {m : Message} (h : s.insertMessage m = .ok s') :
    (∃ a ∈ s.accounts, a.accountId = m.accountId) ∧ s'.accounts = s.accounts := by
  unfold insertMessage at h
  split at h
  · rename_i haccount
    obtain ⟨rows, -, rfl⟩ := map_eq_ok h
    exact ⟨by simpa [hasAccount] using haccount, rfl⟩
  · cases h

/-- Storing a message removes only what referred to the one before it. -/
theorem Linked.insertMessage (h : s.Linked) {m : Message} (hm : s.insertMessage m = .ok s') :
    s'.Linked := by
  obtain ⟨⟨account, haccount, hid⟩, haccounts⟩ := accounts_of_insertMessage hm
  obtain ⟨rows, hrows, hmessages, hattachments⟩ := insertMessage_eq_ok hm
  constructor
  case accountIds => rw [haccounts]; exact h.accountIds
  case accountOf =>
    intro r hr
    rw [hmessages] at hr
    rw [haccounts]
    rcases List.mem_append.mp hr with hr | hr
    · exact h.accountOf r (List.mem_filter.mp hr).1
    · rw [List.mem_singleton.mp hr]
      exact ⟨account, haccount, congrArg Cell.text hid.symm⟩
  case messageOf =>
    intro r hr
    rw [hattachments] at hr
    rw [hmessages]
    rcases mem_foldl_putAttachment hr with hr | hr
    · -- an attachment that is left is not of the message that was removed
      obtain ⟨hold, hother⟩ := List.mem_filter.mp hr
      obtain ⟨row, hrow, hrowid⟩ := h.messageOf r hold
      refine ⟨row, List.mem_append_left _ (List.mem_filter.mpr ⟨hrow, ?_⟩), hrowid⟩
      rwa [← hrowid]
    · obtain ⟨a, -, ha⟩ := exists_of_mapM_eq_ok hrows r hr
      obtain ⟨-, -, hmessage, -⟩ := (AttachmentRow.of_ofAttachment ha).cells
      exact ⟨_, List.mem_append_right _ (List.mem_singleton_self _), hmessage⟩

end Store

/-- **Integrity.** After any calls, rows have ids of their own, and what they refer to is there. -/
theorem Database.intact_after (calls : List StoreCall) :
    ∃ s, (after calls).store = some s ∧ s.Reached ∧ s.Intact := by
  obtain ⟨s, hs, hreached⟩ := reached_after calls
  obtain ⟨s', hs', hlinked⟩ := after_induction (P := Store.Linked) Store.linked_empty
    (fun h account => h.insertAccount account) (fun h hm => h.insertMessage hm) calls
  obtain rfl : s = s' := Option.some.inj (hs.symm.trans hs')
  exact ⟨s, hs, hreached, hlinked, hreached.faithful.nodup_ids, hreached.ownIds⟩

/-! ## Messages counted by account -/

theorem map_value_tally (values : List String) :
    (tally values).map (·.value) = values.eraseDups := by
  rw [tally, List.map_map]
  exact List.map_id _

/-- Ranked values are the distinct ones, each with its count. -/
theorem mem_ranked_iff {values : List String} {v : ValueCount} :
    v ∈ ranked values ↔ v.value ∈ values ∧ v.count = values.count v.value := by
  rw [ranked, List.mem_mergeSort, tally, List.mem_map]
  constructor
  · rintro ⟨value, hvalue, rfl⟩
    exact ⟨List.mem_eraseDups.mp hvalue, rfl⟩
  · rintro ⟨hvalue, hcount⟩
    exact ⟨v.value, List.mem_eraseDups.mpr hvalue, by rw [← hcount]⟩

theorem nodup_value_ranked (values : List String) : ((ranked values).map (·.value)).Nodup := by
  have hperm := (List.mergeSort_perm (tally values) moreFrequent).map (·.value)
  rw [map_value_tally] at hperm
  exact hperm.nodup_iff.mpr (nodup_eraseDups values)

theorem mem_value_ranked {values : List String} {value : String} :
    value ∈ (ranked values).map (·.value) ↔ value ∈ values := by
  rw [List.mem_map]
  constructor
  · rintro ⟨v, hv, rfl⟩
    exact (mem_ranked_iff.mp hv).1
  · exact fun hvalue => ⟨⟨value, values.count value⟩, mem_ranked_iff.mpr ⟨hvalue, rfl⟩, rfl⟩

/-- The counts of the distinct values make up the whole. -/
theorem sum_count_ranked (values : List String) :
    ((ranked values).map (·.count)).sum = values.length := by
  have hcounts : (ranked values).map (·.count) =
      ((ranked values).map (·.value)).map values.count := by
    rw [List.map_map]
    exact List.map_congr_left fun v hv => (mem_ranked_iff.mp hv).2
  rw [hcounts]
  exact (length_eq_sum_count (nodup_value_ranked values) fun _ => mem_value_ranked.mpr).symm

namespace Store

/-- The statistics count all messages, and list every account that has messages once, with the
number of its messages. These numbers make up the whole. -/
structure Counted (s : Store) (stats : Stats) : Prop where
  messages : stats.messages = s.messages.length
  once : (stats.byAccount.map (·.accountId)).Nodup
  listed : ∀ id, id ∈ stats.byAccount.map (·.accountId) ↔
    ∃ r ∈ s.messages, r .accountId = .text id
  count : ∀ c ∈ stats.byAccount,
    c.count = s.messages.countP fun r => r .accountId = .text c.accountId
  total : (stats.byAccount.map (·.count)).sum = stats.messages

/-- A column that is always filled has as many texts as there are messages. -/
theorem filterMap_textValue? {column : MessageColumn} {field : Message → String}
    (hfield : ∀ m, MessageRow.ofMessage m column = .text (field m)) (ms : List Message) :
    ((ms.map MessageRow.ofMessage).filterMap fun r => (r column).textValue?) = ms.map field := by
  rw [List.filterMap_map, ← List.filterMap_eq_map]
  refine List.filterMap_congr fun m _ => ?_
  rw [Function.comp, hfield]
  rfl

theorem count_accountId (ms : List Message) (id : String) :
    (ms.map (·.accountId)).count id =
      (ms.map MessageRow.ofMessage).countP fun r => r .accountId = .text id := by
  rw [List.count, List.countP_map, List.countP_map]
  exact List.countP_congr fun m _ => by simp [MessageRow.ofMessage]

/-- The statistics of a store count what is in it. -/
theorem counted_stats {s : Store} (h : s.Faithful) : s.Counted s.stats := by
  obtain ⟨ms, hms, -⟩ := h.messages
  have hvalues : (s.messages.filterMap fun r => (r .accountId).textValue?) =
      ms.map (·.accountId) := by
    rw [hms, filterMap_textValue? fun _ => rfl]
  have hby : s.stats.byAccount =
      (ranked (ms.map (·.accountId))).map fun v => ⟨v.value, v.count⟩ := by
    rw [← hvalues]
    rfl
  constructor
  case messages => rfl
  case once =>
    rw [hby, List.map_map]
    exact nodup_value_ranked _
  case listed =>
    intro id
    rw [hby, List.map_map]
    refine mem_value_ranked.trans ?_
    simp [hms, MessageRow.ofMessage]
  case count =>
    intro c hc
    rw [hby] at hc
    obtain ⟨v, hv, rfl⟩ := List.mem_map.mp hc
    rw [hms, ← count_accountId, ← (mem_ranked_iff.mp hv).2]
  case total =>
    have hsum := congrArg (Nat.cast (R := Int)) (sum_count_ranked (ms.map (·.accountId)))
    rw [hby]
    simpa [stats, hms, Function.comp_def] using hsum

end Store

/-! ## Attachments that come back -/

/-- The attachments in an answer; none if there is no message, or it could not be read. -/
def attachmentsIn : Except StoreError (Option Message) → List Attachment
  | .ok (some m) => m.attachments
  | _ => []

namespace Store

/-- The ids of the stored messages. -/
def messageIds (s : Store) : List String := s.messages.filterMap fun r => (r .id).textValue?

variable {s : Store} {ms : List Message}

theorem messageIds_eq (hms : s.messages = ms.map MessageRow.ofMessage) :
    s.messageIds = ms.map (·.id) := by
  rw [messageIds, hms, filterMap_textValue? fun _ => rfl]

/-- A message that is read comes back with all its attachments, one that is not with none. -/
theorem Faithful.length_attachmentsIn (h : s.Faithful)
    (hms : s.messages = ms.map MessageRow.ofMessage) (hnodup : (ms.map (·.id)).Nodup)
    {m : Message} (hm : m ∈ ms) :
    (attachmentsIn (s.getMessage m.id)).length =
      if m.sentAt.HasPlainYear then (s.attachmentRows (.text m.id)).length else 0 := by
  by_cases hyear : m.sentAt.HasPlainYear
  · have hlength := length_of_mapM_eq_ok (h.attachmentsOf m.id).1
    rw [List.length_mergeSort] at hlength
    rw [h.getMessage_of_mem hms hnodup hm hyear, if_pos hyear, ← hlength]
    rfl
  · rw [if_neg hyear]
    cases hread : s.getMessage m.id with
    | error e => rfl
    | ok found =>
      have hrow : MessageRow.ofMessage m ∈ s.messages := hms ▸ List.mem_map_of_mem hm
      exact absurd (h.returns_getMessage_iff.mp ⟨found, hread⟩ m hrow rfl) hyear

/-- No message comes back with more, and with less only one that has some and is not read. -/
theorem Faithful.length_attachmentsIn_le (h : s.Faithful)
    (hms : s.messages = ms.map MessageRow.ofMessage) (hnodup : (ms.map (·.id)).Nodup)
    {m : Message} (hm : m ∈ ms) :
    (attachmentsIn (s.getMessage m.id)).length ≤ (s.attachmentRows (.text m.id)).length ∧
    ((attachmentsIn (s.getMessage m.id)).length = (s.attachmentRows (.text m.id)).length ↔
      (s.attachmentRows (.text m.id) ≠ [] → m.sentAt.HasPlainYear)) := by
  rw [h.length_attachmentsIn hms hnodup hm]
  by_cases hyear : m.sentAt.HasPlainYear
  · simp [hyear]
  · rw [if_neg hyear, eq_comm, List.length_eq_zero_iff]
    exact ⟨Nat.zero_le _, by simp [hyear]⟩

/-- Every attachment is one of a stored message. -/
theorem Linked.length_attachments (h : s.Linked) (hms : s.messages = ms.map MessageRow.ofMessage)
    (hnodup : (ms.map (·.id)).Nodup) :
    s.attachments.length = (ms.map fun m => (s.attachmentRows (.text m.id)).length).sum := by
  have hids : (ms.map fun m => Cell.text m.id).Nodup := by
    have hcells := hnodup.map fun _ _ h => Cell.text.inj h
    rwa [List.map_map] at hcells
  have hsum := length_eq_sum_count (l := s.attachments.map fun r => r .messageId) hids <| by
    intro cell hcell
    obtain ⟨r, hr, rfl⟩ := List.mem_map.mp hcell
    obtain ⟨row, hrow, hid⟩ := h.messageOf r hr
    rw [hms] at hrow
    obtain ⟨m, hm, rfl⟩ := List.mem_map.mp hrow
    exact List.mem_map.mpr ⟨m, hm, hid.symm⟩
  rw [List.length_map, List.map_map] at hsum
  rw [hsum]
  congr 1
  refine List.map_congr_left fun m _ => ?_
  rw [Function.comp, List.count, List.countP_map, List.countP_eq_length_filter]
  rfl

/-- All attachments come back with the messages exactly if those that have some are read. -/
theorem Intact.attachments_eq_sum_iff (h : s.Intact) (hf : s.Faithful) :
    s.attachments.length =
        (s.messageIds.map fun id => (attachmentsIn (s.getMessage id)).length).sum ↔
      ∀ m, MessageRow.ofMessage m ∈ s.messages → s.attachmentRows (.text m.id) ≠ [] →
        m.sentAt.HasPlainYear := by
  obtain ⟨ms, hms, hnodup, -⟩ := hf.messages
  rw [h.length_attachments hms hnodup, messageIds_eq hms, List.map_map, eq_comm]
  refine (sum_map_eq_iff fun m hm => (hf.length_attachmentsIn_le hms hnodup hm).1).trans ?_
  constructor
  · intro hall m hm hrows
    obtain ⟨x, hx, hrow⟩ := List.mem_map.mp (hms ▸ hm)
    have hid : x.id = m.id := Cell.text.inj (congrFun hrow .id)
    rw [← hid] at hrows
    exact hasPlainYear_of_row_eq hrow
      ((hf.length_attachmentsIn_le hms hnodup hx).2.mp (hall x hx) hrows)
  · intro hyears m hm
    exact (hf.length_attachmentsIn_le hms hnodup hm).2.mpr
      (hyears m (hms ▸ List.mem_map_of_mem hm))

end Store

namespace Database

/-- A message has rows of attachments exactly if the database holds attachments of it. -/
theorem attachmentRows_ne_nil_iff {db : Database} {s : Store} (hs : db.store = some s)
    (hf : s.Faithful) {id : String} :
    s.attachmentRows (.text id) ≠ [] ↔ ∃ a, db.HoldsAttachment a ∧ a.messageId = id := by
  constructor
  · intro hrows
    obtain ⟨r, hr⟩ := List.exists_mem_of_ne_nil _ hrows
    obtain ⟨hmem, hid⟩ := List.mem_filter.mp hr
    obtain ⟨a, ha⟩ := hf.attachments r hmem
    obtain ⟨-, -, hcell, -⟩ := ha.cells
    exact ⟨a, (holdsAttachment_iff hs ha).mpr hmem,
      Cell.text.inj (hcell.symm.trans (of_decide_eq_true hid))⟩
  · rintro ⟨a, ⟨s', hs', r, hr, ha⟩, rfl⟩
    obtain rfl : s = s' := Option.some.inj (hs.symm.trans hs')
    obtain ⟨-, -, hcell, -⟩ := ha.cells
    exact List.ne_nil_of_mem (List.mem_filter.mpr ⟨hr, decide_eq_true hcell⟩)

/-- **Integrity.** After any calls, what rows refer to is there, and the statistics tell what is
stored. The attachments that they count are those that come back with the messages exactly if every
message with attachments was sent in a plain year. -/
theorem integrity_after (calls : List StoreCall) :
    ∃ s stats, (after calls).store = some s ∧ s.Intact ∧
      (after calls).stats = .ok stats ∧ s.Counted stats ∧
      (stats.attachments = ((s.messageIds.map fun id =>
          (attachmentsIn ((after calls).getMessage id)).length).sum : Nat) ↔
        ∀ m a, (after calls).Holds m → (after calls).HoldsAttachment a → a.messageId = m.id →
          m.sentAt.HasPlainYear) := by
  obtain ⟨s, hs, hreached, hintact⟩ := intact_after calls
  have hf := hreached.faithful
  have hstats : (after calls).stats = .ok s.stats := by
    simp only [stats, withStore, hs, bind, Except.bind, pure, Except.pure]
  refine ⟨s, s.stats, hs, hintact, hstats, Store.counted_stats hf, ?_⟩
  simp only [getMessage_eq hs]
  refine Int.natCast_inj.trans ((hintact.attachments_eq_sum_iff hf).trans ?_)
  simp only [holds_iff hs, attachmentRows_ne_nil_iff hs hf]
  constructor
  · exact fun h m a hm ha hid => h m hm ⟨a, ha, hid⟩
  · rintro h m hm ⟨a, ha, hid⟩
    exact h m a hm ha hid

/-- The attachment of a message sent in the year 10000 is counted, but it does not come back. -/
theorem late_attachment_counted_not_returned :
    ∃ s stats, (after [.account lateAccount, .message lateMessage]).store = some s ∧
      (after [.account lateAccount, .message lateMessage]).stats = .ok stats ∧
      stats.attachments = 1 ∧
      (s.messageIds.map fun id => (attachmentsIn
        ((after [.account lateAccount, .message lateMessage]).getMessage id)).length).sum = 0 := by
  obtain ⟨s, hs, hf⟩ := faithful_after [.account lateAccount, .message lateMessage]
  have hrows : s.messages = [lateMessage].map MessageRow.ofMessage := by
    cases hs
    rfl
  have hlength := hf.length_attachmentsIn hrows (List.nodup_singleton _)
    (List.mem_singleton_self _)
  rw [if_neg (by decide)] at hlength
  refine ⟨s, s.stats, hs, ?_, ?_, ?_⟩
  · simp only [stats, withStore, hs, bind, Except.bind, pure, Except.pure]
  · cases hs
    rfl
  · simp only [Store.messageIds_eq hrows, getMessage_eq hs]
    exact hlength

end Database

end MailSearch
