import MailSearch.Proofs.Calendar.StoredOrder
import MailSearch.Proofs.Clause.Stored

/-!
# Found messages

What `Store.find` and `Store.count` give in a faithful store with plain years, for a search that the
engine takes.

* `Store.Takes.find_eq_ok`: a page is cut out of one list, `Store.found`, and `Store.count` is its
  length.
* `Store.mem_found`: the list holds the stored messages that the search selects.
* `Store.found_newestFirst`: its messages stand newest first, and by id where sent at one time.
-/

namespace MailSearch

open Calendar Text

/-- Sent later, or at the same time and with the smaller id. -/
def Message.StandsBefore (a b : Message) : Prop :=
  b.sentAt.rank < a.sentAt.rank ∨ (a.sentAt = b.sentAt ∧ a.id < b.id)

/-! ## The order of a page -/

theorem keysLe_texts {a b c d : String} :
    keysLe [(.text a, .text b), (.text c, .text d)] = true ↔ a < b ∨ (a = b ∧ c ≤ d) := by
  have hle : keysLe [(.text c, .text d)] = true ↔ c ≤ d := by
    rcases String.le_total c d with h | h
    · rcases Decidable.em (c = d) with rfl | hne
      · simp [keysLe, Cell.compare_text_self]
      · have hlt : c < d := String.not_le.mp fun h' => hne (String.le_antisymm h h')
        simp [keysLe, Cell.compare_text_of_lt hlt, h]
    · rcases Decidable.em (c = d) with rfl | hne
      · simp [keysLe, Cell.compare_text_self]
      · have hlt : d < c := String.not_le.mp fun h' => hne (String.le_antisymm h' h)
        simp [keysLe, Cell.compare_text_of_gt hlt, hlt]
  rcases String.le_total a b with h | h
  · rcases Decidable.em (a = b) with rfl | hne
    · simp only [keysLe, Cell.compare_text_self] at hle ⊢
      simp [hle]
    · have hlt : a < b := String.not_le.mp fun h' => hne (String.le_antisymm h h')
      simp [keysLe, Cell.compare_text_of_lt hlt, hlt]
  · rcases Decidable.em (a = b) with rfl | hne
    · simp only [keysLe, Cell.compare_text_self] at hle ⊢
      simp [hle]
    · have hlt : b < a := String.not_le.mp fun h' => hne (String.le_antisymm h' h)
      simp [keysLe, Cell.compare_text_of_gt hlt, hne, String.lt_asymm hlt]

/-- The order of a page, for the messages of its rows. -/
def Message.pageOrder (a b : Message) : Bool :=
  Store.newestFirst (MessageRow.ofMessage a) (MessageRow.ofMessage b)

theorem pageOrder_iff {a b : Message} : a.pageOrder b = true ↔
    b.sentAt.stored < a.sentAt.stored ∨ (b.sentAt.stored = a.sentAt.stored ∧ a.id ≤ b.id) :=
  keysLe_texts

theorem pageOrder_trans (a b c : Message) (hab : a.pageOrder b = true)
    (hbc : b.pageOrder c = true) : a.pageOrder c = true := by
  rw [pageOrder_iff] at *
  rcases hab with hab | ⟨hab, hid⟩ <;> rcases hbc with hbc | ⟨hbc, hid'⟩
  · exact .inl (String.lt_trans hbc hab)
  · exact .inl (hbc ▸ hab)
  · exact .inl (hab ▸ hbc)
  · exact .inr ⟨hbc.trans hab, String.le_trans hid hid'⟩

theorem pageOrder_total (a b : Message) : (a.pageOrder b || b.pageOrder a) = true := by
  rw [Bool.or_eq_true, pageOrder_iff, pageOrder_iff]
  rcases Decidable.em (a.sentAt.stored = b.sentAt.stored) with heq | hne
  · rcases String.le_total a.id b.id with h | h
    · exact .inl (.inr ⟨heq.symm, h⟩)
    · exact .inr (.inr ⟨heq, h⟩)
  · rcases String.le_total a.sentAt.stored b.sentAt.stored with h | h
    · exact .inr (.inl (String.not_le.mp fun h' => hne (String.le_antisymm h h')))
    · exact .inl (.inl (String.not_le.mp fun h' => hne (String.le_antisymm h' h)))

/-- Of two messages with regular times in plain years and different ids, the one that a page shows
first was sent later, or has the smaller id. -/
theorem standsBefore_of_pageOrder {a b : Message} (ha : a.sentAt.HasPlainYear)
    (hb : b.sentAt.HasPlainYear) (har : a.sentAt.IsRegular) (hbr : b.sentAt.IsRegular)
    (hid : a.id ≠ b.id) (h : a.pageOrder b = true) : a.StandsBefore b := by
  have hcompare := compare_stored hb ha.2 hbr har
  rcases pageOrder_iff.mp h with hlt | ⟨heq, hle⟩
  · rw [Cell.compare_text_of_lt hlt] at hcompare
    exact .inl (Int.compare_eq_lt.mp hcompare.symm)
  · rw [heq, Cell.compare_text_self] at hcompare
    have hrank := Timestamp.rank_inj (Int.compare_eq_eq.mp hcompare.symm)
    exact .inr ⟨hrank.symm, String.not_le.mp fun h' => hid (String.le_antisymm hle h')⟩

/-! ## Pages -/

theorem pageOf_map {α β : Type} (f : α → β) (limit offset : Nat) (items : List α) :
    pageOf limit offset (items.map f) = (pageOf limit offset items).map f := by
  unfold pageOf
  split <;> split <;> simp only [List.map_drop, List.map_take]

theorem mem_of_mem_pageOf {α : Type} {limit offset : Nat} {items : List α} {x : α}
    (h : x ∈ pageOf limit offset items) : x ∈ items := by
  unfold pageOf at h
  split at h <;> split at h
  · exact List.mem_of_mem_drop (List.mem_of_mem_take h)
  · exact List.mem_of_mem_drop h
  · exact List.mem_of_mem_take h
  · exact h

/-- A limit beyond what a page can say leaves the list as it is. -/
theorem pageOf_unlimited {α : Type} {limit : Nat} (h : maxInt64 < limit) (items : List α) :
    pageOf limit 0 items = items := by
  unfold pageOf
  rw [if_neg (Nat.not_le.mpr h), if_pos (Nat.zero_le _), List.drop_zero]

theorem pageOf_nil {α : Type} (limit offset : Nat) : pageOf limit offset ([] : List α) = [] :=
  List.eq_nil_iff_forall_not_mem.mpr fun _ hx => nomatch mem_of_mem_pageOf hx

theorem pageOf_ne_nil {α : Type} {limit : Nat} {items : List α} (hlimit : 0 < limit)
    (hne : items ≠ []) : pageOf limit 0 items ≠ [] := by
  obtain ⟨x, xs, rfl⟩ := List.exists_cons_of_ne_nil hne
  obtain ⟨n, rfl⟩ := Nat.exists_eq_add_one.mpr hlimit
  unfold pageOf
  rw [if_pos (Nat.zero_le _), List.drop_zero]
  split
  · exact List.cons_ne_nil _ _
  · exact List.cons_ne_nil _ _

namespace Store

variable {s : Store} {ms : List Message}

/-- Of the messages of a store, those to keep, in the order of a page and with their
attachments. -/
def found (s : Store) (ms : List Message) (keep : Message → Bool) : List Message :=
  ((ms.filter keep).mergeSort Message.pageOrder).map s.full

section Takes

variable {set : PredicateSet} {keep : Message → Bool}

/-- The rows that a search selects are those of the messages to keep. -/
theorem filter_rows (hms : s.messages = ms.map MessageRow.ofMessage)
    (hkeep : ∀ m ∈ ms, s.selects set m = keep m) :
    s.messages.filter (s.keeps set) = (ms.filter keep).map MessageRow.ofMessage := by
  rw [hms, List.filter_map]
  exact congrArg (List.map MessageRow.ofMessage) (List.filter_congr hkeep)

/-- A page is read from the rows of the messages to keep, in its order. -/
theorem Takes.find_rows (h : s.Takes set) (hms : s.messages = ms.map MessageRow.ofMessage)
    (hkeep : ∀ m ∈ ms, s.selects set m = keep m) (limit offset : Nat) :
    s.find set.clause limit offset =
      ((pageOf limit offset ((ms.filter keep).mergeSort Message.pageOrder)).map
        MessageRow.ofMessage).mapM MessageRow.read >>= fun messages =>
          messages.mapM s.withAttachments := by
  have hsort : ((ms.filter keep).map MessageRow.ofMessage).mergeSort newestFirst =
      ((ms.filter keep).mergeSort Message.pageOrder).map MessageRow.ofMessage :=
    (List.map_mergeSort (s := newestFirst) (f := MessageRow.ofMessage) fun _ _ _ _ => rfl).symm
  rw [h.find, filter_rows hms hkeep, hsort, pageOf_map]

/-- Pages are cut out of one list, and all its messages are counted. -/
theorem Takes.find_eq_ok (h : s.Takes set) (hf : s.Faithful) (hyears : s.HasPlainYears)
    (hms : s.messages = ms.map MessageRow.ofMessage) (hregular : ∀ m ∈ ms, m.sentAt.IsRegular)
    (hkeep : ∀ m ∈ ms, s.selects set m = keep m) (limit offset : Nat) :
    s.find set.clause limit offset = .ok (pageOf limit offset (s.found ms keep)) ∧
      s.count set.clause = .ok (s.found ms keep).length := by
  have hread : ∀ m ∈ pageOf limit offset ((ms.filter keep).mergeSort Message.pageOrder),
      (MessageRow.ofMessage m).read = .ok { m with attachments := [] } := by
    intro m hm
    have hmem := (List.mem_filter.mp (List.mem_mergeSort.mp (mem_of_mem_pageOf hm))).1
    have hread := MessageRow.read_ofMessage (hyears m (hms ▸ List.mem_map_of_mem hmem))
    rwa [Message.carried_of_isRegular (hregular m hmem)] at hread
  constructor
  · rw [h.find_rows hms hkeep, Outcome.mapM_map_eq_ok hread]
    simp only [bind, Except.bind]
    have hfull (m : Message) : s.withAttachments { m with attachments := [] } = .ok (s.full m) :=
      hf.withAttachments _
    rw [Outcome.mapM_map_eq_ok fun m _ => hfull m, found, pageOf_map]
  · rw [h.count, selectedCount, List.countP_eq_length_filter, filter_rows hms hkeep, found,
      List.length_map, List.length_map, List.length_mergeSort]

/-- Where nothing is selected, every page is empty, and nothing is counted. -/
theorem Takes.find_nothing (h : s.Takes set) (hms : s.messages = ms.map MessageRow.ofMessage)
    (hnone : ∀ m ∈ ms, s.selects set m = false) (limit offset : Nat) :
    s.find set.clause limit offset = .ok [] ∧ s.count set.clause = .ok 0 := by
  have hkept : s.messages.filter (s.keeps set) = [] := by
    rw [filter_rows hms hnone, List.filter_false, List.map_nil]
  constructor
  · rw [h.find, hkept, List.mergeSort_nil, pageOf_nil]
    rfl
  · rw [h.count, selectedCount, List.countP_eq_length_filter, hkept, List.length_nil]

end Takes

/-- No more messages are kept than there are. -/
theorem length_found_le (hms : s.messages = ms.map MessageRow.ofMessage) (keep : Message → Bool) :
    (s.found ms keep).length ≤ s.messages.length := by
  rw [found, List.length_map, List.length_mergeSort, hms, List.length_map]
  exact List.length_filter_le _ _

/-- The list holds the stored messages to keep. -/
theorem mem_found (hf : s.Faithful) (hyears : s.HasPlainYears)
    (hms : s.messages = ms.map MessageRow.ofMessage) (hnodup : (ms.map (·.id)).Nodup)
    (hregular : ∀ m ∈ ms, m.sentAt.IsRegular) {keep : Message → Bool} {holds : Message → Bool}
    (hkeep : ∀ m ∈ ms, keep m = holds (s.full m)) (m : Message) :
    m ∈ s.found ms keep ↔ s.getMessage m.id = .ok (some m) ∧ holds m = true := by
  rw [hf.getMessage_iff hyears hms hnodup hregular, found, List.mem_map]
  constructor
  · rintro ⟨x, hx, rfl⟩
    obtain ⟨hmem, hk⟩ := List.mem_filter.mp (List.mem_mergeSort.mp hx)
    exact ⟨⟨x, hmem, rfl, rfl⟩, hkeep x hmem ▸ hk⟩
  · rintro ⟨⟨x, hmem, -, rfl⟩, hh⟩
    exact ⟨x, List.mem_mergeSort.mpr (List.mem_filter.mpr ⟨hmem, (hkeep x hmem).trans hh⟩), rfl⟩

/-- The messages stand newest first, and by id where sent at one time. -/
theorem found_newestFirst (hyears : s.HasPlainYears)
    (hms : s.messages = ms.map MessageRow.ofMessage) (hnodup : (ms.map (·.id)).Nodup)
    (hregular : ∀ m ∈ ms, m.sentAt.IsRegular) (keep : Message → Bool) :
    (s.found ms keep).Pairwise Message.StandsBefore := by
  have hkept : ∀ m ∈ (ms.filter keep).mergeSort Message.pageOrder, m ∈ ms := fun m hm =>
    (List.mem_filter.mp (List.mem_mergeSort.mp hm)).1
  have hyear : ∀ m ∈ ms, m.sentAt.HasPlainYear := fun m hm =>
    hyears m (hms ▸ List.mem_map_of_mem hm)
  have hids : ((ms.filter keep).mergeSort Message.pageOrder).Pairwise fun a b => a.id ≠ b.id := by
    have hperm := (List.mergeSort_perm (ms.filter keep) Message.pageOrder).map (·.id)
    have hkept : ((ms.filter keep).map (·.id)).Nodup :=
      hnodup.sublist (List.filter_sublist.map _)
    exact List.pairwise_map.mp (hperm.nodup_iff.mpr hkept)
  have hsorted := List.pairwise_mergeSort pageOrder_trans pageOrder_total (ms.filter keep)
  rw [found, List.pairwise_map]
  refine (hsorted.and hids).imp_of_mem fun {a b} ha hb h => ?_
  exact standsBefore_of_pageOrder (hyear a (hkept a ha)) (hyear b (hkept b hb))
    (hregular a (hkept a ha)) (hregular b (hkept b hb)) h.2 h.1

end Store

end MailSearch
