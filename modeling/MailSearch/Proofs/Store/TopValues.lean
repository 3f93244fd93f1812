import MailSearch.Proofs.Search.Paging
import MailSearch.Proofs.Search.Suggestions
import MailSearch.Proofs.Store.Inserting
import MailSearch.Proofs.Store.Integrity
import MailSearch.Proofs.Text.Bytes

/-!
# The most frequent values

What a store counts as a user's most frequent senders and subjects.

* `IsTop`: the first of the values that occur at all, with their counts, the most frequent first and
  of equals the one with the smaller bytes. `isTop_take_ranked`: ranked values that are cut off are
  so.
* `Store.columnValues_eq`: the values of a column are those of a field of the messages.
* `Store.columnValues_insertMessage`: a new message of another user is not counted.
* `Database.top_after`: all this after any calls.
-/

namespace MailSearch

open Text

/-! ## Values that stand at the top -/

namespace ValueCount

/-- The value is more frequent, or as frequent with smaller bytes. -/
def StandsBefore (a b : ValueCount) : Prop :=
  b.count < a.count ∨ (a.count = b.count ∧ utf8 a.value < utf8 b.value)

/-- Values in order that are not the same are strictly in order. -/
theorem standsBefore_of_moreFrequent {a b : ValueCount} (h : moreFrequent a b = true)
    (hne : a.value ≠ b.value) : a.StandsBefore b := by
  simp only [moreFrequent, Bool.or_eq_true, Bool.and_eq_true, decide_eq_true_eq] at h
  rcases h with hcount | ⟨hcount, hle⟩
  · exact .inl hcount
  · exact .inr ⟨hcount, utf8_lt_iff.mpr (lt_of_le_of_ne hle hne)⟩

end ValueCount

/-- The list holds the first values by their counts, as many as the limit allows. Empty values do
not count. -/
structure IsTop (count : String → Nat) (limit : Nat) (top : List ValueCount) : Prop where
  /-- No value is there twice. -/
  distinct : (top.map (·.value)).Nodup
  /-- Every value occurs, as often as it says. -/
  counted : ∀ v ∈ top, v.value ≠ "" ∧ 0 < v.count ∧ v.count = count v.value
  /-- They are in order. -/
  sorted : top.Pairwise ValueCount.StandsBefore
  /-- None is left out but for the limit. -/
  length : top.length = min limit (Set.ncard {value | value ≠ "" ∧ 0 < count value})
  /-- A value that is left out stands behind all that are not. -/
  omitted : ∀ value, value ≠ "" → 0 < count value → value ∉ top.map (·.value) →
    ∀ v ∈ top, v.StandsBefore ⟨value, count value⟩

/-- Ranked values are strictly in order. -/
theorem pairwise_standsBefore_ranked (values : List String) :
    (ranked values).Pairwise ValueCount.StandsBefore := by
  have hdistinct := List.pairwise_map.mp (nodup_value_ranked values)
  have horder : (ranked values).Pairwise fun a b => moreFrequent a b = true :=
    (isOrderOn_moreFrequent (tally values)).pairwise_mergeSort
  exact List.Pairwise.imp (fun h => ValueCount.standsBefore_of_moreFrequent h.1 h.2)
    (horder.and hdistinct)

/-- There are as many ranked values as different ones. -/
theorem length_ranked (values : List String) :
    (ranked values).length = Set.ncard {value | value ∈ values} := by
  have hset : {value | value ∈ values} = ((ranked values).map (·.value)).toFinset := by
    ext value
    simp [mem_value_ranked]
  rw [hset, Set.ncard_coe_finset, List.toFinset_card_of_nodup (nodup_value_ranked values),
    List.length_map]

theorem length_ranked_le (values : List String) : (ranked values).length ≤ values.length := by
  rw [ranked, List.length_mergeSort, tally, List.length_map]
  exact (eraseDups_sublist values).length_le

/-- Ranked values that are cut off are the top ones. -/
theorem isTop_take_ranked {values : List String} {count : String → Nat} (hempty : "" ∉ values)
    (hcount : ∀ value, value ≠ "" → values.count value = count value) (limit : Nat) :
    IsTop count limit ((ranked values).take limit) := by
  have hmem : ∀ value, value ∈ values ↔ value ≠ "" ∧ 0 < count value := by
    intro value
    rw [← List.count_pos_iff]
    constructor
    · intro hpos
      have hne : value ≠ "" := fun h => hempty (h ▸ List.count_pos_iff.mp hpos)
      exact ⟨hne, hcount value hne ▸ hpos⟩
    · rintro ⟨hne, hpos⟩
      exact (hcount value hne).symm ▸ hpos
  have hsorted := pairwise_standsBefore_ranked values
  constructor
  case distinct =>
    exact (nodup_value_ranked values).sublist ((List.take_sublist limit _).map _)
  case counted =>
    intro v hv
    obtain ⟨hvalue, hv⟩ := mem_ranked_iff.mp (List.mem_of_mem_take hv)
    obtain ⟨hne, hpos⟩ := (hmem v.value).mp hvalue
    rw [hcount v.value hne] at hv
    exact ⟨hne, hv ▸ hpos, hv⟩
  case sorted => exact hsorted.sublist (List.take_sublist limit _)
  case length =>
    rw [List.length_take, length_ranked]
    simp only [hmem]
  case omitted =>
    intro value hne hpos hout v hv
    have hranked : (⟨value, count value⟩ : ValueCount) ∈ ranked values :=
      mem_ranked_iff.mpr ⟨(hmem value).mpr ⟨hne, hpos⟩, (hcount value hne).symm⟩
    rw [← List.take_append_drop limit (ranked values), List.mem_append] at hranked
    rw [← List.take_append_drop limit (ranked values), List.pairwise_append] at hsorted
    rcases hranked with hin | hrest
    · exact absurd (List.mem_map_of_mem hin) hout
    · exact hsorted.2.2 v hv _ hrest

/-! ## Values of a store -/

/-- The number of a user's messages with a value in a field. -/
def occurrences (ms : List Message) (userId : String) (field : Message → Option String)
    (value : String) : Nat :=
  ms.countP fun m => m.userId = userId ∧ field m = some value

namespace Store

variable {s s' : Store} {column : MessageColumn} {field : Message → Option String}

/-- The values of a column are those of a field of the user's messages. -/
theorem columnValues_eq (hfield : ∀ m, MessageRow.ofMessage m column = .ofText? (field m))
    {ms : List Message} (hms : s.messages = ms.map MessageRow.ofMessage) (userId : String) :
    s.columnValues userId column =
      ((ms.filter (·.userId = userId)).filterMap field).filter (· ≠ "") := by
  have huser : (fun r : MessageRow => decide (r .userId = .text userId)) ∘ MessageRow.ofMessage =
      fun m => decide (m.userId = userId) := by
    funext m
    simp [MessageRow.ofMessage]
  have hvalue : (fun r : MessageRow => (r column).textValue?) ∘ MessageRow.ofMessage = field := by
    funext m
    rw [Function.comp, hfield]
    cases field m <;> rfl
  rw [columnValues, hms, List.filter_map, List.filterMap_map, huser, hvalue]

/-- The values are counted by the messages. -/
theorem count_columnValues (hfield : ∀ m, MessageRow.ofMessage m column = .ofText? (field m))
    {ms : List Message} (hms : s.messages = ms.map MessageRow.ofMessage) (userId : String)
    {value : String} (hne : value ≠ "") :
    (s.columnValues userId column).count value = occurrences ms userId field value := by
  rw [columnValues_eq hfield hms, List.count_filter (by simpa using hne), List.count,
    List.countP_filterMap, List.countP_filter, occurrences]
  refine List.countP_congr fun m _ => ?_
  cases field m <;> simp [and_comm]

theorem length_columnValues_le (s : Store) (userId : String) (column : MessageColumn) :
    (s.columnValues userId column).length ≤ s.messages.length :=
  Nat.le_trans (List.length_filter_le _ _)
    (Nat.le_trans (List.length_filterMap_le _ _) (List.length_filter_le _ _))

/-- The values counted first are the top ones. The store takes a limit of more than 63 bits for
none, and then there are no more values than it can count. -/
theorem isTop_topValues (hfield : ∀ m, MessageRow.ofMessage m column = .ofText? (field m))
    {ms : List Message} (hms : s.messages = ms.map MessageRow.ofMessage) (userId : String)
    {limit : Nat} (hlimit : limit ≤ maxInt64 ∨ s.messages.length ≤ maxInt64) :
    IsTop (occurrences ms userId field) limit (s.topValues userId column limit) := by
  have hall : (ranked (s.columnValues userId column)).length ≤ s.messages.length :=
    Nat.le_trans (length_ranked_le _) (s.length_columnValues_le userId column)
  have hcut : s.topValues userId column limit =
      (ranked (s.columnValues userId column)).take limit := by
    unfold topValues pageOf
    rw [if_pos (Nat.zero_le _), List.drop_zero]
    split
    · rfl
    · rw [List.take_of_length_le (by omega)]
  rw [hcut]
  refine isTop_take_ranked ?_ (fun value hne => count_columnValues hfield hms userId hne) limit
  simp [columnValues]

/-- A new message of another user is not counted. -/
theorem columnValues_insertMessage {m : Message} {userId : String}
    (hm : s.insertMessage m = .ok s') (huser : m.userId ≠ userId)
    (hnew : ∀ r ∈ s.messages, r .id ≠ .text m.id) (column : MessageColumn) :
    s'.columnValues userId column = s.columnValues userId column := by
  obtain ⟨rows, -, hmessages, -⟩ := insertMessage_eq_ok hm
  have hkept : (s.removeMessage m.id).messages = s.messages :=
    List.filter_eq_self.mpr fun r hr => by simpa using hnew r hr
  have hother : ¬ MessageRow.ofMessage m .userId = .text userId := fun h => huser (Cell.text.inj h)
  simp [columnValues, hmessages, hkept, hother]

end Store

/-! ## Values of a database -/

namespace Database

variable {db : Database} {s : Store}

theorem topValues_eq (hs : db.store = some s) (userId : String) (column : MessageColumn)
    (limit : Nat) : db.topValues userId column limit = .ok (s.topValues userId column limit) := by
  simp only [topValues, withStore, hs, bind, Except.bind, pure, Except.pure]

/-- A new message of another user changes no counts, whether it is stored or refused. -/
theorem topValues_call_message (hs : db.store = some s) {m : Message} {userId : String}
    (huser : m.userId ≠ userId) (hnew : ∀ r ∈ s.messages, r .id ≠ .text m.id)
    (column : MessageColumn) (limit : Nat) :
    (db.call (.message m)).topValues userId column limit = db.topValues userId column limit := by
  rw [call, insertMessage_eq hs]
  cases hm : s.insertMessage m with
  | error e => rfl
  | ok s' =>
    rw [topValues_eq hs, Except.map, Except.toOption, Option.getD_some, topValues_eq rfl,
      Store.topValues, Store.topValues, Store.columnValues_insertMessage hm huser hnew]

/-- **Top values.** After any calls the most frequent senders and subjects of a user are the top
values of the user's messages, as many as the limit allows. A new message of another user leaves
them as they are. -/
theorem top_after (calls : List StoreCall) :
    ∃ s ms, (after calls).store = some s ∧ s.messages = ms.map MessageRow.ofMessage ∧
      (ms.map (·.id)).Nodup ∧ ∀ userId limit,
        (limit ≤ maxInt64 ∨ (after calls).IsCountable →
          (∃ top, (after calls).source.topSenders userId limit = .ok top ∧
            IsTop (occurrences ms userId (·.fromAddress)) limit top) ∧
          ∃ top, (after calls).source.topSubjects userId limit = .ok top ∧
            IsTop (occurrences ms userId (·.subject)) limit top) ∧
        ∀ m : Message, m.userId ≠ userId → (∀ x ∈ ms, x.id ≠ m.id) →
          (after (calls ++ [.message m])).source.topSenders userId limit =
            (after calls).source.topSenders userId limit ∧
          (after (calls ++ [.message m])).source.topSubjects userId limit =
            (after calls).source.topSubjects userId limit := by
  obtain ⟨s, hs, hf⟩ := faithful_after calls
  obtain ⟨ms, hms, hnodup, -⟩ := hf.messages
  refine ⟨s, ms, hs, hms, hnodup, fun userId limit => ⟨fun hlimit => ?_, fun m huser hnew => ?_⟩⟩
  · have hcount := hlimit.imp_right fun h => h s hs
    exact ⟨⟨_, topValues_eq hs userId .fromAddress limit,
        Store.isTop_topValues (fun _ => rfl) hms userId hcount⟩,
      ⟨_, topValues_eq hs userId .subject limit,
        Store.isTop_topValues (fun _ => rfl) hms userId hcount⟩⟩
  · have hstep : after (calls ++ [.message m]) = (after calls).call (.message m) :=
      List.foldl_append
    have hrows : ∀ r ∈ s.messages, r .id ≠ .text m.id := by
      intro r hr
      rw [hms] at hr
      obtain ⟨x, hx, rfl⟩ := List.mem_map.mp hr
      exact fun h => hnew x hx (Cell.text.inj h)
    rw [hstep]
    exact ⟨topValues_call_message hs huser hrows .fromAddress limit,
      topValues_call_message hs huser hrows .subject limit⟩

/-- The one sender of the sample is its top sender, and stays so when another user's message is
stored. -/
theorem top_sample : ∃ ms : List Message,
    IsTop (occurrences ms "user-1" (·.fromAddress)) 10 [⟨"Bob@example.com", 1⟩] ∧
      (after (callsBefore ++ [.message otherMessage])).source.topSenders "user-1" 10 =
        .ok [⟨"Bob@example.com", 1⟩] := by
  have hstore : (after callsBefore).store = some (sampleStore.insertAccount otherAccount) := rfl
  have hsenders : (after callsBefore).source.topSenders "user-1" 10 =
      .ok [⟨"Bob@example.com", 1⟩] :=
    SearchService.topValues_singleton _ hstore (by decide)
  have hcount : (after callsBefore).IsCountable := by
    intro s hs
    cases hs
    decide
  obtain ⟨s, ms, hs, hms, -, htop⟩ := top_after callsBefore
  obtain rfl := Option.some.inj (hs.symm.trans hstore)
  have hids : ∀ x ∈ ms, x.id ≠ otherMessage.id := by
    obtain ⟨x, rfl, hx⟩ := List.map_eq_singleton_iff.mp (hms.symm.trans messages_sampleStore)
    intro y hy
    rw [List.mem_singleton.mp hy, Cell.text.inj (congrFun hx .id)]
    decide
  obtain ⟨hranked, hkept⟩ := htop "user-1" 10
  obtain ⟨⟨top, hfound, hbob⟩, -⟩ := hranked (.inr hcount)
  obtain rfl := Except.ok.inj (hfound.symm.trans hsenders)
  exact ⟨ms, hbob, (hkept otherMessage (by decide) hids).1.trans hsenders⟩

end Database

end MailSearch
