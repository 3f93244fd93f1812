import MailSearch.Proofs.Clause.Stored
import MailSearch.Proofs.Search.Isolation

/-!
# Which messages can be read

A message is stored whatever the year that it was sent in, but the stored form of a year outside
0000 to 9999 starts with a sign, which its reader refuses (`readStored_of_not_hasPlainYear`).
Nothing else in a row that was stored keeps it from being read (`MessageRow.returns_read_iff`), and
no search fails that the engine takes. So reading by an id, and such a search, fail exactly if they
come upon such a year: `Store.Takes.returns_find_iff` for one page, and `Database.reads_return_iff`
for all that a user can ask.
-/

namespace MailSearch

open Calendar Outcome Text

/-! ## One row -/

/-- A time whose year is not plain is stored with a sign in front, which is not read back. -/
theorem readStored_of_not_hasPlainYear {t : Timestamp} (h : ¬ t.HasPlainYear) :
    readStored t.stored = .error .invalid := by
  have hyear : yearText t.date.year =
      (if t.date.year < 0 then '-' else '+') :: padded 4 t.date.year.natAbs := if_neg h
  have hsign : (if t.date.year < 0 then '-' else '+').isDigit = false := by
    split <;> decide
  have hlength := le_length_padded 4 t.date.year.natAbs
  unfold readStored Timestamp.stored
  rw [String.toList_ofList]
  simp only [Timestamp.storedChars, Date.chars, hyear, List.cons_append, List.append_assoc]
  generalize (if t.date.year < 0 then '-' else '+') = sign at hsign
  generalize hrest : padded 4 t.date.year.natAbs ++ _ = rest
  have hbytes := length_le_byteLength (sign :: rest)
  rw [List.length_cons, ← hrest, List.length_append, hrest] at hbytes
  have hscan : scanNumber 4 4 (sign :: rest) = .error .invalid := by
    unfold scanNumber
    simp only [List.take_succ_cons, List.takeWhile_cons, hsign]
    rw [if_neg (by omega), if_pos (by simp)]
  unfold readStoredChars
  rw [hscan]
  rfl

/-- The row of a message is read if and only if the message has a plain year. -/
theorem MessageRow.returns_read_iff {m : Message} :
    Returns (MessageRow.ofMessage m).read ↔ m.sentAt.HasPlainYear := by
  constructor
  · intro hreturns
    apply Decidable.byContradiction
    intro hyear
    have hsent : ((MessageRow.ofMessage m).text .sentAt).bind readTimestamp =
        .error (.badTimestamp m.sentAt.stored.utf8ByteSize .invalid) := by
      simp only [text, ofMessage, Cell.readText, Except.bind, readTimestamp,
        readStored_of_not_hasPlainYear hyear, Except.mapError]
    obtain ⟨x, h⟩ := hreturns
    unfold read at h
    iterate 12 obtain ⟨_, -, h⟩ := bind_eq_ok h
    rw [hsent] at h
    cases h
  · intro hyear
    exact ⟨_, read_ofMessage hyear⟩

namespace Store

variable {s : Store} {ms : List Message}

theorem Faithful.returns_withAttachments (hf : s.Faithful) (m : Message) :
    Returns (s.withAttachments m) :=
  ⟨_, hf.withAttachments m⟩

/-- A page of a search that the engine takes can be read if and only if its messages have plain
years. -/
theorem Takes.returns_find_iff {set : PredicateSet} (h : s.Takes set) (hf : s.Faithful)
    (hms : s.messages = ms.map MessageRow.ofMessage) (limit offset : Nat) :
    Returns (s.find set.clause limit offset) ↔
      ∀ m ∈ pageOf limit offset ((ms.filter (s.selects set)).mergeSort Message.pageOrder),
        m.sentAt.HasPlainYear := by
  rw [h.find_rows hms fun _ _ => rfl]
  constructor
  · rintro ⟨found, h⟩ m hm
    obtain ⟨messages, hmessages, -⟩ := bind_eq_ok h
    refine MessageRow.returns_read_iff.mp ?_
    exact returns_mapM_iff.mp ⟨messages, hmessages⟩ _ (List.mem_map_of_mem hm)
  · intro hyears
    obtain ⟨messages, hmessages⟩ : Returns _ := returns_mapM_iff.mpr fun row hrow => by
      obtain ⟨m, hm, rfl⟩ := List.mem_map.mp hrow
      exact MessageRow.returns_read_iff.mpr (hyears m hm)
    rw [hmessages]
    exact returns_mapM_iff.mpr fun m _ => hf.returns_withAttachments m

/-- Reading by an id fails only at a message with that id. -/
theorem Faithful.returns_getMessage_iff (hf : s.Faithful) {id : String} :
    Returns (s.getMessage id) ↔
      ∀ m, MessageRow.ofMessage m ∈ s.messages → m.id = id → m.sentAt.HasPlainYear := by
  obtain ⟨ms, hms, hnodup, -⟩ := hf.messages
  unfold getMessage
  cases hfound : s.messages.find? fun r => r .id = .text id with
  | none =>
    have hnone := List.find?_eq_none.mp hfound
    refine ⟨fun _ m hm hid => ?_, fun _ => ⟨none, rfl⟩⟩
    exact absurd hid (by simpa [MessageRow.ofMessage] using hnone _ hm)
  | some row =>
    have hrow := List.mem_of_find?_eq_some hfound
    have hid := List.find?_some hfound
    rw [hms] at hrow ⊢
    obtain ⟨x, hx, rfl⟩ := List.mem_map.mp hrow
    have hxid : x.id = id := by simpa [MessageRow.ofMessage] using hid
    constructor
    · rintro ⟨r, h⟩ m hm hmid
      obtain ⟨y, hy, hrows⟩ := List.mem_map.mp hm
      have hyid : y.id = m.id := Cell.text.inj (congrFun hrows .id)
      -- ids are distinct, so the row of the message is the one that was found
      obtain rfl : y = x := by
        have hfind := find?_id hnodup hy
        rw [hyid.trans (hmid.trans hxid.symm), find?_id hnodup hx] at hfind
        exact (Option.some.inj hfind).symm
      obtain ⟨a, ha, -⟩ := bind_eq_ok h
      exact MessageRow.returns_read_iff.mp (hrows ▸ ⟨a, ha⟩)
    · intro hyears
      obtain ⟨a, ha⟩ := MessageRow.returns_read_iff.mpr (hyears x hrow hxid)
      obtain ⟨b, hb⟩ := hf.returns_withAttachments a
      simp only [ha, bind, Except.bind, hb]
      exact ⟨some b, rfl⟩

/-- A search for all messages of a user selects those and no others. -/
theorem selects_forUser (s : Store) (userId : String) (m : Message) :
    s.selects (PredicateSet.forUser userId) m = decide (m.userId = userId) := by
  have htruth : (Predicate.ownedBy userId).condition.truth (MessageRow.ofMessage m)
      (s.attachmentRows (.text m.id)) = .ok (some (decide (m.userId = userId))) :=
    Predicate.truth_ownedBy userId
  have hclause : (PredicateSet.forUser userId).clause.ordered =
      [(Predicate.ownedBy userId).condition] := rfl
  unfold selects Clause.select
  rw [hclause, allTrue, htruth]
  cases decide (m.userId = userId) <;> rfl

/-- What a search selects belongs to its user. -/
theorem owner_of_selects {set : PredicateSet} {m : Message} (h : s.selects set m = true) :
    m.userId = set.userId := by
  unfold selects at h
  cases hselect : set.clause.select (MessageRow.ofMessage m) (s.attachmentRows (.text m.id)) with
  | error e =>
    rw [hselect] at h
    cases h
  | ok b =>
    rw [hselect] at h
    obtain rfl : b = true := h
    exact Cell.text.inj (PredicateSet.owner_of_select hselect)

/-- The searches of a user that the engine takes fail only at a message of the user. -/
theorem Faithful.returns_find_user_iff (hf : s.Faithful) {userId : String} :
    (∀ (query : Option ParsedQuery) (o : SearchOptions),
        s.Refuses (PredicateSet.compile userId query o) ∨ ∀ limit offset,
          Returns (s.find (PredicateSet.compile userId query o).clause limit offset)) ↔
      ∀ m, MessageRow.ofMessage m ∈ s.messages → m.userId = userId → m.sentAt.HasPlainYear := by
  obtain ⟨ms, hms, -, -⟩ := hf.messages
  constructor
  · intro hall m hm huser
    have hfits : (PredicateSet.compile userId none {}).Fits := PredicateSet.fits_forUser userId
    have hfind := (hall none {}).resolve_left (fun h => h.1 hfits) (maxInt64 + 1) 0
    rw [(hf.takes hfits).returns_find_iff hf hms, pageOf_unlimited (Nat.lt_succ_self _)] at hfind
    rw [hms] at hm
    obtain ⟨x, hx, hrow⟩ := List.mem_map.mp hm
    have hxuser : x.userId = userId := (Cell.text.inj (congrFun hrow .userId)).trans huser
    refine hasPlainYear_of_row_eq hrow (hfind x ?_)
    rw [List.mem_mergeSort, List.mem_filter]
    exact ⟨hx, (selects_forUser s userId x).trans (by simpa using hxuser)⟩
  · intro hyears query o
    refine (hf.takes_or_refuses _).symm.imp_right fun htakes limit offset => ?_
    rw [htakes.returns_find_iff hf hms]
    intro m hm
    obtain ⟨hmem, hselects⟩ := List.mem_filter.mp (List.mem_mergeSort.mp (mem_of_mem_pageOf hm))
    refine hyears m ?_ (owner_of_selects hselects)
    rw [hms]
    exact List.mem_map_of_mem hmem

end Store

/-! ## A database -/

/-- **When reading succeeds.** After any calls on a new database, a message is read by its id
exactly if its year is plain, and all searches of a user that the engine takes succeed exactly if
all stored messages of the user have plain years. -/
theorem Database.reads_return_iff (calls : List StoreCall) :
    (∀ id, Returns ((after calls).getMessage id) ↔
      ∀ m, (after calls).Holds m → m.id = id → m.sentAt.HasPlainYear) ∧
    ∀ userId, (∀ (query : Option ParsedQuery) (o : SearchOptions),
        (after calls).Refuses (PredicateSet.compile userId query o) ∨ ∀ limit offset,
          Returns ((after calls).find (PredicateSet.compile userId query o).clause limit offset)) ↔
      ∀ m, (after calls).Holds m → m.userId = userId → m.sentAt.HasPlainYear := by
  obtain ⟨s, hs, hf⟩ := Database.faithful_after calls
  have hholds : ∀ m, (after calls).Holds m ↔ MessageRow.ofMessage m ∈ s.messages := by
    intro m
    simp only [Holds, hs, Option.some.injEq, exists_eq_left']
  simp only [hholds, getMessage_eq hs, find_eq hs, refuses_iff hs]
  exact ⟨fun id => hf.returns_getMessage_iff, fun userId => hf.returns_find_user_iff⟩

/-! ## A message that is stored and cannot be read -/

/-- The account of the sample. -/
def lateAccount : Account := ⟨"acc-1", "user-1", "ann@example.com", none⟩

/-- The message of the sample, sent in the year 10000. -/
def lateMessage : Message :=
  { sampleCalls.message with sentAt := .startOfDay ⟨10000, 1, 1, by decide⟩ }

/-- Both are stored; but then the message is not read by its id, and a search of its owner fails. -/
theorem Database.late_message_stored_not_read :
    Database.opened.insertAll [lateAccount] [lateMessage] =
        .ok (Database.after [.account lateAccount, .message lateMessage]) ∧
      ¬ Returns ((Database.after [.account lateAccount, .message lateMessage]).getMessage "m-1") ∧
      ¬ Returns ((Database.after [.account lateAccount, .message lateMessage]).find
        (PredicateSet.compile "user-1" none {}).clause 20 0) := by
  obtain ⟨s, hs, hf⟩ := Database.faithful_after [.account lateAccount, .message lateMessage]
  have hrows : s.messages = [lateMessage].map MessageRow.ofMessage := by
    cases hs
    rfl
  have hlate : ¬ lateMessage.sentAt.HasPlainYear := by decide
  refine ⟨rfl, ?_, ?_⟩ <;> simp only [getMessage, find, withStore, hs, bind, Except.bind]
  · intro hreturns
    refine hlate (hf.returns_getMessage_iff.mp hreturns lateMessage ?_ rfl)
    rw [hrows]
    exact List.mem_singleton_self _
  · have hselected : [lateMessage].filter (s.selects (PredicateSet.compile "user-1" none {})) =
        [lateMessage] :=
      List.filter_cons_of_pos ((Store.selects_forUser s "user-1" lateMessage).trans (by decide))
    have hfits : (PredicateSet.compile "user-1" none {}).Fits := PredicateSet.fits_forUser "user-1"
    rw [(hf.takes hfits).returns_find_iff hf hrows, hselected, List.mergeSort_singleton]
    exact fun hyears => hlate (hyears lateMessage (List.mem_singleton_self _))

end MailSearch
