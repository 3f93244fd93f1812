import MailSearch.Proofs.Search.PastEnd
import MailSearch.Proofs.Search.Readable

/-!
# What a search shows

A search that the engine takes shows the messages that it selects, each once. Its pages are what is
read by the ids of these messages, and its count is their number. Such a page fails where the first
message on it cannot be read.

* `Database.Selects`: the stored messages that a search selects.
* `Database.Shows`: the list of their ids, which tells what pages and counts come to.
  `Store.Takes.shows`: there is one for every search that the engine takes.
* `SearchService.GivesPage`: what comes of a search that is not served from the cache.
-/

namespace MailSearch

open Calendar

/-! ## Pages and messages read by their ids -/

namespace Store

variable {s : Store} {ms : List Message} {set : PredicateSet}

/-- Reading a message by its id reads its row. -/
theorem Faithful.getMessage_eq_map (hf : s.Faithful)
    (hms : s.messages = ms.map MessageRow.ofMessage) (hnodup : (ms.map (·.id)).Nodup)
    {m : Message} (hm : m ∈ ms) :
    s.getMessage m.id = (MessageRow.ofMessage m).read.map fun x => some (s.full x) := by
  unfold getMessage
  rw [find?_row hms, find?_id hnodup hm]
  simp only [Option.map_some, bind, Except.bind]
  cases (MessageRow.ofMessage m).read with
  | error e => rfl
  | ok x =>
    simp only [hf.withAttachments]
    rfl

/-- The ids of the messages that a search selects, in the order of a page. -/
def shownIds (s : Store) (set : PredicateSet) (ms : List Message) : List String :=
  ((ms.filter (s.selects set)).mergeSort Message.pageOrder).map (·.id)

theorem shownIds_perm (s : Store) (set : PredicateSet) (ms : List Message) :
    (s.shownIds set ms).Perm ((ms.filter (s.selects set)).map (·.id)) :=
  (List.mergeSort_perm _ _).map _

/-- A page shows the messages that are read by the ids on it. It fails where the first of them
does. -/
theorem Takes.find_eq_mapM (h : s.Takes set) (hf : s.Faithful)
    (hms : s.messages = ms.map MessageRow.ofMessage) (hnodup : (ms.map (·.id)).Nodup)
    (limit offset : Nat) :
    (s.find set.clause limit offset).map (List.map some) =
      (pageOf limit offset (s.shownIds set ms)).mapM s.getMessage := by
  have hfull (xs : List Message) : xs.mapM s.withAttachments = .ok (xs.map s.full) :=
    Outcome.mapM_eq_ok fun m _ => hf.withAttachments m
  rw [h.find_rows hms fun _ _ => rfl, shownIds, pageOf_map]
  simp only [List.mapM_map, Function.comp_def]
  have hmem : ∀ m ∈ pageOf limit offset ((ms.filter (s.selects set)).mergeSort Message.pageOrder),
      m ∈ ms :=
    fun m hm => (List.mem_filter.mp (List.mem_mergeSort.mp (mem_of_mem_pageOf hm))).1
  generalize pageOf limit offset ((ms.filter (s.selects set)).mergeSort Message.pageOrder) = page
    at hmem
  have hread : (page.mapM fun m => s.getMessage m.id) =
      (page.mapM fun m => (MessageRow.ofMessage m).read).map
        (List.map fun x => some (s.full x)) := by
    rw [← Outcome.mapM_map_result]
    exact Outcome.mapM_congr fun m hm => hf.getMessage_eq_map hms hnodup (hmem m hm)
  rw [hread]
  cases page.mapM fun m => (MessageRow.ofMessage m).read with
  | error e => rfl
  | ok xs =>
    simp only [bind, Except.bind, hfull, Except.map, List.map_map, Function.comp_def]

theorem length_shownIds (hms : s.messages = ms.map MessageRow.ofMessage) :
    (s.shownIds set ms).length = s.selectedCount set := by
  rw [(s.shownIds_perm set ms).length_eq, List.length_map, selectedCount,
    List.countP_eq_length_filter, filter_rows hms fun _ _ => rfl, List.length_map]

end Store

/-! ## Databases -/

namespace Database

/-- The message is stored, and the search selects it. -/
def Selects (db : Database) (set : PredicateSet) (m : Message) : Prop :=
  ∃ s, db.store = some s ∧ MessageRow.ofMessage m ∈ s.messages ∧ s.selects set m = true

/-- The ids are those of the messages that a search selects. They tell what its pages show and what
it counts. -/
structure Shows (db : Database) (set : PredicateSet) (ids : List String) : Prop where
  nodup : ids.Nodup
  mem_iff : ∀ id, id ∈ ids ↔ ∃ m, db.Selects set m ∧ m.id = id
  length : ids.length = db.selectedCount set
  count : db.count set.clause = .ok ids.length
  find : ∀ limit offset, (db.find set.clause limit offset).map (List.map some) =
    (pageOf limit offset ids).mapM db.getMessage

end Database

/-- Every search that the engine takes has such a list of ids. -/
theorem Store.Takes.shows {s : Store} {set : PredicateSet} (h : s.Takes set) {db : Database}
    (hs : db.store = some s) (hf : s.Faithful) {ms : List Message}
    (hms : s.messages = ms.map MessageRow.ofMessage) (hnodup : (ms.map (·.id)).Nodup) :
    db.Shows set (s.shownIds set ms) where
  nodup := (s.shownIds_perm set ms).nodup_iff.mpr (hnodup.sublist (List.filter_sublist.map _))
  mem_iff id := by
    have hget : ∀ m, db.Selects set m ↔
        MessageRow.ofMessage m ∈ ms.map MessageRow.ofMessage ∧ s.selects set m = true := by
      simp only [Database.Selects, hs, Option.some.injEq, exists_eq_left', hms, implies_true]
    simp only [(s.shownIds_perm set ms).mem_iff, List.mem_map, List.mem_filter, hget]
    constructor
    · rintro ⟨m, ⟨hm, hselects⟩, hid⟩
      exact ⟨m, ⟨⟨m, hm, rfl⟩, hselects⟩, hid⟩
    · rintro ⟨m, ⟨⟨x, hx, hrow⟩, hselects⟩, hid⟩
      -- the row of the message tells its id, and what the search decides
      have hxid : x.id = m.id := Cell.text.inj (congrFun hrow .id)
      exact ⟨x, ⟨hx, (s.selects_congr set hrow).trans hselects⟩, hxid.trans hid⟩
  length := by rw [length_shownIds hms, Database.selectedCount_eq hs]
  count := by rw [Database.count_eq hs, h.count, length_shownIds hms]
  find limit offset := by
    rw [Database.find_eq hs, h.find_eq_mapM hf hms hnodup, funext (Database.getMessage_eq hs)]

/-! ## Searches -/

namespace SearchService

variable {σ : Type} {s : SearchService σ} {clock : Timestamp} {userId : String} {o : SearchOptions}

/-- A search that is not served from the cache gives the page of these ids and counts them; or it
fails as reading the messages does. -/
def GivesPage (s : SearchService σ) (db : Database) (clock : Timestamp) (userId : String)
    (o : SearchOptions) (ids : List String) : Prop :=
  ∀ (now : Moment) (state : σ), now.clock = clock →
    (s.readCache now.millis (s.key? userId o) state).1 = none →
      ((s.run now userId o state).1.map fun r => (r.page.messages.map some, r.page.total)) =
        (((pageOf (s.limit o) o.offset ids).mapM db.getMessage).map (·, ids.length)).mapError
          SearchError.store

/-- So does every service over a database that shows these ids. -/
theorem givesPage_of_shows {db : Database} (hsource : s.source = db.source) {ids : List String}
    (h : db.Shows (o.predicates clock userId) ids) : s.GivesPage db clock userId o ids := by
  rintro now state rfl hread
  have hfetch : s.fetch userId (o.queryText?.map (ParsedQuery.parse now.clock)) o =
      (db.find (o.predicates now.clock userId).clause (s.limit o) o.offset).bind fun messages =>
        (db.count (o.predicates now.clock userId).clause).map (Page.mk messages) := by
    unfold fetch
    rw [hsource]
    rfl
  rw [run_missed hread, hfetch, h.count, ← h.find]
  cases db.find (o.predicates now.clock userId).clause (s.limit o) o.offset <;> rfl

end SearchService

end MailSearch
