import MailSearch.Proofs.Store.Faithful
import MailSearch.Proofs.Text.Digits

/-!
# Opening a database again

The tables are brought to the latest version by a list of migrations. Those run that the recorded
version does not cover, so that they run again over tables that hold something when the record was
changed or lost.

* `readVersion?_eq_some_iff`: the texts that write a version.
* `version_withVersion`: what is read as the version when the record is replaced or removed.
* `states_after`: calls leave the version record alone.
* `Migration.Keeps`: a migration leaves tables that exist as they are. `upgradeFrom_of_keeps`: so
  does a run of such migrations, which records the version that it reaches (`version_upgradeFrom`).
* `reopen_eq`: opening step by step ends as `migrate` says, and changes nothing when it fails.
* `migrate_after`: a database that was only written through calls opens exactly with the versions
  up to the latest, and loses nothing.
-/

namespace MailSearch.Database

open Text

/-! ## Written versions -/

/-- The text writes a version: a number of 32 bits in digits, perhaps after a plus. -/
def WritesVersion (raw : String) (n : Nat) : Prop :=
  ∃ digits, (raw.toList = digits ∨ raw.toList = '+' :: digits) ∧ digits ≠ [] ∧
    (∀ c ∈ digits, c.isDigit = true) ∧ digitsValue digits = n ∧ n < word32

theorem readVersion?_eq_some_iff {raw : String} {n : Nat} :
    readVersion? raw = some n ↔ WritesVersion raw n := by
  unfold readVersion? WritesVersion
  constructor
  · split
    · rename_i cs hraw
      exact fun h => ⟨cs, .inr hraw, readBelow?_eq_some_iff.mp h⟩
    · exact fun h => ⟨raw.toList, .inl rfl, readBelow?_eq_some_iff.mp h⟩
  · rintro ⟨digits, hraw, h⟩
    rcases hraw with hraw | hraw
    · -- A plus is no digit, so that nothing is cut off.
      have hplus : ∀ cs, raw.toList ≠ '+' :: cs := by
        rintro cs hcs
        have := h.2.1 '+' (by rw [← hraw, hcs]; exact List.mem_cons_self)
        exact absurd this (by decide)
      split
      · exact absurd ‹_› (hplus _)
      · rw [hraw]
        exact readBelow?_eq_some_iff.mpr h
    · simp only [hraw]
      exact readBelow?_eq_some_iff.mpr h

example : readVersion? "+001" = some 1 ∧ readVersion? "++1" = none := by decide

theorem writesVersion_decimal {n : Nat} (h : n < word32) :
    WritesVersion (String.ofList (decimal n)) n :=
  ⟨decimal n, .inl String.toList_ofList, decimal_ne_nil n, fun _ => isDigit_of_mem_decimal,
    digitsValue_decimal n, h⟩

/-! ## The version record -/

/-- The first record of the version, if there is one. -/
def versionRow? (states : List StateRow) : Option StateRow :=
  states.find? fun r => r .key = .text versionKey

/-- The version that a record with a text stands for, and that without a record. -/
def recordedVersion : Option String → Except MigrationError Nat
  | none => .ok 0
  | some raw =>
    match readVersion? raw with
    | some n => .ok n
    | none => .error (.notANumber raw)

section Record

variable {db : Database} {row : StateRow} {raw : String}

theorem version_of_row (h : versionRow? db.states = some row) (hraw : row .value = .text raw) :
    db.version = recordedVersion (some raw) := by
  unfold versionRow? at h
  cases hread : readVersion? raw <;> simp only [version, h, hraw, recordedVersion, hread]

theorem version_of_no_row (h : versionRow? db.states = none) :
    db.version = recordedVersion none := by
  unfold versionRow? at h
  simp only [version, h]
  rfl

/-- A change of the records that leaves their keys alone is seen in the version record. -/
theorem versionRow?_map {f : StateRow → StateRow}
    (hf : ∀ r, f r .key = .text versionKey ↔ r .key = .text versionKey) (states : List StateRow) :
    versionRow? (states.map f) = (versionRow? states).map f := by
  have hsame : ((fun r : StateRow => decide (r .key = .text versionKey)) ∘ f) =
      fun r => decide (r .key = .text versionKey) := by
    funext r
    exact decide_eq_decide.mpr (hf r)
  unfold versionRow?
  rw [List.find?_map, hsame]

theorem key_of_versionRow? {states : List StateRow} (h : versionRow? states = some row) :
    row .key = .text versionKey := by
  simpa using List.find?_some h

theorem versionRow?_setVersion (states : List StateRow) (n : Nat) :
    versionRow? (setVersion states n) = some (.of versionKey (String.ofList (decimal n))) := by
  unfold setVersion
  split
  · rename_i hany
    obtain ⟨row, hrow⟩ := Option.isSome_iff_exists.mp (List.find?_isSome.mpr
      (List.any_eq_true.mp hany))
    rw [versionRow?_map, versionRow?, hrow, Option.map_some, if_pos (key_of_versionRow? hrow)]
    intro r
    by_cases hk : r .key = .text versionKey <;> simp [hk, StateRow.of]
  · rename_i hany
    rw [versionRow?, List.find?_append, List.find?_eq_none.mpr]
    · rfl
    · exact fun r hr hkey => hany (List.any_eq_true.mpr ⟨r, hr, hkey⟩)

/-- A version that was recorded is read again. -/
theorem version_setVersion {n : Nat} (h : n < word32) (states : List StateRow)
    (store : Option Store) : (Database.mk (setVersion states n) store).version = .ok n := by
  rw [version_of_row (versionRow?_setVersion states n) rfl, recordedVersion,
    readVersion?_eq_some_iff.mpr (writesVersion_decimal h)]

/-- The database with a text in the place of its version, or with the version record removed. -/
def withVersion (db : Database) : Option String → Database
  | some raw =>
    { db with states := Store.setColumn db.states (· .key = .text versionKey) .value (.text raw) }
  | none => { db with states := db.states.filter (· .key ≠ .text versionKey) }

@[simp] theorem withVersion_store (db : Database) (raw? : Option String) :
    (db.withVersion raw?).store = db.store := by
  cases raw? <;> rfl

/-- What is put in the place of a version is read as the version. -/
theorem version_withVersion (h : versionRow? db.states = some row) (raw? : Option String) :
    (db.withVersion raw?).version = recordedVersion raw? := by
  cases raw? with
  | none =>
    refine version_of_no_row (List.find?_eq_none.mpr fun r hr => ?_)
    simpa using (List.mem_filter.mp hr).2
  | some raw =>
    have hrow : versionRow? (db.withVersion (some raw)).states =
        some fun c => if c = .value then .text raw else row c := by
      unfold withVersion Store.setColumn
      rw [versionRow?_map, h, Option.map_some,
        if_pos (decide_eq_true (key_of_versionRow? h))]
      · intro r
        by_cases hk : r .key = .text versionKey <;> simp [hk]
    exact version_of_row hrow rfl

end Record

/-! ## Calls and the version record -/

theorem states_call (db : Database) (c : StoreCall) : (db.call c).states = db.states := by
  cases c with
  | account a =>
    cases hs : db.store with
    | none => simp only [call, insertAccount, withStore, hs, bind, Except.bind]; rfl
    | some s => simp only [call, insertAccount_eq hs]; rfl
  | message m =>
    cases hs : db.store with
    | none => simp only [call, insertMessage, withStore, hs, bind, Except.bind]; rfl
    | some s =>
      simp only [call, insertMessage_eq hs]
      cases s.insertMessage m <;> rfl

/-- Calls leave the version record as it was written when the database was opened first. -/
theorem states_after (calls : List StoreCall) :
    (after calls).states = setVersion [] latestVersion := by
  suffices h : ∀ db : Database, (calls.foldl call db).states = db.states from h opened
  induction calls with
  | nil => exact fun db => rfl
  | cons c calls ih => exact fun db => (ih (db.call c)).trans (states_call db c)

/-! ## Migrations -/

/-- A migration makes tables from those that exist, or fails. -/
abbrev Migration := Option Store → Except StoreError (Option Store)

/-- Tables that do not exist are made, empty. -/
def Migration.createTables : Migration := fun tables => .ok (some (tables.getD {}))

/-- The migrations, each to the version after the one before. -/
def Migration.all : List Migration := [createTables]

/-- The migration leaves tables that exist as they are. -/
def Migration.Keeps (m : Migration) : Prop := ∀ s, m (some s) = .ok (some s)

theorem Migration.length_all : all.length = latestVersion := rfl

theorem Migration.keeps_of_mem_all : ∀ m ∈ all, m.Keeps := by
  intro m hm s
  rw [List.mem_singleton.mp hm]
  rfl

/-- The database after migrations that start from a version, with the error of the first that
fails. Each one that is done is recorded. -/
def upgradeFrom (db : Database) (n : Nat) : List Migration → Database × Option StoreError
  | [] => (db, none)
  | m :: ms =>
    match m db.store with
    | .error e => (db, some e)
    | .ok tables => upgradeFrom ⟨setVersion db.states (n + 1), tables⟩ (n + 1) ms

/-- The database after it was opened again, with the error when this fails. -/
def reopen (db : Database) : Database × Option StoreError :=
  match db.version with
  | .error e => (db, some (.migration e))
  | .ok n =>
    if Migration.all.length < n then (db, some (.migration (.tooNew n Migration.all.length)))
    else db.upgradeFrom n (Migration.all.drop n)

/-- A run of migrations that keep the tables does not fail, and keeps them. -/
theorem upgradeFrom_of_keeps {db : Database} {s : Store} {n : Nat} {ms : List Migration}
    (hms : ∀ m ∈ ms, m.Keeps) (hs : db.store = some s) :
    ∃ db', db.upgradeFrom n ms = (db', none) ∧ db'.store = some s := by
  induction ms generalizing db n with
  | nil => exact ⟨db, rfl, hs⟩
  | cons m ms ih =>
    unfold upgradeFrom
    rw [hs, hms m List.mem_cons_self s]
    exact ih (fun m hm => hms m (List.mem_cons_of_mem _ hm)) rfl

/-- A run of migrations records the version that it reaches. -/
theorem version_upgradeFrom {db db' : Database} {n : Nat} {ms : List Migration}
    (hn : n + ms.length < word32) (hdb : db.version = .ok n)
    (h : db.upgradeFrom n ms = (db', none)) : db'.version = .ok (n + ms.length) := by
  induction ms generalizing db n with
  | nil =>
    cases h
    exact hdb
  | cons m ms ih =>
    unfold upgradeFrom at h
    rw [List.length_cons] at hn
    split at h
    · cases h
    · rw [List.length_cons, ← Nat.add_assoc, Nat.add_right_comm]
      exact ih (by omega) (version_setVersion (by omega) _ _) h

/-- Opening step by step ends as `migrate` does, and changes nothing when it fails. -/
theorem reopen_eq (db : Database) : db.reopen =
    match db.migrate with
    | .ok db' => (db', none)
    | .error e => (db, some e) := by
  unfold reopen migrate
  rw [Migration.length_all]
  cases hv : db.version with
  | error e => rfl
  | ok n =>
    by_cases hn : latestVersion < n
    · simp only [if_pos hn]
    · simp only [if_neg hn]
      obtain rfl | rfl : n = 0 ∨ n = latestVersion := by
        unfold latestVersion at *
        omega
      · rfl
      · rfl

/-! ## Opening again -/

/-- The version record allows a database to be opened: there is none, or it writes a version up to
the latest. -/
def IsOpenable (raw? : Option String) : Prop :=
  ∀ raw ∈ raw?, ∃ n ≤ latestVersion, WritesVersion raw n

theorem isOpenable_iff {raw? : Option String} :
    IsOpenable raw? ↔ ∃ n ≤ latestVersion, recordedVersion raw? = .ok n := by
  cases raw? with
  | none => simp [IsOpenable, recordedVersion]
  | some raw =>
    simp only [IsOpenable, Option.mem_some_iff, forall_eq', recordedVersion,
      ← readVersion?_eq_some_iff]
    cases readVersion? raw <;> simp

section Migrate

variable {db db' : Database} {s : Store} {n : Nat}

theorem migrate_eq_ok_iff : db.migrate = .ok db' ↔ db.reopen = (db', none) := by
  rw [reopen_eq]
  cases db.migrate <;> simp

/-- Opening fails with the database left as it is. -/
theorem reopen_of_error {e : StoreError} (h : db.migrate = .error e) :
    db.reopen = (db, some e) := by
  rw [reopen_eq, h]

theorem migrate_of_latest (h : db.version = .ok latestVersion) : db.migrate = .ok db := by
  simp only [migrate, h, lt_irrefl, if_false, if_true]

/-- Only a version up to the latest is opened. -/
theorem version_of_migrate (h : db.migrate = .ok db') :
    ∃ n ≤ latestVersion, db.version = .ok n := by
  unfold migrate at h
  split at h
  · cases h
  · rename_i n hv
    split at h
    · cases h
    · exact ⟨n, by omega, hv⟩

/-- Tables of a version up to the latest are brought to the latest, and kept. -/
theorem exists_migrate (hs : db.store = some s) (hn : n ≤ latestVersion)
    (hv : db.version = .ok n) :
    ∃ db', db.migrate = .ok db' ∧ db'.store = some s ∧ db'.version = .ok latestVersion := by
  have hrun : db.reopen = db.upgradeFrom n (Migration.all.drop n) := by
    simp only [reopen, hv, Migration.length_all]
    exact if_neg (Nat.not_lt.mpr hn)
  obtain ⟨db', hdb', hstore⟩ := upgradeFrom_of_keeps (n := n)
    (fun m hm => Migration.keeps_of_mem_all m (List.mem_of_mem_drop hm)) hs
  have hlength : n + (Migration.all.drop n).length = latestVersion := by
    rw [List.length_drop, Migration.length_all]
    omega
  refine ⟨db', migrate_eq_ok_iff.mpr (hrun.trans hdb'), hstore, ?_⟩
  rw [version_upgradeFrom (by rw [hlength]; decide) hv hdb', hlength]

end Migrate

/-- **Opening again is safe.** A database that was only written through calls, with any text in the
place of its version or with none, opens if and only if the version is absent or a written number up
to the latest. Then its tables are as they were, the latest version is recorded, and opening once
more changes nothing. Otherwise it is left as it is. -/
theorem migrate_after (calls : List StoreCall) (raw? : Option String) :
    ∃ s, (after calls).store = some s ∧
      ((∃ db', ((after calls).withVersion raw?).migrate = .ok db') ↔ IsOpenable raw?) ∧
      (∀ db', ((after calls).withVersion raw?).migrate = .ok db' →
        ((after calls).withVersion raw?).reopen = (db', none) ∧ db'.store = some s ∧
          db'.version = .ok latestVersion ∧ db'.migrate = .ok db') ∧
      (∀ e, ((after calls).withVersion raw?).migrate = .error e →
        ((after calls).withVersion raw?).reopen = ((after calls).withVersion raw?, some e) ∧
          ((after calls).withVersion raw?).store = some s) := by
  obtain ⟨s, hs, -⟩ := after_induction (P := fun _ => True) trivial
    (fun _ _ => trivial) (fun _ _ => trivial) calls
  have hstore : ((after calls).withVersion raw?).store = some s := by rw [withVersion_store, hs]
  have hversion : ((after calls).withVersion raw?).version = recordedVersion raw? :=
    version_withVersion (by rw [states_after, versionRow?_setVersion]) raw?
  refine ⟨s, hs, ⟨?_, ?_⟩, ?_, ?_⟩
  · rintro ⟨db', h⟩
    rw [isOpenable_iff, ← hversion]
    exact version_of_migrate h
  · intro h
    rw [isOpenable_iff, ← hversion] at h
    obtain ⟨n, hn, hv⟩ := h
    obtain ⟨db', hdb', -⟩ := exists_migrate hstore hn hv
    exact ⟨db', hdb'⟩
  · intro db' h
    obtain ⟨n, hn, hv⟩ := version_of_migrate h
    obtain ⟨db'', h', hstore', hlatest⟩ := exists_migrate hstore hn hv
    cases h.symm.trans h'
    exact ⟨migrate_eq_ok_iff.mp h, hstore', hlatest, migrate_of_latest hlatest⟩
  · exact fun e h => ⟨reopen_of_error h, hstore⟩

end MailSearch.Database
