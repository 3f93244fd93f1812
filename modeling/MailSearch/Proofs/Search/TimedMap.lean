import MailSearch.Proofs.Search.CachedPage

/-!
# The cache in memory as a timed map

A cache in memory drops entries when it is read and when it is written. Whoever calls it sees none
of this: it is a map in which a text lasts for the time that it was put there for.

* `LastSet events key value ttl age`: the last time that something was put under the key, it was
  this, and so long ago. `lastSet_concat`: what one more event does to this.
* `TimedCache.Refines`: the entries are what was last put under their keys, and none is missing
  whose time has not come. `TimedCache.Refines.step`: every event keeps it so.
* `TimedCache.is_timed_map`: what a cache finds and counts after any events, and that nothing is
  dropped before its time.
-/

namespace MailSearch

/-! ## Entries -/

namespace MemoryCache

variable {c : MemoryCache} {now : Nat} {key : String} {e : CacheEntry}

/-- A live entry is found under its key. -/
theorem HasOwnKeys.get_eq (h : c.HasOwnKeys) (he : e ∈ c.entries) (hlive : now < e.expiresAt) :
    c.get now e.key = (some e.value, c) := by
  have hfind : c.entries.find? (·.key = e.key) = some e := by
    cases hfound : c.entries.find? (·.key = e.key) with
    | none => exact absurd (List.find?_eq_none.mp hfound e he) (by simp)
    | some x =>
      have hkey : x.key = e.key := by simpa using List.find?_some hfound
      rw [h.eq_of_key_eq (List.mem_of_find?_eq_some hfound) he hkey]
  simp only [get, hfind, isLive, decide_eq_true_eq, if_pos hlive]

/-- What is found under a key is a live entry. -/
theorem HasOwnKeys.get_eq_some_iff (h : c.HasOwnKeys) {value : String} :
    (c.get now key).1 = some value ↔
      ∃ e ∈ c.entries, now < e.expiresAt ∧ e.key = key ∧ e.value = value := by
  constructor
  · intro hget
    rcases c.get_cases now key with ⟨e, he, hkey, hlive, hfound⟩ | hmissed
    · rw [hfound] at hget
      exact ⟨e, he, hlive, hkey, Option.some.inj hget⟩
    · rw [hmissed] at hget
      cases hget
  · rintro ⟨e, he, hlive, rfl, rfl⟩
    rw [h.get_eq he hlive]

/-- Reading leaves only entries that were there. -/
theorem mem_of_mem_get (he : e ∈ (c.get now key).2.entries) : e ∈ c.entries := by
  rcases c.get_cases now key with ⟨x, -, -, -, hfound⟩ | hmissed
  · rwa [hfound] at he
  · rw [hmissed] at he
    exact (mem_erase.mp he).1

theorem HasOwnKeys.get (h : c.HasOwnKeys) (now : Nat) (key : String) :
    (c.get now key).2.HasOwnKeys := by
  rcases c.get_cases now key with ⟨x, -, -, -, hfound⟩ | hmissed
  · rwa [hfound]
  · rw [hmissed]
    exact h.sublist List.filter_sublist

/-- Reading drops no live entry. -/
theorem HasOwnKeys.mem_get (h : c.HasOwnKeys) (he : e ∈ c.entries) (hlive : now < e.expiresAt) :
    e ∈ (c.get now key).2.entries := by
  rcases c.get_cases now key with ⟨x, -, -, -, hfound⟩ | hmissed
  · rwa [hfound]
  · rw [hmissed, mem_erase]
    refine ⟨he, ?_⟩
    rintro rfl
    rw [h.get_eq he hlive] at hmissed
    cases hmissed

end MemoryCache

/-! ## Events -/

/-- A call of a cache in memory, or some time that goes by. -/
inductive CacheEvent where
  | set (key value : String) (ttl : Nat)
  | get (key : String)
  | size
  | advance (millis : Nat)

namespace CacheEvent

/-- The event puts something under the key, if only for no time at all. -/
def Sets (key : String) : CacheEvent → Prop
  | set k _ _ => k = key
  | _ => False

/-- The time that goes by. -/
def millis : CacheEvent → Nat
  | advance n => n
  | _ => 0

end CacheEvent

/-- The time that goes by in some events. -/
def elapsed (events : List CacheEvent) : Nat := (events.map CacheEvent.millis).sum

/-- The last time that something was put under the key, it was this value for the time `ttl`, and
that is `age` ago. -/
def LastSet (events : List CacheEvent) (key value : String) (ttl age : Nat) : Prop :=
  ∃ before later, events = before ++ .set key value ttl :: later ∧
    (∀ e ∈ later, ¬ e.Sets key) ∧ age = elapsed later

/-- The map holds the value under the key: it was put there last, for a time that has not gone by
since. -/
def Lasts (events : List CacheEvent) (key value : String) : Prop :=
  ∃ ttl age, LastSet events key value ttl age ∧ 0 < ttl ∧ age < ttl

section LastSet

variable {events : List CacheEvent} {event : CacheEvent} {key value : String} {ttl age : Nat}

theorem not_lastSet_nil : ¬ LastSet [] key value ttl age := by
  rintro ⟨before, later, h, -⟩
  simp at h

/-- After one more event, what was put last is what the event puts, or was before and is older. -/
theorem lastSet_concat :
    LastSet (events ++ [event]) key value ttl age ↔
      (event = .set key value ttl ∧ age = 0) ∨
        (¬ event.Sets key ∧ ∃ earlier, LastSet events key value ttl earlier ∧
          age = earlier + event.millis) := by
  constructor
  · rintro ⟨before, later, h, hlater, rfl⟩
    rcases later.eq_nil_or_concat' with rfl | ⟨later, last, rfl⟩
    · exact .inl ⟨List.singleton_inj.mp (List.append_inj' h rfl).2, rfl⟩
    · rw [← List.cons_append, ← List.append_assoc] at h
      obtain ⟨rfl, hlast⟩ := List.append_inj' h rfl
      obtain rfl := List.singleton_inj.mp hlast
      refine .inr ⟨hlater event (by simp), elapsed later, ⟨before, later, rfl, ?_, rfl⟩, ?_⟩
      · exact fun e he => hlater e (List.mem_append_left _ he)
      · simp [elapsed]
  · rintro (⟨rfl, rfl⟩ | ⟨hevent, _, ⟨before, later, rfl, hlater, rfl⟩, rfl⟩)
    · exact ⟨events, [], rfl, by simp, rfl⟩
    · refine ⟨before, later ++ [event], by simp, ?_, by simp [elapsed]⟩
      intro e he
      rcases List.mem_append.mp he with he | he
      · exact hlater e he
      · rwa [List.mem_singleton.mp he]

/-- Only one thing was put under a key last. -/
theorem LastSet.unique {value' : String} {ttl' age' : Nat} (h : LastSet events key value ttl age)
    (h' : LastSet events key value' ttl' age') : value = value' ∧ ttl = ttl' ∧ age = age' := by
  induction events using List.reverseRecOn generalizing age age' with
  | nil => exact absurd h not_lastSet_nil
  | append_singleton events event ih =>
    rcases lastSet_concat.mp h with ⟨rfl, rfl⟩ | ⟨hevent, earlier, hlast, rfl⟩
    · rcases lastSet_concat.mp h' with ⟨hsame, rfl⟩ | ⟨hother, -⟩
      · cases hsame
        exact ⟨rfl, rfl, rfl⟩
      · exact absurd rfl hother
    · rcases lastSet_concat.mp h' with ⟨rfl, -⟩ | ⟨-, earlier', hlast', rfl⟩
      · exact absurd rfl hevent
      · obtain ⟨hvalue, httl, rfl⟩ := ih hlast hlast'
        exact ⟨hvalue, httl, rfl⟩

end LastSet

/-! ## Runs -/

/-- A cache in memory, and the time. -/
structure TimedCache where
  cache : MemoryCache := {}
  now : Nat

namespace TimedCache

/-- The cache after an event. -/
def step (s : TimedCache) : CacheEvent → TimedCache
  | .set key value ttl => { s with cache := s.cache.set s.now key value ttl }
  | .get key => { s with cache := (s.cache.get s.now key).2 }
  | .size => s
  | .advance millis => { s with now := s.now + millis }

/-- A new cache at a time, after some events. -/
def after (start : Nat) (events : List CacheEvent) : TimedCache :=
  events.foldl step { now := start }

/-- Whatever is put into the cache, the time that it is put there for ends at a moment that a clock
can say. -/
def EndsInTime (start : Nat) (events : List CacheEvent) : Prop :=
  ∀ before key value ttl later, events = before ++ .set key value ttl :: later → ttl ≠ 0 →
    start + elapsed before + ttl < MemoryCache.endOfTime

/-- The cache holds what was put there. -/
structure Refines (s : TimedCache) (events : List CacheEvent) : Prop where
  keys : s.cache.HasOwnKeys
  /-- An entry is what was last put under its key, -/
  lastSet : ∀ e ∈ s.cache.entries, ∃ ttl age, LastSet events e.key e.value ttl age ∧
    e.expiresAt + age = s.now + ttl
  /-- and what was last put under a key is there before its time has come. -/
  kept : ∀ key value ttl age, LastSet events key value ttl age → age < ttl →
    ∃ e ∈ s.cache.entries, e.key = key

variable {s : TimedCache} {events : List CacheEvent}

/-- What was last put under a key is there as an entry that is live. -/
theorem Refines.exists_entry (h : s.Refines events) {key value : String} {ttl age : Nat}
    (hlast : LastSet events key value ttl age) (hage : age < ttl) :
    ∃ e ∈ s.cache.entries, s.now < e.expiresAt ∧ e.key = key ∧ e.value = value := by
  obtain ⟨e, he, rfl⟩ := h.kept key value ttl age hlast hage
  obtain ⟨ttl', age', hentry, hexpires⟩ := h.lastSet e he
  obtain ⟨hvalue, rfl, rfl⟩ := hentry.unique hlast
  exact ⟨e, he, by omega, rfl, hvalue⟩

/-- The live entries are what the map holds. -/
theorem Refines.lasts_iff (h : s.Refines events) {key value : String} :
    Lasts events key value ↔
      ∃ e ∈ s.cache.entries, s.now < e.expiresAt ∧ e.key = key ∧ e.value = value := by
  constructor
  · rintro ⟨ttl, age, hlast, -, hage⟩
    exact h.exists_entry hlast hage
  · rintro ⟨e, he, hlive, rfl, rfl⟩
    obtain ⟨ttl, age, hlast, hexpires⟩ := h.lastSet e he
    exact ⟨ttl, age, hlast, by omega, by omega⟩

/-- As many entries are counted as there are keys under which the map holds something. -/
theorem Refines.exists_keys (h : s.Refines events) :
    ∃ keys : List String, keys.Nodup ∧ (∀ key, key ∈ keys ↔ ∃ value, Lasts events key value) ∧
      s.cache.size s.now = keys.length := by
  have hkeys : MemoryCache.HasOwnKeys ⟨s.cache.entries.filter (MemoryCache.isLive s.now)⟩ :=
    h.keys.sublist List.filter_sublist
  refine ⟨(s.cache.entries.filter (MemoryCache.isLive s.now)).map CacheEntry.key, hkeys, ?_, ?_⟩
  · intro key
    simp only [h.lasts_iff, List.mem_map, List.mem_filter, MemoryCache.isLive, decide_eq_true_eq]
    constructor
    · rintro ⟨e, ⟨he, hlive⟩, rfl⟩
      exact ⟨e.value, e, he, hlive, rfl, rfl⟩
    · rintro ⟨_, e, he, hlive, rfl, -⟩
      exact ⟨e, ⟨he, hlive⟩, rfl⟩
  · rw [MemoryCache.size, List.countP_eq_length_filter, List.length_map]

theorem refines_start (start : Nat) : Refines { now := start } [] where
  keys := List.nodup_nil
  lastSet := fun _ he => nomatch he
  kept := fun _ _ _ _ hlast => absurd hlast not_lastSet_nil

/-- Writing replaces what was put under the key. -/
theorem Refines.set (h : s.Refines events) (key value : String) {ttl : Nat}
    (hend : ttl ≠ 0 → s.now + ttl < MemoryCache.endOfTime) :
    (s.step (.set key value ttl)).Refines (events ++ [.set key value ttl]) where
  keys := h.keys.set s.now key value ttl
  lastSet := by
    intro e he
    rcases (MemoryCache.mem_set_iff hend).mp he with ⟨he, -, hkey⟩ | ⟨-, rfl⟩
    · obtain ⟨ttl', age, hlast, hexpires⟩ := h.lastSet e he
      exact ⟨ttl', age, lastSet_concat.mpr (.inr ⟨Ne.symm hkey, age, hlast, rfl⟩), hexpires⟩
    · exact ⟨ttl, 0, lastSet_concat.mpr (.inl ⟨rfl, rfl⟩), rfl⟩
  kept := by
    intro k v t age hlast hage
    rcases lastSet_concat.mp hlast with ⟨heq, rfl⟩ | ⟨hkey, earlier, hearlier, rfl⟩
    · cases heq
      exact ⟨_, (MemoryCache.mem_set_iff hend).mpr (.inr ⟨hage, rfl⟩), rfl⟩
    · obtain ⟨e, he, hlive, rfl, -⟩ := h.exists_entry hearlier hage
      exact ⟨e, (MemoryCache.mem_set_iff hend).mpr (.inl ⟨he, hlive, Ne.symm hkey⟩), rfl⟩

/-- Any other event puts nothing, and it keeps the map if it adds no entry and drops no live one. -/
theorem Refines.of_not_sets (h : s.Refines events) {event : CacheEvent}
    (hsets : ∀ key, ¬ event.Sets key) (hnow : (s.step event).now = s.now + event.millis)
    (hkeys : (s.step event).cache.HasOwnKeys)
    (hold : ∀ e ∈ (s.step event).cache.entries, e ∈ s.cache.entries)
    (hlive : ∀ e ∈ s.cache.entries, s.now < e.expiresAt → e ∈ (s.step event).cache.entries) :
    (s.step event).Refines (events ++ [event]) where
  keys := hkeys
  lastSet := by
    intro e he
    obtain ⟨ttl, age, hlast, hexpires⟩ := h.lastSet e (hold e he)
    refine ⟨ttl, age + event.millis, ?_, by omega⟩
    exact lastSet_concat.mpr (.inr ⟨hsets _, age, hlast, rfl⟩)
  kept := by
    intro key value ttl age hlast hage
    rcases lastSet_concat.mp hlast with ⟨rfl, -⟩ | ⟨-, earlier, hearlier, hsum⟩
    · exact absurd rfl (hsets key)
    · obtain ⟨e, he, hexpires, hkey, -⟩ := h.exists_entry hearlier (by omega)
      exact ⟨e, hlive e he hexpires, hkey⟩

/-- Every event keeps the cache the map that it stands for. -/
theorem Refines.step (h : s.Refines events) (event : CacheEvent)
    (hend : ∀ key value ttl, event = .set key value ttl → ttl ≠ 0 →
      s.now + ttl < MemoryCache.endOfTime) :
    (s.step event).Refines (events ++ [event]) := by
  cases event with
  | set key value ttl => exact h.set key value (hend key value ttl rfl)
  | get key =>
    exact h.of_not_sets (fun _ => id) rfl (h.keys.get s.now key)
      (fun _ he => MemoryCache.mem_of_mem_get he) fun _ he hlive => h.keys.mem_get he hlive
  | size => exact h.of_not_sets (fun _ => id) rfl h.keys (fun _ he => he) fun _ he _ => he
  | advance millis =>
    exact h.of_not_sets (fun _ => id) rfl h.keys (fun _ he => he) fun _ he _ => he

theorem after_concat (start : Nat) (events : List CacheEvent) (event : CacheEvent) :
    after start (events ++ [event]) = (after start events).step event := by
  rw [after, List.foldl_append]
  rfl

/-- The clock shows the time that has gone by. -/
theorem now_after (start : Nat) (events : List CacheEvent) :
    (after start events).now = start + elapsed events := by
  induction events using List.reverseRecOn with
  | nil => rfl
  | append_singleton events event ih =>
    have hstep : ((after start events).step event).now =
        (after start events).now + event.millis := by
      cases event <;> rfl
    have helapsed : elapsed (events ++ [event]) = elapsed events + event.millis := by
      simp [elapsed]
    rw [after_concat, hstep, ih, helapsed, Nat.add_assoc]

theorem refines_after {start : Nat} {events : List CacheEvent} (hends : EndsInTime start events) :
    (after start events).Refines events := by
  induction events using List.reverseRecOn with
  | nil => exact refines_start start
  | append_singleton events event ih =>
    have hbefore : EndsInTime start events := by
      intro before key value ttl later hevents
      exact hends before key value ttl (later ++ [event]) (by simp [hevents])
    rw [after_concat]
    refine (ih hbefore).step event fun key value ttl hevent => ?_
    rw [now_after]
    exact hends events key value ttl [] (by rw [hevent])

theorem endsInTime_nil (start : Nat) : EndsInTime start [] := by
  intro before key value ttl later h
  simp at h

theorem EndsInTime.cons {start : Nat} {event : CacheEvent}
    (h : EndsInTime (start + event.millis) events)
    (hend : ∀ key value ttl, event = .set key value ttl → start + ttl < MemoryCache.endOfTime) :
    EndsInTime start (event :: events) := by
  intro before key value ttl later hevents httl
  cases before with
  | nil =>
    obtain ⟨hevent, -⟩ := List.cons.inj hevents
    exact hend key value ttl hevent
  | cons first before =>
    obtain ⟨rfl, hrest⟩ := List.cons.inj hevents
    have helapsed : elapsed (event :: before) = event.millis + elapsed before := by
      simp [elapsed]
    rw [helapsed, ← Nat.add_assoc]
    exact h before key value ttl later hrest httl

/-- **The cache is a timed map.** After any events that a clock has moments for, a text is found
under a key exactly if it was put there last, for a time that has not gone by since; as many entries
are counted as there are such keys; and neither reading nor writing under another key drops an entry
before its time, not even if the write breaks off. -/
theorem is_timed_map (start : Nat) (events : List CacheEvent) (hends : EndsInTime start events) :
    (∀ key value, ((after start events).cache.get (after start events).now key).1 = some value ↔
      Lasts events key value) ∧
    (∃ keys : List String, keys.Nodup ∧ (∀ key, key ∈ keys ↔ ∃ value, Lasts events key value) ∧
      (after start events).cache.size (after start events).now = keys.length) ∧
    ∀ e ∈ (after start events).cache.entries, (after start events).now < e.expiresAt →
      (∀ key, e ∈ ((after start events).step (.get key)).cache.entries) ∧
      ∀ key value ttl, key ≠ e.key →
        e ∈ ((after start events).step (.set key value ttl)).cache.entries := by
  have h := refines_after hends
  generalize after start events = s at h
  refine ⟨fun key value => h.keys.get_eq_some_iff.trans h.lasts_iff.symm, h.exists_keys, ?_⟩
  intro e he hlive
  exact ⟨fun key => h.keys.mem_get he hlive, fun key value ttl hkey =>
    MemoryCache.mem_set_of_ne he hlive (Ne.symm hkey)⟩

/-- A text that replaces another is found as long as it was put there for, and not beyond the time
of the other. -/
theorem is_timed_map_overwritten :
    EndsInTime 5 [.set "k" "v" 20, .advance 19, .set "k" "w" 3, .advance 2] ∧
      ((after 5 [.set "k" "v" 20, .advance 19, .set "k" "w" 3, .advance 2]).cache.get 26 "k").1 =
        some "w" := by
  have hends : EndsInTime 5 [.set "k" "v" 20, .advance 19, .set "k" "w" 3, .advance 2] := by
    refine .cons (.cons (.cons (.cons (endsInTime_nil _) ?_) ?_) ?_) ?_
    all_goals
      intro key value ttl hevent
      cases hevent
    all_goals decide +kernel
  obtain ⟨hfound, -⟩ := is_timed_map 5 _ hends
  refine ⟨hends, (hfound "k" "w").mpr ⟨3, 2, ⟨[.set "k" "v" 20, .advance 19], [.advance 2], rfl, ?_,
    rfl⟩, by decide, by decide⟩⟩
  exact List.forall_mem_singleton.mpr id

/-- A text is found until its time has come, and then no longer. -/
example : ((after 5 [.set "k" "v" 20, .advance 19]).cache.get 24 "k").1 = some "v" ∧
    ((after 5 [.set "k" "v" 20, .advance 20]).cache.get 25 "k").1 = none := by decide

end TimedCache

end MailSearch
