/-!
# Caches

A cache keeps texts under keys for a while. Time is counted in milliseconds.

* `MemoryCache` is a cache in memory. An entry is live until its time has come, and only live
  entries are found or counted.
* `CacheBackend` is what a search needs of a cache, whatever its state: a memory cache, none at all,
  or one that is out of reach.
* `CacheBackend.traced` keeps a record of the calls that are made of a cache.
-/

namespace MailSearch

/-- A text in a cache, and the time from which it counts no more. -/
structure CacheEntry where
  key : String
  value : String
  expiresAt : Nat
  deriving DecidableEq, Repr

/-- A cache in memory. -/
structure MemoryCache where
  entries : List CacheEntry := []
  deriving DecidableEq, Repr

namespace MemoryCache

/-- Whether an entry counts at a time. -/
def isLive (now : Nat) (entry : CacheEntry) : Bool := now < entry.expiresAt

/-- The number of live entries. -/
def size (c : MemoryCache) (now : Nat) : Nat := c.entries.countP (isLive now)

/-- The cache without a key. -/
def erase (c : MemoryCache) (key : String) : MemoryCache :=
  ⟨c.entries.filter (·.key ≠ key)⟩

/-- The live text under a key. An entry found to be past its time is dropped. -/
def get (c : MemoryCache) (now : Nat) (key : String) : Option String × MemoryCache :=
  match c.entries.find? (·.key = key) with
  | some entry => if isLive now entry then (some entry.value, c) else (none, c.erase key)
  | none => (none, c)

/-- The first millisecond that no clock can say: a clock counts seconds in a signed number of 64
bits. -/
def endOfTime : Nat := 0x8000000000000000 * 1000

/-- Puts a text under a key for a time; for no time at all, the key is dropped. Entries past their
time are dropped too. Where the time would end at no moment that a clock can say, the call breaks
off before it puts anything. -/
def set (c : MemoryCache) (now : Nat) (key value : String) (ttl : Nat) : MemoryCache :=
  let live : MemoryCache := ⟨c.entries.filter (isLive now)⟩
  if ttl = 0 then live.erase key
  else if now + ttl < endOfTime then ⟨(live.erase key).entries ++ [⟨key, value, now + ttl⟩]⟩
  else live

end MemoryCache

/-- Why a cache does not answer. -/
inductive CacheError where
  | unavailable (reason : String)
  deriving DecidableEq, Repr

/-- The reason in words. -/
def CacheError.message : CacheError → String
  | unavailable reason => "cache backend unavailable: " ++ reason

/-- A cache with states in `σ`. -/
structure CacheBackend (σ : Type) where
  get : σ → (now : Nat) → (key : String) → Except CacheError (Option String) × σ
  set : σ → (now : Nat) → (key value : String) → (ttl : Nat) → Except CacheError Unit × σ

/-- A call of a cache, with what came of it. -/
inductive CacheCall where
  | get (key : String) (result : Except CacheError (Option String))
  | set (key : String) (value : String) (ttl : Nat)

namespace CacheBackend

/-- The cache in memory. -/
def memory : CacheBackend MemoryCache where
  get c now key := let (found, c) := c.get now key; (.ok found, c)
  set c now key value ttl := (.ok (), c.set now key value ttl)

/-- No cache: nothing is ever found. -/
def disabled {σ : Type} : CacheBackend σ where
  get c _ _ := (.ok none, c)
  set c _ _ _ _ := (.ok (), c)

/-- A cache that is out of reach: every call fails. -/
def unavailable {σ : Type} (reason : String) : CacheBackend σ where
  get c _ _ := (.error (.unavailable reason), c)
  set c _ _ _ _ := (.error (.unavailable reason), c)

/-- The cache together with a record of its calls. -/
def traced {σ : Type} (b : CacheBackend σ) : CacheBackend (σ × List CacheCall) where
  get c now key :=
    let (result, state) := b.get c.1 now key
    (result, state, c.2 ++ [.get key result])
  set c now key value ttl :=
    let (result, state) := b.set c.1 now key value ttl
    (result, state, c.2 ++ [.set key value ttl])

end CacheBackend

end MailSearch
