/-!
# A cache of texts that expire

Entries are written with a lifetime and are visible strictly before their expiry.
Time is counted in nanoseconds and passed in by the caller; nothing expires by
itself, so the cache holds dead entries until they are overwritten or purged.
-/

namespace FleetDashboard

/-- One held entry.  It is visible strictly before `expiry`. -/
structure CacheEntry where
  key : String
  value : String
  expiry : Nat
  deriving DecidableEq, Repr

namespace CacheEntry

/-- The entry is still visible. -/
def isLive
    (now : Nat)
    (entry : CacheEntry) : Bool :=
  now < entry.expiry

end CacheEntry

/-- A cache: the lifetime of entries written without one, and the held entries,
at most one per key. -/
structure Cache where
  /-- Lifetime in nanoseconds of an entry that is written without one. -/
  lifetime : Nat
  /-- The held entries, the latest written first. -/
  entries : List CacheEntry
  /-- No key is held twice. -/
  keysDistinct : (entries.map CacheEntry.key).Nodup

namespace Cache

/-- Longest lifetime of an entry, in nanoseconds: thirty days. -/
def longestLifetime : Nat := 30 * 24 * 60 * 60 * 1000000000

/-- A cache that holds nothing. -/
def empty
    (lifetime : Nat) : Cache where
  lifetime := lifetime
  entries := []
  keysDistinct := List.nodup_nil

/-- The entry held for a key, dead or alive. -/
def held?
    (cache : Cache)
    (key : String) : Option CacheEntry :=
  cache.entries.find? fun entry => entry.key == key

/-- The value visible for a key. -/
def lookup
    (cache : Cache)
    (now : Nat)
    (key : String) : Option String :=
  ((cache.held? key).filter (CacheEntry.isLive now)).map CacheEntry.value

theorem keysDistinct_filter
    (cache : Cache)
    (keep : CacheEntry → Bool) :
    ((cache.entries.filter keep).map CacheEntry.key).Nodup :=
  cache.keysDistinct.sublist ((List.filter_sublist).map _)

/-- Hold a value for a key under a lifetime, which is capped.  An earlier entry
of that key is replaced, value and expiry alike. -/
def writeFor
    (cache : Cache)
    (now : Nat)
    (key value : String)
    (lifetime : Nat) : Cache where
  lifetime := cache.lifetime
  entries :=
    ⟨key, value, now + min lifetime longestLifetime⟩ ::
      cache.entries.filter fun entry => entry.key != key
  keysDistinct := by
    simp only [List.map_cons, List.nodup_cons]
    refine ⟨?_, cache.keysDistinct_filter _⟩
    simp [List.mem_map, List.mem_filter]

/-- Hold a value for a key under the cache's own lifetime. -/
def write
    (cache : Cache)
    (now : Nat)
    (key value : String) : Cache :=
  cache.writeFor now key value cache.lifetime

/-- Drop every entry that is no longer visible. -/
def purge
    (cache : Cache)
    (now : Nat) : Cache where
  lifetime := cache.lifetime
  entries := cache.entries.filter (CacheEntry.isLive now)
  keysDistinct := cache.keysDistinct_filter _

/-- Count of held entries, dead ones included. -/
def size
    (cache : Cache) : Nat :=
  cache.entries.length

/-- Count of entries that a purge would drop. -/
def purgeable
    (cache : Cache)
    (now : Nat) : Nat :=
  cache.size - (cache.purge now).size

@[simp] theorem lookup_empty
    (lifetime now : Nat)
    (key : String) :
    (empty lifetime).lookup now key = none := rfl

@[simp] theorem lifetime_writeFor
    (cache : Cache)
    (now : Nat)
    (key value : String)
    (lifetime : Nat) :
    (cache.writeFor now key value lifetime).lifetime = cache.lifetime := rfl

@[simp] theorem lifetime_write
    (cache : Cache)
    (now : Nat)
    (key value : String) :
    (cache.write now key value).lifetime = cache.lifetime := rfl

@[simp] theorem lifetime_purge
    (cache : Cache)
    (now : Nat) :
    (cache.purge now).lifetime = cache.lifetime := rfl

@[simp] theorem held?_writeFor_self
    (cache : Cache)
    (now : Nat)
    (key value : String)
    (lifetime : Nat) :
    (cache.writeFor now key value lifetime).held? key =
      some ⟨key, value, now + min lifetime longestLifetime⟩ := by
  simp [held?, writeFor]

@[simp] theorem held?_writeFor_of_ne
    (cache : Cache)
    (now : Nat)
    {key other : String}
    (different : other ≠ key)
    (value : String)
    (lifetime : Nat) :
    (cache.writeFor now key value lifetime).held? other = cache.held? other := by
  simp only [held?, writeFor]
  rw [List.find?_cons_of_neg (by simpa using different.symm), List.find?_filter]
  congr 1
  funext entry
  by_cases same : entry.key = other
  · subst same
    simp [different]
  · simp [same]

end Cache
end FleetDashboard
