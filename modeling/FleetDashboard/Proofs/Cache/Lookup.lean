import FleetDashboard.Cache.Basic
import Mathlib.Data.List.Nodup

/-!
# What look-ups see

Every operation on a cache is described by what later look-ups see of it.  A
purge changes nothing for a reader who comes at its moment or later, since the
entries that it drops are dead by then.
-/

namespace FleetDashboard
namespace Cache

/-- An entry is held for a key exactly when it is among the entries. -/
theorem held?_eq_some_iff
    (cache : Cache)
    (key : String)
    (entry : CacheEntry) :
    cache.held? key = some entry ↔ entry ∈ cache.entries ∧ entry.key = key := by
  constructor
  · intro held
    refine ⟨List.mem_of_find?_eq_some held, ?_⟩
    simpa using List.find?_some held
  · rintro ⟨member, sameKey⟩
    have present : (cache.held? key).isSome := by
      rw [held?, List.find?_isSome]
      exact ⟨entry, member, by simpa using sameKey⟩
    obtain ⟨other, held⟩ := Option.isSome_iff_exists.mp present
    have otherMember : other ∈ cache.entries := List.mem_of_find?_eq_some held
    have otherKey : other.key = key := by simpa using List.find?_some held
    have equal : other = entry :=
      List.inj_on_of_nodup_map cache.keysDistinct otherMember member
        (otherKey.trans sameKey.symm)
    rw [held, equal]

/-- A text is visible exactly when a live entry holds it. -/
theorem lookup_eq_some_iff
    (cache : Cache)
    (now : Nat)
    (key value : String) :
    cache.lookup now key = some value ↔
      ∃ entry ∈ cache.entries,
        entry.key = key ∧ entry.value = value ∧ now < entry.expiry := by
  simp only [lookup, Option.map_eq_some_iff, Option.filter_eq_some_iff, held?_eq_some_iff,
    CacheEntry.isLive, decide_eq_true_eq]
  constructor
  · rintro ⟨entry, ⟨⟨member, sameKey⟩, live⟩, sameValue⟩
    exact ⟨entry, member, sameKey, sameValue, live⟩
  · rintro ⟨entry, member, sameKey, sameValue, live⟩
    exact ⟨entry, ⟨⟨member, sameKey⟩, live⟩, sameValue⟩

@[simp] theorem mem_entries_purge
    (cache : Cache)
    (moment : Nat)
    (entry : CacheEntry) :
    entry ∈ (cache.purge moment).entries ↔ entry ∈ cache.entries ∧ moment < entry.expiry := by
  simp [purge, CacheEntry.isLive]

/-- An entry is held after a write exactly when it is the one written or an
earlier one under another key. -/
theorem mem_entries_writeFor
    (cache : Cache)
    (moment : Nat)
    (key value : String)
    (lifetime : Nat)
    (entry : CacheEntry) :
    entry ∈ (cache.writeFor moment key value lifetime).entries ↔
      entry = ⟨key, value, moment + min lifetime longestLifetime⟩ ∨
        entry ∈ cache.entries ∧ entry.key ≠ key := by
  simp [writeFor]

/-- A purge hides nothing from a reader who comes at its moment or later. -/
theorem lookup_purge_of_le
    (cache : Cache)
    {moment now : Nat}
    (notBefore : moment ≤ now)
    (key : String) :
    (cache.purge moment).lookup now key = cache.lookup now key := by
  ext value
  simp only [lookup_eq_some_iff, mem_entries_purge]
  constructor
  · rintro ⟨entry, ⟨member, _⟩, described⟩
    exact ⟨entry, member, described⟩
  · rintro ⟨entry, member, sameKey, sameValue, live⟩
    have liveThen : moment < entry.expiry := Nat.lt_of_le_of_lt notBefore live
    exact ⟨entry, ⟨member, liveThen⟩, sameKey, sameValue, live⟩

/-- A written text is visible for its lifetime, which is capped. -/
theorem lookup_writeFor_self
    (cache : Cache)
    (moment now : Nat)
    (key value : String)
    (lifetime : Nat) :
    (cache.writeFor moment key value lifetime).lookup now key =
      if now < moment + min lifetime longestLifetime then some value else none := by
  rw [lookup, held?_writeFor_self, Option.filter_some]
  by_cases live : now < moment + min lifetime longestLifetime <;>
    simp [CacheEntry.isLive, live]

/-- A write leaves the other keys as they are. -/
theorem lookup_writeFor_of_ne
    (cache : Cache)
    (moment now : Nat)
    {key other : String}
    (different : other ≠ key)
    (value : String)
    (lifetime : Nat) :
    (cache.writeFor moment key value lifetime).lookup now other = cache.lookup now other := by
  rw [lookup, held?_writeFor_of_ne cache moment different, lookup]

/-- What is visible at a moment was visible at every moment before it. -/
theorem lookup_of_le
    (cache : Cache)
    {moment now : Nat}
    (notBefore : moment ≤ now)
    {key value : String}
    (visible : cache.lookup now key = some value) :
    cache.lookup moment key = some value := by
  rw [lookup_eq_some_iff] at visible ⊢
  obtain ⟨entry, member, sameKey, sameValue, live⟩ := visible
  exact ⟨entry, member, sameKey, sameValue, Nat.lt_of_le_of_lt notBefore live⟩

end Cache
end FleetDashboard
