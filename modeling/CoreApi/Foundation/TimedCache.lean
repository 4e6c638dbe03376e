import Mathlib.Data.List.Nodup
import Mathlib.Data.List.Basic

/-!
# Caches in front of a store that changes

A `TimedCache` keeps values under keys, each until an instant of its own. `Versions` is a
store with a clock that remembers until when each of its earlier states was current. An
entry is `Dated` when its value was right in a state that was current not longer ago than
the time that entries live; what is served fresh was right that lately.
-/

namespace CoreApi.Foundation

variable {κ α σ : Type}

/-- A value under a key, and the instant at which it expires. -/
structure CacheEntry (κ α : Type) where
  key : κ
  expiresAt : Nat
  value : α

/-- Entries under distinct keys. -/
structure TimedCache (κ α : Type) where
  entries : List (CacheEntry κ α)
  distinct : (entries.map CacheEntry.key).Nodup

namespace TimedCache

/-- The cache without entries. -/
def empty (κ α : Type) : TimedCache κ α := ⟨[], List.nodup_nil⟩

/-- The cache without the entries that meet a condition. -/
def clear (cache : TimedCache κ α) (p : CacheEntry κ α → Bool) : TimedCache κ α where
  entries := cache.entries.filter fun entry => !p entry
  distinct := cache.distinct.sublist (List.filter_sublist.map _)

/-- The cache without the entries that have expired. -/
def clearExpired (cache : TimedCache κ α) (now : Nat) : TimedCache κ α :=
  cache.clear fun entry => entry.expiresAt ≤ now

section

variable [DecidableEq κ]

/-- The value under a key, while it is fresh. -/
def get? (cache : TimedCache κ α) (now : Nat) (key : κ) : Option α :=
  (cache.entries.find? fun entry => entry.key == key && now < entry.expiresAt).map CacheEntry.value

/-- The cache with a value under a key, in place of any other one there. -/
def set (cache : TimedCache κ α) (entry : CacheEntry κ α) : TimedCache κ α where
  entries := (cache.clear fun other => other.key == entry.key).entries ++ [entry]
  distinct := by
    rw [List.map_append, List.nodup_append]
    refine ⟨(cache.clear _).distinct, List.nodup_singleton _, ?_⟩
    intro key member key' member' same
    obtain ⟨other, isOther, rfl⟩ := List.mem_map.mp member
    have apart := (List.mem_filter.mp isOther).2
    rw [List.mem_singleton.mp member'] at same
    simp [same] at apart

end

/-- Every entry has the property. -/
def Holds (property : CacheEntry κ α → Prop) (cache : TimedCache κ α) : Prop :=
  ∀ entry ∈ cache.entries, property entry

section

variable {property property' : CacheEntry κ α → Prop} {cache : TimedCache κ α}

theorem holds_empty : (empty κ α).Holds property := nofun

theorem Holds.mono (holds : cache.Holds property)
    (weaker : ∀ entry, property entry → property' entry) : cache.Holds property' :=
  fun entry member => weaker entry (holds entry member)

theorem Holds.clear (holds : cache.Holds property) (p : CacheEntry κ α → Bool) :
    (cache.clear p).Holds property :=
  fun entry member => holds entry (List.mem_filter.mp member).1

/-- No entry that is left meets the condition. -/
theorem holds_clear (p : CacheEntry κ α → Bool) : (cache.clear p).Holds (p · = false) := by
  intro entry member
  simpa using (List.mem_filter.mp member).2

variable [DecidableEq κ]

/-- What is served is the value of the entry under the key, while it is fresh. -/
theorem get?_eq_some_iff {now : Nat} {key : κ} {value : α} :
    cache.get? now key = some value ↔
      ∃ entry ∈ cache.entries, entry.key = key ∧ now < entry.expiresAt ∧ entry.value = value := by
  constructor
  · intro served
    obtain ⟨entry, found, rfl⟩ := Option.map_eq_some_iff.mp served
    have fits := List.find?_some found
    simp only [Bool.and_eq_true, beq_iff_eq, decide_eq_true_eq] at fits
    exact ⟨entry, List.mem_of_find?_eq_some found, fits.1, fits.2, rfl⟩
  · rintro ⟨entry, member, rfl, fresh, rfl⟩
    refine Option.map_eq_some_iff.mpr ⟨entry, ?_, rfl⟩
    rcases found : cache.entries.find? fun other =>
      other.key == entry.key && now < other.expiresAt with _ | other
    · have apart := List.find?_eq_none.mp found entry member
      simp [fresh] at apart
    · have fits := List.find?_some found
      simp only [Bool.and_eq_true, beq_iff_eq] at fits
      have same : other = entry := List.inj_on_of_nodup_map cache.distinct
        (List.mem_of_find?_eq_some found) member fits.1
      exact found.trans (congrArg some same)

/-- Nothing is served where no entry has the key. -/
theorem Holds.get?_eq_none {now : Nat} {key : κ} (absent : cache.Holds (·.key ≠ key)) :
    cache.get? now key = none := by
  rcases served : cache.get? now key with _ | value
  · rfl
  · obtain ⟨entry, member, same, _⟩ := get?_eq_some_iff.mp served
    exact absurd same (absent entry member)

/-- Clearing what has expired changes nothing that is served. -/
theorem get?_clearExpired (cache : TimedCache κ α) (now : Nat) (key : κ) :
    (cache.clearExpired now).get? now key = cache.get? now key := by
  unfold get? clearExpired clear
  rw [List.find?_filter]
  congr 2
  funext entry
  by_cases fresh : now < entry.expiresAt
  · simp [fresh, beq_eq_decide]
  · simp [Nat.not_lt.mp fresh, fresh]

end

end TimedCache

/-! ## Stores with a past -/

/-- A store and a clock, with the earlier states of the store and until when each was current. -/
structure Versions (σ : Type) where
  current : σ
  now : Nat
  replaced : List (σ × Nat)

namespace Versions

/-- The store is written. -/
def write (versions : Versions σ) (next : σ) : Versions σ where
  current := next
  now := versions.now
  replaced := (versions.current, versions.now) :: versions.replaced

/-- Time passes. -/
def advance (versions : Versions σ) (duration : Nat) : Versions σ :=
  { versions with now := versions.now + duration }

/-- The state was current at some time that is less than `duration` ago. -/
def CurrentLately (versions : Versions σ) (duration : Nat) (state : σ) : Prop :=
  state = versions.current ∨ ∃ lastInstant, (state, lastInstant) ∈ versions.replaced ∧
    versions.now < lastInstant + duration

/-- The value of the entry was right in a state that was current when the entry was at most as old
as it may become. -/
def Dated (versions : Versions σ) (duration : Nat) (right : σ → κ → α → Prop)
    (entry : CacheEntry κ α) : Prop :=
  entry.expiresAt ≤ versions.now + duration ∧ ∃ state, right state entry.key entry.value ∧
    (state = versions.current ∨ ∃ lastInstant, (state, lastInstant) ∈ versions.replaced ∧
      entry.expiresAt ≤ lastInstant + duration)

variable {versions : Versions σ} {duration : Nat} {right : σ → κ → α → Prop}
  {entry : CacheEntry κ α}

theorem Dated.write (dated : versions.Dated duration right entry) (next : σ) :
    (versions.write next).Dated duration right entry := by
  obtain ⟨young, state, isRight, rfl | ⟨lastInstant, member, lately⟩⟩ := dated
  · exact ⟨young, versions.current, isRight,
      .inr ⟨versions.now, List.mem_cons_self, young⟩⟩
  · exact ⟨young, state, isRight, .inr ⟨lastInstant, List.mem_cons_of_mem _ member, lately⟩⟩

theorem Dated.advance (dated : versions.Dated duration right entry) (later : Nat) :
    (versions.advance later).Dated duration right entry :=
  ⟨Nat.le_trans dated.1 (Nat.add_le_add_right (Nat.le_add_right _ _) _), dated.2⟩

theorem Dated.lately (dated : versions.Dated duration right entry)
    (fresh : versions.now < entry.expiresAt) :
    ∃ state, versions.CurrentLately duration state ∧ right state entry.key entry.value := by
  obtain ⟨_, state, isRight, isCurrent | ⟨lastInstant, member, lately⟩⟩ := dated
  · exact ⟨state, .inl isCurrent, isRight⟩
  · exact ⟨state, .inr ⟨lastInstant, member, Nat.lt_of_lt_of_le fresh lately⟩, isRight⟩

/-! ## Reading through a cache -/

/-- Each entry of the later cache was there before, or is right and new. -/
def Adds (versions : Versions σ) (duration : Nat) (right : σ → κ → α → Prop)
    (before after : TimedCache κ α) : Prop :=
  ∀ entry ∈ after.entries, entry ∈ before.entries ∨
    entry.expiresAt = versions.now + duration ∧ right versions.current entry.key entry.value

variable {before between after : TimedCache κ α}

theorem adds_refl : versions.Adds duration right before before := fun _ member => .inl member

theorem Adds.trans (first : versions.Adds duration right before between)
    (second : versions.Adds duration right between after) :
    versions.Adds duration right before after := by
  intro entry member
  rcases second entry member with old | new
  · exact first entry old
  · exact .inr new

theorem adds_clear (p : CacheEntry κ α → Bool) :
    versions.Adds duration right before (before.clear p) :=
  fun _ member => .inl (List.mem_filter.mp member).1

/-- What is added to dated entries is dated. -/
theorem Adds.dated (adds : versions.Adds duration right before after)
    (dated : before.Holds (versions.Dated duration right)) :
    after.Holds (versions.Dated duration right) := by
  intro entry member
  rcases adds entry member with old | ⟨expires, isRight⟩
  · exact dated entry old
  · exact ⟨Nat.le_of_eq expires, versions.current, isRight, .inl rfl⟩

variable [DecidableEq κ]

theorem adds_set {key : κ} {value : α} (isRight : right versions.current key value) :
    versions.Adds duration right before
      (before.set ⟨key, versions.now + duration, value⟩) := by
  intro entry member
  rcases List.mem_append.mp member with old | new
  · exact .inl (List.mem_filter.mp old).1
  · rw [List.mem_singleton.mp new]
    exact .inr ⟨rfl, isRight⟩

theorem Adds.get? (adds : versions.Adds duration right before after) {key : κ} {value : α}
    (served : after.get? versions.now key = some value) :
    before.get? versions.now key = some value ∨ right versions.current key value := by
  obtain ⟨entry, member, rfl, fresh, rfl⟩ := TimedCache.get?_eq_some_iff.mp served
  rcases adds entry member with old | ⟨_, isRight⟩
  · exact .inl (TimedCache.get?_eq_some_iff.mpr ⟨entry, old, rfl, fresh, rfl⟩)
  · exact .inr isRight

theorem lately_of_get? (dated : before.Holds (versions.Dated duration right)) {key : κ} {value : α}
    (served : before.get? versions.now key = some value) :
    ∃ state, versions.CurrentLately duration state ∧ right state key value := by
  obtain ⟨entry, member, rfl, fresh, rfl⟩ := TimedCache.get?_eq_some_iff.mp served
  exact (dated entry member).lately fresh

end Versions

end CoreApi.Foundation
