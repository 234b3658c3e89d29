import GcoSpec.Gco.Errors
import GcoSpec.Python.Dict
import GcoSpec.Python.Effect

/-!
# The replay cache

`InMemoryReplayCache` maps each recorded `jti` to its expiry. `check_and_record` first evicts what
has expired at the time it is given, then refuses a `jti` that is still there and refuses every
`jti` when the cache is full.

An entry is live at `now` while it expires after `now`; `live_checkAndRecord` says which entries
are live after a call.
-/

namespace Gco

open Python

/-- `InMemoryReplayCache`. -/
structure InMemoryReplayCache where
  maxEntries : ℕ
  maxEntries_pos : 1 ≤ maxEntries
  entries : Dict String DateTime

namespace InMemoryReplayCache

/-- `InMemoryReplayCache(max_entries)`, or `none` where it raises `ValueError`. -/
def new? (maxEntries : ℕ) : Option InMemoryReplayCache :=
  if h : 1 ≤ maxEntries then some ⟨maxEntries, h, Dict.empty⟩ else none

/-- `InMemoryReplayCache()`. -/
def new : InMemoryReplayCache := ⟨10000, by decide, Dict.empty⟩

/-- `_evict_expired`. -/
def evictExpired (c : InMemoryReplayCache) (now : DateTime) : InMemoryReplayCache :=
  { c with entries := c.entries.filter fun _ expiresAt => !(expiresAt ≤ now) }

/-- `check_and_record`: its result, and the cache afterwards. -/
def checkAndRecord (c : InMemoryReplayCache) (jti : String) (expiresAt now : DateTime) :
    Bool × InMemoryReplayCache :=
  let evicted := c.evictExpired now
  if evicted.entries.contains jti then (false, evicted)
  else if evicted.maxEntries ≤ evicted.entries.size then (false, evicted)
  else (true, { evicted with entries := evicted.entries.set jti expiresAt })

/-- The expiry recorded for `jti`, while it is after `now`. -/
def live (c : InMemoryReplayCache) (now : DateTime) (jti : String) : Option DateTime :=
  (c.entries.get? jti).filter fun expiresAt => now < expiresAt

theorem get?_evictExpired (c : InMemoryReplayCache) (now : DateTime) (jti : String) :
    (c.evictExpired now).entries.get? jti = c.live now jti := by
  rw [evictExpired, Dict.get?_filter, live]
  congr 1
  funext expiresAt
  simp [← not_le]

@[simp] theorem maxEntries_evictExpired (c : InMemoryReplayCache) (now : DateTime) :
    (c.evictExpired now).maxEntries = c.maxEntries := rfl

/-- A `jti` is accepted exactly when it has no live entry and there is room. -/
theorem checkAndRecord_fst {c : InMemoryReplayCache} {jti : String} {expiresAt now : DateTime} :
    (c.checkAndRecord jti expiresAt now).1 = true ↔
      c.live now jti = none ∧ (c.evictExpired now).entries.size < c.maxEntries := by
  have hmax : (c.evictExpired now).maxEntries = c.maxEntries := rfl
  unfold checkAndRecord
  dsimp only
  rw [Dict.contains, get?_evictExpired]
  split_ifs with h h'
  · simp only [false_iff, not_and]
    rintro hnone
    rw [hnone] at h
    cases h
  · simp only [false_iff, not_and, not_lt]
    exact fun _ => hmax ▸ h'
  · simp only [true_iff]
    exact ⟨by simpa using h, by omega⟩

theorem checkAndRecord_of_accepted {c : InMemoryReplayCache} {jti : String}
    {expiresAt now : DateTime} (h : (c.checkAndRecord jti expiresAt now).1 = true) :
    (c.checkAndRecord jti expiresAt now).2 =
      { c.evictExpired now with entries := (c.evictExpired now).entries.set jti expiresAt } := by
  unfold checkAndRecord at h ⊢
  dsimp only at h ⊢
  split_ifs at h ⊢
  rfl

theorem checkAndRecord_of_refused {c : InMemoryReplayCache} {jti : String}
    {expiresAt now : DateTime} (h : (c.checkAndRecord jti expiresAt now).1 = false) :
    (c.checkAndRecord jti expiresAt now).2 = c.evictExpired now := by
  unfold checkAndRecord at h ⊢
  dsimp only at h ⊢
  split_ifs at h ⊢ <;> rfl

/-- What is recorded after a call: the new entry if it was accepted, and what was live. -/
theorem get?_checkAndRecord (c : InMemoryReplayCache) (jti : String) (expiresAt now : DateTime)
    (k : String) : (c.checkAndRecord jti expiresAt now).2.entries.get? k =
      if (c.checkAndRecord jti expiresAt now).1 = true ∧ k = jti then some expiresAt
      else c.live now k := by
  cases h : (c.checkAndRecord jti expiresAt now).1 with
  | false =>
    rw [checkAndRecord_of_refused h, get?_evictExpired]
    simp
  | true =>
    rw [checkAndRecord_of_accepted h, Dict.get?_set, get?_evictExpired]
    simp

/-- Later, of what was live, what still is. -/
theorem live_of_le (c : InMemoryReplayCache) {now later : DateTime} (hle : now ≤ later)
    (jti : String) :
    c.live later jti = (c.live now jti).filter fun expiresAt => later < expiresAt := by
  rw [live, live, Option.filter_filter]
  congr 1
  funext expiresAt
  by_cases h : later < expiresAt
  · simp [h, lt_of_le_of_lt hle h]
  · simp [h]

theorem live_eq_none_of_le {c : InMemoryReplayCache} {now later : DateTime} (hle : now ≤ later)
    {jti : String} (h : c.live now jti = none) : c.live later jti = none := by
  rw [c.live_of_le hle, h]
  rfl

/-- What is live some time after a call: the new entry if it was accepted, and what would be live
without the call. -/
theorem live_checkAndRecord_of_le (c : InMemoryReplayCache) (jti : String) (expiresAt : DateTime)
    {now later : DateTime} (hle : now ≤ later) (k : String) :
    (c.checkAndRecord jti expiresAt now).2.live later k =
      if (c.checkAndRecord jti expiresAt now).1 = true ∧ k = jti then
        if later < expiresAt then some expiresAt else none
      else c.live later k := by
  rw [live, get?_checkAndRecord]
  split_ifs with h hlt
  · rw [Option.filter_some, if_pos (decide_eq_true hlt)]
  · rw [Option.filter_some, if_neg (by simpa using hlt)]
  · rw [c.live_of_le hle]

/-- What is live after a call: the new entry if it was accepted, and what was live before. -/
theorem live_checkAndRecord (c : InMemoryReplayCache) (jti : String) {expiresAt now : DateTime}
    (hlt : now < expiresAt) (k : String) : (c.checkAndRecord jti expiresAt now).2.live now k =
      if (c.checkAndRecord jti expiresAt now).1 = true ∧ k = jti then some expiresAt
      else c.live now k := by
  rw [live_checkAndRecord_of_le c jti expiresAt le_rfl, if_pos hlt]

@[simp] theorem maxEntries_checkAndRecord (c : InMemoryReplayCache) (jti : String)
    (expiresAt now : DateTime) :
    (c.checkAndRecord jti expiresAt now).2.maxEntries = c.maxEntries := by
  unfold checkAndRecord
  dsimp only
  split_ifs <;> rfl

/-- A cache with fewer live entries is not fuller. -/
theorem size_evictExpired_le {c c' : InMemoryReplayCache} {now : DateTime}
    (h : ∀ k, c.live now k ≠ none → c'.live now k ≠ none) :
    (c.evictExpired now).entries.size ≤ (c'.evictExpired now).entries.size := by
  refine Dict.size_le_of_get? fun k => ?_
  rw [get?_evictExpired, get?_evictExpired]
  exact h k

end InMemoryReplayCache

/-- The protocol `ReplayCache`, as an object in state `σ`. -/
structure ReplayCache (σ : Type) where
  checkAndRecord : String → DateTime → DateTime → Py Exc σ Bool

/-- An `InMemoryReplayCache` that is part of the state. -/
def InMemoryReplayCache.protocol {σ : Type} (get : σ → InMemoryReplayCache)
    (set : InMemoryReplayCache → σ → σ) : ReplayCache σ where
  checkAndRecord jti expiresAt now := fun s =>
    let r := (get s).checkAndRecord jti expiresAt now
    .ok r.1 (set r.2 s)

theorem InMemoryReplayCache.protocol_apply {σ : Type} (get : σ → InMemoryReplayCache)
    (set : InMemoryReplayCache → σ → σ) (jti : String) (expiresAt now : DateTime) (s : σ) :
    (InMemoryReplayCache.protocol get set).checkAndRecord jti expiresAt now s =
      .ok ((get s).checkAndRecord jti expiresAt now).1
        (set ((get s).checkAndRecord jti expiresAt now).2 s) := rfl

end Gco
