import GcoSpec.Gco.ReplayCache
import GcoSpec.Library.Runs

/-!
# The history of a replay cache

An `InMemoryReplayCache` keeps its entries in one dictionary, drops what has expired only when it
is called, and overwrites what it dropped. Over a run of calls at times that never go back, what it
answers is decided by the calls it accepted before: by those on the same `jti`, and by the number
of those that expire after the time of the call (`cache_refines_history`).

The invariant (`Recalls`): at any time from the last call on, the live entries are the accepted
calls that expire later, each exactly once.
-/

namespace Gco

open Python

/-- A call of `check_and_record`. -/
structure CacheCall where
  jti : String
  expiresAt : DateTime
  now : DateTime
  deriving DecidableEq

namespace CacheCall

/-- What a call records when it is accepted. -/
def item (call : CacheCall) : String × DateTime := (call.jti, call.expiresAt)

/-- The call expires after `now`. -/
def liveAt (now : DateTime) (call : CacheCall) : Bool := now < call.expiresAt

/-- A call adds itself to the history when it was accepted. -/
def adds (x : CacheCall × Bool) : List CacheCall := if x.2 = true then [x.1] else []

/-- The accepted calls of a trace. -/
def accepted (trace : List (CacheCall × Bool)) : List CacheCall := trace.flatMap adds

theorem mem_accepted {trace : List (CacheCall × Bool)} {call : CacheCall} :
    call ∈ accepted trace ↔ (call, true) ∈ trace := by
  unfold accepted adds
  rw [List.mem_flatMap]
  constructor
  · rintro ⟨⟨e, answer⟩, hmem, he⟩
    cases answer with
    | false => cases he
    | true =>
      obtain rfl := List.mem_singleton.1 he
      exact hmem
  · intro h
    exact ⟨(call, true), h, List.mem_singleton.2 rfl⟩

/-- Selecting among the accepted calls. -/
theorem length_filter_accepted (p : CacheCall → Bool) (trace : List (CacheCall × Bool)) :
    ((accepted trace).filter p).length = (trace.filter fun x => x.2 && p x.1).length := by
  induction trace with
  | nil => rfl
  | cons x trace ih =>
    obtain ⟨call, answer⟩ := x
    rw [accepted, List.flatMap_cons, ← accepted, List.filter_append, List.length_append, ih,
      List.filter_cons]
    cases answer with
    | false => simp [adds]
    | true =>
      by_cases h : p call = true
      · simp [adds, h, Nat.add_comm]
      · simp [adds, h]

end CacheCall

open CacheCall

namespace InMemoryReplayCache

/-- One call of the cache, with its answer. -/
def Answers (c : InMemoryReplayCache) (x : CacheCall × Bool) (c' : InMemoryReplayCache) : Prop :=
  c.checkAndRecord x.1.jti x.1.expiresAt x.1.now = (x.2, c')

/-- At `now`, the live entries are the calls of the history that expire later. -/
def Recalls (c : InMemoryReplayCache) (now : DateTime) (history : List CacheCall) : Prop :=
  (c.evictExpired now).entries.items.Perm ((history.filter (liveAt now)).map item)

variable {c c' : InMemoryReplayCache} {now : DateTime} {history : List CacheCall}

theorem items_evictExpired (c : InMemoryReplayCache) (now : DateTime) :
    (c.evictExpired now).entries.items = c.entries.items.filter fun kv => decide (now < kv.2) := by
  unfold evictExpired Dict.filter
  dsimp only
  congr 1
  funext kv
  rw [← decide_not, decide_eq_decide]
  exact not_le

/-- The same selection, of the calls and of what they record. -/
theorem map_item_filter (now : DateTime) (history : List CacheCall) :
    (history.filter (liveAt now)).map item =
      (history.map item).filter fun kv => decide (now < kv.2) := by
  rw [List.filter_map]
  rfl

/-- Time passes: of the entries and of the calls, the same ones expire. -/
theorem Recalls.later (h : c.Recalls now history) {later : DateTime} (hle : now ≤ later) :
    c.Recalls later history := by
  -- what is live later is live now
  have hnow : ∀ kv : String × DateTime,
      (decide (later < kv.2) && decide (now < kv.2)) = decide (later < kv.2) := by
    intro kv
    by_cases hlt : later < kv.2
    · simp [hlt, lt_of_le_of_lt hle hlt]
    · simp [hlt]
  have hfilter := List.Perm.filter (fun kv => decide (later < kv.2)) h
  rw [items_evictExpired, map_item_filter, List.filter_filter, List.filter_filter] at hfilter
  simp only [hnow] at hfilter
  rwa [Recalls, items_evictExpired, map_item_filter]

/-- The cache has as many live entries as there are live calls. -/
theorem Recalls.size_eq (h : c.Recalls now history) :
    (c.evictExpired now).entries.size = (history.filter (liveAt now)).length := by
  rw [Dict.size, List.Perm.length_eq h, List.length_map]

/-- A `jti` has a live entry exactly when a live call recorded it. -/
theorem Recalls.live_eq_none_iff (h : c.Recalls now history) {jti : String} :
    c.live now jti = none ↔ ∀ e ∈ history, e.jti = jti → e.expiresAt ≤ now := by
  have hitem : ∀ expiresAt, c.live now jti = some expiresAt ↔
      (jti, expiresAt) ∈ (history.filter (liveAt now)).map item := by
    intro expiresAt
    rw [← get?_evictExpired, ← Dict.mem_items_iff]
    exact List.Perm.mem_iff h
  rw [Option.eq_none_iff_forall_ne_some]
  constructor
  · rintro hnone e he rfl
    by_contra hlive
    refine hnone e.expiresAt ((hitem e.expiresAt).2 (List.mem_map.2 ⟨e, ?_, rfl⟩))
    rw [List.mem_filter]
    exact ⟨he, decide_eq_true (not_le.1 hlive)⟩
  · intro hexpired expiresAt hlive
    obtain ⟨e, he, heq⟩ := List.mem_map.1 ((hitem expiresAt).1 hlive)
    obtain ⟨rfl, rfl⟩ := Prod.mk.inj heq
    rw [List.mem_filter] at he
    exact absurd (of_decide_eq_true he.2) (not_lt.2 (hexpired e he.1 rfl))

/-- When a call is accepted: no live call recorded its `jti`, and there is room for one more. -/
theorem Recalls.answer_iff {call : CacheCall} {answer : Bool} (h : c.Recalls call.now history)
    (hanswers : c.Answers (call, answer) c') :
    answer = true ↔ (∀ e ∈ history, e.jti = call.jti → e.expiresAt ≤ call.now) ∧
      (history.filter (liveAt call.now)).length < c.maxEntries := by
  have hfst : (c.checkAndRecord call.jti call.expiresAt call.now).1 = answer :=
    congrArg Prod.fst hanswers
  rw [← hfst, checkAndRecord_fst, h.live_eq_none_iff, h.size_eq]

/-- After a call the cache recalls what it did before, and the call if it was accepted. -/
theorem Recalls.answers {x : CacheCall × Bool} (h : c.Recalls x.1.now history)
    (hanswers : c.Answers x c') : c'.Recalls x.1.now (history ++ adds x) := by
  obtain ⟨call, answer⟩ := x
  have hfst : (c.checkAndRecord call.jti call.expiresAt call.now).1 = answer :=
    congrArg Prod.fst hanswers
  have hsnd : c' = (c.checkAndRecord call.jti call.expiresAt call.now).2 :=
    (congrArg Prod.snd hanswers).symm
  cases answer with
  | false =>
    rw [hsnd, checkAndRecord_of_refused hfst, show adds (call, false) = [] from rfl,
      List.append_nil]
    -- what has expired was evicted already
    have hevicted : ((c.evictExpired call.now).evictExpired call.now).entries.items =
        (c.evictExpired call.now).entries.items := by
      simp only [items_evictExpired, List.filter_filter, Bool.and_self]
    rw [Recalls, hevicted]
    exact h
  | true =>
    obtain ⟨hnone, hroom⟩ := checkAndRecord_fst.1 hfst
    have hnew : ((c.evictExpired call.now).entries.set call.jti call.expiresAt).items =
        (c.evictExpired call.now).entries.items ++ [item call] :=
      Dict.items_set_of_none _ _ ((get?_evictExpired c call.now call.jti).trans hnone)
    rw [hsnd, checkAndRecord_of_accepted hfst, show adds (call, true) = [call] from rfl]
    rw [Recalls, items_evictExpired, map_item_filter]
    dsimp only
    rw [hnew, List.filter_append, List.map_append, List.filter_append, items_evictExpired,
      List.filter_filter]
    simp only [Bool.and_self]
    refine List.Perm.append ?_ (List.Perm.refl _)
    rw [← items_evictExpired, ← map_item_filter]
    exact h

theorem Answers.maxEntries {x : CacheCall × Bool} (h : c.Answers x c') :
    c'.maxEntries = c.maxEntries := by
  have hsnd : c' = (c.checkAndRecord x.1.jti x.1.expiresAt x.1.now).2 :=
    (congrArg Prod.snd h).symm
  rw [hsnd, maxEntries_checkAndRecord]

/-- A full cache stays as it is or loses entries. -/
theorem Answers.size_le {x : CacheCall × Bool} (h : c.Answers x c')
    (hbounded : c.entries.size ≤ c.maxEntries) : c'.entries.size ≤ c.maxEntries := by
  have hsnd : c' = (c.checkAndRecord x.1.jti x.1.expiresAt x.1.now).2 :=
    (congrArg Prod.snd h).symm
  have hevicted : (c.evictExpired x.1.now).entries.size ≤ c.entries.size :=
    Dict.size_filter_le _ _
  cases hfst : (c.checkAndRecord x.1.jti x.1.expiresAt x.1.now).1 with
  | false =>
    rw [hsnd, checkAndRecord_of_refused hfst]
    exact hevicted.trans hbounded
  | true =>
    obtain ⟨-, hroom⟩ := checkAndRecord_fst.1 hfst
    have hset := Dict.size_set_le (c.evictExpired x.1.now).entries x.1.jti x.1.expiresAt
    rw [hsnd, checkAndRecord_of_accepted hfst]
    dsimp only
    omega

/-! ### Runs -/

/-- Calls in sequence, with their answers. -/
def CacheRun : InMemoryReplayCache → List (CacheCall × Bool) → InMemoryReplayCache → Prop :=
  Runs.Run Answers

/-- The time of no call is before that of an earlier one. -/
def ClockAdvances (trace : List (CacheCall × Bool)) : Prop :=
  trace.Pairwise fun x y => x.1.now ≤ y.1.now

/-- What a run keeps: the bound of the cache, and from the time of the last call on it recalls the
accepted calls. -/
structure RecallsTrace (maxEntries : ℕ) (trace : List (CacheCall × Bool))
    (c : InMemoryReplayCache) : Prop where
  limit : c.maxEntries = maxEntries
  bounded : c.entries.size ≤ maxEntries
  recalls : ClockAdvances trace → ∀ now, (∀ x ∈ trace, x.1.now ≤ now) →
    c.Recalls now (accepted trace)

theorem recallsTrace_of_new? {maxEntries : ℕ} (h : new? maxEntries = some c) :
    RecallsTrace maxEntries [] c := by
  unfold new? at h
  split_ifs at h
  cases h
  exact ⟨rfl, Nat.zero_le _, fun _ _ _ => List.Perm.refl _⟩

theorem RecallsTrace.answers {maxEntries : ℕ} {trace : List (CacheCall × Bool)}
    {x : CacheCall × Bool} (h : RecallsTrace maxEntries trace c) (hanswers : c.Answers x c') :
    RecallsTrace maxEntries (trace ++ [x]) c' := by
  refine ⟨hanswers.maxEntries.trans h.limit, ?_, fun hclock now hnow => ?_⟩
  · have hbounded : c.entries.size ≤ c.maxEntries := h.limit ▸ h.bounded
    exact h.limit ▸ hanswers.size_le hbounded
  obtain ⟨hbefore, -, hlast⟩ := List.pairwise_append.1 hclock
  have hrecalls : c.Recalls x.1.now (accepted trace) :=
    h.recalls hbefore x.1.now fun y hy => hlast y hy x (List.mem_singleton.2 rfl)
  have hle : x.1.now ≤ now := hnow x (List.mem_append_right _ (List.mem_singleton.2 rfl))
  have haccepted : accepted (trace ++ [x]) = accepted trace ++ adds x := by
    rw [accepted, accepted, List.flatMap_append, List.flatMap_singleton]
  rw [haccepted]
  exact (hrecalls.answers hanswers).later hle

theorem CacheRun.recallsTrace {maxEntries : ℕ} {before trace : List (CacheCall × Bool)}
    (hrun : CacheRun c trace c') (h : RecallsTrace maxEntries before c) :
    RecallsTrace maxEntries (before ++ trace) c' := by
  have hrecords : RecallsTrace maxEntries (before ++ trace.flatMap fun x => [x]) c' :=
    Runs.Run.records (fun h hanswers => h.answers hanswers) h hrun
  rwa [List.flatMap_singleton'] at hrecords

end InMemoryReplayCache

open InMemoryReplayCache

/-- Over every run of a new cache at times that never go back, a call is accepted exactly when no
accepted call on its `jti` expires after the time of the call and fewer than `maxEntries` accepted
calls do, and there are never more than `maxEntries` entries. -/
theorem cache_refines_history (maxEntries : ℕ) (c c' : InMemoryReplayCache)
    (trace : List (CacheCall × Bool)) (hnew : InMemoryReplayCache.new? maxEntries = some c)
    (hrun : CacheRun c trace c') (hclock : ClockAdvances trace) :
    (∀ pre call answer post, trace = pre ++ (call, answer) :: post →
      (answer = true ↔
        (∀ e, (e, true) ∈ pre → e.jti = call.jti → ¬call.now < e.expiresAt) ∧
        (pre.filter fun x => x.2 && call.now < x.1.expiresAt).length < maxEntries)) ∧
    c'.entries.size ≤ maxEntries := by
  have hinit := recallsTrace_of_new? hnew
  refine ⟨?_, (CacheRun.recallsTrace hrun hinit).bounded⟩
  rintro pre call answer post rfl
  obtain ⟨c₁, hpre, hpost⟩ := Runs.Run.split hrun
  have hrecalls := CacheRun.recallsTrace hpre hinit
  cases hpost with
  | cons first rest =>
    obtain ⟨hbefore, -, hlast⟩ := List.pairwise_append.1 hclock
    have hnow : c₁.Recalls call.now (accepted pre) :=
      hrecalls.recalls hbefore call.now fun x hx => hlast x hx (call, answer) (by simp)
    rw [hnow.answer_iff first, hrecalls.limit, length_filter_accepted]
    simp only [mem_accepted, not_lt]
    rfl

/-! ### A cache of one entry -/

theorem demoSeconds_inRange (seconds : Fin 100) :
    minMicros ≤ (seconds.val : ℤ) * 1000000 ∧ (seconds.val : ℤ) * 1000000 ≤ maxMicros := by
  unfold minMicros maxMicros
  omega

/-- The instant `seconds` after the epoch. -/
def demoInstant (seconds : Fin 100) : DateTime :=
  ⟨(seconds.val : ℤ) * 1000000, (demoSeconds_inRange seconds).1, (demoSeconds_inRange seconds).2⟩

/-- A `jti` that is refused until it expires, recorded again, and keeps another one out. -/
def demoCacheTrace : List (CacheCall × Bool) :=
  [(⟨"seen", demoInstant 10, demoInstant 0⟩, true),
    (⟨"seen", demoInstant 10, demoInstant 9⟩, false),
    (⟨"seen", demoInstant 20, demoInstant 10⟩, true),
    (⟨"newer", demoInstant 30, demoInstant 19⟩, false),
    (⟨"newer", demoInstant 20, demoInstant 20⟩, true)]

theorem cache_refines_history_demo : ∃ c c' : InMemoryReplayCache,
    CacheRun c demoCacheTrace c' ∧ c'.entries.size ≤ 1 := by
  refine ⟨⟨1, le_rfl, Dict.empty⟩, _, .cons rfl (.cons rfl (.cons rfl (.cons rfl (.cons rfl
    (.nil _))))), ?_⟩
  refine (cache_refines_history 1 _ _ demoCacheTrace rfl ?_ ?_).2
  · exact .cons rfl (.cons rfl (.cons rfl (.cons rfl (.cons rfl (.nil _)))))
  · unfold ClockAdvances
    decide

end Gco
