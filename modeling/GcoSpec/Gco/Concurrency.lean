import GcoSpec.Gco.Consumption
import GcoSpec.Library.Runs

/-!
# Concurrent verifications

Calls of `verify` on one verifier with an `InMemoryReplayCache`, in any number and interleaved in
any way. A call samples the shared clock when it starts and runs the other checks at that time; the
cache is consulted later, in one step, with the time that was sampled.

Eviction goes by the time of the call that evicts. So a call with a late sample can remove a token
that a call with an earlier sample, on the same token and still to come, would have met
(`token_accepted_twice`). Without such an eviction a token is accepted at most once
(`accepted_once_of_unevicted`).
-/

namespace Gco

open Python

namespace Concurrency

variable {Key Cert Store : Type}

/-- A call of `verify` that has sampled the clock. -/
structure Call where
  sampled : DateTime
  attestation : Option AttestationModel
  gco : GCO

/-- The clock, the cache, the calls that have started, and those that have returned, the last one
first. -/
structure State where
  clock : DateTime
  cache : InMemoryReplayCache
  pending : List Call
  returned : List (Call × VerificationResult)

/-- No call has started. -/
def State.init (clock : DateTime) (cache : InMemoryReplayCache) : State := ⟨clock, cache, [], []⟩

inductive Event
  | tick (t : DateTime)
  | start (attestation : Option AttestationModel) (gco : GCO)
  | finish (call : Call)

/-- The verifier with the cache of the state. -/
def cached (v : AttestationVerifier Key Cert Store InMemoryReplayCache) :
    AttestationVerifier Key Cert Store InMemoryReplayCache :=
  { v with replayCache := some (InMemoryReplayCache.protocol id fun cache _ => cache) }

variable (env : Externals) (v : AttestationVerifier Key Cert Store InMemoryReplayCache)

/-- What is left of a call after it sampled the clock. -/
def Call.finish (c : Call) : Py Exc InMemoryReplayCache VerificationResult :=
  (cached v).verifyAt env c.sampled c.attestation c.gco

inductive Step : State → Event → State → Prop
  | tick {s : State} {t : DateTime} (h : s.clock ≤ t) : Step s (.tick t) { s with clock := t }
  | start {s : State} (attestation : Option AttestationModel) (gco : GCO) :
      Step s (.start attestation gco)
        { s with pending := ⟨s.clock, attestation, gco⟩ :: s.pending }
  | finish {s : State} {c : Call} {before after : List Call} {r : VerificationResult}
      {cache : InMemoryReplayCache} (hpending : s.pending = before ++ c :: after)
      (hcall : c.finish env v s.cache = .ok r cache) :
      Step s (.finish c) ⟨s.clock, cache, before ++ after, (c, r) :: s.returned⟩
  | raise {s : State} {c : Call} {before after : List Call} {e : Exc}
      {cache : InMemoryReplayCache} (hpending : s.pending = before ++ c :: after)
      (hcall : c.finish env v s.cache = .error e cache) :
      Step s (.finish c) ⟨s.clock, cache, before ++ after, s.returned⟩

/-- The call passes every other check at its time, and consults the cache on the token with this
`jti` and `exp`. -/
def Presents (c : Call) (jti : String) (exp : DateTime) : Prop :=
  jti ≠ "" ∧ ∃ payload, v.checkAttestation env c.sampled c.attestation c.gco =
    .ok (.ok (payload, exp)) ∧ payload.lookup "jti" = some (.str jti)

/-- No two calls on one token both returned `verified=True`. -/
def AcceptedOnce (s : State) : Prop :=
  s.returned.Pairwise fun r r' => ∀ jti exp, Presents env v r.1 jti exp →
    Presents env v r'.1 jti exp → ¬(r.2.verified = true ∧ r'.2.verified = true)

/-- The token of the call was accepted before, and since then a call that sampled its expiry or a
later time has consulted the cache. -/
def Evicted (s : State) (c : Call) : Prop :=
  ∃ jti exp, Presents env v c jti exp ∧ ∃ later r earlier,
    s.returned = later ++ r :: earlier ∧ r.2.verified = true ∧ Presents env v r.1 jti exp ∧
      ∃ r' ∈ later, (∃ jti' exp', Presents env v r'.1 jti' exp') ∧ exp ≤ r'.1.sampled

/-- A step that finishes no call whose token has been evicted. -/
def UnevictedStep (s s' : State) : Prop :=
  ∃ e, Step env v s e s' ∧ ∀ c, e = .finish c → ¬Evicted env v s c

variable {env v}

/-! ### One call -/

theorem presents_iff {c : Call} {jti : String} {exp : DateTime} : Presents env v c jti exp ↔
    (cached v).Presents env c.sampled c.attestation c.gco jti exp := Iff.rfl

theorem replayCache_cached : (cached v).replayCache =
    some (InMemoryReplayCache.protocol id fun cache _ => cache) := rfl

theorem Presents.unique {c : Call} {jti jti' : String} {exp exp' : DateTime}
    (h : Presents env v c jti exp) (h' : Presents env v c jti' exp') : jti = jti' ∧ exp = exp' :=
  (presents_iff.1 h).unique (presents_iff.1 h')

/-- The expiry of a token that is presented is after the time sampled. -/
theorem Presents.lt {c : Call} {jti : String} {exp : DateTime} (h : Presents env v c jti exp) :
    c.sampled < exp :=
  (presents_iff.1 h).lt

/-- A call that presents a token returns what the cache says of it. -/
theorem finish_of_presents {c : Call} {jti : String} {exp : DateTime}
    (h : Presents env v c jti exp) (cache : InMemoryReplayCache) :
    c.finish env v cache =
      .ok (if (cache.checkAndRecord jti exp c.sampled).1 then .ok else replayDetected.result)
        (cache.checkAndRecord jti exp c.sampled).2 :=
  AttestationVerifier.verifyAt_of_presents replayCache_cached (presents_iff.1 h) cache

/-- A call that presents no token leaves the cache as it was, and does not verify. -/
theorem finish_of_not_presents {c : Call} (h : ∀ jti exp, ¬Presents env v c jti exp)
    (cache : InMemoryReplayCache) :
    (∃ r, c.finish env v cache = .ok r cache ∧ r.verified = false) ∨
      ∃ e, c.finish env v cache = .error e cache := by
  rcases AttestationVerifier.verifyAt_of_not_presents replayCache_cached
      (fun jti exp hp => h jti exp (presents_iff.2 hp)) cache with ⟨failure, hf⟩ | he
  · exact .inl ⟨failure.result, hf, rfl⟩
  · exact .inr he

/-! ### What the cache holds -/

/-- A token that was accepted is in the cache, as long as every call since then sampled a time
before its expiry. -/
def Recorded (env : Externals) (v : AttestationVerifier Key Cert Store InMemoryReplayCache)
    (s : State) : Prop :=
  ∀ later r earlier jti exp, s.returned = later ++ r :: earlier → r.2.verified = true →
    Presents env v r.1 jti exp →
    (∀ r' ∈ later, (∃ jti' exp', Presents env v r'.1 jti' exp') → r'.1.sampled < exp) →
      s.cache.entries.get? jti = some exp

theorem recorded_init (clock : DateTime) (cache : InMemoryReplayCache) :
    Recorded env v (State.init clock cache) := by
  intro later r earlier jti exp h
  exact absurd h (by simp [State.init])

theorem Recorded.finish {s : State} (h : Recorded env v s) {c : Call} {r : VerificationResult}
    {cache : InMemoryReplayCache} (hcall : c.finish env v s.cache = .ok r cache)
    (pending : List Call) : Recorded env v ⟨s.clock, cache, pending, (c, r) :: s.returned⟩ := by
  by_cases hp : ∃ jti exp, Presents env v c jti exp
  · obtain ⟨jti, exp, hp⟩ := hp
    rw [finish_of_presents hp, EStateM.Result.ok.injEq] at hcall
    obtain ⟨rfl, rfl⟩ := hcall
    intro later a earlier k t heq ha hk hlater
    show (s.cache.checkAndRecord jti exp c.sampled).2.entries.get? k = some t
    rw [InMemoryReplayCache.get?_checkAndRecord]
    rcases List.cons_eq_append_iff.1 heq with ⟨rfl, hhead⟩ | ⟨later', rfl, htail⟩
    · -- the token that was just accepted
      obtain ⟨rfl, -⟩ := List.cons.inj hhead
      obtain ⟨rfl, rfl⟩ := hp.unique hk
      have haccepted : (s.cache.checkAndRecord jti exp c.sampled).1 = true := by
        by_contra hrefused
        rw [if_neg hrefused] at ha
        cases ha
      rw [if_pos ⟨haccepted, rfl⟩]
    · -- an earlier one was recorded, and is live at the time of this call
      have hget := h later' a earlier k t htail ha hk
        fun r' hr' => hlater r' (List.mem_cons_of_mem _ hr')
      have hlive : s.cache.live c.sampled k = some t := by
        rw [InMemoryReplayCache.live, hget, Option.filter_some,
          if_pos (decide_eq_true (hlater _ List.mem_cons_self ⟨jti, exp, hp⟩))]
      rw [hlive, if_neg]
      rintro ⟨haccepted, rfl⟩
      rw [(InMemoryReplayCache.checkAndRecord_fst.1 haccepted).1] at hlive
      cases hlive
  · push Not at hp
    obtain ⟨r', hr', hfalse⟩ | ⟨e, he⟩ := finish_of_not_presents hp s.cache
    · rw [hr', EStateM.Result.ok.injEq] at hcall
      obtain ⟨rfl, rfl⟩ := hcall
      intro later a earlier k t heq ha hk hlater
      rcases List.cons_eq_append_iff.1 heq with ⟨rfl, hhead⟩ | ⟨later', rfl, htail⟩
      · obtain ⟨rfl, -⟩ := List.cons.inj hhead
        exact absurd hk (hp k t)
      · exact h later' a earlier k t htail ha hk
          fun r' hr' => hlater r' (List.mem_cons_of_mem _ hr')
    · rw [he] at hcall
      cases hcall

/-- A call that raises has not touched the cache. -/
theorem cache_of_raise {c : Call} {cache cache' : InMemoryReplayCache} {e : Exc}
    (hcall : c.finish env v cache = .error e cache') : cache' = cache := by
  by_cases hp : ∃ jti exp, Presents env v c jti exp
  · obtain ⟨jti, exp, hp⟩ := hp
    rw [finish_of_presents hp] at hcall
    cases hcall
  · push Not at hp
    obtain ⟨r, hr, -⟩ | ⟨e', he⟩ := finish_of_not_presents hp cache
    · rw [hr] at hcall
      cases hcall
    · rw [he] at hcall
      cases hcall
      rfl

theorem Recorded.step {s s' : State} {e : Event} (h : Recorded env v s)
    (hstep : Step env v s e s') : Recorded env v s' := by
  cases hstep with
  | tick => exact h
  | start => exact h
  | finish _ hcall => exact h.finish hcall _
  | raise _ hcall =>
    rw [cache_of_raise hcall]
    exact h

/-! ### Runs -/

theorem acceptedOnce_step {s s' : State} (hrecorded : Recorded env v s)
    (honce : AcceptedOnce env v s) (hstep : UnevictedStep env v s s') : AcceptedOnce env v s' := by
  obtain ⟨e, hstep, hunevicted⟩ := hstep
  cases hstep with
  | tick => exact honce
  | start => exact honce
  | raise => exact honce
  | @finish c before after r cache hpending hcall =>
    refine List.pairwise_cons.2 ⟨?_, honce⟩
    rintro a ha jti exp hc hpa ⟨hr, hra⟩
    obtain ⟨later, earlier, heq⟩ := List.append_of_mem ha
    -- the entry of the accepted token is still there, because nothing evicted it
    have hget := hrecorded later a earlier jti exp heq hra hpa fun r' hr' hp' => by
      by_contra hle
      exact hunevicted c rfl
        ⟨jti, exp, hc, later, a, earlier, heq, hra, hpa, r', hr', hp', not_lt.1 hle⟩
    rw [finish_of_presents hc, EStateM.Result.ok.injEq] at hcall
    have haccepted : (s.cache.checkAndRecord jti exp c.sampled).1 = true := by
      by_contra hrefused
      rw [← hcall.1, if_neg hrefused] at hr
      cases hr
    have hlive := (InMemoryReplayCache.checkAndRecord_fst.1 haccepted).1
    rw [InMemoryReplayCache.live, hget, Option.filter_some,
      if_pos (decide_eq_true hc.lt)] at hlive
    cases hlive

/-- In every run that finishes no call whose token was evicted since it was accepted, each token
is accepted at most once: for any number of calls, in any interleaving. -/
theorem accepted_once_of_unevicted (env : Externals)
    (v : AttestationVerifier Key Cert Store InMemoryReplayCache) (clock : DateTime)
    (cache : InMemoryReplayCache) (s : State)
    (hrun : Relation.ReflTransGen (UnevictedStep env v) (State.init clock cache) s) :
    AcceptedOnce env v s := by
  refine (Runs.invariant (I := fun s => Recorded env v s ∧ AcceptedOnce env v s) ?_
    ⟨recorded_init clock cache, List.Pairwise.nil⟩ hrun).2
  rintro s s' ⟨hrecorded, honce⟩ hstep
  exact ⟨hrecorded.step hstep.choose_spec.1, acceptedOnce_step hrecorded honce hstep⟩

/-! ### A late sample evicts a token -/

/-- The call that started last finishes. -/
theorem Step.finish_head {s : State} {c : Call} {rest : List Call} {r : VerificationResult}
    {cache : InMemoryReplayCache} (hpending : s.pending = c :: rest)
    (hcall : c.finish env v s.cache = .ok r cache) :
    Step env v s (.finish c) ⟨s.clock, cache, rest, (c, r) :: s.returned⟩ := by
  have hsplit : s.pending = [] ++ c :: rest := hpending
  have hstep := Step.finish hsplit hcall
  exact hstep

/-- 00:45 on the day of `demoNow`. -/
def demoLater : DateTime := ⟨1767228300000000, by decide, by decide⟩

/-- A call on the token of `demoChild` that starts at 00:00. -/
def demoCall : Call := ⟨demoNow, demoChild.attestation, demoChild⟩

/-- A call on the token of `demoRoot` that starts at 00:45. -/
def demoLaterCall : Call := ⟨demoLater, demoRoot.attestation, demoRoot⟩

theorem presents_demoCall : Presents demoExternals (demoVerifier demoTokens none) demoCall
    "child-jti" demoChild.expiresAt :=
  ⟨by decide, _, checkAttestation_demoChild none (by decide), rfl⟩

theorem presents_demoLaterCall : Presents demoExternals (demoVerifier demoTokens none)
    demoLaterCall "root-jti" demoRoot.expiresAt :=
  ⟨by decide, _, checkAttestation_demoRoot none (by decide), rfl⟩

/-- The cache after the first call, which is accepted. -/
def demoCacheAfter : InMemoryReplayCache :=
  (InMemoryReplayCache.new.checkAndRecord "child-jti" demoChild.expiresAt demoNow).2

theorem finish_demoCall : demoCall.finish demoExternals (demoVerifier demoTokens none) .new =
    .ok .ok demoCacheAfter := by
  rw [finish_of_presents presents_demoCall, if_pos (by decide +kernel)]
  rfl

/-- The cache after the later call. -/
def demoCacheEvicted : InMemoryReplayCache :=
  (demoCacheAfter.checkAndRecord "root-jti" demoRoot.expiresAt demoLater).2

/-- Two calls on one token start at 00:00 and the first is accepted. At 00:45, when the token has
expired, a call on another token evicts it; then the second call is accepted too. -/
theorem token_accepted_twice : ∃ s, Relation.ReflTransGen
      (fun s s' => ∃ e, Step demoExternals (demoVerifier demoTokens none) s e s')
      (State.init demoNow .new) s ∧
    ¬AcceptedOnce demoExternals (demoVerifier demoTokens none) s := by
  have hlater : demoLaterCall.finish demoExternals (demoVerifier demoTokens none) demoCacheAfter =
      .ok .ok demoCacheEvicted := by
    rw [finish_of_presents presents_demoLaterCall, if_pos (by decide +kernel)]
    rfl
  obtain ⟨cache, hsecond⟩ : ∃ cache, demoCall.finish demoExternals
      (demoVerifier demoTokens none) demoCacheEvicted = .ok .ok cache := by
    rw [finish_of_presents presents_demoCall, if_pos (by decide +kernel)]
    exact ⟨_, rfl⟩
  refine ⟨⟨demoLater, cache, [], [(demoCall, .ok), (demoLaterCall, .ok), (demoCall, .ok)]⟩, ?_, ?_⟩
  · -- two calls start, the first one finishes
    refine .head ⟨_, .start demoChild.attestation demoChild⟩ ?_
    refine .head ⟨_, .start demoChild.attestation demoChild⟩ ?_
    refine .head ⟨_, .finish_head rfl finish_demoCall⟩ ?_
    -- time passes, and a third call starts and finishes
    refine .head ⟨_, .tick (t := demoLater) (by decide)⟩ ?_
    refine .head ⟨_, .start demoRoot.attestation demoRoot⟩ ?_
    refine .head ⟨_, .finish_head rfl hlater⟩ ?_
    exact .single ⟨_, .finish_head rfl hsecond⟩
  · intro honce
    exact (List.pairwise_cons.1 honce).1 (demoCall, .ok) (by simp) "child-jti" demoChild.expiresAt
      presents_demoCall presents_demoCall ⟨rfl, rfl⟩

/-- The second call on the token finds the entry of the first. -/
theorem refused_demoCall : ∃ r cache, demoCall.finish demoExternals (demoVerifier demoTokens none)
    demoCacheAfter = .ok r cache ∧ r.verified = false := by
  rw [finish_of_presents presents_demoCall, if_neg (by decide +kernel)]
  exact ⟨_, _, rfl, rfl⟩

/-- Two calls on one token start at 00:00, and both finish before any token is evicted: the second
is refused, and the token is accepted once. -/
theorem accepted_once_demo : ∃ r cache,
    demoCall.finish demoExternals (demoVerifier demoTokens none) demoCacheAfter = .ok r cache ∧
    AcceptedOnce demoExternals (demoVerifier demoTokens none)
      ⟨demoNow, cache, [], [(demoCall, r), (demoCall, .ok)]⟩ := by
  obtain ⟨r, cache, hsecond, -⟩ := refused_demoCall
  refine ⟨r, cache, hsecond, accepted_once_of_unevicted demoExternals
    (demoVerifier demoTokens none) demoNow .new _
    (.head ⟨_, .start demoChild.attestation demoChild, ?_⟩
      (.head ⟨_, .start demoChild.attestation demoChild, ?_⟩
        (.head ⟨_, .finish_head rfl finish_demoCall, ?_⟩
          (.single ⟨_, .finish_head rfl hsecond, ?_⟩))))⟩
  · rintro c ⟨⟩
  · rintro c ⟨⟩
  · -- nothing has been accepted before the first call finishes
    rintro c - ⟨jti, exp, -, later, a, earlier, h, -⟩
    exact absurd h (by simp [State.init])
  · -- no call finished after the first, which is the last that was accepted
    rintro c - ⟨jti, exp, -, later, a, earlier, h, -, -, r', hr', -⟩
    have hlength := congrArg List.length h
    simp only [List.length_append, List.length_cons, State.init, List.length_nil] at hlength
    have hlater : later = [] := List.length_eq_zero_iff.1 (by omega)
    rw [hlater] at hr'
    cases hr'

end Concurrency

end Gco
