import GcoSpec.Gco.Consumption
import GcoSpec.Gco.TrustIsolation

/-!
# Trust domains that share a replay cache

A run of calls of `verify` on one verifier with an `InMemoryReplayCache`, over objects of several
trust domains. The cache is keyed by the `jti` alone, so a token of one domain is refused while an
accepted token of another domain holds its `jti` (`domain_affected`). This is the only way in which
the calls outside a domain change the results of the calls inside it (`domain_unaffected_iff`).
-/

namespace Gco

open Python

namespace Tenancy

variable {Key Cert Store : Type}

/-- A call of `verify`, with the time the clock returns to it. -/
structure Call where
  reading : PyDatetime
  attestation : Option AttestationModel
  gco : GCO

/-- The identity of the object is in the trust domain. -/
def InDomain (domain : String) (c : Call) : Prop := c.gco.trustDomain = some domain

instance (domain : String) : DecidablePred (InDomain domain) := fun c =>
  inferInstanceAs (Decidable (c.gco.trustDomain = some domain))

/-- The clock does not go back. -/
def Monotone (calls : List Call) : Prop :=
  calls.Pairwise fun c c' => ∀ t t', c.reading.toUtc? = some t → c'.reading.toUtc? = some t' →
    t ≤ t'

section Run

variable (env : Externals) (v : AttestationVerifier Key Cert Store InMemoryReplayCache)

def Call.perform (c : Call) : Py Exc InMemoryReplayCache VerificationResult :=
  v.verify env c.attestation c.gco (some (pure c.reading))

/-- The call returns `verified=True`. -/
def Call.verified (cache : InMemoryReplayCache) (c : Call) : Bool :=
  match c.perform env v cache with
  | .ok r _ => r.verified
  | .error _ _ => false

/-- The cache after the call. -/
def Call.after (cache : InMemoryReplayCache) (c : Call) : InMemoryReplayCache :=
  match c.perform env v cache with
  | .ok _ cache' => cache'
  | .error _ cache' => cache'

/-- The calls of a run with their results. -/
def outcomes : InMemoryReplayCache → List Call → List (Call × Bool)
  | _, [] => []
  | cache, c :: calls => (c, c.verified env v cache) :: outcomes (c.after env v cache) calls

/-- The caches a run passes through. -/
def caches : InMemoryReplayCache → List Call → List InMemoryReplayCache
  | cache, [] => [cache]
  | cache, c :: calls => cache :: caches (c.after env v cache) calls

/-- The call passes every check but that of the cache, at the time `now`. -/
def Call.Presents (c : Call) (now : DateTime) (jti : String) (exp : DateTime) : Prop :=
  c.reading.toUtc? = some now ∧ v.Presents env now c.attestation c.gco jti exp

/-- The call presents the `jti` of a token that an earlier call was accepted with, before that token
expires. -/
def Holds (earlier : Call × Bool) (c : Call) : Prop :=
  earlier.2 = true ∧ ∃ jti exp exp' before now, earlier.1.Presents env v before jti exp ∧
    c.Presents env v now jti exp' ∧ now < exp

/-- No accepted call outside the domain holds the `jti` of a later call inside it. -/
def Unheld (domain : String) (run : List (Call × Bool)) : Prop :=
  run.Pairwise fun p q => ¬InDomain domain p.1 → InDomain domain q.1 → ¬Holds env v p q.1

end Run

variable {env : Externals} {v : AttestationVerifier Key Cert Store InMemoryReplayCache}

/-! ### One call -/

theorem Call.Presents.unique {c : Call} {now now' exp exp' : DateTime} {jti jti' : String}
    (h : c.Presents env v now jti exp) (h' : c.Presents env v now' jti' exp') :
    now = now' ∧ jti = jti' ∧ exp = exp' := by
  obtain ⟨hnow, h⟩ := h
  obtain ⟨hnow', h'⟩ := h'
  rw [hnow, Option.some.injEq] at hnow'
  subst hnow'
  exact ⟨rfl, h.unique h'⟩

theorem perform_eq (env : Externals) (v : AttestationVerifier Key Cert Store InMemoryReplayCache)
    (c : Call) (cache : InMemoryReplayCache) : c.perform env v cache = match c.reading.toUtc? with
      | none => .error (.overflowError "date value out of range") cache
      | some t => v.verifyAt env t c.attestation c.gco cache :=
  verify_apply env v c.attestation c.gco c.reading rfl

/-- A call that presents a token is decided by the cache. -/
theorem perform_of_presents (hv : v.replayCache = some wholeState) {c : Call} {now exp : DateTime}
    {jti : String} (h : c.Presents env v now jti exp) (cache : InMemoryReplayCache) :
    c.verified env v cache = (cache.checkAndRecord jti exp now).1 ∧
      c.after env v cache = (cache.checkAndRecord jti exp now).2 := by
  obtain ⟨hnow, h⟩ := h
  have hperform := perform_eq env v c cache
  rw [hnow] at hperform
  dsimp only at hperform
  rw [AttestationVerifier.verifyAt_of_presents hv h, id_eq] at hperform
  rw [Call.verified, Call.after, hperform]
  cases (cache.checkAndRecord jti exp now).1 <;> exact ⟨rfl, rfl⟩

/-- A call that presents none is not verified, and does not touch the cache. -/
theorem perform_of_not_presents (hv : v.replayCache = some wholeState) {c : Call}
    (h : ∀ now jti exp, ¬c.Presents env v now jti exp) (cache : InMemoryReplayCache) :
    c.verified env v cache = false ∧ c.after env v cache = cache := by
  have hperform := perform_eq env v c cache
  rw [Call.verified, Call.after]
  cases hnow : c.reading.toUtc? with
  | none =>
    rw [hnow] at hperform
    rw [hperform]
    exact ⟨rfl, rfl⟩
  | some now =>
    rw [hnow] at hperform
    dsimp only at hperform
    rcases AttestationVerifier.verifyAt_of_not_presents hv
        (fun jti exp hp => h now jti exp ⟨hnow, hp⟩) cache with ⟨failure, hf⟩ | ⟨e, he⟩
    · rw [hperform, hf]
      exact ⟨rfl, rfl⟩
    · rw [hperform, he]
      exact ⟨rfl, rfl⟩

theorem forall_mem_outcomes {P : Call → Prop} {cache : InMemoryReplayCache} {calls : List Call} :
    (∀ q ∈ outcomes env v cache calls, P q.1) ↔ ∀ c ∈ calls, P c := by
  induction calls generalizing cache with
  | nil => simp [outcomes]
  | cons c calls ih => rw [outcomes, List.forall_mem_cons, List.forall_mem_cons, ih]

/-! ### The caches of two runs -/

/-- The cache of a run, and that of the run without the calls outside a domain, as far as the times
`reached` can still tell: they differ in the entries that calls outside the domain `held`. -/
structure Agree (held : String → DateTime → Prop) (reached : DateTime → Prop)
    (full part : InMemoryReplayCache) : Prop where
  maxEntries : part.maxEntries = full.maxEntries
  live : ∀ t, reached t → ∀ k, part.live t k = full.live t k ∨
    part.live t k = none ∧ ∃ exp, full.live t k = some exp ∧ held k exp
  held : ∀ t, reached t → ∀ k exp, held k exp → t < exp →
    full.live t k = some exp ∧ part.live t k = none

namespace Agree

variable {held : String → DateTime → Prop} {reached : DateTime → Prop}
  {full part : InMemoryReplayCache} {now exp : DateTime} {jti : String}

theorem refl (reached : DateTime → Prop) (cache : InMemoryReplayCache) :
    Agree (fun _ _ => False) reached cache cache where
  maxEntries := rfl
  live _ _ _ := .inl rfl
  held _ _ _ _ h := h.elim

/-- What is live in the smaller cache is live in the other. -/
theorem live_ne_none (h : Agree held reached full part) (hnow : reached now) {k : String}
    (hk : part.live now k ≠ none) : full.live now k ≠ none := by
  rcases h.live now hnow k with heq | ⟨hnone, -⟩
  · rwa [← heq]
  · exact absurd hnone hk

/-- The smaller cache has room when the other has. -/
theorem room (h : Agree held reached full part) (hnow : reached now)
    (hroom : full.entries.size < full.maxEntries) :
    (full.evictExpired now).entries.size < full.maxEntries ∧
      (part.evictExpired now).entries.size < part.maxEntries := by
  have hfull : (full.evictExpired now).entries.size ≤ full.entries.size := Dict.size_filter_le _ _
  have hpart : (part.evictExpired now).entries.size ≤ (full.evictExpired now).entries.size :=
    InMemoryReplayCache.size_evictExpired_le fun k => h.live_ne_none hnow
  have hmax := h.maxEntries
  omega

/-- The times after a call. -/
def after (reached : DateTime → Prop) (now : DateTime) (t : DateTime) : Prop := reached t ∧ now ≤ t

/-- A call outside the domain that is accepted holds its `jti` from then on. -/
theorem hold (h : Agree held reached full part)
    (haccepted : (full.checkAndRecord jti exp now).1 = true) :
    Agree (fun k e => held k e ∨ k = jti ∧ e = exp) (after reached now)
      (full.checkAndRecord jti exp now).2 part where
  maxEntries := by rw [InMemoryReplayCache.maxEntries_checkAndRecord, h.maxEntries]
  live := by
    rintro t ⟨ht, hle⟩ k
    rw [full.live_checkAndRecord_of_le jti exp hle]
    by_cases hk : k = jti
    · subst hk
      rw [if_pos ⟨haccepted, rfl⟩]
      have hnone := InMemoryReplayCache.live_eq_none_of_le hle
        (InMemoryReplayCache.checkAndRecord_fst.1 haccepted).1
      have hpart : part.live t k = none := by
        by_contra hne
        exact h.live_ne_none ht hne hnone
      by_cases hlt : t < exp
      · rw [if_pos hlt]
        exact .inr ⟨hpart, exp, rfl, .inr ⟨rfl, rfl⟩⟩
      · rw [if_neg hlt]
        exact .inl hpart
    · rw [if_neg fun hboth => hk hboth.2]
      refine (h.live t ht k).imp_right ?_
      rintro ⟨hnone, e, hlive, hheld⟩
      exact ⟨hnone, e, hlive, .inl hheld⟩
  held := by
    rintro t ⟨ht, hle⟩ k e hheld hlt
    have hnone := InMemoryReplayCache.live_eq_none_of_le hle
      (InMemoryReplayCache.checkAndRecord_fst.1 haccepted).1
    rw [full.live_checkAndRecord_of_le jti exp hle]
    rcases hheld with hheld | ⟨rfl, rfl⟩
    · obtain ⟨hfull, hpart⟩ := h.held t ht k e hheld hlt
      have hk : k ≠ jti := by
        rintro rfl
        rw [hnone] at hfull
        cases hfull
      rw [if_neg fun hboth => hk hboth.2]
      exact ⟨hfull, hpart⟩
    · rw [if_pos ⟨haccepted, rfl⟩, if_pos hlt]
      refine ⟨rfl, ?_⟩
      by_contra hne
      exact h.live_ne_none ht hne hnone

/-- A refused call changes nothing that is live. -/
theorem refuse (h : Agree held reached full part)
    (hrefused : (full.checkAndRecord jti exp now).1 = false) :
    Agree held (after reached now) (full.checkAndRecord jti exp now).2 part where
  maxEntries := by rw [InMemoryReplayCache.maxEntries_checkAndRecord, h.maxEntries]
  live := by
    rintro t ⟨ht, hle⟩ k
    rw [full.live_checkAndRecord_of_le jti exp hle, hrefused, if_neg (by simp)]
    exact h.live t ht k
  held := by
    rintro t ⟨ht, hle⟩ k e hheld hlt
    rw [full.live_checkAndRecord_of_le jti exp hle, hrefused, if_neg (by simp)]
    exact h.held t ht k e hheld hlt

/-- A call inside the domain that both caches decide alike. -/
theorem both (h : Agree held reached full part)
    (hsame : (part.checkAndRecord jti exp now).1 = (full.checkAndRecord jti exp now).1) :
    Agree held (after reached now) (full.checkAndRecord jti exp now).2
      (part.checkAndRecord jti exp now).2 where
  maxEntries := by
    rw [InMemoryReplayCache.maxEntries_checkAndRecord,
      InMemoryReplayCache.maxEntries_checkAndRecord, h.maxEntries]
  live := by
    rintro t ⟨ht, hle⟩ k
    rw [full.live_checkAndRecord_of_le jti exp hle, part.live_checkAndRecord_of_le jti exp hle,
      hsame]
    split_ifs
    · exact .inl rfl
    · exact .inl rfl
    · exact h.live t ht k
  held := by
    rintro t ⟨ht, hle⟩ k e hheld hlt
    obtain ⟨hfull, hpart⟩ := h.held t ht k e hheld hlt
    -- an entry that is held is live, so it is not the one that was accepted
    have hother : ¬((full.checkAndRecord jti exp now).1 = true ∧ k = jti) := by
      rintro ⟨haccepted, rfl⟩
      rw [InMemoryReplayCache.live_eq_none_of_le hle
        (InMemoryReplayCache.checkAndRecord_fst.1 haccepted).1] at hfull
      cases hfull
    rw [full.live_checkAndRecord_of_le jti exp hle, part.live_checkAndRecord_of_le jti exp hle,
      hsame, if_neg hother, if_neg hother]
    exact ⟨hfull, hpart⟩

/-- The two caches decide a call alike unless its `jti` is held. -/
theorem decide_alike_iff (h : Agree held reached full part) (hnow : reached now)
    (hroom : full.entries.size < full.maxEntries) :
    (part.checkAndRecord jti exp now).1 = (full.checkAndRecord jti exp now).1 ↔
      ∀ e, held jti e → e ≤ now := by
  obtain ⟨hfullRoom, hpartRoom⟩ := h.room hnow hroom
  have hfull : (full.checkAndRecord jti exp now).1 = true ↔ full.live now jti = none := by
    rw [InMemoryReplayCache.checkAndRecord_fst, and_iff_left hfullRoom]
  have hpart : (part.checkAndRecord jti exp now).1 = true ↔ part.live now jti = none := by
    rw [InMemoryReplayCache.checkAndRecord_fst, and_iff_left hpartRoom]
  rw [Bool.eq_iff_iff, hfull, hpart]
  constructor
  · intro hsame e hheld
    by_contra hlt
    obtain ⟨hlive, hnone⟩ := h.held now hnow jti e hheld (not_le.1 hlt)
    rw [hsame.1 hnone] at hlive
    cases hlive
  · intro hunheld
    rcases h.live now hnow jti with heq | ⟨-, e, hlive, hheld⟩
    · rw [heq]
    · -- an entry that is live expires later
      rw [InMemoryReplayCache.live, Option.filter_eq_some_iff] at hlive
      exact absurd (hunheld e hheld) (not_le.2 (by simpa using hlive.2))

end Agree

/-! ### Two runs -/

/-- No entry that is held is still alive when a call of the domain presents its `jti`. -/
def Clear (env : Externals) (v : AttestationVerifier Key Cert Store InMemoryReplayCache)
    (domain : String) (held : String → DateTime → Prop) (c : Call) : Prop :=
  InDomain domain c → ∀ jti exp e now, c.Presents env v now jti exp → held jti e → e ≤ now

/-- A call outside the domain that was accepted is clear of the later calls when they are clear of
what it holds. -/
theorem clear_held_iff {domain : String} {held : String → DateTime → Prop} {p : Call} {jti : String}
    {exp now : DateTime} (hp : p.Presents env v now jti exp) (hout : ¬InDomain domain p)
    {c : Call} :
    Clear env v domain (fun k e => held k e ∨ k = jti ∧ e = exp) c ↔
      Clear env v domain held c ∧
        (¬InDomain domain p → InDomain domain c → ¬Holds env v (p, true) c) := by
  constructor
  · intro h
    refine ⟨fun hc k exp' e t hpresents hheld => h hc k exp' e t hpresents (.inl hheld), ?_⟩
    rintro - hc ⟨-, k, e, e', t₀, t, hk, hpresents, hlt⟩
    obtain ⟨-, rfl, rfl⟩ := hp.unique hk
    exact absurd (h hc _ _ _ _ hpresents (.inr ⟨rfl, rfl⟩)) (not_le.2 hlt)
  · rintro ⟨hheld, hholds⟩ hc k e' e t hpresents (h | ⟨rfl, rfl⟩)
    · exact hheld hc k e' e t hpresents h
    · by_contra hlt
      exact hholds hout hc ⟨rfl, k, e, e', now, t, hp, hpresents, not_le.1 hlt⟩

/-- A call that was refused holds nothing. -/
theorem not_holds_of_refused (c d : Call) : ¬Holds env v (c, false) d := by
  rintro ⟨hfalse, -⟩
  cases hfalse

theorem monotone_cons {c : Call} {calls : List Call} (h : Monotone (c :: calls)) {now : DateTime}
    (hnow : c.reading.toUtc? = some now) {reached : DateTime → Prop}
    (hreached : ∀ d ∈ calls, ∀ t, d.reading.toUtc? = some t → reached t) :
    ∀ d ∈ calls, ∀ t, d.reading.toUtc? = some t → Agree.after reached now t := fun d hd t ht =>
  ⟨hreached d hd t ht, (List.pairwise_cons.1 h).1 d hd now t hnow ht⟩

/-- The results inside the domain do not change exactly when every call inside it is clear of what
calls outside it hold. -/
theorem outcomes_filter_eq_iff (hv : v.replayCache = some wholeState) (domain : String)
    {calls : List Call} {held : String → DateTime → Prop} {reached : DateTime → Prop}
    {full part : InMemoryReplayCache} (hagree : Agree held reached full part)
    (hreached : ∀ c ∈ calls, ∀ t, c.reading.toUtc? = some t → reached t)
    (hmono : Monotone calls)
    (hroom : ∀ cache ∈ caches env v full calls, cache.entries.size < cache.maxEntries) :
    outcomes env v part (calls.filter fun c => InDomain domain c) =
        (outcomes env v full calls).filter (fun o => InDomain domain o.1) ↔
      (∀ c ∈ calls, Clear env v domain held c) ∧
        Unheld env v domain (outcomes env v full calls) := by
  induction calls generalizing held reached full part with
  | nil => simp [outcomes, Unheld]
  | cons c calls ih =>
    obtain ⟨hreachedHead, hreachedTail⟩ := List.forall_mem_cons.1 hreached
    obtain ⟨hroomHead, hroomTail⟩ := List.forall_mem_cons.1 hroom
    have hmonoTail : Monotone calls := (List.pairwise_cons.1 hmono).2
    -- what the first call must be clear of, and what must be clear of it
    have hunheld : Unheld env v domain (outcomes env v full (c :: calls)) ↔
        (∀ d ∈ calls, ¬InDomain domain c → InDomain domain d →
          ¬Holds env v (c, c.verified env v full) d) ∧
        Unheld env v domain (outcomes env v (c.after env v full) calls) := by
      rw [outcomes, Unheld, List.pairwise_cons, forall_mem_outcomes
        (P := fun d => ¬InDomain domain c → InDomain domain d → ¬Holds env v _ d)]
      rfl
    rw [hunheld, List.forall_mem_cons]
    by_cases hpresents : ∃ now jti exp, c.Presents env v now jti exp
    · obtain ⟨now, jti, exp, hp⟩ := hpresents
      have hnow : reached now := hreachedHead now hp.1
      obtain ⟨hverified, hafter⟩ := perform_of_presents hv hp full
      have htimes := monotone_cons hmono hp.1 hreachedTail
      rw [hafter] at hroomTail ⊢
      by_cases hin : InDomain domain c
      · -- a call inside the domain is in both runs
        obtain ⟨hverifiedPart, hafterPart⟩ := perform_of_presents hv hp part
        have hclear : Clear env v domain held c ↔ ∀ e, held jti e → e ≤ now := by
          constructor
          · intro h e
            exact h hin jti exp e now hp
          · rintro h - k e' e t hk
            obtain ⟨rfl, rfl, rfl⟩ := hp.unique hk
            exact h e
        rw [List.filter_cons_of_pos (by simpa using hin), outcomes, outcomes,
          List.filter_cons_of_pos (by simpa using hin), List.cons_eq_cons, hverifiedPart,
          hafterPart, hverified, hafter, hclear, ← hagree.decide_alike_iff hnow hroomHead,
          Prod.mk.injEq, and_iff_right rfl]
        by_cases hsame : (part.checkAndRecord jti exp now).1 = (full.checkAndRecord jti exp now).1
        · rw [ih (hagree.both hsame) htimes hmonoTail hroomTail, and_iff_right hsame,
            and_iff_right hsame]
          have hskip : ∀ d ∈ calls, ¬InDomain domain c → InDomain domain d →
              ¬Holds env v (c, (full.checkAndRecord jti exp now).1) d :=
            fun d _ hout => absurd hin hout
          rw [and_iff_right hskip]
        · simp [hsame]
      · -- a call outside it is only in the full run
        have hclear : Clear env v domain held c := fun h => absurd h hin
        rw [List.filter_cons_of_neg (by simpa using hin), outcomes,
          List.filter_cons_of_neg (by simpa using hin), hafter, and_iff_right hclear, hverified]
        cases haccepted : (full.checkAndRecord jti exp now).1 with
        | true =>
          rw [ih (hagree.hold haccepted) htimes hmonoTail hroomTail, ← and_assoc,
            ← forall₂_and]
          simp only [clear_held_iff hp hin]
        | false =>
          have hskip : ∀ d ∈ calls, ¬InDomain domain c → InDomain domain d →
              ¬Holds env v (c, false) d := fun d _ _ _ => not_holds_of_refused c d
          rw [ih (hagree.refuse haccepted) htimes hmonoTail hroomTail, and_iff_right hskip]
    · -- a call that presents nothing touches no cache
      push Not at hpresents
      obtain ⟨hverified, hafter⟩ := perform_of_not_presents hv hpresents full
      have hclear : Clear env v domain held c :=
        fun _ k e' e t hk => absurd hk (hpresents t k e')
      have hskip : ∀ d ∈ calls, ¬InDomain domain c → InDomain domain d →
          ¬Holds env v (c, false) d := fun d _ _ _ => not_holds_of_refused c d
      rw [hafter] at hroomTail
      rw [hafter, hverified, and_iff_right hclear, and_iff_right hskip,
        ← ih hagree hreachedTail hmonoTail hroomTail]
      by_cases hin : InDomain domain c
      · obtain ⟨hverifiedPart, hafterPart⟩ := perform_of_not_presents hv hpresents part
        rw [List.filter_cons_of_pos (by simpa using hin), outcomes, outcomes,
          List.filter_cons_of_pos (by simpa using hin), List.cons_eq_cons, hverifiedPart,
          hafterPart, hverified, hafter, and_iff_right rfl]
      · rw [List.filter_cons_of_neg (by simpa using hin), outcomes,
          List.filter_cons_of_neg (by simpa using hin), hafter]

/-- Deleting the calls outside a trust domain from a run leaves the results of the calls inside it
unchanged exactly when none of these presents a `jti` that an accepted call outside the domain
still holds. -/
theorem domain_unaffected_iff (env : Externals)
    (v : AttestationVerifier Key Cert Store InMemoryReplayCache)
    (hv : v.replayCache = some wholeState) (domain : String) (cache : InMemoryReplayCache)
    (calls : List Call) (hmono : Monotone calls)
    (hroom : ∀ c ∈ caches env v cache calls, c.entries.size < c.maxEntries) :
    outcomes env v cache (calls.filter fun c => InDomain domain c) =
        (outcomes env v cache calls).filter (fun o => InDomain domain o.1) ↔
      Unheld env v domain (outcomes env v cache calls) := by
  rw [outcomes_filter_eq_iff hv domain (Agree.refl (fun _ => True) cache)
    (fun _ _ _ _ => trivial) hmono hroom]
  exact and_iff_right fun c _ hin jti exp e now hp hheld => hheld.elim

/-! ### Two domains that chose the same `jti` -/

/-- An object of another domain. -/
def demoForeign : GCO :=
  { demoRoot with modelIdentity := ⟨"spiffe://other.example/agent", by decide⟩ }

/-- A JWS over `sub`, `gco_hash`, `exp` and `jti` for `demoForeign`, with the `jti` of
`demoRootToken`. -/
def demoForeignToken : String :=
  "eyJhbGciOiJFUzI1NiIsImtpZCI6ImsxIiwidHlwIjoiSldUIn0.eyJzdWIiOiJzcGlmZmU6Ly9vdGhlci5leGFtcG" ++
    "xlL2FnZW50IiwiZ2NvX2hhc2giOiIxNmZlYjk0OTc2Yzc4NDNjY2YwZGVkZDJmNjRjMjM5NGIwOTA4YjhmNmUzYWQw" ++
    "MTJhMDM5MWI1NGMzZjcwYzFlIiwiZXhwIjoxNzY3MjI5MjAwLCJqdGkiOiJyb290LWp0aSJ9.BjFZ5nWYscml44anT" ++
    "qRpEQH4VpH8TBjk0ccp3nibH6zRJI-Tk7zlkxIzYF-qD00aFZM-hnLBYWGAtNWKg3TTxg"

def demoForeignPayload : Payload :=
  ("sub", .str "spiffe://other.example/agent") ::
    ("gco_hash", .str (canonicalDigest demoExternals demoForeign)) :: demoRootClaims

theorem demoForeignToken_ne_empty : demoForeignToken ≠ "" := by decide +kernel

theorem demoForeignToken_ne_demoRootToken : demoForeignToken ≠ demoRootToken := by decide +kernel

/-- A verifier that trusts both domains. -/
def demoSharedVerifier : AttestationVerifier Unit Unit Unit InMemoryReplayCache :=
  (demoVerifier [(demoRootToken, demoPayload demoRoot demoRootClaims),
    (demoForeignToken, demoForeignPayload)] (some wholeState)).withBundle demoSharedBundle

theorem lookup_demoForeignToken :
    [(demoRootToken, demoPayload demoRoot demoRootClaims),
      (demoForeignToken, demoForeignPayload)].lookup demoForeignToken =
        some demoForeignPayload := by
  rw [Dict.lookup_cons_ite, if_neg demoForeignToken_ne_demoRootToken, List.lookup_cons_self]

theorem checkAttestation_demoShared :
    demoSharedVerifier.checkAttestation demoExternals demoNow demoRoot.attestation demoRoot =
      .ok (.ok (demoPayload demoRoot demoRootClaims, demoRoot.expiresAt)) := by
  refine AttestationVerifier.checkAttestation_of_agree (decodesUnverified_tokenCrypto _)
    (fun domain hdomain => agree_demoSharedBundle hdomain) ?_
  exact checkAttestation_demo (some wholeState) demoRootToken_ne_empty rfl serializable_demoRoot
    List.lookup_cons_self not_tooLargeForDouble_demoRoot fromTimestamp_demoRoot (by decide)

theorem jwtSvidPayload_demoShared {tokens : List (String × Payload)} {token : String}
    {payload : Payload} (h : tokens.lookup token = some payload)
    (hsub : payload.lookup "sub" = some (.str "spiffe://other.example/agent")) :
    ((demoVerifier tokens (some wholeState)).withBundle demoSharedBundle).jwtSvidPayload token =
      .ok payload := by
  have hdomain : trustDomain (some (.str "spiffe://other.example/agent")) =
      some "other.example" := by decide
  have hkey : demoSharedBundle.domains.get? "other.example" =
      some ⟨Dict.ofPairs [("k1", ())], [()], some ()⟩ := rfl
  have hselect : selectJwk
      (⟨Dict.ofPairs [("k1", ())], [()], some ()⟩ : TrustDomainBundle Unit Unit Unit) demoHeader =
        .ok () := rfl
  have hdecode := decodeWithKey_demo h
  unfold AttestationVerifier.jwtSvidPayload
  simp only [AttestationVerifier.withBundle, demoVerifier, tokenCrypto, h, Option.map_some, hsub,
    hdomain, Option.bind_some, hkey]
  rw [hselect]
  exact hdecode

theorem jwtSvidPayload_demoForeign :
    demoSharedVerifier.jwtSvidPayload demoForeignToken = .ok demoForeignPayload :=
  jwtSvidPayload_demoShared lookup_demoForeignToken rfl

theorem checkAttestation_demoForeign :
    demoSharedVerifier.checkAttestation demoExternals demoNow
        (some ⟨.jwtSvid, demoForeignToken, none⟩) demoForeign =
      .ok (.ok (demoForeignPayload, demoRoot.expiresAt)) := by
  refine AttestationVerifier.checkAttestation_eq_ok_iff.2 ⟨none, ?_, ?_, ?_⟩
  · simp only [AttestationVerifier.attestedPayload, if_neg demoForeignToken_ne_empty,
      jwtSvidPayload_demoForeign]
    rfl
  · exact checkSubject_eq_ok_iff.2 ⟨rfl, serializable_demoRoot, rfl, rfl⟩
  · refine checkTimes_eq_ok_iff.2 ⟨⟨.int 1767229200, rfl, ?_, fromTimestamp_demoRoot⟩, by decide,
      .inl rfl, .inl rfl⟩
    rw [isfinite, if_neg not_tooLargeForDouble_demoRoot]

def demoForeignCall : Call := ⟨demoNow.toPy, some ⟨.jwtSvid, demoForeignToken, none⟩, demoForeign⟩

def demoRootCall : Call := ⟨demoNow.toPy, demoRoot.attestation, demoRoot⟩

theorem presents_demoForeignCall : demoForeignCall.Presents demoExternals demoSharedVerifier demoNow
    "root-jti" demoRoot.expiresAt :=
  ⟨PyDatetime.toUtc?_toPy demoNow, by decide, _, checkAttestation_demoForeign, rfl⟩

theorem presents_demoRootCall : demoRootCall.Presents demoExternals demoSharedVerifier demoNow
    "root-jti" demoRoot.expiresAt :=
  ⟨PyDatetime.toUtc?_toPy demoNow, by decide, _, checkAttestation_demoShared, rfl⟩

theorem inDomain_demoRootCall : InDomain "example.org" demoRootCall := by decide

theorem not_inDomain_demoForeignCall : ¬InDomain "example.org" demoForeignCall := by decide

/-- Two calls at one time. -/
theorem monotone_demo (c c' : Call) (h : c.reading = demoNow.toPy)
    (h' : c'.reading = demoNow.toPy) : Monotone [c, c'] := by
  refine List.pairwise_cons.2 ⟨?_, List.pairwise_singleton _ _⟩
  intro d hd t t' ht ht'
  obtain rfl := List.mem_singleton.1 hd
  rw [h] at ht
  rw [h', ht, Option.some.injEq] at ht'
  exact le_of_eq ht'

/-- A token of `other.example` is accepted, and then the token of `demoRoot`, which has the same
`jti`, is refused; without the first call it is accepted. -/
theorem domain_affected :
    Monotone [demoForeignCall, demoRootCall] ∧
      (∀ c ∈ caches demoExternals demoSharedVerifier .new [demoForeignCall, demoRootCall],
        c.entries.size < c.maxEntries) ∧
      outcomes demoExternals demoSharedVerifier .new
          ([demoForeignCall, demoRootCall].filter fun c => InDomain "example.org" c) ≠
        (outcomes demoExternals demoSharedVerifier .new [demoForeignCall, demoRootCall]).filter
          fun o => InDomain "example.org" o.1 := by
  have hv : demoSharedVerifier.replayCache = some wholeState := rfl
  have hforeign := perform_of_presents hv presents_demoForeignCall
  have hroot := perform_of_presents hv presents_demoRootCall
  refine ⟨monotone_demo _ _ rfl rfl, ?_, ?_⟩
  · rw [caches, caches, caches, (hforeign _).2, (hroot _).2]
    simp only [List.forall_mem_cons, List.not_mem_nil, false_implies, implies_true, and_true]
    decide
  · rw [List.filter_cons_of_neg (by simpa using not_inDomain_demoForeignCall),
      List.filter_cons_of_pos (by simpa using inDomain_demoRootCall), List.filter_nil, outcomes,
      outcomes, outcomes, outcomes, outcomes, List.filter_cons_of_neg (by
        simpa using not_inDomain_demoForeignCall), List.filter_cons_of_pos (by
        simpa using inDomain_demoRootCall), (hroot _).1, (hroot _).1, (hforeign _).2]
    intro h
    have hresults := (Prod.mk.inj (List.cons.inj h).1).2
    exact absurd hresults (by decide)

/-- In the other order the token of `demoRoot` comes first, and is not affected. -/
theorem domain_unaffected_demo :
    outcomes demoExternals demoSharedVerifier .new
        ([demoRootCall, demoForeignCall].filter fun c => InDomain "example.org" c) =
      (outcomes demoExternals demoSharedVerifier .new [demoRootCall, demoForeignCall]).filter
        fun o => InDomain "example.org" o.1 := by
  have hv : demoSharedVerifier.replayCache = some wholeState := rfl
  refine (domain_unaffected_iff demoExternals demoSharedVerifier hv "example.org" .new
    [demoRootCall, demoForeignCall] (monotone_demo _ _ rfl rfl) ?_).2 ?_
  · rw [caches, caches, caches, (perform_of_presents hv presents_demoRootCall _).2,
      (perform_of_presents hv presents_demoForeignCall _).2]
    simp only [List.forall_mem_cons, List.not_mem_nil, false_implies, implies_true, and_true]
    decide
  · refine List.pairwise_cons.2 ⟨?_, List.pairwise_singleton _ _⟩
    intro q _ hout
    exact absurd inDomain_demoRootCall hout

end Tenancy

end Gco
