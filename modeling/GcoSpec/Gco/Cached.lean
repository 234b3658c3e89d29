import GcoSpec.Gco.Decisions

/-!
# A runtime with a replay cache

`Config.withCache` is the runtime of a configuration with an `InMemoryReplayCache` put among the
objects of the caller, where nothing but the verifier touches it. What verifies is then what
verified before and has a `jti` that the cache accepts (`verifies_withCache_iff`), and this only
once (`not_verifies_again`).
-/

namespace Gco

open Python

variable {Key Cert Store V Ω α : Type}

/-- A call that does not touch the cache. -/
def besideCache (x : Py Exc (World V Ω) α) :
    Py Exc (World V (InMemoryReplayCache × Ω)) α := fun w =>
  match x ⟨w.store, w.host.2⟩ with
  | .ok a w' => .ok a ⟨w'.store, (w.host.1, w'.host)⟩
  | .error e w' => .error e ⟨w'.store, (w.host.1, w'.host)⟩

/-- The cache among the objects of the caller. -/
def hostCache : ReplayCache (InMemoryReplayCache × Ω) :=
  InMemoryReplayCache.protocol Prod.fst fun cache host => (cache, host.2)

/-- The objects, with a cache. -/
def World.withCache (w : World V Ω) (cache : InMemoryReplayCache) :
    World V (InMemoryReplayCache × Ω) := ⟨w.store, (cache, w.host)⟩

namespace Config

/-- The same runtime with a replay cache. It is used on `str` keys only. -/
def withCache (cfg : Config Key Cert Store V Ω) :
    Config Key Cert Store V (InMemoryReplayCache × Ω) where
  crypto := cfg.crypto
  trustBundle := cfg.trustBundle
  expectedAudience := cfg.expectedAudience
  replayCache := some hostCache
  issue := cfg.issue.map fun issue identity data => besideCache (issue identity data)
  uuid4 := besideCache cfg.uuid4
  readObject _ _ _ := throw (.typeError "unhashable type")
  writeObject _ _ _ _ := throw (.typeError "unhashable type")

/-- The attestation passes every check but that of the replay cache. -/
def Attested (cfg : Config Key Cert Store V Ω) (env : Externals) (now : PyDatetime) (g : GCO) :
    Prop :=
  ∃ payload exp, cfg.Attests env now g payload exp

variable {cfg : Config Key Cert Store V Ω} {env : Externals} {now : PyDatetime} {g : GCO}
  {payload payload' : Payload} {exp exp' : DateTime}

/-- The checks do not depend on the cache. -/
theorem attests_withCache_iff :
    cfg.withCache.Attests env now g payload exp ↔ cfg.Attests env now g payload exp := Iff.rfl

theorem Attests.unique (h : cfg.Attests env now g payload exp)
    (h' : cfg.Attests env now g payload' exp') : payload = payload' ∧ exp = exp' := by
  obtain ⟨t, ht, hcheck⟩ := h
  obtain ⟨t', ht', hcheck'⟩ := h'
  rw [ht, Option.some.injEq] at ht'
  subst ht'
  rw [hcheck] at hcheck'
  cases hcheck'
  exact ⟨rfl, rfl⟩

/-- The checks leave the payload of a token that has not expired. -/
theorem Attests.lt {t : DateTime} (h : cfg.Attests env now g payload exp)
    (ht : now.toUtc? = some t) : t < exp := by
  obtain ⟨t', ht', hcheck⟩ := h
  rw [ht, Option.some.injEq] at ht'
  subst ht'
  obtain ⟨sub, -, -, htimes⟩ := AttestationVerifier.checkAttestation_eq_ok_iff.1 hcheck
  exact (checkTimes_eq_ok_iff.1 htimes).2.1

/-- With a cache, what attests verifies when the cache accepts its `jti`. -/
theorem verifies_withCache_iff {w w' : World V (InMemoryReplayCache × Ω)} :
    cfg.withCache.Verifies env now g w w' ↔
      ∃ payload exp t jti, now.toUtc? = some t ∧ cfg.Attests env now g payload exp ∧ jti ≠ "" ∧
        payload.lookup "jti" = some (.str jti) ∧ (w.host.1.checkAndRecord jti exp t).1 = true ∧
        w' = ⟨w.store, ((w.host.1.checkAndRecord jti exp t).2, w.host.2)⟩ := by
  constructor
  · intro h
    obtain ⟨payload, exp, t, r, ht, hattests, haccept, hr⟩ := h.attests
    have hstore := h.store
    rw [attests_withCache_iff] at hattests
    generalize hhost : w'.host = host at haccept
    by_cases hjti : ∃ jti, jti ≠ "" ∧ payload.lookup "jti" = some (.str jti)
    · obtain ⟨jti, hne, hjti⟩ := hjti
      rw [show cfg.withCache.replayCache = some hostCache from rfl, acceptOnce_of_jti hne hjti,
        bind_apply, hostCache, InMemoryReplayCache.protocol_apply] at haccept
      dsimp only at haccept
      cases hrecord : (w.host.1.checkAndRecord jti exp t).1 with
      | true =>
        rw [hrecord] at haccept
        cases haccept
        exact ⟨payload, exp, t, jti, ht, hattests, hne, hjti, hrecord, World.ext hstore hhost⟩
      | false =>
        rw [hrecord] at haccept
        cases haccept
        cases hr
    · -- a token without `jti` is refused
      rw [show cfg.withCache.replayCache = some hostCache from rfl,
        acceptOnce_of_no_jti fun jti hne h => hjti ⟨jti, hne, h⟩] at haccept
      cases haccept
      cases hr
  · rintro ⟨payload, exp, t, jti, ht, hattests, hne, hjti, hrecord, rfl⟩
    refine ⟨.ok, ?_, rfl⟩
    rw [verify_of_attests (attests_withCache_iff.2 hattests) ht,
      show cfg.withCache.replayCache = some hostCache from rfl, acceptOnce_of_jti hne hjti,
      onHost_apply, bind_apply, hostCache, InMemoryReplayCache.protocol_apply]
    dsimp only
    rw [hrecord]
    rfl

/-- A token verifies at most once at an instant. -/
theorem not_verifies_again {w w' w'' : World V (InMemoryReplayCache × Ω)}
    (h : cfg.withCache.Verifies env now g w w') : ¬cfg.withCache.Verifies env now g w' w'' := by
  intro h'
  obtain ⟨payload, exp, t, jti, ht, hattests, hne, hjti, hrecord, rfl⟩ :=
    verifies_withCache_iff.1 h
  obtain ⟨payload', exp', t', jti', ht', hattests', hne', hjti', hrecord', rfl⟩ :=
    verifies_withCache_iff.1 h'
  rw [ht, Option.some.injEq] at ht'
  subst ht'
  obtain ⟨rfl, rfl⟩ := hattests.unique hattests'
  rw [hjti] at hjti'
  cases hjti'
  -- the entry that was recorded is still live
  have hlive := (InMemoryReplayCache.checkAndRecord_fst.1 hrecord').1
  dsimp only at hlive
  rw [InMemoryReplayCache.live, InMemoryReplayCache.get?_checkAndRecord, if_pos ⟨hrecord, rfl⟩,
    Option.filter_some, if_pos (by simpa using hattests.lt ht)] at hlive
  cases hlive

end Config

end Gco
