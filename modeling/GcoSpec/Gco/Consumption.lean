import GcoSpec.Gco.Binding

/-!
# What verification does to the replay cache

With an `InMemoryReplayCache` a call of `verify` has four ends (`verifyAt_cases`): an attestation
that passes all other checks presents its `jti` to the cache, which accepts or refuses it; one that
does not is refused or raises before the cache is reached. So only an accepted token is consumed
(`only_accepted_is_consumed`).
-/

namespace Gco

open Python

variable {Key Cert Store σ : Type}

namespace AttestationVerifier

variable {v : AttestationVerifier Key Cert Store σ} {env : Externals} {now exp exp' : DateTime}
  {attestation : Option AttestationModel} {g : GCO} {jti jti' : String}

/-- The attestation passes every check but that of the cache, to which it presents this `jti` and
this expiry. -/
def Presents (v : AttestationVerifier Key Cert Store σ) (env : Externals) (now : DateTime)
    (attestation : Option AttestationModel) (g : GCO) (jti : String) (exp : DateTime) : Prop :=
  jti ≠ "" ∧ ∃ payload, v.checkAttestation env now attestation g = .ok (.ok (payload, exp)) ∧
    payload.lookup "jti" = some (.str jti)

theorem Presents.unique (h : v.Presents env now attestation g jti exp)
    (h' : v.Presents env now attestation g jti' exp') : jti = jti' ∧ exp = exp' := by
  obtain ⟨-, payload, hcheck, hjti⟩ := h
  obtain ⟨-, payload', hcheck', hjti'⟩ := h'
  rw [hcheck] at hcheck'
  cases hcheck'
  rw [hjti] at hjti'
  cases hjti'
  exact ⟨rfl, rfl⟩

/-- A token that is presented to the cache has not expired. -/
theorem Presents.lt (h : v.Presents env now attestation g jti exp) : now < exp := by
  obtain ⟨-, payload, hcheck, -⟩ := h
  obtain ⟨sub, -, -, htimes⟩ := checkAttestation_eq_ok_iff.1 hcheck
  exact (checkTimes_eq_ok_iff.1 htimes).2.1

/-- What is presented was decoded from the token of the attestation. -/
theorem Presents.decoded (h : v.Presents env now attestation g jti exp) :
    ∃ a payload key algorithms, attestation = some a ∧
      v.crypto.decode a.value key algorithms = .ok (.dict payload) ∧
      payload.lookup "jti" = some (.str jti) ∧ ClaimTime payload "exp" exp := by
  obtain ⟨-, payload, hcheck, hjti⟩ := h
  obtain ⟨sub, hpayload, -, htimes⟩ := checkAttestation_eq_ok_iff.1 hcheck
  cases attestation with
  | none => cases hpayload
  | some a =>
    obtain ⟨key, algorithms, hdecode⟩ := decode_of_attestedPayload hpayload
    exact ⟨a, payload, key, algorithms, rfl, hdecode, hjti, (checkTimes_eq_ok_iff.1 htimes).1⟩

section Cache

variable {get : σ → InMemoryReplayCache} {set : InMemoryReplayCache → σ → σ}

/-- A token that is presented is accepted or refused by the cache. -/
theorem verifyAt_of_presents (hv : v.replayCache = some (InMemoryReplayCache.protocol get set))
    (h : v.Presents env now attestation g jti exp) (s : σ) :
    v.verifyAt env now attestation g s =
      .ok (if ((get s).checkAndRecord jti exp now).1 = true then .ok else replayDetected.result)
        (set ((get s).checkAndRecord jti exp now).2 s) := by
  obtain ⟨hne, payload, hcheck, hjti⟩ := h
  have haccept : v.accept now (.ok (.ok (payload, exp))) s =
      acceptOnce v.replayCache payload exp now s := rfl
  rw [verifyAt_eq, hcheck, haccept, hv, acceptOnce_of_jti hne hjti, bind_apply,
    InMemoryReplayCache.protocol_apply]
  dsimp only
  split_ifs <;> rfl

/-- Without a token to present, nothing happens to the cache. -/
theorem verifyAt_of_not_presents (hv : v.replayCache = some (InMemoryReplayCache.protocol get set))
    (h : ∀ jti exp, ¬v.Presents env now attestation g jti exp) (s : σ) :
    (∃ failure : Failure, v.verifyAt env now attestation g s = .ok failure.result s) ∨
      ∃ e, v.verifyAt env now attestation g s = .error e s := by
  rw [verifyAt_eq]
  cases hcheck : v.checkAttestation env now attestation g with
  | error e => exact .inr ⟨e, rfl⟩
  | ok checked =>
    rcases checked with failure | ⟨payload, exp⟩
    · exact .inl ⟨failure, rfl⟩
    · have haccept : v.accept now (.ok (.ok (payload, exp))) s =
          acceptOnce v.replayCache payload exp now s := rfl
      rw [haccept, hv,
        acceptOnce_of_no_jti fun jti hne hjti => h jti exp ⟨hne, payload, hcheck, hjti⟩]
      exact .inl ⟨jtiMissing, rfl⟩

/-- The ends of `verify`, at a reading of the clock. -/
theorem verifyAt_cases (hv : v.replayCache = some (InMemoryReplayCache.protocol get set))
    (env : Externals) (now : DateTime) (attestation : Option AttestationModel) (g : GCO) (s : σ) :
    (∃ jti exp, v.Presents env now attestation g jti exp ∧
      ((get s).checkAndRecord jti exp now).1 = true ∧
      v.verifyAt env now attestation g s =
        .ok .ok (set ((get s).checkAndRecord jti exp now).2 s)) ∨
    (∃ jti exp, v.Presents env now attestation g jti exp ∧
      ((get s).checkAndRecord jti exp now).1 = false ∧
      v.verifyAt env now attestation g s =
        .ok replayDetected.result (set ((get s).checkAndRecord jti exp now).2 s)) ∨
    ((∀ jti exp, ¬v.Presents env now attestation g jti exp) ∧
      ∃ failure : Failure, v.verifyAt env now attestation g s = .ok failure.result s) ∨
    ((∀ jti exp, ¬v.Presents env now attestation g jti exp) ∧
      ∃ e, v.verifyAt env now attestation g s = .error e s) := by
  by_cases hpresents : ∃ jti exp, v.Presents env now attestation g jti exp
  · obtain ⟨jti, exp, h⟩ := hpresents
    have hverify := verifyAt_of_presents hv h s
    cases haccepted : ((get s).checkAndRecord jti exp now).1 with
    | true =>
      rw [haccepted, if_pos rfl] at hverify
      exact .inl ⟨jti, exp, h, haccepted, hverify⟩
    | false =>
      rw [haccepted, if_neg Bool.false_ne_true] at hverify
      exact .inr (.inl ⟨jti, exp, h, haccepted, hverify⟩)
  · push Not at hpresents
    rcases verifyAt_of_not_presents hv hpresents s with h | h
    · exact .inr (.inr (.inl ⟨hpresents, h⟩))
    · exact .inr (.inr (.inr ⟨hpresents, h⟩))

end Cache

end AttestationVerifier

open AttestationVerifier

/-- Only an accepted token is consumed. A verified result comes from a token whose `jti` had no
live entry and now has one with the `exp` of the token, and no other entry changed; any other
result, and any exception, leaves the live entries as they were. -/
theorem only_accepted_is_consumed (env : Externals) (get : σ → InMemoryReplayCache)
    (set : InMemoryReplayCache → σ → σ) (hset : ∀ cache s, get (set cache s) = cache)
    (v : AttestationVerifier Key Cert Store σ)
    (hv : v.replayCache = some (InMemoryReplayCache.protocol get set))
    (attestation : Option AttestationModel) (g : GCO) (clock : Option (Py Exc σ PyDatetime)) (s : σ)
    (reading : PyDatetime) (hclock : clock.getD v.now s = .ok reading s) :
    (∀ r s', v.verify env attestation g clock s = .ok r s' → r.verified = true →
      ∃ now a payload key algorithms jti exp, reading.toUtc? = some now ∧ attestation = some a ∧
        v.crypto.decode a.value key algorithms = .ok (.dict payload) ∧
        payload.lookup "jti" = some (.str jti) ∧ ClaimTime payload "exp" exp ∧
        (get s).live now jti = none ∧ (get s').live now jti = some exp ∧
        ∀ k, k ≠ jti → (get s').live now k = (get s).live now k) ∧
    (∀ r s', v.verify env attestation g clock s = .ok r s' → r.verified = false →
      ∀ now, reading.toUtc? = some now → ∀ k, (get s').live now k = (get s).live now k) ∧
    ∀ e s', v.verify env attestation g clock s = .error e s' → get s' = get s := by
  rw [verify_apply env v attestation g reading hclock]
  cases hreading : reading.toUtc? with
  | none =>
    refine ⟨?_, ?_, ?_⟩
    · rintro r s' ⟨⟩
    · rintro r s' ⟨⟩
    · rintro e s' ⟨⟩
      rfl
  | some now =>
    dsimp only
    simp only [Option.some.injEq, forall_eq']
    rcases verifyAt_cases hv env now attestation g s with
      ⟨jti, exp, hpresents, haccepted, h⟩ | ⟨jti, exp, hpresents, hrefused, h⟩ | ⟨-, failure, h⟩ |
        ⟨-, e, h⟩
    · -- the cache accepted the token
      rw [h]
      refine ⟨?_, ?_, ?_⟩
      · rintro r s' ⟨⟩ -
        obtain ⟨a, payload, key, algorithms, ha, hdecode, hjti, hexp⟩ := hpresents.decoded
        refine ⟨now, a, payload, key, algorithms, jti, exp, rfl, ha, hdecode, hjti, hexp,
          (InMemoryReplayCache.checkAndRecord_fst.1 haccepted).1, ?_, ?_⟩
        · rw [hset, InMemoryReplayCache.live_checkAndRecord _ _ hpresents.lt,
            if_pos ⟨haccepted, rfl⟩]
        · intro k hk
          rw [hset, InMemoryReplayCache.live_checkAndRecord _ _ hpresents.lt,
            if_neg fun hboth => hk hboth.2]
      · rintro r s' ⟨⟩ hr
        cases hr
      · rintro e s' ⟨⟩
    · -- the cache refused it
      rw [h]
      refine ⟨?_, ?_, ?_⟩
      · rintro r s' ⟨⟩ hr
        cases hr
      · rintro r s' ⟨⟩ - k
        rw [hset, InMemoryReplayCache.live_checkAndRecord _ _ hpresents.lt,
          if_neg fun hboth => by rw [hrefused] at hboth; cases hboth.1]
      · rintro e s' ⟨⟩
    · -- the attestation was refused before the cache was reached
      rw [h]
      refine ⟨?_, ?_, ?_⟩
      · rintro r s' ⟨⟩ hr
        cases hr
      · rintro r s' ⟨⟩ - k
        rfl
      · rintro e s' ⟨⟩
    · -- a check raised
      rw [h]
      refine ⟨?_, ?_, ?_⟩
      · rintro r s' ⟨⟩
      · rintro r s' ⟨⟩
      · rintro e s' ⟨⟩
        rfl

/-- A cache that is the whole state. -/
def wholeState : ReplayCache InMemoryReplayCache :=
  InMemoryReplayCache.protocol id fun cache _ => cache

theorem presents_demoRoot :
    (demoVerifier demoTokens (some wholeState)).Presents demoExternals demoNow demoRoot.attestation
      demoRoot "root-jti" demoRoot.expiresAt :=
  ⟨by decide, _, checkAttestation_demoRoot _ (by decide), rfl⟩

/-- The token of `demoRoot` is consumed by the call that accepts it. -/
theorem only_accepted_is_consumed_demo :
    ∃ cache jti exp, (demoVerifier demoTokens (some wholeState)).verify demoExternals
        demoRoot.attestation demoRoot none InMemoryReplayCache.new = .ok .ok cache ∧
      InMemoryReplayCache.new.live demoNow jti = none ∧ cache.live demoNow jti = some exp := by
  have haccepted : (InMemoryReplayCache.new.checkAndRecord "root-jti" demoRoot.expiresAt
      demoNow).1 = true := by decide
  have hverify := verify_demo demoTokens (some wholeState) demoRoot.attestation demoRoot
    InMemoryReplayCache.new
  rw [verifyAt_of_presents rfl presents_demoRoot, id_eq, if_pos haccepted] at hverify
  obtain ⟨now, a, payload, key, algorithms, jti, exp, hnow, -, -, -, -, hbefore, hafter, -⟩ :=
    (only_accepted_is_consumed demoExternals id (fun cache _ => cache) (fun _ _ => rfl)
      (demoVerifier demoTokens (some wholeState)) rfl demoRoot.attestation demoRoot none
      InMemoryReplayCache.new demoNow.toPy rfl).1 _ _ hverify rfl
  rw [PyDatetime.toUtc?_toPy, Option.some.injEq] at hnow
  subst hnow
  exact ⟨_, jti, exp, hverify, hbefore, hafter⟩

end Gco
