import GcoSpec.Gco.TimeClaims

/-!
# What a verified token says

A verified result comes with a payload that was decoded with some key and carries the digest of
the GCO (`checkAttestation_of_verified`, `checkAttestation_eq_ok_iff`). The digest determines the
GCO up to its attestation, so a token binds exactly one (`token_binds_one_gco`).
-/

namespace Gco

open Python

variable {Key Cert Store σ : Type}

/-- A decoded payload came out of `jwt.decode` with the key. -/
theorem decode_of_decodeWithKey {crypto : Crypto Key Cert Store} {token : String} {key : Key}
    {header payload : Payload} (h : decodeWithKey crypto token key header = .ok payload) :
    ∃ algorithms, crypto.decode token key algorithms = .ok (.dict payload) := by
  unfold decodeWithKey at h
  split at h
  · cases h
  · split_ifs at h
    split at h
    · cases h
    · next allowed _ =>
      split_ifs at h
      split at h
      · cases h
      · cases h
      · next value hvalue =>
        cases value <;> cases h
        exact ⟨allowed, hvalue⟩

namespace AttestationVerifier

variable {v : AttestationVerifier Key Cert Store σ}

theorem decode_of_jwtSvidPayload {token : String} {payload : Payload}
    (h : v.jwtSvidPayload token = .ok payload) :
    ∃ key algorithms, v.crypto.decode token key algorithms = .ok (.dict payload) := by
  unfold jwtSvidPayload at h
  split at h
  · split at h
    · cases h
    · obtain ⟨key, -, hdecode⟩ := except_bind_eq_ok_iff.1 h
      exact ⟨key, decode_of_decodeWithKey hdecode⟩
  · cases h

theorem decode_of_x509SvidPayload {token : String} {g : GCO} {now : DateTime} {payload : Payload}
    {sub : Option String} (h : v.x509SvidPayload token g now = .ok (.ok (payload, sub))) :
    ∃ key algorithms, v.crypto.decode token key algorithms = .ok (.dict payload) := by
  unfold x509SvidPayload at h
  split at h
  · cases h
  · split at h
    · cases h
    · split_ifs at h
      · cases h
      · obtain ⟨key, -, h⟩ := except_bind_eq_ok_iff.1 h
        split_ifs at h
        · cases h
        · split at h
          · cases h
          · next hdecode =>
            cases h
            exact ⟨key, decode_of_decodeWithKey hdecode⟩

/-- Whatever its format, an attestation's payload was decoded from its token. -/
theorem decode_of_attestedPayload {now : DateTime} {a : AttestationModel} {g : GCO}
    {payload : Payload} {sub : Option String}
    (h : v.attestedPayload now (some a) g = .ok (.ok (payload, sub))) :
    ∃ key algorithms, v.crypto.decode a.value key algorithms = .ok (.dict payload) := by
  unfold attestedPayload at h
  dsimp only at h
  split_ifs at h
  · cases h
  · cases hformat : a.format <;> rw [hformat] at h
    · dsimp only at h
      cases hjwt : v.jwtSvidPayload a.value with
      | error failure => rw [hjwt] at h; cases h
      | ok items =>
        rw [hjwt] at h
        cases h
        exact decode_of_jwtSvidPayload hjwt
    · exact decode_of_x509SvidPayload h
    · cases h
    · cases h

/-- The checks pass when a trusted payload matches the GCO and its time claims accept it. -/
theorem checkAttestation_eq_ok_iff {env : Externals} {now t : DateTime}
    {attestation : Option AttestationModel} {g : GCO} {payload : Payload} :
    v.checkAttestation env now attestation g = .ok (.ok (payload, t)) ↔
      ∃ sub, v.attestedPayload now attestation g = .ok (.ok (payload, sub)) ∧
        checkSubject env payload g sub v.expectedAudience = .ok (.ok ()) ∧
        checkTimes payload now = .ok (.ok t) := by
  unfold checkAttestation
  rcases v.attestedPayload now attestation g with e | failure | ⟨items, sub⟩
  · simp [bind, Except.bind]
  · simp [bind, Except.bind, pure, Except.pure]
  · simp only [bind, Except.bind, checkBindings, Except.ok.injEq, Prod.mk.injEq]
    rcases hsubject : checkSubject env items g sub v.expectedAudience with e | failure | ⟨⟩
    · simp only [Except.map, reduceCtorEq, false_iff, not_exists, not_and]
      rintro sub' ⟨rfl, rfl⟩ hsubject'
      rw [hsubject] at hsubject'
      cases hsubject'
    · simp only [pure, Except.pure, Except.map, Except.ok.injEq, reduceCtorEq, false_iff,
        not_exists, not_and]
      rintro sub' ⟨rfl, rfl⟩ hsubject'
      rw [hsubject] at hsubject'
      cases hsubject'
    · rcases htimes : checkTimes items now with e | failure | s
      · simp only [Except.map, reduceCtorEq, false_iff, not_exists, not_and]
        rintro sub' ⟨rfl, rfl⟩ - htimes'
        rw [htimes] at htimes'
        cases htimes'
      · simp only [Except.map, Except.ok.injEq, reduceCtorEq, false_iff, not_exists, not_and]
        rintro sub' ⟨rfl, rfl⟩ - htimes'
        rw [htimes] at htimes'
        cases htimes'
      · simp only [Except.map, Except.ok.injEq, Prod.mk.injEq]
        constructor
        · rintro ⟨rfl, rfl⟩
          exact ⟨sub, ⟨rfl, rfl⟩, hsubject, htimes⟩
        · rintro ⟨sub', ⟨rfl, rfl⟩, -, htimes'⟩
          rw [htimes] at htimes'
          cases htimes'
          exact ⟨rfl, rfl⟩

/-- A verified result passed all checks, and then the cache. -/
theorem checkAttestation_of_verified {env : Externals} {now : DateTime}
    {attestation : Option AttestationModel} {g : GCO} {s s' : σ} {r : VerificationResult}
    (h : v.verifyAt env now attestation g s = .ok r s') (hr : r.verified = true) :
    ∃ payload t, v.checkAttestation env now attestation g = .ok (.ok (payload, t)) ∧
      acceptOnce v.replayCache payload t now s = .ok r s' := by
  rw [verifyAt_eq, accept] at h
  obtain ⟨checked, s₁, hrun, h⟩ := bind_eq_ok h
  obtain ⟨hchecked, rfl⟩ := Py.ofExcept_eq_ok hrun
  rcases checked with failure | ⟨payload, t⟩
  · cases h
    cases hr
  · exact ⟨payload, t, hchecked, h⟩

/-- `verify` returned: the clock had a value in range, and the checks ran at it. -/
theorem verifyAt_of_verify {env : Externals} {attestation : Option AttestationModel} {g : GCO}
    {clock : Option (Py Exc σ PyDatetime)} {s s' : σ} {r : VerificationResult}
    (h : v.verify env attestation g clock s = .ok r s') :
    ∃ now s₁, coerceNow clock v.now s = .ok now s₁ ∧
      v.verifyAt env now attestation g s₁ = .ok r s' :=
  bind_eq_ok h

end AttestationVerifier

/-- Decoding a token gives the same payload whatever key and algorithms accept it. -/
def StableDecode (crypto : Crypto Key Cert Store) : Prop :=
  ∀ token key key' algorithms algorithms' payload payload',
    crypto.decode token key algorithms = .ok payload →
      crypto.decode token key' algorithms' = .ok payload' → payload = payload'

/-- A token verifies for one GCO only, up to the attestation: under any two verifiers, formats,
clocks and caches, the GCOs it verifies for agree on every other field. -/
theorem token_binds_one_gco {σ' : Type} (env : Externals) (henv : env.Injective)
    (crypto : Crypto Key Cert Store) (hdecode : StableDecode crypto)
    (v : AttestationVerifier Key Cert Store σ) (hv : v.crypto = crypto)
    (v' : AttestationVerifier Key Cert Store σ') (hv' : v'.crypto = crypto)
    (a a' : AttestationModel) (htoken : a.value = a'.value) (g g' : GCO)
    (clock : Option (Py Exc σ PyDatetime)) (clock' : Option (Py Exc σ' PyDatetime)) (s t : σ)
    (s' t' : σ') (r r' : VerificationResult) (h : v.verify env (some a) g clock s = .ok r t)
    (hr : r.verified = true) (h' : v'.verify env (some a') g' clock' s' = .ok r' t')
    (hr' : r'.verified = true) :
    { g with attestation := none } = { g' with attestation := none } := by
  obtain ⟨now, s₁, -, h⟩ := AttestationVerifier.verifyAt_of_verify h
  obtain ⟨now', s₁', -, h'⟩ := AttestationVerifier.verifyAt_of_verify h'
  obtain ⟨payload, e, hcheck, -⟩ := AttestationVerifier.checkAttestation_of_verified h hr
  obtain ⟨payload', e', hcheck', -⟩ := AttestationVerifier.checkAttestation_of_verified h' hr'
  obtain ⟨sub, hpayload, hsubject, -⟩ := AttestationVerifier.checkAttestation_eq_ok_iff.1 hcheck
  obtain ⟨sub', hpayload', hsubject', -⟩ := AttestationVerifier.checkAttestation_eq_ok_iff.1 hcheck'
  obtain ⟨key, algorithms, hd⟩ := AttestationVerifier.decode_of_attestedPayload hpayload
  obtain ⟨key', algorithms', hd'⟩ := AttestationVerifier.decode_of_attestedPayload hpayload'
  -- both payloads were decoded from one token
  rw [hv, htoken] at hd
  rw [hv'] at hd'
  have hsame : payload = payload' := PyVal.dict.inj (hdecode _ _ _ _ _ _ _ hd hd')
  subst hsame
  obtain ⟨-, hg, hhash, -⟩ := checkSubject_eq_ok_iff.1 hsubject
  obtain ⟨-, hg', hhash', -⟩ := checkSubject_eq_ok_iff.1 hsubject'
  rw [hhash', Option.some.injEq, PyVal.str.injEq] at hhash
  exact bare_eq_of_canonicalDigest_eq henv hg hg' hhash.symm

theorem stableDecode_tokenCrypto (tokens : List (String × Payload)) :
    StableDecode (tokenCrypto tokens) := by
  have hvalue : ∀ {token key algorithms payload},
      (tokenCrypto tokens).decode token key algorithms = .ok payload →
        ∃ items, tokens.lookup token = some items ∧ payload = .dict items := by
    intro token key algorithms payload h
    simp only [tokenCrypto] at h
    split at h
    · next items hitems =>
      split_ifs at h
      cases h
      exact ⟨items, hitems, rfl⟩
    · cases h
  rintro token key key' algorithms algorithms' payload payload' h h'
  obtain ⟨items, hitems, rfl⟩ := hvalue h
  obtain ⟨items', hitems', rfl⟩ := hvalue h'
  rw [hitems, Option.some.injEq] at hitems'
  rw [hitems']

/-- The token of `demoRoot` verifies for it whatever attestation it carries. -/
theorem token_binds_demo :
    { demoRoot with attestation := none } = { demoRoot.bare with attestation := none } := by
  have hverify : ∀ g : GCO, g.modelIdentity = demoIdentity → g.Serializable →
      canonicalDigest demoExternals g = canonicalDigest demoExternals demoRoot →
      (demoVerifier [(demoRootToken, demoPayload demoRoot demoRootClaims)] none).verify
        demoExternals (some ⟨.jwtSvid, demoRootToken, none⟩) g none () = .ok .ok () := by
    intro g hg hfits hhash
    have htoken : [(demoRootToken, demoPayload demoRoot demoRootClaims)].lookup demoRootToken =
        some (demoPayload g demoRootClaims) := by
      rw [List.lookup_cons_self, demoPayload, demoPayload, hhash]
    exact verify_demo_ok demoRootToken_ne_empty hg hfits htoken not_tooLargeForDouble_demoRoot
      fromTimestamp_demoRoot (by decide) ()
  exact token_binds_one_gco demoExternals demoExternals_injective _ (stableDecode_tokenCrypto _)
    (demoVerifier [(demoRootToken, demoPayload demoRoot demoRootClaims)] none) rfl
    (demoVerifier [(demoRootToken, demoPayload demoRoot demoRootClaims)] none) rfl
    ⟨.jwtSvid, demoRootToken, none⟩ ⟨.jwtSvid, demoRootToken, none⟩ rfl demoRoot demoRoot.bare none
    none () () () () .ok .ok (hverify demoRoot rfl serializable_demoRoot rfl) rfl
    (hverify demoRoot.bare rfl serializable_demoRoot (canonicalDigest_bare _ _)) rfl

end Gco
