import GcoSpec.Gco.Binding

/-!
# Isolation of trust domains

The key or the CA that checks an attestation is chosen by what the attestation says about itself:
the unverified `sub` claim of a JWT-SVID, the SPIFFE ID of the leaf of an X.509-SVID. Only later is
this compared with the identity of the GCO. A verified result shows that both name the same trust
domain, so it depends on no other entry of the trust bundle (`verified_iff_of_agree`).
-/

namespace Gco

open Python

variable {Key Cert Store σ : Type}

/-- The pass that checks the signature of a token decodes the payload the other pass does. -/
def DecodesUnverified (crypto : Crypto Key Cert Store) : Prop :=
  ∀ token payload key algorithms value, crypto.unverifiedPayload token = some payload →
    crypto.decode token key algorithms = .ok value → value = .dict payload

/-- The SPIFFE trust domain of the identity of a GCO. -/
def GCO.trustDomain (g : GCO) : Option String := Gco.trustDomain (some (.str g.modelIdentity.text))

/-- The bundles have the same entry for the trust domain of the GCO, if it has one. -/
def AgreeFor (g : GCO) (bundle bundle' : TrustBundle Key Cert Store) : Prop :=
  ∀ domain, g.trustDomain = some domain → bundle.domains.get? domain = bundle'.domains.get? domain

theorem AgreeFor.bind {g : GCO} {bundle bundle' : TrustBundle Key Cert Store}
    (h : AgreeFor g bundle bundle') :
    g.trustDomain.bind bundle.domains.get? = g.trustDomain.bind bundle'.domains.get? := by
  cases hdomain : g.trustDomain with
  | none => rfl
  | some domain => exact h domain hdomain

theorem AgreeFor.symm {g : GCO} {bundle bundle' : TrustBundle Key Cert Store}
    (h : AgreeFor g bundle bundle') : AgreeFor g bundle' bundle := fun domain hdomain =>
  (h domain hdomain).symm

/-- The chain of an X.509-SVID is validated against the store of its leaf's trust domain. -/
theorem validatedX509Chain_of_agree {crypto : Crypto Key Cert Store}
    {bundle bundle' : TrustBundle Key Cert Store} {header : Payload} {now : DateTime} {leaf : Cert}
    {g : GCO} (hagree : AgreeFor g bundle bundle')
    (h : validatedX509Chain crypto bundle header now = .ok leaf)
    (hleaf : leafSpiffeId crypto leaf = some g.modelIdentity.text) :
    validatedX509Chain crypto bundle' header now = .ok leaf := by
  unfold validatedX509Chain at h ⊢
  split at h
  · split at h
    · next leaf' chain hload hchain =>
      cases hspiffe : leafSpiffeId crypto leaf' with
      | none =>
        rw [hspiffe] at h
        cases h
      | some spiffe =>
        rw [hspiffe] at h
        dsimp only at h
        -- the leaf that was returned is the one whose domain was looked up
        have hsame : leaf' = leaf := by
          split at h
          · cases h
          · split at h
            · cases h
            · cases h
            · exact Except.ok.inj h
        subst hsame
        rw [hspiffe, Option.some.injEq] at hleaf
        subst hleaf
        have hbind := hagree.bind
        unfold GCO.trustDomain at hbind
        rw [hbind] at h
        dsimp only
        exact h
    · cases h
  · cases h

namespace AttestationVerifier

variable {v : AttestationVerifier Key Cert Store σ} {bundle bundle' : TrustBundle Key Cert Store}
  {g : GCO} {payload : Payload}

/-- The verifier with another trust bundle. -/
def withBundle (v : AttestationVerifier Key Cert Store σ) (bundle : TrustBundle Key Cert Store) :
    AttestationVerifier Key Cert Store σ := { v with trustBundle := bundle }

theorem jwtSvidPayload_of_agree (hdecode : DecodesUnverified v.crypto)
    (hagree : AgreeFor g bundle bundle') {token : String}
    (h : (v.withBundle bundle).jwtSvidPayload token = .ok payload)
    (hsub : payload.lookup "sub" = some (.str g.modelIdentity.text)) :
    (v.withBundle bundle').jwtSvidPayload token = .ok payload := by
  obtain ⟨key, algorithms, hsigned⟩ := decode_of_jwtSvidPayload h
  unfold jwtSvidPayload at h ⊢
  dsimp only [withBundle] at h hsigned ⊢
  split at h
  · next header items hheader hitems =>
    -- the domain was looked up in the payload whose signature is checked later
    have hpayload := PyVal.dict.inj (hdecode token items key algorithms _ hitems hsigned)
    subst hpayload
    have hbind := hagree.bind
    unfold GCO.trustDomain at hbind
    rw [hsub] at h ⊢
    rw [← hbind]
    exact h
  · cases h

/-- The leaf of the chain that was validated names the identity of the GCO. -/
theorem leaf_of_x509SvidPayload {token : String} {now : DateTime} {sub : Option String}
    (h : v.x509SvidPayload token g now = .ok (.ok (payload, sub))) :
    ∃ header leaf, v.crypto.unverifiedHeader token = some header ∧
      validatedX509Chain v.crypto v.trustBundle header now = .ok leaf ∧
      leafSpiffeId v.crypto leaf = some g.modelIdentity.text := by
  unfold x509SvidPayload at h
  split at h
  · cases h
  · next header hheader =>
    split at h
    · cases h
    · next leaf hleaf =>
      split_ifs at h with hspiffe
      · cases h
      · exact ⟨header, leaf, hheader, hleaf, not_not.1 hspiffe⟩

theorem x509SvidPayload_of_agree (hagree : AgreeFor g bundle bundle') {token : String}
    {now : DateTime} {sub : Option String}
    (h : (v.withBundle bundle).x509SvidPayload token g now = .ok (.ok (payload, sub))) :
    (v.withBundle bundle').x509SvidPayload token g now = .ok (.ok (payload, sub)) := by
  obtain ⟨header, leaf, hheader, hchain, hleaf⟩ := leaf_of_x509SvidPayload h
  unfold x509SvidPayload at h ⊢
  dsimp only [withBundle] at h hheader hchain hleaf ⊢
  rw [hheader] at h ⊢
  dsimp only at h ⊢
  rw [hchain] at h
  rw [validatedX509Chain_of_agree hagree hchain hleaf]
  exact h

/-- What passes the checks under one bundle passes them under every bundle that agrees with it
for the GCO. -/
theorem checkAttestation_of_agree {env : Externals} (hdecode : DecodesUnverified v.crypto)
    (hagree : AgreeFor g bundle bundle') {now t : DateTime} {attestation : Option AttestationModel}
    (h : (v.withBundle bundle).checkAttestation env now attestation g = .ok (.ok (payload, t))) :
    (v.withBundle bundle').checkAttestation env now attestation g = .ok (.ok (payload, t)) := by
  obtain ⟨sub, hpayload, hsubject, htimes⟩ := checkAttestation_eq_ok_iff.1 h
  refine checkAttestation_eq_ok_iff.2 ⟨sub, ?_, hsubject, htimes⟩
  have hsub := (checkSubject_eq_ok_iff.1 hsubject).1
  unfold attestedPayload at hpayload ⊢
  cases attestation with
  | none => cases hpayload
  | some a =>
    dsimp only at hpayload ⊢
    by_cases hvalue : a.value = ""
    · rw [if_pos hvalue] at hpayload
      cases hpayload
    rw [if_neg hvalue] at hpayload ⊢
    cases hformat : a.format with
    | jwtSvid =>
      rw [hformat] at hpayload
      dsimp only at hpayload ⊢
      cases hjwt : (v.withBundle bundle).jwtSvidPayload a.value with
      | error failure =>
        rw [hjwt] at hpayload
        cases hpayload
      | ok items =>
        rw [hjwt] at hpayload
        cases hpayload
        rw [jwtSvidPayload_of_agree hdecode hagree hjwt hsub]
        rfl
    | x509Svid =>
      rw [hformat] at hpayload
      exact x509SvidPayload_of_agree hagree hpayload
    | rawJws =>
      rw [hformat] at hpayload
      cases hpayload
    | tpmQuote =>
      rw [hformat] at hpayload
      cases hpayload

/-- A verified result carries over from one bundle to another. -/
theorem verified_of_agree {env : Externals} (hdecode : DecodesUnverified v.crypto)
    (hagree : AgreeFor g bundle bundle') {attestation : Option AttestationModel}
    {clock : Option (Py Exc σ PyDatetime)} {s s' : σ} {r : VerificationResult}
    (h : (v.withBundle bundle).verify env attestation g clock s = .ok r s')
    (hr : r.verified = true) :
    (v.withBundle bundle').verify env attestation g clock s = .ok r s' := by
  obtain ⟨now, s₁, hclock, h⟩ := verifyAt_of_verify h
  obtain ⟨payload, t, hcheck, haccept⟩ := checkAttestation_of_verified h hr
  have hcheck' := checkAttestation_of_agree hdecode hagree hcheck
  have hclock' : coerceNow clock (v.withBundle bundle').now s = .ok now s₁ := hclock
  rw [verify, bind_apply, hclock']
  dsimp only
  rw [verifyAt_eq, hcheck']
  exact haccept

end AttestationVerifier

/-- Trust material of other domains does not influence verification: under two bundles that agree
on the trust domain of the GCO and on the audience, an attestation is verified by both verifiers
or by neither, with the same effect on the cache. -/
theorem verified_iff_of_agree (env : Externals) (crypto : Crypto Key Cert Store)
    (hdecode : DecodesUnverified crypto) (bundle bundle' : TrustBundle Key Cert Store) (g : GCO)
    (hagree : ∀ domain, trustDomain (some (.str g.modelIdentity.text)) = some domain →
      bundle.domains.get? domain = bundle'.domains.get? domain)
    (haudience : bundle.expectedAudience = bundle'.expectedAudience) (now : Py Exc σ PyDatetime)
    (audience : PyVal) (replayCache : Option (ReplayCache σ))
    (v v' : AttestationVerifier Key Cert Store σ)
    (hv : AttestationVerifier.new crypto bundle now audience replayCache = .ok v)
    (hv' : AttestationVerifier.new crypto bundle' now audience replayCache = .ok v')
    (attestation : Option AttestationModel) (clock : Option (Py Exc σ PyDatetime)) (s s' : σ) :
    (∃ r, v.verify env attestation g clock s = .ok r s' ∧ r.verified = true) ↔
      ∃ r, v'.verify env attestation g clock s = .ok r s' ∧ r.verified = true := by
  obtain ⟨expected, hexpected, h⟩ := except_bind_eq_ok_iff.1 hv
  obtain ⟨expected', hexpected', h'⟩ := except_bind_eq_ok_iff.1 hv'
  rw [hexpected, Except.ok.injEq] at hexpected'
  subst hexpected'
  cases h
  cases h'
  rw [← haudience]
  have hcarry : ∀ {b b' : TrustBundle Key Cert Store}, AgreeFor g b b' →
      (∃ r, AttestationVerifier.verify env
        ⟨crypto, b, now, expected.or bundle.expectedAudience, replayCache⟩ attestation g clock s =
          .ok r s' ∧ r.verified = true) →
      ∃ r, AttestationVerifier.verify env
        ⟨crypto, b', now, expected.or bundle.expectedAudience, replayCache⟩ attestation g clock s =
          .ok r s' ∧ r.verified = true := by
    rintro b b' hbb' ⟨r, h, hr⟩
    exact ⟨r, AttestationVerifier.verified_of_agree
      (v := ⟨crypto, b, now, expected.or bundle.expectedAudience, replayCache⟩) hdecode hbb' h hr,
      hr⟩
  exact ⟨hcarry hagree, hcarry (AgreeFor.symm hagree)⟩

/-! ### A second tenant with the same key id -/

theorem decodesUnverified_tokenCrypto (tokens : List (String × Payload)) :
    DecodesUnverified (tokenCrypto tokens) := by
  intro token payload key algorithms value hpayload h
  simp only [tokenCrypto] at hpayload h
  rw [hpayload] at h
  dsimp only at h
  split_ifs at h
  exact (Except.ok.inj h).symm

/-- `demoBundle` with another domain, whose key has the same id. -/
def demoSharedBundle : TrustBundle Unit Unit Unit where
  domains := Dict.ofPairs [("example.org", ⟨Dict.ofPairs [("k1", ())], [], none⟩),
    ("other.example", ⟨Dict.ofPairs [("k1", ())], [()], some ()⟩)]
  expectedAudience := none

theorem agree_demoSharedBundle {domain : String}
    (hdomain : trustDomain (some (.str demoRoot.modelIdentity.text)) = some domain) :
    demoBundle.domains.get? domain = demoSharedBundle.domains.get? domain := by
  have hexample : trustDomain (some (.str demoRoot.modelIdentity.text)) = some "example.org" := by
    decide
  rw [hexample, Option.some.injEq] at hdomain
  subst hdomain
  rfl

/-- The token of `demoRoot` is verified under the larger bundle too. -/
theorem verified_iff_of_agree_demo :
    ∃ r, AttestationVerifier.verify demoExternals
        (⟨tokenCrypto [(demoRootToken, demoPayload demoRoot demoRootClaims)], demoSharedBundle,
          pure demoNow.toPy, none, none⟩ : AttestationVerifier Unit Unit Unit Unit)
        (some ⟨.jwtSvid, demoRootToken, none⟩) demoRoot none () = .ok r () ∧
      r.verified = true := by
  refine (verified_iff_of_agree demoExternals
    (tokenCrypto [(demoRootToken, demoPayload demoRoot demoRootClaims)])
    (decodesUnverified_tokenCrypto _) demoBundle demoSharedBundle demoRoot
    (fun domain hdomain => agree_demoSharedBundle hdomain) rfl (pure demoNow.toPy) .none none
    (demoVerifier [(demoRootToken, demoPayload demoRoot demoRootClaims)] none) _ rfl rfl
    (some ⟨.jwtSvid, demoRootToken, none⟩) none () ()).1 ⟨.ok, ?_, rfl⟩
  exact verify_demo_ok demoRootToken_ne_empty rfl serializable_demoRoot List.lookup_cons_self
    not_tooLargeForDouble_demoRoot fromTimestamp_demoRoot (by decide) ()

end Gco
