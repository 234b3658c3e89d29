import GcoSpec.Gco.Cached
import GcoSpec.Gco.Consumption
import GcoSpec.GcoMcp.Replay

/-!
# Minting with a replay cache

`derive_for_subcall` verifies the child it has minted with the verifier of the runtime. With a
replay cache this consumes the token of the child (`spent_of_allows_derive`), so that the first
presentation of the child is denied as a replay, wherever its token passes the other checks
(`minted_child_not_replayed_iff`).
-/

namespace Gco

open Python

variable {Key Cert Store V Ω : Type}

/-! ### The audience of a token -/

/-- `_verify_audience` fails with its own code. -/
theorem error_of_verifyAudience {audience : Option PyVal} {expected : List String} {f : Failure}
    (h : verifyAudience audience expected = some f) : f.error = .audienceMismatch := by
  unfold verifyAudience at h
  split at h
  · cases h
    rfl
  · split_ifs at h
    cases h
    rfl

theorem checkSubject_audience_iff {env : Externals} {payload : Payload} {g : GCO}
    {sub : Option String} {audience : Option (List String)} :
    checkSubject env payload g sub audience = .ok (.ok ()) ↔
      checkSubject env payload g sub none = .ok (.ok ()) ∧
        audience.bind (verifyAudience (payload.lookup "aud")) = none := by
  simp only [checkSubject_eq_ok_iff, Option.bind_none, and_true, and_assoc]

/-- With the subject and the digest right, an audience that is refused is what the check reports. -/
theorem checkSubject_of_audience {env : Externals} {payload : Payload} {g : GCO}
    {sub : Option String} {audience : Option (List String)} {f : Failure}
    (h : checkSubject env payload g sub none = .ok (.ok ()))
    (hf : audience.bind (verifyAudience (payload.lookup "aud")) = some f) :
    checkSubject env payload g sub audience = .ok (.error f) := by
  obtain ⟨hsub, hg, hhash, -⟩ := checkSubject_eq_ok_iff.1 h
  rw [checkSubject_of_subMatches hsub, if_pos hg, if_neg (not_not.2 (eqStr_iff.2 hhash)), hf]

namespace Config

variable {cfg : Config Key Cert Store V Ω} {env : Externals} {now : PyDatetime} {g : GCO}

/-- The runtime expects an audience that the token of the object does not name. -/
def RefusesAudience (cfg : Config Key Cert Store V Ω) (now : PyDatetime) (g : GCO) : Prop :=
  ∃ t payload sub f, now.toUtc? = some t ∧
    (cfg.verifier now).attestedPayload t g.attestation g = .ok (.ok (payload, sub)) ∧
    cfg.expectedAudience.bind (verifyAudience (payload.lookup "aud")) = some f

section Other

variable {V' Ω' : Type} {cfg' : Config Key Cert Store V' Ω'}

/-- Runtimes with one trust bundle read the same payload. -/
theorem attestedPayload_congr (hcrypto : cfg'.crypto = cfg.crypto)
    (hbundle : cfg'.trustBundle = cfg.trustBundle) (t : DateTime) :
    (cfg'.verifier now).attestedPayload t g.attestation g =
      (cfg.verifier now).attestedPayload t g.attestation g := by
  unfold AttestationVerifier.attestedPayload AttestationVerifier.jwtSvidPayload
    AttestationVerifier.x509SvidPayload verifier
  rw [hcrypto, hbundle]

/-- What one runtime attests, another with the same trust bundle attests too, unless it refuses
the audience. -/
theorem Attests.of_bundle {payload : Payload} {exp : DateTime}
    (h : cfg.Attests env now g payload exp) (hcrypto : cfg'.crypto = cfg.crypto)
    (hbundle : cfg'.trustBundle = cfg.trustBundle) (haudience : ¬cfg'.RefusesAudience now g) :
    cfg'.Attests env now g payload exp := by
  obtain ⟨t, ht, hcheck⟩ := h
  obtain ⟨sub, hpayload, hsubject, htimes⟩ :=
    AttestationVerifier.checkAttestation_eq_ok_iff.1 hcheck
  have hpayload' := (attestedPayload_congr hcrypto hbundle t).trans hpayload
  refine ⟨t, ht, AttestationVerifier.checkAttestation_eq_ok_iff.2 ⟨sub, hpayload', ?_, htimes⟩⟩
  refine checkSubject_audience_iff.2 ⟨(checkSubject_audience_iff.1 hsubject).1, ?_⟩
  by_contra hne
  obtain ⟨f, hf⟩ := Option.ne_none_iff_exists'.1 hne
  exact haudience ⟨t, payload, sub, f, ht, hpayload', hf⟩

/-- A runtime that attests an object does not refuse its audience. -/
theorem Attests.not_refusesAudience {payload : Payload} {exp : DateTime}
    (h : cfg.Attests env now g payload exp) : ¬cfg.RefusesAudience now g := by
  obtain ⟨t, ht, hcheck⟩ := h
  rintro ⟨t', payload', sub', f, ht', hpayload', hf⟩
  rw [ht, Option.some.injEq] at ht'
  subst ht'
  obtain ⟨sub, hpayload, hsubject, -⟩ := AttestationVerifier.checkAttestation_eq_ok_iff.1 hcheck
  rw [hpayload] at hpayload'
  cases hpayload'
  have hnone := (checkSubject_audience_iff.1 hsubject).2
  have hf' : (cfg.verifier now).expectedAudience.bind
      (verifyAudience (payload.lookup "aud")) = some f := hf
  rw [hnone] at hf'
  cases hf'

/-- A runtime with the audience of another that attests an object does not refuse it either. -/
theorem Attests.not_refusesAudience_of_eq {payload : Payload} {exp : DateTime}
    (h : cfg.Attests env now g payload exp) (hcrypto : cfg'.crypto = cfg.crypto)
    (hbundle : cfg'.trustBundle = cfg.trustBundle)
    (haudience : cfg'.expectedAudience = cfg.expectedAudience) : ¬cfg'.RefusesAudience now g := by
  rintro ⟨t, payload', sub, f, ht, hpayload, hf⟩
  rw [attestedPayload_congr hcrypto hbundle] at hpayload
  rw [haudience] at hf
  exact h.not_refusesAudience ⟨t, payload', sub, f, ht, hpayload, hf⟩

/-- Otherwise it denies the object for its audience. -/
theorem verify_of_refusesAudience {payload : Payload} {exp : DateTime}
    (haudience : cfg'.RefusesAudience now g) (h : cfg.Attests env now g payload exp)
    (hcrypto : cfg'.crypto = cfg.crypto) (hbundle : cfg'.trustBundle = cfg.trustBundle)
    (w : World V' Ω') :
    ∃ f : Failure, f.error = .audienceMismatch ∧
      (cfg'.runtime env now).verify g.attestation g w = .ok f.result w := by
  obtain ⟨t, payload', sub', f, ht, hpayload', hf⟩ := haudience
  obtain ⟨t', ht', hcheck⟩ := h
  rw [ht, Option.some.injEq] at ht'
  subst ht'
  obtain ⟨sub, hpayload, hsubject, -⟩ := AttestationVerifier.checkAttestation_eq_ok_iff.1 hcheck
  have hsame := (attestedPayload_congr hcrypto hbundle t).symm.trans hpayload'
  rw [hpayload, Except.ok.injEq, Except.ok.injEq, Prod.mk.injEq] at hsame
  obtain ⟨rfl, rfl⟩ := hsame
  obtain ⟨expected, -, hverify⟩ := Option.bind_eq_some_iff.1 hf
  refine ⟨f, error_of_verifyAudience hverify, ?_⟩
  have hbindings : checkSubject env payload g sub (cfg'.verifier now).expectedAudience =
      .ok (.error f) := checkSubject_of_audience (checkSubject_audience_iff.1 hsubject).1 hf
  have hcheck' : (cfg'.verifier now).checkAttestation env t g.attestation g = .ok (.error f) := by
    unfold AttestationVerifier.checkAttestation
    rw [hpayload']
    show (checkBindings env payload g t sub (cfg'.verifier now).expectedAudience).map _ = _
    rw [checkBindings, hbindings]
    rfl
  show onHost ((cfg'.verifier now).verify env g.attestation g none) w = _
  rw [onHost_apply, verifier_verify_eq, ht]
  dsimp only
  rw [AttestationVerifier.verifyAt_eq, hcheck']
  rfl

end Other

end Config

/-! ### Presentations -/

/-- A call on one subject, with any arguments. -/
inductive Presentation (V Ω : Type)
  | toolCall (toolUri : Arg (World V Ω)) (requestedScope : Option (Arg (World V Ω)))
  | readState (ns key : Arg (World V Ω))
  | writeState (ns key : Arg (World V Ω)) (value : V) (mode : Mode (World V Ω))

/-- The call, on the object. -/
def Presentation.perform (env : Externals) (rt : GovernanceRuntime (World V Ω) V) (g : GCO) :
    Presentation V Ω → Py Exc (World V Ω) (Decision V)
  | toolCall toolUri requestedScope => rt.authorizeToolCall env (.gco g) toolUri requestedScope
  | readState ns key => rt.readState (.gco g) ns key
  | writeState ns key value mode => rt.writeState (.gco g) ns key value mode

/-- What does not verify is denied with the code of the verifier. -/
theorem withSubject_of_not_verified {σ : Type} {rt : GovernanceRuntime σ V} {g : GCO}
    {next : GCO → Py Exc σ (Decision V)} {r : VerificationResult} {s s' : σ}
    (h : rt.verify g.attestation g s = .ok r s') (hr : r.verified = false) :
    rt.withSubject (.gco g) next s = .ok (.deny r.errorCode r.message) s' := by
  rw [GovernanceRuntime.withSubject, coerceGco, pure_bind]
  exact whenVerified_of_not_verified h hr _

theorem Presentation.perform_of_not_verified {env : Externals}
    {rt : GovernanceRuntime (World V Ω) V} {g : GCO} {r : VerificationResult} {w w' : World V Ω}
    (h : rt.verify g.attestation g w = .ok r w') (hr : r.verified = false)
    (call : Presentation V Ω) :
    call.perform env rt g w = .ok (.deny r.errorCode r.message) w' := by
  cases call with
  | toolCall toolUri requestedScope =>
    exact attempt_of_ok (withSubject_of_not_verified h hr)
  | readState ns key => exact attempt_of_ok (withSubject_of_not_verified h hr)
  | writeState ns key value mode => exact attempt_of_ok (withSubject_of_not_verified h hr)

/-! ### What the derivation leaves in the cache -/

/-- A child that was derived has been verified last. -/
theorem verifies_of_allows_derive {cfg : Config Key Cert Store V Ω} {env : Externals}
    {now : PyDatetime} {parent : Input (World V Ω)} {request : Request (World V Ω)}
    {w w' : World V Ω} {d : Decision V}
    (h : Allows ((cfg.runtime env now).deriveForSubcall env parent request) w d w') :
    ∃ child w₁, d = .allowChild child ∧ cfg.Verifies env now child w₁ w' := by
  rw [GovernanceRuntime.deriveForSubcall, allows_attempt_iff denies_derivation] at h
  obtain ⟨h, hd⟩ := h
  unfold GovernanceRuntime.deriveForSubcallBody at h
  cases hissue : (cfg.runtime env now).issue with
  | none =>
    rw [hissue] at h
    exact absurd ⟨h, hd⟩ not_allows_deny
  | some issue =>
    rw [hissue] at h
    dsimp only at h
    obtain ⟨parentGco, w₁, -, hparent⟩ := bind_eq_ok h
    obtain ⟨w₂, -, hnext, -⟩ := allows_whenVerified_iff.1 ⟨hparent, hd⟩
    obtain ⟨delegationRequest, w₃, -, hrequest⟩ := bind_eq_ok hnext
    obtain ⟨child, w₄, -, hchild⟩ := bind_eq_ok hrequest
    obtain ⟨w₅, hverifies, hlast⟩ := allows_whenVerified_iff.1 ⟨hchild, hd⟩
    obtain ⟨-, rfl, rfl⟩ := (allows_validate_iff (.allowChild child) rfl).1 hlast
    exact ⟨child, w₄, rfl, hverifies⟩

/-- The token of the object is recorded in the cache, and has not expired. -/
def Spent (cfg : Config Key Cert Store V Ω) (env : Externals) (now : PyDatetime) (g : GCO)
    (cache : InMemoryReplayCache) : Prop :=
  ∃ t payload exp jti, now.toUtc? = some t ∧ cfg.Attests env now g payload exp ∧ jti ≠ "" ∧
    payload.lookup "jti" = some (.str jti) ∧ cache.live t jti = some exp

/-- Verification with a cache spends the token. -/
theorem spent_of_verifies {cfg : Config Key Cert Store V Ω} {env : Externals} {now : PyDatetime}
    {g : GCO} {w w' : World V (InMemoryReplayCache × Ω)}
    (h : cfg.withCache.Verifies env now g w w') : Spent cfg env now g w'.host.1 := by
  obtain ⟨payload, exp, t, jti, ht, hattests, hne, hjti, hrecord, rfl⟩ :=
    Config.verifies_withCache_iff.1 h
  refine ⟨t, payload, exp, jti, ht, hattests, hne, hjti, ?_⟩
  dsimp only
  rw [InMemoryReplayCache.live_checkAndRecord _ _ (hattests.lt ht), if_pos ⟨hrecord, rfl⟩]

/-- Minting spends the token of the child. -/
theorem spent_of_allows_derive {cfg : Config Key Cert Store V Ω} {env : Externals}
    {now : PyDatetime} {parent : Input (World V (InMemoryReplayCache × Ω))}
    {request : Request (World V (InMemoryReplayCache × Ω))}
    {w w' : World V (InMemoryReplayCache × Ω)} {d : Decision V}
    (h : Allows ((cfg.withCache.runtime env now).deriveForSubcall env parent request) w d w')
    {child : GCO} (hchild : d.child = some child) : Spent cfg env now child w'.host.1 := by
  obtain ⟨child', w₁, rfl, hverifies⟩ := verifies_of_allows_derive h
  cases hchild
  exact spent_of_verifies hverifies

/-- A spent token is a replay for every runtime with the cache that does not refuse its audience. -/
theorem verify_of_spent {V' Ω' : Type} {cfg : Config Key Cert Store V Ω}
    {cfg' : Config Key Cert Store V' Ω'} (hcrypto : cfg'.crypto = cfg.crypto)
    (hbundle : cfg'.trustBundle = cfg.trustBundle) {env : Externals} {now : PyDatetime} {g : GCO}
    {w : World V' (InMemoryReplayCache × Ω')} (h : Spent cfg env now g w.host.1)
    (haudience : ¬cfg'.RefusesAudience now g) :
    ∃ w', (cfg'.withCache.runtime env now).verify g.attestation g w =
      .ok replayDetected.result w' := by
  obtain ⟨t, payload, exp, jti, ht, hattests, hne, hjti, hlive⟩ := h
  have hattests' : cfg'.withCache.Attests env now g payload exp :=
    hattests.of_bundle hcrypto hbundle haudience
  have hrefused : (w.host.1.checkAndRecord jti exp t).1 = false := by
    by_contra haccepted
    rw [Bool.not_eq_false, InMemoryReplayCache.checkAndRecord_fst, hlive] at haccepted
    cases haccepted.1
  have hcache : cfg'.withCache.replayCache = some hostCache := rfl
  rw [Config.verify_of_attests hattests' ht, hcache, acceptOnce_of_jti hne hjti, onHost_apply,
    bind_apply, hostCache, InMemoryReplayCache.protocol_apply]
  dsimp only
  rw [hrefused]
  exact ⟨_, rfl⟩

/-- The first presentation of a child that was just minted, at the same instant and to a runtime
with the trust bundle and the cache of the one that minted it, is not denied as a replay exactly
when that runtime refuses the audience of the token. On a runtime with the audience of the minting
one it always is. -/
theorem minted_child_not_replayed_iff {V' Ω' : Type} (cfg : Config Key Cert Store V Ω)
    (cfg' : Config Key Cert Store V' Ω') (hcrypto : cfg'.crypto = cfg.crypto)
    (hbundle : cfg'.trustBundle = cfg.trustBundle) (env : Externals) (now : PyDatetime)
    (parent : Input (World V (InMemoryReplayCache × Ω)))
    (request : Request (World V (InMemoryReplayCache × Ω)))
    (w w₁ : World V (InMemoryReplayCache × Ω)) (d : Decision V) (child : GCO)
    (hderive : Allows ((cfg.withCache.runtime env now).deriveForSubcall env parent request) w d w₁)
    (hchild : d.child = some child) (w₂ : World V' (InMemoryReplayCache × Ω'))
    (hkept : ∀ t, now.toUtc? = some t → ∀ jti exp, w₁.host.1.live t jti = some exp →
      w₂.host.1.live t jti = some exp)
    (call : Presentation V' (InMemoryReplayCache × Ω')) :
    ((∀ d' w₃, call.perform env (cfg'.withCache.runtime env now) child w₂ = .ok d' w₃ →
        d'.errorCode ≠ some (.attestation .replayDetected)) ↔ cfg'.RefusesAudience now child) ∧
      (cfg'.expectedAudience = cfg.expectedAudience → ¬cfg'.RefusesAudience now child) := by
  obtain ⟨t, payload, exp, jti, ht, hattests, hne, hjti, hlive⟩ :=
    spent_of_allows_derive hderive hchild
  refine ⟨⟨?_, ?_⟩, ?_⟩
  · intro hfine
    by_contra haudience
    obtain ⟨w₃, hverify⟩ := verify_of_spent hcrypto hbundle
      ⟨t, payload, exp, jti, ht, hattests, hne, hjti, hkept t ht jti exp hlive⟩ haudience
    exact hfine _ _ (call.perform_of_not_verified hverify rfl) rfl
  · intro haudience d' w₃ hperform
    have haudience' : cfg'.withCache.RefusesAudience now child := haudience
    obtain ⟨f, hcode, hverify⟩ :=
      Config.verify_of_refusesAudience haudience' hattests hcrypto hbundle w₂
    rw [call.perform_of_not_verified hverify rfl] at hperform
    cases hperform
    show some (ErrorCode.attestation f.error) ≠ _
    rw [hcode]
    simp
  · exact Config.Attests.not_refusesAudience_of_eq hattests hcrypto hbundle

/-! ### The first presentation of a child -/

open GcoMcp

/-- The world in which `demoChild` is minted, with a new cache. -/
def demoMintingWorld : World String (InMemoryReplayCache × Unit) :=
  (demoWorld .empty).withCache .new

/-- The cache once `demoRoot` was verified, and once `demoChild` was. -/
def demoRootCache : InMemoryReplayCache :=
  (InMemoryReplayCache.new.checkAndRecord "root-jti" demoRoot.expiresAt demoNow).2

def demoChildCache : InMemoryReplayCache :=
  (demoRootCache.checkAndRecord "child-jti" demoChild.expiresAt demoNow).2

theorem runtime_validate_of_ok (cfg : Config Key Cert Store V Ω) {env : Externals}
    {now : PyDatetime} {parent child : GCO} (h : validate env now parent child = .ok ())
    (w : World V Ω) : (cfg.runtime env now).validate parent child w = .ok () w := by
  show (Py.ofExcept (validate env now parent child) : Py Exc (World V Ω) Unit) w = _
  rw [h]
  rfl

theorem derives_demoChild :
    Allows ((mintingConfig.withCache.runtime demoExternals demoNow.toPy).deriveForSubcall
        demoExternals (.gco demoRoot) (.request demoDelegation)) demoMintingWorld
      (.allowChild demoChild) ((demoWorld .empty).withCache demoChildCache) := by
  have hroot : mintingConfig.withCache.Verifies demoExternals demoNow.toPy demoRoot
      demoMintingWorld ((demoWorld .empty).withCache demoRootCache) :=
    Config.verifies_withCache_iff.2 ⟨_, _, demoNow, "root-jti", PyDatetime.toUtc?_toPy demoNow,
      attests_demoRoot, by decide, rfl, by decide, rfl⟩
  have hchild : mintingConfig.withCache.Verifies demoExternals demoNow.toPy demoChild
      ((demoWorld .empty).withCache demoRootCache)
      ((demoWorld .empty).withCache demoChildCache) :=
    Config.verifies_withCache_iff.2 ⟨_, _, demoNow, "child-jti", PyDatetime.toUtc?_toPy demoNow,
      attests_demoChild, by decide, rfl, by decide, rfl⟩
  refine allows_deriveForSubcall_iff.2 ⟨_, rfl, _, demoChild,
    (demoWorld .empty).withCache demoRootCache, hroot, ?_, hchild, validate_demo, rfl⟩
  -- neither the authority nor the validator touches the cache
  refine GCODerivationRuntime.derive_eq_ok_iff.2 ⟨demoChild.toolAuthority,
    demoChild.stateAccessPermissions, 0xa1, (demoWorld .empty).withCache demoRootCache,
    (demoWorld .empty).withCache demoRootCache, some ⟨.jwtSvid, demoChildToken, none⟩,
    (demoWorld .empty).withCache demoRootCache, derivePlan_demo, rfl,
    serializable_demoRoot, ?_, rfl, ?_, ?_⟩
  · rw [childWithoutAttestation_demo]
    exact runtime_validate_of_ok mintingConfig.withCache validate_placeholder_demo _
  · rw [childWithoutAttestation_demo]
    rfl
  · exact runtime_validate_of_ok mintingConfig.withCache validate_demo _

theorem attests_mintedChild : mintingConfig.Attests demoExternals demoNow.toPy demoChild
    (demoPayload demoChild demoChildClaims) demoChild.expiresAt := attests_demoChild

/-- `demoChild` is minted with a token whose `jti` was not recorded before, in a cache with room,
and its first use on the runtime that minted it is denied as a replay. -/
theorem minted_child_replayed :
    ∃ w₁, Allows ((mintingConfig.withCache.runtime demoExternals demoNow.toPy).deriveForSubcall
        demoExternals (.gco demoRoot) (.request demoDelegation)) demoMintingWorld
        (.allowChild demoChild) w₁ ∧
      demoMintingWorld.host.1.entries.size + 2 ≤ demoMintingWorld.host.1.maxEntries ∧
      (demoPayload demoChild demoChildClaims).lookup "jti" = some (.str "child-jti") ∧
      demoMintingWorld.host.1.entries.get? "child-jti" = none ∧
      ∃ d w₂, (mintingConfig.withCache.runtime demoExternals demoNow.toPy).authorizeToolCall
          demoExternals (.gco demoChild) (.str "mcp://tools/search") (some (.str "read")) w₁ =
            .ok d w₂ ∧
        d.errorCode = some (.attestation .replayDetected) := by
  refine ⟨_, derives_demoChild, by decide, rfl, rfl, ?_⟩
  obtain ⟨w₂, hverify⟩ := verify_of_spent rfl rfl (spent_of_allows_derive derives_demoChild rfl)
    attests_mintedChild.not_refusesAudience
  exact ⟨_, w₂, (Presentation.toolCall (.str "mcp://tools/search")
    (some (.str "read"))).perform_of_not_verified hverify rfl, rfl⟩

/-- The same runtime, but for an audience that the token of `demoChild` does not name. -/
def demoElsewhere : Config Unit Unit Unit String Unit :=
  { mintingConfig with expectedAudience := some ["elsewhere"] }

theorem refusesAudience_demo : demoElsewhere.RefusesAudience demoNow.toPy demoChild := by
  obtain ⟨t, ht, hcheck⟩ := attests_mintedChild
  obtain ⟨sub, hpayload, -, -⟩ := AttestationVerifier.checkAttestation_eq_ok_iff.1 hcheck
  have hcrypto : demoElsewhere.crypto = mintingConfig.crypto := rfl
  have hbundle : demoElsewhere.trustBundle = mintingConfig.trustBundle := rfl
  have haud : (demoPayload demoChild demoChildClaims).lookup "aud" = none := rfl
  refine ⟨t, _, sub, failure .audienceMismatch "attestation audience is missing or malformed", ht,
    (Config.attestedPayload_congr hcrypto hbundle t).trans hpayload, ?_⟩
  rw [haud]
  rfl

/-- It does not deny `demoChild` as a replay. -/
theorem minted_child_not_replayed_demo :
    ¬∃ d w, (Presentation.readState (.str "shared") (.str "k")).perform demoExternals
        (demoElsewhere.withCache.runtime demoExternals demoNow.toPy) demoChild
        ((demoWorld .empty).withCache demoChildCache) = .ok d w ∧
      d.errorCode = some (.attestation .replayDetected) := by
  rintro ⟨d, w, h, hcode⟩
  exact (minted_child_not_replayed_iff mintingConfig demoElsewhere rfl rfl demoExternals
    demoNow.toPy _ _ _ _ _ demoChild derives_demoChild rfl _ (fun _ _ _ _ h => h) _).1.2
    refusesAudience_demo d w h hcode

end Gco
