import GcoSpec.Gco.Attestation
import GcoSpec.Gco.Delegation

/-!
# Time claims

When the checks of `exp`, `nbf` and `iat` pass, fail and raise. `numericDate` is total but for
integers that no double can hold, on which `math.isfinite` raises outside the guard, so
`verify` returns unless such an integer is reached (`verify_returns_iff`).
-/

namespace Gco

open Python

variable {Key Cert Store σ : Type}

/-- An `int` that `math.isfinite` refuses. -/
def oversized : Number → Prop
  | .int n => tooLargeForDouble n
  | .float _ => False

/-- The claim is an `int` that `math.isfinite` refuses. -/
def ClaimOversized (payload : Payload) (key : String) : Prop :=
  ∃ x, (payload.lookup key).bind PyVal.number? = some x ∧ oversized x

/-- The claim is a number that stands for the time `t`. -/
def ClaimTime (payload : Payload) (key : String) (t : DateTime) : Prop :=
  ∃ x, (payload.lookup key).bind PyVal.number? = some x ∧ isfinite x = some true ∧
    DateTime.fromTimestamp x = .ok t

/-- `exp` is a time after `now`. -/
def Unexpired (payload : Payload) (now : DateTime) : Prop :=
  ∃ t, ClaimTime payload "exp" t ∧ now < t

/-- The claim is absent, or a time that is not after `now`. -/
def NotFuture (payload : Payload) (key : String) (now : DateTime) : Prop :=
  getNotNone payload key = none ∨ ∃ t, ClaimTime payload key t ∧ t ≤ now

theorem isfinite_eq_none_iff {x : Number} : isfinite x = none ↔ oversized x := by
  unfold isfinite oversized
  rcases x with n | (q | _ | _ | _)
  · dsimp only
    split_ifs with h <;> simp [h]
  all_goals simp

theorem numericDate_eq_error_iff {x : Number} : (∃ e, numericDate x = .error e) ↔ oversized x := by
  rw [← isfinite_eq_none_iff]
  unfold numericDate
  rcases isfinite x with _ | _ | _
  · simp
  · simp
  · dsimp only
    cases DateTime.fromTimestamp x <;> simp

theorem numericDate_eq_some_iff {x : Number} {t : DateTime} :
    numericDate x = .ok (some t) ↔
      isfinite x = some true ∧ DateTime.fromTimestamp x = .ok t := by
  unfold numericDate
  rcases isfinite x with _ | _ | _
  · simp
  · simp
  · dsimp only
    cases DateTime.fromTimestamp x <;> simp

/-! ### One claim -/

theorem checkExp_eq_error_iff {payload : Payload} {now : DateTime} :
    (∃ e, checkExp payload now = .error e) ↔ ClaimOversized payload "exp" := by
  unfold checkExp ClaimOversized
  cases (payload.lookup "exp").bind PyVal.number? with
  | none => simp
  | some x =>
    simp only [Option.some.injEq, exists_eq_left', ← numericDate_eq_error_iff]
    refine except_bind_eq_error_iff_of_returns fun t => ?_
    -- the comparison raises nothing
    cases t with
    | none => exact ⟨_, rfl⟩
    | some t =>
      dsimp only
      split_ifs
      · exact ⟨_, rfl⟩
      · exact ⟨_, rfl⟩

theorem checkExp_eq_ok_iff {payload : Payload} {now t : DateTime} :
    checkExp payload now = .ok (.ok t) ↔ ClaimTime payload "exp" t ∧ now < t := by
  unfold checkExp ClaimTime
  cases (payload.lookup "exp").bind PyVal.number? with
  | none => simp
  | some x =>
    simp only [Option.some.injEq, exists_eq_left', ← numericDate_eq_some_iff]
    rcases numericDate x with e | _ | s
    · simp [bind, Except.bind]
    · simp [bind, Except.bind, pure, Except.pure]
    · simp only [bind, Except.bind, pure, Except.pure, Except.ok.injEq, Option.some.injEq]
      split_ifs with h
      · simp only [Except.ok.injEq, reduceCtorEq, false_iff, not_and, not_lt]
        rintro rfl
        exact h
      · simp only [Except.ok.injEq]
        exact ⟨fun hs => ⟨hs, hs ▸ not_le.1 h⟩, And.left⟩

/-- The claim read by `getNotNone` is a number exactly when the one in the payload is. -/
theorem getNotNone_bind_number? (payload : Payload) (key : String) :
    (getNotNone payload key).bind PyVal.number? = (payload.lookup key).bind PyVal.number? := by
  unfold getNotNone
  split
  · next h => rw [h]; rfl
  · rfl

theorem checkNotFuture_eq_error_iff {payload : Payload} {now : DateTime} {key m f : String} :
    (∃ e, checkNotFuture payload now key m f = .error e) ↔ ClaimOversized payload key := by
  unfold checkNotFuture ClaimOversized
  rw [← getNotNone_bind_number?]
  cases getNotNone payload key with
  | none => simp
  | some v =>
    rw [Option.bind_some]
    dsimp only
    cases v.number? with
    | none => simp
    | some x =>
      simp only [Option.some.injEq, exists_eq_left', ← numericDate_eq_error_iff]
      refine except_bind_eq_error_iff_of_returns fun t => ?_
      cases t with
      | none => exact ⟨_, rfl⟩
      | some t =>
        dsimp only
        split_ifs
        · exact ⟨_, rfl⟩
        · exact ⟨_, rfl⟩

theorem checkNotFuture_eq_ok_iff {payload : Payload} {now : DateTime} {key m f : String} :
    checkNotFuture payload now key m f = .ok (.ok ()) ↔ NotFuture payload key now := by
  unfold checkNotFuture NotFuture ClaimTime
  rw [← getNotNone_bind_number?]
  cases getNotNone payload key with
  | none => simp
  | some v =>
    rw [Option.bind_some]
    dsimp only
    cases v.number? with
    | none => simp
    | some x =>
      simp only [Option.some.injEq, exists_eq_left', reduceCtorEq, false_or,
        ← numericDate_eq_some_iff]
      rcases numericDate x with e | _ | s
      · simp [bind, Except.bind]
      · simp [bind, Except.bind, pure, Except.pure]
      · simp only [bind, Except.bind, pure, Except.pure, Except.ok.injEq, Option.some.injEq,
          exists_eq_left']
        split_ifs with h
        · simpa using h
        · simpa using h

/-! ### All claims -/

/-- A check of a time claim meets an `int` that no double can hold: the checks run in the order
`exp`, `nbf`, `iat`, and stop at the first that fails. -/
def ReachesOversizedClaim (payload : Payload) (now : DateTime) : Prop :=
  ClaimOversized payload "exp" ∨ Unexpired payload now ∧
    (ClaimOversized payload "nbf" ∨ NotFuture payload "nbf" now ∧ ClaimOversized payload "iat")

theorem checkTimes_eq_error_iff {payload : Payload} {now : DateTime} :
    (∃ e, checkTimes payload now = .error e) ↔ ReachesOversizedClaim payload now := by
  rw [checkTimes, except_bind_eq_error_iff, checkExp_eq_error_iff]
  refine or_congr_right ?_
  constructor
  · rintro ⟨r | t, hexp, h⟩
    · obtain ⟨e, h⟩ := h
      cases h
    · refine ⟨⟨t, checkExp_eq_ok_iff.1 hexp⟩, ?_⟩
      rw [except_bind_eq_error_iff, checkNbf, checkNotFuture_eq_error_iff] at h
      refine h.imp_right ?_
      rintro ⟨r | ⟨⟩, hnbf, h⟩
      · obtain ⟨e, h⟩ := h
        cases h
      · refine ⟨checkNotFuture_eq_ok_iff.1 hnbf, ?_⟩
        rw [except_bind_eq_error_iff, checkIat, checkNotFuture_eq_error_iff] at h
        refine h.resolve_right ?_
        rintro ⟨r | ⟨⟩, -, e, h⟩ <;> cases h
  · rintro ⟨⟨t, hexp⟩, h⟩
    refine ⟨.ok t, checkExp_eq_ok_iff.2 hexp, ?_⟩
    rw [except_bind_eq_error_iff, checkNbf, checkNotFuture_eq_error_iff]
    refine h.imp_right ?_
    rintro ⟨hnbf, hiat⟩
    refine ⟨.ok (), checkNotFuture_eq_ok_iff.2 hnbf, ?_⟩
    rw [except_bind_eq_error_iff, checkIat, checkNotFuture_eq_error_iff]
    exact .inl hiat

/-- The time claims accept the payload until `t`. -/
theorem checkTimes_eq_ok_iff {payload : Payload} {now t : DateTime} :
    checkTimes payload now = .ok (.ok t) ↔ ClaimTime payload "exp" t ∧ now < t ∧
      NotFuture payload "nbf" now ∧ NotFuture payload "iat" now := by
  rw [checkTimes, except_bind_eq_ok_iff]
  constructor
  · rintro ⟨r | s, hexp, h⟩
    · cases h
    · obtain ⟨r | ⟨⟩, hnbf, h⟩ := except_bind_eq_ok_iff.1 h
      · cases h
      · obtain ⟨r | ⟨⟩, hiat, h⟩ := except_bind_eq_ok_iff.1 h
        · cases h
        · cases h
          obtain ⟨htime, hlt⟩ := checkExp_eq_ok_iff.1 hexp
          exact ⟨htime, hlt, checkNotFuture_eq_ok_iff.1 hnbf, checkNotFuture_eq_ok_iff.1 hiat⟩
  · rintro ⟨htime, hlt, hnbf, hiat⟩
    refine ⟨.ok t, checkExp_eq_ok_iff.2 ⟨htime, hlt⟩, ?_⟩
    refine except_bind_eq_ok_iff.2 ⟨.ok (), checkNotFuture_eq_ok_iff.2 hnbf, ?_⟩
    exact except_bind_eq_ok_iff.2 ⟨.ok (), checkNotFuture_eq_ok_iff.2 hiat, rfl⟩

/-! ### When `verify` returns -/

theorem returns_acceptOnce {replayCache : Option (ReplayCache σ)}
    (hcache : ∀ cache ∈ replayCache, ∀ jti expiresAt now,
      Returns (cache.checkAndRecord jti expiresAt now))
    (payload : Payload) (expTime now : DateTime) :
    Returns (acceptOnce replayCache payload expTime now) := by
  intro s
  cases replayCache with
  | none => exact ⟨_, s, rfl⟩
  | some cache =>
    by_cases hjti : ∃ jti, jti ≠ "" ∧ payload.lookup "jti" = some (.str jti)
    · obtain ⟨jti, hne, hjti⟩ := hjti
      obtain ⟨b, s', h⟩ := hcache cache rfl jti expTime now s
      rw [acceptOnce_of_jti hne hjti, bind_apply, h]
      cases b <;> exact ⟨_, s', rfl⟩
    · rw [acceptOnce_of_no_jti fun jti hne h => hjti ⟨jti, hne, h⟩]
      exact ⟨_, s, rfl⟩

/-- `verify` raises exactly when one of its checks does. -/
theorem verifyAt_eq_ok_iff (env : Externals) (v : AttestationVerifier Key Cert Store σ)
    (hcache : ∀ cache ∈ v.replayCache, ∀ jti expiresAt now,
      Returns (cache.checkAndRecord jti expiresAt now))
    (now : DateTime) (attestation : Option AttestationModel) (g : GCO) (s : σ) :
    (∃ result s', v.verifyAt env now attestation g s = .ok result s') ↔
      ¬∃ e, v.checkAttestation env now attestation g = .error e := by
  rw [v.verifyAt_eq env]
  unfold AttestationVerifier.accept
  rcases v.checkAttestation env now attestation g with e | r | ⟨payload, expTime⟩
  · simp only [Except.error.injEq, exists_eq', not_true_eq_false, iff_false]
    rintro ⟨result, s', h⟩
    cases h
  · simp only [reduceCtorEq, exists_false, not_false_eq_true, iff_true]
    exact ⟨r.result, s, rfl⟩
  · simp only [reduceCtorEq, exists_false, not_false_eq_true, iff_true]
    exact returns_acceptOnce hcache payload expTime now s

/-- Under a trusted signature, the checks raise exactly at a digest that cannot be computed or at
an oversized time claim that the checks of the subject let through. -/
theorem checkAttestation_eq_error_iff (env : Externals)
    {v : AttestationVerifier Key Cert Store σ} {now : DateTime}
    {attestation : Option AttestationModel} {g : GCO} {payload : Payload} {sub : Option String}
    (hpayload : v.attestedPayload now attestation g = .ok (.ok (payload, sub))) :
    (∃ e, v.checkAttestation env now attestation g = .error e) ↔
      SubMatches payload g sub ∧ ¬g.Serializable ∨
        checkSubject env payload g sub v.expectedAudience = .ok (.ok ()) ∧
          ReachesOversizedClaim payload now := by
  have hcheck : v.checkAttestation env now attestation g =
      (checkBindings env payload g now sub v.expectedAudience).map
        (Except.map fun expTime => (payload, expTime)) := by
    rw [AttestationVerifier.checkAttestation, hpayload]
    rfl
  have hsubject : SubMatches payload g sub ∧ ¬g.Serializable ↔
      ∃ e, checkSubject env payload g sub v.expectedAudience = .error e := by
    simp [checkSubject_eq_error_iff]
  rw [hcheck, ← checkTimes_eq_error_iff, hsubject]
  unfold checkBindings
  rcases checkSubject env payload g sub v.expectedAudience with e | r | ⟨⟩
  · simp [bind, Except.bind, Except.map]
  · simp [bind, Except.bind, pure, Except.pure, Except.map]
  · rcases checkTimes payload now with e | r <;> simp [bind, Except.bind, Except.map]

/-- `verify` at a reading of the clock. -/
theorem verify_apply (env : Externals) (v : AttestationVerifier Key Cert Store σ)
    (attestation : Option AttestationModel) (g : GCO) {clock : Option (Py Exc σ PyDatetime)} {s : σ}
    (now : PyDatetime) (hclock : clock.getD v.now s = .ok now s) :
    v.verify env attestation g clock s = match now.toUtc? with
      | none => .error (.overflowError "date value out of range") s
      | some t => v.verifyAt env t attestation g s := by
  rw [AttestationVerifier.verify, bind_apply, AttestationVerifier.coerceNow, bind_apply, hclock]
  dsimp only
  cases now.toUtc? <;> rfl

/-- With a trusted signature, `verify` returns exactly when the clock value has a UTC form, the GCO
whose subject matches has a digest, and no check of a time claim meets an integer that no double
can hold. -/
theorem verify_returns_iff (env : Externals) (v : AttestationVerifier Key Cert Store σ)
    (hcache : ∀ cache ∈ v.replayCache, ∀ jti expiresAt now,
      Returns (cache.checkAndRecord jti expiresAt now))
    (a : AttestationModel) (g : GCO) (clock : Option (Py Exc σ PyDatetime)) (s : σ)
    (now : PyDatetime) (hclock : clock.getD v.now s = .ok now s) (payload : Payload)
    (sub : Option String) (hpayload : ∀ t, now.toUtc? = some t →
      v.attestedPayload t (some a) g = .ok (.ok (payload, sub))) :
    (∃ result s', v.verify env (some a) g clock s = .ok result s') ↔
      ∃ t, now.toUtc? = some t ∧ (SubMatches payload g sub → g.Serializable) ∧
        ¬(checkSubject env payload g sub v.expectedAudience = .ok (.ok ()) ∧
          ReachesOversizedClaim payload t) := by
  rw [verify_apply env v (some a) g now hclock]
  cases hnow : now.toUtc? with
  | none => simp
  | some t =>
    simp only [Option.some.injEq, exists_eq_left']
    rw [verifyAt_eq_ok_iff env v hcache, checkAttestation_eq_error_iff env (hpayload t hnow),
      not_or, not_and, not_not]

/-! ### A verifier -/

/-- The header of the tokens below. -/
def demoHeader : Payload := [("alg", .str "ES256"), ("kid", .str "k1"), ("typ", .str "JWT")]

/-- A key `k1`, and the tokens signed with it. -/
def tokenCrypto (tokens : List (String × Payload)) : Crypto Unit Unit Unit where
  unverifiedHeader token := (tokens.lookup token).map fun _ => demoHeader
  unverifiedPayload token := tokens.lookup token
  decode token _ algorithms :=
    match tokens.lookup token with
    | some payload => if "ES256" ∈ algorithms then .ok (.dict payload) else .error .other
    | none => .error .other
  keyKind _ := .ec
  loadX5cCert _ := none
  sanUris _ := none
  publicKey _ := .ok ()
  verifyChain _ _ _ _ := .error .verification

def demoBundle : TrustBundle Unit Unit Unit where
  domains := Dict.ofPairs [("example.org", ⟨Dict.ofPairs [("k1", ())], [], none⟩)]
  expectedAudience := none

/-- A verifier at `demoNow` that trusts `k1` for `example.org`. -/
def demoVerifier (tokens : List (String × Payload)) (replayCache : Option (ReplayCache σ)) :
    AttestationVerifier Unit Unit Unit σ :=
  ⟨tokenCrypto tokens, demoBundle, pure demoNow.toPy, none, replayCache⟩

theorem decodeWithKey_demo {tokens : List (String × Payload)} {token : String} {payload : Payload}
    (h : tokens.lookup token = some payload) :
    decodeWithKey (tokenCrypto tokens) token () demoHeader = .ok payload := by
  have halg : (demoHeader.lookup "alg").bind PyVal.str? = some "ES256" := rfl
  have hlower : ¬"ES256".toList.map Char.toLower = "none".toList := by decide
  have hmem : "ES256" ∈ ecAlgorithms := by decide
  simp only [decodeWithKey, halg, hlower, if_false, tokenCrypto, allowedAlgorithms, h, hmem,
    not_true, if_true, PyVal.mapping?]

theorem jwtSvidPayload_demo {tokens : List (String × Payload)}
    (replayCache : Option (ReplayCache σ)) {token : String} {payload : Payload}
    (h : tokens.lookup token = some payload)
    (hsub : payload.lookup "sub" = some (.str "spiffe://example.org/agent")) :
    (demoVerifier tokens replayCache).jwtSvidPayload token = .ok payload := by
  have hdomain : trustDomain (some (.str "spiffe://example.org/agent")) = some "example.org" := by
    decide
  have hkey : demoBundle.domains.get? "example.org" =
      some ⟨Dict.ofPairs [("k1", ())], [], none⟩ := rfl
  have hselect : selectJwk
      (⟨Dict.ofPairs [("k1", ())], [], none⟩ : TrustDomainBundle Unit Unit Unit) demoHeader =
        .ok () := rfl
  have hdecode := decodeWithKey_demo h
  unfold AttestationVerifier.jwtSvidPayload
  simp only [demoVerifier, tokenCrypto, h, Option.map_some, hsub, hdomain, Option.bind_some, hkey]
  rw [hselect]
  exact hdecode

/-- A payload that binds `g`, with further claims. -/
def payloadFor (env : Externals) (g : GCO) (claims : Payload) : Payload :=
  ("sub", .str "spiffe://example.org/agent") ::
    ("gco_hash", .str (canonicalDigest env g)) :: claims

theorem attestedPayload_payloadFor (env : Externals) {tokens : List (String × Payload)}
    (replayCache : Option (ReplayCache σ)) {token : String} (hne : token ≠ "") {g : GCO}
    {claims : Payload} (h : tokens.lookup token = some (payloadFor env g claims)) (now : DateTime)
    (g' : GCO) :
    (demoVerifier tokens replayCache).attestedPayload now (some ⟨.jwtSvid, token, none⟩) g' =
      .ok (.ok (payloadFor env g claims, none)) := by
  simp only [AttestationVerifier.attestedPayload, if_neg hne, jwtSvidPayload_demo replayCache h rfl]
  rfl

theorem checkSubject_payloadFor (env : Externals) {g : GCO} (hg : g.modelIdentity = demoIdentity)
    (hfits : g.Serializable) (claims : Payload) :
    checkSubject env (payloadFor env g claims) g none none = .ok (.ok ()) := by
  refine checkSubject_eq_ok_iff.2 ⟨?_, hfits, rfl, rfl⟩
  rw [SubMatches, strOr, hg]
  rfl

/-- A token with an expiry in range is accepted until then. -/
theorem checkAttestation_payloadFor (env : Externals) {tokens : List (String × Payload)}
    (replayCache : Option (ReplayCache σ)) {token : String} (hne : token ≠ "") {g : GCO}
    (hg : g.modelIdentity = demoIdentity) (hfits : g.Serializable) {exp : ℤ} {jti : String}
    (h : tokens.lookup token = some (payloadFor env g [("exp", .int exp), ("jti", .str jti)]))
    {now t : DateTime} (hfinite : ¬tooLargeForDouble exp)
    (hexp : DateTime.fromTimestamp (.int exp) = .ok t) (hlt : now < t) :
    (demoVerifier tokens replayCache).checkAttestation env now (some ⟨.jwtSvid, token, none⟩) g =
      .ok (.ok (payloadFor env g [("exp", .int exp), ("jti", .str jti)], t)) := by
  have htimes : checkTimes (payloadFor env g [("exp", .int exp), ("jti", .str jti)]) now =
      .ok (.ok t) := by
    refine checkTimes_eq_ok_iff.2 ⟨⟨.int exp, rfl, ?_, hexp⟩, hlt, .inl rfl, .inl rfl⟩
    rw [isfinite, if_neg hfinite]
  rw [AttestationVerifier.checkAttestation, attestedPayload_payloadFor env replayCache hne h]
  show (checkBindings env _ g now none none).map _ = _
  rw [checkBindings, checkSubject_payloadFor env hg hfits]
  show (checkTimes _ now).map _ = _
  rw [htimes]
  rfl

/-- The same, with the digest of `demoExternals`. -/
def demoPayload (g : GCO) (claims : Payload) : Payload :=
  ("sub", .str "spiffe://example.org/agent") ::
    ("gco_hash", .str (canonicalDigest demoExternals g)) :: claims

theorem attestedPayload_demo {tokens : List (String × Payload)}
    (replayCache : Option (ReplayCache σ)) {token : String} (hne : token ≠ "") {g : GCO}
    {claims : Payload} (h : tokens.lookup token = some (demoPayload g claims)) (now : DateTime)
    (g' : GCO) :
    (demoVerifier tokens replayCache).attestedPayload now (some ⟨.jwtSvid, token, none⟩) g' =
      .ok (.ok (demoPayload g claims, none)) :=
  attestedPayload_payloadFor demoExternals replayCache hne h now g'

theorem checkSubject_demo {g : GCO} (hg : g.modelIdentity = demoIdentity) (hfits : g.Serializable)
    (claims : Payload) :
    checkSubject demoExternals (demoPayload g claims) g none none = .ok (.ok ()) :=
  checkSubject_payloadFor demoExternals hg hfits claims

theorem checkAttestation_demo {tokens : List (String × Payload)}
    (replayCache : Option (ReplayCache σ)) {token : String} (hne : token ≠ "") {g : GCO}
    (hg : g.modelIdentity = demoIdentity) (hfits : g.Serializable) {exp : ℤ} {jti : String}
    (h : tokens.lookup token = some (demoPayload g [("exp", .int exp), ("jti", .str jti)]))
    {now t : DateTime} (hfinite : ¬tooLargeForDouble exp)
    (hexp : DateTime.fromTimestamp (.int exp) = .ok t) (hlt : now < t) :
    (demoVerifier tokens replayCache).checkAttestation demoExternals now
        (some ⟨.jwtSvid, token, none⟩) g =
      .ok (.ok (demoPayload g [("exp", .int exp), ("jti", .str jti)], t)) :=
  checkAttestation_payloadFor demoExternals replayCache hne hg hfits h hfinite hexp hlt

theorem verify_demo (tokens : List (String × Payload)) (replayCache : Option (ReplayCache σ))
    (attestation : Option AttestationModel) (g : GCO) (s : σ) :
    (demoVerifier tokens replayCache).verify demoExternals attestation g none s =
      (demoVerifier tokens replayCache).verifyAt demoExternals demoNow attestation g s := by
  rw [verify_apply demoExternals _ attestation g demoNow.toPy rfl, PyDatetime.toUtc?_toPy]

theorem verify_demo_ok {tokens : List (String × Payload)} {token : String} (hne : token ≠ "")
    {g : GCO} (hg : g.modelIdentity = demoIdentity) (hfits : g.Serializable) {exp : ℤ}
    {jti : String}
    (h : tokens.lookup token = some (demoPayload g [("exp", .int exp), ("jti", .str jti)]))
    {t : DateTime} (hfinite : ¬tooLargeForDouble exp)
    (hexp : DateTime.fromTimestamp (.int exp) = .ok t) (hlt : demoNow < t) (s : σ) :
    (demoVerifier tokens none).verify demoExternals (some ⟨.jwtSvid, token, none⟩) g none s =
      .ok .ok s := by
  rw [verify_demo, AttestationVerifier.verifyAt_eq,
    checkAttestation_demo none hne hg hfits h hfinite hexp hlt]
  rfl

/-- A token for `demoRoot` whose `exp` is `10 ^ 309`. -/
def demoHugeToken : String :=
  "eyJhbGciOiJFUzI1NiIsImtpZCI6ImsxIiwidHlwIjoiSldUIn0.eyJzdWIiOiJzcGlmZmU6Ly9leGFtcGxlLm9yZy" ++
    "9hZ2VudCIsImdjb19oYXNoIjoiNWM5OTViZmQ3OTQ5MjFkMGY1YmVkYmNlZmFjNDhhMjdjY2JhMGViYzVjNzBkNzgw" ++
    "NmZiZGEwNmZiNTVjYzNkYSIsImV4cCI6MTAwMDAwMDAwMDAwMDAwMDAwMDAwMDAwMDAwMDAwMDAwMDAwMDAwMDAwMD" ++
    "AwMDAwMDAwMDAwMDAwMDAwMDAwMDAwMDAwMDAwMDAwMDAwMDAwMDAwMDAwMDAwMDAwMDAwMDAwMDAwMDAwMDAwMDAw" ++
    "MDAwMDAwMDAwMDAwMDAwMDAwMDAwMDAwMDAwMDAwMDAwMDAwMDAwMDAwMDAwMDAwMDAwMDAwMDAwMDAwMDAwMDAwMD" ++
    "AwMDAwMDAwMDAwMDAwMDAwMDAwMDAwMDAwMDAwMDAwMDAwMDAwMDAwMDAwMDAwMDAwMDAwMDAwMDAwMDAwMDAwMDAw" ++
    "MDAwMDAwMDAwMDAwMDAwMDAwMDAwMDAwMDAwMDAwMDAwMDAwMDAwMDAwMDAwMDAwMDAwMDAwMDAwMDAwMDAwMH0.tl" ++
    "1sdJ3s2vevFheatkJAKRP4i6NQzB8xxP6RBHS3FJwHg9yRgD00RBBACod1HPHrnwp8VYkIV9Z7m6NdbE155g"

def demoHugePayload : Payload := demoPayload demoRoot [("exp", .int (10 ^ 309))]

theorem claimOversized_demoHugePayload : ClaimOversized demoHugePayload "exp" :=
  ⟨.int (10 ^ 309), rfl, by unfold oversized tooLargeForDouble; decide +kernel⟩

theorem demoHugeToken_ne_empty : demoHugeToken ≠ "" := by decide +kernel

/-- The checks of the token pass, and `verify` raises. -/
theorem verify_raises_oversized_exp :
    ((demoVerifier [(demoHugeToken, demoHugePayload)] none :
        AttestationVerifier Unit Unit Unit Unit).attestedPayload demoNow
          (some ⟨.jwtSvid, demoHugeToken, none⟩) demoRoot = .ok (.ok (demoHugePayload, none))) ∧
      ∃ e, (demoVerifier [(demoHugeToken, demoHugePayload)] none).verify demoExternals
          (some ⟨.jwtSvid, demoHugeToken, none⟩) demoRoot none () = .error e () := by
  have hpayload := attestedPayload_demo (none : Option (ReplayCache Unit)) demoHugeToken_ne_empty
    (List.lookup_cons_self : [(demoHugeToken, demoHugePayload)].lookup demoHugeToken = _) demoNow
    demoRoot
  refine ⟨hpayload, ?_⟩
  obtain ⟨e, he⟩ := (checkAttestation_eq_error_iff demoExternals hpayload).2
    (.inr ⟨checkSubject_demo rfl serializable_demoRoot _, .inl claimOversized_demoHugePayload⟩)
  refine ⟨e, ?_⟩
  rw [verify_demo, AttestationVerifier.verifyAt_eq, he]
  rfl

/-- The claims of the token of `demoRoot`. -/
def demoRootClaims : Payload := [("exp", .int 1767229200), ("jti", .str "root-jti")]

theorem not_tooLargeForDouble_demoRoot : ¬tooLargeForDouble 1767229200 := by
  unfold tooLargeForDouble
  decide +kernel

theorem fromTimestamp_demoRoot :
    DateTime.fromTimestamp (.int 1767229200) = .ok demoRoot.expiresAt := rfl

theorem not_reachesOversizedClaim_demoRoot (now : DateTime) :
    ¬ReachesOversizedClaim (demoPayload demoRoot demoRootClaims) now := by
  have habsent : ∀ key, (demoPayload demoRoot demoRootClaims).lookup key = none →
      ¬ClaimOversized (demoPayload demoRoot demoRootClaims) key := by
    rintro key h ⟨x, hx, -⟩
    rw [h] at hx
    cases hx
  rintro (⟨x, hx, hbig⟩ | ⟨-, h | ⟨-, h⟩⟩)
  · cases hx
    exact absurd hbig not_tooLargeForDouble_demoRoot
  · exact habsent "nbf" rfl h
  · exact habsent "iat" rfl h

/-- `verify` returns on the token of `demoRoot`. -/
theorem verify_returns_demo :
    ∃ result s', (demoVerifier [(demoRootToken, demoPayload demoRoot demoRootClaims)] none).verify
      demoExternals (some ⟨.jwtSvid, demoRootToken, none⟩) demoRoot none () = .ok result s' := by
  refine (verify_returns_iff demoExternals
    (demoVerifier [(demoRootToken, demoPayload demoRoot demoRootClaims)] none) (by rintro cache ⟨⟩)
    ⟨.jwtSvid, demoRootToken, none⟩ demoRoot none () demoNow.toPy rfl
    (demoPayload demoRoot demoRootClaims) none
    (fun t _ => attestedPayload_demo none demoRootToken_ne_empty List.lookup_cons_self t _)).2 ?_
  exact ⟨demoNow, PyDatetime.toUtc?_toPy demoNow, fun _ => serializable_demoRoot,
    fun h => not_reachesOversizedClaim_demoRoot demoNow h.2⟩

/-- The claims of the token of `demoChild`. -/
def demoChildClaims : Payload := [("exp", .int 1767227400), ("jti", .str "child-jti")]

/-- The tokens of `demoRoot` and `demoChild`. -/
def demoTokens : List (String × Payload) :=
  [(demoRootToken, demoPayload demoRoot demoRootClaims),
    (demoChildToken, demoPayload demoChild demoChildClaims)]

/-- Until 01:00 the token of `demoRoot` passes all checks. -/
theorem checkAttestation_demoRoot (replayCache : Option (ReplayCache σ)) {now : DateTime}
    (hlt : now < demoRoot.expiresAt) :
    (demoVerifier demoTokens replayCache).checkAttestation demoExternals now demoRoot.attestation
        demoRoot = .ok (.ok (demoPayload demoRoot demoRootClaims, demoRoot.expiresAt)) :=
  checkAttestation_demo replayCache demoRootToken_ne_empty rfl serializable_demoRoot
    List.lookup_cons_self not_tooLargeForDouble_demoRoot fromTimestamp_demoRoot hlt

/-- Until 00:30 the token of `demoChild` does. -/
theorem checkAttestation_demoChild (replayCache : Option (ReplayCache σ)) {now : DateTime}
    (hlt : now < demoChild.expiresAt) :
    (demoVerifier demoTokens replayCache).checkAttestation demoExternals now demoChild.attestation
        demoChild = .ok (.ok (demoPayload demoChild demoChildClaims, demoChild.expiresAt)) := by
  have hlookup : demoTokens.lookup demoChildToken =
      some (demoPayload demoChild demoChildClaims) := by
    rw [demoTokens, Dict.lookup_cons_ite, if_neg demoRootToken_ne_demoChildToken.symm,
      List.lookup_cons_self]
  have hfinite : ¬tooLargeForDouble 1767227400 := by
    unfold tooLargeForDouble
    decide +kernel
  exact checkAttestation_demo replayCache demoChildToken_ne_empty rfl serializable_demoChild hlookup
    hfinite rfl hlt

end Gco
