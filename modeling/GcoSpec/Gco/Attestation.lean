import GcoSpec.Gco.Canonical
import GcoSpec.Gco.ReplayCache

/-!
# Attestation verification

`AttestationVerifier.verify` checks the signature of an attestation against the trust bundle and
then what the signed payload says about the GCO.

* `Crypto` is what PyJWT and `cryptography` do with tokens, keys and certificates;
* `jwtSvidPayload` and `x509SvidPayload` lead to a payload whose signature is trusted;
* `verifyBindings` compares the payload with the GCO, the audience and the time, and consults the
  replay cache last;
* `checkAttestation` is all of it but the cache, and `verifyAt_eq` says that nothing else touches
  an object.
-/

namespace Gco

open Python

/-- A decoded JSON object. -/
abbrev Payload := List (String × PyVal)

/-! ### Third-party cryptography -/

/-- `isinstance` of a key. -/
inductive KeyKind
  | rsa
  | ec
  | other
  deriving DecidableEq

/-- The exceptions of `jwt.decode` with a key. -/
inductive DecodeError
  | invalidSignature
  | other

/-- The exceptions of chain validation. -/
inductive ChainError
  | verification
  | other

/-- The functions of PyJWT and `cryptography`; `none` stands for any exception. -/
structure Crypto (Key Cert Store : Type) where
  /-- `jwt.get_unverified_header(token)`. -/
  unverifiedHeader : String → Option Payload
  /-- `jwt.decode(token, options={"verify_signature": False, ...})`. -/
  unverifiedPayload : String → Option Payload
  /-- `jwt.decode(token, key=key, algorithms=algorithms, options=...)`. -/
  decode : String → Key → List String → Except DecodeError PyVal
  keyKind : Key → KeyKind
  /-- `_load_x5c_cert`. -/
  loadX5cCert : PyVal → Option Cert
  /-- The URIs of the subject alternative name. -/
  sanUris : Cert → Option (List String)
  /-- `cert.public_key()`. -/
  publicKey : Cert → Except Exc Key
  /-- `PolicyBuilder().store(store).time(now).build_client_verifier().verify(leaf, chain)`. -/
  verifyChain : Store → DateTime → Cert → List Cert → Except ChainError Unit

/-- `TrustDomainBundle`. -/
structure TrustDomainBundle (Key Cert Store : Type) where
  jwks : Dict String Key
  caCerts : List Cert
  caStore : Option Store

/-- `TrustBundle`. -/
structure TrustBundle (Key Cert Store : Type) where
  domains : Dict String (TrustDomainBundle Key Cert Store)
  expectedAudience : Option (List String)

variable {Key Cert Store : Type} {σ : Type}

/-! ### Trust domains and keys -/

/-- `s.startswith("spiffe://")`. -/
def isSpiffeId (s : String) : Bool := "spiffe://".toList.isPrefixOf s.toList

/-- `_trust_domain`. -/
def trustDomain (spiffeId : Option PyVal) : Option String :=
  match spiffeId.bind PyVal.str? with
  | none => none
  | some s =>
      if isSpiffeId s then
        let domain := (s.toList.drop 9).takeWhile fun c => c ≠ '/'
        if domain = [] then none else some (String.ofList domain)
      else none

/-- `_select_jwk`. -/
def selectJwk (domainBundle : TrustDomainBundle Key Cert Store) (header : Payload) :
    Except Failure Key :=
  match (header.lookup "kid").bind PyVal.str? with
  | none => .error (failure .untrustedKey "JWS header does not identify a trusted key")
  | some kid =>
      match domainBundle.jwks.get? kid with
      | none => .error (failure .untrustedKey "JWS key id is not trusted")
      | some key => .ok key

def rsaAlgorithms : List String := ["RS256", "RS384", "RS512", "PS256", "PS384", "PS512"]

def ecAlgorithms : List String := ["ES256", "ES384", "ES512"]

/-- `_allowed_algorithms`. -/
def allowedAlgorithms : KeyKind → Option (List String)
  | .rsa => some rsaAlgorithms
  | .ec => some ecAlgorithms
  | .other => none

/-- `_decode_with_key`. -/
def decodeWithKey (crypto : Crypto Key Cert Store) (token : String) (key : Key) (header : Payload) :
    Except Failure Payload :=
  match (header.lookup "alg").bind PyVal.str? with
  | none => .error (failure .malformedAttestation "JWS algorithm is missing or unsafe")
  | some alg =>
      if alg.toList.map Char.toLower = "none".toList then
        .error (failure .malformedAttestation "JWS algorithm is missing or unsafe")
      else match allowedAlgorithms (crypto.keyKind key) with
        | none => .error (failure .untrustedKey "trusted key type is unsupported")
        | some allowed =>
            if alg ∉ allowed then
              .error (failure .malformedAttestation
                "JWS algorithm is not permitted for the trusted key type")
            else match crypto.decode token key allowed with
              | .error .invalidSignature =>
                  .error (failure .unverifiedSignature "JWS signature could not be verified")
              | .error .other =>
                  .error (failure .malformedAttestation "JWS payload is malformed")
              | .ok payload =>
                  match payload.mapping? with
                  | none =>
                      .error (failure .malformedAttestation "JWS payload is not a JSON object")
                  | some items => .ok items

/-- `_leaf_spiffe_id`. -/
def leafSpiffeId (crypto : Crypto Key Cert Store) (leaf : Cert) : Option String :=
  match crypto.sanUris leaf with
  | none => none
  | some uris =>
      match uris.filter isSpiffeId with
      | [uri] => some uri
      | _ => none

/-- `_validated_x509_chain`. -/
def validatedX509Chain (crypto : Crypto Key Cert Store) (bundle : TrustBundle Key Cert Store)
    (header : Payload) (now : DateTime) : Except Failure Cert :=
  match header.lookup "x5c" with
  | some (.list (c :: cs)) =>
      match crypto.loadX5cCert c, cs.mapM crypto.loadX5cCert with
      | some leaf, some chain =>
          match leafSpiffeId crypto leaf with
          | none => .error (failure .spiffeIdMismatch "leaf certificate has no SPIFFE URI SAN")
          | some spiffe =>
              match ((trustDomain (some (.str spiffe))).bind bundle.domains.get?).bind
                  (·.caStore) with
              | none =>
                  .error (failure .untrustedKey "no CA trust anchors for SPIFFE trust domain")
              | some store =>
                  match crypto.verifyChain store now leaf chain with
                  | .error .verification =>
                      .error (failure .untrustedKey "X.509 chain does not validate to a trusted CA")
                  | .error .other =>
                      .error (failure .malformedAttestation "X.509 chain is malformed")
                  | .ok () => .ok leaf
      | _, _ => .error (failure .malformedAttestation "x5c certificate material is malformed")
  | _ => .error (failure .malformedAttestation "x5c header is missing")

/-! ### Claims -/

/-- `_numeric_date`: `math.isfinite` raises on an integer too large for a double. -/
def numericDate (value : Number) : Except Exc (Option DateTime) :=
  match isfinite value with
  | none => .error (.overflowError "int too large to convert to float")
  | some false => .ok none
  | some true =>
      match DateTime.fromTimestamp value with
      | .error _ => .ok none
      | .ok t => .ok (some t)

/-- `payload.get(key)`, when it is not `None`. -/
def getNotNone (payload : Payload) (key : String) : Option PyVal :=
  match payload.lookup key with
  | some .none => none
  | v => v

/-- The strings of an `aud` claim. -/
def audienceStrings (audience : Option PyVal) : Option (List String) :=
  match audience with
  | some (.str s) => some [s]
  | some v => v.strList?
  | none => none

/-- `_verify_audience`. -/
def verifyAudience (audience : Option PyVal) (expectedAudience : List String) :
    Option Failure :=
  match audienceStrings audience with
  | none => some (failure .audienceMismatch "attestation audience is missing or malformed")
  | some actual =>
      if ∀ a ∈ actual, a ∉ expectedAudience then
        some (failure .audienceMismatch "attestation audience does not match verifier audience")
      else none

/-- The checks of `exp`: the expiry, or the failure to return. -/
def checkExp (payload : Payload) (now : DateTime) : Except Exc (Except Failure DateTime) :=
  match (payload.lookup "exp").bind PyVal.number? with
  | none => .ok (.error (failure .malformedAttestation "attestation exp claim is missing"))
  | some exp => do
      match ← numericDate exp with
      | none => pure (.error (failure .malformedAttestation "attestation exp claim is malformed"))
      | some expTime =>
          if expTime ≤ now then
            pure (.error (failure .expiredAttestation "attestation is expired"))
          else pure (.ok expTime)

/-- The checks of an optional claim that must not lie in the future. -/
def checkNotFuture (payload : Payload) (now : DateTime) (key malformed future : String) :
    Except Exc (Except Failure Unit) :=
  match getNotNone payload key with
  | none => .ok (.ok ())
  | some value =>
      match value.number? with
      | none => .ok (.error (failure .malformedAttestation malformed))
      | some x => do
          match ← numericDate x with
          | none => pure (.error (failure .malformedAttestation malformed))
          | some t =>
              if now < t then pure (.error (failure .malformedAttestation future))
              else pure (.ok ())

def checkNbf (payload : Payload) (now : DateTime) : Except Exc (Except Failure Unit) :=
  checkNotFuture payload now "nbf" "attestation nbf claim is malformed"
    "attestation is not yet valid"

def checkIat (payload : Payload) (now : DateTime) : Except Exc (Except Failure Unit) :=
  checkNotFuture payload now "iat" "attestation iat claim is malformed"
    "attestation was issued in the future"

/-! ### Bindings -/

variable (env : Externals)

/-- The checks of a payload against the GCO and the audience. -/
def checkSubject (payload : Payload) (g : GCO) (expectedSub : Option String)
    (expectedAudience : Option (List String)) : Except Exc (Except Failure Unit) :=
  if ¬eqStr (payload.lookup "sub") (strOr expectedSub g.modelIdentity.text) then
    .ok (.error (failure .spiffeIdMismatch "attestation subject does not match GCO model identity"))
  else do
    let digest ← canonicalGcoHash env g
    if ¬eqStr (payload.lookup "gco_hash") digest then
      pure (.error (failure .gcoDigestMismatch "attestation digest does not bind this GCO"))
    else match expectedAudience.bind (verifyAudience (payload.lookup "aud")) with
      | some failure => pure (.error failure)
      | none => pure (.ok ())

/-- The `sub` of the payload is the expected one, or else the identity of the GCO. -/
def SubMatches (payload : Payload) (g : GCO) (expectedSub : Option String) : Prop :=
  payload.lookup "sub" = some (.str (strOr expectedSub g.modelIdentity.text))

variable {env} in
theorem checkSubject_of_subMatches {payload : Payload} {g : GCO} {expectedSub : Option String}
    (hsub : SubMatches payload g expectedSub) (expectedAudience : Option (List String)) :
    checkSubject env payload g expectedSub expectedAudience =
      if g.Serializable then
        if ¬eqStr (payload.lookup "gco_hash") (canonicalDigest env g) then
          .ok (.error (failure .gcoDigestMismatch "attestation digest does not bind this GCO"))
        else match expectedAudience.bind (verifyAudience (payload.lookup "aud")) with
          | some failure => .ok (.error failure)
          | none => .ok (.ok ())
      else .error digitLimitExceeded := by
  unfold checkSubject
  rw [if_neg (not_not.2 (eqStr_iff.2 hsub)), canonicalGcoHash_eq]
  by_cases hg : g.Serializable
  · rw [if_pos hg, if_pos hg]
    rfl
  · rw [if_neg hg, if_neg hg]
    rfl

variable {env} in
theorem checkSubject_of_not_subMatches {payload : Payload} {g : GCO} {expectedSub : Option String}
    (hsub : ¬SubMatches payload g expectedSub) (expectedAudience : Option (List String)) :
    checkSubject env payload g expectedSub expectedAudience = .ok (.error
      (failure .spiffeIdMismatch "attestation subject does not match GCO model identity")) := by
  unfold checkSubject
  rw [if_pos fun h => hsub (eqStr_iff.1 h)]

variable {env} in
/-- The checks pass when the payload names the subject, binds the GCO and suits the audience. -/
theorem checkSubject_eq_ok_iff {payload : Payload} {g : GCO} {expectedSub : Option String}
    {expectedAudience : Option (List String)} :
    checkSubject env payload g expectedSub expectedAudience = .ok (.ok ()) ↔
      SubMatches payload g expectedSub ∧ g.Serializable ∧
        payload.lookup "gco_hash" = some (.str (canonicalDigest env g)) ∧
        expectedAudience.bind (verifyAudience (payload.lookup "aud")) = none := by
  by_cases hsub : SubMatches payload g expectedSub
  · rw [checkSubject_of_subMatches hsub]
    by_cases hg : g.Serializable
    · rw [← eqStr_iff]
      by_cases hhash : eqStr (payload.lookup "gco_hash") (canonicalDigest env g) = true
      · rw [if_pos hg, if_neg (not_not.2 hhash)]
        cases expectedAudience.bind (verifyAudience (payload.lookup "aud")) <;>
          simp [hsub, hg, hhash]
      · simp [hg, hhash]
    · simp [hg]
  · simp [checkSubject_of_not_subMatches hsub, hsub]

variable {env} in
/-- They raise when the GCO that the subject is compared with has no canonical text. -/
theorem checkSubject_eq_error_iff {payload : Payload} {g : GCO} {expectedSub : Option String}
    {expectedAudience : Option (List String)} {e : Exc} :
    checkSubject env payload g expectedSub expectedAudience = .error e ↔
      SubMatches payload g expectedSub ∧ ¬g.Serializable ∧ e = digitLimitExceeded := by
  by_cases hsub : SubMatches payload g expectedSub
  · rw [checkSubject_of_subMatches hsub]
    by_cases hg : g.Serializable
    · by_cases hhash : eqStr (payload.lookup "gco_hash") (canonicalDigest env g) = true
      · rw [if_pos hg, if_neg (not_not.2 hhash)]
        cases expectedAudience.bind (verifyAudience (payload.lookup "aud")) <;> simp [hg]
      · simp [hg, hhash]
    · simp [hg, hsub, eq_comm]
  · simp [checkSubject_of_not_subMatches hsub, hsub]

/-- The checks of the time claims: the expiry, or the failure to return. -/
def checkTimes (payload : Payload) (now : DateTime) :
    Except Exc (Except Failure DateTime) := do
  match ← checkExp payload now with
  | .error failure => pure (.error failure)
  | .ok expTime =>
      match ← checkNbf payload now with
      | .error failure => pure (.error failure)
      | .ok () =>
          match ← checkIat payload now with
          | .error failure => pure (.error failure)
          | .ok () => pure (.ok expTime)

/-- `_verify_bindings`, up to the replay cache. -/
def checkBindings (payload : Payload) (g : GCO) (now : DateTime) (expectedSub : Option String)
    (expectedAudience : Option (List String)) : Except Exc (Except Failure DateTime) := do
  match ← checkSubject env payload g expectedSub expectedAudience with
  | .error failure => pure (.error failure)
  | .ok () => checkTimes payload now

def jtiMissing : Failure :=
  failure .jtiMissing "attestation jti claim is required when replay protection is enabled"

def replayDetected : Failure := failure .replayDetected "attestation jti has already been seen"

/-- `_verify_replay`, where no result means that the token is new. -/
def verifyReplay (jti : Option PyVal) (expTime now : DateTime) (replayCache : ReplayCache σ) :
    Py Exc σ VerificationResult :=
  match jti.bind PyVal.str? with
  | none => pure jtiMissing.result
  | some jti =>
      if jti = "" then pure jtiMissing.result
      else do
        if ← replayCache.checkAndRecord jti expTime now then pure .ok
        else pure replayDetected.result

/-- The end of `_verify_bindings`, after the other checks passed. -/
def acceptOnce (replayCache : Option (ReplayCache σ)) (payload : Payload) (expTime now : DateTime) :
    Py Exc σ VerificationResult :=
  match replayCache with
  | none => pure .ok
  | some cache => verifyReplay (payload.lookup "jti") expTime now cache

/-- A token with an identifier is accepted when the cache says it is new. -/
theorem acceptOnce_of_jti {cache : ReplayCache σ} {payload : Payload} {jti : String}
    (hne : jti ≠ "") (hjti : payload.lookup "jti" = some (.str jti)) (expTime now : DateTime) :
    acceptOnce (some cache) payload expTime now =
      (do if ← cache.checkAndRecord jti expTime now then pure .ok
          else pure replayDetected.result) := by
  simp only [acceptOnce, verifyReplay, hjti, Option.bind_some, PyVal.str?, if_neg hne]

/-- A token without an identifier never gets to the cache. -/
theorem acceptOnce_of_no_jti {cache : ReplayCache σ} {payload : Payload}
    (h : ∀ jti, jti ≠ "" → payload.lookup "jti" ≠ some (.str jti)) (expTime now : DateTime) :
    acceptOnce (some cache) payload expTime now = pure jtiMissing.result := by
  unfold acceptOnce verifyReplay
  dsimp only
  cases hjti : (payload.lookup "jti").bind PyVal.str? with
  | none => rfl
  | some jti =>
    have hstr : payload.lookup "jti" = some (.str jti) :=
      eqStr_iff.1 (by rw [eqStr, hjti]; exact decide_eq_true rfl)
    have hempty : jti = "" := by
      by_contra hne
      exact h jti hne hstr
    dsimp only
    rw [if_pos hempty]

/-- `_verify_bindings`. -/
def verifyBindings (payload : Payload) (g : GCO) (now : DateTime) (expectedSub : Option String)
    (expectedAudience : Option (List String)) (replayCache : Option (ReplayCache σ)) :
    Py Exc σ VerificationResult := do
  match ← Py.ofExcept (checkBindings env payload g now expectedSub expectedAudience) with
  | .error failure => pure failure.result
  | .ok expTime => acceptOnce replayCache payload expTime now

/-! ### The verifier -/

/-- `AttestationVerifier`. -/
structure AttestationVerifier (Key Cert Store σ : Type) where
  crypto : Crypto Key Cert Store
  trustBundle : TrustBundle Key Cert Store
  now : Py Exc σ PyDatetime
  expectedAudience : Option (List String)
  replayCache : Option (ReplayCache σ)

/-- `_coerce_expected_audience`; a tuple is a list here. -/
def coerceExpectedAudience (value : PyVal) : Except Exc (Option (List String)) :=
  match value with
  | .none => .ok none
  | .str s =>
      if s = "" then .error (.valueError "expected_audience must not be empty") else .ok (some [s])
  | v =>
      match v.strList? with
      | some items =>
          if items ≠ [] ∧ ∀ item ∈ items, item ≠ "" then .ok (some items)
          else .error (.valueError
            "expected_audience must be a non-empty string or tuple/list of strings")
      | none => .error (.valueError
          "expected_audience must be a non-empty string or tuple/list of strings")

namespace AttestationVerifier

/-- `AttestationVerifier(trust_bundle, now, expected_audience, replay_cache)`. -/
def new (crypto : Crypto Key Cert Store) (trustBundle : TrustBundle Key Cert Store)
    (now : Py Exc σ PyDatetime) (expectedAudience : PyVal) (replayCache : Option (ReplayCache σ)) :
    Except Exc (AttestationVerifier Key Cert Store σ) := do
  let audience ← coerceExpectedAudience expectedAudience
  pure ⟨crypto, trustBundle, now, audience.or trustBundle.expectedAudience, replayCache⟩

variable (v : AttestationVerifier Key Cert Store σ)

/-- The part of `_verify_jwt_svid` before the bindings. -/
def jwtSvidPayload (token : String) : Except Failure Payload :=
  match v.crypto.unverifiedHeader token, v.crypto.unverifiedPayload token with
  | some header, some payload =>
      match (trustDomain (payload.lookup "sub")).bind v.trustBundle.domains.get? with
      | none => .error (failure .untrustedKey "no trust anchors for SPIFFE trust domain")
      | some domainBundle => do
          let key ← selectJwk domainBundle header
          decodeWithKey v.crypto token key header
  | _, _ => .error (failure .malformedAttestation "JWT-SVID is malformed")

/-- The part of `_verify_x509_svid` before the bindings: the payload and the SPIFFE ID of the
leaf. The leaf's SPIFFE ID is read a second time; `cert.public_key()` is not guarded. -/
def x509SvidPayload (token : String) (g : GCO) (now : DateTime) :
    Except Exc (Except Failure (Payload × Option String)) :=
  match v.crypto.unverifiedHeader token with
  | none => .ok (.error (failure .malformedAttestation "X.509-SVID JWS is malformed"))
  | some header =>
      match validatedX509Chain v.crypto v.trustBundle header now with
      | .error failure => .ok (.error failure)
      | .ok leaf =>
          if leafSpiffeId v.crypto leaf ≠ some g.modelIdentity.text then
            .ok (.error (failure .spiffeIdMismatch
              "leaf SPIFFE URI SAN does not match GCO model identity"))
          else do
            let key ← v.crypto.publicKey leaf
            if v.crypto.keyKind key = .other then
              pure (.error (failure .untrustedKey "leaf key type is unsupported"))
            else match decodeWithKey v.crypto token key header with
              | .error failure => pure (.error failure)
              | .ok payload => pure (.ok (payload, leafSpiffeId v.crypto leaf))

/-- `_verify_jwt_svid`. -/
def verifyJwtSvid (token : String) (g : GCO) (now : DateTime) : Py Exc σ VerificationResult :=
  match v.jwtSvidPayload token with
  | .error failure => pure failure.result
  | .ok payload => verifyBindings env payload g now none v.expectedAudience v.replayCache

/-- `_verify_x509_svid`. -/
def verifyX509Svid (token : String) (g : GCO) (now : DateTime) : Py Exc σ VerificationResult := do
  match ← Py.ofExcept (v.x509SvidPayload token g now) with
  | .error failure => pure failure.result
  | .ok (payload, leafSpiffe) =>
      verifyBindings env payload g now leafSpiffe v.expectedAudience v.replayCache

def missingAttestation : Failure := failure .malformedAttestation "attestation is missing"

def unsupportedFormat : Failure :=
  failure .unsupportedFormat "attestation format is not cryptographically verified"

/-- `verify`, at the time `now` the clock was coerced to. -/
def verifyAt (now : DateTime) (attestation : Option AttestationModel) (g : GCO) :
    Py Exc σ VerificationResult :=
  match attestation with
  | none => pure missingAttestation.result
  | some a =>
      if a.value = "" then pure missingAttestation.result
      else match a.format with
        | .jwtSvid => v.verifyJwtSvid env a.value g now
        | .x509Svid => v.verifyX509Svid env a.value g now
        | _ => pure unsupportedFormat.result

/-- `_coerce_now`, where `now` is a callable or a datetime, or `None`. -/
def coerceNow (now : Option (Py Exc σ PyDatetime)) (default : Py Exc σ PyDatetime) :
    Py Exc σ DateTime := do
  let value ← now.getD default
  match value.toUtc? with
  | none => throw (.overflowError "date value out of range")
  | some t => pure t

/-- `verify`. -/
def verify (attestation : Option AttestationModel) (g : GCO) (now : Option (Py Exc σ PyDatetime)) :
    Py Exc σ VerificationResult := do
  let checkTime ← coerceNow now v.now
  v.verifyAt env checkTime attestation g

/-! ### All checks but the cache -/

/-- The payload an attestation carries under a trusted signature, with the subject its format
imposes. -/
def attestedPayload (now : DateTime) (attestation : Option AttestationModel) (g : GCO) :
    Except Exc (Except Failure (Payload × Option String)) :=
  match attestation with
  | none => .ok (.error missingAttestation)
  | some a =>
      if a.value = "" then .ok (.error missingAttestation)
      else match a.format with
        | .jwtSvid => .ok ((v.jwtSvidPayload a.value).map fun payload => (payload, none))
        | .x509Svid => v.x509SvidPayload a.value g now
        | _ => .ok (.error unsupportedFormat)

/-- Everything `verify` checks before it consults the replay cache: the payload and the expiry. -/
def checkAttestation (now : DateTime) (attestation : Option AttestationModel) (g : GCO) :
    Except Exc (Except Failure (Payload × DateTime)) := do
  match ← v.attestedPayload now attestation g with
  | .error failure => pure (.error failure)
  | .ok (payload, expectedSub) =>
      (checkBindings env payload g now expectedSub v.expectedAudience).map
        (Except.map fun expTime => (payload, expTime))

/-- The last step of `verify`, from the outcome of the checks. -/
def accept (now : DateTime) (checked : Except Exc (Except Failure (Payload × DateTime))) :
    Py Exc σ VerificationResult := do
  match ← Py.ofExcept checked with
  | .error failure => pure failure.result
  | .ok (payload, expTime) => acceptOnce v.replayCache payload expTime now

theorem verifyBindings_eq (payload : Payload) (g : GCO) (now : DateTime) (sub : Option String) :
    verifyBindings env payload g now sub v.expectedAudience v.replayCache =
      v.accept now ((checkBindings env payload g now sub v.expectedAudience).map
        (Except.map fun expTime => (payload, expTime))) := by
  unfold verifyBindings accept
  rcases checkBindings env payload g now sub v.expectedAudience with e | result | expTime <;> rfl

/-- `verify` is the checks, and then the cache if there is one. -/
theorem verifyAt_eq (now : DateTime) (attestation : Option AttestationModel) (g : GCO) :
    v.verifyAt env now attestation g =
      v.accept now (v.checkAttestation env now attestation g) := by
  unfold verifyAt checkAttestation attestedPayload
  cases attestation with
  | none => rfl
  | some a =>
    dsimp only
    split_ifs with hvalue
    · rfl
    · cases a.format with
      | jwtSvid =>
        dsimp only
        unfold verifyJwtSvid
        cases v.jwtSvidPayload a.value with
        | error result => rfl
        | ok payload => exact verifyBindings_eq env v payload g now none
      | x509Svid =>
        dsimp only
        unfold verifyX509Svid
        rcases v.x509SvidPayload a.value g now with e | result | ⟨payload, sub⟩
        · rfl
        · rfl
        · exact verifyBindings_eq env v payload g now sub
      | rawJws => rfl
      | tpmQuote => rfl

end AttestationVerifier

end Gco
