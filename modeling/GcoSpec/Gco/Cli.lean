import GcoSpec.Gco.Maximality
import GcoSpec.Gco.Minting
import GcoSpec.GcoMcp.RoundTrip
import GcoSpec.Python.Timestamp

/-!
# `gco derive`

The command derives a child for preview, or signs one with a key of the user. The two branches
share no code: the first verifies the parent and calls `derive`, the second goes through
`derive_for_subcall`, which verifies the child too, under every policy of the trust bundle.

The token that the command signs has `sub`, `gco_hash` and `exp`, and nothing else. So where a
preview is shown, the signed child is emitted exactly if the bundle expects no audience and the
expiry is not in the last microseconds of the calendar (`signed_derivation_succeeds_iff`).
-/

namespace Gco

open Python

/-! ### Codes -/

/-- The name of a member, as `_code` prints it. -/
def DerivationError.name : DerivationError → String
  | versionMismatch => "VERSION_MISMATCH"
  | traceIdChanged => "TRACE_ID_CHANGED"
  | policyIdChanged => "POLICY_ID_CHANGED"
  | modelIdentityChanged => "MODEL_IDENTITY_CHANGED"
  | interventionChanged => "INTERVENTION_CHANGED"
  | parentLinkageInvalid => "PARENT_LINKAGE_INVALID"
  | lineageAppendFailed => "LINEAGE_APPEND_FAILED"
  | lineageFlooded => "LINEAGE_FLOODED"
  | maxDepthIncreased => "MAX_DEPTH_INCREASED"
  | toolAuthorityExpanded => "TOOL_AUTHORITY_EXPANDED"
  | statePermissionExpanded => "STATE_PERMISSION_EXPANDED"
  | taintDowngraded => "TAINT_DOWNGRADED"
  | expiryExtended => "EXPIRY_EXTENDED"
  | expired => "EXPIRED"
  | attestationMissing => "ATTESTATION_MISSING"
  | attestationFormatInvalid => "ATTESTATION_FORMAT_INVALID"
  | canonicalHashMismatch => "CANONICAL_HASH_MISMATCH"
  | gcoMalformed => "GCO_MALFORMED"

def AttestationError.name : AttestationError → String
  | unverifiedSignature => "UNVERIFIED_SIGNATURE"
  | untrustedKey => "UNTRUSTED_KEY"
  | spiffeIdMismatch => "SPIFFE_ID_MISMATCH"
  | gcoDigestMismatch => "GCO_DIGEST_MISMATCH"
  | expiredAttestation => "EXPIRED_ATTESTATION"
  | audienceMismatch => "AUDIENCE_MISMATCH"
  | jtiMissing => "JTI_MISSING"
  | replayDetected => "REPLAY_DETECTED"
  | unsupportedFormat => "UNSUPPORTED_FORMAT"
  | malformedAttestation => "MALFORMED_ATTESTATION"

def GcoMcpError.name : GcoMcpError → String
  | missingCapability => "MISSING_CAPABILITY"
  | missingGco => "MISSING_GCO"
  | oversizeGco => "OVERSIZE_GCO"
  | malformedGco => "MALFORMED_GCO"

/-- `_code`. The command injects no objects, so that no code is one of theirs. -/
def codeName : Option ErrorCode → String
  | none => "UNKNOWN"
  | some (.derivation e) => e.name
  | some (.attestation e) => e.name
  | some .namespaceAccessDenied => "NamespaceAccessDenied"
  | some .taintedStateRead => "TaintedStateRead"
  | some (.mcp e) => e.name
  | some (.text s) => s
  | some (.custom value?) => value?.getD "UNKNOWN"

/-- `_exception_code`. -/
def exceptionCode (e : Exc) : String :=
  match e.kind with
  | .derivation (some error) => codeName (some error)
  | _ => "GCO_MALFORMED"

/-! ### Authorities -/

/-- `jwt.encode(payload, key, algorithm=algorithm, headers=headers)`. -/
abbrev JwtEncode (PrivateKey : Type) := Payload → PrivateKey → String → Payload → Except Exc String

/-- `PemSigningAuthority`. -/
structure PemSigningAuthority (PrivateKey : Type) where
  key : PrivateKey
  kid : String

/-- `{**gco_data, "attestation": None}`. -/
def unsignedData (gcoData : Payload) : PyVal :=
  .dict ((Dict.ofPairs gcoData).set "attestation" .none).items

/-- The payload of the token. -/
def signedClaims (sub gcoHash : String) (exp : ℤ) : Payload :=
  [("sub", .str sub), ("gco_hash", .str gcoHash), ("exp", .int exp)]

/-- `canonical_gco_hash(gco.model_copy(update={"model_identity": identity}))`. -/
def hashWithIdentity (env : Externals) (g : GCO) (identity : String) : Except Exc String :=
  hashPayload env
    (.dict ((Dict.ofPairs (g.bareItems env)).set "model_identity" (.str identity)).items)

section Authorities

variable {PrivateKey V Ω : Type} (ext : ModelExternals) (encode : JwtEncode PrivateKey)

/-- `PemSigningAuthority.issue`. An identity that is no URI is refused as the issuer, after the
token is signed. -/
def PemSigningAuthority.issue (authority : PemSigningAuthority PrivateKey) (identity : String)
    (gcoData : Payload) : Except Exc AttestationModel := do
  let unsigned ← GCO.modelValidate ext (unsignedData gcoData)
  let digest ← hashWithIdentity ext.toExternals unsigned identity
  let token ← encode (signedClaims identity digest unsigned.expiresAt.unixSeconds) authority.key
    "RS256" [("kid", .str authority.kid)]
  match readUri (.str identity) with
  | none =>
      let data := [("format", .str "jwt-svid"), ("value", .str token), ("issuer", .str identity)]
      .error ⟨.validationError [["issuer"]], some (ext.errorText (.dict data))⟩
  | some issuer => pure ⟨.jwtSvid, token, some issuer⟩

/-- The attestation of a preview. -/
def previewAttestation (identity : String) : AttestationModel :=
  ⟨.jwtSvid, "preview-unsigned:" ++ identity, none⟩

/-- `PreviewSigningAuthority.issue`. -/
def previewIssue (identity : String) (_gcoData : Payload) : Except Exc AttestationModel :=
  .ok (previewAttestation identity)

/-- An authority of the command, as `derive` calls it. -/
def authorityCall (issue : String → Payload → Except Exc AttestationModel) :
    String → Payload → Py Exc (World V Ω) (Option AttestationModel) :=
  fun identity data => Py.ofExcept ((issue identity data).map some)

end Authorities

/-! ### The command -/

/-- What the command reports: `_emit_success` with the child, or `_emit_failure`. -/
inductive CommandResult
  | success (previewOnly : Bool) (child : GCO)
  | failure (code message : String)

/-- `_emit_failure(_code(code), message or _code(code))`. -/
def CommandResult.denied (code : Option ErrorCode) (message : Option String) : CommandResult :=
  .failure (codeName code) (strOr message (codeName code))

variable {Key Cert Store V Ω PrivateKey : Type}

/-- `GovernanceRuntime(bundle, attestation_authority=authority)`. -/
def Config.forCommand (process : Config Key Cert Store V Ω) (bundle : TrustBundle Key Cert Store)
    (issue : String → Payload → Except Exc AttestationModel) : Config Key Cert Store V Ω :=
  { process with
    trustBundle := bundle
    expectedAudience := bundle.expectedAudience
    replayCache := none
    issue := some (authorityCall issue) }

section Command

variable (ext : ModelExternals) (encode : JwtEncode PrivateKey)
  (process : Config Key Cert Store V Ω) (bundle : TrustBundle Key Cert Store) (parent : GCO)
  (request : DelegationRequest) (now : DateTime)

/-- The derivation of a preview. -/
def previewBody : Py Exc (World V Ω) CommandResult := do
  let rt := (process.forCommand bundle previewIssue).runtime ext.toExternals now.toPy
  let child ← (GCODerivationRuntime.mk (authorityCall previewIssue) rt.validate rt.uuid4).derive
    ext.toExternals parent request
  pure (.success true child)

/-- The handler around it. -/
def handleDerive (e : Exc) : Except Exc CommandResult := do
  pure (.failure (exceptionCode e) (← e.str))

/-- `_cmd_derive` without a key. -/
def previewDerive : Py Exc (World V Ω) CommandResult := do
  let rt := (process.forCommand bundle previewIssue).runtime ext.toExternals now.toPy
  let verified ← rt.verify parent.attestation parent
  if ¬verified.verified then pure (.denied verified.errorCode verified.message)
  else attempt (previewBody ext process bundle parent request now) handleDerive

/-- `_cmd_derive` with `--sign-key` and `--kid`. -/
def signedDerive (authority : PemSigningAuthority PrivateKey) :
    Py Exc (World V Ω) CommandResult := do
  let rt := (process.forCommand bundle (authority.issue ext encode)).runtime ext.toExternals
    now.toPy
  let decision ← rt.deriveForSubcall ext.toExternals (.gco parent) (.request request)
  match decision.allowed, decision.child with
  | true, some child => pure (.success false child)
  | _, _ => pure (.denied decision.errorCode decision.reason)

/-- `_cmd_derive`, after its files are read. -/
def cmdDerive : Option (PemSigningAuthority PrivateKey) → Py Exc (World V Ω) CommandResult
  | none => previewDerive ext process bundle parent request now
  | some authority => signedDerive ext encode process bundle parent request now authority

/-- The handler of `main` for what is no `CLIError`. -/
def handleMain (e : Exc) : Except Exc CommandResult := do
  pure (.failure "GCO_CLI_ERROR" (← e.str))

/-- `main(["derive", ...])`, after the files are read. -/
def mainDerive (authority : Option (PemSigningAuthority PrivateKey)) :
    Py Exc (World V Ω) CommandResult :=
  attempt (cmdDerive ext encode process bundle parent request now authority) handleMain

end Command

/-! ### What the branches emit -/

section Branches

variable {ext : ModelExternals} {encode : JwtEncode PrivateKey}
  {process : Config Key Cert Store V Ω} {bundle : TrustBundle Key Cert Store} {parent : GCO}
  {request : DelegationRequest} {now : DateTime} {w w' : World V Ω}

/-- `main` emits a child when the command does. -/
theorem mainDerive_success_iff {authority : Option (PemSigningAuthority PrivateKey)}
    {previewOnly : Bool} {child : GCO} :
    mainDerive ext encode process bundle parent request now authority w =
        .ok (.success previewOnly child) w' ↔
      cmdDerive ext encode process bundle parent request now authority w =
        .ok (.success previewOnly child) w' := by
  refine ⟨fun h => ?_, attempt_of_ok⟩
  rcases attempt_eq_ok h with h | ⟨e, -, he⟩
  · exact h
  · obtain ⟨text, -, he⟩ := except_bind_eq_ok_iff.1 he
    cases he

/-- What `derive` returns at one reading of the clock: the child the request is granted, with what
the authority issued, if the parent has a hash. -/
theorem derive_forCommand_iff {issue : String → Payload → Except Exc AttestationModel}
    {child : GCO} :
    (GCODerivationRuntime.mk (authorityCall issue)
        ((process.forCommand bundle issue).runtime ext.toExternals now.toPy).validate
        ((process.forCommand bundle issue).runtime ext.toExternals now.toPy).uuid4).derive
          ext.toExternals parent request w = .ok child w' ↔
      Derivable parent request ∧ parent.Serializable ∧
        After (min request.requestedExpiry parent.expiresAt) now.toPy ∧
        ∃ spanId a, process.uuid4 w = .ok spanId w' ∧
          issue parent.modelIdentity.text
            ((grantedChild ext.toExternals parent request spanId).bareItems ext.toExternals) =
              .ok a ∧
          a.value ≠ "" ∧
          child = { grantedChild ext.toExternals parent request spanId with
            attestation := some a } := by
  rw [GCODerivationRuntime.derive_eq_ok_iff]
  constructor
  · rintro ⟨tools, permissions, spanId, s₁, s₂, attestation, s₃, hplan, huuid, hparent,
      hplaceholder, hissue, rfl, hvalidate⟩
    obtain ⟨hderivable, hpair⟩ := derivePlan_eq_ok_iff.1 hplan
    cases hpair
    obtain ⟨hplaceheld, rfl⟩ := Py.ofExcept_eq_ok hplaceholder
    obtain ⟨hissued, rfl⟩ := Py.ofExcept_eq_ok hissue
    obtain ⟨hvalid, rfl⟩ := Py.ofExcept_eq_ok hvalidate
    obtain ⟨a, ha, rfl⟩ := except_map_eq_ok_iff.1 hissued
    obtain ⟨a', ha', hvalue⟩ := (validate_eq_ok_iff.1 hvalid).1.attestation
    cases ha'
    exact ⟨hderivable, hparent, (validate_eq_ok_iff.1 hplaceheld).2, spanId, a, huuid, ha, hvalue,
      rfl⟩
  · rintro ⟨hderivable, hparent, hafter, spanId, a, huuid, ha, hvalue, rfl⟩
    have hvalidate : ∀ a : AttestationModel, a.value ≠ "" →
        validate ext.toExternals now.toPy parent
          { grantedChild ext.toExternals parent request spanId with attestation := some a } =
            .ok () :=
      fun a ha => validate_eq_ok_iff.2 ⟨hderivable.narrows hparent spanId ha, hafter⟩
    refine ⟨_, _, spanId, w', w', some a, w', derivePlan_eq_ok_iff.2 ⟨hderivable, rfl⟩, huuid,
      hparent, ?_, ?_, rfl, ?_⟩
    · exact congrFun (congrArg Py.ofExcept (hvalidate placeholder (by decide))) w'
    · exact congrFun (congrArg Py.ofExcept (congrArg (Except.map some) ha)) w'
    · exact congrFun (congrArg Py.ofExcept (hvalidate a hvalue)) w'

/-- A preview is emitted of the child that the request is granted, where the parent verifies. -/
theorem previewDerive_success_iff {previewOnly : Bool} {child : GCO} :
    previewDerive ext process bundle parent request now w = .ok (.success previewOnly child) w' ↔
      previewOnly = true ∧ (process.forCommand bundle previewIssue).Verifies ext.toExternals
          now.toPy parent w w ∧
        Derivable parent request ∧ After (min request.requestedExpiry parent.expiresAt) now.toPy ∧
        ∃ spanId, process.uuid4 w = .ok spanId w' ∧
          child = { grantedChild ext.toExternals parent request spanId with
            attestation := some (previewAttestation parent.modelIdentity.text) } := by
  have hvalue : (previewAttestation parent.modelIdentity.text).value ≠ "" := by
    intro h
    have hlist := congrArg String.toList h
    rw [previewAttestation, String.toList_append] at hlist
    cases hlist
  have hissue : ∀ data, previewIssue parent.modelIdentity.text data =
      .ok (previewAttestation parent.modelIdentity.text) := fun _ => rfl
  constructor
  · intro h
    obtain ⟨verified, w₁, hverify, hrest⟩ := bind_eq_ok h
    by_cases hverified : verified.verified = true
    · rw [if_neg (not_not.2 hverified)] at hrest
      have hverifies : (process.forCommand bundle previewIssue).Verifies ext.toExternals now.toPy
          parent w w₁ := ⟨verified, hverify, hverified⟩
      have hw : w₁ = w := ((Config.verifies_iff rfl).1 hverifies).1
      rw [hw] at hverifies hrest
      rcases attempt_eq_ok hrest with hbody | ⟨e, -, he⟩
      · obtain ⟨c, w₂, hderive, hpure⟩ := bind_eq_ok hbody
        obtain ⟨hderivable, -, hafter, spanId, a, huuid, ha, -, rfl⟩ :=
          derive_forCommand_iff.1 hderive
        cases hpure
        cases ha
        exact ⟨rfl, hverifies, hderivable, hafter, spanId, huuid, rfl⟩
      · obtain ⟨text, -, hfailure⟩ := except_bind_eq_ok_iff.1 he
        cases hfailure
    · rw [if_pos hverified] at hrest
      cases hrest
  · rintro ⟨rfl, hverifies, hderivable, hafter, spanId, huuid, rfl⟩
    have hparent := hverifies.serializable
    obtain ⟨verified, hverify, hverified⟩ := hverifies
    rw [previewDerive, bind_of_ok hverify, if_neg (not_not.2 hverified)]
    refine attempt_of_ok ?_
    exact bind_of_ok (derive_forCommand_iff.2
      ⟨hderivable, hparent, hafter, spanId, _, huuid, hissue _, hvalue, rfl⟩) _

/-- A signed child is emitted when the runtime allows the derivation. -/
theorem signedDerive_success_iff_allows {authority : PemSigningAuthority PrivateKey}
    {previewOnly : Bool} {child : GCO} :
    signedDerive ext encode process bundle parent request now authority w =
        .ok (.success previewOnly child) w' ↔
      previewOnly = false ∧
        Allows (((process.forCommand bundle (authority.issue ext encode)).runtime ext.toExternals
          now.toPy).deriveForSubcall ext.toExternals (.gco parent) (.request request)) w
          (.allowChild child) w' := by
  constructor
  · intro h
    obtain ⟨⟨allowed, reason, code, child?⟩, w₁, hderive, hrest⟩ := bind_eq_ok h
    cases allowed with
    | false => cases hrest
    | true =>
      obtain ⟨issue, -, w₂, c, w₃, -, -, -, -, hdecision⟩ :=
        allows_deriveForSubcall_iff.1 ⟨hderive, rfl⟩
      cases hdecision
      cases hrest
      exact ⟨rfl, hderive, rfl⟩
  · rintro ⟨rfl, hallows, -⟩
    rw [signedDerive, bind_of_ok hallows]
    rfl

/-- It is the child that the request is granted, where the parent and the child verify. -/
theorem signedDerive_success_iff {authority : PemSigningAuthority PrivateKey} {child : GCO} :
    signedDerive ext encode process bundle parent request now authority w =
        .ok (.success false child) w' ↔
      (process.forCommand bundle (authority.issue ext encode)).Verifies ext.toExternals now.toPy
          parent w w ∧
        Derivable parent request ∧ After (min request.requestedExpiry parent.expiresAt) now.toPy ∧
        ∃ spanId a, process.uuid4 w = .ok spanId w' ∧
          authority.issue ext encode parent.modelIdentity.text
            ((grantedChild ext.toExternals parent request spanId).bareItems ext.toExternals) =
              .ok a ∧
          a.value ≠ "" ∧
          child = { grantedChild ext.toExternals parent request spanId with
            attestation := some a } ∧
          (process.forCommand bundle (authority.issue ext encode)).Verifies ext.toExternals
            now.toPy child w' w' := by
  rw [signedDerive_success_iff_allows, allows_deriveForSubcall_iff]
  constructor
  · rintro ⟨-, issue, hissue, w₁, c, w₂, hparent, hderive, hchild, -, hdecision⟩
    cases hdecision
    cases hissue
    have hw₁ : w₁ = w := ((Config.verifies_iff rfl).1 hparent).1
    have hw₂ : w' = w₂ := ((Config.verifies_iff rfl).1 hchild).1
    rw [hw₁] at hparent hderive
    rw [← hw₂] at hderive hchild
    obtain ⟨hderivable, -, hafter, spanId, a, huuid, ha, hvalue, hc⟩ :=
      derive_forCommand_iff.1 hderive
    exact ⟨hparent, hderivable, hafter, spanId, a, huuid, ha, hvalue, hc, hchild⟩
  · rintro ⟨hparent, hderivable, hafter, spanId, a, huuid, ha, hvalue, rfl, hchild⟩
    exact ⟨rfl, _, rfl, w, _, w', hparent,
      derive_forCommand_iff.2 ⟨hderivable, hparent.serializable, hafter, spanId, a, huuid, ha,
        hvalue, rfl⟩, hchild,
      validate_eq_ok_iff.2 ⟨hderivable.narrows hparent.serializable spanId hvalue, hafter⟩, rfl⟩

end Branches

/-! ### What the authority signs -/

variable {ext : ModelExternals} {encode : JwtEncode PrivateKey}

/-- The items of a dump without its attestation are those of the whole dump. -/
theorem unsignedData_bareItems {env : Externals} {g : GCO} (hg : g.attestation = none) :
    unsignedData (g.bareItems env) = g.modelDump env := by
  have hnodup : ((g.bareItems env).map Prod.fst).Nodup := nodup_bareItems g
  have hnone : (Dict.ofPairs (g.bareItems env)).get? "attestation" = none := by
    by_contra hne
    obtain ⟨x, hx⟩ := Option.ne_none_iff_exists'.1 hne
    have hmem := (Dict.get?_ofPairs_eq_some_iff hnodup).1 hx
    simp [GCO.bareItems] at hmem
  rw [unsignedData, Dict.items_set_of_none _ _ hnone, Dict.items_ofPairs hnodup, GCO.modelDump, hg]
  rfl

theorem hashWithIdentity_self (env : Externals) (g : GCO) :
    hashWithIdentity env g g.modelIdentity.text = canonicalGcoHash env g := by
  have hnodup : ((g.bareItems env).map Prod.fst).Nodup := nodup_bareItems g
  have hsome : (Dict.ofPairs (g.bareItems env)).get? "model_identity" =
      some (.str g.modelIdentity.text) :=
    (Dict.get?_ofPairs_eq_some_iff hnodup).2 (by simp [GCO.bareItems])
  have hitems := (Dict.items_set_of_some _ hsome).trans (Dict.items_ofPairs hnodup)
  rw [hashWithIdentity, hitems]
  rfl

/-- What the authority issues for an unsigned child: what the library makes of its claims. -/
theorem PemSigningAuthority.issue_bareItems (hext : ext.ReadsBack)
    (authority : PemSigningAuthority PrivateKey) {g : GCO} (htyped : g.Typed)
    (hfits : g.Serializable) (hg : g.attestation = none) :
    authority.issue ext encode g.modelIdentity.text (g.bareItems ext.toExternals) =
      (encode (signedClaims g.modelIdentity.text (canonicalDigest ext.toExternals g)
        g.expiresAt.unixSeconds) authority.key "RS256" [("kid", .str authority.kid)]).map
          fun token => ⟨.jwtSvid, token, some g.modelIdentity⟩ := by
  have hhash : hashWithIdentity ext.toExternals g g.modelIdentity.text =
      .ok (canonicalDigest ext.toExternals g) := by
    rw [hashWithIdentity_self, canonicalGcoHash_of_serializable hfits]
  rw [PemSigningAuthority.issue, unsignedData_bareItems hg, GCO.modelValidate_of_typed hext htyped,
    readUri_text]
  simp only [bind, Except.bind, hhash]
  cases encode _ _ _ _ <;> rfl

/-- The seconds of an expiry have a text. -/
theorem intFits_unixSeconds (t : DateTime) : Json.IntFits t.unixSeconds := by
  have hle := t.abs_unixSeconds_le
  rw [Int.abs_eq_natAbs] at hle
  have hlt : t.unixSeconds.natAbs < 10 ^ 12 := by omega
  have hpow : 10 ^ 12 ≤ 10 ^ Json.maxStrDigits := Nat.pow_le_pow_right (by decide) (by decide)
  exact Json.intFits_iff.2 (hlt.trans_le hpow)

/-- A token that the library reads as these claims, signed by the key under this identifier. -/
structure SignedToken (crypto : Crypto Key Cert Store) (key : Key) (kid : String)
    (claims : Payload) (token : String) : Prop where
  ne_empty : token ≠ ""
  header : ∃ header, crypto.unverifiedHeader token = some header ∧
    header.lookup "alg" = some (.str "RS256") ∧ header.lookup "kid" = some (.str kid)
  payload : crypto.unverifiedPayload token = some claims
  decode : crypto.decode token key rsaAlgorithms = .ok (.dict claims)

/-- The keys are a pair of RSA: what the one signs, PyJWT verifies with the other. -/
structure SignsFor (crypto : Crypto Key Cert Store) (encode : JwtEncode PrivateKey)
    (privateKey : PrivateKey) (key : Key) : Prop where
  rsa : crypto.keyKind key = .rsa
  encode : ∀ sub gcoHash exp kid, Json.IntFits exp → ∃ token,
    encode (signedClaims sub gcoHash exp) privateKey "RS256" [("kid", .str kid)] = .ok token ∧
      SignedToken crypto key kid (signedClaims sub gcoHash exp) token

/-- The bundle registers the key under this identifier, for the trust domain of the identity. -/
def TrustBundle.Registers (bundle : TrustBundle Key Cert Store) (identity : Uri) (kid : String)
    (key : Key) : Prop :=
  ∃ domain entry, trustDomain (some (.str identity.text)) = some domain ∧
    bundle.domains.get? domain = some entry ∧ entry.jwks.get? kid = some key

/-- The verifier accepts the signature of a token about the identity. -/
theorem attestedPayload_of_signed {v : AttestationVerifier Key Cert Store Ω} {key : Key}
    {kid token : String} {claims : Payload} {g : GCO} {issuer : Option Uri}
    (hregisters : v.trustBundle.Registers g.modelIdentity kid key)
    (hrsa : v.crypto.keyKind key = .rsa) (htoken : SignedToken v.crypto key kid claims token)
    (hattestation : g.attestation = some ⟨.jwtSvid, token, issuer⟩)
    (hsub : claims.lookup "sub" = some (.str g.modelIdentity.text)) (now : DateTime) :
    v.attestedPayload now g.attestation g = .ok (.ok (claims, none)) := by
  obtain ⟨domain, entry, hdomain, hentry, hkey⟩ := hregisters
  obtain ⟨header, hheader, halg, hkid⟩ := htoken.header
  have hbundle : (trustDomain (claims.lookup "sub")).bind v.trustBundle.domains.get? =
      some entry := by
    rw [hsub, hdomain]
    exact hentry
  have hselect : selectJwk entry header = .ok key := by
    simp only [selectJwk, hkid, Option.bind_some, PyVal.str?, hkey]
  have hdecode : decodeWithKey v.crypto token key header = .ok claims := by
    have hnone : ¬"RS256".toList.map Char.toLower = "none".toList := by decide
    have hallowed : ¬"RS256" ∉ rsaAlgorithms := by decide
    simp only [decodeWithKey, halg, Option.bind_some, PyVal.str?, if_neg hnone, hrsa,
      allowedAlgorithms, if_neg hallowed, htoken.decode, PyVal.mapping?]
  have hpayload : v.jwtSvidPayload token = .ok claims := by
    unfold AttestationVerifier.jwtSvidPayload
    rw [hheader, htoken.payload]
    dsimp only
    rw [hbundle]
    show (selectJwk entry header >>= fun key => decodeWithKey v.crypto token key header) = _
    rw [hselect]
    exact hdecode
  simp only [hattestation, AttestationVerifier.attestedPayload, if_neg htoken.ne_empty, hpayload]
  rfl

/-- Claims with the identity and the digest of the object are right, but for the audience. -/
theorem checkSubject_of_claims {env : Externals} {claims : Payload} {g : GCO}
    {audience : Option (List String)} (hfits : g.Serializable)
    (hsub : claims.lookup "sub" = some (.str g.modelIdentity.text))
    (hhash : claims.lookup "gco_hash" = some (.str (canonicalDigest env g))) :
    checkSubject env claims g none audience = .ok (.ok ()) ↔
      audience.bind (verifyAudience (claims.lookup "aud")) = none :=
  checkSubject_eq_ok_iff.trans ⟨fun h => h.2.2.2, fun h => ⟨hsub, hfits, hhash, h⟩⟩

/-- Those of the authority are right if no audience is expected. -/
theorem checkSubject_signedClaims_iff {env : Externals} {g : GCO} {exp : ℤ}
    {audience : Option (List String)} (hfits : g.Serializable) :
    checkSubject env (signedClaims g.modelIdentity.text (canonicalDigest env g) exp) g none
        audience = .ok (.ok ()) ↔ audience = none := by
  have haud : (signedClaims g.modelIdentity.text (canonicalDigest env g) exp).lookup "aud" =
      none := rfl
  rw [checkSubject_of_claims hfits rfl rfl, haud]
  cases audience <;> simp [verifyAudience, audienceStrings]

/-- An expiry in whole seconds is accepted for a second or more, unless it is in the year 10000. -/
theorem checkTimes_unixSeconds_iff {claims : Payload} {expiresAt now : DateTime}
    (hexp : claims.lookup "exp" = some (.int expiresAt.unixSeconds))
    (hnbf : getNotNone claims "nbf" = none) (hiat : getNotNone claims "iat" = none)
    (hsecond : now.micros + 1000000 ≤ expiresAt.micros) :
    (∃ t, checkTimes claims now = .ok (.ok t)) ↔ expiresAt.micros < DateTime.roundsUpFrom := by
  have hnumber : (claims.lookup "exp").bind PyVal.number? = some (.int expiresAt.unixSeconds) := by
    rw [hexp]
    rfl
  have hfloor := expiresAt.ediv_le_unixSeconds
  constructor
  · rintro ⟨t, htimes⟩
    obtain ⟨⟨x, hx, -, htime⟩, -⟩ := checkTimes_eq_ok_iff.1 htimes
    rw [hnumber, Option.some.injEq] at hx
    rw [← hx] at htime
    exact (expiresAt.fromTimestamp_unixSeconds.1 htime).1
  · intro hbound
    have hyear := expiresAt.unixSeconds_le_iff.2 hbound
    have hlower := now.lower
    unfold minMicros at hlower
    have hfinite : isfinite (.int expiresAt.unixSeconds) = some true := by
      have habs : |expiresAt.unixSeconds| ≤ 253402300799 := by
        rw [abs_le]
        omega
      have hsmall : (253402300799 : ℤ) < 2 ^ 1024 - 2 ^ 970 := by decide +kernel
      exact if_neg (not_le.2 (habs.trans_lt hsmall))
    have hrange : minMicros ≤ expiresAt.unixSeconds * 1000000 ∧
        expiresAt.unixSeconds * 1000000 ≤ maxMicros := by
      unfold minMicros maxMicros
      omega
    refine ⟨⟨expiresAt.unixSeconds * 1000000, hrange.1, hrange.2⟩, checkTimes_eq_ok_iff.2
      ⟨⟨_, hnumber, hfinite, expiresAt.fromTimestamp_unixSeconds.2 ⟨hbound, rfl⟩⟩, ?_,
        .inl hnbf, .inl hiat⟩⟩
    show now.micros < expiresAt.unixSeconds * 1000000
    omega

/-- A signed child verifies for a second or more exactly if no audience is expected and its expiry
is not rounded up to the year 10000. -/
theorem attests_signed_iff {cfg : Config Key Cert Store V Ω} {env : Externals} {now : DateTime}
    {child : GCO} {key : Key} {kid token : String} {issuer : Option Uri}
    (hfits : child.Serializable)
    (hregisters : cfg.trustBundle.Registers child.modelIdentity kid key)
    (hrsa : cfg.crypto.keyKind key = .rsa)
    (htoken : SignedToken cfg.crypto key kid (signedClaims child.modelIdentity.text
      (canonicalDigest env child) child.expiresAt.unixSeconds) token)
    (hattestation : child.attestation = some ⟨.jwtSvid, token, issuer⟩)
    (hsecond : now.micros + 1000000 ≤ child.expiresAt.micros) :
    (∃ payload exp, cfg.Attests env now.toPy child payload exp) ↔
      cfg.expectedAudience = none ∧ child.expiresAt.micros < DateTime.roundsUpFrom := by
  have hpayload : (cfg.verifier now.toPy).attestedPayload now child.attestation child = _ :=
    attestedPayload_of_signed hregisters hrsa htoken hattestation rfl now
  have hexp : (signedClaims child.modelIdentity.text (canonicalDigest env child)
      child.expiresAt.unixSeconds).lookup "exp" = some (.int child.expiresAt.unixSeconds) := rfl
  rw [← checkTimes_unixSeconds_iff hexp rfl rfl hsecond, 
    ← checkSubject_signedClaims_iff hfits]
  constructor
  · rintro ⟨payload, exp, t, ht, hcheck⟩
    rw [PyDatetime.toUtc?_toPy, Option.some.injEq] at ht
    subst ht
    obtain ⟨sub, hattested, hsubject, htimes⟩ :=
      AttestationVerifier.checkAttestation_eq_ok_iff.1 hcheck
    rw [hpayload] at hattested
    cases hattested
    exact ⟨hsubject, exp, htimes⟩
  · rintro ⟨hsubject, exp, htimes⟩
    exact ⟨_, exp, now, PyDatetime.toUtc?_toPy now,
      AttestationVerifier.checkAttestation_eq_ok_iff.2 ⟨none, hpayload, hsubject, htimes⟩⟩

/-- What is issued for such an object is signed. -/
theorem SignsFor.exists_issue {crypto : Crypto Key Cert Store}
    {authority : PemSigningAuthority PrivateKey} {key : Key}
    (hsigns : SignsFor crypto encode authority.key key) (hext : ext.ReadsBack) {g : GCO}
    (htyped : g.Typed) (hfits : g.Serializable) (hg : g.attestation = none) :
    ∃ token, SignedToken crypto key authority.kid (signedClaims g.modelIdentity.text
        (canonicalDigest ext.toExternals g) g.expiresAt.unixSeconds) token ∧
      authority.issue ext encode g.modelIdentity.text (g.bareItems ext.toExternals) =
        .ok ⟨.jwtSvid, token, some g.modelIdentity⟩ := by
  obtain ⟨token, hencode, htoken⟩ := hsigns.encode g.modelIdentity.text
    (canonicalDigest ext.toExternals g) g.expiresAt.unixSeconds authority.kid
    (intFits_unixSeconds g.expiresAt)
  refine ⟨token, htoken, ?_⟩
  rw [authority.issue_bareItems hext htyped hfits hg, hencode]
  rfl

/-- What the authority issues for the child that a request is granted, and when it verifies. -/
theorem exists_issue_grantedChild {process : Config Key Cert Store V Ω}
    {bundle : TrustBundle Key Cert Store} {parent : GCO} {request : DelegationRequest}
    {now : DateTime} {authority : PemSigningAuthority PrivateKey} {key : Key}
    (hext : ext.ReadsBack)
    (hregisters : bundle.Registers parent.modelIdentity authority.kid key)
    (hsigns : SignsFor process.crypto encode authority.key key)
    (hderivable : Derivable parent request) (hparent : parent.Serializable)
    (hsecond : now.micros + 1000000 ≤ (min request.requestedExpiry parent.expiresAt).micros)
    (spanId : Uuid) :
    ∃ a, authority.issue ext encode parent.modelIdentity.text
        ((grantedChild ext.toExternals parent request spanId).bareItems ext.toExternals) = .ok a ∧
      a.value ≠ "" ∧
      ((∃ payload exp, (process.forCommand bundle (authority.issue ext encode)).Attests
          ext.toExternals now.toPy { grantedChild ext.toExternals parent request spanId with
            attestation := some a } payload exp) ↔
        bundle.expectedAudience = none ∧
          (min request.requestedExpiry parent.expiresAt).micros < DateTime.roundsUpFrom) := by
  have htyped : (grantedChild ext.toExternals parent request spanId).Typed :=
    hderivable.typed_grantedChild spanId
  have hfits : (grantedChild ext.toExternals parent request spanId).Serializable :=
    hderivable.serializable_grantedChild hparent spanId
  obtain ⟨token, htoken, hissue⟩ := hsigns.exists_issue hext htyped hfits rfl
  exact ⟨_, hissue, htoken.ne_empty,
    attests_signed_iff hfits hregisters hsigns.rsa htoken rfl hsecond⟩

/-- With an audience its token is refused. -/
theorem refusesAudience_of_signed {cfg : Config Key Cert Store V Ω} {now : DateTime} {child : GCO}
    {key : Key} {kid token gcoHash : String} {exp : ℤ} {issuer : Option Uri}
    (hregisters : cfg.trustBundle.Registers child.modelIdentity kid key)
    (hrsa : cfg.crypto.keyKind key = .rsa)
    (htoken : SignedToken cfg.crypto key kid (signedClaims child.modelIdentity.text gcoHash exp)
      token)
    (hattestation : child.attestation = some ⟨.jwtSvid, token, issuer⟩)
    (haudience : cfg.expectedAudience ≠ none) : cfg.RefusesAudience now.toPy child := by
  obtain ⟨expected, hexpected⟩ := Option.ne_none_iff_exists'.1 haudience
  have hpayload : (cfg.verifier now.toPy).attestedPayload now child.attestation child = _ :=
    attestedPayload_of_signed hregisters hrsa htoken hattestation rfl now
  refine ⟨now, _, none, failure .audienceMismatch "attestation audience is missing or malformed",
    PyDatetime.toUtc?_toPy now, hpayload, ?_⟩
  rw [hexpected]
  rfl

/-- What a bundle with an audience makes of the command: the child is minted, and denied. -/
theorem signedDerive_of_audience {process : Config Key Cert Store V Ω}
    {bundle : TrustBundle Key Cert Store} {parent : GCO} {request : DelegationRequest}
    {now : DateTime} {authority : PemSigningAuthority PrivateKey} {key : Key}
    {w w' : World V Ω} {spanId : Uuid} (hext : ext.ReadsBack)
    (hregisters : bundle.Registers parent.modelIdentity authority.kid key)
    (hsigns : SignsFor process.crypto encode authority.key key)
    (hparent : (process.forCommand bundle (authority.issue ext encode)).Verifies ext.toExternals
      now.toPy parent w w)
    (hderivable : Derivable parent request)
    (hafter : After (min request.requestedExpiry parent.expiresAt) now.toPy)
    (hsecond : now.micros + 1000000 ≤ (min request.requestedExpiry parent.expiresAt).micros)
    (hbound : (min request.requestedExpiry parent.expiresAt).micros < DateTime.roundsUpFrom)
    (haudience : bundle.expectedAudience ≠ none) (hspan : process.uuid4 w = .ok spanId w') :
    ∃ message, signedDerive ext encode process bundle parent request now authority w =
      .ok (.failure "AUDIENCE_MISMATCH" message) w' := by
  have htyped : (grantedChild ext.toExternals parent request spanId).Typed :=
    hderivable.typed_grantedChild spanId
  have hfits : (grantedChild ext.toExternals parent request spanId).Serializable :=
    hderivable.serializable_grantedChild hparent.serializable spanId
  obtain ⟨token, htoken, hissue⟩ := hsigns.exists_issue hext htyped hfits rfl
  let cfg := process.forCommand bundle (authority.issue ext encode)
  let child := { grantedChild ext.toExternals parent request spanId with
    attestation := some ⟨.jwtSvid, token, some parent.modelIdentity⟩ }
  -- without the audience the child would verify
  have hattests : ∃ payload exp, Config.Attests { cfg with expectedAudience := none }
      ext.toExternals now.toPy child payload exp :=
    Iff.mpr (attests_signed_iff hfits hregisters hsigns.rsa htoken rfl hsecond) ⟨rfl, hbound⟩
  have hrefuses : cfg.RefusesAudience now.toPy child :=
    refusesAudience_of_signed hregisters hsigns.rsa htoken rfl haudience
  obtain ⟨payload, exp, hattests⟩ := hattests
  obtain ⟨⟨error, text⟩, rfl, hverify⟩ :=
    Config.verify_of_refusesAudience hrefuses hattests rfl rfl w'
  have hderive : (GCODerivationRuntime.mk (authorityCall (authority.issue ext encode))
      (cfg.runtime ext.toExternals now.toPy).validate
        (cfg.runtime ext.toExternals now.toPy).uuid4).derive ext.toExternals parent request w =
          .ok child w' :=
    derive_forCommand_iff.2 ⟨hderivable, hparent.serializable, hafter, spanId, _, hspan, hissue,
      htoken.ne_empty, rfl⟩
  have hdecision := deriveForSubcall_of_not_verified rfl hparent hderive hverify rfl
  refine ⟨strOr (some text) "AUDIENCE_MISMATCH", ?_⟩
  rw [signedDerive, bind_of_ok hdecision]
  rfl

/-! ### A pair of keys -/

open Json GcoMcp

/-- A token, written as the JSON of its header and its payload. -/
def demoJws (header payload : Payload) : String :=
  String.ofList (emit demoExternals.floatFormat canonicalStyle
    (.list [.dict header, .dict payload]))

def readDemoJws (token : String) : Option (Payload × Payload) :=
  match loads demoExternals.floatFormat token with
  | some (.list [.dict header, .dict payload]) => some (header, payload)
  | _ => none

/-- Tokens of one RSA key. -/
def jwsCrypto : Crypto Unit Unit Unit where
  unverifiedHeader token := (readDemoJws token).map Prod.fst
  unverifiedPayload token := (readDemoJws token).map Prod.snd
  decode token _ algorithms :=
    match readDemoJws token with
    | some (_, payload) => if "RS256" ∈ algorithms then .ok (.dict payload) else .error .other
    | none => .error .other
  keyKind _ := .rsa
  loadX5cCert _ := none
  sanUris _ := none
  publicKey _ := .ok ()
  verifyChain _ _ _ _ := .error .verification

def jwsHeader (algorithm : String) (headers : Payload) : Payload :=
  ("typ", .str "JWT") :: ("alg", .str algorithm) :: headers

def jwsEncode : JwtEncode Unit :=
  fun payload _ algorithm headers => .ok (demoJws (jwsHeader algorithm headers) payload)

theorem readDemoJws_demoJws {header payload : Payload}
    (hheader : Readable demoExternals.floatFormat (.dict header))
    (hpayload : Readable demoExternals.floatFormat (.dict payload)) :
    readDemoJws (demoJws header payload) = some (header, payload) := by
  have hreadable : Readable demoExternals.floatFormat (.list [.dict header, .dict payload]) :=
    ⟨hheader, hpayload, trivial⟩
  rw [readDemoJws, demoJws, loads_emit hreadable]

theorem signedToken_demoJws {payload : Payload} (kid : String)
    (hpayload : Readable demoExternals.floatFormat (.dict payload)) :
    SignedToken jwsCrypto () kid payload
      (demoJws (jwsHeader "RS256" [("kid", .str kid)]) payload) := by
  have hheader : Readable demoExternals.floatFormat
      (.dict (jwsHeader "RS256" [("kid", .str kid)])) :=
    readable_dict (show ["typ", "alg", "kid"].Nodup by decide) (by simp [jwsHeader, Readable])
  have hread := readDemoJws_demoJws hheader hpayload
  have hmem : "RS256" ∈ rsaAlgorithms := by decide
  refine ⟨?_, ⟨jwsHeader "RS256" [("kid", .str kid)], ?_, rfl, rfl⟩, ?_, ?_⟩
  · intro hempty
    rw [hempty] at hread
    cases hread
  · simp only [jwsCrypto, hread, Option.map_some]
  · simp only [jwsCrypto, hread, Option.map_some]
  · simp only [jwsCrypto, hread, if_pos hmem]

theorem readable_signedClaims (sub gcoHash : String) {exp : ℤ} (hexp : IntFits exp) :
    Readable demoExternals.floatFormat (.dict (signedClaims sub gcoHash exp)) :=
  readable_dict (show ["sub", "gco_hash", "exp"].Nodup by decide)
    (by simp [signedClaims, Readable, hexp])

theorem signsFor_jwsEncode : SignsFor jwsCrypto jwsEncode () () where
  rsa := rfl
  encode sub gcoHash _ kid hexp :=
    ⟨_, rfl, signedToken_demoJws kid (readable_signedClaims sub gcoHash hexp)⟩

/-- A process with this key. -/
def signingProcess : Config Unit Unit Unit String Unit := { demoConfig with crypto := jwsCrypto }

/-- The bundle, with an audience or without. -/
def signingBundle (audience : Option String) : TrustBundle Unit Unit Unit :=
  { demoBundle with expectedAudience := audience.map fun a => [a] }

theorem registers_demo (audience : Option String) :
    (signingBundle audience).Registers demoIdentity "k1" () :=
  ⟨"example.org", ⟨Dict.ofPairs [("k1", ())], [], none⟩, by decide, rfl, rfl⟩

/-- What a token of the key says about `demoRoot`, to this audience. -/
def signedRootClaims (audience : Option String) : Payload :=
  signedClaims demoIdentity.text (canonicalDigest demoExternals demoRoot)
    demoRoot.expiresAt.unixSeconds ++ audience.elim [] fun a => [("aud", .str a)]

def signedRoot (audience : Option String) : GCO :=
  { demoRoot with
    attestation := some ⟨.jwtSvid, demoJws (jwsHeader "RS256" [("kid", .str "k1")])
      (signedRootClaims audience), none⟩ }

theorem bare_signedRoot (audience : Option String) :
    (signedRoot audience).bare = demoRoot.bare := by
  rw [signedRoot, GCO.bare, GCO.bare]

theorem serializable_signedRoot (audience : Option String) :
    (signedRoot audience).Serializable := by
  rw [← GCO.serializable_bare, bare_signedRoot]
  exact GCO.serializable_bare.2 serializable_demoRoot

theorem derivable_signedRoot (audience : Option String) :
    Derivable (signedRoot audience) demoClampedRequest :=
  derivable_demo.with_attestation _

theorem readable_signedRootClaims (audience : Option String) :
    Readable demoExternals.floatFormat (.dict (signedRootClaims audience)) := by
  cases audience with
  | none => exact readable_signedClaims _ _ (intFits_unixSeconds _)
  | some a =>
    exact readable_dict (show ["sub", "gco_hash", "exp", "aud"].Nodup by decide)
      (by simp [signedRootClaims, signedClaims, Readable, intFits_unixSeconds])

theorem verifies_signedRoot (audience : Option String)
    (issue : String → Payload → Except Exc AttestationModel) (w : World String Unit) :
    (signingProcess.forCommand (signingBundle audience) issue).Verifies
      demoModelExternals.toExternals demoNow.toPy (signedRoot audience) w w := by
  have htoken := signedToken_demoJws "k1" (readable_signedRootClaims audience)
  have hpayload : ((signingProcess.forCommand (signingBundle audience) issue).verifier
      demoNow.toPy).attestedPayload demoNow (signedRoot audience).attestation
        (signedRoot audience) = .ok (.ok (signedRootClaims audience, none)) :=
    attestedPayload_of_signed (registers_demo audience) rfl htoken rfl rfl demoNow
  have hlookup : (signedRootClaims audience).lookup "gco_hash" =
      some (.str (canonicalDigest demoExternals (signedRoot audience))) := by
    rw [← canonicalDigest_bare, bare_signedRoot]
    rfl
  have hsubject : checkSubject demoExternals (signedRootClaims audience) (signedRoot audience) none
      (audience.map fun a => [a]) = .ok (.ok ()) := by
    refine (checkSubject_of_claims (serializable_signedRoot audience) rfl hlookup).2 ?_
    cases audience with
    | none => rfl
    | some a =>
      have haud : (signedRootClaims (some a)).lookup "aud" = some (.str a) := rfl
      rw [haud]
      simp [verifyAudience, audienceStrings]
  have hbound : demoRoot.expiresAt.micros < DateTime.roundsUpFrom := by decide
  have hexp : (signedRootClaims audience).lookup "exp" =
      some (.int demoRoot.expiresAt.unixSeconds) := rfl
  have hnone : ∀ key, key = "nbf" ∨ key = "iat" →
      getNotNone (signedRootClaims audience) key = none := by
    cases audience <;> rintro key (rfl | rfl) <;> rfl
  have hsecond : demoNow.micros + 1000000 ≤ demoRoot.expiresAt.micros := by decide
  obtain ⟨t, htimes⟩ := (checkTimes_unixSeconds_iff hexp (hnone _ (.inl rfl)) (hnone _ (.inr rfl))
    hsecond).2 hbound
  exact (Config.verifies_iff rfl).2 ⟨rfl, _, t, demoNow, PyDatetime.toUtc?_toPy demoNow,
    AttestationVerifier.checkAttestation_eq_ok_iff.2 ⟨none, hpayload, hsubject, htimes⟩⟩

theorem after_demoPreview :
    After (min demoClampedRequest.requestedExpiry demoRoot.expiresAt) demoNow.toPy :=
  ⟨demoNow.micros, PyDatetime.instant?_toPy demoNow, by decide⟩

/-- What the command shows for `demoClampedRequest`. -/
def demoPreview (audience : Option String) : GCO :=
  { grantedChild demoModelExternals.toExternals (signedRoot audience) demoClampedRequest 0 with
    attestation := some (previewAttestation demoIdentity.text) }

theorem mainDerive_demoPreview (audience : Option String) (w : World String Unit) :
    mainDerive demoModelExternals jwsEncode signingProcess (signingBundle audience)
        (signedRoot audience) demoClampedRequest demoNow none w =
      .ok (.success true (demoPreview audience)) w :=
  mainDerive_success_iff.2 (previewDerive_success_iff.2 ⟨rfl,
    verifies_signedRoot audience previewIssue w, derivable_signedRoot audience, after_demoPreview,
    0, rfl, rfl⟩)

/-! ### Previewed and signed derivation -/

/-- Where `gco derive` previews a child that expires a second or more from now, a signing key that
the bundle registers for the identity makes it emit a signed child with the same authority exactly
if the bundle expects no audience and the expiry is not rounded up to the year 10000. -/
theorem signed_derivation_succeeds_iff (ext : ModelExternals) (hext : ext.ReadsBack)
    (encode : JwtEncode PrivateKey) (process : Config Key Cert Store V Ω)
    (huuid : ∀ w, ∃ spanId w', process.uuid4 w = .ok spanId w')
    (bundle : TrustBundle Key Cert Store) (parent : GCO) (request : DelegationRequest)
    (now : DateTime) (authority : PemSigningAuthority PrivateKey) (key : Key)
    (hregisters : bundle.Registers parent.modelIdentity authority.kid key)
    (hsigns : SignsFor process.crypto encode authority.key key) (preview : GCO)
    (w w₁ w' : World V Ω)
    (hpreview : mainDerive ext encode process bundle parent request now none w =
      .ok (.success true preview) w₁)
    (hsecond : now.micros + 1000000 ≤ preview.expiresAt.micros) :
    (∃ child w₂, mainDerive ext encode process bundle parent request now (some authority) w' =
        .ok (.success false child) w₂ ∧
      ∃ spanId attestation, child = { preview with
        spanId := spanId, attestation := some attestation }) ↔
      bundle.expectedAudience = none ∧
        (min request.requestedExpiry parent.expiresAt).micros < DateTime.roundsUpFrom := by
  obtain ⟨-, hparent, hderivable, hafter, previewSpan, -, rfl⟩ :=
    previewDerive_success_iff.1 (mainDerive_success_iff.1 hpreview)
  have hattested := ((Config.verifies_iff rfl).1 hparent).2
  constructor
  · rintro ⟨child, w₂, hmain, -⟩
    obtain ⟨-, -, -, spanId, a, -, ha, -, rfl, hchild⟩ :=
      signedDerive_success_iff.1 (mainDerive_success_iff.1 hmain)
    obtain ⟨b, hb, -, hverdict⟩ :=
      exists_issue_grantedChild hext hregisters hsigns hderivable hparent.serializable hsecond
        spanId
    cases hb.symm.trans ha
    exact hverdict.1 ((Config.verifies_iff rfl).1 hchild).2
  · intro hcondition
    obtain ⟨spanId, w₂, hspan⟩ := huuid w'
    obtain ⟨a, ha, hvalue, hverdict⟩ :=
      exists_issue_grantedChild hext hregisters hsigns hderivable hparent.serializable hsecond
        spanId
    have hchild := hverdict.2 hcondition
    exact ⟨_, w₂, mainDerive_success_iff.2 (signedDerive_success_iff.2
      ⟨(Config.verifies_iff rfl).2 ⟨rfl, hattested⟩, hderivable, hafter, spanId, a, hspan, ha,
        hvalue, rfl, (Config.verifies_iff rfl).2 ⟨rfl, hchild⟩⟩), spanId, a, rfl⟩

theorem signed_derivation_succeeds_demo :
    ∃ child w₂, mainDerive demoModelExternals jwsEncode signingProcess (signingBundle none)
        (signedRoot none) demoClampedRequest demoNow (some ⟨(), "k1"⟩) (demoWorld .empty) =
          .ok (.success false child) w₂ ∧
      ∃ spanId attestation, child = { demoPreview none with
        spanId := spanId, attestation := some attestation } :=
  (signed_derivation_succeeds_iff demoModelExternals demoModelExternals_readsBack jwsEncode
    signingProcess (fun w => ⟨0, w, rfl⟩) (signingBundle none) (signedRoot none) demoClampedRequest
    demoNow ⟨(), "k1"⟩ () (registers_demo none) signsFor_jwsEncode (demoPreview none)
    (demoWorld .empty) (demoWorld .empty) (demoWorld .empty) (mainDerive_demoPreview none _)
    (by decide)).2 ⟨rfl, by decide⟩

/-- With an audience in the bundle, and a parent with a token for it, the child is previewed and
its signature denied. -/
theorem signed_derivation_denied :
    ∃ bundle parent preview, bundle.expectedAudience = some ["https://receiver.example/endpoint"] ∧
      mainDerive demoModelExternals jwsEncode signingProcess bundle parent demoClampedRequest
        demoNow none (demoWorld .empty) = .ok (.success true preview) (demoWorld .empty) ∧
      demoNow.micros + 1000000 ≤ preview.expiresAt.micros ∧
      bundle.Registers parent.modelIdentity "k1" () ∧ SignsFor jwsCrypto jwsEncode () () ∧
      ∃ message, mainDerive demoModelExternals jwsEncode signingProcess bundle parent
        demoClampedRequest demoNow (some ⟨(), "k1"⟩) (demoWorld .empty) =
          .ok (.failure "AUDIENCE_MISMATCH" message) (demoWorld .empty) := by
  let audience := some "https://receiver.example/endpoint"
  have hsecond : demoNow.micros + 1000000 ≤ (demoPreview audience).expiresAt.micros := by decide
  have haudience : (signingBundle audience).expectedAudience ≠ none := by simp [signingBundle]
  have hdenied : ∃ message, signedDerive demoModelExternals jwsEncode signingProcess
      (signingBundle audience) (signedRoot audience) demoClampedRequest demoNow ⟨(), "k1"⟩
        (demoWorld .empty) = .ok (.failure "AUDIENCE_MISMATCH" message) (demoWorld .empty) :=
    signedDerive_of_audience demoModelExternals_readsBack (registers_demo audience)
      signsFor_jwsEncode (verifies_signedRoot audience _ _) (derivable_signedRoot audience)
      after_demoPreview hsecond (by decide) haudience rfl
  obtain ⟨message, hdenied⟩ := hdenied
  exact ⟨signingBundle audience, signedRoot audience, demoPreview audience, rfl,
    mainDerive_demoPreview audience _, hsecond, registers_demo audience, signsFor_jwsEncode,
    message, attempt_of_ok hdenied⟩

end Gco
