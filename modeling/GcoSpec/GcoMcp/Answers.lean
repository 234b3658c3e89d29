import GcoSpec.Gco.Cli
import GcoSpec.Gco.ValidateResult
import GcoSpec.GcoMcp.RoundTrip

/-!
# What a peer is told

A server answers a denied request with the error that `mcp_error_for_decision` makes of the
decision. Every denial of the server boundary has one, and its shape says who denied: the boundary,
because the capability is missing or an entry cannot be read, or the runtime, whose error it names
(`denied_request_is_answered`).

The answer to a missing capability names the capability, and a client that then advertises it and
attaches its objects is answered by the runtime only (`supporting_client_is_answered_by_runtime`).
-/

namespace GcoMcp

open Python Python.Json Gco

variable {σ V Key Cert Store Ω : Type}

/-! ### Settings -/

/-- `GcoExtensionSettings`. -/
structure GcoExtensionSettings where
  version : String := "1"
  gcoVersions : List String := ["1.0.0"]
  requireGco : Bool := true
  maxGcoBytes : ℤ := 65536
  handleSupport : Bool := false

/-- `as_capability`. -/
def GcoExtensionSettings.asCapability (settings : GcoExtensionSettings) : PyVal :=
  .dict [("version", .str settings.version),
    ("gcoVersions", .list (settings.gcoVersions.map .str)),
    ("requireGco", .bool settings.requireGco), ("maxGcoBytes", .int settings.maxGcoBytes),
    ("handleSupport", .bool settings.handleSupport)]

/-- `client_extensions_block`. -/
def clientExtensionsBlock (settings : Option GcoExtensionSettings) : PyVal :=
  .dict [(extensionId, (settings.getD {}).asCapability)]

/-! ### Errors -/

/-- `MISSING_REQUIRED_CLIENT_CAPABILITY`. -/
def missingRequiredClientCapability : ℤ := -32021

/-- `INVALID_PARAMS`. -/
def invalidParams : ℤ := -32602

/-- `str.lower` of the name of a member. -/
def lowerName (name : String) : String := String.ofList (name.toList.map Char.toLower)

/-- `error_code_value`, where `custom` is what it returns for the codes of injected objects. -/
def errorCodeValue (custom : Option String → String) : Option ErrorCode → Option String
  | none => none
  | some (.derivation e) => some (lowerName e.name)
  | some (.attestation e) => some (lowerName e.name)
  | some .namespaceAccessDenied => some "NamespaceAccessDenied"
  | some .taintedStateRead => some "TaintedStateRead"
  | some (.mcp e) => some (lowerName e.name)
  | some (.text s) => some s
  | some (.custom value?) => some (custom value?)

/-- The value of `requiredCapabilities`. -/
def requiredCapabilities : PyVal :=
  .dict [("extensions", .dict [(extensionId, .dict [("version", .str "1")])])]

/-- `missing_required_capability_error`. -/
def missingRequiredCapabilityError : Payload :=
  [("code", .int missingRequiredClientCapability),
   ("message", .str "Missing required client capability"),
   ("data", .dict [("requiredCapabilities", requiredCapabilities)])]

/-- `invalid_params_error`. -/
def invalidParamsError (message : String) (code : GcoMcpError) : Payload :=
  [("code", .int invalidParams), ("message", .str message),
   ("data", .dict [("error_code", .str code.value)])]

/-- `decision_to_tool_error`. -/
def decisionToToolError (custom : Option String → String) (decision : Decision V) : Payload :=
  [("isError", .bool true),
   ("content", .list [.dict [("type", .str "text"),
     ("text", .str (strOr decision.reason "GCO authorization denied"))]]),
   ("structuredContent", .dict
     [("error_code", .str (strOr (errorCodeValue custom decision.errorCode) "gco_denied")),
      ("reason", dumpOption .str decision.reason)])]

/-- `mcp_error_for_decision`. A text that is the value of one of three members is equal to the
member, and has no attribute `value`. -/
def mcpErrorForDecision (custom : Option String → String) (decision : Decision V) :
    Except Exc Payload :=
  match decision.errorCode with
  | some (.mcp .missingCapability) => .ok missingRequiredCapabilityError
  | some (.mcp code) => .ok (invalidParamsError (strOr decision.reason code.value) code)
  | some (.text s) =>
      if s ∈ [GcoMcpError.missingGco, .oversizeGco, .malformedGco].map GcoMcpError.value then
        .error (.attributeError "'str' object has no attribute 'value'")
      else .ok (decisionToToolError custom decision)
  | _ => .ok (decisionToToolError custom decision)

/-- `is_tool_error`. -/
def isToolError (payload : Payload) : Bool :=
  match payload.lookup "isError" with
  | some (.bool true) => true
  | _ => false

/-! ### Who denies -/

/-- The code is one of the validator or of the verifier. -/
def Governs : ErrorCode → Prop
  | .derivation _ | .attestation _ => True
  | _ => False

/-- A denial names the error of the validator or of the verifier. -/
def DeniedByRuntime (d : Decision V) : Prop :=
  d.allowed = false → ∃ code, d.errorCode = some code ∧ Governs code

/-- An exception that is a `GCODerivationException` has an error of the validator or verifier. -/
def NamesGoverning (e : Exc) : Prop :=
  ∀ error, e.kind = .derivation error → ∃ code, error = some code ∧ Governs code

/-- The verifier and the validator name their own errors. -/
structure NamesOwnErrors (rt : GovernanceRuntime σ V) : Prop where
  verify : ∀ attestation g, Ensures (rt.verify attestation g) fun r =>
    r.verified = false → ∃ code, r.errorCode = some code ∧ Governs code
  raises : ∀ attestation g, RaisesOnly (rt.verify attestation g) NamesGoverning
  validate : ∀ parent child, RaisesOnly (rt.validate parent child) NamesGoverning

section Denials

variable {rt : GovernanceRuntime σ V} {env : Externals}

theorem deniedByRuntime_of_allowed {d : Decision V} (h : d.allowed = true) : DeniedByRuntime d :=
  fun hd => by
    rw [h] at hd
    cases hd

theorem deniedByRuntime_deny {code : ErrorCode} {reason : Option String} (h : Governs code) :
    DeniedByRuntime (.deny (some code) reason : Decision V) :=
  fun _ => ⟨code, rfl, h⟩

theorem ensures_whenVerified (h : NamesOwnErrors rt) {g : GCO} {next : Py Exc σ (Decision V)}
    (hnext : Ensures next DeniedByRuntime) : Ensures (rt.whenVerified g next) DeniedByRuntime := by
  refine (h.verify g.attestation g).bind fun r hr => ?_
  by_cases hverified : r.verified = true
  · rw [if_neg (not_not.2 hverified)]
    exact hnext
  · rw [if_pos hverified]
    exact .pure fun _ => hr (by simpa using hverified)

theorem deniedByRuntime_of_denyMalformed {e : Exc} {d : Decision V}
    (h : denyMalformed e = .ok d) : DeniedByRuntime d := by
  obtain ⟨text, -, hd⟩ := except_bind_eq_ok_iff.1 h
  cases hd
  exact deniedByRuntime_deny trivial

theorem ensures_toolDecision (toolUri : Arg σ) (requestedScope : Option (Arg σ))
    (tools : List ToolAuthority) :
    Ensures (GovernanceRuntime.toolDecision env toolUri requestedScope tools :
      Py Exc σ (Decision V)) DeniedByRuntime := by
  induction tools with
  | nil => exact .seq fun uri => .pure (deniedByRuntime_deny trivial)
  | cons authority rest ih =>
    refine .seq fun uri => ?_
    split_ifs
    · exact ih
    · cases requestedScope with
      | none => exact .pure (deniedByRuntime_of_allowed rfl)
      | some requested =>
        refine .seq fun tokens => ?_
        split_ifs
        · exact .pure (deniedByRuntime_of_allowed rfl)
        · exact .seq fun scope => .seq fun uri => .pure (deniedByRuntime_deny trivial)
    · exact ih

theorem ensures_authorizeToolCall (h : NamesOwnErrors rt) (gco : Input σ) (toolUri : Arg σ)
    (requestedScope : Option (Arg σ)) :
    Ensures (rt.authorizeToolCall env gco toolUri requestedScope) DeniedByRuntime := by
  refine .attempt ?_ fun e d hd => deniedByRuntime_of_denyMalformed hd
  refine .seq fun subject => ensures_whenVerified h ?_
  have hexpiry : Ensures (rt.verifySubjectNotExpired subject) fun expiry =>
      ∀ d ∈ expiry, DeniedByRuntime d := by
    refine .seq fun now => .seq fun expired => ?_
    split_ifs
    · refine .pure ?_
      rintro d ⟨⟩
      exact deniedByRuntime_deny trivial
    · exact .pure (by rintro d ⟨⟩)
  refine hexpiry.bind fun expiry hd => ?_
  cases expiry with
  | some d => exact .pure (hd d rfl)
  | none => exact ensures_toolDecision toolUri requestedScope subject.toolAuthority

theorem ensures_authorizeSubcall (h : NamesOwnErrors rt) (parent child : GCO) :
    Ensures (rt.authorizeSubcall (.gco parent) (.gco child)) DeniedByRuntime := by
  have hverified : ∀ {g : GCO} {next : Py Exc σ (Decision V)}, RaisesOnly next NamesGoverning →
      RaisesOnly (rt.whenVerified g next) NamesGoverning := by
    intro g next hnext
    exact (h.raises g.attestation g).bind fun r => .ite (fun _ => .pure _) fun _ => hnext
  have hraises : RaisesOnly (rt.authorizeSubcallBody (.gco parent) (.gco child)) NamesGoverning :=
    RaisesOnly.bind (.pure _) fun p => hverified <| RaisesOnly.bind (.pure _) fun c => hverified <|
      (h.validate p c).bind fun _ => .pure _
  refine hraises.ensures_attempt ?_ ?_
  · refine .seq fun p => ensures_whenVerified h <| .seq fun c => ensures_whenVerified h <|
      .seq fun _ => .pure (deniedByRuntime_of_allowed rfl)
  · intro e he d hd
    unfold handleDerivation at hd
    split at hd
    · next error hkind =>
      obtain ⟨text, -, hpure⟩ := except_bind_eq_ok_iff.1 hd
      cases hpure
      obtain ⟨code, hcode, hgoverns⟩ := he _ hkind
      cases hcode
      exact deniedByRuntime_deny hgoverns
    · cases hd
    · exact deniedByRuntime_of_denyMalformed hd

end Denials

/-! ### The standard runtime -/

section Standard

variable {cfg : Config Key Cert Store V Ω} {env : Externals}

/-- Neither the replay cache nor `cert.public_key()` raises a `GCODerivationException` with an error
that is not its own. -/
structure RaisesOwnErrors (cfg : Config Key Cert Store V Ω) : Prop where
  publicKey : ∀ cert, ErrorsOnly (cfg.crypto.publicKey cert) NamesGoverning
  checkAndRecord : ∀ cache ∈ cfg.replayCache, ∀ jti exp now,
    RaisesOnly (cache.checkAndRecord jti exp now) NamesGoverning

theorem namesGoverning_of_kind {e : Exc} (h : ∀ error, e.kind ≠ .derivation error) :
    NamesGoverning e := fun error he => absurd he (h error)

/-- A result of the verifier is a failure, or verified. -/
theorem ensures_verify (now : PyDatetime) (attestation : Option AttestationModel) (g : GCO) :
    Ensures ((cfg.runtime env now).verify attestation g) fun r =>
      r.verified = false → ∃ code, r.errorCode = some code ∧ Governs code := by
  have hfailure : ∀ f : Failure, f.result.verified = false →
      ∃ code, f.result.errorCode = some code ∧ Governs code := fun f _ => ⟨_, rfl, trivial⟩
  have haccept : ∀ payload exp t,
      Ensures (acceptOnce cfg.replayCache payload exp t) fun r : VerificationResult =>
        r.verified = false → ∃ code, r.errorCode = some code ∧ Governs code := by
    intro payload exp t
    unfold acceptOnce
    split
    · exact .pure (by rintro ⟨⟩)
    · unfold verifyReplay
      split
      · exact .pure (hfailure _)
      · split_ifs
        · exact .pure (hfailure _)
        · refine .seq fun new => ?_
          split_ifs
          · exact .pure (by rintro ⟨⟩)
          · exact .pure (hfailure _)
  have hverify : Ensures ((cfg.verifier now).verify env attestation g none) fun r =>
      r.verified = false → ∃ code, r.errorCode = some code ∧ Governs code := by
    refine .seq fun t => ?_
    rw [AttestationVerifier.verifyAt_eq]
    refine .seq fun checked => ?_
    split
    · exact .pure (hfailure _)
    · exact haccept _ _ _
  intro w r w' h
  exact hverify _ _ _ (onHost_eq_ok h).1

theorem raisesOnly_verify (h : RaisesOwnErrors cfg) (now : PyDatetime)
    (attestation : Option AttestationModel) (g : GCO) :
    RaisesOnly ((cfg.runtime env now).verify attestation g) NamesGoverning :=
  Config.raisesOnly_verify (fun _ => namesGoverning_of_kind (by rintro _ ⟨⟩))
    (namesGoverning_of_kind (by rintro _ ⟨⟩)) h.publicKey h.checkAndRecord now attestation g

/-- The package names its own errors. -/
theorem namesOwnErrors_runtime (h : RaisesOwnErrors cfg) (now : PyDatetime) :
    NamesOwnErrors (cfg.runtime env now) where
  verify := ensures_verify now
  raises := raisesOnly_verify h now
  validate parent child := by
    refine RaisesOnly.ofExcept (GCOValidator.errorsOnly_validate ?_ ?_ ?_)
    · rintro e ⟨error, -, rfl⟩ code hcode
      cases hcode
      exact ⟨_, rfl, trivial⟩
    · exact namesGoverning_of_kind (by rintro _ ⟨⟩)
    · unfold leNow
      split
      · exact .error (namesGoverning_of_kind (by rintro _ ⟨⟩))
      · exact .ok _

end Standard

/-! ### Denials of the boundary -/

section Server

variable {rt : GovernanceRuntime σ V} {ext : ModelExternals} {maxGcoBytes : ℤ}
  {requestMeta : Option Meta} {custom : Option String → String}

/-- The codec raises errors of the wire, each with its text. -/
def IsWireError (e : Exc) : Prop :=
  ∃ code text, code ≠ .missingCapability ∧ text ≠ "" ∧ e = .wireError code text

theorem errorsOnly_extract : ErrorsOnly
    ((GcoWireCodec.standard ext maxGcoBytes).extract ext.toExternals requestMeta) IsWireError := by
  have hwire : ∀ {code text}, code ≠ GcoMcpError.missingCapability → text ≠ "" →
      IsWireError (.wireError code text) := fun hcode htext => ⟨_, _, hcode, htext, rfl⟩
  have hload : ∀ payload, ErrorsOnly ((GcoWireCodec.standard ext maxGcoBytes).loadGco
      ext.toExternals payload) IsWireError := by
    intro payload
    have hsize : ErrorsOnly ((GcoWireCodec.standard ext maxGcoBytes).enforceSize ext.toExternals
        payload) IsWireError := by
      unfold GcoWireCodec.enforceSize
      split
      · exact .error (hwire (by decide) (by decide))
      · split_ifs
        · exact .error (hwire (by decide) (by decide))
        · exact .ok _
    refine hsize.bind fun _ => ?_
    have hvalidate : (GcoWireCodec.standard ext maxGcoBytes).modelValidate payload =
        GCO.modelValidate ext payload := rfl
    rw [hvalidate, GCO.modelValidate]
    cases GCO.read ext payload with
    | some g => exact .ok _
    | none => exact .error (hwire (by decide) (by decide))
  have hhandle : ∀ payload, ErrorsOnly (GcoWireCodec.loadHandle payload) IsWireError := by
    intro payload
    unfold GcoWireCodec.loadHandle
    split
    · split_ifs
      · exact .error (hwire (by decide) (by decide))
      · exact .ok _
    · exact .error (hwire (by decide) (by decide))
  have hoptional : ∀ {α : Type} {load : PyVal → Except Exc α} (entry : Option PyVal),
      (∀ payload, ErrorsOnly (load payload) IsWireError) →
      ErrorsOnly (GcoWireCodec.loadOptional load entry) IsWireError := by
    intro α load entry h
    cases entry with
    | none => exact .ok _
    | some payload => exact ErrorsOnly.map_iff.2 (h payload)
  unfold GcoWireCodec.extract
  split
  · exact .error (hwire (by decide) (by decide))
  · exact (hload _).bind fun g => (hoptional _ hload).bind fun parent =>
      (hoptional _ hhandle).bind fun handle => .ok _

/-- The governing errors, by their names. -/
def governingCodes : List ErrorCode :=
  [.derivation .versionMismatch, .derivation .traceIdChanged, .derivation .policyIdChanged,
   .derivation .modelIdentityChanged, .derivation .interventionChanged,
   .derivation .parentLinkageInvalid, .derivation .lineageAppendFailed,
   .derivation .lineageFlooded, .derivation .maxDepthIncreased,
   .derivation .toolAuthorityExpanded, .derivation .statePermissionExpanded,
   .derivation .taintDowngraded, .derivation .expiryExtended, .derivation .expired,
   .derivation .attestationMissing, .derivation .attestationFormatInvalid,
   .derivation .canonicalHashMismatch, .derivation .gcoMalformed,
   .attestation .unverifiedSignature, .attestation .untrustedKey, .attestation .spiffeIdMismatch,
   .attestation .gcoDigestMismatch, .attestation .expiredAttestation,
   .attestation .audienceMismatch, .attestation .jtiMissing, .attestation .replayDetected,
   .attestation .unsupportedFormat, .attestation .malformedAttestation]

theorem mem_governingCodes {code : ErrorCode} (h : Governs code) : code ∈ governingCodes := by
  cases code with
  | derivation e => cases e <;> decide
  | attestation e => cases e <;> decide
  | _ => cases h

/-- Their names are different. -/
theorem errorCodeValue_injOn {code code' : ErrorCode} (h : Governs code) (h' : Governs code')
    (hvalue : errorCodeValue custom (some code) = errorCodeValue custom (some code')) :
    code = code' := by
  have hnodup : (governingCodes.map fun code =>
      errorCodeValue (fun _ => "") (some code)).Nodup := by decide
  have hcustom : ∀ {code : ErrorCode}, Governs code →
      errorCodeValue (fun _ => "") (some code) = errorCodeValue custom (some code) := by
    intro code hgoverns
    cases code with
    | derivation e => rfl
    | attestation e => rfl
    | _ => cases hgoverns
  refine List.inj_on_of_nodup_map hnodup (mem_governingCodes h) (mem_governingCodes h') ?_
  rw [hcustom h, hcustom h', hvalue]

theorem mcpErrorForDecision_of_governs {d : Decision V} {code : ErrorCode}
    (h : d.errorCode = some code) (hgoverns : Governs code) :
    mcpErrorForDecision custom d = .ok (decisionToToolError custom d) := by
  rw [mcpErrorForDecision, h]
  cases code with
  | derivation e => rfl
  | attestation e => rfl
  | _ => cases hgoverns

/-- Once the entries are extracted, it is the runtime that denies. -/
theorem ensures_authorizeIncoming_of_extracts {env : Externals} (h : NamesOwnErrors rt)
    {codec : GcoWireCodec} {require : Bool} {toolUri : Arg σ} {requestedScope : Option (Arg σ)}
    {wire : WireGco} (hwire : Extracts codec env requestMeta wire) :
    Ensures (authorizeIncoming env rt codec require requestMeta toolUri requestedScope)
      DeniedByRuntime := by
  rw [authorizeIncoming, if_neg (by simp [hwire.1]), hwire.2]
  dsimp only
  split
  · refine (ensures_authorizeSubcall h _ _).bind fun subcall hsubcall => ?_
    split_ifs
    · exact ensures_authorizeToolCall h _ _ _
    · exact .pure hsubcall
  · exact ensures_authorizeToolCall h _ _ _

end Server

/-- Every denied request is answered, and the answer says by whom. Where the client does not
advertise the extension it is the error for the missing capability; where an entry cannot be read it
is the error for invalid parameters, with the code and the text of the codec; and otherwise it is a
tool error with the name of the error that the validator or the verifier found, and of no other. -/
theorem denied_request_is_answered (ext : ModelExternals) (cfg : Config Key Cert Store V Ω)
    (hcfg : RaisesOwnErrors cfg) (maxGcoBytes : ℤ) (now : PyDatetime) (require : Bool)
    (requestMeta : Option Meta) (toolUri : Arg (World V Ω))
    (requestedScope : Option (Arg (World V Ω))) (custom : Option String → String) (d : Decision V)
    (w w' : World V Ω)
    (h : authorizeIncoming ext.toExternals (cfg.runtime ext.toExternals now)
      (.standard ext maxGcoBytes) require requestMeta toolUri requestedScope w = .ok d w')
    (hdenied : d.allowed = false) :
    ∃ answer, mcpErrorForDecision custom d = .ok answer ∧
      (clientAdvertisedGco requestMeta = false ∧ answer = missingRequiredCapabilityError ∧
          isToolError answer = false ∨
        clientAdvertisedGco requestMeta = true ∧ isToolError answer = false ∧
          (∃ code text, (GcoWireCodec.standard ext maxGcoBytes).extract ext.toExternals
            requestMeta = .error (.wireError code text) ∧ answer = invalidParamsError text code) ∨
        clientAdvertisedGco requestMeta = true ∧ isToolError answer = true ∧
          (∃ wire, (GcoWireCodec.standard ext maxGcoBytes).extract ext.toExternals requestMeta =
            .ok wire) ∧
          ∃ code, d.errorCode = some code ∧ Governs code ∧ answer = decisionToToolError custom d ∧
            ∀ code', Governs code' →
              errorCodeValue custom (some code') = errorCodeValue custom (some code) →
              code' = code) := by
  cases hadvertised : clientAdvertisedGco requestMeta with
  | false =>
    rw [authorizeIncoming, if_pos (by simp [hadvertised])] at h
    split_ifs at h
    · cases h
      exact ⟨_, rfl, .inl ⟨rfl, rfl, rfl⟩⟩
    · cases h
      cases hdenied
  | true =>
    cases hextract : (GcoWireCodec.standard ext maxGcoBytes).extract ext.toExternals
        requestMeta with
    | error e =>
      obtain ⟨code, text, hcode, htext, rfl⟩ := errorsOnly_extract e hextract
      rw [authorizeIncoming, if_neg (by simp [hadvertised]), hextract] at h
      obtain ⟨text', s₁, htext', hpure⟩ := bind_eq_ok h
      obtain ⟨hstr, rfl⟩ := Py.ofExcept_eq_ok htext'
      cases hstr
      cases hpure
      have hanswer : mcpErrorForDecision custom
          (denialDecision (.mcp code) text : Decision V) = .ok (invalidParamsError text code) := by
        cases code with
        | missingCapability => exact absurd rfl hcode
        | _ => simp [mcpErrorForDecision, denialDecision, Decision.deny, strOr, htext]
      exact ⟨_, hanswer, .inr (.inl ⟨rfl, rfl, code, text, rfl, rfl⟩)⟩
    | ok wire =>
      obtain ⟨code, hcode, hgoverns⟩ := ensures_authorizeIncoming_of_extracts
        (namesOwnErrors_runtime hcfg now) ⟨hadvertised, hextract⟩ w d w' h hdenied
      refine ⟨_, mcpErrorForDecision_of_governs hcode hgoverns, .inr (.inr ⟨rfl, rfl, ⟨wire, rfl⟩,
        code, hcode, hgoverns, rfl, ?_⟩)⟩
      intro code' hgoverns' hvalue
      exact errorCodeValue_injOn hgoverns' hgoverns hvalue

theorem raisesOwnErrors_demoConfig : RaisesOwnErrors demoConfig where
  publicKey _ := .ok _
  checkAndRecord := by rintro _ ⟨⟩

/-- A text for the codes of injected objects. -/
def demoCustom (_ : Option String) : String := "custom"

/-- A client that supports the extension and attaches nothing is told so. -/
theorem denied_request_is_answered_demo :
    ∃ d : Decision String, authorizeIncoming demoExternals
        (demoConfig.runtime demoExternals demoNow.toPy) (.standard demoModelExternals 65536) true
        (some demoMeta) (.str "mcp://tools/search") none (demoWorld .empty) =
          .ok d (demoWorld .empty) ∧
      mcpErrorForDecision demoCustom d =
        .ok (invalidParamsError "GCO _meta entry is required" .missingGco) := by
  have hrun : authorizeIncoming demoExternals (demoConfig.runtime demoExternals demoNow.toPy)
      (.standard demoModelExternals 65536) true (some demoMeta) (.str "mcp://tools/search") none
      (demoWorld .empty) = .ok (denialDecision (.mcp .missingGco) "GCO _meta entry is required")
        (demoWorld .empty) := rfl
  obtain ⟨answer, hanswer, ⟨hnot, -, -⟩ | ⟨-, -, code, text, hextract, rfl⟩ |
      ⟨-, -, ⟨wire, hextract⟩, -⟩⟩ :=
    denied_request_is_answered demoModelExternals demoConfig raisesOwnErrors_demoConfig 65536
      demoNow.toPy true (some demoMeta) (.str "mcp://tools/search") none demoCustom _ _ _ hrun rfl
  · have hadvertised : clientAdvertisedGco (some demoMeta) = true := by decide
    rw [hadvertised] at hnot
    cases hnot
  · have hmissing : (GcoWireCodec.standard demoModelExternals 65536).extract
        demoModelExternals.toExternals (some demoMeta) =
          .error (.wireError .missingGco "GCO _meta entry is required") := rfl
    rw [hmissing, Except.error.injEq] at hextract
    cases hextract
    exact ⟨_, hrun, hanswer⟩
  · cases hextract

/-! ### A client that was told -/

/-- The block, below the key for extensions or alone, or what the error for a missing capability
lists. -/
def Supports (capabilities : PyVal) : Prop :=
  capabilities = requiredCapabilities ∨
    ∃ settings, capabilities = clientExtensionsBlock settings ∨
      capabilities = .dict [("extensions", clientExtensionsBlock settings)]

theorem peerSupportsGco_of_supports {capabilities : PyVal} (h : Supports capabilities) :
    ∃ entries, capabilities.mapping? = some entries ∧ peerSupportsGco (some entries) = true := by
  obtain rfl | ⟨settings, rfl | rfl⟩ := h
  · exact ⟨_, rfl, by decide⟩
  · exact ⟨_, rfl, rfl⟩
  · exact ⟨_, rfl, rfl⟩

theorem clientAdvertisedGco_of_supports {m : Meta} {capabilities : PyVal}
    (h : Supports capabilities) (hm : m.get? clientCapabilities = some capabilities) :
    clientAdvertisedGco (some m) = true := by
  obtain ⟨entries, hentries, hsupports⟩ := peerSupportsGco_of_supports h
  rw [clientAdvertisedGco, Option.bind_some, hm, Option.bind_some, hentries]
  exact hsupports

/-- What fits a codec is loaded by every codec of the package whose bound is not smaller. -/
theorem loadGco_standard_of_attach {ext : ModelExternals} (hext : ext.ReadsBack)
    {senderMax receiverMax : ℤ} (hmax : senderMax ≤ receiverMax) {baseMeta : Option Meta}
    {gco : GCO} {parent : Option GCO} {m : Meta}
    (h : (GcoWireCodec.standard ext senderMax).attach ext.toExternals baseMeta gco parent = .ok m)
    (htyped : ∀ g ∈ gco :: parent.toList, g.Typed) :
    ∀ g ∈ gco :: parent.toList,
      (GcoWireCodec.standard ext receiverMax).loadGco ext.toExternals
        (g.modelDump ext.toExternals) = .ok g := by
  intro g hg
  refine GcoWireCodec.loadGco_of_fits ?_ (GCO.modelValidate_of_typed hext (htyped g hg))
  have hfits := (GcoWireCodec.attach_returns_iff baseMeta).1 ⟨m, h⟩ g hg
  rw [GcoWireCodec.enforceSize_eq_ok_iff] at hfits ⊢
  exact ⟨hfits.1, hfits.2.trans hmax⟩

/-- A client that advertises the extension, with any settings or with what the error for the missing
capability lists, and attaches its objects with a codec whose bound the server allows, is not
answered by the boundary again, however its `_meta` is written as JSON: when its request is denied,
the answer is a tool error of the runtime. -/
theorem supporting_client_is_answered_by_runtime (ext : ModelExternals) (hext : ext.ReadsBack)
    (cfg : Config Key Cert Store V Ω) (hcfg : RaisesOwnErrors cfg) (senderMax receiverMax : ℤ)
    (hmax : senderMax ≤ receiverMax) (base : Meta) (hbase : JsonMeta ext.floatFormat base)
    (hhandle : ProperHandle base) (capabilities : PyVal) (hsupports : Supports capabilities)
    (hcapabilities : base.get? clientCapabilities = some capabilities) (gco : GCO)
    (parent : Option GCO) (htyped : ∀ g ∈ gco :: parent.toList, g.Typed) (m : Meta)
    (hattach : (GcoWireCodec.standard ext senderMax).attach ext.toExternals (some base) gco parent =
      .ok m) (st : Style) :
    ∃ received, jsonRoundTrip ext.floatFormat st m = some received ∧
      Extracts (.standard ext receiverMax) ext.toExternals (some received)
        ⟨gco, parent, handleOf (some base)⟩ ∧
      ∀ (now : PyDatetime) (require : Bool) (toolUri : Arg (World V Ω))
        (requestedScope : Option (Arg (World V Ω))) (custom : Option String → String)
        (d : Decision V) (w w' : World V Ω),
        authorizeIncoming ext.toExternals (cfg.runtime ext.toExternals now)
          (.standard ext receiverMax) require (some received) toolUri requestedScope w = .ok d w' →
        d.allowed = false →
        ∃ code, d.errorCode = some code ∧ Governs code ∧
          mcpErrorForDecision custom d = .ok (decisionToToolError custom d) := by
  have hbaseMeta : ∀ b ∈ some base, JsonMeta ext.floatFormat b := by
    rintro b ⟨⟩
    exact hbase
  have hproper : ∀ b ∈ some base, ProperHandle b := by
    rintro b ⟨⟩
    exact hhandle
  obtain ⟨hgco, hparent, hrest⟩ := GcoWireCodec.get?_of_attach hattach
  have hadvertised : clientAdvertisedGco (some m) = true := by
    refine clientAdvertisedGco_of_supports hsupports ?_
    rw [hrest clientCapabilities (by decide) (by decide), Option.bind_some, hcapabilities]
  have hextracts : Extracts (.standard ext receiverMax) ext.toExternals (some m)
      ⟨gco, parent, handleOf (some base)⟩ :=
    ⟨hadvertised, GcoWireCodec.extract_of_entries hgco hparent
      (loadGco_standard_of_attach hext hmax hattach htyped)
      (loadHandle_of_attach hattach hproper)⟩
  refine ⟨m, jsonRoundTrip_of_json (json_of_attach hattach hbaseMeta) st, hextracts, ?_⟩
  intro now require toolUri requestedScope custom d w w' h hdenied
  obtain ⟨code, hcode, hgoverns⟩ := ensures_authorizeIncoming_of_extracts
    (namesOwnErrors_runtime hcfg now) hextracts w d w' h hdenied
  exact ⟨code, hcode, hgoverns, mcpErrorForDecision_of_governs hcode hgoverns⟩

theorem json_demoMeta : JsonMeta demoModelExternals.floatFormat demoMeta := by
  intro key x h
  have hreadable : ∀ (ps : List (String × PyVal)), (ps.map Prod.fst).Nodup →
      (∀ p ∈ ps, Readable demoModelExternals.floatFormat p.2) →
      Readable demoModelExternals.floatFormat (.dict ps) :=
    fun ps hnodup hps => readable_dict hnodup hps
  simp only [demoMeta, Dict.get?_set, Dict.get?_empty] at h
  split_ifs at h
  cases h
  refine hreadable _ (by simp) ?_
  simp only [List.forall_mem_singleton]
  refine hreadable _ (by simp) ?_
  simp only [List.forall_mem_singleton]
  refine hreadable _ (by decide) ?_
  have hbound : IntFits 65536 := by decide
  simp [Readable, ReadableItems, hbound]

theorem properHandle_demoMeta : ProperHandle demoMeta := by
  intro x h
  cases h

/-- A child without attestation fits, arrives, and is denied by the verifier. -/
theorem supporting_client_is_answered_by_runtime_demo :
    ∃ m received, (GcoWireCodec.standard demoModelExternals
        (wireSize demoExternals demoChild.bare)).attach demoExternals (some demoMeta) demoChild.bare
          none = .ok m ∧
      jsonRoundTrip demoExternals.floatFormat ⟨true, false⟩ m = some received ∧
      ∃ d : Decision String, authorizeIncoming demoExternals
        (demoConfig.runtime demoExternals demoNow.toPy)
        (.standard demoModelExternals (wireSize demoExternals demoChild.bare)) true (some received)
        (.str "mcp://tools/search") none (demoWorld .empty) = .ok d (demoWorld .empty) ∧
      mcpErrorForDecision demoCustom d = .ok (decisionToToolError demoCustom d) := by
  have htyped : ∀ g ∈ [demoChild.bare], g.Typed := by
    intro g hg
    rw [List.mem_singleton.1 hg]
    exact (typed_of_narrows narrows_demo : demoChild.Typed)
  obtain ⟨m, hm⟩ : ∃ m, (GcoWireCodec.standard demoModelExternals
      (wireSize demoExternals demoChild.bare)).attach demoExternals (some demoMeta) demoChild.bare
        none = .ok m :=
    GcoWireCodec.attach_standard_of_size (GCO.serializable_bare.2 serializable_demoChild) _
  obtain ⟨received, hreceived, hextracts, hanswered⟩ :=
    supporting_client_is_answered_by_runtime demoModelExternals demoModelExternals_readsBack
      demoConfig raisesOwnErrors_demoConfig _ _ le_rfl demoMeta json_demoMeta
      properHandle_demoMeta _ (.inr ⟨none, .inr rfl⟩) rfl demoChild.bare none htyped m hm
      ⟨true, false⟩
  have hrun : ∃ d : Decision String, authorizeIncoming demoExternals
      (demoConfig.runtime demoExternals demoNow.toPy)
      (.standard demoModelExternals (wireSize demoExternals demoChild.bare)) true (some received)
      (.str "mcp://tools/search") none (demoWorld .empty) = .ok d (demoWorld .empty) ∧
        d.allowed = false :=
    ⟨_, congrFun (authorizeIncoming_of_no_parent hextracts rfl) _, rfl⟩
  obtain ⟨d, hd, hdenied⟩ := hrun
  obtain ⟨-, -, -, hanswer⟩ := hanswered demoNow.toPy true _ none demoCustom d _ _ hd hdenied
  exact ⟨m, received, hm, hreceived, d, hd, hanswer⟩

end GcoMcp
