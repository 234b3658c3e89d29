import GcoSpec.Gco.Models
import GcoSpec.Python.Effect

/-!
# Errors and results

The error enumerations of `gco.validator`, `gco.attestation` and `gco_mcp.errors`, the exceptions
that pass between the modules, and the two records that report an outcome without raising:
`VerificationResult` and `Decision`.
-/

namespace Gco

open Python

inductive DerivationError
  | versionMismatch
  | traceIdChanged
  | policyIdChanged
  | modelIdentityChanged
  | interventionChanged
  | parentLinkageInvalid
  | lineageAppendFailed
  | lineageFlooded
  | maxDepthIncreased
  | toolAuthorityExpanded
  | statePermissionExpanded
  | taintDowngraded
  | expiryExtended
  | expired
  | attestationMissing
  | attestationFormatInvalid
  | canonicalHashMismatch
  | gcoMalformed
  deriving DecidableEq

def DerivationError.value : DerivationError → String
  | versionMismatch => "gco_version major version incompatible"
  | traceIdChanged => "trace_id mutated from parent"
  | policyIdChanged => "policy_id mutated from parent"
  | modelIdentityChanged => "model_identity mutated from parent"
  | interventionChanged => "intervention_version mutated from parent"
  | parentLinkageInvalid => "parent_span_id does not match parent span_id"
  | lineageAppendFailed => "lineage does not append parent digest"
  | lineageFlooded => "lineage exceeds 128 entries"
  | maxDepthIncreased => "max_depth increased or unchanged"
  | toolAuthorityExpanded => "tool authority scope expanded"
  | statePermissionExpanded => "state access_mode expanded"
  | taintDowngraded => "taint_policy downgraded"
  | expiryExtended => "expires_at exceeds parent expiry"
  | expired => "gco expired"
  | attestationMissing => "attestation field missing or empty"
  | attestationFormatInvalid => "attestation format not in supported enum"
  | canonicalHashMismatch => "lineage digest does not match canonical parent hash"
  | gcoMalformed => "gco schema validation failed"

inductive AttestationError
  | unverifiedSignature
  | untrustedKey
  | spiffeIdMismatch
  | gcoDigestMismatch
  | expiredAttestation
  | audienceMismatch
  | jtiMissing
  | replayDetected
  | unsupportedFormat
  | malformedAttestation
  deriving DecidableEq

def AttestationError.value : AttestationError → String
  | unverifiedSignature => "unverified_signature"
  | untrustedKey => "untrusted_key"
  | spiffeIdMismatch => "spiffe_id_mismatch"
  | gcoDigestMismatch => "gco_digest_mismatch"
  | expiredAttestation => "expired_attestation"
  | audienceMismatch => "audience_mismatch"
  | jtiMissing => "jti_missing"
  | replayDetected => "replay_detected"
  | unsupportedFormat => "unsupported_format"
  | malformedAttestation => "malformed_attestation"

inductive GcoMcpError
  | missingCapability
  | missingGco
  | oversizeGco
  | malformedGco
  deriving DecidableEq

def GcoMcpError.value : GcoMcpError → String
  | missingCapability => "gco_missing_capability"
  | missingGco => "gco_missing"
  | oversizeGco => "gco_oversize"
  | malformedGco => "gco_malformed"

/-- What stands in the `error_code` of a result. -/
inductive ErrorCode
  | derivation (e : DerivationError)
  | attestation (e : AttestationError)
  /-- The class `NamespaceAccessDenied`. -/
  | namespaceAccessDenied
  /-- The class `TaintedStateRead`. -/
  | taintedStateRead
  | mcp (e : GcoMcpError)
  | text (s : String)
  /-- A code of an injected verifier or validator, with the text of its `value` if it has one. -/
  | custom (value? : Option String)
  deriving DecidableEq

/-- `str(error_code.value)`, when there is such an attribute. -/
def ErrorCode.value? : ErrorCode → Option String
  | derivation e => some e.value
  | attestation e => some e.value
  | namespaceAccessDenied | taintedStateRead | text _ => none
  | mcp e => some e.value
  | custom v => v

/-! ### Exceptions -/

/-- The class of an exception, with the attributes that handlers read. -/
inductive ExcKind
  /-- `GCODerivationException`; an exception of a subclass may lack `error`. -/
  | derivation (error : Option ErrorCode)
  /-- pydantic's `ValidationError`, with the `loc` of each error. -/
  | validationError (locs : List (List String))
  | typeError
  | valueError
  | attributeError
  | overflowError
  | namespaceAccessDenied
  /-- A subclass of `NamespaceAccessDenied`. -/
  | stateKeyNotFound
  | taintedStateRead
  /-- A subclass of `ValueError`. -/
  | wireError (code : GcoMcpError)
  | other (className : String)
  deriving DecidableEq

/-- An exception: `text` is what `str(exc)` returns, unless the `__str__` of its class raises. -/
structure Exc where
  kind : ExcKind
  text : Option String
  deriving DecidableEq

namespace Exc

def typeError (text : String) : Exc := ⟨.typeError, some text⟩

def valueError (text : String) : Exc := ⟨.valueError, some text⟩

def attributeError (text : String) : Exc := ⟨.attributeError, some text⟩

def overflowError (text : String) : Exc := ⟨.overflowError, some text⟩

def namespaceAccessDenied (text : String) : Exc := ⟨.namespaceAccessDenied, some text⟩

def stateKeyNotFound (text : String) : Exc := ⟨.stateKeyNotFound, some text⟩

def taintedStateRead (text : String) : Exc := ⟨.taintedStateRead, some text⟩

def wireError (code : GcoMcpError) (text : String) : Exc := ⟨.wireError code, some text⟩

/-- `GCODerivationException(error)`. -/
def ofDerivation (e : DerivationError) : Exc := ⟨.derivation (some (.derivation e)), some e.value⟩

/-- `str(exc)`. -/
def str (e : Exc) : Except Exc String :=
  match e.text with
  | some text => .ok text
  | none => .error ⟨.other "Exception", none⟩

/-- An exception that `except (TypeError, ValueError)` catches. -/
def isTypeOrValueError (e : Exc) : Bool :=
  match e.kind with
  | .typeError | .valueError | .validationError _ | .wireError _ => true
  | _ => false

end Exc

/-- `if bad: raise GCODerivationException(error)`. -/
def raiseIf (bad : Prop) [Decidable bad] (error : DerivationError) : Except Exc Unit :=
  if bad then .error (.ofDerivation error) else .ok ()

theorem raiseIf_eq_ok_iff {bad : Prop} [Decidable bad] {error : DerivationError} :
    raiseIf bad error = .ok () ↔ ¬bad := by
  unfold raiseIf
  split_ifs with h <;> simp [h]

/-- What follows a check that may raise. -/
theorem raiseIf_bind_eq_ok_iff {β : Type} {bad : Prop} [Decidable bad] {error : DerivationError}
    {f : Unit → Except Exc β} {b : β} :
    (raiseIf bad error >>= f) = .ok b ↔ ¬bad ∧ f () = .ok b := by
  rw [except_bind_eq_ok_iff]
  constructor
  · rintro ⟨⟨⟩, hbad, hf⟩
    exact ⟨raiseIf_eq_ok_iff.1 hbad, hf⟩
  · rintro ⟨hbad, hf⟩
    exact ⟨(), raiseIf_eq_ok_iff.2 hbad, hf⟩

/-- The exception is a `GCODerivationException` with one of the errors. -/
def Exc.IsDerivation (e : Exc) : Prop := ∃ error, e = .ofDerivation error

theorem errorsOnly_raiseIf {bad : Prop} [Decidable bad] {error : DerivationError} :
    ErrorsOnly (raiseIf bad error) Exc.IsDerivation := by
  intro e h
  unfold raiseIf at h
  split_ifs at h
  cases h
  exact ⟨error, rfl⟩

/-! ### Outcomes -/

structure VerificationResult where
  verified : Bool
  errorCode : Option ErrorCode
  message : Option String
  deriving DecidableEq

/-- `VerificationResult(verified=True)`. -/
def VerificationResult.ok : VerificationResult := ⟨true, none, none⟩

/-- What `_failure` makes a result of: the verifier returns no other failure. -/
structure Failure where
  error : AttestationError
  message : String
  deriving DecidableEq

/-- `_failure`. -/
def failure (error : AttestationError) (message : String) : Failure := ⟨error, message⟩

/-- The result a failure is. -/
def Failure.result (f : Failure) : VerificationResult :=
  ⟨false, some (.attestation f.error), some f.message⟩

@[simp] theorem Failure.verified_result (f : Failure) : f.result.verified = false := rfl

/-- `Decision`, with values of type `V` in place of `bytes`. -/
structure Decision (V : Type) where
  allowed : Bool
  reason : Option String
  errorCode : Option ErrorCode
  child : Option GCO
  value : Option V
  deriving DecidableEq

namespace Decision

variable {V : Type}

/-- `Decision(allowed=True)`. -/
def allow : Decision V := ⟨true, none, none, none, none⟩

/-- `Decision(allowed=True, value=value)`. -/
def allowValue (value : V) : Decision V := ⟨true, none, none, none, some value⟩

/-- `Decision(allowed=True, child=child)`. -/
def allowChild (child : GCO) : Decision V := ⟨true, none, none, some child, none⟩

/-- `GovernanceRuntime._deny`. -/
def deny (errorCode : Option ErrorCode) (reason : Option String) : Decision V :=
  ⟨false, reason.or (errorCode.bind ErrorCode.value?), errorCode, none, none⟩

@[simp] theorem allowed_deny (errorCode : Option ErrorCode) (reason : Option String) :
    (deny errorCode reason : Decision V).allowed = false := rfl

@[simp] theorem allowed_allow : (allow : Decision V).allowed = true := rfl

@[simp] theorem allowed_allowValue (value : V) : (allowValue value).allowed = true := rfl

@[simp] theorem allowed_allowChild (child : GCO) : (allowChild child : Decision V).allowed = true :=
  rfl

end Decision

end Gco
