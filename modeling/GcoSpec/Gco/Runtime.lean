import GcoSpec.Gco.Derivation
import GcoSpec.Gco.StateStore

/-!
# The governance runtime

`GovernanceRuntime` decides; it never raises on purpose. Its collaborators are objects that a
caller may inject: each is an arbitrary call here, which may return anything of its type, change
any object, or raise.

* An argument is a `str`, an `AccessMode`, a `GCO` and so on, or any other object, of which only
  the results of the operations the methods apply to it are known (`Arg`, `Mode`, `Input`,
  `Request`);
* each method is the body of its `try` statement (`…Body`) under the handlers of that statement.
-/

namespace Gco

open Python

variable {σ V : Type}

/-! ### Arguments -/

/-- An object that is not a `str`, where a `str` is expected. -/
structure ObjectArg (σ : Type) where
  /-- `str(x)`. -/
  str : Py Exc σ String
  /-- `f"{x}"`. -/
  format : Py Exc σ String
  /-- `repr(x)`. -/
  repr : Py Exc σ String
  /-- `s == x` for a `str` `s`. -/
  eqStr : String → Py Exc σ Bool
  /-- `_scope_tokens(x)`. -/
  scopeTokens : Py Exc σ (List String)
  /-- The `AccessMode` that `x` is equal to, as a key of a dictionary. -/
  accessMode? : Py Exc σ (Option AccessMode)

/-- An argument for which the signature says `str`. -/
inductive Arg (σ : Type)
  | str (s : String)
  | object (x : ObjectArg σ)

namespace Arg

/-- `str(x)`. -/
def toStr : Arg σ → Py Exc σ String
  | str s => pure s
  | object x => x.str

/-- `f"{x}"`. -/
def format : Arg σ → Py Exc σ String
  | str s => pure s
  | object x => x.format

/-- `repr(x)`. -/
def repr (env : Externals) : Arg σ → Py Exc σ String
  | str s => pure (env.reprStr s)
  | object x => x.repr

/-- `t == x`. -/
def eqStr (t : String) : Arg σ → Py Exc σ Bool
  | str s => pure (decide (t = s))
  | object x => x.eqStr t

/-- `_scope_tokens(x)`. -/
def scopeTokens : Arg σ → Py Exc σ (List String)
  | str s => pure (Gco.scopeTokens s)
  | object x => x.scopeTokens

def accessMode? : Arg σ → Py Exc σ (Option AccessMode)
  | str s => pure (StrEnum.ofValue? AccessMode s)
  | object x => x.accessMode?

end Arg

/-- An argument for which the signature says `str | AccessMode`. -/
inductive Mode (σ : Type)
  | member (m : AccessMode)
  | other (x : Arg σ)

namespace Mode

/-- `mode is AccessMode.NONE`. -/
def isNone : Mode σ → Bool
  | member .none => true
  | _ => false

def accessMode? : Mode σ → Py Exc σ (Option AccessMode)
  | member m => pure (some m)
  | other x => x.accessMode?

/-- `mode.value if isinstance(mode, AccessMode) else str(mode)`. -/
def label : Mode σ → Py Exc σ String
  | member m => pure (StrEnum.value m)
  | other x => x.toStr

/-- `f"{mode}"`. -/
def format : Mode σ → Py Exc σ String
  | member m => pure ("AccessMode." ++ m.name)
  | other x => x.format

end Mode

/-- `mode if isinstance(mode, AccessMode) else AccessMode(str(mode))`, or `none` where that raises
`TypeError` or `ValueError`. -/
def coerceMode : Mode σ → Py Exc σ (Option AccessMode)
  | .member m => pure (some m)
  | .other x => fun s =>
      match x.toStr s with
      | .ok text s' => .ok (StrEnum.ofValue? AccessMode text) s'
      | .error e s' => if e.isTypeOrValueError then .ok none s' else .error e s'

/-- An argument that is a `GCO`, or an object with what `GCO.model_validate` does with it. -/
inductive Input (σ : Type)
  | gco (g : GCO)
  | other (modelValidate : Py Exc σ GCO)

/-- `_coerce_gco`. -/
def coerceGco : Input σ → Py Exc σ GCO
  | .gco g => pure g
  | .other modelValidate => modelValidate

/-- An argument that is a `DelegationRequest`, or an object to validate as one. -/
inductive Request (σ : Type)
  | request (r : DelegationRequest)
  | other (modelValidate : Py Exc σ DelegationRequest)

def coerceRequest : Request σ → Py Exc σ DelegationRequest
  | .request r => pure r
  | .other modelValidate => modelValidate

/-! ### The runtime -/

/-- `GovernanceRuntime`, as the calls it makes to its collaborators. -/
structure GovernanceRuntime (σ V : Type) where
  now : Py Exc σ PyDatetime
  /-- `verifier.verify(gco.attestation, gco)`. -/
  verify : Option AttestationModel → GCO → Py Exc σ VerificationResult
  validate : GCO → GCO → Py Exc σ Unit
  /-- `state_store.read(namespace, key, gco)`. -/
  read : Arg σ → Arg σ → GCO → Py Exc σ V
  /-- `state_store.write(namespace, key, value, gco)`. -/
  write : Arg σ → Arg σ → V → GCO → Py Exc σ Unit
  /-- `attestation_authority.issue`, if there is an authority. -/
  issue : Option (String → Payload → Py Exc σ (Option AttestationModel))
  uuid4 : Py Exc σ Uuid

/-- `_deny(DerivationError.GCO_MALFORMED, str(exc))`. -/
def denyMalformed (e : Exc) : Except Exc (Decision V) := do
  pure (.deny (some (.derivation .gcoMalformed)) (some (← e.str)))

/-- The handlers of `authorize_subcall` and `derive_for_subcall`. -/
def handleDerivation (e : Exc) : Except Exc (Decision V) :=
  match e.kind with
  | .derivation (some error) => do pure (.deny (some error) (some (← e.str)))
  | .derivation none => .error (.attributeError "error")
  | _ => denyMalformed e

/-- The handlers of `read_state`. -/
def handleRead (e : Exc) : Except Exc (Decision V) :=
  match e.kind with
  | .namespaceAccessDenied | .stateKeyNotFound => do
      pure (.deny (some .namespaceAccessDenied) (some (← e.str)))
  | .taintedStateRead => do pure (.deny (some .taintedStateRead) (some (← e.str)))
  | _ => denyMalformed e

/-- The handlers of `write_state`. -/
def handleWrite (e : Exc) : Except Exc (Decision V) :=
  match e.kind with
  | .namespaceAccessDenied | .stateKeyNotFound => do
      pure (.deny (some .namespaceAccessDenied) (some (← e.str)))
  | _ => denyMalformed e

/-- `_deny(NamespaceAccessDenied, reason)`. -/
def denyNamespace (reason : String) : Decision V :=
  .deny (some .namespaceAccessDenied) (some reason)

namespace GovernanceRuntime

variable (env : Externals) (rt : GovernanceRuntime σ V)

/-- `verifier.verify`, and the denial when the result is not verified. -/
def whenVerified (g : GCO) (next : Py Exc σ (Decision V)) : Py Exc σ (Decision V) := do
  let verified ← rt.verify g.attestation g
  if ¬verified.verified then pure (.deny verified.errorCode verified.message)
  else next

/-- `_verify_subject_not_expired`. -/
def verifySubjectNotExpired (subject : GCO) : Py Exc σ (Option (Decision V)) := do
  if ← Py.ofExcept (leNow subject.expiresAt (← rt.now)) then
    pure (some (.deny (some (.derivation .expired)) none))
  else pure none

/-- How the methods on one subject begin: coerce it, verify it, and check that it is current. -/
def withSubject (gco : Input σ) (next : GCO → Py Exc σ (Decision V)) : Py Exc σ (Decision V) := do
  let subject ← coerceGco gco
  rt.whenVerified subject do
    match ← rt.verifySubjectNotExpired subject with
    | some expiry => pure expiry
    | none => next subject

/-! ### The methods -/

def authorizeSubcallBody (parent child : Input σ) : Py Exc σ (Decision V) := do
  let parentGco ← coerceGco parent
  rt.whenVerified parentGco do
    let childGco ← coerceGco child
    rt.whenVerified childGco do
      rt.validate parentGco childGco
      pure .allow

/-- `authorize_subcall`. -/
def authorizeSubcall (parent child : Input σ) : Py Exc σ (Decision V) :=
  attempt (rt.authorizeSubcallBody parent child) handleDerivation

/-- The answer of the entry for the tool. -/
def scopeDecision (toolUri : Arg σ) (authority : ToolAuthority) :
    Option (Arg σ) → Py Exc σ (Decision V)
  | none => pure .allow
  | some requested => do
      let tokens ← requested.scopeTokens
      if tokens.all fun token => token ∈ scopeTokens authority.scope then pure .allow
      else do
        let scope ← requested.repr env
        let uri ← toolUri.format
        pure (.deny (some (.derivation .toolAuthorityExpanded))
          (some s!"scope {scope} exceeds grant for tool {uri}"))

/-- The loop of `authorize_tool_call` over the entries of the grant. -/
def toolDecision (toolUri : Arg σ) (requestedScope : Option (Arg σ)) :
    List ToolAuthority → Py Exc σ (Decision V)
  | [] => do
      let uri ← toolUri.format
      pure (.deny (some (.derivation .toolAuthorityExpanded))
        (some s!"tool {uri} is not delegated"))
  | authority :: rest => do
      let uri ← toolUri.toStr
      if authority.toolUri.text = uri ∧ 0 < authority.maxDepth then
        if strip authority.scope = "" then toolDecision toolUri requestedScope rest
        else scopeDecision env toolUri authority requestedScope
      else toolDecision toolUri requestedScope rest

def authorizeToolCallBody (gco : Input σ) (toolUri : Arg σ) (requestedScope : Option (Arg σ)) :
    Py Exc σ (Decision V) :=
  rt.withSubject gco fun subject => toolDecision env toolUri requestedScope subject.toolAuthority

/-- `authorize_tool_call`. -/
def authorizeToolCall (gco : Input σ) (toolUri : Arg σ) (requestedScope : Option (Arg σ)) :
    Py Exc σ (Decision V) :=
  attempt (rt.authorizeToolCallBody env gco toolUri requestedScope) denyMalformed

/-- `_authorize_verified_state_access`. -/
def authorizeVerifiedStateAccess (subject : GCO) (ns : Arg σ) (mode : Mode σ) :
    Py Exc σ (Decision V) := do
  let coerced ← coerceMode mode
  let requestedMode : Mode σ := coerced.elim mode .member
  match ← subject.stateAccessPermissions.findM? fun permission => ns.eqStr permission.namespace with
  | none => do
      let ns ← ns.format
      pure (denyNamespace s!"namespace {ns} is not delegated")
  | some permission => do
      let requestedRank := (← requestedMode.accessMode?).bind fun m => accessRank (.member m)
      let grantedRank := accessRank permission.accessMode
      let requestedLabel ← requestedMode.label
      if requestedRank = none ∨ grantedRank = none ∨ requestedMode.isNone then do
        let ns ← ns.format
        pure (denyNamespace s!"{requestedLabel} denied for namespace {ns}")
      else do
        let requested ← requestedMode.accessMode?
        if requested.all fun m => !accessAllows permission.accessMode (.member m) then do
          let ns ← ns.format
          pure (denyNamespace s!"{requestedLabel} denied for namespace {ns}")
        else pure .allow

def authorizeStateAccessBody (gco : Input σ) (ns : Arg σ) (mode : Mode σ) :
    Py Exc σ (Decision V) :=
  rt.withSubject gco fun subject => do
    let access ← authorizeVerifiedStateAccess subject ns mode
    if ¬access.allowed then pure access else pure .allow

/-- `authorize_state_access`. -/
def authorizeStateAccess (gco : Input σ) (ns : Arg σ) (mode : Mode σ) : Py Exc σ (Decision V) :=
  attempt (rt.authorizeStateAccessBody gco ns mode) denyMalformed

def readStateBody (gco : Input σ) (ns key : Arg σ) : Py Exc σ (Decision V) :=
  rt.withSubject gco fun subject => do
    let access ← authorizeVerifiedStateAccess subject ns (.member .read)
    if ¬access.allowed then pure access
    else do
      let value ← rt.read ns key subject
      pure (.allowValue value)

/-- `read_state`. -/
def readState (gco : Input σ) (ns key : Arg σ) : Py Exc σ (Decision V) :=
  attempt (rt.readStateBody gco ns key) handleRead

/-- `_coerce_write_mode`. -/
def coerceWriteMode (mode : Mode σ) : Py Exc σ (Option AccessMode) := do
  let requestedMode ← coerceMode mode
  pure (requestedMode.filter fun m => m = .write || m = .append)

/-- `_subject_for_write_mode`. -/
def subjectForWriteMode (subject : GCO) (ns : Arg σ) (mode : AccessMode) : Py Exc σ GCO :=
  if mode = .write then pure subject
  else do
    let permissions ← subject.stateAccessPermissions.mapM fun permission => do
      if ← ns.eqStr permission.namespace then
        pure { permission with accessMode := .member .append }
      else pure permission
    pure { subject with stateAccessPermissions := permissions }

def writeStateBody (gco : Input σ) (ns key : Arg σ) (value : V) (mode : Mode σ) :
    Py Exc σ (Decision V) :=
  rt.withSubject gco fun subject => do
    match ← coerceWriteMode mode with
    | none => do
        let mode ← mode.format
        let ns ← ns.format
        pure (denyNamespace s!"{mode} denied for namespace {ns}")
    | some requestedMode => do
        let access ← authorizeVerifiedStateAccess subject ns (.member requestedMode)
        if ¬access.allowed then pure access
        else do
          let writeSubject ← subjectForWriteMode subject ns requestedMode
          rt.write ns key value writeSubject
          pure .allow

/-- `write_state`. -/
def writeState (gco : Input σ) (ns key : Arg σ) (value : V) (mode : Mode σ) :
    Py Exc σ (Decision V) :=
  attempt (rt.writeStateBody gco ns key value mode) handleWrite

def deriveForSubcallBody (parent : Input σ) (request : Request σ) : Py Exc σ (Decision V) :=
  match rt.issue with
  | none => pure (.deny (some (.attestation .malformedAttestation))
      (some "attestation authority is not configured"))
  | some issue => do
      let parentGco ← coerceGco parent
      rt.whenVerified parentGco do
        let delegationRequest ← coerceRequest request
        let child ← (GCODerivationRuntime.mk issue rt.validate rt.uuid4).derive env parentGco
          delegationRequest
        rt.whenVerified child do
          rt.validate parentGco child
          pure (.allowChild child)

/-- `derive_for_subcall`. -/
def deriveForSubcall (parent : Input σ) (request : Request σ) : Py Exc σ (Decision V) :=
  attempt (rt.deriveForSubcallBody env parent request) handleDerivation

end GovernanceRuntime

end Gco
