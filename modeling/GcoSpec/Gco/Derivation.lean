import GcoSpec.Gco.Attestation
import GcoSpec.Gco.Validator

/-!
# Derivation

`GCODerivationRuntime.derive` builds the child a delegation request asks for, has it attested and
validates it, once with a placeholder before the attestation is issued and once with the
attestation. The authority, the validator and `uuid4` are objects of the caller.
-/

namespace Gco

open Python

/-- `DelegationRequest`; its field `attestation_identity` is always `None`. -/
structure DelegationRequest where
  toolAuthority : List ToolAuthority
  stateAccessPermissions : List StatePermission
  requestedExpiry : DateTime

/-- `GCODerivationRuntime`, with the source of UUIDs. -/
structure GCODerivationRuntime (σ : Type) where
  /-- `authority.issue(identity, gco_data)`. -/
  issue : String → Payload → Py Exc σ (Option AttestationModel)
  validate : GCO → GCO → Py Exc σ Unit
  uuid4 : Py Exc σ Uuid

/-- `_validate_no_duplicate_namespaces`. -/
def validateNoDuplicateNamespaces (permissions : List StatePermission) : Except Exc Unit :=
  raiseIf (hasDuplicates (permissions.map (·.namespace))) .statePermissionExpanded

/-- `_validate_no_duplicate_tool_uris`. -/
def validateNoDuplicateToolUris (tools : List ToolAuthority) : Except Exc Unit :=
  raiseIf (hasDuplicates (tools.map (·.toolUri.text))) .toolAuthorityExpanded

/-- One turn of the loop of `_derive_tools`. -/
def deriveTool (parentTools : Dict String ToolAuthority) (requestedTool : ToolAuthority) :
    Except Exc ToolAuthority :=
  match parentTools.get? requestedTool.toolUri.text with
  | none => .error (.ofDerivation .toolAuthorityExpanded)
  | some parentTool => do
      raiseIf (parentTool.maxDepth = 0) .maxDepthIncreased
      raiseIf (¬scopeIsSubset requestedTool.scope parentTool.scope) .toolAuthorityExpanded
      pure ⟨parentTool.toolUri, requestedTool.scope,
        min requestedTool.maxDepth (parentTool.maxDepth - 1)⟩

/-- `_derive_tools`. -/
def deriveTools (parent : GCO) (request : DelegationRequest) : Except Exc (List ToolAuthority) :=
  request.toolAuthority.mapM (deriveTool parent.tools)

/-- One turn of the loop of `_derive_permissions`. -/
def derivePermission (parentPermissions : Dict String StatePermission)
    (requestedPermission : StatePermission) : Except Exc StatePermission :=
  match parentPermissions.get? requestedPermission.namespace with
  | none => .error (.ofDerivation .statePermissionExpanded)
  | some parentPermission => do
      raiseIf (¬accessAllows parentPermission.accessMode requestedPermission.accessMode)
        .statePermissionExpanded
      raiseIf (taintDowngraded (taintRank requestedPermission.taintPolicy)
        (taintRank parentPermission.taintPolicy)) .taintDowngraded
      pure requestedPermission

/-- `_derive_permissions`. -/
def derivePermissions (parent : GCO) (request : DelegationRequest) :
    Except Exc (List StatePermission) :=
  request.stateAccessPermissions.mapM (derivePermission parent.permissions)

/-- What `derive` checks and computes before it takes a UUID: the child's tools and permissions. -/
def derivePlan (parent : GCO) (request : DelegationRequest) :
    Except Exc (List ToolAuthority × List StatePermission) := do
  raiseIf (128 < parent.lineage.length + 1) .lineageFlooded
  validateNoDuplicateNamespaces parent.stateAccessPermissions
  validateNoDuplicateNamespaces request.stateAccessPermissions
  validateNoDuplicateToolUris parent.toolAuthority
  validateNoDuplicateToolUris request.toolAuthority
  let childTools ← deriveTools parent request
  let childPermissions ← derivePermissions parent request
  pure (childTools, childPermissions)

/-- `child_without_attestation`, with the hash of the parent. -/
def childWithoutAttestation (parent : GCO) (request : DelegationRequest) (spanId : Uuid)
    (parentHash : String) (childTools : List ToolAuthority)
    (childPermissions : List StatePermission) : GCO where
  gcoVersion := parent.gcoVersion
  traceId := parent.traceId
  spanId := spanId
  parentSpanId := some parent.spanId
  policyId := parent.policyId
  modelIdentity := parent.modelIdentity
  interventionVersion := parent.interventionVersion
  toolAuthority := childTools
  stateAccessPermissions := childPermissions
  expiresAt := min request.requestedExpiry parent.expiresAt
  lineage := parent.lineage ++ [parentHash]
  attestation := none

/-- The attestation of `child_for_validation`. -/
def placeholder : AttestationModel := ⟨.jwtSvid, "validation-placeholder", none⟩

variable (env : Externals)

/-- `derive`. -/
def GCODerivationRuntime.derive {σ : Type} (rt : GCODerivationRuntime σ) (parent : GCO)
    (request : DelegationRequest) : Py Exc σ GCO := do
  let (childTools, childPermissions) ← Py.ofExcept (derivePlan parent request)
  let spanId ← rt.uuid4
  let parentHash ← Py.ofExcept (canonicalGcoHash env parent)
  let bare := childWithoutAttestation parent request spanId parentHash childTools childPermissions
  rt.validate parent { bare with attestation := some placeholder }
  let attestation ← rt.issue parent.modelIdentity.text (bare.bareItems env)
  let child := { bare with attestation := attestation }
  rt.validate parent child
  pure child

variable {env}

/-- A child is derived when the request passes the checks and the child the validator, with the
placeholder and with the attestation. -/
theorem GCODerivationRuntime.derive_eq_ok_iff {σ : Type} {rt : GCODerivationRuntime σ}
    {parent : GCO} {request : DelegationRequest} {s s' : σ} {child : GCO} :
    rt.derive env parent request s = .ok child s' ↔
      ∃ tools permissions spanId s₁ s₂ attestation s₃,
        derivePlan parent request = .ok (tools, permissions) ∧ rt.uuid4 s = .ok spanId s₁ ∧
        parent.Serializable ∧
        rt.validate parent
          { childWithoutAttestation parent request spanId (canonicalDigest env parent) tools
              permissions with attestation := some placeholder } s₁ = .ok () s₂ ∧
        rt.issue parent.modelIdentity.text
          ((childWithoutAttestation parent request spanId (canonicalDigest env parent) tools
            permissions).bareItems env) s₂ = .ok attestation s₃ ∧
        child = { childWithoutAttestation parent request spanId (canonicalDigest env parent) tools
          permissions with attestation := attestation } ∧
        rt.validate parent child s₃ = .ok () s' := by
  unfold GCODerivationRuntime.derive
  constructor
  · intro h
    obtain ⟨⟨tools, permissions⟩, s₀, hrun, hrest⟩ := bind_eq_ok h
    obtain ⟨hplan, rfl⟩ := Py.ofExcept_eq_ok hrun
    obtain ⟨spanId, s₁, huuid, hrest⟩ := bind_eq_ok hrest
    obtain ⟨parentHash, s₁', hrun, h⟩ := bind_eq_ok hrest
    obtain ⟨hhash, hsame⟩ := Py.ofExcept_eq_ok hrun
    subst hsame
    obtain ⟨hparent, hdigest⟩ := canonicalGcoHash_eq_ok_iff.1 hhash
    subst hdigest
    obtain ⟨⟨⟩, s₂, hplaceholder, h⟩ := bind_eq_ok h
    obtain ⟨attestation, s₃, hissue, h⟩ := bind_eq_ok h
    obtain ⟨⟨⟩, s₄, hvalidate, h⟩ := bind_eq_ok h
    cases h
    exact ⟨tools, permissions, spanId, _, s₂, attestation, s₃, hplan, huuid, hparent, hplaceholder,
      hissue, rfl, hvalidate⟩
  · rintro ⟨tools, permissions, spanId, s₁, s₂, attestation, s₃, hplan, huuid, hparent,
      hplaceholder, hissue, rfl, hvalidate⟩
    rw [hplan, Py.ofExcept_ok, pure_bind]
    dsimp only
    rw [bind_apply, huuid]
    dsimp only
    rw [canonicalGcoHash_of_serializable hparent, Py.ofExcept_ok, pure_bind, bind_apply,
      hplaceholder]
    dsimp only
    rw [bind_apply, hissue]
    dsimp only
    rw [bind_apply, hvalidate]
    rfl

/-! ### What a request is granted -/

/-- The parent's entry for the tool of a request has depth left, and a scope that covers the
request's. -/
def ToolCovered (parent : GCO) (t : ToolAuthority) : Prop :=
  ∃ t' ∈ parent.toolAuthority,
    t.toolUri = t'.toolUri ∧ 1 ≤ t'.maxDepth ∧ scopeIsSubset t.scope t'.scope = true

/-- What the parent has to be for the request, and the request for the parent. -/
structure Derivable (parent : GCO) (request : DelegationRequest) : Prop where
  lineage : parent.lineage.length < 128
  parentNamespaces : parent.namespaces.Nodup
  requestNamespaces : (request.stateAccessPermissions.map (·.namespace)).Nodup
  parentToolUris : parent.toolUris.Nodup
  requestToolUris : (request.toolAuthority.map (·.toolUri.text)).Nodup
  tools : ∀ t ∈ request.toolAuthority, ToolCovered parent t
  permissions : ∀ p ∈ request.stateAccessPermissions, ∃ p' ∈ parent.stateAccessPermissions,
    PermissionNarrows p' p

/-- The child's entry for a requested tool: the depth is at most one less than the parent's. -/
def GCO.grantedTool (parent : GCO) (t : ToolAuthority) : ToolAuthority :=
  ⟨t.toolUri, t.scope,
    min t.maxDepth ((parent.tools.get? t.toolUri.text).elim 0 (·.maxDepth) - 1)⟩

theorem GCO.grantedTool_of_mem {parent : GCO} (hnodup : parent.toolUris.Nodup)
    {t t' : ToolAuthority} (ht' : t' ∈ parent.toolAuthority) (huri : t.toolUri = t'.toolUri) :
    parent.grantedTool t = ⟨t.toolUri, t.scope, min t.maxDepth (t'.maxDepth - 1)⟩ := by
  have hget : parent.tools.get? t.toolUri.text = some t' :=
    (GCO.tools_get?_iff hnodup).2 ⟨ht', by rw [huri]⟩
  rw [grantedTool, hget]
  rfl

theorem deriveTool_eq_ok_iff {parent : GCO} (hnodup : parent.toolUris.Nodup)
    (t t' : ToolAuthority) :
    deriveTool parent.tools t = .ok t' ↔ ToolCovered parent t ∧ t' = parent.grantedTool t := by
  unfold deriveTool ToolCovered
  cases h : parent.tools.get? t.toolUri.text with
  | none =>
    simp only [reduceCtorEq, false_iff, not_and]
    rintro ⟨p, hp, huri, -⟩
    rw [(GCO.tools_get?_iff hnodup).2 ⟨hp, by rw [huri]⟩] at h
    cases h
  | some p =>
    obtain ⟨hp, htext⟩ := (GCO.tools_get?_iff hnodup).1 h
    have huri : t.toolUri = p.toolUri := Uri.ext htext.symm
    simp only [raiseIf_bind_eq_ok_iff, not_not]
    constructor
    · rintro ⟨hdepth, hscope, ht'⟩
      cases ht'
      refine ⟨⟨p, hp, huri, by omega, hscope⟩, ?_⟩
      rw [GCO.grantedTool_of_mem hnodup hp huri, huri]
    · rintro ⟨⟨q, hq, huri', hdepth, hscope⟩, rfl⟩
      -- the parent has one entry for the URI
      obtain rfl : q = p := List.inj_on_of_nodup_map hnodup hq hp (by rw [← huri', huri])
      refine ⟨by omega, hscope, ?_⟩
      rw [GCO.grantedTool_of_mem hnodup hp huri, huri]
      rfl

theorem derivePermission_eq_ok_iff {parent : GCO} (hnodup : parent.namespaces.Nodup)
    (p p' : StatePermission) :
    derivePermission parent.permissions p = .ok p' ↔
      (∃ q ∈ parent.stateAccessPermissions, PermissionNarrows q p) ∧ p' = p := by
  unfold derivePermission
  cases h : parent.permissions.get? p.namespace with
  | none =>
    simp only [reduceCtorEq, false_iff, not_and]
    rintro ⟨q, hq, hnarrows⟩
    rw [(GCO.permissions_get?_iff hnodup).2 ⟨hq, hnarrows.namespace.symm⟩] at h
    cases h
  | some q =>
    obtain ⟨hq, hns⟩ := (GCO.permissions_get?_iff hnodup).1 h
    simp only [raiseIf_bind_eq_ok_iff, Bool.not_eq_true, Bool.not_eq_false,
      taintDowngraded_eq_false_iff]
    constructor
    · rintro ⟨hmode, htaint, hp'⟩
      cases hp'
      exact ⟨⟨q, hq, hns.symm, hmode, htaint⟩, rfl⟩
    · rintro ⟨⟨q', hq', hnarrows⟩, rfl⟩
      obtain rfl : q' = q :=
        List.inj_on_of_nodup_map hnodup hq' hq (hnarrows.namespace.symm.trans hns.symm)
      exact ⟨hnarrows.accessMode, hnarrows.taintPolicy, rfl⟩

/-- The checks and loops of `derive` pass for a derivable request, and grant it with the depths
clamped. -/
theorem derivePlan_eq_ok_iff {parent : GCO} {request : DelegationRequest}
    {plan : List ToolAuthority × List StatePermission} :
    derivePlan parent request = .ok plan ↔ Derivable parent request ∧
      plan = (request.toolAuthority.map parent.grantedTool, request.stateAccessPermissions) := by
  unfold derivePlan validateNoDuplicateNamespaces validateNoDuplicateToolUris
  simp only [raiseIf_bind_eq_ok_iff, not_hasDuplicates_iff, not_lt]
  simp only [except_bind_eq_ok_iff]
  constructor
  · rintro ⟨hlineage, hpn, hrn, hpt, hrt, tools, htools, permissions, hpermissions, hplan⟩
    obtain ⟨hcovered, rfl⟩ := (mapM_eq_ok_iff (deriveTool_eq_ok_iff hpt)).1 htools
    obtain ⟨hnarrows, rfl⟩ :=
      (mapM_eq_ok_iff (g := id) (derivePermission_eq_ok_iff hpn)).1 hpermissions
    cases hplan
    exact ⟨⟨by omega, hpn, hrn, hpt, hrt, hcovered, hnarrows⟩, by rw [List.map_id]⟩
  · rintro ⟨h, rfl⟩
    refine ⟨h.lineage, h.parentNamespaces, h.requestNamespaces, h.parentToolUris,
      h.requestToolUris, _, (mapM_eq_ok_iff (deriveTool_eq_ok_iff h.parentToolUris)).2
        ⟨h.tools, rfl⟩, _, (mapM_eq_ok_iff (g := id)
          (derivePermission_eq_ok_iff h.parentNamespaces)).2 ⟨h.permissions, rfl⟩, ?_⟩
    rw [List.map_id]
    rfl

/-- The checks and loops raise nothing but `GCODerivationException`s. -/
theorem errorsOnly_derivePlan (parent : GCO) (request : DelegationRequest) :
    ErrorsOnly (derivePlan parent request) Exc.IsDerivation := by
  have htool : ∀ tool, ErrorsOnly (deriveTool parent.tools tool) Exc.IsDerivation := by
    intro tool
    unfold deriveTool
    split
    · exact .error ⟨_, rfl⟩
    · exact errorsOnly_raiseIf.bind fun _ => errorsOnly_raiseIf.bind fun _ => .ok _
  have hpermission : ∀ permission,
      ErrorsOnly (derivePermission parent.permissions permission) Exc.IsDerivation := by
    intro permission
    unfold derivePermission
    split
    · exact .error ⟨_, rfl⟩
    · exact errorsOnly_raiseIf.bind fun _ => errorsOnly_raiseIf.bind fun _ => .ok _
  unfold derivePlan
  exact errorsOnly_raiseIf.bind fun _ => errorsOnly_raiseIf.bind fun _ =>
    errorsOnly_raiseIf.bind fun _ => errorsOnly_raiseIf.bind fun _ =>
    errorsOnly_raiseIf.bind fun _ => (ErrorsOnly.mapM htool _).bind fun _ =>
    (ErrorsOnly.mapM hpermission _).bind fun _ => .ok _

end Gco
