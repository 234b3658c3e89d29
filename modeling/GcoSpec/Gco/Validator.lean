import GcoSpec.Gco.Canonical
import GcoSpec.Gco.Errors
import GcoSpec.Python.Effect
import Mathlib.Data.List.Dedup

/-!
# The derivation validator

`GCOValidator.validate` compares a parent and a child field by field and raises at the first
difference it does not accept.

* `accessAllowances`, `taintRank`, `scopeTokens` are the tables and helpers of the module;
* `validate` and its parts follow the methods in order;
* `Narrows` is the relation between parent and child that a passed validation establishes, and
  `validate_eq_ok_iff` says that it establishes exactly this.
-/

namespace Gco

open Python

/-! ### Ranks and allowances -/

/-- `ACCESS_RANK`. -/
def accessRank : Label AccessMode → Option ℕ
  | .member .none => some 0
  | .member .read => some 1
  | .member .append => some 2
  | .member .write => some 3
  | .other _ _ => none

/-- `ACCESS_ALLOWANCES`. -/
def accessAllowances : AccessMode → List AccessMode
  | .none => [.none]
  | .read => [.none, .read]
  | .append => [.none, .append]
  | .write => [.none, .read, .append, .write]

/-- `_access_allows`. -/
def accessAllows (granted requested : Label AccessMode) : Bool :=
  match granted, requested with
  | .member g, .member r => r ∈ accessAllowances g
  | _, _ => false

/-- `TAINT_RANK`. -/
def TaintPolicy.rank : TaintPolicy → ℕ
  | .clean => 0
  | .sanitized => 1
  | .tainted => 2
  | .isolated => 3

/-- `_taint_rank`. -/
def taintRank : Label TaintPolicy → Option ℕ
  | .member t => some t.rank
  | .other _ _ => none

/-- What a granted mode allows is not allowed to anything more: the relation is transitive. -/
theorem accessAllows_trans {a b c : Label AccessMode} (hab : accessAllows a b = true)
    (hbc : accessAllows b c = true) : accessAllows a c = true := by
  have htable : ∀ x y z : AccessMode, y ∈ accessAllowances x → z ∈ accessAllowances y →
      z ∈ accessAllowances x := by
    intro x y z hy hz
    cases x <;> cases y <;> cases z <;> first | decide | exact absurd hy (by decide) |
      exact absurd hz (by decide)
  cases a with
  | other => exact absurd hab (by simp [accessAllows])
  | member x =>
    cases b with
    | other => exact absurd hab (by simp [accessAllows])
    | member y =>
      cases c with
      | other => exact absurd hbc (by simp [accessAllows])
      | member z =>
        simp only [accessAllows, decide_eq_true_eq] at hab hbc ⊢
        exact htable x y z hab hbc

/-! ### Scopes and versions -/

/-- `_major`. -/
def major (version : String) : String :=
  String.ofList (version.toList.takeWhile fun c => c ≠ '.')

/-- `_scope_tokens`. -/
def scopeTokens (scope : String) : List String := split (replace "," " " scope)

/-- `_scope_is_subset`. -/
def scopeIsSubset (childScope parentScope : String) : Bool :=
  (scopeTokens childScope).all fun token => token ∈ scopeTokens parentScope

theorem scopeIsSubset_iff {c p : String} :
    scopeIsSubset c p = true ↔ scopeTokens c ⊆ scopeTokens p := by
  simp [scopeIsSubset, List.subset_def]

theorem scopeIsSubset_trans {a b c : String} (hab : scopeIsSubset a b = true)
    (hbc : scopeIsSubset b c = true) : scopeIsSubset a c = true := by
  rw [scopeIsSubset_iff] at hab hbc ⊢
  exact List.Subset.trans hab hbc

/-- A blank scope has no tokens. -/
theorem scopeTokens_of_blank {scope : String} (h : strip scope = "") : scopeTokens scope = [] := by
  have hblank := strip_eq_empty_iff.1 h
  have hspaces : ∀ c ∈ (replace "," " " scope).toList, isSpace c = true := by
    intro c hc
    rw [toList_replace, show ",".toList = [','] from rfl, show " ".toList = [' '] from rfl,
      replaceChars_single, List.mem_map] at hc
    obtain ⟨d, hd, rfl⟩ := hc
    split_ifs
    · decide
    · exact hblank d hd
  rw [scopeTokens, split, words_of_blank hspaces, List.map_nil]

/-! ### Validation -/

/-- `len(xs) != len(set(xs))`. -/
def hasDuplicates (xs : List String) : Prop := xs.length ≠ xs.dedup.length

instance (xs : List String) : Decidable (hasDuplicates xs) :=
  inferInstanceAs (Decidable (xs.length ≠ xs.dedup.length))

theorem not_hasDuplicates_iff {xs : List String} : ¬hasDuplicates xs ↔ xs.Nodup := by
  rw [hasDuplicates, not_not]
  constructor
  · intro h
    rw [← (List.dedup_sublist xs).eq_of_length h.symm]
    exact List.nodup_dedup xs
  · intro h
    rw [h.dedup]

/-- What `t <= now` raises for a naive `now`. -/
def naiveComparison : Exc := .typeError "can't compare offset-naive and offset-aware datetimes"

/-- `t <= now`, where `now` may be naive. -/
def leNow (t : DateTime) (now : PyDatetime) : Except Exc Bool :=
  match now.instant? with
  | none => .error naiveComparison
  | some micros => .ok (t.micros ≤ micros)

/-- `t` is after the reading `now` of the clock. -/
def After (t : DateTime) (now : PyDatetime) : Prop :=
  ∃ micros, now.instant? = some micros ∧ micros < t.micros

theorem leNow_eq_false_iff {t : DateTime} {now : PyDatetime} :
    leNow t now = .ok false ↔ After t now := by
  unfold leNow After
  cases now.instant? <;> simp

theorem After.mono {s t : DateTime} {now : PyDatetime} (h : After s now) (hst : s ≤ t) :
    After t now := by
  obtain ⟨micros, hnow, hlt⟩ := h
  exact ⟨micros, hnow, lt_of_lt_of_le hlt (DateTime.le_iff.1 hst)⟩

variable (env : Externals)

def validateVersion (parent child : GCO) : Except Exc Unit :=
  raiseIf (major child.gcoVersion ≠ major parent.gcoVersion) .versionMismatch

/-- `IMMUTABLE_PARENT_FIELDS`, in order. -/
def validateImmutables (parent child : GCO) : Except Exc Unit := do
  raiseIf (child.traceId ≠ parent.traceId) .traceIdChanged
  raiseIf (child.policyId ≠ parent.policyId) .policyIdChanged
  raiseIf (child.modelIdentity ≠ parent.modelIdentity) .modelIdentityChanged
  raiseIf (child.interventionVersion ≠ parent.interventionVersion) .interventionChanged

def validateParentLinkage (parent child : GCO) : Except Exc Unit :=
  raiseIf (child.parentSpanId ≠ some parent.spanId) .parentLinkageInvalid

def validateLineage (parent child : GCO) : Except Exc Unit := do
  raiseIf (128 < child.lineage.length) .lineageFlooded
  raiseIf (child.lineage.length ≠ parent.lineage.length + 1 ∨
    child.lineage.dropLast ≠ parent.lineage) .lineageAppendFailed
  let digest ← canonicalGcoHash env parent
  raiseIf (child.lineage.getLast? ≠ some digest) .canonicalHashMismatch

/-- One turn of the loop of `_validate_tool_authority`. -/
def validateTool (parentTools : Dict String ToolAuthority) (childTool : ToolAuthority) :
    Except Exc Unit :=
  match parentTools.get? childTool.toolUri.text with
  | none => .error (.ofDerivation .toolAuthorityExpanded)
  | some parentTool => do
      raiseIf (parentTool.maxDepth = 0 ∨ parentTool.maxDepth - 1 < childTool.maxDepth)
        .maxDepthIncreased
      raiseIf (¬scopeIsSubset childTool.scope parentTool.scope) .toolAuthorityExpanded

def validateToolAuthority (parent child : GCO) : Except Exc Unit :=
  child.toolAuthority.forM (validateTool parent.tools)

/-- `child_taint is None or parent_taint is None or child_taint < parent_taint`. -/
def taintDowngraded (childTaint parentTaint : Option ℕ) : Bool :=
  match childTaint, parentTaint with
  | some c, some p => c < p
  | _, _ => true

/-- One turn of the loop of `_validate_state_permissions`. -/
def validatePermission (parentPermissions : Dict String StatePermission)
    (childPermission : StatePermission) : Except Exc Unit :=
  match parentPermissions.get? childPermission.namespace with
  | none => .error (.ofDerivation .statePermissionExpanded)
  | some parentPermission => do
      raiseIf (¬accessAllows parentPermission.accessMode childPermission.accessMode)
        .statePermissionExpanded
      raiseIf (taintDowngraded (taintRank childPermission.taintPolicy)
        (taintRank parentPermission.taintPolicy)) .taintDowngraded

def validateStatePermissions (parent child : GCO) : Except Exc Unit :=
  child.stateAccessPermissions.forM (validatePermission parent.permissions)

def validateExpiry (now : PyDatetime) (parent child : GCO) : Except Exc Unit := do
  raiseIf (parent.expiresAt < child.expiresAt) .expiryExtended
  let expired ← leNow child.expiresAt now
  raiseIf expired .expired

/-- `child.attestation is None or not child.attestation.value`. -/
def attestationMissing (g : GCO) : Bool := g.attestation.all fun a => a.value = ""

def validateAttestation (child : GCO) : Except Exc Unit :=
  raiseIf (attestationMissing child) .attestationMissing

/-- `GCOValidator.validate` on two GCOs, where the clock reads `now`. -/
def validate (now : PyDatetime) (parent child : GCO) : Except Exc Unit := do
  raiseIf (hasDuplicates parent.namespaces) .statePermissionExpanded
  raiseIf (hasDuplicates child.namespaces) .statePermissionExpanded
  raiseIf (hasDuplicates parent.toolUris) .toolAuthorityExpanded
  raiseIf (hasDuplicates child.toolUris) .toolAuthorityExpanded
  validateVersion parent child
  validateImmutables parent child
  validateParentLinkage parent child
  validateLineage env parent child
  validateToolAuthority parent child
  validateStatePermissions parent child
  validateExpiry now parent child
  validateAttestation child

/-- `validate` up to the reading of the clock in `_validate_expiry`. -/
def validateBeforeClock (parent child : GCO) : Except Exc Unit := do
  raiseIf (hasDuplicates parent.namespaces) .statePermissionExpanded
  raiseIf (hasDuplicates child.namespaces) .statePermissionExpanded
  raiseIf (hasDuplicates parent.toolUris) .toolAuthorityExpanded
  raiseIf (hasDuplicates child.toolUris) .toolAuthorityExpanded
  validateVersion parent child
  validateImmutables parent child
  validateParentLinkage parent child
  validateLineage env parent child
  validateToolAuthority parent child
  validateStatePermissions parent child
  raiseIf (parent.expiresAt < child.expiresAt) .expiryExtended

/-- The rest of `validate`, where the clock reads `now`. -/
def validateFromClock (now : PyDatetime) (child : GCO) : Except Exc Unit := do
  let expired ← leNow child.expiresAt now
  raiseIf expired .expired
  validateAttestation child

/-- `GCOValidator.validate_root` on a GCO. -/
def validateRoot (now : PyDatetime) (root : GCO) : Except Exc Unit := do
  raiseIf (root.parentSpanId ≠ none) .parentLinkageInvalid
  raiseIf (root.lineage ≠ []) .lineageAppendFailed
  raiseIf (hasDuplicates root.namespaces) .statePermissionExpanded
  raiseIf (hasDuplicates root.toolUris) .toolAuthorityExpanded
  validateExpiry now root root
  validateAttestation root

/-! ### What a passed validation establishes -/

/-- The child's entry for a tool is within the parent's. -/
structure ToolNarrows (parent child : ToolAuthority) : Prop where
  toolUri : child.toolUri = parent.toolUri
  maxDepth : child.maxDepth + 1 ≤ parent.maxDepth
  scope : scopeIsSubset child.scope parent.scope = true

/-- The label `child` has a rank, and it is at least that of `parent`. -/
def TaintLe (parent child : Label TaintPolicy) : Prop :=
  ∃ r s, taintRank parent = some r ∧ taintRank child = some s ∧ r ≤ s

/-- The child's permission for a namespace is within the parent's. -/
structure PermissionNarrows (parent child : StatePermission) : Prop where
  «namespace» : child.namespace = parent.namespace
  accessMode : accessAllows parent.accessMode child.accessMode = true
  taintPolicy : TaintLe parent.taintPolicy child.taintPolicy

/-- The child is derived from the parent within its authority, and the parent has a hash. -/
structure Narrows (parent child : GCO) : Prop where
  parentNamespaces : parent.namespaces.Nodup
  childNamespaces : child.namespaces.Nodup
  parentToolUris : parent.toolUris.Nodup
  childToolUris : child.toolUris.Nodup
  version : major child.gcoVersion = major parent.gcoVersion
  traceId : child.traceId = parent.traceId
  policyId : child.policyId = parent.policyId
  modelIdentity : child.modelIdentity = parent.modelIdentity
  interventionVersion : child.interventionVersion = parent.interventionVersion
  parentSpanId : child.parentSpanId = some parent.spanId
  serializable : parent.Serializable
  lineage : child.lineage = parent.lineage ++ [canonicalDigest env parent]
  lineageLength : child.lineage.length ≤ 128
  tools : ∀ t ∈ child.toolAuthority, ∃ t' ∈ parent.toolAuthority, ToolNarrows t' t
  permissions : ∀ p ∈ child.stateAccessPermissions, ∃ p' ∈ parent.stateAccessPermissions,
    PermissionNarrows p' p
  expiresAt : child.expiresAt ≤ parent.expiresAt
  attestation : ∃ a, child.attestation = some a ∧ a.value ≠ ""

variable {env}

/-- A permission that is allowed at all has labels that are members. -/
theorem PermissionNarrows.typed {q p : StatePermission} (h : PermissionNarrows q p) :
    (∃ m, p.accessMode = .member m) ∧ ∃ t, p.taintPolicy = .member t := by
  have hmode := h.accessMode
  obtain ⟨r, s, -, hs, -⟩ := h.taintPolicy
  refine ⟨?_, ?_⟩
  · cases hp : p.accessMode with
    | member m => exact ⟨m, rfl⟩
    | other raw hraw =>
      rw [hp] at hmode
      cases hq : q.accessMode <;> rw [hq] at hmode <;> cases hmode
  · cases hp : p.taintPolicy with
    | member t => exact ⟨t, rfl⟩
    | other raw hraw =>
      rw [hp] at hs
      cases hs

theorem typed_of_narrows {parent child : GCO} (h : Narrows env parent child) :
    child.Typed := by
  intro p hp
  obtain ⟨q, -, hnarrows⟩ := h.permissions p hp
  exact hnarrows.typed

theorem validateImmutables_eq_ok_iff {parent child : GCO} :
    validateImmutables parent child = .ok () ↔
      child.traceId = parent.traceId ∧ child.policyId = parent.policyId ∧
        child.modelIdentity = parent.modelIdentity ∧
        child.interventionVersion = parent.interventionVersion := by
  simp only [validateImmutables, seq_eq_ok_iff, raiseIf_eq_ok_iff, not_not, ne_eq]

theorem validateLineage_eq_ok_iff {parent child : GCO} :
    validateLineage env parent child = .ok () ↔ parent.Serializable ∧
      child.lineage = parent.lineage ++ [canonicalDigest env parent] ∧
        child.lineage.length ≤ 128 := by
  rw [validateLineage, raiseIf_bind_eq_ok_iff, raiseIf_bind_eq_ok_iff, except_bind_eq_ok_iff]
  simp only [raiseIf_eq_ok_iff, not_or, not_not, ne_eq, not_lt, canonicalGcoHash_eq_ok_iff]
  constructor
  · rintro ⟨hlen, ⟨-, hinit⟩, digest, ⟨hparent, rfl⟩, hlast⟩
    refine ⟨hparent, ?_, hlen⟩
    rw [← hinit, List.dropLast_append_getLast? _ hlast]
  · rintro ⟨hparent, h, hlen⟩
    refine ⟨hlen, ⟨?_, ?_⟩, _, ⟨hparent, rfl⟩, ?_⟩ <;> simp [h]

theorem validateTool_eq_ok_iff {parent : GCO} (hnodup : parent.toolUris.Nodup)
    {t : ToolAuthority} : validateTool parent.tools t = .ok () ↔
      ∃ t' ∈ parent.toolAuthority, ToolNarrows t' t := by
  unfold validateTool
  cases h : parent.tools.get? t.toolUri.text with
  | none =>
    simp only [reduceCtorEq, false_iff, not_exists, not_and]
    intro t' ht' hn
    rw [(GCO.tools_get?_iff hnodup).2 ⟨ht', congrArg Uri.text hn.toolUri.symm⟩] at h
    cases h
  | some t' =>
    obtain ⟨hmem, huri⟩ := (GCO.tools_get?_iff hnodup).1 h
    simp only [seq_eq_ok_iff, raiseIf_eq_ok_iff, not_or, not_not, not_lt]
    constructor
    · rintro ⟨⟨hzero, hdepth⟩, hscope⟩
      exact ⟨t', hmem, Uri.ext huri.symm, by omega, hscope⟩
    · rintro ⟨t'', hmem'', hn⟩
      -- the parent has no second entry for the URI
      have ht := (GCO.tools_get?_iff hnodup).2 ⟨hmem'', congrArg Uri.text hn.toolUri.symm⟩
      rw [h, Option.some.injEq] at ht
      subst ht
      have hdepth := hn.maxDepth
      exact ⟨⟨by omega, by omega⟩, hn.scope⟩

theorem taintDowngraded_eq_false_iff {parent child : Label TaintPolicy} :
    taintDowngraded (taintRank child) (taintRank parent) = false ↔ TaintLe parent child := by
  unfold TaintLe taintDowngraded
  cases taintRank parent <;> cases taintRank child <;> simp

theorem validatePermission_eq_ok_iff {parent : GCO} (hnodup : parent.namespaces.Nodup)
    {p : StatePermission} : validatePermission parent.permissions p = .ok () ↔
      ∃ p' ∈ parent.stateAccessPermissions, PermissionNarrows p' p := by
  unfold validatePermission
  cases h : parent.permissions.get? p.namespace with
  | none =>
    simp only [reduceCtorEq, false_iff, not_exists, not_and]
    intro p' hp' hn
    rw [(GCO.permissions_get?_iff hnodup).2 ⟨hp', hn.namespace.symm⟩] at h
    cases h
  | some p' =>
    obtain ⟨hmem, hns⟩ := (GCO.permissions_get?_iff hnodup).1 h
    simp only [seq_eq_ok_iff, raiseIf_eq_ok_iff, Bool.not_eq_true, Bool.not_eq_false,
      taintDowngraded_eq_false_iff]
    constructor
    · rintro ⟨hmode, htaint⟩
      exact ⟨p', hmem, hns.symm, hmode, htaint⟩
    · rintro ⟨p'', hmem'', hn⟩
      have hp := (GCO.permissions_get?_iff hnodup).2 ⟨hmem'', hn.namespace.symm⟩
      rw [h, Option.some.injEq] at hp
      subst hp
      exact ⟨hn.accessMode, hn.taintPolicy⟩

theorem validateExpiry_eq_ok_iff {now : PyDatetime} {parent child : GCO} :
    validateExpiry now parent child = .ok () ↔
      child.expiresAt ≤ parent.expiresAt ∧ After child.expiresAt now := by
  rw [validateExpiry, seq_eq_ok_iff, raiseIf_eq_ok_iff, not_lt, ← leNow_eq_false_iff]
  refine and_congr_right fun _ => ?_
  cases h : leNow child.expiresAt now with
  | error e => simp [bind, Except.bind]
  | ok b => cases b <;> simp [bind, Except.bind, raiseIf]

theorem validateAttestation_eq_ok_iff {child : GCO} :
    validateAttestation child = .ok () ↔ ∃ a, child.attestation = some a ∧ a.value ≠ "" := by
  rw [validateAttestation, raiseIf_eq_ok_iff, attestationMissing]
  cases child.attestation <;> simp

/-- Up to the clock, validation accepts a pair when the child narrows the parent, whatever its
attestation. -/
theorem validateBeforeClock_eq_ok_iff {parent child : GCO} :
    validateBeforeClock env parent child = .ok () ↔
      ∃ a, Narrows env parent { child with attestation := some a } := by
  simp only [validateBeforeClock, seq_eq_ok_iff, raiseIf_eq_ok_iff, not_hasDuplicates_iff,
    validateVersion, validateParentLinkage, ne_eq, not_not, validateImmutables_eq_ok_iff,
    validateLineage_eq_ok_iff, validateToolAuthority, validateStatePermissions, forM_eq_ok_iff,
    not_lt]
  constructor
  · rintro ⟨hpn, hcn, hpt, hct, hversion, ⟨htrace, hpolicy, hmodel, hintervention⟩, hspan,
      ⟨hparent, hlineage, hlength⟩, htools, hpermissions, hexpiry⟩
    exact ⟨⟨.jwtSvid, "token", none⟩, hpn, hcn, hpt, hct, hversion, htrace, hpolicy, hmodel,
      hintervention, hspan, hparent, hlineage, hlength,
      fun t ht => (validateTool_eq_ok_iff hpt).1 (htools t ht),
      fun p hp => (validatePermission_eq_ok_iff hpn).1 (hpermissions p hp), hexpiry,
      ⟨_, rfl, by decide⟩⟩
  · rintro ⟨a, h⟩
    exact ⟨h.parentNamespaces, h.childNamespaces, h.parentToolUris, h.childToolUris, h.version,
      ⟨h.traceId, h.policyId, h.modelIdentity, h.interventionVersion⟩, h.parentSpanId,
      ⟨h.serializable, h.lineage, h.lineageLength⟩,
      fun t ht => (validateTool_eq_ok_iff h.parentToolUris).2 (h.tools t ht),
      fun p hp => (validatePermission_eq_ok_iff h.parentNamespaces).2 (h.permissions p hp),
      h.expiresAt⟩

/-- From the clock on, it accepts a child that is current and has an attestation. -/
theorem validateFromClock_eq_ok_iff {now : PyDatetime} {child : GCO} :
    validateFromClock now child = .ok () ↔
      After child.expiresAt now ∧ ∃ a, child.attestation = some a ∧ a.value ≠ "" := by
  rw [validateFromClock, ← leNow_eq_false_iff, ← validateAttestation_eq_ok_iff]
  cases h : leNow child.expiresAt now with
  | error e => simp [bind, Except.bind]
  | ok b =>
    show (raiseIf b .expired >>= fun _ => validateAttestation child) = .ok () ↔ _
    rw [seq_eq_ok_iff, raiseIf_eq_ok_iff]
    cases b <;> simp

/-- Validation reads the clock once, between these two parts. -/
theorem validate_eq (now : PyDatetime) (parent child : GCO) :
    validate env now parent child =
      (validateBeforeClock env parent child >>= fun _ => validateFromClock now child) := by
  simp only [validate, validateBeforeClock, validateFromClock, validateExpiry, bind_assoc]

/-- Validation accepts a pair exactly when the child narrows the parent and is still current. -/
theorem validate_eq_ok_iff {now : PyDatetime} {parent child : GCO} :
    validate env now parent child = .ok () ↔
      Narrows env parent child ∧ After child.expiresAt now := by
  rw [validate_eq, seq_eq_ok_iff, validateBeforeClock_eq_ok_iff, validateFromClock_eq_ok_iff]
  constructor
  · rintro ⟨⟨a, h⟩, hafter, hattestation⟩
    exact ⟨{ h with attestation := hattestation }, hafter⟩
  · rintro ⟨h, hafter⟩
    obtain ⟨a, ha, hvalue⟩ := h.attestation
    exact ⟨⟨a, { h with attestation := ⟨a, rfl, hvalue⟩ }⟩, hafter, a, ha, hvalue⟩

/-- What the part from the clock on raises. -/
theorem errorsOnly_validateFromClock (now : PyDatetime) (child : GCO) :
    ErrorsOnly (validateFromClock now child) fun e =>
      e.IsDerivation ∨ now.instant? = none ∧ e = naiveComparison := by
  have hnow : ErrorsOnly (leNow child.expiresAt now) fun e =>
      e.IsDerivation ∨ now.instant? = none ∧ e = naiveComparison := by
    intro e h
    unfold leNow at h
    split at h
    · next hnone =>
      cases h
      exact .inr ⟨hnone, rfl⟩
    · cases h
  exact hnow.bind fun _ => (errorsOnly_raiseIf.mono fun _ => .inl).bind fun _ =>
    errorsOnly_raiseIf.mono fun _ => .inl

/-- What `validate_root` accepts. -/
theorem validateRoot_eq_ok_iff {now : PyDatetime} {root : GCO} :
    validateRoot now root = .ok () ↔
      root.parentSpanId = none ∧ root.lineage = [] ∧ root.namespaces.Nodup ∧
        root.toolUris.Nodup ∧ After root.expiresAt now ∧
        ∃ a, root.attestation = some a ∧ a.value ≠ "" := by
  simp only [validateRoot, seq_eq_ok_iff, raiseIf_eq_ok_iff, not_hasDuplicates_iff, ne_eq, not_not,
    validateExpiry_eq_ok_iff, validateAttestation_eq_ok_iff, le_refl, true_and]

end Gco
