import GcoSpec.Python.Text
import GcoSpec.Python.Enum
import GcoSpec.Python.DateTime

/-!
# Governance context objects

The records of `gco.models`. What a field validator checks is carried by the type of the field:
a `Uri` matches the URI pattern, `max_depth` is a natural number, `expires_at` is in UTC. The two
enumeration fields of a permission are `Label`s, because a permission built without validation
(`model_construct`, `model_copy(update=...)`) may hold any string there and the code that reads
them has branches for it.
-/

namespace Gco

open Python

/-! ### URIs -/

/-- `[A-Za-z0-9+.-]`. -/
def isSchemeChar (c : Char) : Bool := c.isAlphanum || c = '+' || c = '.' || c = '-'

/-- `[^\s\x00-\x1f\x7f]`. -/
def isUriChar (c : Char) : Bool := !(isSpace c || c.toNat ≤ 0x1f || c.toNat = 0x7f)

/-- `_URI_RE.fullmatch(value)`. The scheme cannot contain the colon that ends it. -/
def matchesUri (value : String) : Bool :=
  match value.toList with
  | [] => false
  | c :: cs =>
      c.isAlpha && match cs.dropWhile isSchemeChar with
        | ':' :: rest => !rest.isEmpty && rest.all isUriChar
        | _ => false

/-- A string that `_validate_uri` accepts. -/
@[ext] structure Uri where
  text : String
  valid : matchesUri text = true
  deriving DecidableEq

/-! ### Enumerations -/

inductive AttestationFormat
  | jwtSvid
  | x509Svid
  | rawJws
  | tpmQuote
  deriving DecidableEq

inductive AccessMode
  | none
  | read
  | append
  | write
  deriving DecidableEq

inductive TaintPolicy
  | clean
  | sanitized
  | tainted
  | isolated
  deriving DecidableEq

instance : StrEnum AttestationFormat where
  value
    | .jwtSvid => "jwt-svid"
    | .x509Svid => "x509-svid"
    | .rawJws => "raw-jws"
    | .tpmQuote => "tpm-quote"
  members := [.jwtSvid, .x509Svid, .rawJws, .tpmQuote]
  mem_members e := by cases e <;> decide
  value_injective a b h := by cases a <;> cases b <;> first | rfl | exact absurd h (by decide)

instance : StrEnum AccessMode where
  value
    | .none => "none"
    | .read => "read"
    | .append => "append"
    | .write => "write"
  members := [.none, .read, .append, .write]
  mem_members e := by cases e <;> decide
  value_injective a b h := by cases a <;> cases b <;> first | rfl | exact absurd h (by decide)

/-- The name of a member. -/
def AccessMode.name : AccessMode → String
  | .none => "NONE"
  | .read => "READ"
  | .append => "APPEND"
  | .write => "WRITE"

instance : StrEnum TaintPolicy where
  value
    | .clean => "clean"
    | .sanitized => "sanitized"
    | .tainted => "tainted"
    | .isolated => "isolated"
  members := [.clean, .sanitized, .tainted, .isolated]
  mem_members e := by cases e <;> decide
  value_injective a b h := by cases a <;> cases b <;> first | rfl | exact absurd h (by decide)

/-! ### Records -/

structure AttestationModel where
  format : AttestationFormat
  value : String
  issuer : Option Uri
  deriving DecidableEq

structure ToolAuthority where
  toolUri : Uri
  scope : String
  maxDepth : ℕ
  deriving DecidableEq

structure StatePermission where
  «namespace» : String
  accessMode : Label AccessMode
  taintPolicy : Label TaintPolicy
  deriving DecidableEq

structure GCO where
  gcoVersion : String
  traceId : Uuid
  spanId : Uuid
  parentSpanId : Option Uuid
  policyId : String
  modelIdentity : Uri
  interventionVersion : String
  toolAuthority : List ToolAuthority
  stateAccessPermissions : List StatePermission
  expiresAt : DateTime
  lineage : List String
  attestation : Option AttestationModel
  deriving DecidableEq

namespace GCO

/-- The object without its attestation: what an attestation speaks about. -/
def bare (g : GCO) : GCO := { g with attestation := none }

/-- The labels are members of their enumerations, as validation makes them. -/
def Typed (g : GCO) : Prop :=
  ∀ p ∈ g.stateAccessPermissions,
    (∃ m, p.accessMode = .member m) ∧ ∃ t, p.taintPolicy = .member t

/-- `[permission.namespace for permission in gco.state_access_permissions]`. -/
def namespaces (g : GCO) : List String := g.stateAccessPermissions.map (·.namespace)

/-- `[str(tool.tool_uri) for tool in gco.tool_authority]`. -/
def toolUris (g : GCO) : List String := g.toolAuthority.map (·.toolUri.text)

/-- The first permission for a namespace. -/
def permissionFor? (g : GCO) (ns : String) : Option StatePermission :=
  g.stateAccessPermissions.find? fun permission => permission.namespace = ns

/-- The entry for a tool, when entries are keyed by URI and the last one wins. -/
def tools (g : GCO) : Dict String ToolAuthority :=
  Dict.ofPairs (g.toolAuthority.map fun tool => (tool.toolUri.text, tool))

/-- The entry for a namespace, when entries are keyed by namespace and the last one wins. -/
def permissions (g : GCO) : Dict String StatePermission :=
  Dict.ofPairs (g.stateAccessPermissions.map fun permission => (permission.namespace, permission))

/-- Without repeated URIs, the entries are exactly those of the list. -/
theorem tools_get?_iff {g : GCO} (h : g.toolUris.Nodup) {uri : String} {t : ToolAuthority} :
    g.tools.get? uri = some t ↔ t ∈ g.toolAuthority ∧ t.toolUri.text = uri := by
  have hkeys :
      ((g.toolAuthority.map fun tool => (tool.toolUri.text, tool)).map Prod.fst).Nodup := by
    rw [List.map_map]
    exact h
  rw [tools, Dict.get?_ofPairs_eq_some_iff hkeys, List.mem_map]
  constructor
  · rintro ⟨t', ht', he⟩
    obtain ⟨rfl, rfl⟩ := Prod.mk.inj he
    exact ⟨ht', rfl⟩
  · rintro ⟨ht, rfl⟩
    exact ⟨t, ht, rfl⟩

theorem permissions_get?_iff {g : GCO} (h : g.namespaces.Nodup) {ns : String}
    {p : StatePermission} :
    g.permissions.get? ns = some p ↔ p ∈ g.stateAccessPermissions ∧ p.namespace = ns := by
  have hkeys : ((g.stateAccessPermissions.map fun p => (p.namespace, p)).map Prod.fst).Nodup := by
    rw [List.map_map]
    exact h
  rw [permissions, Dict.get?_ofPairs_eq_some_iff hkeys, List.mem_map]
  constructor
  · rintro ⟨p', hp', he⟩
    obtain ⟨rfl, rfl⟩ := Prod.mk.inj he
    exact ⟨hp', rfl⟩
  · rintro ⟨hp, rfl⟩
    exact ⟨p, hp, rfl⟩

theorem permissionFor?_mem {g : GCO} {ns : String} {p : StatePermission}
    (h : g.permissionFor? ns = some p) : p ∈ g.stateAccessPermissions ∧ p.namespace = ns :=
  ⟨List.mem_of_find?_eq_some h, by simpa using List.find?_some h⟩

/-- Without repeated namespaces, the first permission for a namespace is the only one. -/
theorem permissionFor?_eq_some_iff {g : GCO} (h : g.namespaces.Nodup) {ns : String}
    {p : StatePermission} :
    g.permissionFor? ns = some p ↔ p ∈ g.stateAccessPermissions ∧ p.namespace = ns := by
  refine ⟨permissionFor?_mem, ?_⟩
  rintro ⟨hp, hns⟩
  obtain ⟨q, hq⟩ : ∃ q, g.permissionFor? ns = some q := by
    rw [← Option.isSome_iff_exists, permissionFor?, List.find?_isSome]
    exact ⟨p, hp, by simpa using hns⟩
  obtain ⟨hq', hqns⟩ := permissionFor?_mem hq
  rw [hq, List.inj_on_of_nodup_map h hq' hp (hqns.trans hns.symm)]

end GCO

end Gco
