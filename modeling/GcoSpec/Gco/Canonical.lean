import GcoSpec.Gco.Errors
import GcoSpec.Python.JsonRoundTrip

/-!
# The canonical hash

`canonical_gco_hash` hashes the JSON text of a GCO without its attestation. It returns
`canonicalDigest` of the GCO when every `max_depth` is within the digit limit (`Serializable`), and
raises otherwise (`canonicalGcoHash_eq`). The main results are `bare_eq_of_canonicalText_eq`, that
the text determines every field, and `bare_eq_of_canonicalDigest_eq`, that without collisions the
digest does.

SHA-256 and the texts pydantic writes for a UUID and a UTC datetime are parameters; what the
results assume of them is `Externals.Injective`.
-/

namespace Gco

open Python Python.Json

/-- Functions of third-party and standard modules the model takes as given. -/
structure Externals where
  /-- `hashlib.sha256(text.encode("utf-8")).hexdigest()`. -/
  sha256 : String → String
  /-- A UUID in `model_dump(mode="json")`. -/
  dumpUuid : Uuid → String
  /-- A UTC datetime in `model_dump(mode="json")`. -/
  dumpDatetime : DateTime → String
  /-- `repr` and `float` on floats. -/
  floatFormat : FloatFormat
  /-- `repr` of a `str`. -/
  reprStr : String → String

/-- No collision of SHA-256, and no two UUIDs or instants with the same text. -/
structure Externals.Injective (env : Externals) : Prop where
  sha256 : Function.Injective env.sha256
  dumpUuid : Function.Injective env.dumpUuid
  dumpDatetime : Function.Injective env.dumpDatetime

/-! ### Dumps -/

/-- An optional value, where `None` is `null`. -/
def dumpOption {α : Type} (dump : α → PyVal) : Option α → PyVal
  | none => .none
  | some a => dump a

def ToolAuthority.items (t : ToolAuthority) : List (String × PyVal) :=
  [("tool_uri", .str t.toolUri.text), ("scope", .str t.scope), ("max_depth", .int t.maxDepth)]

def StatePermission.items (p : StatePermission) : List (String × PyVal) :=
  [("namespace", .str p.namespace), ("access_mode", .str p.accessMode.value),
    ("taint_policy", .str p.taintPolicy.value)]

def AttestationModel.items (a : AttestationModel) : List (String × PyVal) :=
  [("format", .str (StrEnum.value a.format)), ("value", .str a.value),
    ("issuer", dumpOption (fun issuer => .str issuer.text) a.issuer)]

variable (env : Externals)

namespace GCO

/-- The items of `gco.model_dump(mode="json", exclude={"attestation"})`. -/
def bareItems (g : GCO) : List (String × PyVal) :=
  [("gco_version", .str g.gcoVersion),
   ("trace_id", .str (env.dumpUuid g.traceId)),
   ("span_id", .str (env.dumpUuid g.spanId)),
   ("parent_span_id", dumpOption (fun span => .str (env.dumpUuid span)) g.parentSpanId),
   ("policy_id", .str g.policyId),
   ("model_identity", .str g.modelIdentity.text),
   ("intervention_version", .str g.interventionVersion),
   ("tool_authority", .list (g.toolAuthority.map fun t => .dict t.items)),
   ("state_access_permissions", .list (g.stateAccessPermissions.map fun p => .dict p.items)),
   ("expires_at", .str (env.dumpDatetime g.expiresAt)),
   ("lineage", .list (g.lineage.map .str))]

/-- `gco.model_dump(mode="json", exclude={"attestation"})`. -/
def dumpBare (g : GCO) : PyVal := .dict (g.bareItems env)

/-- `gco.model_dump(mode="json")`. -/
def modelDump (g : GCO) : PyVal :=
  .dict (g.bareItems env ++ [("attestation", dumpOption (fun a => .dict a.items) g.attestation)])

end GCO

/-- `separators=(",", ":")`, with `ensure_ascii`. -/
def canonicalStyle : Style := ⟨true, true⟩

/-- The text of the `ValueError` of an integer beyond the digit limit. -/
def digitLimitText : String :=
  "Exceeds the limit (4300 digits) for integer string conversion; " ++
    "use sys.set_int_max_str_digits() to increase the limit"

/-- What `json.dumps` raises at such an integer. -/
def digitLimitExceeded : Exc := .valueError digitLimitText

/-- The digest of `json.dumps(payload, sort_keys=True, separators=(",", ":"))`. The payload is a
dump, which holds no object that is not JSON. -/
def hashPayload (payload : PyVal) : Except Exc String :=
  match dumpsSorted env.floatFormat canonicalStyle payload with
  | none => .error digitLimitExceeded
  | some canonical => .ok (env.sha256 canonical)

def canonicalGcoHash (g : GCO) : Except Exc String := hashPayload env (g.dumpBare env)

/-- Every depth of the GCO has a text. -/
def GCO.Serializable (g : GCO) : Prop := ∀ t ∈ g.toolAuthority, IntFits t.maxDepth

instance (g : GCO) : Decidable g.Serializable := by unfold GCO.Serializable; infer_instance

/-- The text `canonical_gco_hash` hashes. -/
def canonicalText (g : GCO) : String :=
  String.ofList (emit env.floatFormat canonicalStyle (sortKeys (g.dumpBare env)))

/-- The digest of a GCO whose depths have texts. -/
def canonicalDigest (g : GCO) : String := env.sha256 (canonicalText env g)

@[simp] theorem canonicalGcoHash_bare (g : GCO) :
    canonicalGcoHash env g.bare = canonicalGcoHash env g := rfl

@[simp] theorem canonicalDigest_bare (g : GCO) :
    canonicalDigest env g.bare = canonicalDigest env g := rfl

theorem GCO.serializable_bare {g : GCO} : g.bare.Serializable ↔ g.Serializable := Iff.rfl

/-! ### Dumps are readable -/

variable {env} {F : FloatFormat}

theorem readable_dumpOption {α : Type} {dump : α → PyVal} (h : ∀ a, Readable F (dump a))
    (a : Option α) : Readable F (dumpOption dump a) := by
  cases a with
  | none => exact trivial
  | some a => exact h a

theorem readable_dict {kvs : List (String × PyVal)} (hk : (kvs.map Prod.fst).Nodup)
    (hv : ∀ kv ∈ kvs, Readable F kv.2) : Readable F (.dict kvs) := by
  rw [Readable]
  exact ⟨hk, readablePairs_iff.2 hv⟩

theorem readable_list {α : Type} {dump : α → PyVal} {xs : List α}
    (h : ∀ x ∈ xs, Readable F (dump x)) : Readable F (.list (xs.map dump)) := by
  rw [Readable]
  induction xs with
  | nil => exact trivial
  | cons x xs ih =>
    obtain ⟨hx, hxs⟩ := List.forall_mem_cons.1 h
    exact ⟨hx, ih hxs⟩

theorem readable_str (s : String) : Readable F (.str s) := trivial

theorem ToolAuthority.nodup_items (t : ToolAuthority) : (t.items.map Prod.fst).Nodup :=
  show ["tool_uri", "scope", "max_depth"].Nodup by decide

theorem StatePermission.nodup_items (p : StatePermission) : (p.items.map Prod.fst).Nodup :=
  show ["namespace", "access_mode", "taint_policy"].Nodup by decide

theorem AttestationModel.nodup_items (a : AttestationModel) : (a.items.map Prod.fst).Nodup :=
  show ["format", "value", "issuer"].Nodup by decide

theorem readable_toolAuthority {t : ToolAuthority} (ht : IntFits t.maxDepth) :
    Readable F (.dict t.items) := by
  refine readable_dict t.nodup_items ?_
  simp [ToolAuthority.items, Readable, ht]

theorem readable_statePermission (p : StatePermission) : Readable F (.dict p.items) := by
  refine readable_dict p.nodup_items ?_
  simp [StatePermission.items, Readable]

theorem readable_attestation (a : AttestationModel) : Readable F (.dict a.items) := by
  have hissuer := readable_dumpOption (fun issuer : Uri => readable_str (F := F) issuer.text)
    a.issuer
  refine readable_dict a.nodup_items ?_
  simp [AttestationModel.items, Readable, hissuer]

theorem nodup_bareItems (g : GCO) : ((g.bareItems env).map Prod.fst).Nodup :=
  show ["gco_version", "trace_id", "span_id", "parent_span_id", "policy_id", "model_identity",
    "intervention_version", "tool_authority", "state_access_permissions", "expires_at",
    "lineage"].Nodup by decide

theorem readable_bareItems {g : GCO} (hg : g.Serializable) :
    ∀ kv ∈ g.bareItems env, Readable F kv.2 := by
  have htools := readable_list (F := F) fun t ht => readable_toolAuthority (hg t ht)
  have hpermissions : Readable F
      (.list (g.stateAccessPermissions.map fun p => .dict p.items)) :=
    readable_list fun p _ => readable_statePermission p
  have hlineage : Readable F (.list (g.lineage.map .str)) :=
    readable_list fun s _ => readable_str s
  have hparent := readable_dumpOption (F := F) (fun span => readable_str (env.dumpUuid span))
    g.parentSpanId
  simp only [GCO.bareItems, List.forall_mem_cons, List.not_mem_nil, false_implies, implies_true,
    and_true, readable_str, true_and]
  exact ⟨hparent, htools, hpermissions, hlineage⟩

theorem readable_dumpBare {g : GCO} (hg : g.Serializable) : Readable F (g.dumpBare env) :=
  readable_dict (nodup_bareItems g) (readable_bareItems hg)

theorem readable_modelDump {g : GCO} (hg : g.Serializable) : Readable F (g.modelDump env) := by
  refine readable_dict ?_ ?_
  · show ["gco_version", "trace_id", "span_id", "parent_span_id", "policy_id", "model_identity",
      "intervention_version", "tool_authority", "state_access_permissions", "expires_at",
      "lineage", "attestation"].Nodup
    decide
  · intro kv hkv
    rcases List.mem_append.1 hkv with h | h
    · exact readable_bareItems hg kv h
    · rw [List.mem_singleton] at h
      rw [h]
      exact readable_dumpOption readable_attestation g.attestation

theorem serializable_bareItems {g : GCO} (h : ∀ kv ∈ g.bareItems env, serializable kv.2 = true) :
    g.Serializable := by
  have htools := h ("tool_authority", .list (g.toolAuthority.map fun t => .dict t.items))
    (by simp [GCO.bareItems])
  rw [serializable, serializableItems_iff] at htools
  intro t ht
  have htool := htools _ (List.mem_map_of_mem ht)
  rw [serializable, serializablePairs_iff] at htool
  have hdepth := htool ("max_depth", .int t.maxDepth) (by simp [ToolAuthority.items])
  rw [serializable] at hdepth
  exact of_decide_eq_true hdepth

theorem serializable_dumpBare {g : GCO} :
    serializable (g.dumpBare env) = true ↔ g.Serializable := by
  refine ⟨fun h => ?_, fun h => serializable_of_readable (F := env.floatFormat)
    (readable_dumpBare h)⟩
  rw [GCO.dumpBare, serializable, serializablePairs_iff] at h
  exact serializable_bareItems h

theorem serializable_modelDump {g : GCO} :
    serializable (g.modelDump env) = true ↔ g.Serializable := by
  refine ⟨fun h => ?_, fun h => serializable_of_readable (F := env.floatFormat)
    (readable_modelDump h)⟩
  rw [GCO.modelDump, serializable, serializablePairs_iff] at h
  exact serializable_bareItems fun kv hkv => h kv (List.mem_append_left _ hkv)

/-- `canonical_gco_hash` returns exactly when the depths have texts. -/
theorem canonicalGcoHash_eq (g : GCO) : canonicalGcoHash env g =
    if g.Serializable then .ok (canonicalDigest env g) else .error digitLimitExceeded := by
  by_cases hg : g.Serializable
  · rw [canonicalGcoHash, hashPayload, dumpsSorted_of_readable (readable_dumpBare hg), if_pos hg]
    rfl
  · have hdump : serializable (g.dumpBare env) = false :=
      Bool.eq_false_iff.2 fun h => hg (serializable_dumpBare.1 h)
    rw [canonicalGcoHash, hashPayload, dumpsSorted_eq_none hdump, if_neg hg]

theorem canonicalGcoHash_eq_ok_iff {g : GCO} {digest : String} :
    canonicalGcoHash env g = .ok digest ↔ g.Serializable ∧ digest = canonicalDigest env g := by
  rw [canonicalGcoHash_eq]
  split_ifs with hg
  · simp [hg, eq_comm]
  · simp [hg]

theorem canonicalGcoHash_of_serializable {g : GCO} (hg : g.Serializable) :
    canonicalGcoHash env g = .ok (canonicalDigest env g) :=
  canonicalGcoHash_eq_ok_iff.2 ⟨hg, rfl⟩

/-! ### Injectivity -/

theorem str_of_map_sortKeys {s t : String}
    (h : (some (PyVal.str s)).map sortKeys = (some (PyVal.str t)).map sortKeys) : s = t := by
  simpa [sortKeys] using h

theorem nat_of_map_sortKeys {m n : ℕ}
    (h : (some (PyVal.int m)).map sortKeys = (some (PyVal.int n)).map sortKeys) : m = n := by
  simpa [sortKeys] using h

theorem dumpOption_injective {α : Type} {dump : α → PyVal}
    (hdump : ∀ a b, sortKeys (dump a) = sortKeys (dump b) → a = b)
    (hnone : ∀ a, sortKeys (dump a) ≠ .none) {a b : Option α}
    (h : sortKeys (dumpOption dump a) = sortKeys (dumpOption dump b)) : a = b := by
  cases a with
  | none =>
    cases b with
    | none => rfl
    | some b => exact absurd h.symm (hnone b)
  | some a =>
    cases b with
    | none => exact absurd h (hnone a)
    | some b => rw [hdump a b h]

theorem list_injective {α : Type} {dump : α → PyVal}
    (hdump : ∀ a b, sortKeys (dump a) = sortKeys (dump b) → a = b) {xs ys : List α}
    (h : sortKeys (.list (xs.map dump)) = sortKeys (.list (ys.map dump))) : xs = ys := by
  rw [sortKeys, sortKeys, sortKeysItems_eq_map, sortKeysItems_eq_map, PyVal.list.injEq,
    List.map_map, List.map_map] at h
  exact List.map_injective_iff.2 (fun a b => hdump a b) h

theorem ToolAuthority.items_injective (a b : ToolAuthority)
    (h : sortKeys (.dict a.items) = sortKeys (.dict b.items)) : a = b := by
  have hk := lookup_of_sortKeys_eq a.nodup_items b.nodup_items h
  obtain ⟨uri, scope, depth⟩ := a
  obtain ⟨uri', scope', depth'⟩ := b
  have huri : uri = uri' := Uri.ext (str_of_map_sortKeys (hk "tool_uri"))
  have hscope : scope = scope' := str_of_map_sortKeys (hk "scope")
  have hdepth : depth = depth' := nat_of_map_sortKeys (hk "max_depth")
  rw [huri, hscope, hdepth]

theorem StatePermission.items_injective (a b : StatePermission)
    (h : sortKeys (.dict a.items) = sortKeys (.dict b.items)) : a = b := by
  have hk := lookup_of_sortKeys_eq a.nodup_items b.nodup_items h
  obtain ⟨ns, mode, taint⟩ := a
  obtain ⟨ns', mode', taint'⟩ := b
  have hns : ns = ns' := str_of_map_sortKeys (hk "namespace")
  have hmode : mode = mode' := Label.value_injective (str_of_map_sortKeys (hk "access_mode"))
  have htaint : taint = taint' := Label.value_injective (str_of_map_sortKeys (hk "taint_policy"))
  rw [hns, hmode, htaint]

/-- The text that is hashed determines every field but the attestation. -/
theorem bare_eq_of_canonicalText_eq (henv : env.Injective) {g g' : GCO} (hg : g.Serializable)
    (hg' : g'.Serializable) (h : canonicalText env g = canonicalText env g') :
    g.bare = g'.bare := by
  have hsorted := sortKeys_eq_of_emit_eq (readable_dumpBare hg) (readable_dumpBare hg')
    (String.ofList_injective h)
  have hk := lookup_of_sortKeys_eq (nodup_bareItems g) (nodup_bareItems g') hsorted
  have hversion : g.gcoVersion = g'.gcoVersion := str_of_map_sortKeys (hk "gco_version")
  have htrace := henv.dumpUuid (str_of_map_sortKeys (hk "trace_id"))
  have hspan := henv.dumpUuid (str_of_map_sortKeys (hk "span_id"))
  have hpolicy : g.policyId = g'.policyId := str_of_map_sortKeys (hk "policy_id")
  have hmodel := Uri.ext (str_of_map_sortKeys (hk "model_identity"))
  have hintervention : g.interventionVersion = g'.interventionVersion :=
    str_of_map_sortKeys (hk "intervention_version")
  have hexpires := henv.dumpDatetime (str_of_map_sortKeys (hk "expires_at"))
  have hparent : g.parentSpanId = g'.parentSpanId :=
    dumpOption_injective (fun a b hab => henv.dumpUuid (by simpa [sortKeys] using hab))
      (by simp [sortKeys]) (Option.some.inj (hk "parent_span_id"))
  have htools : g.toolAuthority = g'.toolAuthority :=
    list_injective ToolAuthority.items_injective (Option.some.inj (hk "tool_authority"))
  have hpermissions : g.stateAccessPermissions = g'.stateAccessPermissions :=
    list_injective StatePermission.items_injective (Option.some.inj (hk "state_access_permissions"))
  have hlineage : g.lineage = g'.lineage :=
    list_injective (fun a b hab => by simpa [sortKeys] using hab) (Option.some.inj (hk "lineage"))
  simp only [GCO.bare, GCO.mk.injEq]
  exact ⟨hversion, htrace, hspan, hparent, hpolicy, hmodel, hintervention, htools, hpermissions,
    hexpires, hlineage, trivial⟩

/-- Without collisions, a digest belongs to one object, up to its attestation. -/
theorem bare_eq_of_canonicalDigest_eq (henv : env.Injective) {g g' : GCO} (hg : g.Serializable)
    (hg' : g'.Serializable) (h : canonicalDigest env g = canonicalDigest env g') :
    g.bare = g'.bare :=
  bare_eq_of_canonicalText_eq henv hg hg' (henv.sha256 h)

theorem bare_eq_of_canonicalGcoHash_eq (henv : env.Injective) {g g' : GCO} {digest : String}
    (hg : canonicalGcoHash env g = .ok digest) (hg' : canonicalGcoHash env g' = .ok digest) :
    g.bare = g'.bare := by
  obtain ⟨hfits, rfl⟩ := canonicalGcoHash_eq_ok_iff.1 hg
  obtain ⟨hfits', hdigest⟩ := canonicalGcoHash_eq_ok_iff.1 hg'
  exact bare_eq_of_canonicalDigest_eq henv hfits hfits' hdigest

end Gco
