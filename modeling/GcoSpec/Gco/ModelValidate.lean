import GcoSpec.Gco.Canonical
import GcoSpec.Gco.Errors

/-!
# Validation of a payload

`GCO.model_validate` reads an object from the values of a JSON document. The fields are looked up
by name, no other fields are allowed, and each model says which fields have defaults. How pydantic
reads an integer, a UUID and a datetime are parameters, of which `ModelExternals.ReadsBack` says
that they undo the dump.

* `GCO.read_modelDump`: the dump of an object with labels that are members is read as the object;
* `GCO.typed_of_read`: whatever is read has labels that are members.
-/

namespace Gco

open Python

/-- What the models use of pydantic, besides `Externals`. -/
structure ModelExternals extends Externals where
  /-- The value of a field of type `int`, or `none` where it is no integer. -/
  readInt : PyVal → Option ℤ
  /-- The value of a field of type `UUID`. -/
  readUuid : PyVal → Option Uuid
  /-- The value of a field of type `datetime`. -/
  readDatetime : PyVal → Option PyDatetime
  /-- The exception of a model that refuses the payload: the `loc` of each error. -/
  errorLocs : PyVal → List (List String)
  /-- Its text. -/
  errorText : PyVal → String

/-- Integers are read as they are, UUIDs and UTC datetimes as they were dumped. -/
structure ModelExternals.ReadsBack (ext : ModelExternals) : Prop where
  int : ∀ n, ext.readInt (.int n) = some n
  uuid : ∀ u, ext.readUuid (.str (ext.dumpUuid u)) = some u
  datetime : ∀ t, ext.readDatetime (.str (ext.dumpDatetime t)) = some t.toPy

/-! ### Fields -/

/-- The items of the payload of a model: `extra="forbid"` allows no fields but its own. -/
def readModel (fieldNames : List String) (x : PyVal) : Option (List (String × PyVal)) :=
  x.mapping?.filter fun items => items.all fun item => item.1 ∈ fieldNames

section Fields

variable {α : Type}

/-- A field without a default. -/
def readField (items : List (String × PyVal)) (name : String) (read : PyVal → Option α) :
    Option α :=
  (items.lookup name).bind read

/-- A field with a default, which is not validated. -/
def readFieldOr (items : List (String × PyVal)) (name : String) (default : α)
    (read : PyVal → Option α) : Option α :=
  match items.lookup name with
  | none => some default
  | some x => read x

/-- `Optional[...]`. -/
def readOptional (read : PyVal → Option α) : PyVal → Option (Option α)
  | .none => some none
  | x => (read x).map some

/-- `list[...]`. -/
def readList (read : PyVal → Option α) : PyVal → Option (List α)
  | .list xs => xs.mapM read
  | _ => none

end Fields

/-- A `str` that passes `_validate_uri`. -/
def readUri (x : PyVal) : Option Uri :=
  x.str?.bind fun s => if h : matchesUri s = true then some ⟨s, h⟩ else none

/-- A member of an enumeration. -/
def readMember (ε : Type) [StrEnum ε] (x : PyVal) : Option ε := x.str?.bind (StrEnum.ofValue? ε)

/-- `Field(ge=0)`. -/
def readMaxDepth (n : ℤ) : Option ℕ := if 0 ≤ n then some n.toNat else none

/-- `expires_at_must_be_utc`. -/
def expiresAtUtc (value : PyDatetime) : Option DateTime :=
  if value.utcoffset = some 0 then some value.fields else none

/-! ### Models -/

def AttestationModel.fieldNames : List String := ["format", "value", "issuer"]

def AttestationModel.read (x : PyVal) : Option AttestationModel := do
  let items ← readModel AttestationModel.fieldNames x
  let format ← readField items "format" (readMember AttestationFormat)
  let value ← readField items "value" PyVal.str?
  let issuer ← readFieldOr items "issuer" none (readOptional readUri)
  pure ⟨format, value, issuer⟩

def StatePermission.fieldNames : List String := ["namespace", "access_mode", "taint_policy"]

def StatePermission.read (x : PyVal) : Option StatePermission := do
  let items ← readModel StatePermission.fieldNames x
  let ns ← readField items "namespace" PyVal.str?
  let accessMode ← readField items "access_mode" (readMember AccessMode)
  let taintPolicy ← readFieldOr items "taint_policy" .clean (readMember TaintPolicy)
  pure ⟨ns, .member accessMode, .member taintPolicy⟩

def ToolAuthority.fieldNames : List String := ["tool_uri", "scope", "max_depth"]

variable (ext : ModelExternals)

def ToolAuthority.read (x : PyVal) : Option ToolAuthority := do
  let items ← readModel ToolAuthority.fieldNames x
  let toolUri ← readField items "tool_uri" readUri
  let scope ← readField items "scope" PyVal.str?
  let maxDepth ← readField items "max_depth" fun x => (ext.readInt x).bind readMaxDepth
  pure ⟨toolUri, scope, maxDepth⟩

namespace GCO

def fieldNames : List String :=
  ["gco_version", "trace_id", "span_id", "parent_span_id", "policy_id", "model_identity",
   "intervention_version", "tool_authority", "state_access_permissions", "expires_at", "lineage",
   "attestation"]

/-- The object that a payload is validated as. -/
def read (x : PyVal) : Option GCO := do
  let items ← readModel fieldNames x
  let gcoVersion ← readField items "gco_version" PyVal.str?
  let traceId ← readField items "trace_id" ext.readUuid
  let spanId ← readField items "span_id" ext.readUuid
  let parentSpanId ← readField items "parent_span_id" (readOptional ext.readUuid)
  let policyId ← readField items "policy_id" PyVal.str?
  let modelIdentity ← readField items "model_identity" readUri
  let interventionVersion ← readField items "intervention_version" PyVal.str?
  let toolAuthority ← readFieldOr items "tool_authority" [] (readList (ToolAuthority.read ext))
  let stateAccessPermissions ←
    readFieldOr items "state_access_permissions" [] (readList StatePermission.read)
  let expiresAt ← readField items "expires_at" fun x => (ext.readDatetime x).bind expiresAtUtc
  let lineage ← readFieldOr items "lineage" [] (readList PyVal.str?)
  let attestation ← readField items "attestation" (readOptional AttestationModel.read)
  pure { gcoVersion, traceId, spanId, parentSpanId, policyId, modelIdentity, interventionVersion,
         toolAuthority, stateAccessPermissions, expiresAt, lineage, attestation }

/-- `GCO.model_validate(payload)`. -/
def modelValidate (payload : PyVal) : Except Exc GCO :=
  match read ext payload with
  | some g => .ok g
  | none => .error ⟨.validationError (ext.errorLocs payload), some (ext.errorText payload)⟩

end GCO

/-! ### Dumps are read back -/

section Fields

variable {α : Type}

theorem readModel_dict {fieldNames : List String} {items : List (String × PyVal)}
    (h : ∀ item ∈ items, item.1 ∈ fieldNames) :
    readModel fieldNames (.dict items) = some items := by
  rw [readModel, PyVal.mapping?, Option.filter_some, if_pos]
  simpa using h

/-- An optional value is read back, when the dump of a value is never `null`. -/
theorem readOptional_dumpOption {dump : α → PyVal} {read : PyVal → Option α}
    (hnone : ∀ a, dump a ≠ .none) (hread : ∀ a, read (dump a) = some a) (a : Option α) :
    readOptional read (dumpOption dump a) = some a := by
  cases a with
  | none => rfl
  | some a =>
    have hsome : readOptional read (dump a) = (read (dump a)).map some := by
      cases h : dump a with
      | none => exact absurd h (hnone a)
      | bool b => rfl
      | int n => rfl
      | float x => rfl
      | str s => rfl
      | list xs => rfl
      | dict items => rfl
      | object t => rfl
    rw [dumpOption, hsome, hread, Option.map_some]

/-- A list is read item by item. -/
theorem readList_eq_some_iff {read : PyVal → Option α} {xs : List PyVal} {as : List α} :
    readList read (.list xs) = some as ↔ List.Forall₂ (fun x a => read x = some a) xs as := by
  rw [readList]
  induction xs generalizing as with
  | nil =>
    rw [List.mapM_nil, List.forall₂_nil_left_iff]
    exact ⟨fun h => (Option.some.inj h).symm, fun h => by rw [h]; rfl⟩
  | cons x xs ih =>
    rw [List.mapM_cons, List.forall₂_cons_left_iff]
    constructor
    · intro h
      obtain ⟨a, ha, h⟩ := Option.bind_eq_some_iff.1 h
      obtain ⟨bs, hbs, h⟩ := Option.bind_eq_some_iff.1 h
      cases h
      exact ⟨a, bs, ha, ih.1 hbs, rfl⟩
    · rintro ⟨a, bs, ha, hbs, rfl⟩
      rw [ha, ih.2 hbs]
      rfl

theorem readList_map {dump : α → PyVal} {read : PyVal → Option α} {xs : List α}
    (hread : ∀ x ∈ xs, read (dump x) = some x) : readList read (.list (xs.map dump)) = some xs := by
  rw [readList_eq_some_iff, List.forall₂_map_left_iff, List.forall₂_same]
  exact hread

/-- Every item of a list that was read is what an item was read as. -/
theorem exists_of_mem_readList {read : PyVal → Option α} {x : PyVal} {as : List α}
    (h : readList read x = some as) {a : α} (ha : a ∈ as) : ∃ y, read y = some a := by
  cases x with
  | list xs =>
    have hforall := readList_eq_some_iff.1 h
    clear h
    induction hforall with
    | nil => cases ha
    | cons hread _ ih =>
      rcases List.mem_cons.1 ha with rfl | ha
      · exact ⟨_, hread⟩
      · exact ih ha
  | _ => cases h

/-- Every item was read. -/
theorem exists_of_readList_map {β : Type} {dump : β → PyVal} {read : PyVal → Option α}
    {bs : List β} {as : List α} (h : readList read (.list (bs.map dump)) = some as) {b : β}
    (hb : b ∈ bs) : ∃ a, read (dump b) = some a := by
  have hforall := readList_eq_some_iff.1 h
  rw [List.forall₂_map_left_iff] at hforall
  clear h
  induction hforall with
  | nil => cases hb
  | cons hread _ ih =>
    rcases List.mem_cons.1 hb with rfl | hb
    · exact ⟨_, hread⟩
    · exact ih hb

end Fields

theorem readUri_text (uri : Uri) : readUri (.str uri.text) = some uri := by
  rw [readUri, PyVal.str?, Option.bind_some, dif_pos uri.valid]

theorem readMember_value {ε : Type} [StrEnum ε] (e : ε) :
    readMember ε (.str (StrEnum.value e)) = some e := by
  rw [readMember, PyVal.str?, Option.bind_some, StrEnum.ofValue?_value]

theorem readMaxDepth_natCast (n : ℕ) : readMaxDepth n = some n := by
  rw [readMaxDepth, if_pos (by omega), Int.toNat_natCast]

theorem AttestationModel.read_items (a : AttestationModel) :
    AttestationModel.read (.dict a.items) = some a := by
  have hmodel : readModel fieldNames (.dict a.items) = some a.items :=
    readModel_dict (by simp [items, fieldNames])
  have hformat : readField a.items "format" (readMember AttestationFormat) = some a.format :=
    readMember_value a.format
  have hvalue : readField a.items "value" PyVal.str? = some a.value := rfl
  have hissuer : readFieldOr a.items "issuer" none (readOptional readUri) = some a.issuer :=
    readOptional_dumpOption (by simp) readUri_text a.issuer
  simp only [AttestationModel.read, hmodel, hformat, hvalue, hissuer, Option.bind_eq_bind,
    Option.bind_some, Option.pure_def]

/-- The dump of a permission is read back when its labels are members. -/
theorem StatePermission.read_items {p : StatePermission} {mode : AccessMode} {taint : TaintPolicy}
    (hmode : p.accessMode = .member mode) (htaint : p.taintPolicy = .member taint) :
    StatePermission.read (.dict p.items) = some p := by
  obtain ⟨ns, accessMode, taintPolicy⟩ := p
  dsimp only at hmode htaint
  subst hmode htaint
  have hmodel : readModel fieldNames (.dict (items ⟨ns, .member mode, .member taint⟩)) =
      some (items ⟨ns, .member mode, .member taint⟩) :=
    readModel_dict (by simp [items, fieldNames])
  have hns : readField (items ⟨ns, .member mode, .member taint⟩) "namespace" PyVal.str? =
      some ns := rfl
  have hmode : readField (items ⟨ns, .member mode, .member taint⟩) "access_mode"
      (readMember AccessMode) = some mode := readMember_value mode
  have htaint : readFieldOr (items ⟨ns, .member mode, .member taint⟩) "taint_policy" .clean
      (readMember TaintPolicy) = some taint := readMember_value taint
  simp only [StatePermission.read, hmodel, hns, hmode, htaint, Option.bind_eq_bind,
    Option.bind_some, Option.pure_def]

/-- The labels of a permission that was read are members. -/
theorem StatePermission.member_of_read {x : PyVal} {p : StatePermission}
    (h : StatePermission.read x = some p) :
    (∃ m, p.accessMode = .member m) ∧ ∃ t, p.taintPolicy = .member t := by
  simp only [StatePermission.read, Option.bind_eq_bind, Option.bind_eq_some_iff,
    Option.pure_def, Option.some.injEq] at h
  obtain ⟨items, -, ns, -, mode, -, taint, -, rfl⟩ := h
  exact ⟨⟨mode, rfl⟩, ⟨taint, rfl⟩⟩

/-- A label that is dumped and read as a member is that member. -/
theorem member_of_readMember {ε : Type} [StrEnum ε] {l : Label ε} {e : ε}
    (h : readMember ε (.str l.value) = some e) : l = .member e := by
  have hvalue : StrEnum.value e = l.value := StrEnum.value_of_ofValue? h
  exact Label.value_injective hvalue.symm

/-- The dump of a permission with another label is not read. -/
theorem StatePermission.member_of_read_items {p q : StatePermission}
    (h : StatePermission.read (.dict p.items) = some q) :
    (∃ m, p.accessMode = .member m) ∧ ∃ t, p.taintPolicy = .member t := by
  simp only [StatePermission.read, Option.bind_eq_bind, Option.bind_eq_some_iff] at h
  obtain ⟨items, hmodel, ns, -, mode, hmode, taint, htaint, -⟩ := h
  rw [readModel_dict (by simp [StatePermission.items, fieldNames])] at hmodel
  cases hmodel
  exact ⟨⟨mode, member_of_readMember hmode⟩, ⟨taint, member_of_readMember htaint⟩⟩

variable {ext} {g : GCO}

theorem ToolAuthority.read_items (hext : ext.ReadsBack) (t : ToolAuthority) :
    ToolAuthority.read ext (.dict t.items) = some t := by
  have hmodel : readModel fieldNames (.dict t.items) = some t.items :=
    readModel_dict (by simp [items, fieldNames])
  have huri : readField t.items "tool_uri" readUri = some t.toolUri := readUri_text t.toolUri
  have hscope : readField t.items "scope" PyVal.str? = some t.scope := rfl
  have hdepth : readField t.items "max_depth" (fun x => (ext.readInt x).bind readMaxDepth) =
      some t.maxDepth := by
    show (ext.readInt (.int t.maxDepth)).bind readMaxDepth = some t.maxDepth
    rw [hext.int, Option.bind_some, readMaxDepth_natCast]
  simp only [ToolAuthority.read, hmodel, huri, hscope, hdepth, Option.bind_eq_bind,
    Option.bind_some, Option.pure_def]

/-- The items of `gco.model_dump(mode="json")`. -/
def GCO.items (env : Externals) (g : GCO) : List (String × PyVal) :=
  g.bareItems env ++ [("attestation", dumpOption (fun a => .dict a.items) g.attestation)]

theorem GCO.readModel_modelDump (env : Externals) (g : GCO) :
    readModel fieldNames (g.modelDump env) = some (g.items env) :=
  readModel_dict (by simp [bareItems, fieldNames])

/-- The dump of an object is read back when its labels are members. -/
theorem GCO.read_modelDump (hext : ext.ReadsBack) (htyped : g.Typed) :
    GCO.read ext (g.modelDump ext.toExternals) = some g := by
  let items := g.items ext.toExternals
  have hmodel : readModel fieldNames (g.modelDump ext.toExternals) = some items :=
    readModel_modelDump ext.toExternals g
  -- a string is in the dump as it is
  have hversion : readField items "gco_version" PyVal.str? = some g.gcoVersion := rfl
  have hpolicy : readField items "policy_id" PyVal.str? = some g.policyId := rfl
  have hintervention : readField items "intervention_version" PyVal.str? =
      some g.interventionVersion := rfl
  have hmodelIdentity : readField items "model_identity" readUri = some g.modelIdentity :=
    readUri_text g.modelIdentity
  have htrace : readField items "trace_id" ext.readUuid = some g.traceId := hext.uuid g.traceId
  have hspan : readField items "span_id" ext.readUuid = some g.spanId := hext.uuid g.spanId
  have hparent : readField items "parent_span_id" (readOptional ext.readUuid) =
      some g.parentSpanId := readOptional_dumpOption (by simp) hext.uuid g.parentSpanId
  have hexpires : readField items "expires_at" (fun x => (ext.readDatetime x).bind expiresAtUtc) =
      some g.expiresAt := by
    show (ext.readDatetime (.str (ext.dumpDatetime g.expiresAt))).bind expiresAtUtc = _
    rw [hext.datetime]
    rfl
  have htools : readFieldOr items "tool_authority" [] (readList (ToolAuthority.read ext)) =
      some g.toolAuthority := readList_map fun t _ => ToolAuthority.read_items hext t
  have hpermissions : readFieldOr items "state_access_permissions" []
      (readList StatePermission.read) = some g.stateAccessPermissions := by
    refine readList_map fun p hp => ?_
    obtain ⟨⟨mode, hmode⟩, ⟨taint, htaint⟩⟩ := htyped p hp
    exact StatePermission.read_items hmode htaint
  have hlineage : readFieldOr items "lineage" [] (readList PyVal.str?) = some g.lineage :=
    readList_map fun _ _ => rfl
  have hattestation : readField items "attestation" (readOptional AttestationModel.read) =
      some g.attestation :=
    readOptional_dumpOption (by simp) AttestationModel.read_items g.attestation
  -- the fields in the order in which they are read
  rw [GCO.read]
  refine Option.bind_eq_some_iff.2 ⟨_, hmodel, ?_⟩
  refine Option.bind_eq_some_iff.2 ⟨_, hversion, ?_⟩
  refine Option.bind_eq_some_iff.2 ⟨_, htrace, ?_⟩
  refine Option.bind_eq_some_iff.2 ⟨_, hspan, ?_⟩
  refine Option.bind_eq_some_iff.2 ⟨_, hparent, ?_⟩
  refine Option.bind_eq_some_iff.2 ⟨_, hpolicy, ?_⟩
  refine Option.bind_eq_some_iff.2 ⟨_, hmodelIdentity, ?_⟩
  refine Option.bind_eq_some_iff.2 ⟨_, hintervention, ?_⟩
  refine Option.bind_eq_some_iff.2 ⟨_, htools, ?_⟩
  refine Option.bind_eq_some_iff.2 ⟨_, hpermissions, ?_⟩
  refine Option.bind_eq_some_iff.2 ⟨_, hexpires, ?_⟩
  refine Option.bind_eq_some_iff.2 ⟨_, hlineage, ?_⟩
  refine Option.bind_eq_some_iff.2 ⟨_, hattestation, ?_⟩
  rfl

/-- The permissions of an object that was read. -/
theorem GCO.permissions_of_read {x : PyVal} (h : GCO.read ext x = some g) :
    ∃ items, readModel fieldNames x = some items ∧
      readFieldOr items "state_access_permissions" [] (readList StatePermission.read) =
        some g.stateAccessPermissions := by
  obtain ⟨items, hmodel, h⟩ := Option.bind_eq_some_iff.1 h
  obtain ⟨gcoVersion, -, h⟩ := Option.bind_eq_some_iff.1 h
  obtain ⟨traceId, -, h⟩ := Option.bind_eq_some_iff.1 h
  obtain ⟨spanId, -, h⟩ := Option.bind_eq_some_iff.1 h
  obtain ⟨parentSpanId, -, h⟩ := Option.bind_eq_some_iff.1 h
  obtain ⟨policyId, -, h⟩ := Option.bind_eq_some_iff.1 h
  obtain ⟨modelIdentity, -, h⟩ := Option.bind_eq_some_iff.1 h
  obtain ⟨interventionVersion, -, h⟩ := Option.bind_eq_some_iff.1 h
  obtain ⟨toolAuthority, -, h⟩ := Option.bind_eq_some_iff.1 h
  obtain ⟨permissions, hpermissions, h⟩ := Option.bind_eq_some_iff.1 h
  obtain ⟨expiresAt, -, h⟩ := Option.bind_eq_some_iff.1 h
  obtain ⟨lineage, -, h⟩ := Option.bind_eq_some_iff.1 h
  obtain ⟨attestation, -, h⟩ := Option.bind_eq_some_iff.1 h
  cases h
  exact ⟨items, hmodel, hpermissions⟩

/-- What is read has labels that are members. -/
theorem GCO.typed_of_read {x : PyVal} (h : GCO.read ext x = some g) : g.Typed := by
  obtain ⟨items, -, hpermissions⟩ := GCO.permissions_of_read h
  intro p hp
  unfold readFieldOr at hpermissions
  split at hpermissions
  · -- the default is the empty list
    rw [← Option.some.inj hpermissions] at hp
    cases hp
  · obtain ⟨y, hy⟩ := exists_of_mem_readList hpermissions hp
    exact StatePermission.member_of_read hy

/-- The dump of an object with another label is not read. -/
theorem GCO.typed_of_read_modelDump {g' : GCO}
    (h : GCO.read ext (g.modelDump ext.toExternals) = some g') : g.Typed := by
  obtain ⟨items, hmodel, hpermissions⟩ := GCO.permissions_of_read h
  rw [readModel_modelDump, Option.some.injEq] at hmodel
  subst hmodel
  have hlist : readList StatePermission.read
      (.list (g.stateAccessPermissions.map fun p => .dict p.items)) =
        some g'.stateAccessPermissions := hpermissions
  intro p hp
  obtain ⟨q, hq⟩ := exists_of_readList_map hlist hp
  exact StatePermission.member_of_read_items hq

/-- Validating the dump of an object returns the object, if its labels are members. -/
theorem GCO.modelValidate_of_typed (hext : ext.ReadsBack) (htyped : g.Typed) :
    GCO.modelValidate ext (g.modelDump ext.toExternals) = .ok g := by
  rw [GCO.modelValidate, GCO.read_modelDump hext htyped]

/-- Otherwise it raises. -/
theorem GCO.modelValidate_of_not_typed (htyped : ¬g.Typed) :
    ∃ e, GCO.modelValidate ext (g.modelDump ext.toExternals) = .error e := by
  unfold GCO.modelValidate
  cases hread : GCO.read ext (g.modelDump ext.toExternals) with
  | none => exact ⟨_, rfl⟩
  | some g' => exact absurd (GCO.typed_of_read_modelDump hread) htyped

end Gco
