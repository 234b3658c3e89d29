import GcoSpec.GcoMcp.RoundTrip

/-!
# The validator on payloads

The methods of `GCOValidator` take objects and payloads. `validate_result` returns what `validate`
raises: the error of a `GCODerivationException`, and `GCO_MALFORMED` for a payload that is no
object, or `ATTESTATION_FORMAT_INVALID` if its attestation has an unknown format.

* `validate_result_total`: with an aware clock it returns, unless it comes to the hash of a parent
  that has none; it calls valid what `Narrows` says, and only what cannot be read gets one of these
  two codes;
* `GCO.read_sortKeys_modelDump`: the dump of an object is read back in any order of its keys, so
  that what was written with `sort_keys` counts as the object.
-/

namespace Gco

open Python Python.Json GcoMcp

/-! ### Arguments -/

/-- `GCO | Mapping[str, Any]`, where a value that is no mapping is refused like a mapping. -/
inductive GcoLike
  | gco (g : GCO)
  | mapping (payload : PyVal)

/-- `ValidationResult`. -/
structure ValidationResult where
  valid : Bool
  errorCode : Option ErrorCode
  message : Option String

namespace GCOValidator

variable (ext : ModelExternals)

/-- `_coerce_gco`. -/
def coerceGco : GcoLike → Except Exc GCO
  | .gco g => .ok g
  | .mapping payload =>
      match GCO.modelValidate ext payload with
      | .ok g => .ok g
      | .error e =>
          match e.kind with
          | .validationError locs =>
              if ["attestation", "format"] ∈ locs then
                .error (.ofDerivation .attestationFormatInvalid)
              else .error e
          | _ => .error e

/-- `validate`. -/
def validate (now : PyDatetime) (parent child : GcoLike) : Except Exc Unit := do
  let parent ← coerceGco ext parent
  let child ← coerceGco ext child
  Gco.validate ext.toExternals now parent child

/-- `validate_result`. -/
def validateResult (now : PyDatetime) (parent child : GcoLike) : Except Exc ValidationResult :=
  match validate ext now parent child with
  | .ok () => .ok ⟨true, none, none⟩
  | .error e =>
      match e.kind with
      | .derivation error => do pure ⟨false, error, some (← e.str)⟩
      | .validationError _ => do pure ⟨false, some (.derivation .gcoMalformed), some (← e.str)⟩
      | _ => .error e

/-! ### The hash of the parent -/

/-- `validate` up to the hash of the parent in `_validate_lineage`. -/
def validateBeforeHash (parent child : GCO) : Except Exc Unit := do
  raiseIf (hasDuplicates parent.namespaces) .statePermissionExpanded
  raiseIf (hasDuplicates child.namespaces) .statePermissionExpanded
  raiseIf (hasDuplicates parent.toolUris) .toolAuthorityExpanded
  raiseIf (hasDuplicates child.toolUris) .toolAuthorityExpanded
  validateVersion parent child
  validateImmutables parent child
  validateParentLinkage parent child
  raiseIf (128 < child.lineage.length) .lineageFlooded
  raiseIf (child.lineage.length ≠ parent.lineage.length + 1 ∨
    child.lineage.dropLast ≠ parent.lineage) .lineageAppendFailed

/-- The rest of `validate`, with the hash. -/
def validateFromHash (now : PyDatetime) (parent child : GCO) (digest : String) :
    Except Exc Unit := do
  raiseIf (child.lineage.getLast? ≠ some digest) .canonicalHashMismatch
  validateToolAuthority parent child
  validateStatePermissions parent child
  validateExpiry now parent child
  validateAttestation child

theorem validate_eq_hash (env : Externals) (now : PyDatetime) (parent child : GCO) :
    Gco.validate env now parent child = (do
      validateBeforeHash parent child
      let digest ← canonicalGcoHash env parent
      validateFromHash now parent child digest) := by
  simp only [Gco.validate, validateLineage, validateBeforeHash, validateFromHash, bind_assoc]

/-- The arguments are objects, the checks before the hash pass, and the parent has no hash. -/
def LacksHash (parent child : GcoLike) : Prop :=
  ∃ p c, coerceGco ext parent = .ok p ∧ coerceGco ext child = .ok c ∧
    validateBeforeHash p c = .ok () ∧ ¬p.Serializable

/-! ### Codes -/

variable {ext}

/-- The errors that compare a parent and a child; the two others are about a payload. -/
def Comparing (error : DerivationError) : Prop :=
  error ≠ .gcoMalformed ∧ error ≠ .attestationFormatInvalid

instance : DecidablePred Comparing := fun _ => inferInstanceAs (Decidable (_ ∧ _))

/-- What the comparison of two objects raises. -/
def RaisesComparing (e : Exc) : Prop := ∃ error, Comparing error ∧ e = .ofDerivation error

theorem comparing_raiseIf {bad : Prop} [Decidable bad] {error : DerivationError}
    (h : Comparing error) : ErrorsOnly (raiseIf bad error) RaisesComparing := by
  intro e he
  unfold raiseIf at he
  split_ifs at he
  cases he
  exact ⟨error, h, rfl⟩

theorem comparing_validateBeforeHash (parent child : GCO) :
    ErrorsOnly (validateBeforeHash parent child) RaisesComparing := by
  have hraise : ∀ {bad : Prop} [Decidable bad] {error : DerivationError}, Comparing error →
      ErrorsOnly (raiseIf bad error) RaisesComparing := fun h => comparing_raiseIf h
  have himmutables : ErrorsOnly (validateImmutables parent child) RaisesComparing :=
    (hraise (by decide)).bind fun _ => (hraise (by decide)).bind fun _ =>
      (hraise (by decide)).bind fun _ => hraise (by decide)
  refine (hraise (by decide)).bind fun _ => (hraise (by decide)).bind fun _ => ?_
  refine (hraise (by decide)).bind fun _ => (hraise (by decide)).bind fun _ => ?_
  refine (hraise (by decide)).bind fun _ => himmutables.bind fun _ => ?_
  refine (hraise (by decide)).bind fun _ => ?_
  exact (hraise (by decide)).bind fun _ => hraise (by decide)

/-- From there on the validator raises what compares two objects, and what the comparison with its
clock does. -/
theorem errorsOnly_validateFromHash {now : PyDatetime} {Q : Exc → Prop}
    (hcomparing : ∀ e, RaisesComparing e → Q e) {parent child : GCO} {digest : String}
    (hclock : ErrorsOnly (leNow child.expiresAt now) Q) :
    ErrorsOnly (validateFromHash now parent child digest) Q := by
  have hraise : ∀ {bad : Prop} [Decidable bad] {error : DerivationError}, Comparing error →
      ErrorsOnly (raiseIf bad error) Q := fun h => (comparing_raiseIf h).mono hcomparing
  have herror : ∀ {error : DerivationError}, Comparing error →
      ErrorsOnly (.error (.ofDerivation error) : Except Exc Unit) Q :=
    fun h => .error (hcomparing _ ⟨_, h, rfl⟩)
  have htool : ∀ tool, ErrorsOnly (validateTool parent.tools tool) Q := by
    intro tool
    unfold validateTool
    split
    · exact herror (by decide)
    · exact (hraise (by decide)).bind fun _ => hraise (by decide)
  have hpermission : ∀ permission,
      ErrorsOnly (validatePermission parent.permissions permission) Q := by
    intro permission
    unfold validatePermission
    split
    · exact herror (by decide)
    · exact (hraise (by decide)).bind fun _ => hraise (by decide)
  have hexpiry : ErrorsOnly (validateExpiry now parent child) Q :=
    (hraise (by decide)).bind fun _ => hclock.bind fun _ => hraise (by decide)
  -- the methods in the order in which they are called
  refine (hraise (by decide)).bind fun _ => (ErrorsOnly.forM htool _).bind fun _ => ?_
  refine (ErrorsOnly.forM hpermission _).bind fun _ => hexpiry.bind fun _ => ?_
  exact hraise (by decide)

/-- The whole validator raises besides when the parent has no hash. -/
theorem errorsOnly_validate {env : Externals} {now : PyDatetime} {Q : Exc → Prop}
    (hcomparing : ∀ e, RaisesComparing e → Q e) (hdigits : Q digitLimitExceeded)
    {parent child : GCO} (hclock : ErrorsOnly (leNow child.expiresAt now) Q) :
    ErrorsOnly (Gco.validate env now parent child) Q := by
  have hhash : ErrorsOnly (canonicalGcoHash env parent) Q := by
    rw [canonicalGcoHash_eq]
    split_ifs
    · exact .ok _
    · exact .error hdigits
  rw [validate_eq_hash]
  exact ((comparing_validateBeforeHash parent child).mono hcomparing).bind fun _ =>
    hhash.bind fun _ => errorsOnly_validateFromHash hcomparing hclock

/-- Where the clock is aware, that is when the comparison comes to the hash. -/
theorem of_validate_error {env : Externals} {now : PyDatetime}
    (hnow : ∃ micros, now.instant? = some micros) {parent child : GCO} {e : Exc}
    (h : Gco.validate env now parent child = .error e) : RaisesComparing e ∨
      validateBeforeHash parent child = .ok () ∧ ¬parent.Serializable ∧
        e = digitLimitExceeded := by
  rw [validate_eq_hash] at h
  rcases except_bind_raises_iff.1 h with hbefore | ⟨u, hbefore, hrest⟩
  · exact .inl (comparing_validateBeforeHash parent child e hbefore)
  · rw [canonicalGcoHash_eq] at hrest
    by_cases hparent : parent.Serializable
    · rw [if_pos hparent] at hrest
      obtain ⟨micros, hmicros⟩ := hnow
      refine .inl (errorsOnly_validateFromHash (fun _ => id) ?_ e hrest)
      rw [leNow, hmicros]
      exact .ok _
    · rw [if_neg hparent] at hrest
      exact .inr ⟨hbefore, hparent, (Except.error.inj hrest).symm⟩

/-- What `_coerce_gco` raises: one of the two codes, or what becomes the other. -/
theorem of_coerceGco_error {arg : GcoLike} {e : Exc} (h : coerceGco ext arg = .error e) :
    e = .ofDerivation .attestationFormatInvalid ∨
      ∃ locs text, e = ⟨.validationError locs, some text⟩ := by
  cases arg with
  | gco g => cases h
  | mapping payload =>
    rw [coerceGco, GCO.modelValidate] at h
    cases hread : GCO.read ext payload with
    | some g =>
      rw [hread] at h
      cases h
    | none =>
      rw [hread] at h
      dsimp only at h
      split_ifs at h with hformat
      · exact .inl (Except.error.inj h).symm
      · exact .inr ⟨_, _, (Except.error.inj h).symm⟩

/-- The arguments are objects, or are read as objects. -/
def Coerced (ext : ModelExternals) (parent child : GcoLike) : Prop :=
  ∃ p c, coerceGco ext parent = .ok p ∧ coerceGco ext child = .ok c

/-- What `validate` raises is about the payloads, or about the objects they are read as, if the
parent has a hash where it is needed. -/
theorem raises_of_validate_error {now : PyDatetime} (hnow : ∃ micros, now.instant? = some micros)
    {parent child : GcoLike} (hhash : ¬LacksHash ext parent child) {e : Exc}
    (h : validate ext now parent child = .error e) :
    RaisesComparing e ∧ Coerced ext parent child ∨
      (e = .ofDerivation .attestationFormatInvalid ∨
        ∃ locs text, e = ⟨.validationError locs, some text⟩) ∧ ¬Coerced ext parent child := by
  rcases except_bind_raises_iff.1 h with hparent | ⟨p, hp, hrest⟩
  · refine .inr ⟨of_coerceGco_error hparent, ?_⟩
    rintro ⟨p, -, hp, -⟩
    rw [hparent] at hp
    cases hp
  rcases except_bind_raises_iff.1 hrest with hchild | ⟨c, hc, hvalidate⟩
  · refine .inr ⟨of_coerceGco_error hchild, ?_⟩
    rintro ⟨-, c, -, hc⟩
    rw [hchild] at hc
    cases hc
  · rcases of_validate_error hnow hvalidate with hcomparing | ⟨hbefore, hparent, -⟩
    · exact .inl ⟨hcomparing, p, c, hp, hc⟩
    · exact absurd ⟨p, c, hp, hc, hbefore, hparent⟩ hhash

/-- Without a hash it raises what `json.dumps` does. -/
theorem validate_of_lacksHash {now : PyDatetime} {parent child : GcoLike}
    (h : LacksHash ext parent child) :
    validate ext now parent child = .error digitLimitExceeded := by
  obtain ⟨p, c, hp, hc, hbefore, hparent⟩ := h
  have hhash : Gco.validate ext.toExternals now p c = .error digitLimitExceeded := by
    rw [validate_eq_hash, hbefore, canonicalGcoHash_eq, if_neg hparent]
    rfl
  rw [validate, hp, hc]
  exact hhash

theorem validate_eq_ok_iff {now : PyDatetime} {parent child : GcoLike} :
    validate ext now parent child = .ok () ↔ ∃ p c, coerceGco ext parent = .ok p ∧
      coerceGco ext child = .ok c ∧ Narrows ext.toExternals p c ∧ After c.expiresAt now := by
  constructor
  · intro h
    obtain ⟨p, hp, h⟩ := except_bind_eq_ok_iff.1 h
    obtain ⟨c, hc, h⟩ := except_bind_eq_ok_iff.1 h
    exact ⟨p, c, hp, hc, Gco.validate_eq_ok_iff.1 h⟩
  · rintro ⟨p, c, hp, hc, hnarrows⟩
    exact except_bind_eq_ok_iff.2 ⟨p, hp, except_bind_eq_ok_iff.2
      ⟨c, hc, Gco.validate_eq_ok_iff.2 hnarrows⟩⟩

theorem validateResult_of_lacksHash {now : PyDatetime} {parent child : GcoLike}
    (h : LacksHash ext parent child) :
    validateResult ext now parent child = .error digitLimitExceeded := by
  rw [validateResult, validate_of_lacksHash h]
  rfl

/-- A result is valid if nothing is raised, and names the error otherwise. -/
theorem exists_validateResult {now : PyDatetime} (hnow : ∃ micros, now.instant? = some micros)
    {parent child : GcoLike} (hhash : ¬LacksHash ext parent child) :
    ∃ result, validateResult ext now parent child = .ok result ∧
      (result.valid = true ↔ validate ext now parent child = .ok ()) ∧
      (result.valid = false → ∃ error text, result.errorCode = some (.derivation error) ∧
        result.message = some text ∧ (¬Comparing error ↔ ¬Coerced ext parent child)) := by
  rw [validateResult]
  cases h : validate ext now parent child with
  | ok u => exact ⟨_, rfl, iff_of_true rfl rfl, by rintro ⟨⟩⟩
  | error e =>
    rcases raises_of_validate_error hnow hhash h with ⟨⟨error, hcomparing, rfl⟩, hcoerced⟩ |
      ⟨rfl | ⟨locs, text, rfl⟩, hcoerced⟩
    · refine ⟨_, rfl, iff_of_false (by simp) (by simp), fun _ => ⟨error, _, rfl, rfl, ?_⟩⟩
      exact iff_of_false (not_not.2 hcomparing) (not_not.2 hcoerced)
    · refine ⟨_, rfl, iff_of_false (by simp) (by simp), fun _ => ⟨_, _, rfl, rfl, ?_⟩⟩
      exact iff_of_true (by decide) hcoerced
    · refine ⟨_, rfl, iff_of_false (by simp) (by simp), fun _ => ⟨_, _, rfl, rfl, ?_⟩⟩
      exact iff_of_true (by decide) hcoerced

/-- With an aware clock `validate_result` returns, whatever it is given, unless it comes to the hash
of a parent that has none; there it raises what `json.dumps` does. It calls a pair valid exactly if
both arguments are objects, the child narrows the parent, and it has not expired. Otherwise it names
an error, and that is `GCO_MALFORMED` or `ATTESTATION_FORMAT_INVALID` exactly if an argument is no
object. -/
theorem validate_result_total (ext : ModelExternals) (now : PyDatetime)
    (hnow : ∃ micros, now.instant? = some micros) (parent child : GcoLike) :
    (LacksHash ext parent child ∧
      validateResult ext now parent child = .error digitLimitExceeded) ∨
    (¬LacksHash ext parent child ∧ ∃ result, validateResult ext now parent child = .ok result ∧
      (result.valid = true ↔ ∃ p c, coerceGco ext parent = .ok p ∧ coerceGco ext child = .ok c ∧
        Narrows ext.toExternals p c ∧ After c.expiresAt now) ∧
      (result.valid = false → ∃ error text, result.errorCode = some (.derivation error) ∧
        result.message = some text ∧ (¬Comparing error ↔ ¬Coerced ext parent child))) := by
  by_cases hhash : LacksHash ext parent child
  · exact .inl ⟨hhash, validateResult_of_lacksHash hhash⟩
  · refine .inr ⟨hhash, ?_⟩
    rw [← validate_eq_ok_iff]
    exact exists_validateResult hnow hhash

/-- A child given as its dump. -/
theorem validate_result_total_demo :
    ∃ result, validateResult demoModelExternals demoNow.toPy (.gco demoRoot)
        (.mapping (demoChild.modelDump demoExternals)) = .ok result ∧ result.valid = true := by
  have hread : GCO.modelValidate demoModelExternals (demoChild.modelDump demoExternals) =
      .ok demoChild :=
    GCO.modelValidate_of_typed demoModelExternals_readsBack (typed_of_narrows narrows_demo)
  have hchild : coerceGco demoModelExternals (.mapping (demoChild.modelDump demoExternals)) =
      .ok demoChild := by
    rw [coerceGco, hread]
  rcases validate_result_total demoModelExternals demoNow.toPy ⟨_, PyDatetime.instant?_toPy _⟩
    (.gco demoRoot) (.mapping (demoChild.modelDump demoExternals)) with
    ⟨⟨p, -, hp, -, -, hparent⟩, -⟩ | ⟨-, result, hresult, hvalid, -⟩
  · cases hp
    exact absurd serializable_demoRoot hparent
  · exact ⟨result, hresult, hvalid.2
      ⟨demoRoot, demoChild, rfl, hchild, Gco.validate_eq_ok_iff.1 validate_demo⟩⟩

end GCOValidator

/-! ### Dumps with sorted keys -/

section Sorted

variable {α : Type} {kvs : List (String × PyVal)} {name : String} {read : PyVal → Option α}

/-- The items of a `dict`, as `sort_keys` writes them. -/
def sortedItems (kvs : List (String × PyVal)) : List (String × PyVal) :=
  (sortKeysPairs kvs).insertionSort keyLe

theorem readModel_sortKeys {fieldNames : List String} (h : ∀ item ∈ kvs, item.1 ∈ fieldNames) :
    readModel fieldNames (sortKeys (.dict kvs)) = some (sortedItems kvs) := by
  rw [sortKeys]
  refine readModel_dict fun item hitem => ?_
  have hmem := (List.perm_insertionSort keyLe _).mem_iff.1 hitem
  rw [sortKeysPairs_eq_map, List.mem_map] at hmem
  obtain ⟨kv, hkv, rfl⟩ := hmem
  exact h kv hkv

/-- A field is read from the value it has, with its own keys sorted. -/
theorem readField_sortedItems (hk : (kvs.map Prod.fst).Nodup) :
    readField (sortedItems kvs) name read = readField kvs name fun x => read (sortKeys x) := by
  rw [readField, readField, sortedItems, lookup_insertionSort hk]
  cases kvs.lookup name <;> rfl

theorem readFieldOr_sortedItems (hk : (kvs.map Prod.fst).Nodup) {default : α} :
    readFieldOr (sortedItems kvs) name default read =
      readFieldOr kvs name default fun x => read (sortKeys x) := by
  rw [readFieldOr, readFieldOr, sortedItems, lookup_insertionSort hk]
  cases kvs.lookup name <;> rfl

theorem readList_sortKeys {dump : α → PyVal} {xs : List α}
    (hread : ∀ x ∈ xs, read (sortKeys (dump x)) = some x) :
    readList read (sortKeys (.list (xs.map dump))) = some xs := by
  rw [sortKeys, sortKeysItems_eq_map, List.map_map]
  exact readList_map hread

theorem readOptional_sortKeys {dump : α → PyVal} (hnone : ∀ a, sortKeys (dump a) ≠ .none)
    (hread : ∀ a, read (sortKeys (dump a)) = some a) (a : Option α) :
    readOptional read (sortKeys (dumpOption dump a)) = some a := by
  cases a with
  | none => rfl
  | some a => exact readOptional_dumpOption hnone hread (some a)

end Sorted

theorem AttestationModel.read_sortKeys (a : AttestationModel) :
    AttestationModel.read (sortKeys (.dict a.items)) = some a := by
  have hmodel : readModel fieldNames (sortKeys (.dict a.items)) = some (sortedItems a.items) :=
    readModel_sortKeys (by simp [items, fieldNames])
  have hformat : readField (sortedItems a.items) "format" (readMember AttestationFormat) =
      some a.format :=
    (readField_sortedItems a.nodup_items).trans (readMember_value a.format)
  have hvalue : readField (sortedItems a.items) "value" PyVal.str? = some a.value :=
    readField_sortedItems a.nodup_items
  have hissuer : readFieldOr (sortedItems a.items) "issuer" none (readOptional readUri) =
      some a.issuer :=
    (readFieldOr_sortedItems a.nodup_items).trans
      (readOptional_sortKeys (by simp [sortKeys]) readUri_text a.issuer)
  simp only [AttestationModel.read, hmodel, hformat, hvalue, hissuer, Option.bind_eq_bind,
    Option.bind_some, Option.pure_def]

theorem StatePermission.read_sortKeys {p : StatePermission} {mode : AccessMode}
    {taint : TaintPolicy} (hmode : p.accessMode = .member mode)
    (htaint : p.taintPolicy = .member taint) :
    StatePermission.read (sortKeys (.dict p.items)) = some p := by
  have hmodel : readModel fieldNames (sortKeys (.dict p.items)) = some (sortedItems p.items) :=
    readModel_sortKeys (by simp [items, fieldNames])
  have hns : readField (sortedItems p.items) "namespace" PyVal.str? = some p.namespace :=
    readField_sortedItems p.nodup_items
  have hmode' : readField (sortedItems p.items) "access_mode" (readMember AccessMode) =
      some mode := by
    rw [readField_sortedItems p.nodup_items, ← readMember_value mode]
    show readMember AccessMode (.str p.accessMode.value) = _
    rw [hmode]
    rfl
  have htaint' : readFieldOr (sortedItems p.items) "taint_policy" .clean
      (readMember TaintPolicy) = some taint := by
    rw [readFieldOr_sortedItems p.nodup_items, ← readMember_value taint]
    show readMember TaintPolicy (.str p.taintPolicy.value) = _
    rw [htaint]
    rfl
  simp only [StatePermission.read, hmodel, hns, hmode', htaint', Option.bind_eq_bind,
    Option.bind_some, Option.pure_def, ← hmode, ← htaint]

variable {ext : ModelExternals}

theorem ToolAuthority.read_sortKeys (hext : ext.ReadsBack) (t : ToolAuthority) :
    ToolAuthority.read ext (sortKeys (.dict t.items)) = some t := by
  have hmodel : readModel fieldNames (sortKeys (.dict t.items)) = some (sortedItems t.items) :=
    readModel_sortKeys (by simp [items, fieldNames])
  have huri : readField (sortedItems t.items) "tool_uri" readUri = some t.toolUri :=
    (readField_sortedItems t.nodup_items).trans (readUri_text t.toolUri)
  have hscope : readField (sortedItems t.items) "scope" PyVal.str? = some t.scope :=
    readField_sortedItems t.nodup_items
  have hdepth : readField (sortedItems t.items) "max_depth"
      (fun x => (ext.readInt x).bind readMaxDepth) = some t.maxDepth := by
    rw [readField_sortedItems t.nodup_items]
    show (ext.readInt (.int t.maxDepth)).bind readMaxDepth = some t.maxDepth
    rw [hext.int, Option.bind_some, readMaxDepth_natCast]
  simp only [ToolAuthority.read, hmodel, huri, hscope, hdepth, Option.bind_eq_bind,
    Option.bind_some, Option.pure_def]

theorem GCO.nodup_items (env : Externals) (g : GCO) : ((g.items env).map Prod.fst).Nodup :=
  show GCO.fieldNames.Nodup by decide

/-- The dump of an object is read back when its labels are members, also with its keys sorted. -/
theorem GCO.read_sortKeys_modelDump (hext : ext.ReadsBack) {g : GCO} (htyped : g.Typed) :
    GCO.read ext (sortKeys (g.modelDump ext.toExternals)) = some g := by
  have hk := g.nodup_items ext.toExternals
  have hmodel : readModel fieldNames (sortKeys (g.modelDump ext.toExternals)) =
      some (sortedItems (g.items ext.toExternals)) :=
    readModel_sortKeys (by simp [bareItems, fieldNames])
  generalize hitems : sortedItems (g.items ext.toExternals) = items at hmodel
  have hfield : ∀ {α : Type} (name : String) (read : PyVal → Option α), readField items name read =
      readField (g.items ext.toExternals) name fun x => read (sortKeys x) := fun _ _ => by
    rw [← hitems, readField_sortedItems hk]
  have hfieldOr : ∀ {α : Type} (name : String) (default : α) (read : PyVal → Option α),
      readFieldOr items name default read = readFieldOr (g.items ext.toExternals) name default
        fun x => read (sortKeys x) := fun _ _ _ => by
    rw [← hitems, readFieldOr_sortedItems hk]
  have hversion : readField items "gco_version" PyVal.str? = some g.gcoVersion := hfield _ _
  have hpolicy : readField items "policy_id" PyVal.str? = some g.policyId := hfield _ _
  have hintervention : readField items "intervention_version" PyVal.str? =
      some g.interventionVersion := hfield _ _
  have hmodelIdentity : readField items "model_identity" readUri = some g.modelIdentity :=
    (hfield _ _).trans (readUri_text g.modelIdentity)
  have htrace : readField items "trace_id" ext.readUuid = some g.traceId :=
    (hfield _ _).trans (hext.uuid g.traceId)
  have hspan : readField items "span_id" ext.readUuid = some g.spanId :=
    (hfield _ _).trans (hext.uuid g.spanId)
  have hparent : readField items "parent_span_id" (readOptional ext.readUuid) =
      some g.parentSpanId :=
    (hfield _ _).trans (readOptional_sortKeys (by simp [sortKeys]) hext.uuid g.parentSpanId)
  have hexpires : readField items "expires_at" (fun x => (ext.readDatetime x).bind expiresAtUtc) =
      some g.expiresAt := by
    refine (hfield _ _).trans ?_
    show (ext.readDatetime (.str (ext.dumpDatetime g.expiresAt))).bind expiresAtUtc = _
    rw [hext.datetime]
    rfl
  have htools : readFieldOr items "tool_authority" [] (readList (ToolAuthority.read ext)) =
      some g.toolAuthority :=
    (hfieldOr _ _ _).trans (readList_sortKeys fun t _ => ToolAuthority.read_sortKeys hext t)
  have hpermissions : readFieldOr items "state_access_permissions" []
      (readList StatePermission.read) = some g.stateAccessPermissions := by
    refine (hfieldOr _ _ _).trans (readList_sortKeys fun p hp => ?_)
    obtain ⟨⟨mode, hmode⟩, ⟨taint, htaint⟩⟩ := htyped p hp
    exact StatePermission.read_sortKeys hmode htaint
  have hlineage : readFieldOr items "lineage" [] (readList PyVal.str?) = some g.lineage :=
    (hfieldOr _ _ _).trans (readList_sortKeys fun _ _ => rfl)
  have hattestation : readField items "attestation" (readOptional AttestationModel.read) =
      some g.attestation :=
    (hfield _ _).trans
      (readOptional_sortKeys (by simp [sortKeys]) AttestationModel.read_sortKeys g.attestation)
  -- the fields in the order in which they are read
  rw [GCO.read]
  refine Option.bind_eq_some_iff.2 ⟨_, hmodel, ?_⟩
  refine Option.bind_eq_some_iff.2 ⟨_, hversion, ?_⟩
  refine Option.bind_eq_some_iff.2 ⟨_, htrace, ?_⟩
  refine Option.bind_eq_some_iff.2 ⟨_, hspan, ?_⟩
  refine Option.bind_eq_some_iff.2 ⟨_, hparent, ?_⟩
  refine Option.bind_eq_some_iff.2 ⟨_, hpolicy, ?_⟩
  refine Option.bind_eq_some_iff.2 ⟨_, hmodelIdentity, ?_⟩
  refine Option.bind_eq_some_iff.2 ⟨_, hintervention, ?_⟩
  refine Option.bind_eq_some_iff.2 ⟨_, htools, ?_⟩
  refine Option.bind_eq_some_iff.2 ⟨_, hpermissions, ?_⟩
  refine Option.bind_eq_some_iff.2 ⟨_, hexpires, ?_⟩
  refine Option.bind_eq_some_iff.2 ⟨_, hlineage, ?_⟩
  refine Option.bind_eq_some_iff.2 ⟨_, hattestation, ?_⟩
  rfl

end Gco
