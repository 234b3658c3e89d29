import GcoSpec.GcoMcp.RoundTrip
import GcoSpec.Library.JsonSchema

/-!
# The published schema

`gco_schema_v1.json` says a second time what `GCO.model_validate` reads.

* `schema_accepts_iff`: with the formats checked as the models read them, the schema accepts
  exactly the payloads that are read as an object and spell it out. Those that the models read
  besides leave out a list or have another value in place of a text or an integer.
* `read_payload_conforms`: whatever payload was read, the object is written, if it can be, as one
  that conforms, and is read back.
-/

namespace Gco

open Python JsonSchema JsonSchema.Schema

/-! ### The document -/

/-- The items of `"tool_authority"`. -/
def toolAuthoritySchema : Schema :=
  allOf [type [.object], allOf [required ["tool_uri", "scope", "max_depth"],
    onlyProperties
      [("tool_uri", allOf [type [.string], format "uri"]),
       ("scope", type [.string]),
       ("max_depth", allOf [type [.integer], minimum 0])]]]

/-- The items of `"state_access_permissions"`. -/
def statePermissionSchema : Schema :=
  allOf [type [.object], allOf [required ["namespace", "access_mode"],
    onlyProperties
      [("namespace", type [.string]),
       ("access_mode", enum ["read", "write", "append", "none"]),
       ("taint_policy", enum ["clean", "sanitized", "tainted", "isolated"])]]]

/-- `"attestation"`. -/
def attestationSchema : Schema :=
  allOf [type [.object, .null], allOf [required ["format", "value"],
    onlyProperties
      [("format", enum ["jwt-svid", "x509-svid", "raw-jws", "tpm-quote"]),
       ("value", type [.string]),
       ("issuer", allOf [type [.string, .null], format "uri"])]]]

/-- `gco_schema_v1.json`. -/
def gcoSchema : Schema :=
  allOf [type [.object], allOf [
    required ["gco_version", "trace_id", "span_id", "parent_span_id", "policy_id",
      "model_identity", "intervention_version", "tool_authority", "state_access_permissions",
      "expires_at", "lineage", "attestation"],
    onlyProperties
      [("gco_version", type [.string]),
       ("trace_id", allOf [type [.string], format "uuid"]),
       ("span_id", allOf [type [.string], format "uuid"]),
       ("parent_span_id", allOf [type [.string, .null], format "uuid"]),
       ("policy_id", type [.string]),
       ("model_identity", allOf [type [.string], format "uri"]),
       ("intervention_version", type [.string]),
       ("tool_authority", allOf [type [.array], items toolAuthoritySchema]),
       ("state_access_permissions", allOf [type [.array], items statePermissionSchema]),
       ("expires_at", allOf [type [.string], format "date-time"]),
       ("lineage", allOf [type [.array], items (type [.string])]),
       ("attestation", attestationSchema)]]]

/-- The formats as the models read them. -/
def modelFormats (ext : ModelExternals) : FormatCheck := fun name s =>
  if name = "uuid" then (ext.readUuid (.str s)).isSome
  else if name = "uri" then matchesUri s
  else if name = "date-time" then ((ext.readDatetime (.str s)).bind expiresAtUtc).isSome
  else true

/-! ### Values -/

section Values

variable {ext : ModelExternals} {x : PyVal}

theorem string_accepts {check : FormatCheck} :
    (type [.string]).accepts check x = true ↔ x.str?.isSome := by
  cases x <;> simp [PyVal.str?]

theorem uri_accepts : (allOf [type [.string], format "uri"]).accepts (modelFormats ext) x = true ↔
    (readUri x).isSome := by
  cases x <;> simp [readUri, PyVal.str?, modelFormats]

theorem optional_uri_accepts :
    (allOf [type [.string, .null], format "uri"]).accepts (modelFormats ext) x = true ↔
      (readOptional readUri x).isSome := by
  cases x with
  | none => simp [readOptional, format]
  | _ => simp [readOptional, readUri, PyVal.str?, modelFormats]

theorem uuid_accepts :
    (allOf [type [.string], format "uuid"]).accepts (modelFormats ext) x = true ↔
      (ext.readUuid x).isSome ∧ ∃ s, x = .str s := by
  cases x <;> simp [modelFormats]

theorem optional_uuid_accepts :
    (allOf [type [.string, .null], format "uuid"]).accepts (modelFormats ext) x = true ↔
      (readOptional ext.readUuid x).isSome ∧ (x = .none ∨ ∃ s, x = .str s) := by
  cases x with
  | none => simp [readOptional, format]
  | _ => simp [readOptional, modelFormats]

theorem datetime_accepts :
    (allOf [type [.string], format "date-time"]).accepts (modelFormats ext) x = true ↔
      ((ext.readDatetime x).bind expiresAtUtc).isSome ∧ ∃ s, x = .str s := by
  cases x <;> simp [modelFormats]

/-- The values of an enumeration, in whatever order. -/
theorem enum_accepts_iff {ε : Type} [StrEnum ε] {check : FormatCheck} {names : List String}
    (hnames : names.Perm ((StrEnum.members : List ε).map StrEnum.value)) :
    (enum names).accepts check x = true ↔ (readMember ε x).isSome := by
  have hmember : ∀ s, s ∈ names ↔ (StrEnum.ofValue? ε s).isSome := by
    intro s
    rw [hnames.mem_iff, StrEnum.ofValue?, List.find?_isSome, List.mem_map]
    simp
  cases x <;> simp [readMember, PyVal.str?, hmember]

/-- A depth that is no float is read if it is a number of the schema; one that is written as an
integer is all that the schema accepts. -/
theorem depth_accepts (hint : ∀ n, ext.readInt (.int n) = some n) :
    ((allOf [type [.integer], minimum 0]).accepts (modelFormats ext) x = true ∧
        ¬∃ q, x = .float q) ↔
      ((ext.readInt x).bind readMaxDepth).isSome ∧ ∃ n, x = .int n := by
  by_cases hfloat : ∃ q, x = .float q
  · obtain ⟨q, rfl⟩ := hfloat
    simp
  · rw [integer_minimum_zero (by simpa using hfloat)]
    constructor
    · rintro ⟨⟨n, hn, rfl⟩, -⟩
      refine ⟨?_, n, rfl⟩
      rw [hint, Option.bind_some, readMaxDepth, if_pos hn, Option.isSome_some]
    · rintro ⟨hread, n, rfl⟩
      refine ⟨⟨n, ?_, rfl⟩, hfloat⟩
      by_contra hn
      rw [hint, Option.bind_some, readMaxDepth, if_neg hn] at hread
      cases hread

theorem isSome_readList {α : Type} {read : PyVal → Option α} {xs : List PyVal} :
    (readList read (.list xs)).isSome ↔ ∀ y ∈ xs, (read y).isSome := by
  rw [readList]
  induction xs with
  | nil => simp
  | cons y ys ih =>
    rw [List.mapM_cons, List.forall_mem_cons, ← ih]
    cases read y <;> cases List.mapM read ys <;> simp

theorem list_accepts {α : Type} {check : FormatCheck} {s : Schema} {read : PyVal → Option α}
    (h : ∀ y, s.accepts check y = true ↔ (read y).isSome) :
    (allOf [type [.array], items s]).accepts check x = true ↔ (readList read x).isSome := by
  cases x with
  | list xs =>
    rw [isSome_readList]
    simp [h]
  | _ => simp [readList]

end Values

/-! ### Entries -/

section Entries

variable {α : Type} {check : FormatCheck} {s : Schema} {read : PyVal → Option α}
  {entries : List (String × PyVal)} {name : String}

theorem entry_iff_readField (h : ∀ v, s.accepts check v = true ↔ (read v).isSome) :
    Entry check entries name s ↔ (readField entries name read).isSome := by
  unfold Entry readField
  cases entries.lookup name <;> simp [h]

/-- An entry that the schema accepts only in one spelling. -/
theorem entry_iff_readField_spelled {Spelling : PyVal → Prop}
    (h : ∀ v, s.accepts check v = true ↔ (read v).isSome ∧ Spelling v) :
    Entry check entries name s ↔
      (readField entries name read).isSome ∧ ∃ v, entries.lookup name = some v ∧ Spelling v := by
  unfold Entry readField
  cases entries.lookup name <;> simp [h]

theorem optionalEntry_iff_readFieldOr {default : α}
    (h : ∀ v, s.accepts check v = true ↔ (read v).isSome) :
    OptionalEntry check entries name s ↔ (readFieldOr entries name default read).isSome := by
  unfold OptionalEntry readFieldOr
  cases entries.lookup name <;> simp [h]

/-- An entry that the models can do without. -/
theorem entry_iff_readFieldOr {default : α}
    (h : ∀ v, s.accepts check v = true ↔ (read v).isSome) :
    Entry check entries name s ↔
      (readFieldOr entries name default read).isSome ∧ (entries.lookup name).isSome := by
  rw [entry_iff, optionalEntry_iff_readFieldOr h, and_comm]

end Entries

/-! ### Models -/

/-- An object has no entries but those of the model. -/
def OnlyEntries (names : List String) (entries : List (String × PyVal)) : Prop :=
  ∀ entry ∈ entries, entry.1 ∈ names

theorem readModel_eq_some_iff {names : List String} {x : PyVal}
    {entries : List (String × PyVal)} :
    readModel names x = some entries ↔ x = .dict entries ∧ OnlyEntries names entries := by
  rw [readModel, Option.filter_eq_some_iff, List.all_eq_true]
  refine and_congr ?_ (by simp [OnlyEntries])
  cases x <;> simp [PyVal.mapping?]

/-- Fields that are read one after the other. -/
theorem isSome_bind_iff {α β : Type} {o : Option α} {f : α → Option β} {P : Prop}
    (h : ∀ a, (f a).isSome ↔ P) : (o.bind f).isSome ↔ o.isSome ∧ P := by
  cases o <;> simp [h]

theorem isSome_bind_pure {α β : Type} {o : Option α} {f : α → β} :
    (o.bind fun a => some (f a)).isSome ↔ o.isSome := by
  cases o <;> simp

/-- The fields of a model, after its entries. -/
theorem isSome_readModel_bind {α : Type} {names : List String} {x : PyVal}
    {f : List (String × PyVal) → Option α} {P : List (String × PyVal) → Prop}
    (h : ∀ entries, (f entries).isSome ↔ P entries) :
    ((readModel names x).bind f).isSome ↔
      ∃ entries, x = .dict entries ∧ OnlyEntries names entries ∧ P entries := by
  simp only [← and_assoc, ← readModel_eq_some_iff, ← h]
  cases readModel names x <;> simp

section Models

variable {ext : ModelExternals} {x : PyVal}

theorem AttestationModel.isSome_read :
    (AttestationModel.read x).isSome ↔ ∃ entries, x = .dict entries ∧
      OnlyEntries AttestationModel.fieldNames entries ∧
      (readField entries "format" (readMember AttestationFormat)).isSome ∧
      (readField entries "value" PyVal.str?).isSome ∧
      (readFieldOr entries "issuer" none (readOptional readUri)).isSome :=
  isSome_readModel_bind fun _ => isSome_bind_iff fun _ => isSome_bind_iff fun _ => isSome_bind_pure

theorem StatePermission.isSome_read :
    (StatePermission.read x).isSome ↔ ∃ entries, x = .dict entries ∧
      OnlyEntries StatePermission.fieldNames entries ∧
      (readField entries "namespace" PyVal.str?).isSome ∧
      (readField entries "access_mode" (readMember AccessMode)).isSome ∧
      (readFieldOr entries "taint_policy" .clean (readMember TaintPolicy)).isSome :=
  isSome_readModel_bind fun _ => isSome_bind_iff fun _ => isSome_bind_iff fun _ => isSome_bind_pure

theorem ToolAuthority.isSome_read :
    (ToolAuthority.read ext x).isSome ↔ ∃ entries, x = .dict entries ∧
      OnlyEntries ToolAuthority.fieldNames entries ∧
      (readField entries "tool_uri" readUri).isSome ∧
      (readField entries "scope" PyVal.str?).isSome ∧
      (readField entries "max_depth" fun x => (ext.readInt x).bind readMaxDepth).isSome :=
  isSome_readModel_bind fun _ => isSome_bind_iff fun _ => isSome_bind_iff fun _ => isSome_bind_pure

theorem GCO.isSome_read :
    (GCO.read ext x).isSome ↔ ∃ entries, x = .dict entries ∧
      OnlyEntries GCO.fieldNames entries ∧
      (readField entries "gco_version" PyVal.str?).isSome ∧
      (readField entries "trace_id" ext.readUuid).isSome ∧
      (readField entries "span_id" ext.readUuid).isSome ∧
      (readField entries "parent_span_id" (readOptional ext.readUuid)).isSome ∧
      (readField entries "policy_id" PyVal.str?).isSome ∧
      (readField entries "model_identity" readUri).isSome ∧
      (readField entries "intervention_version" PyVal.str?).isSome ∧
      (readFieldOr entries "tool_authority" [] (readList (ToolAuthority.read ext))).isSome ∧
      (readFieldOr entries "state_access_permissions" [] (readList StatePermission.read)).isSome ∧
      (readField entries "expires_at" fun x => (ext.readDatetime x).bind expiresAtUtc).isSome ∧
      (readFieldOr entries "lineage" [] (readList PyVal.str?)).isSome ∧
      (readField entries "attestation" (readOptional AttestationModel.read)).isSome :=
  isSome_readModel_bind fun _ => isSome_bind_iff fun _ => isSome_bind_iff fun _ =>
    isSome_bind_iff fun _ => isSome_bind_iff fun _ => isSome_bind_iff fun _ =>
    isSome_bind_iff fun _ => isSome_bind_iff fun _ => isSome_bind_iff fun _ =>
    isSome_bind_iff fun _ => isSome_bind_iff fun _ => isSome_bind_iff fun _ => isSome_bind_pure

/-! ### Agreement -/

theorem statePermission_accepts {check : FormatCheck} :
    statePermissionSchema.accepts check x = true ↔ (StatePermission.read x).isSome := by
  have hmodes : ["read", "write", "append", "none"].Perm
      ((StrEnum.members : List AccessMode).map StrEnum.value) := by decide
  have htaints : ["clean", "sanitized", "tainted", "isolated"].Perm
      ((StrEnum.members : List TaintPolicy).map StrEnum.value) := by decide
  have hnamespace : ∀ v, (type [.string]).accepts check v = true ↔ v.str?.isSome :=
    fun _ => string_accepts
  rw [statePermissionSchema, object_accepts, StatePermission.isSome_read]
  refine exists_congr fun entries => and_congr_right fun _ => and_congr Iff.rfl ?_
  rw [← entry_iff_readField hnamespace, ← entry_iff_readField fun _ => enum_accepts_iff hmodes,
    ← optionalEntry_iff_readFieldOr fun _ => enum_accepts_iff htaints]
  simp only [List.forall_mem_cons, entry_iff]
  tauto

theorem isSome_readOptional {α : Type} {read : PyVal → Option α} :
    (readOptional read x).isSome ↔ x = .none ∨ (read x).isSome := by
  cases x with
  | none => simp [readOptional]
  | _ => simp [readOptional]

theorem attestation_accepts :
    attestationSchema.accepts (modelFormats ext) x = true ↔
      (readOptional AttestationModel.read x).isSome := by
  have hformats : ["jwt-svid", "x509-svid", "raw-jws", "tpm-quote"].Perm
      ((StrEnum.members : List AttestationFormat).map StrEnum.value) := by decide
  have hformat : ∀ v, (enum ["jwt-svid", "x509-svid", "raw-jws", "tpm-quote"]).accepts
      (modelFormats ext) v = true ↔ (readMember AttestationFormat v).isSome :=
    fun _ => enum_accepts_iff hformats
  have hvalue : ∀ v, (type [.string]).accepts (modelFormats ext) v = true ↔ v.str?.isSome :=
    fun _ => string_accepts
  have hissuer : ∀ v, (allOf [type [.string, .null], format "uri"]).accepts (modelFormats ext) v =
      true ↔ (readOptional readUri v).isSome := fun _ => optional_uri_accepts
  rw [attestationSchema, object_null_accepts, isSome_readOptional]
  refine or_congr_right ?_
  rw [object_accepts, AttestationModel.isSome_read]
  refine exists_congr fun entries => and_congr_right fun _ => and_congr Iff.rfl ?_
  rw [← entry_iff_readField hformat, ← entry_iff_readField hvalue,
    ← optionalEntry_iff_readFieldOr hissuer]
  simp only [List.forall_mem_cons, entry_iff]
  tauto

theorem depthEntry_iff (hint : ∀ n, ext.readInt (.int n) = some n)
    {entries : List (String × PyVal)} :
    (Entry (modelFormats ext) entries "max_depth" (allOf [type [.integer], minimum 0]) ∧
        ¬∃ q, entries.lookup "max_depth" = some (.float q)) ↔
      (readField entries "max_depth" fun x => (ext.readInt x).bind readMaxDepth).isSome ∧
        ∃ n, entries.lookup "max_depth" = some (.int n) := by
  unfold Entry readField
  cases entries.lookup "max_depth" with
  | none => simp
  | some v =>
    have hdepth := depth_accepts (x := v) hint
    simpa using hdepth

/-- The depth of a tool is written with a fraction or an exponent. -/
def FloatDepth (tool : PyVal) : Prop :=
  ∃ entries q, tool = .dict entries ∧ entries.lookup "max_depth" = some (.float q)

/-- It is written as an integer. -/
def IntDepth (tool : PyVal) : Prop :=
  ∃ entries n, tool = .dict entries ∧ entries.lookup "max_depth" = some (.int n)

theorem toolAuthority_accepts (hint : ∀ n, ext.readInt (.int n) = some n) :
    (toolAuthoritySchema.accepts (modelFormats ext) x = true ∧ ¬FloatDepth x) ↔
      (ToolAuthority.read ext x).isSome ∧ IntDepth x := by
  rw [toolAuthoritySchema, object_accepts_all, ToolAuthority.isSome_read]
  on_goal 2 => rfl
  constructor
  · rintro ⟨⟨entries, rfl, hclosed, hentries⟩, hfloat⟩
    simp only [List.forall_mem_cons] at hentries
    obtain ⟨huri, hscope, hmax, -⟩ := hentries
    obtain ⟨hdepth, n, hn⟩ := (depthEntry_iff hint).1 ⟨hmax, fun ⟨q, hq⟩ =>
      hfloat ⟨entries, q, rfl, hq⟩⟩
    exact ⟨⟨entries, rfl, hclosed, (entry_iff_readField fun _ => uri_accepts).1 huri,
      (entry_iff_readField fun _ => string_accepts).1 hscope, hdepth⟩, entries, n, rfl, hn⟩
  · rintro ⟨⟨entries, rfl, hclosed, huri, hscope, hdepth⟩, _, n, ⟨⟩, hn⟩
    obtain ⟨hmax, hfloat⟩ := (depthEntry_iff hint).2 ⟨hdepth, n, hn⟩
    refine ⟨⟨entries, rfl, hclosed, ?_⟩, ?_⟩
    · simp only [List.forall_mem_cons]
      exact ⟨(entry_iff_readField fun _ => uri_accepts).2 huri,
        (entry_iff_readField fun _ => string_accepts).2 hscope, hmax, by simp⟩
    · rintro ⟨_, q, ⟨⟩, hq⟩
      exact hfloat ⟨q, hq⟩

theorem toolsEntry_iff (hint : ∀ n, ext.readInt (.int n) = some n)
    {entries : List (String × PyVal)} :
    (Entry (modelFormats ext) entries "tool_authority"
          (allOf [type [.array], items toolAuthoritySchema]) ∧
        ¬∃ tools, entries.lookup "tool_authority" = some (.list tools) ∧
          ∃ tool ∈ tools, FloatDepth tool) ↔
      (readFieldOr entries "tool_authority" [] (readList (ToolAuthority.read ext))).isSome ∧
        (entries.lookup "tool_authority").isSome ∧
        ∀ tools, entries.lookup "tool_authority" = some (.list tools) →
          ∀ tool ∈ tools, IntDepth tool := by
  unfold Entry readFieldOr
  cases entries.lookup "tool_authority" with
  | none => simp
  | some v =>
    cases v with
    | list tools =>
      have hagree := forall₂_congr fun tool (_ : tool ∈ tools) =>
        toolAuthority_accepts (x := tool) hint
      simp only [forall_and] at hagree
      simpa [isSome_readList] using hagree
    | _ => simp [readList]

end Models

/-- The payload spells an object out: its lists are there, its ids and its expiry are texts, and
its depths are integers. -/
structure Spells (entries : List (String × PyVal)) : Prop where
  lists : ∀ name ∈ ["tool_authority", "state_access_permissions", "lineage"],
    (entries.lookup name).isSome
  texts : ∀ name ∈ ["trace_id", "span_id", "expires_at"],
    ∃ v, entries.lookup name = some v ∧ ∃ s, v = .str s
  parentSpanId : ∃ v, entries.lookup "parent_span_id" = some v ∧ (v = .none ∨ ∃ s, v = .str s)
  depths : ∀ tools, entries.lookup "tool_authority" = some (.list tools) →
    ∀ tool ∈ tools, IntDepth tool

/-- A tool of the payload has a depth that is a float. -/
def HasFloatDepth (x : PyVal) : Prop :=
  ∃ entries tools, x = .dict entries ∧ entries.lookup "tool_authority" = some (.list tools) ∧
    ∃ tool ∈ tools, FloatDepth tool

section Agreement

variable {ext : ModelExternals} {x : PyVal}

theorem gco_accepts_iff (hint : ∀ n, ext.readInt (.int n) = some n) :
    (gcoSchema.accepts (modelFormats ext) x = true ∧ ¬HasFloatDepth x) ↔
      (GCO.read ext x).isSome ∧ ∃ entries, x = .dict entries ∧ Spells entries := by
  rw [gcoSchema, object_accepts_all, GCO.isSome_read]
  on_goal 2 => rfl
  constructor
  · rintro ⟨⟨entries, rfl, hclosed, hentries⟩, hfloat⟩
    simp only [List.forall_mem_cons] at hentries
    obtain ⟨hversion, htrace, hspan, hparent, hpolicy, hidentity, hintervention, htools,
      hpermissions, hexpires, hlineage, hattestation, -⟩ := hentries
    obtain ⟨htools, htoolsThere, hdepths⟩ := (toolsEntry_iff hint).1 ⟨htools,
      fun ⟨tools, htools, hany⟩ => hfloat ⟨entries, tools, rfl, htools, hany⟩⟩
    obtain ⟨hpermissions, hpermissionsThere⟩ :=
      (entry_iff_readFieldOr fun _ => list_accepts fun _ => statePermission_accepts).1 hpermissions
    obtain ⟨hlineage, hlineageThere⟩ :=
      (entry_iff_readFieldOr fun _ => list_accepts fun _ => string_accepts).1 hlineage
    obtain ⟨htrace, htraceText⟩ := (entry_iff_readField_spelled fun _ => uuid_accepts).1 htrace
    obtain ⟨hspan, hspanText⟩ := (entry_iff_readField_spelled fun _ => uuid_accepts).1 hspan
    obtain ⟨hparent, hparentText⟩ :=
      (entry_iff_readField_spelled fun _ => optional_uuid_accepts).1 hparent
    obtain ⟨hexpires, hexpiresText⟩ :=
      (entry_iff_readField_spelled fun _ => datetime_accepts).1 hexpires
    refine ⟨⟨entries, rfl, hclosed, (entry_iff_readField fun _ => string_accepts).1 hversion,
      htrace, hspan, hparent, (entry_iff_readField fun _ => string_accepts).1 hpolicy,
      (entry_iff_readField fun _ => uri_accepts).1 hidentity,
      (entry_iff_readField fun _ => string_accepts).1 hintervention, htools, hpermissions,
      hexpires, hlineage, (entry_iff_readField fun _ => attestation_accepts).1 hattestation⟩,
      entries, rfl, ?_, ?_, hparentText, hdepths⟩
    · simp only [List.forall_mem_cons]
      exact ⟨htoolsThere, hpermissionsThere, hlineageThere, by simp⟩
    · simp only [List.forall_mem_cons]
      exact ⟨htraceText, hspanText, hexpiresText, by simp⟩
  · rintro ⟨⟨entries, rfl, hclosed, hversion, htrace, hspan, hparent, hpolicy, hidentity,
      hintervention, htools, hpermissions, hexpires, hlineage, hattestation⟩, _, ⟨⟩, hspells⟩
    have hlists := hspells.lists
    have htexts := hspells.texts
    simp only [List.forall_mem_cons] at hlists htexts
    obtain ⟨htoolsThere, hpermissionsThere, hlineageThere, -⟩ := hlists
    obtain ⟨htraceText, hspanText, hexpiresText, -⟩ := htexts
    obtain ⟨htools, hfloat⟩ := (toolsEntry_iff hint).2 ⟨htools, htoolsThere, hspells.depths⟩
    refine ⟨⟨entries, rfl, hclosed, ?_⟩, ?_⟩
    · simp only [List.forall_mem_cons]
      exact ⟨(entry_iff_readField fun _ => string_accepts).2 hversion,
        (entry_iff_readField_spelled fun _ => uuid_accepts).2 ⟨htrace, htraceText⟩,
        (entry_iff_readField_spelled fun _ => uuid_accepts).2 ⟨hspan, hspanText⟩,
        (entry_iff_readField_spelled fun _ => optional_uuid_accepts).2
          ⟨hparent, hspells.parentSpanId⟩,
        (entry_iff_readField fun _ => string_accepts).2 hpolicy,
        (entry_iff_readField fun _ => uri_accepts).2 hidentity,
        (entry_iff_readField fun _ => string_accepts).2 hintervention, htools,
        (entry_iff_readFieldOr fun _ => list_accepts fun _ => statePermission_accepts).2
          ⟨hpermissions, hpermissionsThere⟩,
        (entry_iff_readField_spelled fun _ => datetime_accepts).2 ⟨hexpires, hexpiresText⟩,
        (entry_iff_readFieldOr fun _ => list_accepts fun _ => string_accepts).2
          ⟨hlineage, hlineageThere⟩,
        (entry_iff_readField fun _ => attestation_accepts).2 hattestation, by simp⟩
    · rintro ⟨_, tools, ⟨⟩, htools, hany⟩
      exact hfloat ⟨tools, htools, hany⟩

/-- The dump of an object spells it out. -/
theorem GCO.spells_items (env : Externals) (g : GCO) : Spells (g.items env) where
  lists := by
    simp only [List.forall_mem_cons]
    exact ⟨rfl, rfl, rfl, by simp⟩
  texts := by
    simp only [List.forall_mem_cons]
    exact ⟨⟨_, rfl, _, rfl⟩, ⟨_, rfl, _, rfl⟩, ⟨_, rfl, _, rfl⟩, by simp⟩
  parentSpanId := by
    refine ⟨dumpOption (fun u => .str (env.dumpUuid u)) g.parentSpanId, rfl, ?_⟩
    cases g.parentSpanId with
    | none => exact .inl rfl
    | some u => exact .inr ⟨_, rfl⟩
  depths := by
    intro tools htools tool htool
    have hlookup : (g.items env).lookup "tool_authority" =
        some (.list (g.toolAuthority.map fun t => .dict t.items)) := rfl
    rw [hlookup, Option.some.injEq, PyVal.list.injEq] at htools
    rw [← htools, List.mem_map] at htool
    obtain ⟨t, -, rfl⟩ := htool
    exact ⟨t.items, t.maxDepth, rfl, rfl⟩

end Agreement

/-- The schema and the models agree. With the formats checked as the models read them, a payload
whose depths are no floats is accepted by the schema exactly if the models read it as an object and
it spells the object out. -/
theorem schema_accepts_iff (ext : ModelExternals) (hint : ∀ n, ext.readInt (.int n) = some n)
    (x : PyVal) :
    (gcoSchema.accepts (modelFormats ext) x = true ∧ ¬HasFloatDepth x) ↔
      (∃ g, GCO.read ext x = some g) ∧ ∃ entries, x = .dict entries ∧ Spells entries := by
  rw [← Option.isSome_iff_exists]
  exact gco_accepts_iff hint

/-- The schema accepts what is written of an object, whatever payload the object was read from,
spelled out or not: in any style of the JSON text, and with any check of formats that lets pass
what the models read. And it is read as the object again. There is such a text exactly if no depth
is beyond the digit limit. -/
theorem read_payload_conforms (ext : ModelExternals) (hext : ext.ReadsBack) (x : PyVal) (g : GCO)
    (h : GCO.read ext x = some g) (check : FormatCheck) (hcheck : Stricter (modelFormats ext) check)
    (st : Json.Style) :
    (∀ text, Json.dumps ext.floatFormat st (g.modelDump ext.toExternals) = some text →
      ∃ y, Json.loads ext.floatFormat text = some y ∧ gcoSchema.accepts check y = true ∧
        GCO.read ext y = some g) ∧
      ((∃ text, Json.dumps ext.floatFormat st (g.modelDump ext.toExternals) = some text) ↔
        g.Serializable) := by
  have hread : GCO.read ext (g.modelDump ext.toExternals) = some g :=
    GCO.read_modelDump hext (GCO.typed_of_read h)
  obtain ⟨haccepts, -⟩ := (gco_accepts_iff hext.int).2
    ⟨Option.isSome_iff_exists.2 ⟨g, hread⟩, g.items ext.toExternals, rfl, g.spells_items _⟩
  rw [Json.dumps]
  by_cases hfits : g.Serializable
  · rw [if_pos (serializable_modelDump.2 hfits)]
    refine ⟨?_, iff_of_true ⟨_, rfl⟩ hfits⟩
    intro text htext
    cases htext
    exact ⟨_, Json.loads_emit (readable_modelDump hfits), gcoSchema.mono hcheck haccepts, hread⟩
  · rw [if_neg fun h => hfits (serializable_modelDump.1 h)]
    exact ⟨by rintro _ ⟨⟩, iff_of_false (by rintro ⟨_, ⟨⟩⟩) hfits⟩

/-! ### A payload that leaves out its lineage -/

/-- `demoRoot`, without the list that is empty. -/
def briefPayload : PyVal :=
  .dict ((demoRoot.items demoExternals).filter fun item => item.1 ≠ "lineage")

theorem read_briefPayload : GCO.read GcoMcp.demoModelExternals briefPayload = some demoRoot := by
  decide +kernel

/-- It is read, and not accepted by the schema. -/
theorem schema_accepts_iff_demo :
    (∃ g, GCO.read GcoMcp.demoModelExternals briefPayload = some g) ∧
      ¬(gcoSchema.accepts (modelFormats GcoMcp.demoModelExternals) briefPayload = true ∧
        ¬HasFloatDepth briefPayload) := by
  refine ⟨⟨demoRoot, read_briefPayload⟩, fun h => ?_⟩
  obtain ⟨-, entries, hentries, hspells⟩ := (schema_accepts_iff GcoMcp.demoModelExternals
    GcoMcp.demoModelExternals_readsBack.int briefPayload).1 h
  cases hentries
  have hlineage := hspells.lists "lineage" (by simp)
  cases hlineage

/-- Written again, it is accepted. -/
theorem read_payload_conforms_demo :
    ∃ text y, Json.dumps demoExternals.floatFormat ⟨true, true⟩ (demoRoot.modelDump demoExternals) =
        some text ∧
      Json.loads demoExternals.floatFormat text = some y ∧
      gcoSchema.accepts anyFormat y = true := by
  obtain ⟨hconforms, hwritten⟩ := read_payload_conforms GcoMcp.demoModelExternals
    GcoMcp.demoModelExternals_readsBack briefPayload demoRoot read_briefPayload anyFormat
    (stricter_anyFormat _) ⟨true, true⟩
  obtain ⟨text, htext⟩ := hwritten.2 serializable_demoRoot
  obtain ⟨y, hy, haccepts, -⟩ := hconforms text htext
  exact ⟨text, y, htext, hy, haccepts⟩

end Gco
