import GcoSpec.Gco.CliDerive
import GcoSpec.Gco.Decisions

/-!
# What the commands on objects print

* `inspect_determines_hash`: what `gco inspect --json` prints determines the canonical hash.
* `check_json_reports`: with `--json` each command prints, on any files, one object, whose `ok` is
  whether it exits with 0.
-/

namespace Gco

open Python Python.Json GcoMcp

variable {P Key Cert Store V Ω PrivateKey : Type}

/-! ### Inspection -/

section Inspection

variable {env : Externals} {F : FloatFormat}

theorem toolLine_returns_iff {t : ToolAuthority} :
    (∃ line, toolLine t = .ok line) ↔ IntFits t.maxDepth := by
  rw [← formatInt_returns_iff]
  unfold toolLine
  simp only [except_bind_eq_ok_iff]
  constructor
  · rintro ⟨-, text, htext, -⟩
    exact ⟨text, htext⟩
  · rintro ⟨text, htext⟩
    exact ⟨_, text, htext, rfl⟩

/-- The text of an object is made when its integers have texts. -/
theorem formatInspection_returns_iff {g : GCO} : (∃ human, formatInspection env g = .ok human) ↔
    g.Serializable ∧ IntFits g.lineage.length := by
  have htools : (∃ lines, g.toolAuthority.mapM toolLine = .ok lines) ↔ g.Serializable := by
    rw [mapM_returns_iff]
    exact forall₂_congr fun t _ => toolLine_returns_iff
  rw [← htools, ← formatInt_returns_iff]
  unfold formatInspection
  simp only [except_bind_eq_ok_iff]
  constructor
  · rintro ⟨-, lines, hlines, text, htext, -⟩
    exact ⟨⟨lines, hlines⟩, text, htext⟩
  · rintro ⟨⟨lines, hlines⟩, text, htext⟩
    exact ⟨_, lines, hlines, text, htext, rfl⟩

theorem of_inspectOutput_eq_ok {g : GCO} {asJson : Bool} {output : CliOutput}
    (h : inspectOutput env g asJson = .ok output) : g.Serializable ∧
      ∃ human, output = emitSuccess env.floatFormat (inspectionPayload env g) asJson human := by
  obtain ⟨human, hhuman, hpure⟩ := except_bind_eq_ok_iff.1 h
  cases hpure
  exact ⟨(formatInspection_returns_iff.1 ⟨human, hhuman⟩).1, human, rfl⟩

theorem inspectOutput_json {g : GCO} (hfits : g.Serializable)
    (hlineage : IntFits g.lineage.length) : inspectOutput env g true =
      .ok (emitSuccess env.floatFormat (inspectionPayload env g) true "") := by
  obtain ⟨human, hhuman⟩ := formatInspection_returns_iff.2 ⟨hfits, hlineage⟩
  rw [inspectOutput, hhuman]
  rfl

theorem status_inspectOutput {g : GCO} {asJson : Bool} {exc : CliExc}
    (h : inspectOutput env g asJson = .error exc) : exc.status = 1 := by
  have hline : ∀ t, ErrorsOnly (toolLine t) fun exc => exc.status = 1 :=
    fun t => (errorsOnly_formatInt _).bind fun _ => .ok _
  have hformat : ErrorsOnly (formatInspection env g) fun exc => exc.status = 1 :=
    (ErrorsOnly.mapM hline _).bind fun _ => (errorsOnly_formatInt _).bind fun _ => .ok _
  exact hformat.bind (fun _ => .ok _) exc h

theorem plain_toolAuthority {t : ToolAuthority} (ht : IntFits t.maxDepth) :
    Plain (.dict t.items) := by
  refine plain_dict t.nodup_items ?_
  simp [ToolAuthority.items, Plain, ht]

theorem plain_statePermission (p : StatePermission) : Plain (.dict p.items) := by
  refine plain_dict p.nodup_items ?_
  simp [StatePermission.items, Plain]

theorem plain_optional {α : Type} (dump : α → PyVal) (h : ∀ a, Plain (dump a)) (a : Option α) :
    Plain (dumpOption dump a) := by
  cases a with
  | none => trivial
  | some a => exact h a

theorem plain_attestation (a : AttestationModel) : Plain (.dict a.items) := by
  have hissuer := plain_optional (fun issuer : Uri => .str issuer.text) (fun _ => trivial)
    a.issuer
  refine plain_dict a.nodup_items ?_
  simp [AttestationModel.items, Plain, hissuer]

/-- The `identity` of the payload. -/
def identityItems (env : Externals) (g : GCO) : List (String × PyVal) :=
  [("gco_version", .str g.gcoVersion),
   ("trace_id", .str (env.dumpUuid g.traceId)),
   ("span_id", .str (env.dumpUuid g.spanId)),
   ("parent_span_id", dumpOption (fun span => .str (env.dumpUuid span)) g.parentSpanId),
   ("policy_id", .str g.policyId),
   ("model_identity", .str g.modelIdentity.text),
   ("intervention_version", .str g.interventionVersion)]

theorem nodup_identityItems (g : GCO) : ((identityItems env g).map Prod.fst).Nodup :=
  show ["gco_version", "trace_id", "span_id", "parent_span_id", "policy_id", "model_identity",
    "intervention_version"].Nodup by decide

theorem plain_inspectionPayload {g : GCO} (hg : g.Serializable) :
    ∀ kv ∈ inspectionPayload env g, Plain kv.2 := by
  have hidentity : Plain (.dict (identityItems env g)) := by
    have hparent := plain_optional (fun span => .str (env.dumpUuid span))
      (fun _ => trivial) g.parentSpanId
    refine plain_dict (nodup_identityItems g) ?_
    simp [identityItems, Plain, hparent]
  have htools : Plain (.list (g.toolAuthority.map fun t => .dict t.items)) :=
    plain_list (List.forall_mem_map.2 fun t ht => plain_toolAuthority (hg t ht))
  have hpermissions : Plain (.list (g.stateAccessPermissions.map fun p => .dict p.items)) :=
    plain_list (List.forall_mem_map.2 fun p _ => plain_statePermission p)
  have hstrings : ∀ xs : List String, Plain (.list (xs.map .str)) := fun xs =>
    plain_list (List.forall_mem_map.2 fun _ _ => trivial)
  have hformat := plain_optional (fun a : AttestationModel => .str (StrEnum.value a.format))
    (fun _ => trivial) g.attestation
  simp only [inspectionPayload, List.forall_mem_cons]
  exact ⟨hidentity, htools, hpermissions, hstrings _, hstrings _, trivial, hformat,
    List.forall_mem_nil _⟩

theorem nodup_inspection (env : Externals) (g : GCO) :
    ((("ok", PyVal.bool true) :: inspectionPayload env g).map Prod.fst).Nodup :=
  show ["ok", "identity", "tool_authority", "state_access_permissions", "taint_policy", "lineage",
    "expires_at", "attestation_format"].Nodup by decide

/-- What is printed determines every field but the attestation. -/
theorem bare_eq_of_inspectOutput_eq (hdumpUuid : Function.Injective env.dumpUuid) {g g' : GCO}
    {output : CliOutput} (hg : inspectOutput env g true = .ok output)
    (hg' : inspectOutput env g' true = .ok output) : g.bare = g'.bare := by
  obtain ⟨hfits, human, houtput⟩ := of_inspectOutput_eq_ok hg
  obtain ⟨hfits', human', houtput'⟩ := of_inspectOutput_eq_ok hg'
  have h := congrArg CliOutput.stdout (houtput.symm.trans houtput')
  have hreadable : ∀ {g : GCO}, g.Serializable → Readable env.floatFormat
      (.dict (("ok", .bool true) :: inspectionPayload env g)) := fun hg =>
    readable_of_plain (plain_dict (nodup_inspection env _)
      (List.forall_mem_cons.2 ⟨trivial, plain_inspectionPayload hg⟩))
  have hsorted : sortKeys (.dict (("ok", .bool true) :: inspectionPayload env g)) =
      sortKeys (.dict (("ok", .bool true) :: inspectionPayload env g')) := by
    have hline : jsonText env.floatFormat (("ok", .bool true) :: inspectionPayload env g) ++ "\n" =
        jsonText env.floatFormat (("ok", .bool true) :: inspectionPayload env g') ++ "\n" := h
    rw [← String.toList_inj, String.toList_append, String.toList_append,
      List.append_cancel_right_eq, String.toList_inj] at hline
    have hemit := String.ofList_injective hline
    rw [Dict.items_ofPairs (nodup_inspection env g),
      Dict.items_ofPairs (nodup_inspection env g')] at hemit
    exact sortKeys_eq_of_emit_eq (hreadable hfits) (hreadable hfits') hemit
  have hk := lookup_of_sortKeys_eq (nodup_inspection env g) (nodup_inspection env g') hsorted
  have hidentity : sortKeys (.dict (identityItems env g)) =
      sortKeys (.dict (identityItems env g')) := Option.some.inj (hk "identity")
  have hi := lookup_of_sortKeys_eq (nodup_identityItems g) (nodup_identityItems g') hidentity
  have hversion : g.gcoVersion = g'.gcoVersion := str_of_map_sortKeys (hi "gco_version")
  have htrace := hdumpUuid (str_of_map_sortKeys (hi "trace_id"))
  have hspan := hdumpUuid (str_of_map_sortKeys (hi "span_id"))
  have hpolicy : g.policyId = g'.policyId := str_of_map_sortKeys (hi "policy_id")
  have hmodel := Uri.ext (str_of_map_sortKeys (hi "model_identity"))
  have hintervention : g.interventionVersion = g'.interventionVersion :=
    str_of_map_sortKeys (hi "intervention_version")
  have hparent : g.parentSpanId = g'.parentSpanId :=
    dumpOption_injective (fun a b hab => hdumpUuid (by simpa [sortKeys] using hab))
      (by simp [sortKeys]) (Option.some.inj (hi "parent_span_id"))
  have hexpires : g.expiresAt = g'.expiresAt := by
    have htext : g.expiresAt.isoformat = g'.expiresAt.isoformat :=
      str_of_map_sortKeys (hk "expires_at")
    exact DateTime.isoBody_injective (List.append_cancel_right (String.ofList_injective htext))
  have htools : g.toolAuthority = g'.toolAuthority :=
    list_injective ToolAuthority.items_injective (Option.some.inj (hk "tool_authority"))
  have hpermissions : g.stateAccessPermissions = g'.stateAccessPermissions :=
    list_injective StatePermission.items_injective (Option.some.inj (hk "state_access_permissions"))
  have hlineage : g.lineage = g'.lineage :=
    list_injective (fun a b hab => by simpa [sortKeys] using hab) (Option.some.inj (hk "lineage"))
  simp only [GCO.bare, GCO.mk.injEq]
  exact ⟨hversion, htrace, hspan, hparent, hpolicy, hmodel, hintervention, htools, hpermissions,
    hexpires, hlineage, trivial⟩

end Inspection

/-- Two files that `gco inspect --json` prints alike hold objects with the same canonical hash: they
differ in the attestation at most. -/
theorem inspect_determines_hash (ext : CheckExternals P Key Cert Store)
    (hdumpUuid : Function.Injective ext.dumpUuid) (process : Config Key Cert Store V Ω)
    (now now' : DateTime) (files files' : P → Option String) (path path' : String)
    (output : CliOutput) (w w' : World V Ω)
    (h : (CheckCommand.inspect path).run ext process now true files w = .ok output w)
    (h' : (CheckCommand.inspect path').run ext process now' true files' w' = .ok output w')
    (hzero : output.exitStatus = 0) :
    ∃ g g', loadGco ext path files = .ok g ∧ loadGco ext path' files' = .ok g' ∧
      g.bare = g'.bare ∧
      canonicalGcoHash ext.toExternals g = canonicalGcoHash ext.toExternals g' := by
  have hload : ∀ {path files now} {w : World V Ω},
      (CheckCommand.inspect path).run ext process now true files w = .ok output w →
        ∃ g, loadGco ext path files = .ok g ∧
          inspectOutput ext.toExternals g true = .ok output := by
    intro path files now w h
    have houtput : EStateM.Result.ok
        (mainOutput ext.floatFormat true (cmdInspect ext path true files)) w =
          EStateM.Result.ok output w := h
    cases houtput
    unfold cmdInspect at hzero ⊢
    cases hg : loadGco ext path files with
    | error exc =>
      rw [hg] at hzero
      have hone : (mainOutput ext.floatFormat true (.error exc)).exitStatus = 1 :=
        exitStatus_mainOutput_error.trans (status_loadGco hg)
      exact absurd (hzero.symm.trans hone) zero_ne_one
    | ok g =>
      refine ⟨g, rfl, ?_⟩
      rw [hg] at hzero
      change (mainOutput ext.floatFormat true
        (inspectOutput ext.toExternals g true)).exitStatus = 0 at hzero
      show inspectOutput ext.toExternals g true =
        .ok (mainOutput ext.floatFormat true (inspectOutput ext.toExternals g true))
      cases houtput : inspectOutput ext.toExternals g true with
      | error exc =>
        rw [houtput] at hzero
        have hone : (mainOutput ext.floatFormat true (.error exc)).exitStatus = 1 :=
          exitStatus_mainOutput_error.trans (status_inspectOutput houtput)
        exact absurd (hzero.symm.trans hone) zero_ne_one
      | ok output => rfl
  obtain ⟨g, hg, houtput⟩ := hload h
  obtain ⟨g', hg', houtput'⟩ := hload h'
  have hbare := bare_eq_of_inspectOutput_eq hdumpUuid houtput houtput'
  refine ⟨g, g', hg, hg', hbare, ?_⟩
  rw [← canonicalGcoHash_bare, hbare, canonicalGcoHash_bare]

/-- The child of the directory, and what else might be shown for it. -/
def otherPreview : GCO :=
  { demoPreview none with attestation := some (previewAttestation "another identity") }

def demoOtherFiles (path : String) : Option String :=
  if path = "child.json" then some (jsonFile (otherPreview.modelDump demoExternals)) else none

theorem typed_demoPreview : (demoPreview none).Typed :=
  typed_of_narrows narrows_demoPreview

theorem loadGco_otherPreview :
    loadGco demoCheck "child.json" demoOtherFiles = .ok otherPreview :=
  loadGco_eq_ok_iff.2 ⟨_, loadJson_jsonFile rfl
    (readable_modelDump (g := otherPreview) narrows_demoPreview.serializable_child),
    GCO.read_modelDump demoModelExternals_readsBack typed_demoPreview⟩

theorem inspect_determines_hash_demo : ∃ g g',
    loadGco demoCheck "child.json" demoChildFiles = .ok g ∧
      loadGco demoCheck "child.json" demoOtherFiles = .ok g' ∧
      canonicalGcoHash demoExternals g = canonicalGcoHash demoExternals g' := by
  have hload : loadGco demoCheck "child.json" demoChildFiles = .ok (demoPreview none) :=
    loadGco_of_savesChild demoModelExternals_readsBack typed_demoPreview
      narrows_demoPreview.serializable_child
      (savesChild_savedTo true narrows_demoPreview.serializable_child _ _)
  let output := emitSuccess demoExternals.floatFormat
    (inspectionPayload demoExternals (demoPreview none)) true ""
  have hrun : ∀ {files g}, loadGco demoCheck "child.json" files = .ok g →
      inspectOutput demoExternals g true = .ok output →
      (CheckCommand.inspect "child.json").run demoCheck signingProcess demoNow true files
        (demoWorld .empty) = .ok output (demoWorld .empty) := by
    intro files g hg houtput
    have hcmd : cmdInspect demoCheck "child.json" true files = .ok output := by
      rw [cmdInspect, hg]
      exact houtput
    rw [CheckCommand.run, CheckCommand.call, hcmd]
    rfl
  have hfits : IntFits (demoPreview none).lineage.length := by decide
  have houtput : inspectOutput demoExternals (demoPreview none) true = .ok output :=
    inspectOutput_json narrows_demoPreview.serializable_child hfits
  have hother : inspectOutput demoExternals otherPreview true = .ok output :=
    inspectOutput_json (g := otherPreview) narrows_demoPreview.serializable_child hfits
  obtain ⟨g, g', hg, hg', -, hhash⟩ := inspect_determines_hash demoCheck
    demoExternals_injective.dumpUuid signingProcess demoNow demoNow demoChildFiles demoOtherFiles
    "child.json" "child.json" output (demoWorld .empty) (demoWorld .empty) (hrun hload houtput)
    (hrun loadGco_otherPreview hother) rfl
  exact ⟨g, g', hg, hg', hhash⟩

/-! ### Reports -/

section Reports

variable {ext : CheckExternals P Key Cert Store} {process : Config Key Cert Store V Ω}
  {files : P → Option String} {F : FloatFormat}

theorem reports_validateOutput (result : ValidationResult) :
    (validateOutput F result true).Reports F := by
  unfold validateOutput
  cases result.valid with
  | true =>
    rw [if_pos rfl]
    exact reports_emitSuccess (by simp [Plain]) (by decide : "ok" ∉ ["decision"])
  | false =>
    rw [if_neg Bool.false_ne_true]
    exact reports_emitFailure (List.forall_mem_nil _) List.not_mem_nil one_ne_zero

theorem reports_verifyReport (result : VerificationResult) :
    (verifyReport F result true).Reports F := by
  have hchecks : Plain (.dict (checksItems result)) := by
    refine plain_dict (by decide : ["signature", "identity", "digest", "expiry"].Nodup) ?_
    exact List.forall_mem_map.2 fun _ _ => trivial
  have hmessage := plain_optional .str (fun _ => trivial) result.message
  unfold verifyReport
  generalize PyVal.dict (checksItems result) = checks at hchecks
  cases result.verified with
  | true =>
    rw [if_pos rfl]
    refine reports_emitSuccess ?_ (by decide : "ok" ∉ ["verified", "checks"])
    simp [Plain, hchecks]
  | false =>
    rw [if_neg Bool.false_ne_true]
    refine reports_emitFailure ?_
      (by decide : "ok" ∉ ["verified", "checks", "error_code", "message"]) one_ne_zero
    simp [Plain, hchecks, hmessage]

theorem plain_modelDump (env : Externals) {g : GCO} (hg : g.Serializable) :
    Plain (g.modelDump env) := by
  have hparent := plain_optional (fun span => .str (env.dumpUuid span)) (fun _ => trivial)
    g.parentSpanId
  have htools : Plain (.list (g.toolAuthority.map fun t => .dict t.items)) :=
    plain_list (List.forall_mem_map.2 fun t ht => plain_toolAuthority (hg t ht))
  have hpermissions : Plain (.list (g.stateAccessPermissions.map fun p => .dict p.items)) :=
    plain_list (List.forall_mem_map.2 fun p _ => plain_statePermission p)
  have hlineage : Plain (.list (g.lineage.map .str)) :=
    plain_list (List.forall_mem_map.2 fun _ _ => trivial)
  have hattestation := plain_optional (fun a : AttestationModel => .dict a.items)
    plain_attestation g.attestation
  refine plain_dict (g.nodup_items env) ?_
  simp only [GCO.bareItems, List.cons_append, List.nil_append, List.forall_mem_cons]
  exact ⟨trivial, trivial, trivial, hparent, trivial, trivial, trivial, htools, hpermissions,
    trivial, hlineage, hattestation, List.forall_mem_nil _⟩

/-- What `main` prints of an exception with a status other than 0 is a report. -/
theorem reports_error {exc : CliExc} (hstatus : exc.status = 1) :
    (mainOutput F true (.error exc)).Reports F := by
  refine reports_mainOutput (by rintro _ ⟨⟩) ?_
  rintro _ ⟨⟩
  rw [hstatus]
  exact one_ne_zero

theorem reports_deriveOutput {env : Externals} (result : CommandResult) :
    (deriveOutput env result).Reports env.floatFormat := by
  cases result with
  | success previewOnly child =>
    rw [deriveOutput]
    by_cases hfits : serializable (child.modelDump env) = true
    · have hchild := plain_modelDump env (serializable_modelDump.1 hfits)
      rw [if_neg (not_not.2 hfits)]
      cases previewOnly with
      | false =>
        rw [if_neg Bool.false_ne_true]
        refine reports_emitSuccess ?_ (by decide : "ok" ∉ ["preview_only", "child"])
        simp [Plain, hchild]
      | true =>
        rw [if_pos rfl]
        refine reports_emitSuccess ?_ (by decide : "ok" ∉ ["preview_only", "warning", "child"])
        simp [Plain, hchild]
    · rw [if_pos hfits]
      exact reports_error rfl
  | failure code message =>
    exact reports_emitFailure (List.forall_mem_nil _) List.not_mem_nil one_ne_zero

theorem cmdValidate_cases {now : DateTime} {childPath parentPath : String} {asJson : Bool} :
    (∃ result, cmdValidate ext now childPath parentPath asJson files =
        .ok (validateOutput ext.floatFormat result asJson)) ∨
      ∃ exc, exc.status = 1 ∧
        cmdValidate ext now childPath parentPath asJson files = .error exc := by
  cases h : cmdValidate ext now childPath parentPath asJson files with
  | error exc =>
    refine .inr ⟨exc, ?_, rfl⟩
    rcases except_bind_raises_iff.1 h with hparent | ⟨parent, -, hrest⟩
    · exact status_loadJson hparent
    rcases except_bind_raises_iff.1 hrest with hchild | ⟨child, -, hmatch⟩
    · exact status_loadJson hchild
    · split at hmatch <;> cases hmatch
      rfl
  | ok output =>
    obtain ⟨parent, -, hrest⟩ := except_bind_eq_ok_iff.1 h
    obtain ⟨child, -, hmatch⟩ := except_bind_eq_ok_iff.1 hrest
    split at hmatch <;> cases hmatch
    exact .inl ⟨_, rfl⟩

theorem status_loadBundle {path : String} {exc : CliExc}
    (h : loadBundle ext path files = .error exc) : exc.status = 1 := by
  unfold loadBundle at h
  split at h <;> cases h <;> rfl

theorem cmdVerify_cases {now : DateTime} {path bundlePath : String} {asJson : Bool}
    {result : Except CliExc CliOutput} {w w' : World V Ω}
    (h : cmdVerify ext process now path bundlePath asJson files w = .ok result w') :
    (∃ r, result = .ok (verifyReport ext.floatFormat r asJson)) ∨
      ∃ exc, exc.status = 1 ∧ result = .error exc := by
  unfold cmdVerify at h
  cases hg : loadGco ext path files with
  | error exc =>
    rw [hg] at h
    cases h
    exact .inr ⟨exc, status_loadGco hg, rfl⟩
  | ok g =>
    cases hbundle : loadBundle ext bundlePath files with
    | error exc =>
      rw [hg, hbundle] at h
      cases h
      exact .inr ⟨exc, status_loadBundle hbundle, rfl⟩
    | ok bundle =>
      rw [hg, hbundle] at h
      obtain ⟨r, w₁, -, hpure⟩ := bind_eq_ok h
      cases hpure
      exact .inl ⟨r, rfl⟩

theorem status_loadDelegationRequest {ext : DeriveExternals P Key Cert Store PrivateKey}
    {path : String} {exc : CliExc} (h : loadDelegationRequest ext path files = .error exc) :
    exc.status = 1 := by
  rcases except_bind_raises_iff.1 h with hload | ⟨payload, -, hread⟩
  · exact status_loadJson hload
  · split at hread <;> cases hread
    rfl

theorem status_load {ext : DeriveExternals P Key Cert Store PrivateKey} {args : DeriveArgs}
    {exc : CliExc} (h : args.load ext files = .error exc) : exc.status = 1 := by
  rcases except_bind_raises_iff.1 h with hparent | ⟨parent, -, h⟩
  · exact status_loadGco hparent
  rcases except_bind_raises_iff.1 h with hrequest | ⟨request, -, h⟩
  · exact status_loadDelegationRequest hrequest
  rcases except_bind_raises_iff.1 h with hbundle | ⟨bundle, -, h⟩
  · exact status_loadBundle hbundle
  rcases except_bind_raises_iff.1 h with hauthority | ⟨authority, -, ⟨⟩⟩
  unfold DeriveArgs.loadAuthority at hauthority
  split at hauthority
  · unfold loadSigningAuthority at hauthority
    split at hauthority <;> cases hauthority
    rfl
  · cases hauthority

/-- What a command prints is a report. -/
theorem reports_run {command : CheckCommand} {now : DateTime} {output : CliOutput}
    {w w' : World V Ω} (h : command.run ext process now true files w = .ok output w') :
    output.Reports ext.floatFormat := by
  have hcall : ∀ {result : Except CliExc CliOutput} {w₁ : World V Ω},
      command.call ext process now true files w = .ok result w₁ →
        (mainOutput ext.floatFormat true result).Reports ext.floatFormat := by
    intro result w₁ hresult
    cases command with
    | validate child parent =>
      cases hresult
      rcases cmdValidate_cases with ⟨r, hr⟩ | ⟨exc, hstatus, hr⟩
      · rw [hr]
        exact reports_validateOutput r
      · rw [hr]
        exact reports_error hstatus
    | verify gco trustBundle =>
      rcases cmdVerify_cases hresult with ⟨r, rfl⟩ | ⟨exc, hstatus, rfl⟩
      · exact reports_verifyReport r
      · exact reports_error hstatus
    | inspect gco =>
      cases hresult
      unfold cmdInspect
      cases hg : loadGco ext gco files with
      | error exc => exact reports_error (status_loadGco hg)
      | ok g =>
        show (mainOutput ext.floatFormat true
          (inspectOutput ext.toExternals g true)).Reports ext.floatFormat
        cases houtput : inspectOutput ext.toExternals g true with
        | error exc => exact reports_error (status_inspectOutput houtput)
        | ok output =>
          obtain ⟨hfits, human, rfl⟩ := of_inspectOutput_eq_ok houtput
          refine reports_emitSuccess (plain_inspectionPayload hfits) ?_
          exact (List.nodup_cons.1 (nodup_inspection ext.toExternals g)).1
  rcases attempt_eq_ok h with hbody | ⟨e, -, he⟩
  · obtain ⟨result, w₁, hresult, hpure⟩ := bind_eq_ok hbody
    cases hpure
    exact hcall hresult
  · obtain ⟨text, -, hpure⟩ := except_bind_eq_ok_iff.1 he
    cases hpure
    exact reports_error rfl

end Reports

/-! ### What the commands raise -/

/-- What a key, a UUID and a token may raise has a text. -/
structure DescribesErrors (process : Config Key Cert Store V Ω) (encode : JwtEncode PrivateKey) :
    Prop where
  publicKey : ∀ cert, ErrorsOnly (process.crypto.publicKey cert) Exc.Describable
  uuid4 : RaisesOnly process.uuid4 Exc.Describable
  encode : ∀ claims key algorithm headers,
    ErrorsOnly (encode claims key algorithm headers) Exc.Describable

section Returns

variable {ext : ModelExternals} {process : Config Key Cert Store V Ω}
  {encode : JwtEncode PrivateKey} {bundle : TrustBundle Key Cert Store} {now : DateTime}
  {issue : String → Payload → Except Exc AttestationModel}

theorem raisesOnly_verify_forCommand (h : DescribesErrors process encode)
    (attestation : Option AttestationModel) (g : GCO) :
    RaisesOnly (((process.forCommand bundle issue).runtime ext.toExternals now.toPy).verify
      attestation g) Exc.Describable := by
  have hkey : ∀ cert, ErrorsOnly ((process.forCommand bundle issue).crypto.publicKey cert)
      Exc.Describable := h.publicKey
  exact Config.raisesOnly_verify (fun text => ⟨⟨text, rfl⟩, by simp [Exc.overflowError]⟩)
    describable_digitLimitExceeded hkey (by rintro _ ⟨⟩) now.toPy attestation g

theorem describable_validate (parent child : GCO) :
    ErrorsOnly (validate ext.toExternals now.toPy parent child) Exc.Describable := by
  refine GCOValidator.errorsOnly_validate ?_ describable_digitLimitExceeded
    (RaisesDescribable.leNow _ _)
  rintro e ⟨error, -, rfl⟩
  exact describable_ofDerivation error

theorem describable_issue (h : DescribesErrors process encode)
    (authority : PemSigningAuthority PrivateKey) (identity : String) (data : Payload) :
    ErrorsOnly (authority.issue ext encode identity data) Exc.Describable := by
  have hread : ErrorsOnly (GCO.modelValidate ext (unsignedData data)) Exc.Describable := by
    unfold GCO.modelValidate
    split
    · exact .ok _
    · exact .error ⟨⟨_, rfl⟩, by simp⟩
  have hhash : ∀ g, ErrorsOnly (hashWithIdentity ext.toExternals g identity)
      Exc.Describable := by
    intro g
    unfold hashWithIdentity hashPayload
    split
    · exact .error describable_digitLimitExceeded
    · exact .ok _
  refine hread.bind fun g => (hhash g).bind fun digest => (h.encode _ _ _ _).bind fun token => ?_
  split
  · exact .error ⟨⟨_, rfl⟩, by simp⟩
  · exact .ok _

/-- The runtime with no store: `derive_for_subcall` does not touch it. -/
def withoutStore {σ : Type} (rt : GovernanceRuntime σ V) : GovernanceRuntime σ V :=
  { rt with
    read := fun _ _ _ => throw digitLimitExceeded
    write := fun _ _ _ _ => throw digitLimitExceeded }

theorem raisesOnly_forCommand (h : DescribesErrors process encode)
    (hissue : ∀ identity data, ErrorsOnly (issue identity data) Exc.Describable) :
    (withoutStore ((process.forCommand bundle issue).runtime ext.toExternals
      now.toPy)).RaisesOnly Exc.Describable where
  now := .pure _
  verify := raisesOnly_verify_forCommand h
  validate parent child := .ofExcept (describable_validate parent child)
  read _ _ _ := .throw describable_digitLimitExceeded
  write _ _ _ _ := .throw describable_digitLimitExceeded
  issue := by
    rintro _ ⟨⟩ identity data
    exact .ofExcept (ErrorsOnly.map_iff.2 (hissue identity data))
  uuid4 := h.uuid4

theorem returns_deriveForSubcall (h : DescribesErrors process encode)
    (hissue : ∀ identity data, ErrorsOnly (issue identity data) Exc.Describable) (parent : GCO)
    (request : DelegationRequest) :
    Returns (((process.forCommand bundle issue).runtime ext.toExternals now.toPy).deriveForSubcall
      ext.toExternals (.gco parent) (.request request)) := by
  let call : MethodCall (World V Ω) V := .deriveForSubcall (.gco parent) (.request request)
  have hreturns : Returns (call.perform ext.toExternals (withoutStore
      ((process.forCommand bundle issue).runtime ext.toExternals now.toPy))) :=
    perform_returns ext.toExternals ((raisesOnly_forCommand h hissue).mono fun _ =>
      call.method.handles_of_describable) ⟨.pure _, .pure _⟩
  exact hreturns

theorem raisesOnly_previewDerive (h : DescribesErrors process encode) (parent : GCO)
    (request : DelegationRequest) :
    RaisesOnly (previewDerive ext process bundle parent request now) Exc.Describable := by
  have hbody : RaisesOnly (previewBody ext process bundle parent request now)
      Exc.Describable := by
    have hrt : (withoutStore ((process.forCommand bundle previewIssue).runtime ext.toExternals
        now.toPy)).RaisesOnly Exc.Describable := raisesOnly_forCommand h fun _ _ => .ok _
    exact (hrt.derive (fun _ => id) rfl parent request).bind fun _ => .pure _
  refine (raisesOnly_verify_forCommand h _ _).bind fun verified => ?_
  refine .ite (fun _ => .pure _) fun _ => .of_returns ?_
  refine hbody.returns_attempt ?_
  rintro e ⟨⟨text, htext⟩, -⟩
  rw [handleDerive, str_returns htext]
  exact ⟨_, rfl⟩

theorem returns_mainDerive (h : DescribesErrors process encode) (parent : GCO)
    (request : DelegationRequest) (authority : Option (PemSigningAuthority PrivateKey)) :
    Returns (mainDerive ext encode process bundle parent request now authority) := by
  have hcmd : RaisesOnly (cmdDerive ext encode process bundle parent request now authority)
      Exc.Describable := by
    cases authority with
    | none => exact raisesOnly_previewDerive h parent request
    | some authority =>
      refine (RaisesOnly.of_returns (returns_deriveForSubcall h
        (describable_issue h authority) parent request)).bind fun decision => ?_
      split <;> exact .pure _
  refine hcmd.returns_attempt ?_
  rintro e ⟨⟨text, htext⟩, -⟩
  rw [handleMain, str_returns htext]
  exact ⟨_, rfl⟩

end Returns

theorem returns_run {ext : CheckExternals P Key Cert Store} {process : Config Key Cert Store V Ω}
    {encode : JwtEncode PrivateKey} (h : DescribesErrors process encode) (now : DateTime)
    (files : P → Option String) (command : CheckCommand) :
    Returns (command.run ext process now true files) := by
  have hcall : RaisesOnly (command.call ext process now true files) Exc.Describable := by
    cases command with
    | validate child parent => exact .pure _
    | inspect gco => exact .pure _
    | verify gco trustBundle =>
      show RaisesOnly (cmdVerify ext process now gco trustBundle true files) _
      unfold cmdVerify
      split
      · exact .pure _
      · exact .pure _
      · exact (raisesOnly_verify_forCommand h _ _).bind fun _ => .pure _
  refine (hcall.bind fun _ => .pure _).returns_attempt ?_
  rintro e ⟨⟨text, htext⟩, -⟩
  rw [str_returns htext]
  exact ⟨_, rfl⟩

/-- With `--json` every command, on any files, prints one line to `stdout` and nothing to `stderr`:
an object whose `ok` is true exactly if the command exits with 0. And every command returns, if what
a key, a UUID and a token may raise has a text. -/
theorem check_json_reports (ext : DeriveExternals P Key Cert Store PrivateKey)
    (encode : JwtEncode PrivateKey) (process : Config Key Cert Store V Ω) (now : DateTime)
    (files : P → Option String) (w : World V Ω) :
    (∀ (command : CheckCommand) (output : CliOutput) (w' : World V Ω),
      command.run ext.toCheckExternals process now true files w = .ok output w' →
        output.Reports ext.floatFormat) ∧
      (∀ (args : DeriveArgs) (output : CliOutput) (w' : World V Ω),
        args.run ext encode process now files w = .ok output w' →
          output.Reports ext.floatFormat) ∧
      (DescribesErrors process encode →
        (∀ command : CheckCommand, ∃ output w',
          command.run ext.toCheckExternals process now true files w = .ok output w') ∧
        ∀ args : DeriveArgs, ∃ output w',
          args.run ext encode process now files w = .ok output w') := by
  refine ⟨fun command output w' => reports_run, fun args output w' h => ?_, fun hprocess =>
    ⟨fun command => returns_run hprocess now files command w, fun args => ?_⟩⟩
  · unfold DeriveArgs.run at h
    cases hload : args.load ext files with
    | error exc =>
      rw [hload] at h
      cases h
      exact reports_error (status_load hload)
    | ok input =>
      rw [hload] at h
      obtain ⟨result, w₁, -, hpure⟩ := bind_eq_ok h
      cases hpure
      exact reports_deriveOutput result
  · unfold DeriveArgs.run
    cases hload : args.load ext files with
    | error exc => exact ⟨_, w, rfl⟩
    | ok input =>
      have hreturns : Returns (mainDerive ext.toModelExternals encode process input.bundle
          input.parent input.request now input.authority) :=
        returns_mainDerive hprocess input.parent input.request input.authority
      obtain ⟨result, w', hresult⟩ := hreturns w
      exact ⟨_, w', bind_of_ok hresult _⟩

theorem describesErrors_demo : DescribesErrors signingProcess jwsEncode where
  publicKey _ := .ok _
  uuid4 := .pure _
  encode _ _ _ _ := .ok _

/-- A child is validated, and derived again. -/
theorem check_json_reports_demo :
    (∃ output w', (CheckCommand.validate "child.json" "parent.json").run demoCheck signingProcess
      demoNow true demoRequestFiles (demoWorld .empty) = .ok output w' ∧
        output.Reports demoExternals.floatFormat) ∧
      ∃ output w', demoDeriveArgs.run demoDerive jwsEncode signingProcess demoNow demoRequestFiles
        (demoWorld .empty) = .ok output w' ∧ output.Reports demoExternals.floatFormat := by
  obtain ⟨hchecks, hderive, hreturns⟩ := check_json_reports demoDerive jwsEncode signingProcess
    demoNow demoRequestFiles (demoWorld .empty)
  obtain ⟨hrun, hrunDerive⟩ := hreturns describesErrors_demo
  obtain ⟨output, w, houtput⟩ := hrun (.validate "child.json" "parent.json")
  obtain ⟨output', w', houtput'⟩ := hrunDerive demoDeriveArgs
  exact ⟨⟨output, w, houtput, hchecks _ _ _ houtput⟩, output', w', houtput',
    hderive _ _ _ houtput'⟩

end Gco
