import GcoSpec.Gco.Cli
import GcoSpec.Gco.CliOutput
import GcoSpec.Gco.Trust
import GcoSpec.Gco.ValidateResult
import GcoSpec.Library.Runs

/-!
# The commands on objects

`gco validate`, `verify` and `inspect` read their objects from files, and what `gco derive` prints
may become such a file.

* `derived_child_is_accepted`: a child that `derive` printed, saved in whatever layout, is accepted
  by `validate` until it expires, and by `verify` if it was signed, but not if it was previewed.
* `derived_directory_audit`: so it is for every child of a directory that was filled so, and each
  has less authority than an object that was there at the start.
-/

namespace Gco

open Python Python.Json

variable {P Key Cert Store V Ω : Type}

/-- What the commands use besides the models: the file a path names, the loaders of anchors, and
`str` of what `from_mapping` raises. -/
structure CheckExternals (P Key Cert Store : Type) extends ModelExternals where
  pathOf : String → P
  trust : TrustExternals Key Cert Store
  strOf : TrustExc → String

section Files

variable (ext : CheckExternals P Key Cert Store) (path : String) (files : P → Option String)

/-- `json.loads(Path(path).read_text(encoding="utf-8"))`, where `none` stands for any exception. -/
def readJson : Option PyVal := (files (ext.pathOf path)).bind (loads ext.floatFormat)

/-- `_load_json`. -/
def loadJson : Except CliExc PyVal :=
  match readJson ext path files with
  | some payload => .ok payload
  | none => .error (.cliError "JSON_MALFORMED" s!"{path}: JSON could not be read" 1)

/-- `_load_gco`. -/
def loadGco : Except CliExc GCO := do
  let payload ← loadJson ext path files
  match GCO.modelValidate ext.toModelExternals payload with
  | .ok g => .ok g
  | .error _ => .error (.cliError "GCO_MALFORMED" (ext.errorText payload) 1)

/-- `TrustBundle.from_json_file`. -/
def fromJsonFile : Except TrustExc (TrustBundle Key Cert Store) :=
  match readJson ext path files with
  | some payload => TrustBundle.fromMapping ext.trust payload
  | none => .error (.trustBundleError "trust bundle config file is malformed")

/-- `_load_bundle`. -/
def loadBundle : Except CliExc (TrustBundle Key Cert Store) :=
  match fromJsonFile ext path files with
  | .ok bundle => .ok bundle
  | .error .textError => .error (.other (ext.strOf .textError))
  | .error exc => .error (.cliError "TRUST_BUNDLE_MALFORMED" (ext.strOf exc) 1)

end Files

/-! ### `validate` -/

/-- What `_cmd_validate` prints of a result. -/
def validateOutput (F : FloatFormat) (result : ValidationResult) (asJson : Bool) : CliOutput :=
  if result.valid then emitSuccess F [("decision", .str "allow")] asJson "allow"
  else
    let code := codeName result.errorCode
    emitFailure F code (strOr result.message code) 1 asJson [] "deny"

/-- `_cmd_validate`. -/
def cmdValidate (ext : CheckExternals P Key Cert Store) (now : DateTime)
    (childPath parentPath : String) (asJson : Bool) (files : P → Option String) :
    Except CliExc CliOutput := do
  let parent ← loadJson ext parentPath files
  let child ← loadJson ext childPath files
  match GCOValidator.validateResult ext.toModelExternals now.toPy (.mapping parent)
      (.mapping child) with
  | .ok result => pure (validateOutput ext.floatFormat result asJson)
  | .error e => .error (.other (e.text.getD ""))

/-! ### `verify` -/

/-- The check that an error of the verifier belongs to. -/
def failedCheck : AttestationError → Option String
  | .unverifiedSignature | .untrustedKey => some "signature"
  | .spiffeIdMismatch => some "identity"
  | .gcoDigestMismatch => some "digest"
  | .expiredAttestation => some "expiry"
  | _ => none

/-- `_verification_checks`. -/
def verificationChecks (result : VerificationResult) (check : String) : String :=
  if result.verified then "pass"
  else match result.errorCode with
    | some (.attestation e) => if failedCheck e = some check then "fail" else "unknown"
    | _ => "unknown"

/-- The checks of a result, as its payload holds them. -/
def checksItems (result : VerificationResult) : List (String × PyVal) :=
  ["signature", "identity", "digest", "expiry"].map fun check =>
    (check, .str (verificationChecks result check))

/-- `_format_verify`. -/
def formatVerify (result : VerificationResult) : String :=
  "\n".intercalate ("allow: attestation verified" ::
    ["signature", "identity", "digest", "expiry"].map fun check =>
      check ++ ": " ++ verificationChecks result check)

/-- What `_cmd_verify` prints of a result. -/
def verifyReport (F : FloatFormat) (result : VerificationResult) (asJson : Bool) : CliOutput :=
  let payload := [("verified", .bool result.verified), ("checks", .dict (checksItems result))]
  if result.verified then emitSuccess F payload asJson (formatVerify result)
  else
    let code := codeName result.errorCode
    emitFailure F code (strOr result.message code) 1 asJson
      (payload ++ [("error_code", .str code), ("message", dumpOption .str result.message)]) "deny"

/-- `_cmd_verify`. -/
def cmdVerify (ext : CheckExternals P Key Cert Store) (process : Config Key Cert Store V Ω)
    (now : DateTime) (path bundlePath : String) (asJson : Bool) (files : P → Option String) :
    Py Exc (World V Ω) (Except CliExc CliOutput) :=
  match loadGco ext path files, loadBundle ext bundlePath files with
  | .error exc, _ => pure (.error exc)
  | .ok _, .error exc => pure (.error exc)
  | .ok g, .ok bundle => do
      let rt := (process.forCommand bundle previewIssue).runtime ext.toExternals now.toPy
      let result ← rt.verify g.attestation g
      pure (.ok (verifyReport ext.floatFormat result asJson))

/-! ### `inspect` -/

/-- `sorted({permission.taint_policy.value for permission in gco.state_access_permissions})`. -/
def taintPolicies (g : GCO) : List String :=
  (g.stateAccessPermissions.map fun p => p.taintPolicy.value).dedup.insertionSort (· ≤ ·)

/-- `_inspection_payload`. -/
def inspectionPayload (env : Externals) (g : GCO) : List (String × PyVal) :=
  [("identity", .dict
     [("gco_version", .str g.gcoVersion),
      ("trace_id", .str (env.dumpUuid g.traceId)),
      ("span_id", .str (env.dumpUuid g.spanId)),
      ("parent_span_id", dumpOption (fun span => .str (env.dumpUuid span)) g.parentSpanId),
      ("policy_id", .str g.policyId),
      ("model_identity", .str g.modelIdentity.text),
      ("intervention_version", .str g.interventionVersion)]),
   ("tool_authority", .list (g.toolAuthority.map fun t => .dict t.items)),
   ("state_access_permissions", .list (g.stateAccessPermissions.map fun p => .dict p.items)),
   ("taint_policy", .list ((taintPolicies g).map .str)),
   ("lineage", .list (g.lineage.map .str)),
   ("expires_at", .str g.expiresAt.isoformat),
   ("attestation_format",
     dumpOption (fun a => .str (StrEnum.value a.format)) g.attestation)]

/-- A line of `inspect` about a tool. -/
def toolLine (tool : ToolAuthority) : Except CliExc String := do
  let maxDepth ← formatInt tool.maxDepth
  let toolUri := tool.toolUri.text
  let scope := tool.scope
  pure s!"  - {toolUri} scope={scope} max_depth={maxDepth}"

/-- And about a permission. -/
def permissionLine (permission : StatePermission) : String :=
  let ns := permission.namespace
  let access := permission.accessMode.value
  let taint := permission.taintPolicy.value
  s!"  - {ns} access={access} taint={taint}"

/-- `_format_inspection`. -/
def formatInspection (env : Externals) (g : GCO) : Except CliExc String := do
  let toolLines ← g.toolAuthority.mapM toolLine
  let lineage ← formatInt g.lineage.length
  let taint := strOr (some (", ".intercalate (taintPolicies g))) "none"
  let parentSpan := (g.parentSpanId.map env.dumpUuid).getD "None"
  let format := (g.attestation.map fun a => StrEnum.value a.format).getD "None"
  let identity := g.modelIdentity.text
  let trace := env.dumpUuid g.traceId
  let span := env.dumpUuid g.spanId
  let policyId := g.policyId
  let expiresAt := g.expiresAt.isoformat
  pure ("\n".intercalate
    ([s!"identity: {identity}", s!"trace/span: {trace} / {span}", s!"parent_span_id: {parentSpan}",
      s!"policy_id: {policyId}", "tool authority:"] ++ toolLines ++
      ["state permissions:"] ++ g.stateAccessPermissions.map permissionLine ++
      [s!"taint policy: {taint}", s!"lineage: {lineage} entries", s!"expires_at: {expiresAt}",
        s!"attestation format: {format}"]))

/-- What `_cmd_inspect` prints of an object. -/
def inspectOutput (env : Externals) (g : GCO) (asJson : Bool) : Except CliExc CliOutput := do
  let human ← formatInspection env g
  pure (emitSuccess env.floatFormat (inspectionPayload env g) asJson human)

/-- `_cmd_inspect`. -/
def cmdInspect (ext : CheckExternals P Key Cert Store) (path : String) (asJson : Bool)
    (files : P → Option String) : Except CliExc CliOutput := do
  let g ← loadGco ext path files
  inspectOutput ext.toExternals g asJson

/-! ### Processes -/

/-- A command, with the paths it is called with. -/
inductive CheckCommand
  | validate (child parent : String)
  | verify (gco trustBundle : String)
  | inspect (gco : String)

/-- A command, at the time its clock reads. -/
def CheckCommand.call (ext : CheckExternals P Key Cert Store) (process : Config Key Cert Store V Ω)
    (now : DateTime) (asJson : Bool) (files : P → Option String) :
    CheckCommand → Py Exc (World V Ω) (Except CliExc CliOutput)
  | .validate child parent => pure (cmdValidate ext now child parent asJson files)
  | .verify gco trustBundle => cmdVerify ext process now gco trustBundle asJson files
  | .inspect gco => pure (cmdInspect ext gco asJson files)

/-- `main`. -/
def CheckCommand.run (ext : CheckExternals P Key Cert Store) (process : Config Key Cert Store V Ω)
    (now : DateTime) (asJson : Bool) (files : P → Option String) (command : CheckCommand) :
    Py Exc (World V Ω) CliOutput :=
  attempt
    (do pure (mainOutput ext.floatFormat asJson (← command.call ext process now asJson files)))
    fun e => do pure (mainOutput ext.floatFormat asJson (.error (.other (← e.str))))

/-- What `main(["--json", "derive", ...])` prints of a result. -/
def deriveOutput (env : Externals) : CommandResult → CliOutput
  | .success previewOnly child =>
      -- the text for a human is made first
      if ¬serializable (child.modelDump env) then
        mainOutput env.floatFormat true (.error (.other digitLimitText))
      else if previewOnly then emitSuccess env.floatFormat
        [("preview_only", .bool true), ("warning", .str "unsigned derivation is preview-only"),
          ("child", child.modelDump env)] true ""
      else emitSuccess env.floatFormat
        [("preview_only", .bool false), ("child", child.modelDump env)] true ""
  | .failure code message => emitFailure env.floatFormat code message 1 true

/-! ### What the commands accept -/

section Accepts

variable {ext : CheckExternals P Key Cert Store} {process : Config Key Cert Store V Ω}
  {now : DateTime} {asJson : Bool} {files : P → Option String} {path childPath parentPath : String}

theorem loadJson_eq_ok_iff {payload : PyVal} :
    loadJson ext path files = .ok payload ↔ readJson ext path files = some payload := by
  unfold loadJson
  cases readJson ext path files <;> simp

theorem loadGco_eq_ok_iff {g : GCO} :
    loadGco ext path files = .ok g ↔ ∃ payload, loadJson ext path files = .ok payload ∧
      GCO.read ext.toModelExternals payload = some g := by
  unfold loadGco
  cases loadJson ext path files with
  | error exc => simp [bind, Except.bind]
  | ok payload =>
    simp only [bind, Except.bind, Except.ok.injEq, exists_eq_left', GCO.modelValidate]
    cases GCO.read ext.toModelExternals payload <;> simp

theorem coerceGco_mapping_eq_ok_iff {ext : ModelExternals} {payload : PyVal} {g : GCO} :
    GCOValidator.coerceGco ext (.mapping payload) = .ok g ↔ GCO.read ext payload = some g := by
  rw [GCOValidator.coerceGco, GCO.modelValidate]
  cases GCO.read ext payload with
  | some g' => simp
  | none =>
    dsimp only
    split_ifs <;> simp

theorem status_loadJson {exc : CliExc} (h : loadJson ext path files = .error exc) :
    exc.status = 1 := by
  unfold loadJson at h
  split at h <;> cases h
  rfl

theorem status_loadGco {exc : CliExc} (h : loadGco ext path files = .error exc) :
    exc.status = 1 := by
  rcases except_bind_raises_iff.1 h with hload | ⟨payload, -, hread⟩
  · exact status_loadJson hload
  · split at hread <;> cases hread
    rfl

theorem after_toPy_iff {t : DateTime} : After t now.toPy ↔ now < t := by
  constructor
  · rintro ⟨micros, hmicros, hlt⟩
    rw [PyDatetime.instant?_toPy] at hmicros
    cases hmicros
    exact hlt
  · exact fun h => ⟨_, PyDatetime.instant?_toPy now, h⟩

theorem exitStatus_validateOutput_iff {F : FloatFormat} {result : ValidationResult} :
    (validateOutput F result asJson).exitStatus = 0 ↔ result.valid = true := by
  unfold validateOutput
  cases result.valid with
  | true => exact iff_of_true exitStatus_emitSuccess rfl
  | false =>
    refine iff_of_false (fun hzero => ?_) (by simp)
    exact absurd (hzero.symm.trans exitStatus_emitFailure) (by simp)

/-- `validate` accepts a file against another exactly if they hold a child and its parent, and the
child has not expired. -/
theorem exitStatus_cmdValidate_iff :
    (mainOutput ext.floatFormat asJson
        (cmdValidate ext now childPath parentPath asJson files)).exitStatus = 0 ↔
      ∃ p c, loadGco ext parentPath files = .ok p ∧ loadGco ext childPath files = .ok c ∧
        Narrows ext.toExternals p c ∧ now < c.expiresAt := by
  have hmissing : ∀ {path exc}, loadJson ext path files = .error exc →
      exc.status = 1 ∧ ∀ g, loadGco ext path files ≠ .ok g := by
    intro path exc h
    refine ⟨status_loadJson h, fun g hg => ?_⟩
    obtain ⟨payload, hpayload, -⟩ := loadGco_eq_ok_iff.1 hg
    rw [h] at hpayload
    cases hpayload
  unfold cmdValidate
  cases hparent : loadJson ext parentPath files with
  | error exc =>
    obtain ⟨hstatus, hno⟩ := hmissing hparent
    refine iff_of_false ?_ (by rintro ⟨p, -, hp, -⟩; exact hno p hp)
    exact fun hzero =>
      absurd (hzero.symm.trans (exitStatus_mainOutput_error.trans hstatus)) (by simp)
  | ok parent =>
    cases hchild : loadJson ext childPath files with
    | error exc =>
      obtain ⟨hstatus, hno⟩ := hmissing hchild
      refine iff_of_false ?_ (by rintro ⟨-, c, -, hc, -⟩; exact hno c hc)
      exact fun hzero =>
        absurd (hzero.symm.trans (exitStatus_mainOutput_error.trans hstatus)) (by simp)
    | ok child =>
      have hload : ∀ {path payload g}, loadJson ext path files = .ok payload →
          (loadGco ext path files = .ok g ↔ GCO.read ext.toModelExternals payload = some g) := by
        intro path payload g h
        rw [loadGco_eq_ok_iff, h]
        simp
      show (mainOutput ext.floatFormat asJson (match GCOValidator.validateResult
        ext.toModelExternals now.toPy (.mapping parent) (.mapping child) with
        | .ok result => pure (validateOutput ext.floatFormat result asJson)
        | .error e => .error (.other (e.text.getD "")))).exitStatus = 0 ↔ _
      simp only [hload hparent, hload hchild, ← coerceGco_mapping_eq_ok_iff, ← after_toPy_iff]
      rw [← GCOValidator.validate_eq_ok_iff]
      by_cases hhash : GCOValidator.LacksHash ext.toModelExternals (.mapping parent)
          (.mapping child)
      · rw [GCOValidator.validateResult_of_lacksHash hhash,
          GCOValidator.validate_of_lacksHash hhash]
        refine iff_of_false (fun hzero => ?_) (by simp)
        exact absurd (hzero.symm.trans exitStatus_mainOutput_error) (by simp [CliExc.status])
      · obtain ⟨result, hresult, hvalid, -⟩ :=
          GCOValidator.exists_validateResult ⟨_, PyDatetime.instant?_toPy now⟩ hhash
        rw [hresult, ← hvalid]
        exact exitStatus_validateOutput_iff

/-- A file that holds a child of the other is accepted until the child expires. -/
theorem exitStatus_cmdValidate_of_narrows {parent child : GCO}
    (hparent : loadGco ext parentPath files = .ok parent)
    (hchild : loadGco ext childPath files = .ok child)
    (hnarrows : Narrows ext.toExternals parent child) :
    (mainOutput ext.floatFormat asJson
      (cmdValidate ext now childPath parentPath asJson files)).exitStatus = 0 ↔
        now < child.expiresAt := by
  rw [exitStatus_cmdValidate_iff, hparent, hchild]
  constructor
  · rintro ⟨p, c, hp, hc, -, hlater⟩
    cases hp
    cases hc
    exact hlater
  · exact fun hlater => ⟨parent, child, rfl, rfl, hnarrows, hlater⟩

/-- `validate` touches nothing but the streams. -/
theorem run_validate (w : World V Ω) :
    (CheckCommand.validate childPath parentPath).run ext process now asJson files w =
      .ok (mainOutput ext.floatFormat asJson
        (cmdValidate ext now childPath parentPath asJson files)) w := rfl

/-- What `verify` prints is the result of the verifier. -/
theorem run_verify_of_result {bundlePath : String} {g : GCO} {bundle : TrustBundle Key Cert Store}
    {result : VerificationResult} {w w' : World V Ω} (hg : loadGco ext path files = .ok g)
    (hbundle : loadBundle ext bundlePath files = .ok bundle)
    (hresult : ((process.forCommand bundle previewIssue).runtime ext.toExternals now.toPy).verify
      g.attestation g w = .ok result w') :
    (CheckCommand.verify path bundlePath).run ext process now asJson files w =
      .ok (verifyReport ext.floatFormat result asJson) w' := by
  refine attempt_of_ok ?_
  have hcall : (CheckCommand.verify path bundlePath).call ext process now asJson files w =
      .ok (.ok (verifyReport ext.floatFormat result asJson)) w' := by
    rw [CheckCommand.call, cmdVerify, hg, hbundle]
    exact bind_of_ok hresult _
  exact bind_of_ok hcall _

theorem exitStatus_verifyReport {F : FloatFormat} {result : VerificationResult} :
    (verifyReport F result asJson).exitStatus = if result.verified then 0 else 1 := by
  unfold verifyReport
  cases result.verified with
  | true => exact exitStatus_emitSuccess
  | false => exact exitStatus_emitFailure

end Accepts

/-! ### A child in a file -/

/-- The file holds the `child` that a command printed, in whatever layout. -/
def SavesChild (ext : CheckExternals P Key Cert Store) (output : CliOutput) (path : String)
    (files : P → Option String) : Prop :=
  ∃ text body payload, output.stdout = text ++ "\n" ∧
    loads ext.floatFormat text = some (.dict body) ∧ body.lookup "child" = some payload ∧
    loadJson ext path files = .ok payload

section Derived

variable {PrivateKey : Type} {ext : CheckExternals P Key Cert Store}
  {process : Config Key Cert Store V Ω} {files : P → Option String}

/-- What `derive` prints, read as JSON, holds the child with its keys sorted. -/
theorem loads_deriveOutput (env : Externals) (previewOnly : Bool) {child : GCO}
    (hfits : child.Serializable) :
    ∃ text body, (deriveOutput env (.success previewOnly child)).stdout = text ++ "\n" ∧
      loads env.floatFormat text = some (.dict body) ∧
      body.lookup "child" = some (sortKeys (child.modelDump env)) := by
  obtain ⟨items, hitems, hreadable, hlookup⟩ : ∃ items : List (String × PyVal),
      (deriveOutput env (.success previewOnly child)).stdout =
          jsonText env.floatFormat items ++ "\n" ∧
        (∀ kv ∈ items, Readable env.floatFormat kv.2) ∧
        (Dict.ofPairs items).get? "child" = some (child.modelDump env) := by
    have hdump : Readable env.floatFormat (child.modelDump env) := readable_modelDump hfits
    rw [deriveOutput, if_neg (not_not.2 (serializable_modelDump.2 hfits))]
    cases previewOnly with
    | false => exact ⟨_, rfl, by simp [Readable, hdump], rfl⟩
    | true => exact ⟨_, rfl, by simp [Readable, hdump], rfl⟩
  refine ⟨_, _, hitems, loads_jsonText hreadable, ?_⟩
  rw [lookup_insertionSort (Dict.nodupKeys _), ← Option.map_some, ← hlookup]
  rfl

/-- It is read as that child. -/
theorem loadGco_of_savesChild (hext : ext.toModelExternals.ReadsBack) {previewOnly : Bool}
    {child : GCO} (htyped : child.Typed) (hfits : child.Serializable) {path : String}
    (h : SavesChild ext (deriveOutput ext.toExternals (.success previewOnly child)) path files) :
    loadGco ext path files = .ok child := by
  obtain ⟨text, body, payload, htext, hbody, hchild, hload⟩ := h
  obtain ⟨text', body', htext', hbody', hchild'⟩ :=
    loads_deriveOutput ext.toExternals previewOnly hfits
  have hsame : text = text' := by
    rw [htext', ← String.toList_inj, String.toList_append, String.toList_append,
      List.append_cancel_right_eq, String.toList_inj] at htext
    exact htext.symm
  rw [hsame, hbody', Option.some.injEq, PyVal.dict.injEq] at hbody
  rw [← hbody, hchild', Option.some.injEq] at hchild
  rw [← hchild] at hload
  exact loadGco_eq_ok_iff.2 ⟨_, hload, GCO.read_sortKeys_modelDump hext htyped⟩

theorem preview_ne_empty (identity : String) : (previewAttestation identity).value ≠ "" := by
  intro h
  have hlist := congrArg String.toList h
  rw [previewAttestation, String.toList_append] at hlist
  cases hlist

/-- What is shown for preview is no token. -/
theorem verify_of_preview {cfg : Config Key Cert Store V Ω} {env : Externals} {g : GCO}
    {identity : String} (hheader : cfg.crypto.unverifiedHeader ("preview-unsigned:" ++ identity) =
      none) (hg : g.attestation = some (previewAttestation identity)) (now : DateTime)
    (w : World V Ω) :
    (cfg.runtime env now.toPy).verify g.attestation g w =
      .ok (failure .malformedAttestation "JWT-SVID is malformed").result w := by
  have hpayload : (cfg.verifier now.toPy).jwtSvidPayload ("preview-unsigned:" ++ identity) =
      .error (failure .malformedAttestation "JWT-SVID is malformed") := by
    unfold AttestationVerifier.jwtSvidPayload Config.verifier
    dsimp only
    rw [hheader]
  have hverify : (cfg.verifier now.toPy).verify env g.attestation g none w.host =
      .ok (failure .malformedAttestation "JWT-SVID is malformed").result w.host := by
    rw [Config.verifier_verify_eq, PyDatetime.toUtc?_toPy]
    unfold AttestationVerifier.verifyAt
    rw [hg]
    dsimp only
    rw [if_neg (preview_ne_empty identity)]
    show (cfg.verifier now.toPy).verifyJwtSvid env ("preview-unsigned:" ++ identity) g now
      w.host = _
    rw [AttestationVerifier.verifyJwtSvid, hpayload]
    rfl
  show onHost ((cfg.verifier now.toPy).verify env g.attestation g none) w = _
  rw [onHost_apply, hverify]

/-- The child that the command emits: it narrows its parent, and a signed child verifies. -/
theorem of_mainDerive_success {encode : JwtEncode PrivateKey}
    {bundle : TrustBundle Key Cert Store} {parent child : GCO} {request : DelegationRequest}
    {now : DateTime} {authority : Option (PemSigningAuthority PrivateKey)} {previewOnly : Bool}
    {w w' : World V Ω}
    (h : mainDerive ext.toModelExternals encode process bundle parent request now authority w =
      .ok (.success previewOnly child) w') :
    Narrows ext.toExternals parent child ∧
      (previewOnly = false →
        (process.forCommand bundle previewIssue).Verifies ext.toExternals now.toPy child w' w') ∧
      (previewOnly = true →
        child.attestation = some (previewAttestation parent.modelIdentity.text)) := by
  have hcommand := mainDerive_success_iff.1 h
  cases authority with
  | none =>
    obtain ⟨rfl, hparent, hderivable, -, spanId, -, rfl⟩ := previewDerive_success_iff.1 hcommand
    exact ⟨hderivable.narrows hparent.serializable spanId (preview_ne_empty _), by rintro ⟨⟩,
      fun _ => rfl⟩
  | some authority =>
    obtain ⟨rfl, -⟩ := signedDerive_success_iff_allows.1 hcommand
    obtain ⟨hparent, hderivable, -, spanId, a, -, -, hvalue, rfl, hverifies⟩ :=
      signedDerive_success_iff.1 hcommand
    exact ⟨hderivable.narrows hparent.serializable spanId hvalue, fun _ => hverifies,
      by rintro ⟨⟩⟩

end Derived

/-- What becomes of a child that `gco derive --json` emitted, once it is saved to a file in whatever
layout: it is read as that child; `gco validate` accepts it against the file of its parent exactly
until it expires; `gco verify` accepts it at once if it was signed, and never if it was only
previewed. -/
theorem derived_child_is_accepted {PrivateKey : Type} (ext : CheckExternals P Key Cert Store)
    (hext : ext.toModelExternals.ReadsBack) (encode : JwtEncode PrivateKey)
    (process : Config Key Cert Store V Ω)
    (hpreview : ∀ identity, process.crypto.unverifiedHeader ("preview-unsigned:" ++ identity) =
      none)
    (authority : Option (PemSigningAuthority PrivateKey)) (bundle : TrustBundle Key Cert Store)
    (request : DelegationRequest) (now : DateTime) (parent child : GCO) (previewOnly : Bool)
    (w w₁ : World V Ω)
    (hderive : mainDerive ext.toModelExternals encode process bundle parent request now authority
      w = .ok (.success previewOnly child) w₁)
    (files : P → Option String) (parentPath childPath bundlePath : String)
    (hparent : loadGco ext parentPath files = .ok parent)
    (hbundle : loadBundle ext bundlePath files = .ok bundle)
    (hsaved : SavesChild ext (deriveOutput ext.toExternals (.success previewOnly child)) childPath
      files) :
    loadGco ext childPath files = .ok child ∧
      (∀ later asJson w', ∃ output,
        (CheckCommand.validate childPath parentPath).run ext process later asJson files w' =
          .ok output w' ∧ (output.exitStatus = 0 ↔ later < child.expiresAt)) ∧
      (previewOnly = false → ∀ asJson, ∃ output,
        (CheckCommand.verify childPath bundlePath).run ext process now asJson files w₁ =
          .ok output w₁ ∧ output.exitStatus = 0) ∧
      (previewOnly = true → ∀ later asJson w', ∃ output,
        (CheckCommand.verify childPath bundlePath).run ext process later asJson files w' =
          .ok output w' ∧ output.exitStatus = 1) := by
  obtain ⟨hnarrows, hsigned, hpreviewed⟩ := of_mainDerive_success hderive
  have hload := loadGco_of_savesChild hext (typed_of_narrows hnarrows)
    hnarrows.serializable_child hsaved
  refine ⟨hload, fun later asJson w' => ⟨_, run_validate w', ?_⟩, fun hfalse asJson => ?_,
    fun htrue later asJson w' => ?_⟩
  · exact exitStatus_cmdValidate_of_narrows hparent hload hnarrows
  · obtain ⟨result, hresult, hverified⟩ := hsigned hfalse
    refine ⟨_, run_verify_of_result hload hbundle hresult, ?_⟩
    rw [exitStatus_verifyReport, if_pos hverified]
  · have hresult : ((process.forCommand bundle previewIssue).runtime ext.toExternals
        later.toPy).verify child.attestation child w' =
          .ok (failure .malformedAttestation "JWT-SVID is malformed").result w' := by
      refine verify_of_preview ?_ (hpreviewed htrue) later w'
      exact hpreview _
    refine ⟨_, run_verify_of_result hload hbundle hresult, ?_⟩
    rw [exitStatus_verifyReport, Failure.verified_result]
    rfl

/-! ### A directory of children -/

section Directory

variable {PrivateKey : Type} {ext : CheckExternals P Key Cert Store}
  {encode : JwtEncode PrivateKey} {process : Config Key Cert Store V Ω}
  {files files' files₀ : P → Option String}

/-- A call of `gco derive --json` on the file of a parent, whose child is saved to a new file. -/
def DeriveStep (ext : CheckExternals P Key Cert Store) (encode : JwtEncode PrivateKey)
    (process : Config Key Cert Store V Ω) (files : P → Option String) (label : String × String)
    (files' : P → Option String) : Prop :=
  ∃ bundle parent request now authority previewOnly child w w',
    loadGco ext label.1 files = .ok parent ∧
    mainDerive ext.toModelExternals encode process bundle parent request now authority w =
      .ok (.success previewOnly child) w' ∧
    files (ext.pathOf label.2) = none ∧ (∀ q ≠ ext.pathOf label.2, files' q = files q) ∧
    SavesChild ext (deriveOutput ext.toExternals (.success previewOnly child)) label.2 files'

/-- What is read depends on the file. -/
theorem loadGco_congr {path path' : String} {g : GCO}
    (hfile : files (ext.pathOf path) = files' (ext.pathOf path')) :
    loadGco ext path files = .ok g ↔ loadGco ext path' files' = .ok g := by
  simp only [loadGco_eq_ok_iff, loadJson_eq_ok_iff, readJson, hfile]

theorem exists_file_of_loadGco {path : String} {g : GCO} (h : loadGco ext path files = .ok g) :
    files (ext.pathOf path) ≠ none := by
  obtain ⟨payload, hload, -⟩ := loadGco_eq_ok_iff.1 h
  intro hnone
  rw [loadJson_eq_ok_iff, readJson, hnone] at hload
  cases hload

/-- A new file takes nothing from those that are read. -/
theorem loadGco_of_new {new : P} {path : String} {g : GCO} (hnew : files new = none)
    (hother : ∀ q ≠ new, files' q = files q) (h : loadGco ext path files = .ok g) :
    loadGco ext path files' = .ok g := by
  have hne : ext.pathOf path ≠ new := by
    rintro rfl
    exact exists_file_of_loadGco h hnew
  exact (loadGco_congr (hother _ hne).symm).1 h

/-- The files of the labels hold parents and their children, and whatever is read is an object of
the beginning, or has less authority than one. -/
structure Audited (ext : CheckExternals P Key Cert Store) (files₀ : P → Option String)
    (labels : List (String × String)) (files : P → Option String) : Prop where
  narrows : ∀ label ∈ labels, ∃ parent child, loadGco ext label.1 files = .ok parent ∧
    loadGco ext label.2 files = .ok child ∧ Narrows ext.toExternals parent child
  rooted : ∀ path g, loadGco ext path files = .ok g → ∃ rootPath root n,
    loadGco ext rootPath files₀ = .ok root ∧ (n = 0 ∧ root = g ∨ 0 < n ∧ Attenuates n root g)

theorem Audited.step (hext : ext.toModelExternals.ReadsBack) {labels : List (String × String)}
    {label : String × String} (h : Audited ext files₀ labels files)
    (hstep : DeriveStep ext encode process files label files') :
    Audited ext files₀ (labels ++ [label]) files' := by
  obtain ⟨bundle, parent, request, now, authority, previewOnly, child, w, w', hparent, hderive,
    hnew, hother, hsaved⟩ := hstep
  obtain ⟨hnarrows, -, -⟩ := of_mainDerive_success hderive
  have hchild := loadGco_of_savesChild hext (typed_of_narrows hnarrows)
    hnarrows.serializable_child hsaved
  constructor
  · intro label' hlabel'
    rcases List.mem_append.1 hlabel' with hold | hnew'
    · obtain ⟨p, c, hp, hc, hpc⟩ := h.narrows label' hold
      exact ⟨p, c, loadGco_of_new hnew hother hp, loadGco_of_new hnew hother hc, hpc⟩
    · obtain rfl := List.mem_singleton.1 hnew'
      exact ⟨parent, child, loadGco_of_new hnew hother hparent, hchild, hnarrows⟩
  · intro path g hg
    by_cases hpath : ext.pathOf path = ext.pathOf label.2
    · -- the new file, whose child has less authority than its parent
      have hg' := (loadGco_congr (congrArg files' hpath)).1 hg
      rw [hchild] at hg'
      cases hg'
      obtain ⟨rootPath, root, n, hroot, ⟨rfl, rfl⟩ | ⟨-, hattenuates⟩⟩ := h.rooted _ _ hparent
      · exact ⟨rootPath, root, 1, hroot, .inr ⟨one_pos, hnarrows.attenuates⟩⟩
      · exact ⟨rootPath, root, n + 1, hroot,
          .inr ⟨n.succ_pos, hattenuates.trans hnarrows.attenuates⟩⟩
    · exact h.rooted path g ((loadGco_congr (hother _ hpath)).1 hg)

end Directory

/-- Whatever children `gco derive --json` is made to emit, each saved to a file of its own and
perhaps the parent of the next: in the end `gco validate` accepts every one against the file of its
parent exactly until it expires, and each has less authority than an object that was there at the
start. -/
theorem derived_directory_audit {PrivateKey : Type} (ext : CheckExternals P Key Cert Store)
    (hext : ext.toModelExternals.ReadsBack) (encode : JwtEncode PrivateKey)
    (process : Config Key Cert Store V Ω) (files₀ files : P → Option String)
    (labels : List (String × String))
    (hrun : Runs.Run (DeriveStep ext encode process) files₀ labels files) :
    ∀ label ∈ labels, ∃ child, loadGco ext label.2 files = .ok child ∧
      (∀ now asJson w, ∃ output,
        (CheckCommand.validate label.2 label.1).run ext process now asJson files w =
          .ok output w ∧ (output.exitStatus = 0 ↔ now < child.expiresAt)) ∧
      ∃ rootPath root n, loadGco ext rootPath files₀ = .ok root ∧ 0 < n ∧
        Attenuates n root child := by
  have hinit : Audited ext files₀ [] files₀ :=
    ⟨List.forall_mem_nil _, fun path g hg => ⟨path, g, 0, hg, .inl ⟨rfl, rfl⟩⟩⟩
  have haudited : Audited ext files₀ ([] ++ labels.flatMap fun label => [label]) files := by
    refine Runs.Run.records (R := Audited ext files₀) ?_ hinit hrun
    exact Audited.step hext
  rw [List.nil_append, List.flatMap_singleton'] at haudited
  intro label hlabel
  obtain ⟨parent, child, hparent, hchild, hnarrows⟩ := haudited.narrows label hlabel
  refine ⟨child, hchild, fun now asJson w => ⟨_, run_validate w, ?_⟩, ?_⟩
  · exact exitStatus_cmdValidate_of_narrows hparent hchild hnarrows
  · obtain ⟨rootPath, root, n, hroot, ⟨rfl, rfl⟩ | ⟨-, hattenuates⟩⟩ := haudited.rooted _ _ hparent
    · exact ⟨rootPath, root, 1, hroot, one_pos, hnarrows.attenuates⟩
    · exact ⟨rootPath, root, n + 1, hroot, n.succ_pos, hattenuates.trans hnarrows.attenuates⟩

/-! ### A directory with a parent, a bundle, and a child that was previewed -/

open GcoMcp

def demoCheck : CheckExternals String Unit Unit Unit :=
  { demoModelExternals with
    pathOf := id
    trust := ⟨demoExternals.floatFormat, fun _ => some (), fun _ => .rsa, fun _ => none,
      fun _ => (), fun _ => none⟩
    strOf := fun _ => "trust bundle config is malformed" }

def jsonFile (payload : PyVal) : String :=
  String.ofList (emit demoExternals.floatFormat canonicalStyle payload)

def demoBundleConfig : PyVal :=
  .dict [("trust_domains", .dict [("example.org", .dict [("jwks", .dict [("keys",
    .list [.dict [("kid", .str "k1")]])])])])]

/-- The directory before the command. -/
def demoParentFiles (path : String) : Option String :=
  if path = "parent.json" then some (jsonFile ((signedRoot none).modelDump demoExternals))
  else if path = "bundle.json" then some (jsonFile demoBundleConfig)
  else none

/-- A directory to which the child that was printed is saved. -/
def savedTo (path : String) (child : GCO) (files : String → Option String) (q : String) :
    Option String :=
  if q = path then some (jsonFile (sortKeys (child.modelDump demoExternals))) else files q

def demoChildFiles : String → Option String :=
  savedTo "child.json" (demoPreview none) demoParentFiles

theorem loadJson_jsonFile {files : String → Option String} {path : String} {payload : PyVal}
    (hfile : files path = some (jsonFile payload))
    (hreadable : Readable demoExternals.floatFormat payload) :
    loadJson demoCheck path files = .ok payload := by
  rw [loadJson_eq_ok_iff]
  show (files path).bind _ = _
  rw [hfile, Option.bind_some]
  exact loads_emit hreadable

theorem typed_signedRoot : (signedRoot none).Typed := by
  intro p hp
  obtain rfl := List.mem_singleton.1 hp
  exact ⟨⟨_, rfl⟩, ⟨_, rfl⟩⟩

theorem loadGco_demoParent {files : String → Option String}
    (hfile : files "parent.json" =
      some (jsonFile ((signedRoot none).modelDump demoExternals))) :
    loadGco demoCheck "parent.json" files = .ok (signedRoot none) :=
  loadGco_eq_ok_iff.2 ⟨_, loadJson_jsonFile hfile (readable_modelDump (serializable_signedRoot _)),
    GCO.read_modelDump demoModelExternals_readsBack typed_signedRoot⟩

theorem narrows_demoPreview :
    Narrows demoExternals (signedRoot none) (demoPreview none) :=
  (derivable_signedRoot none).narrows (serializable_signedRoot none) 0 (preview_ne_empty _)

theorem loadBundle_demo : loadBundle demoCheck "bundle.json" demoChildFiles =
    .ok (signingBundle none) := by
  have hread : readJson demoCheck "bundle.json" demoChildFiles = some demoBundleConfig :=
    loadJson_eq_ok_iff.1 (loadJson_jsonFile rfl (by simp [demoBundleConfig, Readable,
      ReadablePairs, ReadableItems]))
  rw [loadBundle, fromJsonFile, hread]
  rfl

theorem savesChild_savedTo (previewOnly : Bool) {child : GCO} (hfits : child.Serializable)
    (path : String) (files : String → Option String) :
    SavesChild demoCheck (deriveOutput demoCheck.toExternals (.success previewOnly child)) path
      (savedTo path child files) := by
  obtain ⟨text, body, htext, hbody, hchild⟩ :=
    loads_deriveOutput demoCheck.toExternals previewOnly hfits
  exact ⟨text, body, _, htext, hbody, hchild,
    loadJson_jsonFile (if_pos rfl) (readable_sortKeys (readable_modelDump hfits))⟩

/-- What is shown for preview begins like no JSON. -/
theorem unverifiedHeader_preview (identity : String) :
    signingProcess.crypto.unverifiedHeader ("preview-unsigned:" ++ identity) = none := by
  have hloads : loads demoExternals.floatFormat ("preview-unsigned:" ++ identity) = none := by
    rw [loads, String.toList_append]
    rfl
  show (readDemoJws ("preview-unsigned:" ++ identity)).map Prod.fst = none
  rw [readDemoJws, hloads]
  rfl

theorem derived_child_is_accepted_demo :
    loadGco demoCheck "child.json" demoChildFiles = .ok (demoPreview none) ∧
      ∀ later, ∃ output, (CheckCommand.verify "child.json" "bundle.json").run demoCheck
        signingProcess later true demoChildFiles (demoWorld .empty) =
          .ok output (demoWorld .empty) ∧ output.exitStatus = 1 := by
  obtain ⟨hload, -, -, hverify⟩ := derived_child_is_accepted demoCheck demoModelExternals_readsBack
    jwsEncode signingProcess unverifiedHeader_preview none (signingBundle none) demoClampedRequest
    demoNow (signedRoot none) (demoPreview none) true (demoWorld .empty) (demoWorld .empty)
    (mainDerive_demoPreview none _) demoChildFiles "parent.json" "child.json" "bundle.json"
    (loadGco_demoParent rfl) loadBundle_demo
    (savesChild_savedTo true narrows_demoPreview.serializable_child "child.json" demoParentFiles)
  exact ⟨hload, fun later => hverify rfl later true _⟩

/-! ### Two commands, the second on the child of the first -/

/-- A child that is printed is saved. -/
theorem deriveStep_savedTo {path target : String} {files : String → Option String}
    {parent child : GCO} {request : DelegationRequest}
    {authority : Option (PemSigningAuthority Unit)} {previewOnly : Bool}
    (hparent : loadGco demoCheck path files = .ok parent) (hfits : child.Serializable)
    (hderive : mainDerive demoModelExternals jwsEncode signingProcess (signingBundle none) parent
      request demoNow authority (demoWorld .empty) =
        .ok (.success previewOnly child) (demoWorld .empty))
    (habsent : files target = none) :
    DeriveStep demoCheck jwsEncode signingProcess files (path, target)
      (savedTo target child files) :=
  ⟨signingBundle none, parent, request, demoNow, authority, previewOnly, child, demoWorld .empty,
    demoWorld .empty, hparent, hderive, habsent, fun _ hq => if_neg hq,
    savesChild_savedTo previewOnly hfits target files⟩

/-- A signed child of the parent, and a child of it that is previewed. -/
theorem exists_demoLine : ∃ child leaf : GCO, child.Typed ∧ child.Serializable ∧
    leaf.Serializable ∧
    mainDerive demoModelExternals jwsEncode signingProcess (signingBundle none) (signedRoot none)
        demoClampedRequest demoNow (some ⟨(), "k1"⟩) (demoWorld .empty) =
      .ok (.success false child) (demoWorld .empty) ∧
    mainDerive demoModelExternals jwsEncode signingProcess (signingBundle none) child
        demoClampedRequest demoNow none (demoWorld .empty) =
      .ok (.success true leaf) (demoWorld .empty) := by
  have hderivable := derivable_signedRoot none
  have hsecond : demoNow.micros + 1000000 ≤
      (min demoClampedRequest.requestedExpiry (signedRoot none).expiresAt).micros := by decide
  let authority : PemSigningAuthority Unit := ⟨(), "k1"⟩
  have hregisters : (signingBundle none).Registers (signedRoot none).modelIdentity authority.kid
    () := registers_demo none
  have hsigns : SignsFor signingProcess.crypto jwsEncode authority.key () := signsFor_jwsEncode
  obtain ⟨a, hissue, hvalue, hverdict⟩ := exists_issue_grantedChild demoModelExternals_readsBack
    hregisters hsigns hderivable (serializable_signedRoot none) hsecond 0
  have hattests := hverdict.2 ⟨rfl, by decide⟩
  have hnarrows : Narrows demoExternals (signedRoot none)
      { grantedChild demoExternals (signedRoot none) demoClampedRequest 0 with
        attestation := some a } := hderivable.narrows (serializable_signedRoot none) 0 hvalue
  have hchild : Derivable { grantedChild demoExternals (signedRoot none) demoClampedRequest 0 with
      attestation := some a } demoClampedRequest := (derivePlan_eq_ok_iff.1 rfl).1
  have hleaf : Narrows demoExternals _ _ := hchild.narrows hnarrows.serializable_child 0
    (preview_ne_empty demoIdentity.text)
  refine ⟨_, _, typed_of_narrows hnarrows, hnarrows.serializable_child, hleaf.serializable_child,
    mainDerive_success_iff.2 (signedDerive_success_iff.2 ⟨verifies_signedRoot none _ _, hderivable,
      after_demoPreview, 0, a, rfl, hissue, hvalue, rfl,
      (Config.verifies_iff rfl).2 ⟨rfl, hattests⟩⟩),
    mainDerive_success_iff.2 (previewDerive_success_iff.2 ⟨rfl,
      (Config.verifies_iff rfl).2 ⟨rfl, hattests⟩, hchild, after_demoPreview, 0, rfl, rfl⟩)⟩

/-- The last child has less authority than an object of the directory before. -/
theorem derived_directory_audit_demo : ∃ files leaf,
    Runs.Run (DeriveStep demoCheck jwsEncode signingProcess) demoParentFiles
      [("parent.json", "child.json"), ("child.json", "leaf.json")] files ∧
    loadGco demoCheck "leaf.json" files = .ok leaf ∧
    ∃ rootPath root n, loadGco demoCheck rootPath demoParentFiles = .ok root ∧ 0 < n ∧
      Attenuates n root leaf := by
  obtain ⟨child, leaf, htyped, hfits, hfits', hderive, hderive'⟩ := exists_demoLine
  have hchild : loadGco demoCheck "child.json" (savedTo "child.json" child demoParentFiles) =
      .ok child := loadGco_of_savesChild demoModelExternals_readsBack htyped hfits
    (savesChild_savedTo false hfits _ _)
  have hrun : Runs.Run (DeriveStep demoCheck jwsEncode signingProcess) demoParentFiles
      [("parent.json", "child.json"), ("child.json", "leaf.json")] _ :=
    .cons (deriveStep_savedTo (loadGco_demoParent rfl) hfits hderive rfl)
      (.cons (deriveStep_savedTo hchild hfits' hderive' rfl) (.nil _))
  obtain ⟨leaf', hleaf, -, hroot⟩ := derived_directory_audit demoCheck
    demoModelExternals_readsBack jwsEncode signingProcess demoParentFiles _ _ hrun
    ("child.json", "leaf.json") (by simp)
  exact ⟨_, leaf', hrun, hleaf, hroot⟩

end Gco
