import GcoSpec.Gco.CliChecks
import GcoSpec.Gco.Completeness

/-!
# `gco derive` on files

The command reads a parent, a request, a trust bundle and perhaps a key, and derives. `gco verify`
and `gco validate` check the same rules from the other side.

* `DelegationRequest.read_items`: the dump of a request is read as the request;
* `success_of_run_derive`: the child that the command prints is the one that it derives;
* `derive_agrees_with_checks`: asked for the authority of an object, the command prints this object,
  with a span and an attestation of its own, exactly if the other two accept the parent and the
  object.
-/

namespace Gco

open Python Python.Json

variable {P Key Cert Store V Ω PrivateKey : Type}

/-! ### Requests -/

namespace DelegationRequest

def fieldNames : List String :=
  ["tool_authority", "state_access_permissions", "requested_expiry", "attestation_identity"]

/-- `requested_expiry_must_be_utc`. -/
def requestedExpiryUtc : PyDatetime → Option DateTime := expiresAtUtc

/-- `attestation_identity_is_not_supported`, where the type is `str | None`. -/
def attestationIdentityUnsupported : PyVal → Option Unit
  | .none => some ()
  | _ => none

/-- The request that a payload is validated as. -/
def read (ext : ModelExternals) (x : PyVal) : Option DelegationRequest := do
  let items ← readModel fieldNames x
  let toolAuthority ← readFieldOr items "tool_authority" [] (readList (ToolAuthority.read ext))
  let stateAccessPermissions ←
    readFieldOr items "state_access_permissions" [] (readList StatePermission.read)
  let requestedExpiry ←
    readField items "requested_expiry" fun x => (ext.readDatetime x).bind requestedExpiryUtc
  let _ ← readFieldOr items "attestation_identity" () attestationIdentityUnsupported
  pure ⟨toolAuthority, stateAccessPermissions, requestedExpiry⟩

/-- The items of `request.model_dump(mode="json")`. -/
def items (env : Externals) (request : DelegationRequest) : List (String × PyVal) :=
  [("tool_authority", .list (request.toolAuthority.map fun t => .dict t.items)),
   ("state_access_permissions",
     .list (request.stateAccessPermissions.map fun p => .dict p.items)),
   ("requested_expiry", .str (env.dumpDatetime request.requestedExpiry)),
   ("attestation_identity", .none)]

/-- The dump of a request is read back when its labels are members. -/
theorem read_items {ext : ModelExternals} (hext : ext.ReadsBack) {request : DelegationRequest}
    (htyped : ∀ p ∈ request.stateAccessPermissions,
      (∃ m, p.accessMode = .member m) ∧ ∃ t, p.taintPolicy = .member t) :
    read ext (.dict (request.items ext.toExternals)) = some request := by
  let items := request.items ext.toExternals
  have hmodel : readModel fieldNames (.dict items) = some items :=
    readModel_dict (by simp [items, DelegationRequest.items, fieldNames])
  have htools : readFieldOr items "tool_authority" [] (readList (ToolAuthority.read ext)) =
      some request.toolAuthority := readList_map fun t _ => ToolAuthority.read_items hext t
  have hpermissions : readFieldOr items "state_access_permissions" []
      (readList StatePermission.read) = some request.stateAccessPermissions := by
    refine readList_map fun p hp => ?_
    obtain ⟨⟨mode, hmode⟩, ⟨taint, htaint⟩⟩ := htyped p hp
    exact StatePermission.read_items hmode htaint
  have hexpiry : readField items "requested_expiry"
      (fun x => (ext.readDatetime x).bind requestedExpiryUtc) = some request.requestedExpiry := by
    show (ext.readDatetime (.str (ext.dumpDatetime request.requestedExpiry))).bind _ = _
    rw [hext.datetime]
    rfl
  have hidentity : readFieldOr items "attestation_identity" () attestationIdentityUnsupported =
      some () := rfl
  rw [read]
  refine Option.bind_eq_some_iff.2 ⟨_, hmodel, ?_⟩
  refine Option.bind_eq_some_iff.2 ⟨_, htools, ?_⟩
  refine Option.bind_eq_some_iff.2 ⟨_, hpermissions, ?_⟩
  refine Option.bind_eq_some_iff.2 ⟨_, hexpiry, ?_⟩
  refine Option.bind_eq_some_iff.2 ⟨_, hidentity, ?_⟩
  rfl

theorem readable_items {F : FloatFormat} (env : Externals) {request : DelegationRequest}
    (hfits : ∀ t ∈ request.toolAuthority, IntFits t.maxDepth) :
    Readable F (.dict (request.items env)) := by
  have htools : Readable F (.list (request.toolAuthority.map fun t => .dict t.items)) :=
    readable_list fun t ht => readable_toolAuthority (hfits t ht)
  have hpermissions : Readable F
      (.list (request.stateAccessPermissions.map fun p => .dict p.items)) :=
    readable_list fun p _ => readable_statePermission p
  refine readable_dict (show fieldNames.Nodup by decide) ?_
  simp only [items, List.forall_mem_cons]
  exact ⟨htools, hpermissions, trivial, trivial, List.forall_mem_nil _⟩

end DelegationRequest

/-! ### The command -/

/-- What `derive` uses besides: the keys in PEM files, and the text of the `ValidationError` of a
request. -/
structure DeriveExternals (P Key Cert Store PrivateKey : Type) extends
    CheckExternals P Key Cert Store where
  /-- `load_pem_private_key(Path(path).read_bytes(), password=None)`, where `none` stands for any
  exception. -/
  pemKey : String → Option PrivateKey
  requestErrorText : PyVal → String

/-- The options of `derive`. -/
structure DeriveArgs where
  parent : String
  request : String
  trustBundle : String
  signKey : Option String
  kid : String

/-- What the command reads. -/
structure DeriveInput (Key Cert Store PrivateKey : Type) where
  parent : GCO
  request : DelegationRequest
  bundle : TrustBundle Key Cert Store
  /-- `none` stands for `PreviewSigningAuthority()`. -/
  authority : Option (PemSigningAuthority PrivateKey)

section Command

variable (ext : DeriveExternals P Key Cert Store PrivateKey)

/-- `_load_delegation_request`. -/
def loadDelegationRequest (path : String) (files : P → Option String) :
    Except CliExc DelegationRequest := do
  let payload ← loadJson ext.toCheckExternals path files
  match DelegationRequest.read ext.toModelExternals payload with
  | some request => .ok request
  | none => .error (.cliError "GCO_MALFORMED" (ext.requestErrorText payload) 1)

/-- `_load_signing_authority`. -/
def loadSigningAuthority (path kid : String) : Except CliExc (PemSigningAuthority PrivateKey) :=
  match ext.pemKey path with
  | some key => .ok ⟨key, kid⟩
  | none => .error (.cliError "SIGN_KEY_MALFORMED" s!"{path}: PEM private key could not be read" 1)

/-- The authority: an empty `--sign-key` counts as none. -/
def DeriveArgs.loadAuthority (args : DeriveArgs) :
    Except CliExc (Option (PemSigningAuthority PrivateKey)) :=
  match args.signKey.filter (· ≠ "") with
  | some path => (loadSigningAuthority ext path args.kid).map some
  | none => .ok none

/-- The files, in the order in which `_cmd_derive` reads them. -/
def DeriveArgs.load (args : DeriveArgs) (files : P → Option String) :
    Except CliExc (DeriveInput Key Cert Store PrivateKey) := do
  let parent ← loadGco ext.toCheckExternals args.parent files
  let request ← loadDelegationRequest ext args.request files
  let bundle ← loadBundle ext.toCheckExternals args.trustBundle files
  let authority ← args.loadAuthority ext
  pure ⟨parent, request, bundle, authority⟩

/-- `main(["--json", "derive", ...])`. -/
def DeriveArgs.run (encode : JwtEncode PrivateKey) (process : Config Key Cert Store V Ω)
    (now : DateTime) (args : DeriveArgs) (files : P → Option String) :
    Py Exc (World V Ω) CliOutput :=
  match args.load ext files with
  | .error exc => pure (mainOutput ext.floatFormat true (.error exc))
  | .ok input => do
      let result ← mainDerive ext.toModelExternals encode process input.bundle input.parent
        input.request now input.authority
      pure (deriveOutput ext.toExternals result)

end Command

section Outcomes

variable {ext : DeriveExternals P Key Cert Store PrivateKey} {encode : JwtEncode PrivateKey}
  {process : Config Key Cert Store V Ω} {now : DateTime} {args : DeriveArgs}
  {files : P → Option String} {w w' : World V Ω}

theorem loadDelegationRequest_eq_ok_iff {path : String} {request : DelegationRequest} :
    loadDelegationRequest ext path files = .ok request ↔ ∃ payload,
      loadJson ext.toCheckExternals path files = .ok payload ∧
        DelegationRequest.read ext.toModelExternals payload = some request := by
  unfold loadDelegationRequest
  cases loadJson ext.toCheckExternals path files with
  | error exc => simp [bind, Except.bind]
  | ok payload =>
    simp only [bind, Except.bind, Except.ok.injEq, exists_eq_left']
    cases DelegationRequest.read ext.toModelExternals payload <;> simp

theorem DeriveArgs.load_eq_ok_iff {input : DeriveInput Key Cert Store PrivateKey} :
    args.load ext files = .ok input ↔
      loadGco ext.toCheckExternals args.parent files = .ok input.parent ∧
        loadDelegationRequest ext args.request files = .ok input.request ∧
        loadBundle ext.toCheckExternals args.trustBundle files = .ok input.bundle ∧
        args.loadAuthority ext = .ok input.authority := by
  unfold DeriveArgs.load
  simp only [except_bind_eq_ok_iff]
  constructor
  · rintro ⟨parent, hparent, request, hrequest, bundle, hbundle, authority, hauthority, hinput⟩
    cases hinput
    exact ⟨hparent, hrequest, hbundle, hauthority⟩
  · rintro ⟨hparent, hrequest, hbundle, hauthority⟩
    exact ⟨_, hparent, _, hrequest, _, hbundle, _, hauthority, rfl⟩

theorem DeriveArgs.loadAuthority_of_no_key (h : args.signKey = none) :
    args.loadAuthority ext = .ok none := by
  rw [DeriveArgs.loadAuthority, h]
  rfl

theorem exitStatus_deriveOutput {env : Externals} {previewOnly : Bool} {child : GCO}
    (hfits : child.Serializable) :
    (deriveOutput env (.success previewOnly child)).exitStatus = 0 := by
  rw [deriveOutput, if_neg (not_not.2 (serializable_modelDump.2 hfits))]
  cases previewOnly <;> exact exitStatus_emitSuccess

/-- What is printed determines the child. -/
theorem child_eq_of_deriveOutput_eq {ext : ModelExternals} (hext : ext.ReadsBack)
    {previewOnly previewOnly' : Bool} {child child' : GCO} (htyped : child.Typed)
    (htyped' : child'.Typed) (hfits : child.Serializable) (hfits' : child'.Serializable)
    (h : deriveOutput ext.toExternals (.success previewOnly child) =
      deriveOutput ext.toExternals (.success previewOnly' child')) : child = child' := by
  obtain ⟨text, body, htext, hbody, hchild⟩ :=
    loads_deriveOutput ext.toExternals previewOnly hfits
  obtain ⟨text', body', htext', hbody', hchild'⟩ :=
    loads_deriveOutput ext.toExternals previewOnly' hfits'
  have hsame : text = text' := by
    rw [h, htext', ← String.toList_inj, String.toList_append, String.toList_append,
      List.append_cancel_right_eq, String.toList_inj] at htext
    exact htext.symm
  rw [hsame, hbody', Option.some.injEq, PyVal.dict.injEq] at hbody
  rw [← hbody, hchild', Option.some.injEq] at hchild
  have hread := GCO.read_sortKeys_modelDump hext htyped
  rw [← hchild, GCO.read_sortKeys_modelDump hext htyped', Option.some.injEq] at hread
  exact hread.symm

/-- The command prints the child that it derives. -/
theorem run_derive_of_success {input : DeriveInput Key Cert Store PrivateKey}
    (hload : args.load ext files = .ok input) {result : CommandResult}
    (h : mainDerive ext.toModelExternals encode process input.bundle input.parent input.request now
      input.authority w = .ok result w') :
    args.run ext encode process now files w = .ok (deriveOutput ext.toExternals result) w' := by
  rw [DeriveArgs.run, hload]
  exact bind_of_ok h _

/-- And it derives the child that it prints. -/
theorem success_of_run_derive (hext : ext.toModelExternals.ReadsBack)
    {input : DeriveInput Key Cert Store PrivateKey} (hload : args.load ext files = .ok input)
    {previewOnly : Bool} {child : GCO} (htyped : child.Typed) (hfits : child.Serializable)
    (h : args.run ext encode process now files w =
      .ok (deriveOutput ext.toExternals (.success previewOnly child)) w') :
    ∃ previewOnly', mainDerive ext.toModelExternals encode process input.bundle input.parent
      input.request now input.authority w = .ok (.success previewOnly' child) w' := by
  rw [DeriveArgs.run, hload] at h
  obtain ⟨result, w₁, hderive, hpure⟩ := bind_eq_ok h
  obtain ⟨houtput, rfl⟩ := EStateM.Result.ok.inj hpure
  cases result with
  | failure code message =>
    -- the one exits with 1 and the other with 0
    have hstatus := congrArg CliOutput.exitStatus houtput
    rw [exitStatus_deriveOutput hfits, deriveOutput, exitStatus_emitFailure] at hstatus
    exact absurd hstatus one_ne_zero
  | success previewOnly' child' =>
    obtain ⟨hnarrows, -, -⟩ := of_mainDerive_success hderive
    obtain rfl := child_eq_of_deriveOutput_eq hext (typed_of_narrows hnarrows) htyped
      hnarrows.serializable_child hfits houtput
    exact ⟨previewOnly', hderive⟩

/-- `verify` exits with 0 when the verifier accepts the object. -/
theorem run_verify_success_iff {ext : CheckExternals P Key Cert Store} {asJson : Bool}
    {path bundlePath : String} {g : GCO} {bundle : TrustBundle Key Cert Store}
    (hg : loadGco ext path files = .ok g) (hbundle : loadBundle ext bundlePath files = .ok bundle) :
    (∃ output, (CheckCommand.verify path bundlePath).run ext process now asJson files w =
        .ok output w ∧ output.exitStatus = 0) ↔
      (process.forCommand bundle previewIssue).Verifies ext.toExternals now.toPy g w w := by
  constructor
  · rintro ⟨output, hrun, hzero⟩
    rcases attempt_eq_ok hrun with hbody | ⟨e, -, he⟩
    · obtain ⟨called, w₁, hcall, hpure⟩ := bind_eq_ok hbody
      rw [CheckCommand.call, cmdVerify, hg, hbundle] at hcall
      obtain ⟨result, w₂, hresult, hreport⟩ := bind_eq_ok hcall
      cases hreport
      cases hpure
      refine ⟨result, hresult, ?_⟩
      by_contra hverified
      have hstatus : (verifyReport ext.floatFormat result asJson).exitStatus = 1 := by
        rw [exitStatus_verifyReport, if_neg hverified]
      exact absurd (hzero.symm.trans hstatus) (by simp)
    · obtain ⟨text, -, hpure⟩ := except_bind_eq_ok_iff.1 he
      cases hpure
      exact absurd (hzero.symm.trans exitStatus_mainOutput_error) (by simp [CliExc.status])
  · rintro ⟨result, hresult, hverified⟩
    refine ⟨_, run_verify_of_result hg hbundle hresult, ?_⟩
    rw [exitStatus_verifyReport, if_pos hverified]

end Outcomes

/-! ### A child as a request -/

/-- The object, with another span and another attestation. -/
def GCO.reissued (g : GCO) (spanId : Uuid) (a : AttestationModel) : GCO :=
  { g with spanId := spanId, attestation := some a }

/-- To be within a parent, a child may have any span, and any attestation that is not empty. -/
theorem narrows_reissued_iff {env : Externals} {parent child : GCO} {spanId : Uuid}
    {a : AttestationModel} (ha : a.value ≠ "")
    (hattested : ∃ a, child.attestation = some a ∧ a.value ≠ "") :
    Narrows env parent (child.reissued spanId a) ↔ Narrows env parent child :=
  ⟨fun h => { h with attestation := hattested }, fun h => { h with attestation := ⟨a, rfl, ha⟩ }⟩

/-- The three commands agree. On a request for the authority of a child, `gco derive` without a key
prints this child, with a span of its own and the attestation of a preview, exactly if `gco verify`
accepts the parent, `gco validate` accepts the child against the parent, and the version of the
child is that of the parent. -/
theorem derive_agrees_with_checks (ext : DeriveExternals P Key Cert Store PrivateKey)
    (hext : ext.toModelExternals.ReadsBack) (encode : JwtEncode PrivateKey)
    (process : Config Key Cert Store V Ω) (now : DateTime) (args : DeriveArgs)
    (hkey : args.signKey = none) (childPath : String) (files : P → Option String)
    (parent child : GCO) (bundle : TrustBundle Key Cert Store)
    (hparent : loadGco ext.toCheckExternals args.parent files = .ok parent)
    (hchild : loadGco ext.toCheckExternals childPath files = .ok child)
    (hbundle : loadBundle ext.toCheckExternals args.trustBundle files = .ok bundle)
    (hrequest : loadDelegationRequest ext args.request files = .ok child.authority)
    (hattested : ∃ a, child.attestation = some a ∧ a.value ≠ "") (hfits : child.Serializable)
    (w w' : World V Ω) (spanId : Uuid) (huuid : process.uuid4 w = .ok spanId w') (asJson : Bool) :
    args.run ext encode process now files w = .ok (deriveOutput ext.toExternals (.success true
        (child.reissued spanId (previewAttestation parent.modelIdentity.text)))) w' ↔
      (∃ output, (CheckCommand.verify args.parent args.trustBundle).run ext.toCheckExternals process
          now asJson files w = .ok output w ∧ output.exitStatus = 0) ∧
        (∃ output, (CheckCommand.validate childPath args.parent).run ext.toCheckExternals process
          now asJson files w = .ok output w ∧ output.exitStatus = 0) ∧
        child.gcoVersion = parent.gcoVersion := by
  have hload : args.load ext files = .ok ⟨parent, child.authority, bundle, none⟩ :=
    DeriveArgs.load_eq_ok_iff.2
      ⟨hparent, hrequest, hbundle, DeriveArgs.loadAuthority_of_no_key hkey⟩
  have hreissued : Narrows ext.toExternals parent
      (child.reissued spanId (previewAttestation parent.modelIdentity.text)) ↔
        Narrows ext.toExternals parent child :=
    narrows_reissued_iff (preview_ne_empty parent.modelIdentity.text) hattested
  rw [run_verify_success_iff hparent hbundle]
  constructor
  · intro h
    obtain ⟨payload, -, hread⟩ := loadGco_eq_ok_iff.1 hchild
    have htyped : child.Typed := GCO.typed_of_read hread
    obtain ⟨previewOnly, hderive⟩ := success_of_run_derive hext hload
      (show (child.reissued spanId _).Typed from htyped)
      (show (child.reissued spanId _).Serializable from hfits) h
    obtain ⟨-, hverifies, hderivable, hafter, spanId', -, hsame⟩ :=
      previewDerive_success_iff.1 (mainDerive_success_iff.1 hderive)
    obtain ⟨hnarrows, -, -⟩ := of_mainDerive_success hderive
    have hversion := congrArg GCO.gcoVersion hsame
    refine ⟨hverifies, ⟨_, run_validate w, ?_⟩, hversion⟩
    rw [exitStatus_cmdValidate_of_narrows hparent hchild (hreissued.1 hnarrows)]
    exact lt_of_lt_of_le (after_toPy_iff.1 hafter) (min_le_left _ _)
  · rintro ⟨hverifies, ⟨output, hrun, hzero⟩, hversion⟩
    obtain ⟨hnarrows, hlater⟩ : Narrows ext.toExternals parent child ∧ now < child.expiresAt := by
      rw [run_validate] at hrun
      cases hrun
      obtain ⟨p, c, hp, hc, hnarrows, hlater⟩ := exitStatus_cmdValidate_iff.1 hzero
      rw [hparent] at hp
      rw [hchild] at hc
      cases hp
      cases hc
      exact ⟨hnarrows, hlater⟩
    -- the child with the new span is what its own authority is granted
    have hgranted := (hreissued.2 hnarrows).grantedChild_authority hversion
    refine run_derive_of_success hload (mainDerive_success_iff.2 (previewDerive_success_iff.2
      ⟨rfl, hverifies, hnarrows.derivable, ?_, spanId, huuid, ?_⟩))
    · have hmin : min child.authority.requestedExpiry parent.expiresAt = child.expiresAt :=
        min_eq_left hnarrows.expiresAt
      rw [hmin]
      exact after_toPy_iff.2 hlater
    · have hgranted' : grantedChild ext.toExternals parent child.authority spanId =
          (child.reissued spanId (previewAttestation parent.modelIdentity.text)).bare := hgranted
      rw [hgranted']
      rfl

/-! ### A directory with a request -/

open GcoMcp

def demoDerive : DeriveExternals String Unit Unit Unit Unit :=
  { demoCheck with
    pemKey := fun _ => none
    requestErrorText := fun _ => "1 validation error for DelegationRequest" }

def demoDeriveArgs : DeriveArgs := ⟨"parent.json", "request.json", "bundle.json", none, "gco-cli"⟩

/-- The directory of `demoChildFiles`, with a request for the authority of the child. -/
def demoRequestFiles (path : String) : Option String :=
  if path = "request.json" then
    some (jsonFile (.dict ((demoPreview none).authority.items demoExternals)))
  else demoChildFiles path

theorem loadDelegationRequest_demo : loadDelegationRequest demoDerive "request.json"
    demoRequestFiles = .ok (demoPreview none).authority :=
  loadDelegationRequest_eq_ok_iff.2 ⟨_,
    loadJson_jsonFile rfl (DelegationRequest.readable_items demoExternals
      narrows_demoPreview.serializable_child),
    DelegationRequest.read_items demoModelExternals_readsBack
      (typed_of_narrows narrows_demoPreview)⟩

theorem derive_agrees_with_checks_demo :
    demoDeriveArgs.run demoDerive jwsEncode signingProcess demoNow demoRequestFiles
      (demoWorld .empty) =
        .ok (deriveOutput demoDerive.toExternals (.success true ((demoPreview none).reissued 0
          (previewAttestation (signedRoot none).modelIdentity.text)))) (demoWorld .empty) := by
  have hparent : loadGco demoCheck "parent.json" demoRequestFiles = .ok (signedRoot none) :=
    loadGco_demoParent rfl
  have hchild : loadGco demoCheck "child.json" demoRequestFiles = .ok (demoPreview none) :=
    loadGco_eq_ok_iff.2 ⟨_, loadJson_jsonFile rfl (readable_sortKeys
        (readable_modelDump narrows_demoPreview.serializable_child)),
      GCO.read_sortKeys_modelDump demoModelExternals_readsBack
        (typed_of_narrows narrows_demoPreview)⟩
  have hread : readJson demoCheck "bundle.json" demoRequestFiles =
      readJson demoCheck "bundle.json" demoChildFiles :=
    congrArg (Option.bind · _) (if_neg (by decide))
  have hbundle : loadBundle demoCheck "bundle.json" demoRequestFiles =
      .ok (signingBundle none) := by
    rw [← loadBundle_demo, loadBundle, loadBundle, fromJsonFile, fromJsonFile, hread]
  have hvalidate : (mainOutput demoExternals.floatFormat true (cmdValidate demoCheck demoNow
      "child.json" "parent.json" true demoRequestFiles)).exitStatus = 0 :=
    (exitStatus_cmdValidate_of_narrows hparent hchild narrows_demoPreview).2
      (after_toPy_iff.1 after_demoPreview)
  have hverify : ∃ output, (CheckCommand.verify "parent.json" "bundle.json").run demoCheck
      signingProcess demoNow true demoRequestFiles (demoWorld .empty) =
        .ok output (demoWorld .empty) ∧ output.exitStatus = 0 :=
    (run_verify_success_iff hparent hbundle).2 (verifies_signedRoot none previewIssue _)
  have hattested : ∃ a, (demoPreview none).attestation = some a ∧ a.value ≠ "" :=
    ⟨_, rfl, preview_ne_empty _⟩
  have huuid : signingProcess.uuid4 (demoWorld .empty) = .ok 0 (demoWorld .empty) := rfl
  have hversion : (demoPreview none).gcoVersion = (signedRoot none).gcoVersion := rfl
  exact (derive_agrees_with_checks demoDerive demoModelExternals_readsBack jwsEncode signingProcess
    demoNow demoDeriveArgs rfl "child.json" demoRequestFiles (signedRoot none) (demoPreview none)
    (signingBundle none) hparent hchild hbundle loadDelegationRequest_demo hattested
    narrows_demoPreview.serializable_child (demoWorld .empty) (demoWorld .empty) 0 huuid true).2
      ⟨hverify, ⟨_, run_validate _, hvalidate⟩, hversion⟩

end Gco
