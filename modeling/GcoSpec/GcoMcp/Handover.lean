import GcoSpec.Gco.Maximality
import GcoSpec.Gco.Minting
import GcoSpec.GcoMcp.Replay

/-!
# A call handed over

A sender authorizes a tool call with the object it holds, derives a child for the call and attaches
it, and a receiver decides about the child. The depth of the child is one less than the sender's,
so that the receiver, configured as the sender, accepts the call exactly if the sender has a depth
of at least two for the tool (`handed_over_accepted_iff`).
-/

namespace GcoMcp

open Python Gco Python.Json

variable {Key Cert Store V Ω V' Ω' : Type}

/-! ### The receiver -/

/-- The receiver is configured as the sender, and has no replay cache. -/
structure Receives (sender : Config Key Cert Store V Ω) (receiver : Config Key Cert Store V' Ω') :
    Prop where
  crypto : receiver.crypto = sender.crypto
  trustBundle : receiver.trustBundle = sender.trustBundle
  expectedAudience : receiver.expectedAudience = sender.expectedAudience
  replayCache : receiver.replayCache = none

section Receiver

variable {sender : Config Key Cert Store V Ω} {receiver : Config Key Cert Store V' Ω'}
  {env : Externals} {now : PyDatetime} {g : GCO}

/-- What verifies for the sender verifies for the receiver. -/
theorem Receives.verifies (h : Receives sender receiver) {w w' : World V Ω}
    (hg : sender.Verifies env now g w w') (v : World V' Ω') :
    receiver.Verifies env now g v v := by
  obtain ⟨payload, exp, t, r, -, hattests, -⟩ := hg.attests
  have haudience : ¬receiver.RefusesAudience now g :=
    hattests.not_refusesAudience_of_eq h.crypto h.trustBundle h.expectedAudience
  exact (Config.verifies_iff h.replayCache).2
    ⟨rfl, payload, exp, hattests.of_bundle h.crypto h.trustBundle haudience⟩

end Receiver

/-! ### The child -/

/-- The request asks for the tool, with depth and with the scope of the call. -/
def ListsTool (request : DelegationRequest) (toolUri requestedScope : String) : Prop :=
  ∃ t ∈ request.toolAuthority,
    t.toolUri.text = toolUri ∧ 1 ≤ t.maxDepth ∧ scopeIsSubset requestedScope t.scope = true

/-- A child that was derived with the tool of the call may call it when its parent could delegate
it twice. -/
theorem grantsTool_child_iff {env : Externals} {current child : GCO} {request : DelegationRequest}
    (hnarrows : Narrows env current child) (hderivable : Derivable current request)
    (htools : child.toolAuthority = request.toolAuthority.map current.grantedTool)
    {toolUri requestedScope : String} (htokens : scopeTokens requestedScope ≠ [])
    (hlists : ListsTool request toolUri requestedScope) :
    GrantsTool child.toolAuthority toolUri (some requestedScope) ↔
      ∃ t ∈ current.toolAuthority, t.toolUri.text = toolUri ∧ 2 ≤ t.maxDepth := by
  constructor
  · rintro ⟨t, hfind, -⟩
    obtain ⟨ht, huri, hdepth, -⟩ := (grantFor?_eq_some_iff hnarrows.childToolUris).1 hfind
    rw [htools] at ht
    obtain ⟨r, hr, rfl⟩ := List.mem_map.1 ht
    obtain ⟨p, hp, hrp, -⟩ := hderivable.tools r hr
    rw [GCO.grantedTool_of_mem hderivable.parentToolUris hp hrp] at huri hdepth
    refine ⟨p, hp, by rw [← hrp]; exact huri, ?_⟩
    have hmin : 0 < min r.maxDepth (p.maxDepth - 1) := hdepth
    omega
  · rintro ⟨p, hp, hpuri, hpdepth⟩
    obtain ⟨r, hr, hruri, hrdepth, hscope⟩ := hlists
    obtain ⟨q, hq, hrq, -⟩ := hderivable.tools r hr
    -- the sender has one entry for the tool
    obtain rfl : q = p := List.inj_on_of_nodup_map hderivable.parentToolUris hq hp
      (by rw [← hrq, hruri, hpuri])
    refine ⟨current.grantedTool r, (grantFor?_eq_some_iff hnarrows.childToolUris).2 ?_, ?_⟩
    · rw [htools, GCO.grantedTool_of_mem hderivable.parentToolUris hq hrq]
      refine ⟨List.mem_map.2 ⟨r, hr, GCO.grantedTool_of_mem hderivable.parentToolUris hq hrq⟩,
        hruri, ?_, ?_⟩
      · show 0 < min r.maxDepth (q.maxDepth - 1)
        omega
      · intro hblank
        have hsubset := scopeIsSubset_iff.1 hscope
        rw [scopeTokens_of_blank hblank] at hsubset
        exact htokens (List.subset_nil.1 hsubset)
    · rintro s ⟨⟩
      exact hscope

/-! ### The call -/

/-- The preparations of a call. -/
inductive Preparation
  /-- `GovernedClientBoundary.prepare_tool_call`. -/
  | toolCall
  /-- `GovernedFanout.prepare_subcall`. -/
  | subcall (attachParent : Bool)

namespace Preparation

/-- The parent goes along with the child. -/
def attachesParent : Preparation → Bool
  | toolCall => false
  | subcall attachParent => attachParent

def run {σ : Type} (env : Externals) (rt : GovernanceRuntime σ V) (codec : GcoWireCodec)
    (current : GCO) (toolUri requestedScope : String) (delegation : DelegationRequest)
    (baseMeta : Option Meta) : Preparation → Py Exc σ (Decision V × Option Meta)
  | toolCall => prepareToolCall env rt codec current (.str toolUri) (some (.str requestedScope))
      delegation baseMeta
  | subcall attachParent => prepareSubcall env rt codec current (.str toolUri)
      (some (.str requestedScope)) delegation baseMeta attachParent

end Preparation

section Call

variable {codec : GcoWireCodec} {env : Externals} {baseMeta : Option Meta} {child : GCO}
  {parent : Option GCO} {m : Meta}

/-- The attachment leaves the capabilities as they are. -/
theorem clientAdvertisedGco_of_attach (h : codec.attach env baseMeta child parent = .ok m) :
    clientAdvertisedGco (some m) = clientAdvertisedGco baseMeta := by
  obtain ⟨-, -, hrest⟩ := GcoWireCodec.get?_of_attach h
  unfold clientAdvertisedGco
  rw [Option.bind_some, hrest clientCapabilities (by decide) (by decide), Option.bind_assoc]

theorem extracts_of_attach (h : codec.attach env baseMeta child parent = .ok m)
    (hadvertised : clientAdvertisedGco baseMeta = true)
    (hhandle : ∀ base ∈ baseMeta, base.get? metaHandle = none)
    (hvalidate : ∀ g ∈ child :: parent.toList, codec.modelValidate (g.modelDump env) = .ok g) :
    Extracts codec env (some m) ⟨child, parent, none⟩ :=
  ⟨(clientAdvertisedGco_of_attach h).trans hadvertised,
    GcoWireCodec.extract_of_attach h hvalidate hhandle⟩

/-- An attached parent that does not validate makes the entries unreadable. -/
theorem not_extracts_of_attach {p : GCO} (h : codec.attach env baseMeta child (some p) = .ok m)
    {e : Exc} (he : codec.modelValidate (p.modelDump env) = .error e) (wire : WireGco) :
    ¬Extracts codec env (some m) wire := by
  rintro ⟨-, hextract⟩
  obtain ⟨-, hparent, -⟩ := GcoWireCodec.get?_of_attach h
  obtain ⟨m', payload, hm, -, -, hwire⟩ := GcoWireCodec.of_extract_eq_ok hextract
  cases hm
  rw [hparent, Option.map_some] at hwire
  rcases hwire with ⟨⟨⟩, -⟩ | ⟨parentPayload, p', hpayload, hvalidate, -⟩
  cases hpayload
  rw [he] at hvalidate
  cases hvalidate

end Call

/-- A call that the sender prepared is accepted by a receiver that is configured as the sender,
exactly if the sender may delegate the tool twice, and, where its object goes along, that object
has no label that is not a member. -/
theorem handed_over_accepted_iff (sender : Config Key Cert Store V Ω)
    (receiver : Config Key Cert Store V' Ω') (hreceives : Receives sender receiver)
    (env : Externals) (now : PyDatetime) (codec : GcoWireCodec) (current : GCO)
    (toolUri requestedScope : String) (htokens : scopeTokens requestedScope ≠ [])
    (delegation : DelegationRequest) (hlists : ListsTool delegation toolUri requestedScope)
    (baseMeta : Option Meta) (hadvertised : clientAdvertisedGco baseMeta = true)
    (hhandle : ∀ base ∈ baseMeta, base.get? metaHandle = none) (preparation : Preparation)
    (w w' : World V Ω) (d : Decision V) (m : Meta)
    (hprepare : preparation.run env (sender.runtime env now) codec current toolUri requestedScope
      delegation baseMeta w = .ok (d, some m) w')
    (hallowed : d.allowed = true)
    (hvalidates : ∀ g, d.child = some g ∨ preparation.attachesParent = true ∧ g = current →
      ValidatesDump codec env g)
    (require : Bool) (v : World V' Ω') :
    (∃ d' v', Allows (authorizeIncoming env (receiver.runtime env now) codec require (some m)
        (.str toolUri) (some (.str requestedScope))) v d' v') ↔
      (∃ t ∈ current.toolAuthority, t.toolUri.text = toolUri ∧ 2 ≤ t.maxDepth) ∧
        (preparation.attachesParent = true → current.Typed) := by
  have hsubcall : prepareSubcall env (sender.runtime env now) codec current (.str toolUri)
      ((some requestedScope).map .str) delegation baseMeta preparation.attachesParent w =
        .ok (d, some m) w' := by
    rw [← hprepare]
    cases preparation <;> rfl
  obtain ⟨w₁, child, m', hauthorized, hderived, hattach, rfl, hm⟩ :=
    of_prepareSubcall_eq_ok hsubcall hallowed
  cases hm
  obtain ⟨hcurrent, -, -, -⟩ := (allows_authorizeToolCall_iff (some requestedScope)).1 hauthorized
  obtain ⟨issue, -, w₂, child', w₃, -, hderive, hchild, hvalidate, hd⟩ :=
    allows_deriveForSubcall_iff.1 hderived
  cases hd
  obtain ⟨tools, permissions, spanId, s₁, s₂, attestation, s₃, hplan, -, -, -, -, hmade, -⟩ :=
    GCODerivationRuntime.derive_eq_ok_iff.1 hderive
  obtain ⟨hderivable, hgranted⟩ := derivePlan_eq_ok_iff.1 hplan
  cases hgranted
  obtain ⟨hnarrows, hafter⟩ := validate_eq_ok_iff.1 hvalidate
  have hgrants := grantsTool_child_iff hnarrows hderivable (by rw [hmade]; rfl) htokens hlists
  -- the tool call on the child, as the receiver decides it
  have htool : ∀ v : World V' Ω', (∃ d' v', Allows ((receiver.runtime env now).authorizeToolCall
      env (.gco child) (.str toolUri) ((some requestedScope).map .str)) v d' v') ↔
      ∃ t ∈ current.toolAuthority, t.toolUri.text = toolUri ∧ 2 ≤ t.maxDepth := by
    intro v
    rw [← hgrants]
    constructor
    · rintro ⟨d', v', h⟩
      exact ((allows_authorizeToolCall_iff (some requestedScope)).1 h).2.2.1
    · intro h
      exact ⟨.allow, v, (allows_authorizeToolCall_iff (some requestedScope)).2
        ⟨hreceives.verifies hchild v, hafter, h, rfl⟩⟩
  have hdump := (hvalidates child (.inl rfl)).of_typed (typed_of_narrows hnarrows)
  cases hparent : preparation.attachesParent with
  | false =>
    rw [hparent] at hattach
    have hextracts : Extracts codec env (some m) ⟨child, none, none⟩ :=
      extracts_of_attach hattach hadvertised hhandle (by simpa using hdump)
    rw [authorizeIncoming_of_no_parent hextracts rfl]
    exact (htool v).trans (by simp)
  | true =>
    rw [hparent] at hattach
    by_cases htyped : current.Typed
    · have hcurrentDump := (hvalidates current (.inr ⟨hparent, rfl⟩)).of_typed htyped
      have hextracts : Extracts codec env (some m) ⟨child, some current, none⟩ :=
        extracts_of_attach hattach hadvertised hhandle (by simpa using ⟨hdump, hcurrentDump⟩)
      have hsub : Allows ((receiver.runtime env now).authorizeSubcall (.gco current) (.gco child))
          v .allow v := allows_authorizeSubcall_iff.2
        ⟨v, hreceives.verifies hcurrent v, hreceives.verifies hchild v, hvalidate, rfl⟩
      have hincoming : ∀ d' v', Allows (authorizeIncoming env (receiver.runtime env now) codec
          require (some m) (.str toolUri) ((some requestedScope).map .str)) v d' v' ↔ _ :=
        fun d' v' => allows_authorizeIncoming_of_parent hextracts rfl
      refine Iff.trans ?_ ((htool v).trans (by simp [htyped]))
      constructor
      · rintro ⟨d', v', h⟩
        obtain ⟨v₁, -, hcall⟩ := (hincoming d' v').1 h
        exact (htool v).2 ((htool v₁).1 ⟨d', v', hcall⟩)
      · rintro ⟨d', v', h⟩
        exact ⟨d', v', (hincoming d' v').2 ⟨v, hsub, h⟩⟩
    · obtain ⟨e, he⟩ := (hvalidates current (.inr ⟨hparent, rfl⟩)).of_not_typed htyped
      refine iff_of_false ?_ fun h => htyped (h.2 rfl)
      rintro ⟨d', v', h⟩
      have hextracts := not_extracts_of_attach hattach he
      rw [allows_authorizeIncoming_of_not_extracts hextracts] at h
      rw [clientAdvertisedGco_of_attach hattach, hadvertised] at h
      cases h.1

/-! ### The last depth -/

/-- A preparation that attaches no parent. -/
theorem toolCall_run_of_allows {cfg : Config Key Cert Store V Ω} {env : Externals}
    {now : PyDatetime} {codec : GcoWireCodec} {current child : GCO}
    {toolUri requestedScope : String} {delegation : DelegationRequest} {baseMeta : Option Meta}
    {m : Meta} {w w₁ w' : World V Ω}
    (hauthorized : Allows ((cfg.runtime env now).authorizeToolCall env (.gco current)
      (.str toolUri) (some (.str requestedScope))) w .allow w₁)
    (hderived : Allows ((cfg.runtime env now).deriveForSubcall env (.gco current)
      (.request delegation)) w₁ (.allowChild child) w')
    (hattach : codec.attach env baseMeta child none = .ok m) :
    Preparation.toolCall.run env (cfg.runtime env now) codec current toolUri requestedScope
      delegation baseMeta w = .ok (.allowChild child, some m) w' := by
  have hauthorized' : Allows ((cfg.runtime env now).authorizeToolCall env (.gco current)
    (.str toolUri) ((some requestedScope).map .str)) w .allow w₁ := hauthorized
  have hattach' : codec.attach env baseMeta child (if false = true then some current else none) =
      .ok m := by
    rw [if_neg (by decide)]
    exact hattach
  have hrun := prepareSubcall_of_allows hauthorized' hderived hattach'
  rw [Preparation.run, prepareToolCall]
  exact hrun

theorem demoLeafToken_ne_demoChildToken : demoLeafToken ≠ demoChildToken := by decide +kernel

/-- The request of `demoChild`, which has one depth left. -/
def demoLeafDelegation : DelegationRequest where
  toolAuthority := demoChild.toolAuthority.take 1
  stateAccessPermissions := []
  requestedExpiry := demoChild.expiresAt

/-- SHA-256 on the texts of `demoChild` and `demoLeaf`. -/
def demoLeafExternals : Externals :=
  { demoTexts with
    sha256 := tableHash
      [(canonicalText demoTexts demoChild, demoChildDigest),
        (canonicalText demoTexts demoLeaf,
          "33239807d638ee0d4c5816485dc5b89e9ba16e6764d446cadcc81d85759149ce")] }

/-- A codec with a bound that `demoLeaf` just meets. -/
def demoLeafCodec : GcoWireCodec :=
  .standard (demoReaders demoLeafExternals) (wireSize demoLeafExternals demoLeaf)

theorem canonicalDigest_demoLeafExternals :
    canonicalDigest demoLeafExternals demoChild = demoChildDigest :=
  canonicalDigest_tableHash demoTexts List.lookup_cons_self

def demoLeafClaims : Payload := [("exp", .int 1767227400), ("jti", .str "leaf-jti")]

/-- A runtime that trusts the tokens of `demoChild` and `demoLeaf`, with an authority that issues
the latter. -/
def demoLeafConfig : Config Unit Unit Unit String Unit :=
  { demoConfig with
    crypto := tokenCrypto
      [(demoChildToken, payloadFor demoLeafExternals demoChild demoChildClaims),
        (demoLeafToken, payloadFor demoLeafExternals demoLeaf demoLeafClaims)]
    issue := some fun _ _ => pure (some ⟨.jwtSvid, demoLeafToken, none⟩)
    uuid4 := pure 0xa2 }

theorem verifies_demoLeafParent (w : World String Unit) :
    demoLeafConfig.Verifies demoLeafExternals demoNow.toPy demoChild w w := by
  have hfinite : ¬tooLargeForDouble 1767227400 := by
    unfold tooLargeForDouble
    decide +kernel
  exact (Config.verifies_iff rfl).2 ⟨rfl, _, _, demoNow, PyDatetime.toUtc?_toPy demoNow,
    checkAttestation_payloadFor demoLeafExternals none demoChildToken_ne_empty rfl
      serializable_demoChild List.lookup_cons_self hfinite rfl (by decide)⟩

theorem verifies_demoLeaf (w : World String Unit) :
    demoLeafConfig.Verifies demoLeafExternals demoNow.toPy demoLeaf w w := by
  have hfinite : ¬tooLargeForDouble 1767227400 := by
    unfold tooLargeForDouble
    decide +kernel
  have hlookup : [(demoChildToken, payloadFor demoLeafExternals demoChild demoChildClaims),
      (demoLeafToken, payloadFor demoLeafExternals demoLeaf demoLeafClaims)].lookup demoLeafToken =
        some (payloadFor demoLeafExternals demoLeaf demoLeafClaims) := by
    rw [Dict.lookup_cons_ite, if_neg demoLeafToken_ne_demoChildToken, List.lookup_cons_self]
  exact (Config.verifies_iff rfl).2 ⟨rfl, _, _, demoNow, PyDatetime.toUtc?_toPy demoNow,
    checkAttestation_payloadFor demoLeafExternals none demoLeafToken_ne_empty rfl
      serializable_demoLeaf hlookup hfinite
      rfl (by decide)⟩

theorem derivePlan_demoLeaf : derivePlan demoChild demoLeafDelegation =
    .ok (demoLeaf.toolAuthority, demoLeaf.stateAccessPermissions) := rfl

theorem childWithoutAttestation_demoLeaf :
    childWithoutAttestation demoChild demoLeafDelegation 0xa2
      (canonicalDigest demoLeafExternals demoChild) demoLeaf.toolAuthority
      demoLeaf.stateAccessPermissions = demoLeaf.bare := by
  rw [canonicalDigest_demoLeafExternals]
  rfl

theorem validate_demoLeaf {a : AttestationModel} (ha : a.value ≠ "") :
    validate demoLeafExternals demoNow.toPy demoChild { demoLeaf with attestation := some a } =
      .ok () := by
  have hderivable := (derivePlan_eq_ok_iff.1 derivePlan_demoLeaf).1
  have hnarrows : Narrows demoLeafExternals demoChild
      { grantedChild demoLeafExternals demoChild demoLeafDelegation 0xa2 with
        attestation := some a } := hderivable.narrows serializable_demoChild _ ha
  rw [show grantedChild demoLeafExternals demoChild demoLeafDelegation 0xa2 = demoLeaf.bare from
    childWithoutAttestation_demoLeaf] at hnarrows
  have hafter : After demoLeaf.expiresAt demoNow.toPy :=
    ⟨demoNow.micros, PyDatetime.instant?_toPy demoNow, by decide⟩
  exact validate_eq_ok_iff.2 ⟨hnarrows, hafter⟩

theorem derives_demoLeaf :
    Allows ((demoLeafConfig.runtime demoLeafExternals demoNow.toPy).deriveForSubcall
        demoLeafExternals (.gco demoChild) (.request demoLeafDelegation)) (demoWorld .empty)
      (.allowChild demoLeaf) (demoWorld .empty) := by
  have hvalidate : validate demoLeafExternals demoNow.toPy demoChild demoLeaf = .ok () :=
    validate_demoLeaf (a := ⟨.jwtSvid, demoLeafToken, none⟩) demoLeafToken_ne_empty
  refine allows_deriveForSubcall_iff.2 ⟨_, rfl, _, demoLeaf, demoWorld .empty,
    verifies_demoLeafParent _, ?_, verifies_demoLeaf _, hvalidate, rfl⟩
  refine GCODerivationRuntime.derive_eq_ok_iff.2 ⟨demoLeaf.toolAuthority,
    demoLeaf.stateAccessPermissions, 0xa2, demoWorld .empty, demoWorld .empty,
    some ⟨.jwtSvid, demoLeafToken, none⟩, demoWorld .empty, derivePlan_demoLeaf, rfl,
    serializable_demoChild, ?_, rfl, ?_, ?_⟩
  · rw [childWithoutAttestation_demoLeaf]
    exact runtime_validate_of_ok demoLeafConfig (validate_demoLeaf (by decide)) _
  · rw [childWithoutAttestation_demoLeaf]
    rfl
  · exact runtime_validate_of_ok demoLeafConfig hvalidate _

/-- `demoChild` may call the tool and delegates it, and the receiver denies what it attached: the
depth of `demoLeaf` is zero. -/
theorem handed_over_denied :
    ListsTool demoLeafDelegation "mcp://tools/search" "read" ∧
      clientAdvertisedGco (some demoMeta) = true ∧ demoMeta.get? metaHandle = none ∧
      Receives demoLeafConfig demoLeafConfig ∧
      ValidatesDump demoLeafCodec demoLeafExternals demoLeaf ∧
      ∃ m, Preparation.toolCall.run demoLeafExternals
          (demoLeafConfig.runtime demoLeafExternals demoNow.toPy)
          demoLeafCodec demoChild "mcp://tools/search" "read"
          demoLeafDelegation (some demoMeta) (demoWorld .empty) =
            .ok (.allowChild demoLeaf, some m) (demoWorld .empty) ∧
        ¬∃ d v, Allows (authorizeIncoming demoLeafExternals
          (demoLeafConfig.runtime demoLeafExternals demoNow.toPy)
          demoLeafCodec true (some m) (.str "mcp://tools/search")
          (some (.str "read"))) (demoWorld .empty) d v := by
  have hlists : ListsTool demoLeafDelegation "mcp://tools/search" "read" :=
    ⟨⟨⟨"mcp://tools/search", by decide⟩, "read", 1⟩, by decide, rfl, le_rfl, by decide⟩
  have hadvertised : clientAdvertisedGco (some demoMeta) = true := by decide
  have hhandle : demoMeta.get? metaHandle = none := by decide
  have hreads : (demoReaders demoLeafExternals).ReadsBack := demoReaders_readsBack rfl rfl
  have hvalidates : ValidatesDump demoLeafCodec demoLeafExternals demoLeaf :=
    validatesDump_standard hreads _ demoLeaf
  obtain ⟨m, hattach⟩ : ∃ m, demoLeafCodec.attach demoLeafExternals
      (some demoMeta) demoLeaf none = .ok m :=
    GcoWireCodec.attach_standard_of_size serializable_demoLeaf (some demoMeta)
  have hauthorized : Allows ((demoLeafConfig.runtime demoLeafExternals
      demoNow.toPy).authorizeToolCall demoLeafExternals (.gco demoChild)
      (.str "mcp://tools/search") (some (.str "read"))) (demoWorld .empty) .allow
      (demoWorld .empty) :=
    (allows_authorizeToolCall_iff (some "read")).2 ⟨verifies_demoLeafParent _,
      ⟨demoNow.micros, PyDatetime.instant?_toPy demoNow, by decide⟩,
      ⟨⟨⟨"mcp://tools/search", by decide⟩, "read", 1⟩, by decide, by decide⟩, rfl⟩
  refine ⟨hlists, hadvertised, hhandle, ⟨rfl, rfl, rfl, rfl⟩, hvalidates, m,
    toolCall_run_of_allows hauthorized derives_demoLeaf hattach, ?_⟩
  have hextracts : Extracts demoLeafCodec demoLeafExternals (some m)
      ⟨demoLeaf, none, none⟩ := by
    refine extracts_of_attach hattach hadvertised ?_ ?_
    · rintro base ⟨⟩
      exact hhandle
    · intro g hg
      rw [List.mem_singleton.1 hg]
      exact hvalidates.of_typed (by rintro p ⟨⟩)
  rintro ⟨d, v, h⟩
  rw [authorizeIncoming_of_no_parent hextracts rfl] at h
  obtain ⟨-, -, ⟨t, ht, -⟩, -⟩ := (allows_authorizeToolCall_iff (some "read")).1 h
  have hnone : grantFor? demoLeaf.toolAuthority "mcp://tools/search" = none := by decide
  rw [hnone] at ht
  cases ht

theorem derives_demoChild_uncached :
    Allows ((mintingConfig.runtime demoExternals demoNow.toPy).deriveForSubcall demoExternals
      (.gco demoRoot) (.request demoDelegation)) (demoWorld .empty) (.allowChild demoChild)
      (demoWorld .empty) := by
  have hroot : mintingConfig.Verifies demoExternals demoNow.toPy demoRoot (demoWorld .empty)
      (demoWorld .empty) := (Config.verifies_iff rfl).2 ⟨rfl, _, _, attests_demoRoot⟩
  have hchild : ∀ w, mintingConfig.Verifies demoExternals demoNow.toPy demoChild w w :=
    fun w => (Config.verifies_iff rfl).2 ⟨rfl, _, _, attests_demoChild⟩
  refine allows_deriveForSubcall_iff.2 ⟨_, rfl, _, demoChild, demoWorld .empty, hroot, ?_,
    hchild _, validate_demo, rfl⟩
  refine GCODerivationRuntime.derive_eq_ok_iff.2 ⟨demoChild.toolAuthority,
    demoChild.stateAccessPermissions, 0xa1, demoWorld .empty, demoWorld .empty,
    some ⟨.jwtSvid, demoChildToken, none⟩, demoWorld .empty, derivePlan_demo, rfl,
    serializable_demoRoot, ?_, rfl, ?_, ?_⟩
  · rw [childWithoutAttestation_demo]
    exact runtime_validate_of_ok mintingConfig validate_placeholder_demo _
  · rw [childWithoutAttestation_demo]
    rfl
  · exact runtime_validate_of_ok mintingConfig validate_demo _

/-- `demoRoot` has two depths left, and the receiver accepts `demoChild`. -/
theorem handed_over_accepted_demo :
    ∃ m, Preparation.toolCall.run demoExternals (mintingConfig.runtime demoExternals demoNow.toPy)
        demoCodec demoRoot "mcp://tools/search" "read" demoDelegation
        (some demoMeta) (demoWorld .empty) = .ok (.allowChild demoChild, some m)
          (demoWorld .empty) ∧
      ∃ d v, Allows (authorizeIncoming demoExternals
        (demoConfig.runtime demoExternals demoNow.toPy) demoCodec true
        (some m) (.str "mcp://tools/search") (some (.str "read"))) (demoWorld .empty) d v := by
  obtain ⟨m, hattach⟩ : ∃ m, demoCodec.attach demoExternals (some demoMeta) demoChild none =
      .ok m :=
    GcoWireCodec.attach_standard_of_size serializable_demoChild (some demoMeta)
  have hroot : mintingConfig.Verifies demoExternals demoNow.toPy demoRoot (demoWorld .empty)
      (demoWorld .empty) := (Config.verifies_iff rfl).2 ⟨rfl, _, _, attests_demoRoot⟩
  have hauthorized : Allows ((mintingConfig.runtime demoExternals
      demoNow.toPy).authorizeToolCall demoExternals (.gco demoRoot)
      (.str "mcp://tools/search") (some (.str "read"))) (demoWorld .empty) .allow
      (demoWorld .empty) :=
    (allows_authorizeToolCall_iff (some "read")).2 ⟨hroot,
      ⟨demoNow.micros, PyDatetime.instant?_toPy demoNow, by decide⟩,
      ⟨⟨⟨"mcp://tools/search", by decide⟩, "read,write", 2⟩, by decide, by decide⟩, rfl⟩
  have hrun := toolCall_run_of_allows hauthorized derives_demoChild_uncached hattach
  have hvalidates : ValidatesDump demoCodec demoExternals demoChild :=
    validatesDump_standard demoModelExternals_readsBack _ demoChild
  refine ⟨m, hrun, (handed_over_accepted_iff mintingConfig demoConfig ⟨rfl, rfl, rfl, rfl⟩
    demoExternals demoNow.toPy demoCodec demoRoot "mcp://tools/search"
    "read" (by decide) demoDelegation
    ⟨⟨⟨"mcp://tools/search", by decide⟩, "read", 1⟩, by decide, rfl, le_rfl, by decide⟩
    (some demoMeta) (by decide) ?_ .toolCall (demoWorld .empty) (demoWorld .empty)
    (.allowChild demoChild) m hrun rfl ?_ true (demoWorld .empty)).2
    ⟨⟨⟨⟨"mcp://tools/search", by decide⟩, "read,write", 2⟩, by decide, rfl, le_rfl⟩, ?_⟩⟩
  · rintro base ⟨⟩
    decide
  · rintro g (hg | ⟨⟨⟩, -⟩)
    cases hg
    exact hvalidates
  · rintro ⟨⟩

end GcoMcp
