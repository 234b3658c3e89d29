import GcoSpec.Gco.Cached
import GcoSpec.GcoMcp.Codec
import GcoSpec.GcoMcp.Mediation
import GcoSpec.Python.IsoFormat

/-!
# Replay protection at the boundaries

A boundary call is a sequence of calls of the runtime, each of which verifies its subjects anew.
With a replay cache a token verifies once, so a boundary that presents the same token to two of
them denies what the runtime without a cache allows: both preparations do, with the token of the
object they derive from, and the server boundary does with the token of the object, once a parent
comes along (`boundary_outcomes_agree_iff`).
-/

namespace GcoMcp

open Python Gco Python.Json

variable {Key Cert Store V Ω α : Type}

/-! ### What the boundaries allow -/

section Allowed

variable {cfg : Config Key Cert Store V Ω} {env : Externals} {now : PyDatetime}
  {codec : GcoWireCodec} {w w' : World V Ω} {d : Decision V}

/-- A preparation that is allowed goes through the tool call, the derivation and the attachment. -/
theorem of_prepareSubcall_eq_ok {current : GCO} {toolUri : String} {requestedScope : Option String}
    {delegation : DelegationRequest} {baseMeta nextMeta : Option Meta} {attachParent : Bool}
    (h : prepareSubcall env (cfg.runtime env now) codec current (.str toolUri)
      (requestedScope.map .str) delegation baseMeta attachParent w = .ok (d, nextMeta) w')
    (hd : d.allowed = true) :
    ∃ w₁ child m,
      Allows ((cfg.runtime env now).authorizeToolCall env (.gco current) (.str toolUri)
        (requestedScope.map .str)) w .allow w₁ ∧
      Allows ((cfg.runtime env now).deriveForSubcall env (.gco current) (.request delegation))
        w₁ (.allowChild child) w' ∧
      codec.attach env baseMeta child (if attachParent then some current else none) = .ok m ∧
      d = .allowChild child ∧ nextMeta = some m := by
  unfold prepareSubcall at h
  obtain ⟨authorized, w₁, hauthorized, hrest⟩ := bind_eq_ok h
  by_cases ha : authorized.allowed = true
  · rw [if_neg (not_not.2 ha)] at hrest
    obtain ⟨-, -, -, rfl⟩ := (allows_authorizeToolCall_iff requestedScope).1 ⟨hauthorized, ha⟩
    obtain ⟨derived, w₂, hderived, hattach⟩ := bind_eq_ok hrest
    by_cases hb : derived.allowed = true
    · rw [if_neg (not_not.2 hb)] at hattach
      obtain ⟨-, -, -, child, -, -, -, -, -, rfl⟩ := allows_deriveForSubcall_iff.1 ⟨hderived, hb⟩
      dsimp only [Decision.allowChild] at hattach
      cases hfits : codec.attach env baseMeta child
          (if attachParent then some current else none) with
      | ok m =>
        rw [hfits] at hattach
        cases hattach
        exact ⟨w₁, child, m, ⟨hauthorized, rfl⟩, ⟨hderived, rfl⟩, hfits, rfl, rfl⟩
      | error e =>
        rw [hfits] at hattach
        obtain ⟨denied, w₃, hdenied, hresult⟩ := bind_eq_ok hattach
        cases hresult
        exact absurd ⟨hdenied, hd⟩ not_allows_denyWireError
    · rw [if_pos hb] at hattach
      cases hattach
      exact absurd hd hb
  · rw [if_pos ha] at hrest
    cases hrest
    exact absurd hd ha

/-- And what goes through them is allowed, with the object attached. -/
theorem prepareSubcall_of_allows {current child : GCO} {toolUri : String}
    {requestedScope : Option String} {delegation : DelegationRequest} {baseMeta : Option Meta}
    {attachParent : Bool} {m : Meta} {w₁ : World V Ω}
    (hauthorized : Allows ((cfg.runtime env now).authorizeToolCall env (.gco current)
      (.str toolUri) (requestedScope.map .str)) w .allow w₁)
    (hderived : Allows ((cfg.runtime env now).deriveForSubcall env (.gco current)
      (.request delegation)) w₁ (.allowChild child) w')
    (hattach : codec.attach env baseMeta child (if attachParent then some current else none) =
      .ok m) :
    prepareSubcall env (cfg.runtime env now) codec current (.str toolUri)
      (requestedScope.map .str) delegation baseMeta attachParent w =
        .ok (.allowChild child, some m) w' := by
  rw [prepareSubcall, bind_of_ok hauthorized.1, if_neg (by simp), bind_of_ok hderived.1,
    if_neg (by simp [Decision.allowChild])]
  dsimp only [Decision.allowChild]
  rw [hattach]
  rfl

/-- A preparation is allowed when the tool call is, the derivation is, and the objects fit. -/
theorem allows_prepareSubcall_iff {current : GCO} {toolUri : String}
    {requestedScope : Option String} {delegation : DelegationRequest} {baseMeta : Option Meta}
    {attachParent : Bool} :
    Allows (do
        let r ← prepareSubcall env (cfg.runtime env now) codec current (.str toolUri)
          (requestedScope.map .str) delegation baseMeta attachParent
        pure r.1) w d w' ↔
      ∃ w₁ child,
        Allows ((cfg.runtime env now).authorizeToolCall env (.gco current) (.str toolUri)
          (requestedScope.map .str)) w .allow w₁ ∧
        Allows ((cfg.runtime env now).deriveForSubcall env (.gco current) (.request delegation))
          w₁ (.allowChild child) w' ∧
        (∀ g ∈ child :: (if attachParent then some current else none).toList,
          codec.enforceSize env (g.modelDump env) = .ok ()) ∧ d = .allowChild child := by
  constructor
  · rintro ⟨h, hd⟩
    obtain ⟨r, w₀, hprepare, hresult⟩ := bind_eq_ok h
    cases hresult
    obtain ⟨w₁, child, m, hauthorized, hderived, hattach, hchild, -⟩ :=
      of_prepareSubcall_eq_ok hprepare hd
    exact ⟨w₁, child, hauthorized, hderived,
      (GcoWireCodec.attach_returns_iff baseMeta).1 ⟨m, hattach⟩, hchild⟩
  · rintro ⟨w₁, child, hauthorized, hderived, hfits, rfl⟩
    obtain ⟨nextMeta, hattach⟩ := (GcoWireCodec.attach_returns_iff baseMeta).2 hfits
    refine ⟨?_, rfl⟩
    rw [bind_apply, prepareSubcall_of_allows hauthorized hderived hattach]
    rfl

/-- The capability is advertised, and the entries of the request were extracted. -/
def Extracts (codec : GcoWireCodec) (env : Externals) (requestMeta : Option Meta)
    (wire : WireGco) : Prop :=
  clientAdvertisedGco requestMeta = true ∧ codec.extract env requestMeta = .ok wire

/-- Without the capability, or without the entries, the server boundary does not ask the runtime:
it allows only what a boundary without requirement lets pass. -/
theorem allows_authorizeIncoming_of_not_extracts {σ : Type} {rt : GovernanceRuntime σ V}
    {require : Bool} {requestMeta : Option Meta} {toolUri : Arg σ}
    {requestedScope : Option (Arg σ)} {s s' : σ}
    (h : ∀ wire, ¬Extracts codec env requestMeta wire) :
    Allows (authorizeIncoming env rt codec require requestMeta toolUri requestedScope) s d s' ↔
      clientAdvertisedGco requestMeta = false ∧ require = false ∧ d = .allow ∧ s' = s := by
  unfold authorizeIncoming
  by_cases hadvertised : clientAdvertisedGco requestMeta = true
  · rw [if_neg (not_not.2 hadvertised)]
    refine iff_of_false ?_ (by simp [hadvertised])
    cases hextract : codec.extract env requestMeta with
    | error e => exact not_allows_denyWireError
    | ok wire => exact absurd ⟨hadvertised, hextract⟩ (h wire)
  · rw [if_pos hadvertised]
    cases require with
    | true => exact iff_of_false not_allows_deny (by simp)
    | false =>
      refine allows_allow_iff.trans ?_
      simp [hadvertised]

/-- An object without a parent: the server boundary is the tool call. -/
theorem authorizeIncoming_of_no_parent {σ : Type} {rt : GovernanceRuntime σ V} {require : Bool}
    {requestMeta : Option Meta} {toolUri : Arg σ} {requestedScope : Option (Arg σ)}
    {wire : WireGco} (h : Extracts codec env requestMeta wire) (hparent : wire.parent = none) :
    authorizeIncoming env rt codec require requestMeta toolUri requestedScope =
      rt.authorizeToolCall env (.gco wire.gco) toolUri requestedScope := by
  rw [authorizeIncoming, if_neg (not_not.2 h.1), h.2]
  dsimp only
  rw [hparent]

/-- An object with a parent: the subcall has to be allowed, and then the tool call. -/
theorem allows_authorizeIncoming_of_parent {require : Bool} {requestMeta : Option Meta}
    {toolUri : String} {requestedScope : Option String} {wire : WireGco} {p : GCO}
    (h : Extracts codec env requestMeta wire) (hparent : wire.parent = some p) :
    Allows (authorizeIncoming env (cfg.runtime env now) codec require requestMeta (.str toolUri)
        (requestedScope.map .str)) w d w' ↔
      ∃ w₁, Allows ((cfg.runtime env now).authorizeSubcall (.gco p) (.gco wire.gco)) w .allow w₁ ∧
        Allows ((cfg.runtime env now).authorizeToolCall env (.gco wire.gco) (.str toolUri)
          (requestedScope.map .str)) w₁ d w' := by
  rw [authorizeIncoming, if_neg (not_not.2 h.1), h.2]
  dsimp only
  rw [hparent]
  constructor
  · rintro ⟨hrun, hd⟩
    obtain ⟨subcall, w₁, hsubcall, hrest⟩ := bind_eq_ok hrun
    by_cases ha : subcall.allowed = true
    · rw [if_neg (not_not.2 ha)] at hrest
      obtain ⟨-, -, -, -, rfl⟩ := allows_authorizeSubcall_iff.1 ⟨hsubcall, ha⟩
      exact ⟨w₁, ⟨hsubcall, rfl⟩, hrest, hd⟩
    · rw [if_pos ha] at hrest
      cases hrest
      exact absurd hd ha
  · rintro ⟨w₁, hsubcall, hrest, hd⟩
    refine ⟨?_, hd⟩
    dsimp only
    rw [bind_of_ok hsubcall.1, if_neg (by simp), hrest]

end Allowed

/-! ### Calls -/

/-- A call of a boundary. -/
inductive BoundaryCall
  | prepareToolCall (parent : GCO) (toolUri : String) (requestedScope : Option String)
    (delegation : DelegationRequest) (baseMeta : Option Meta)
  | prepareSubcall (current : GCO) (toolUri : String) (requestedScope : Option String)
    (delegation : DelegationRequest) (baseMeta : Option Meta) (attachParent : Bool)
  | authorizeIncoming (require : Bool) (requestMeta : Option Meta) (toolUri : String)
    (requestedScope : Option String)

namespace BoundaryCall

/-- The decision of the call, made of a runtime. -/
def decision {σ : Type} (env : Externals) (rt : GovernanceRuntime σ V) (codec : GcoWireCodec) :
    BoundaryCall → Py Exc σ (Decision V)
  | prepareToolCall parent toolUri requestedScope delegation baseMeta => do
      let r ← GcoMcp.prepareToolCall env rt codec parent (.str toolUri) (requestedScope.map .str)
        delegation baseMeta
      pure r.1
  | prepareSubcall current toolUri requestedScope delegation baseMeta attachParent => do
      let r ← GcoMcp.prepareSubcall env rt codec current (.str toolUri) (requestedScope.map .str)
        delegation baseMeta attachParent
      pure r.1
  | authorizeIncoming require requestMeta toolUri requestedScope =>
      GcoMcp.authorizeIncoming env rt codec require requestMeta (.str toolUri)
        (requestedScope.map .str)

/-- The call is allowed. -/
def Allowed {σ : Type} (env : Externals) (rt : GovernanceRuntime σ V) (codec : GcoWireCodec)
    (call : BoundaryCall) (s : σ) : Prop :=
  ∃ d s', Allows (call.decision env rt codec) s d s'

end BoundaryCall

section Replay

variable (cfg : Config Key Cert Store V Ω) (env : Externals) (now : PyDatetime)
  (codec : GcoWireCodec) (w : World V Ω)

/-- The request derives the child from the parent: the plan, the source of UUIDs and the authority
make it, and the validator lets it pass, with the placeholder and with the attestation. -/
def Mints (parent : GCO) (request : DelegationRequest) (child : GCO) : Prop :=
  ∃ issue ∈ cfg.issue, ∃ tools permissions spanId w₁ attestation w₂,
    derivePlan parent request = .ok (tools, permissions) ∧ cfg.uuid4 w = .ok spanId w₁ ∧
    validate env now parent
      { childWithoutAttestation parent request spanId (canonicalDigest env parent) tools
          permissions with attestation := some placeholder } = .ok () ∧
    issue parent.modelIdentity.text
      ((childWithoutAttestation parent request spanId (canonicalDigest env parent) tools
        permissions).bareItems env) w₁ = .ok attestation w₂ ∧
    child = { childWithoutAttestation parent request spanId (canonicalDigest env parent) tools
      permissions with attestation := attestation } ∧
    validate env now parent child = .ok ()

/-- A preparation passes all checks: the object attests, is current and may call the tool, and a
child is minted that attests and fits, as does the object if it goes along. -/
structure Prepares (current : GCO) (toolUri : String) (requestedScope : Option String)
    (delegation : DelegationRequest) (attached : Option GCO) : Prop where
  attested : cfg.Attested env now current
  unexpired : After current.expiresAt now
  granted : GrantsTool current.toolAuthority toolUri requestedScope
  minted : ∃ child, Mints cfg env now w current delegation child ∧ cfg.Attested env now child ∧
    ∀ g ∈ child :: attached.toList, codec.enforceSize env (g.modelDump env) = .ok ()

/-- An incoming object passes all checks, and comes with a parent that does. -/
def AcceptsWithParent (requestMeta : Option Meta) (toolUri : String)
    (requestedScope : Option String) : Prop :=
  ∃ wire p, Extracts codec env requestMeta wire ∧ wire.parent = some p ∧
    cfg.Attested env now p ∧ cfg.Attested env now wire.gco ∧
    validate env now p wire.gco = .ok () ∧
    GrantsTool wire.gco.toolAuthority toolUri requestedScope

/-- The call passes all checks, and presents one token to two calls of the runtime. -/
def PresentsTwice : BoundaryCall → Prop
  | .prepareToolCall parent toolUri requestedScope delegation _ =>
      Prepares cfg env now codec w parent toolUri requestedScope delegation none
  | .prepareSubcall current toolUri requestedScope delegation _ attachParent =>
      Prepares cfg env now codec w current toolUri requestedScope delegation
        (if attachParent then some current else none)
  | .authorizeIncoming _ requestMeta toolUri requestedScope =>
      AcceptsWithParent cfg env now codec requestMeta toolUri requestedScope

/-- The objects whose tokens the call presents or mints. -/
def Involves (call : BoundaryCall) (g : GCO) : Prop :=
  match call with
  | .prepareToolCall parent _ _ delegation _ =>
      g = parent ∨ Mints cfg env now w parent delegation g
  | .prepareSubcall current _ _ delegation _ _ =>
      g = current ∨ Mints cfg env now w current delegation g
  | .authorizeIncoming _ requestMeta _ _ =>
      ∃ wire, Extracts codec env requestMeta wire ∧ (g = wire.gco ∨ wire.parent = some g)

/-- The cache has room for the tokens of the call, and none of their `jti`s, which are non-empty
and differ from object to object. -/
structure FreshTokens (cache : InMemoryReplayCache) (call : BoundaryCall) : Prop where
  room : cache.entries.size + 2 ≤ cache.maxEntries
  unrecorded : ∀ g, Involves cfg env now codec w call g → ∀ payload exp,
    cfg.Attests env now g payload exp → ∃ jti, jti ≠ "" ∧
      payload.lookup "jti" = some (.str jti) ∧ cache.entries.get? jti = none
  distinct : ∀ g g', Involves cfg env now codec w call g → Involves cfg env now codec w call g' →
    g ≠ g' → ∀ payload exp payload' exp', cfg.Attests env now g payload exp →
      cfg.Attests env now g' payload' exp' → payload.lookup "jti" ≠ payload'.lookup "jti"

variable {cfg env now codec w}

/-! ### Without a cache -/

theorem mints_iff {parent child : GCO} {request : DelegationRequest} :
    Mints cfg env now w parent request child ↔ ∃ issue ∈ cfg.issue, ∃ w₂,
      (GCODerivationRuntime.mk issue (cfg.runtime env now).validate cfg.uuid4).derive env parent
        request w = .ok child w₂ := by
  have hvalidate : ∀ p c s, validate env now p c = .ok () →
      (cfg.runtime env now).validate p c s = .ok () s := by
    intro p c s h
    show (Py.ofExcept (validate env now p c) : Py Exc (World V Ω) Unit) s = _
    rw [h]
    rfl
  refine exists_congr fun issue => and_congr_right fun _ => ?_
  simp only [GCODerivationRuntime.derive_eq_ok_iff]
  constructor
  · rintro ⟨tools, permissions, spanId, w₁, attestation, w₂, hplan, huuid, hplaceholder, hissue,
      rfl, hchild⟩
    exact ⟨w₂, tools, permissions, spanId, w₁, w₁, attestation, w₂, hplan, huuid,
      (validate_eq_ok_iff.1 hplaceholder).1.serializable, hvalidate _ _ _ hplaceholder, hissue,
      rfl, hvalidate _ _ _ hchild⟩
  · rintro ⟨w₂, tools, permissions, spanId, w₁, w₁', attestation, w₂', hplan, huuid,
      -, hplaceholder, hissue, rfl, hchild⟩
    obtain ⟨hplaceholder', rfl⟩ := Py.ofExcept_eq_ok hplaceholder
    obtain ⟨hchild', rfl⟩ := Py.ofExcept_eq_ok hchild
    exact ⟨tools, permissions, spanId, _, attestation, _, hplan, huuid, hplaceholder', hissue, rfl,
      hchild'⟩

/-- Without a cache, a preparation is allowed when it passes all checks. -/
theorem allowed_prepareSubcall_iff (hcache : cfg.replayCache = none) {current : GCO}
    {toolUri : String} {requestedScope : Option String} {delegation : DelegationRequest}
    {baseMeta : Option Meta} {attachParent : Bool} :
    (BoundaryCall.prepareSubcall current toolUri requestedScope delegation baseMeta
        attachParent).Allowed env (cfg.runtime env now) codec w ↔
      Prepares cfg env now codec w current toolUri requestedScope delegation
        (if attachParent then some current else none) := by
  simp only [BoundaryCall.Allowed, BoundaryCall.decision, allows_prepareSubcall_iff,
    allows_authorizeToolCall_iff, allows_deriveForSubcall_iff, Config.verifies_iff hcache]
  constructor
  · rintro ⟨d, w', w₁, child, ⟨⟨rfl, hattested⟩, hafter, hgrants, -⟩, ⟨issue, hissue, w₂, child',
      w₃, ⟨rfl, -⟩, hderive, ⟨rfl, hchild⟩, -, hd⟩, hfits, rfl⟩
    cases hd
    exact ⟨hattested, hafter, hgrants, child, mints_iff.2 ⟨issue, hissue, _, hderive⟩, hchild,
      hfits⟩
  · rintro ⟨hattested, hafter, hgrants, child, hmints, hchild, hfits⟩
    have hvalidate : validate env now current child = .ok () := by
      obtain ⟨_, _, _, _, _, _, _, _, _, _, _, _, _, h⟩ := hmints
      exact h
    obtain ⟨issue, hissue, w₂, hderive⟩ := mints_iff.1 hmints
    exact ⟨_, w₂, w, child, ⟨⟨rfl, hattested⟩, hafter, hgrants, trivial⟩, ⟨issue, hissue, w, child,
      w₂,
      ⟨rfl, hattested⟩, hderive, ⟨rfl, hchild⟩, hvalidate, rfl⟩, hfits, rfl⟩

/-- Without a cache, an object with a parent is accepted when both pass all checks. -/
theorem allowed_authorizeIncoming_iff_of_parent (hcache : cfg.replayCache = none) {require : Bool}
    {requestMeta : Option Meta} {toolUri : String} {requestedScope : Option String}
    {wire : WireGco} {p : GCO} (h : Extracts codec env requestMeta wire)
    (hparent : wire.parent = some p) :
    (BoundaryCall.authorizeIncoming require requestMeta toolUri requestedScope).Allowed env
        (cfg.runtime env now) codec w ↔
      AcceptsWithParent cfg env now codec requestMeta toolUri requestedScope := by
  simp only [BoundaryCall.Allowed, BoundaryCall.decision,
    allows_authorizeIncoming_of_parent h hparent, allows_authorizeSubcall_iff,
    allows_authorizeToolCall_iff, Config.verifies_iff hcache]
  constructor
  · rintro ⟨d, w', w₁, ⟨w₂, ⟨-, hp⟩, ⟨-, hg⟩, hvalidate, -⟩, -, -, hgrants, -⟩
    exact ⟨wire, p, h, hparent, hp, hg, hvalidate, hgrants⟩
  · rintro ⟨wire', p', h', hparent', hp, hg, hvalidate, hgrants⟩
    obtain rfl : wire = wire' := Except.ok.inj (h.2.symm.trans h'.2)
    obtain rfl : p = p' := Option.some.inj (hparent.symm.trans hparent')
    have hafter := (validate_eq_ok_iff.1 hvalidate).2
    exact ⟨.allow, w, w, ⟨w, ⟨rfl, hp⟩, ⟨rfl, hg⟩, hvalidate, trivial⟩, ⟨rfl, hg⟩, hafter,
      hgrants, rfl⟩

/-! ### With a cache -/

variable {w' : World V (InMemoryReplayCache × Ω)}

/-- With a cache no preparation is allowed: the derivation verifies the token of the tool call. -/
theorem not_allowed_prepareSubcall_withCache {current : GCO} {toolUri : String}
    {requestedScope : Option String} {delegation : DelegationRequest} {baseMeta : Option Meta}
    {attachParent : Bool} :
    ¬(BoundaryCall.prepareSubcall current toolUri requestedScope delegation baseMeta
        attachParent).Allowed env (cfg.withCache.runtime env now) codec w' := by
  rintro ⟨d, s, h⟩
  obtain ⟨w₁, child, hauthorized, hderived, -, -⟩ := allows_prepareSubcall_iff.1 h
  obtain ⟨hfirst, -⟩ := (allows_authorizeToolCall_iff requestedScope).1 hauthorized
  obtain ⟨-, -, w₂, -, -, hsecond, -⟩ := allows_deriveForSubcall_iff.1 hderived
  exact Config.not_verifies_again hfirst hsecond

/-- With a cache no object with a parent is accepted: the tool call verifies the token of the
subcall. -/
theorem not_allowed_authorizeIncoming_withCache {require : Bool} {requestMeta : Option Meta}
    {toolUri : String} {requestedScope : Option String} {wire : WireGco} {p : GCO}
    (h : Extracts codec env requestMeta wire) (hparent : wire.parent = some p) :
    ¬(BoundaryCall.authorizeIncoming require requestMeta toolUri requestedScope).Allowed env
        (cfg.withCache.runtime env now) codec w' := by
  rintro ⟨d, s, hallows⟩
  obtain ⟨w₁, hsubcall, htool⟩ := (allows_authorizeIncoming_of_parent h hparent).1 hallows
  obtain ⟨w₂, -, hfirst, -⟩ := allows_authorizeSubcall_iff.1 hsubcall
  obtain ⟨hsecond, -⟩ := (allows_authorizeToolCall_iff requestedScope).1 htool
  exact Config.not_verifies_again hfirst hsecond

/-- A token whose `jti` is new verifies in a cache with room. -/
theorem verifies_of_fresh {cache : InMemoryReplayCache} {g : GCO}
    (hroom : cache.entries.size < cache.maxEntries)
    (hfresh : ∀ payload exp, cfg.Attests env now g payload exp → ∃ jti, jti ≠ "" ∧
      payload.lookup "jti" = some (.str jti) ∧ cache.entries.get? jti = none) :
    (∃ s, cfg.withCache.Verifies env now g (w.withCache cache) s) ↔ cfg.Attested env now g := by
  simp only [Config.verifies_withCache_iff]
  constructor
  · rintro ⟨s, payload, exp, t, jti, -, hattests, -⟩
    exact ⟨payload, exp, hattests⟩
  · rintro ⟨payload, exp, hattests⟩
    obtain ⟨jti, hne, hjti, hnone⟩ := hfresh payload exp hattests
    obtain ⟨t, ht, -⟩ := id hattests
    have hsize : (cache.evictExpired t).entries.size ≤ cache.entries.size :=
      Dict.size_filter_le _ _
    have hrecord : (cache.checkAndRecord jti exp t).1 = true := by
      rw [InMemoryReplayCache.checkAndRecord_fst, InMemoryReplayCache.live, hnone]
      exact ⟨rfl, by omega⟩
    exact ⟨_, payload, exp, t, jti, ht, hattests, hne, hjti, hrecord, rfl⟩

/-- On fresh tokens, a runtime with a replay cache allows what it allows without one, exactly if
the call does not pass all checks with a token that it presents twice. -/
theorem boundary_outcomes_agree_iff (cfg : Config Key Cert Store V Ω)
    (hcache : cfg.replayCache = none) (env : Externals) (now : PyDatetime) (codec : GcoWireCodec)
    (call : BoundaryCall) (w : World V Ω) (cache : InMemoryReplayCache)
    (hfresh : FreshTokens cfg env now codec w cache call) :
    (call.Allowed env (cfg.withCache.runtime env now) codec (w.withCache cache) ↔
      call.Allowed env (cfg.runtime env now) codec w) ↔
      ¬PresentsTwice cfg env now codec w call := by
  cases call with
  | prepareToolCall parent toolUri requestedScope delegation baseMeta =>
    -- a fanout that does not attach the parent
    have hallowed : (BoundaryCall.prepareSubcall parent toolUri requestedScope delegation baseMeta
        false).Allowed env (cfg.runtime env now) codec w ↔ Prepares cfg env now codec w parent
          toolUri requestedScope delegation none := allowed_prepareSubcall_iff hcache
    exact (iff_false_left not_allowed_prepareSubcall_withCache).trans (not_congr hallowed)
  | prepareSubcall current toolUri requestedScope delegation baseMeta attachParent =>
    exact (iff_false_left not_allowed_prepareSubcall_withCache).trans
      (not_congr (allowed_prepareSubcall_iff hcache))
  | authorizeIncoming require requestMeta toolUri requestedScope =>
    by_cases hextracts : ∃ wire, Extracts codec env requestMeta wire
    · obtain ⟨wire, h⟩ := hextracts
      cases hparent : wire.parent with
      | some p =>
        exact (iff_false_left (not_allowed_authorizeIncoming_withCache h hparent)).trans
          (not_congr (allowed_authorizeIncoming_iff_of_parent hcache h hparent))
      | none =>
        have htwice : ¬PresentsTwice cfg env now codec w
            (.authorizeIncoming require requestMeta toolUri requestedScope) := by
          rintro ⟨wire', p, h', hsome, -⟩
          obtain rfl : wire = wire' := Except.ok.inj (h.2.symm.trans h'.2)
          rw [hparent] at hsome
          cases hsome
        refine iff_of_true ?_ htwice
        -- one verification, of a fresh token
        have hroom := hfresh.room
        have hverifies := verifies_of_fresh (w := w) (by omega)
          (hfresh.unrecorded wire.gco ⟨wire, h, .inl rfl⟩)
        simp only [BoundaryCall.Allowed, BoundaryCall.decision,
          authorizeIncoming_of_no_parent h hparent, allows_authorizeToolCall_iff]
        constructor
        · rintro ⟨d, s, hs, hafter, hgrants, rfl⟩
          exact ⟨.allow, w, (Config.verifies_iff hcache).2 ⟨rfl, hverifies.1 ⟨s, hs⟩⟩, hafter,
            hgrants, rfl⟩
        · rintro ⟨d, s, hs, hafter, hgrants, rfl⟩
          obtain ⟨s', hs'⟩ := hverifies.2 ((Config.verifies_iff hcache).1 hs).2
          exact ⟨.allow, s', hs', hafter, hgrants, rfl⟩
    · -- the runtime is not asked
      rw [not_exists] at hextracts
      have htwice : ¬PresentsTwice cfg env now codec w
          (.authorizeIncoming require requestMeta toolUri requestedScope) := by
        rintro ⟨wire, p, h, -⟩
        exact hextracts wire h
      refine iff_of_true ?_ htwice
      simp only [BoundaryCall.Allowed, BoundaryCall.decision,
        allows_authorizeIncoming_of_not_extracts hextracts]
      constructor
      · rintro ⟨d, s, hadvertised, hrequire, rfl, rfl⟩
        exact ⟨.allow, w, hadvertised, hrequire, rfl, rfl⟩
      · rintro ⟨d, s, hadvertised, hrequire, rfl, rfl⟩
        exact ⟨.allow, _, hadvertised, hrequire, rfl, rfl⟩

end Replay

/-! ### A first presentation that is denied -/

/-- A runtime as `demoConfig`, with an authority that issues the token of `demoChild`. -/
def mintingConfig : Config Unit Unit Unit String Unit :=
  { demoConfig with
    issue := some fun _ _ => pure (some ⟨.jwtSvid, demoChildToken, none⟩)
    uuid4 := pure 0xa1 }

/-- The request for `demoChild`. -/
def demoDelegation : DelegationRequest where
  toolAuthority := demoChild.toolAuthority
  stateAccessPermissions := demoChild.stateAccessPermissions
  requestedExpiry := demoChild.expiresAt

/-- Readers that undo the texts of `demoTexts`. -/
def demoReaders (env : Externals) : ModelExternals :=
  { env with
    readInt := fun x => match x with
      | .int n => some n
      | _ => none
    readUuid := fun x => x.str?.bind Uuid.ofStr?
    readDatetime := fun x => x.str?.bind fun s => (DateTime.readIso s.toList).map DateTime.toPy
    errorLocs := fun _ => []
    errorText := fun _ => "1 validation error for GCO" }

theorem demoReaders_readsBack {env : Externals} (huuid : env.dumpUuid = demoTexts.dumpUuid)
    (hdatetime : env.dumpDatetime = demoTexts.dumpDatetime) : (demoReaders env).ReadsBack where
  int _ := rfl
  uuid u := by
    have hread : ∀ s, (demoReaders env).readUuid (.str s) = Uuid.ofStr? s := fun _ => rfl
    have hdump : (demoReaders env).dumpUuid u = u.str := congrFun huuid u
    rw [hdump, hread, Uuid.ofStr?_str]
  datetime t := by
    have hread : ∀ s, (demoReaders env).readDatetime (.str s) =
        (DateTime.readIso s.toList).map DateTime.toPy := fun _ => rfl
    have hdump : (demoReaders env).dumpDatetime t = String.ofList (t.isoBody ++ ['Z']) :=
      congrFun hdatetime t
    rw [hdump, hread, String.toList_ofList, DateTime.readIso_isoBody, Option.map_some]

def demoModelExternals : ModelExternals := demoReaders demoExternals

theorem demoModelExternals_readsBack : demoModelExternals.ReadsBack :=
  demoReaders_readsBack rfl rfl

/-- The codec of the package, with a bound on the size of an object that `demoChild` just meets. -/
def demoCodec : GcoWireCodec := .standard demoModelExternals (wireSize demoExternals demoChild)

theorem derivePlan_demo : derivePlan demoRoot demoDelegation =
    .ok (demoChild.toolAuthority, demoChild.stateAccessPermissions) := rfl

theorem childWithoutAttestation_demo :
    childWithoutAttestation demoRoot demoDelegation 0xa1 (canonicalDigest demoExternals demoRoot)
      demoChild.toolAuthority demoChild.stateAccessPermissions = demoChild.bare := by
  rw [canonicalDigest_demoRoot]
  rfl

theorem fits_demoChild :
    demoCodec.enforceSize demoExternals (demoChild.modelDump demoExternals) = .ok () :=
  GcoWireCodec.enforceSize_eq_ok_iff.2 ⟨serializable_demoChild, le_rfl⟩

theorem validate_placeholder_demo : validate demoExternals demoNow.toPy demoRoot
    { demoChild with attestation := some placeholder } = .ok () :=
  validate_eq_ok_iff.2 ⟨{ narrows_demo with attestation := ⟨_, rfl, by decide⟩ },
    demoNow.micros, PyDatetime.instant?_toPy demoNow, by decide⟩

theorem mints_demo_iff {child : GCO} :
    Mints mintingConfig demoExternals demoNow.toPy (demoWorld .empty) demoRoot demoDelegation
      child ↔ child = demoChild := by
  constructor
  · rintro ⟨issue, hissue, tools, permissions, spanId, w₁, attestation, w₂, hplan, huuid, -,
      hattestation, rfl, -⟩
    rw [derivePlan_demo] at hplan
    cases hplan
    cases huuid
    cases hissue
    cases hattestation
    rw [childWithoutAttestation_demo]
    rfl
  · rintro rfl
    refine ⟨_, rfl, demoChild.toolAuthority, demoChild.stateAccessPermissions, 0xa1,
      demoWorld .empty, _, demoWorld .empty, derivePlan_demo, rfl, ?_, rfl, ?_, validate_demo⟩
    · rw [childWithoutAttestation_demo]
      exact validate_placeholder_demo
    · rw [childWithoutAttestation_demo]
      rfl

/-- The preparation of a call of a tool, with the request for `demoChild`. -/
def demoPreparation (toolUri : String) : BoundaryCall :=
  .prepareToolCall demoRoot toolUri (some "read") demoDelegation none

/-- The cache is new, and the tokens of `demoRoot` and `demoChild` have a `jti` each. -/
theorem freshTokens_demo {call : BoundaryCall}
    (hinvolves : ∀ g, Involves mintingConfig demoExternals demoNow.toPy demoCodec
      (demoWorld .empty) call g → g = demoRoot ∨ g = demoChild) :
    FreshTokens mintingConfig demoExternals demoNow.toPy demoCodec (demoWorld .empty) .new
      call := by
  have hroot : mintingConfig.Attests demoExternals demoNow.toPy demoRoot _ _ := attests_demoRoot
  have hchild : mintingConfig.Attests demoExternals demoNow.toPy demoChild _ _ :=
    attests_demoChild
  have hjti : (demoPayload demoRoot demoRootClaims).lookup "jti" ≠
      (demoPayload demoChild demoChildClaims).lookup "jti" := by
    show some (PyVal.str "root-jti") ≠ some (.str "child-jti")
    simp
  refine ⟨by decide, ?_, ?_⟩
  · intro g hg payload exp hattests
    rcases hinvolves g hg with rfl | rfl
    · obtain ⟨rfl, rfl⟩ := hroot.unique hattests
      exact ⟨"root-jti", by decide, rfl, rfl⟩
    · obtain ⟨rfl, rfl⟩ := hchild.unique hattests
      exact ⟨"child-jti", by decide, rfl, rfl⟩
  · intro g g' hg hg' hne payload exp payload' exp' hattests hattests'
    rcases hinvolves g hg with rfl | rfl <;> rcases hinvolves g' hg' with rfl | rfl
    · exact absurd rfl hne
    · obtain ⟨rfl, rfl⟩ := hroot.unique hattests
      obtain ⟨rfl, rfl⟩ := hchild.unique hattests'
      exact hjti
    · obtain ⟨rfl, rfl⟩ := hchild.unique hattests
      obtain ⟨rfl, rfl⟩ := hroot.unique hattests'
      exact hjti.symm
    · exact absurd rfl hne

theorem freshTokens_demoPreparation (toolUri : String) : FreshTokens mintingConfig demoExternals
    demoNow.toPy demoCodec (demoWorld .empty) .new (demoPreparation toolUri) :=
  freshTokens_demo fun _ h => h.imp_right mints_demo_iff.1

theorem prepares_demo : Prepares mintingConfig demoExternals demoNow.toPy demoCodec
    (demoWorld .empty) demoRoot "mcp://tools/search" (some "read") demoDelegation none where
  attested := ⟨_, _, attests_demoRoot⟩
  unexpired := ⟨demoNow.micros, PyDatetime.instant?_toPy demoNow, by decide⟩
  granted := ⟨⟨⟨"mcp://tools/search", by decide⟩, "read,write", 2⟩, by decide, by decide⟩
  minted := ⟨demoChild, mints_demo_iff.2 rfl, ⟨_, _, attests_demoChild⟩, by
    simpa using fits_demoChild⟩

/-- Nothing was presented before, and the runtime with the cache denies what it allows without:
the derivation meets the token that the tool call has recorded. -/
theorem first_presentation_denied :
    FreshTokens mintingConfig demoExternals demoNow.toPy demoCodec (demoWorld .empty) .new
      (demoPreparation "mcp://tools/search") ∧
    (demoPreparation "mcp://tools/search").Allowed demoExternals
      (mintingConfig.runtime demoExternals demoNow.toPy) demoCodec (demoWorld .empty) ∧
    ¬(demoPreparation "mcp://tools/search").Allowed demoExternals
      (mintingConfig.withCache.runtime demoExternals demoNow.toPy) demoCodec
      ((demoWorld .empty).withCache .new) :=
  ⟨freshTokens_demoPreparation _, (allowed_prepareSubcall_iff rfl).2 prepares_demo,
    not_allowed_prepareSubcall_withCache⟩

/-! ### A request that is allowed -/

/-- The `_meta` of a client that supports the extension. -/
def demoMeta : Meta :=
  Dict.empty.set clientCapabilities (.dict [("extensions", .dict [(extensionId, .dict
    [("version", .str "1"), ("gcoVersions", .list [.str "1.0.0"]), ("requireGco", .bool true),
      ("maxGcoBytes", .int 65536), ("handleSupport", .bool false)])])])

/-- A request of such a client with `demoChild`, and no parent. -/
def demoRequestMeta : Meta := demoMeta.set metaGco (demoChild.modelDump demoExternals)

def demoIncoming : BoundaryCall :=
  .authorizeIncoming true (some demoRequestMeta) "mcp://tools/search" (some "read")

theorem extracts_demoRequestMeta :
    Extracts demoCodec demoExternals (some demoRequestMeta) ⟨demoChild, none, none⟩ := by
  have hload : demoCodec.loadGco demoExternals (demoChild.modelDump demoExternals) =
      .ok demoChild := GcoWireCodec.loadGco_of_fits fits_demoChild
    ((validatesDump_standard demoModelExternals_readsBack _ demoChild).of_typed
      (typed_of_narrows narrows_demo))
  refine ⟨rfl, GcoWireCodec.extract_of_entries rfl rfl ?_ rfl⟩
  intro g hg
  rw [List.mem_singleton.1 hg]
  exact hload

/-- Both runtimes allow the request. -/
theorem boundary_outcomes_agree_demo :
    demoIncoming.Allowed demoExternals (mintingConfig.runtime demoExternals demoNow.toPy)
        demoCodec (demoWorld .empty) ∧
      demoIncoming.Allowed demoExternals
        (mintingConfig.withCache.runtime demoExternals demoNow.toPy) demoCodec
        ((demoWorld .empty).withCache .new) := by
  have hwire : ∀ wire, Extracts demoCodec demoExternals (some demoRequestMeta) wire →
      wire = ⟨demoChild, none, none⟩ := fun wire h =>
    Except.ok.inj (h.2.symm.trans extracts_demoRequestMeta.2)
  have hfresh : FreshTokens mintingConfig demoExternals demoNow.toPy demoCodec
      (demoWorld .empty) .new demoIncoming := by
    refine freshTokens_demo ?_
    rintro g ⟨wire, h, hg⟩
    rw [hwire wire h] at hg
    exact .inr (hg.resolve_right (by simp))
  have htwice : ¬PresentsTwice mintingConfig demoExternals demoNow.toPy demoCodec
      (demoWorld .empty) demoIncoming := by
    rintro ⟨wire, p, h, hparent, -⟩
    rw [hwire wire h] at hparent
    cases hparent
  have hallowed : demoIncoming.Allowed demoExternals
      (mintingConfig.runtime demoExternals demoNow.toPy) demoCodec (demoWorld .empty) := by
    refine ⟨.allow, demoWorld .empty, ?_⟩
    rw [demoIncoming, BoundaryCall.decision,
      authorizeIncoming_of_no_parent extracts_demoRequestMeta rfl]
    exact (allows_authorizeToolCall_iff (some "read")).2
      ⟨(Config.verifies_iff rfl).2 ⟨rfl, _, _, attests_demoChild⟩,
        ⟨demoNow.micros, PyDatetime.instant?_toPy demoNow, by decide⟩,
        ⟨⟨⟨"mcp://tools/search", by decide⟩, "read", 1⟩, by decide, by decide⟩, rfl⟩
  exact ⟨hallowed, ((boundary_outcomes_agree_iff mintingConfig rfl demoExternals demoNow.toPy
    demoCodec demoIncoming (demoWorld .empty) .new hfresh).2 htwice).2 hallowed⟩

end GcoMcp
