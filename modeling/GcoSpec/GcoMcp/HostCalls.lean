import GcoSpec.Gco.Authorities
import GcoSpec.GcoMcp.Replay

/-!
# Calls at a host

A host takes calls of its runtime and of the MCP boundaries over it, on objects and requests that
may come from anyone. `HostCall` is such a call; `subject?` is the object it is made with, and
`parent?` the one that is presented along with it.

* `HostCall.vouched_of_allows`: what an allowed call says. The objects it is about are authentic,
  and the subject grants what was asked for.
* `HostCall.leaves_perform`: what a call, however it ends, adds to the record of the authorities.
-/

namespace GcoMcp

open Python Gco Python.Json

/-- A call of the runtime, or of a boundary. -/
inductive HostCall (V : Type)
  | authorizeSubcall (parent child : GCO)
  | deriveForSubcall (parent : GCO) (request : DelegationRequest)
  | authorizeToolCall (gco : GCO) (toolUri : String) (requestedScope : Option String)
  | authorizeStateAccess (gco : GCO) (ns : String) (mode : ModeText)
  | readState (gco : GCO) (ns key : String)
  | writeState (gco : GCO) (ns key : String) (value : V) (mode : ModeText)
  | boundary (codec : GcoWireCodec) (call : BoundaryCall)

variable {Key Cert Store V Ω : Type}

namespace HostCall

/-- The decision of the call. -/
def perform (env : Externals) (rt : GovernanceRuntime (World V Ω) V) :
    HostCall V → Py Exc (World V Ω) (Decision V)
  | authorizeSubcall parent child => rt.authorizeSubcall (.gco parent) (.gco child)
  | deriveForSubcall parent request => rt.deriveForSubcall env (.gco parent) (.request request)
  | authorizeToolCall gco toolUri requestedScope =>
      rt.authorizeToolCall env (.gco gco) (.str toolUri) (requestedScope.map .str)
  | authorizeStateAccess gco ns mode => rt.authorizeStateAccess (.gco gco) (.str ns) mode.toMode
  | readState gco ns key => rt.readState (.gco gco) (.str ns) (.str key)
  | writeState gco ns key value mode =>
      rt.writeState (.gco gco) (.str ns) (.str key) value mode.toMode
  | boundary codec call => call.decision env rt codec

/-- What the server boundary takes from a request. -/
def received (env : Externals) (codec : GcoWireCodec) (requestMeta : Option Meta) :
    Option WireGco :=
  if clientAdvertisedGco requestMeta then (codec.extract env requestMeta).toOption else none

theorem received_eq_some_iff {env : Externals} {codec : GcoWireCodec} {requestMeta : Option Meta}
    {wire : WireGco} :
    received env codec requestMeta = some wire ↔ Extracts codec env requestMeta wire := by
  unfold received Extracts
  by_cases h : clientAdvertisedGco requestMeta = true
  · rw [if_pos h]
    cases codec.extract env requestMeta <;> simp [Except.toOption, h]
  · rw [if_neg h]
    simp [h]

/-- The object the call is made with. -/
def subject? (env : Externals) : HostCall V → Option GCO
  | authorizeSubcall _ child => some child
  | deriveForSubcall parent _ => some parent
  | authorizeToolCall gco _ _ | authorizeStateAccess gco _ _ | readState gco _ _ |
    writeState gco _ _ _ _ => some gco
  | boundary _ (.prepareToolCall parent _ _ _ _) => some parent
  | boundary _ (.prepareSubcall current _ _ _ _ _) => some current
  | boundary codec (.authorizeIncoming _ requestMeta _ _) =>
      (received env codec requestMeta).map WireGco.gco

/-- The parent that is presented along with it. -/
def parent? (env : Externals) : HostCall V → Option GCO
  | authorizeSubcall parent _ => some parent
  | boundary codec (.authorizeIncoming _ requestMeta _ _) =>
      (received env codec requestMeta).bind WireGco.parent
  | _ => none

/-- The objects that whoever makes the call presents. -/
def presented (env : Externals) (call : HostCall V) : List GCO :=
  (call.subject? env).toList ++ (call.parent? env).toList

/-- The tool calls among them: the URI and the scope. -/
def tool? : HostCall V → Option (String × Option String)
  | authorizeToolCall _ toolUri requestedScope => some (toolUri, requestedScope)
  | boundary _ (.prepareToolCall _ toolUri requestedScope _ _) => some (toolUri, requestedScope)
  | boundary _ (.prepareSubcall _ toolUri requestedScope _ _ _) => some (toolUri, requestedScope)
  | boundary _ (.authorizeIncoming _ _ toolUri requestedScope) => some (toolUri, requestedScope)
  | _ => none

/-- The accesses to a namespace among them: the namespace and the mode. -/
def access? : HostCall V → Option (String × ModeText)
  | authorizeStateAccess _ ns mode => some (ns, mode)
  | readState _ ns _ => some (ns, .member .read)
  | writeState _ ns _ _ mode => some (ns, mode)
  | _ => none

/-- The object grants what is asked for to those `hops` delegations below it. -/
structure CoveredBy (call : HostCall V) (upper : GCO) (hops : ℕ) : Prop where
  tool : ∀ asked ∈ call.tool?, ∃ t ∈ upper.toolAuthority, t.toolUri.text = asked.1 ∧
    (∀ scope ∈ asked.2, scopeTokens scope ⊆ scopeTokens t.scope) ∧ hops < t.maxDepth
  access : ∀ asked ∈ call.access?, ∃ m, asked.2.accessMode? = some m ∧ m ≠ .none ∧
    ∃ p ∈ upper.stateAccessPermissions, p.namespace = asked.1 ∧
      accessAllows p.accessMode (.member m) = true

/-- A request without the capability, at a boundary that does not require it. -/
def Ungoverned : HostCall V → Prop
  | boundary _ (.authorizeIncoming require requestMeta _ _) =>
      require = false ∧ clientAdvertisedGco requestMeta = false
  | _ => False

/-- What an object grants to itself, its ancestors grant to it. -/
theorem CoveredBy.of_attenuates {call : HostCall V} {upper g : GCO} {n : ℕ}
    (h : call.CoveredBy g 0) (hattenuates : Attenuates n upper g) : call.CoveredBy upper n where
  tool asked hasked := by
    obtain ⟨t, ht, huri, hscope, hdepth⟩ := h.tool asked hasked
    obtain ⟨t', ht', huri', htokens, hdepth'⟩ := hattenuates.tools t ht
    refine ⟨t', ht', by rw [huri', huri], ?_, by omega⟩
    intro scope hscope'
    exact List.Subset.trans (hscope scope hscope') htokens
  access asked hasked := by
    obtain ⟨m, hm, hne, p, hp, hns, hallows⟩ := h.access asked hasked
    obtain ⟨p', hp', hns', hallows', -⟩ := hattenuates.permissions p hp
    exact ⟨m, hm, hne, p', hp', hns'.trans hns, accessAllows_trans hallows' hallows⟩

end HostCall

section Calls

variable {cfg : Config Key Cert Store V Ω} {env : Externals} {now : PyDatetime}
  {w w' : World V Ω} {d : Decision V} {g : GCO}

/-! ### What an allowed call says -/

/-- A grant with depth and scope, as `CoveredBy` has it. -/
theorem tool_of_grantsTool {toolUri : String} {requestedScope : Option String}
    (h : GrantsTool g.toolAuthority toolUri requestedScope) :
    ∃ t ∈ g.toolAuthority, t.toolUri.text = toolUri ∧
      (∀ scope ∈ requestedScope, scopeTokens scope ⊆ scopeTokens t.scope) ∧ 0 < t.maxDepth := by
  obtain ⟨t, hfind, hscope⟩ := h
  have hholds := List.find?_some hfind
  simp only [decide_eq_true_eq] at hholds
  obtain ⟨huri, hdepth, -⟩ := hholds
  exact ⟨t, List.mem_of_find?_eq_some hfind, huri,
    fun scope hmem => scopeIsSubset_iff.1 (hscope scope hmem), hdepth⟩

theorem access_of_permission {ns : String} {m : AccessMode} {p : StatePermission}
    (hp : g.permissionFor? ns = some p) (hallows : accessAllows p.accessMode (.member m) = true) :
    ∃ p ∈ g.stateAccessPermissions, p.namespace = ns ∧
      accessAllows p.accessMode (.member m) = true := by
  have hns := List.find?_some hp
  exact ⟨p, List.mem_of_find?_eq_some hp, by simpa using hns, hallows⟩

/-- Of a method on one subject: the subject is authentic. -/
theorem authentic_of_allows_withSubject {next : GCO → Py Exc (World V Ω) (Decision V)}
    (h : Allows ((cfg.runtime env now).withSubject (.gco g) next) w d w') :
    cfg.Authentic env now g ∧ ∃ w₁, cfg.Verifies env now g w w₁ ∧ After g.expiresAt now ∧
      Allows (next g) w₁ d w' := by
  obtain ⟨w₁, hverifies, hafter, hnext⟩ := allows_withSubject_iff.1 h
  exact ⟨⟨⟨w, w₁, hverifies⟩, hafter⟩, w₁, hverifies, hafter, hnext⟩

/-- What is allowed after the decision about a namespace. -/
theorem grantsMode_of_allows_bind {ns : String} (mode : ModeText)
    {next : Py Exc (World V Ω) (Decision V)}
    (h : Allows (do
        let access ← GovernanceRuntime.authorizeVerifiedStateAccess g (.str ns) mode.toMode
        if ¬access.allowed then pure access else next) w d w') :
    (∃ m, mode.accessMode? = some m ∧ GrantsMode g ns m) ∧ Allows next w d w' := by
  obtain ⟨access, haccess, hallowed⟩ :=
    authorizeVerifiedStateAccess_toMode (V := V) (Ω := Ω) g ns mode
  rw [haccess, pure_bind] at h
  by_cases ha : access.allowed = true
  · rw [if_neg (not_not.2 ha)] at h
    exact ⟨hallowed.1 ha, h⟩
  · rw [if_pos ha] at h
    obtain ⟨h, hd⟩ := h
    cases h
    exact absurd hd ha

theorem coveredBy_of_grantsMode {call : HostCall V} {ns : String} {mode : ModeText}
    (htool : call.tool? = none) (haccess : call.access? = some (ns, mode)) {m : AccessMode}
    (hm : mode.accessMode? = some m) (hgrants : GrantsMode g ns m) : call.CoveredBy g 0 where
  tool asked hasked := by
    rw [htool] at hasked
    cases hasked
  access asked hasked := by
    rw [haccess] at hasked
    cases hasked
    obtain ⟨hne, p, hp, hallows⟩ := hgrants
    exact ⟨m, hm, hne, access_of_permission hp hallows⟩

theorem coveredBy_of_grantsTool {call : HostCall V} {toolUri : String}
    {requestedScope : Option String} (htool : call.tool? = some (toolUri, requestedScope))
    (haccess : call.access? = none) (hgrants : GrantsTool g.toolAuthority toolUri requestedScope) :
    call.CoveredBy g 0 where
  tool asked hasked := by
    rw [htool] at hasked
    cases hasked
    exact tool_of_grantsTool hgrants
  access asked hasked := by
    rw [haccess] at hasked
    cases hasked

theorem coveredBy_of_none {call : HostCall V} (htool : call.tool? = none)
    (haccess : call.access? = none) : call.CoveredBy g 0 where
  tool asked hasked := by
    rw [htool] at hasked
    cases hasked
  access asked hasked := by
    rw [haccess] at hasked
    cases hasked

/-- What `authorize_subcall` and `derive_for_subcall` allow is about two authentic objects. -/
theorem authentic_of_verifies {p c : GCO} {w₁ w₂ : World V Ω}
    (hp : cfg.Verifies env now p w w₁) (hc : cfg.Verifies env now c w₂ w')
    (hvalidate : validate env now p c = .ok ()) :
    cfg.Authentic env now p ∧ cfg.Authentic env now c := by
  obtain ⟨hnarrows, hafter⟩ := validate_eq_ok_iff.1 hvalidate
  exact ⟨⟨⟨_, _, hp⟩, hafter.mono hnarrows.expiresAt⟩, ⟨⟨_, _, hc⟩, hafter⟩⟩

/-- What an allowed call says: it has a subject, unless the boundary let it pass without one, the
subject grants what is asked for, and every object the call is about is authentic. -/
structure HostCall.Vouched (cfg : Config Key Cert Store V Ω) (env : Externals) (now : PyDatetime)
    (call : HostCall V) (d : Decision V) : Prop where
  subject : call.Ungoverned ∨ ∃ g, call.subject? env = some g ∧ call.CoveredBy g 0
  authentic : ∀ g ∈ call.presented env ++ d.child.toList, cfg.Authentic env now g

/-- Of a call with one subject, no parent and no child. -/
theorem HostCall.Vouched.of_subject {call : HostCall V} (hsubject : call.subject? env = some g)
    (hparent : call.parent? env = none) (hchild : d.child = none)
    (hauthentic : cfg.Authentic env now g) (hcovered : call.CoveredBy g 0) :
    call.Vouched cfg env now d where
  subject := .inr ⟨g, hsubject, hcovered⟩
  authentic g' hg' := by
    rw [HostCall.presented, hsubject, hparent, hchild] at hg'
    obtain rfl : g' = g := by simpa using hg'
    exact hauthentic

theorem vouched_toolCall {toolUri : String} {requestedScope : Option String}
    (h : Allows ((cfg.runtime env now).authorizeToolCall env (.gco g) (.str toolUri)
      (requestedScope.map .str)) w d w') :
    cfg.Authentic env now g ∧ GrantsTool g.toolAuthority toolUri requestedScope ∧ d = .allow := by
  obtain ⟨hverifies, hafter, hgrants, rfl⟩ := (allows_authorizeToolCall_iff requestedScope).1 h
  exact ⟨⟨⟨_, _, hverifies⟩, hafter⟩, hgrants, rfl⟩

theorem vouched_derive {parent : GCO} {request : DelegationRequest}
    (h : Allows ((cfg.runtime env now).deriveForSubcall env (.gco parent) (.request request))
      w d w') :
    ∃ child, d = .allowChild child ∧ cfg.Authentic env now parent ∧
      cfg.Authentic env now child := by
  obtain ⟨-, -, w₁, child, w₂, hparent, -, hchild, hvalidate, rfl⟩ :=
    allows_deriveForSubcall_iff.1 h
  exact ⟨child, rfl, authentic_of_verifies hparent hchild hvalidate⟩

/-- Of a preparation: the object may call the tool, and a child of it was derived. -/
theorem vouched_prepareSubcall {codec : GcoWireCodec} {call : BoundaryCall} {current : GCO}
    {toolUri : String} {requestedScope : Option String} {delegation : DelegationRequest}
    {baseMeta : Option Meta} {attachParent : Bool}
    (hsubject : (HostCall.boundary codec call : HostCall V).subject? env = some current)
    (hparent : (HostCall.boundary codec call : HostCall V).parent? env = none)
    (htool : (HostCall.boundary codec call : HostCall V).tool? = some (toolUri, requestedScope))
    (haccess : (HostCall.boundary codec call : HostCall V).access? = none)
    (h : Allows (do
        let r ← prepareSubcall env (cfg.runtime env now) codec current (.str toolUri)
          (requestedScope.map .str) delegation baseMeta attachParent
        pure r.1) w d w') : (HostCall.boundary codec call).Vouched cfg env now d := by
  obtain ⟨w₁, child, hauthorized, hderived, -, rfl⟩ := allows_prepareSubcall_iff.1 h
  obtain ⟨hcurrent, hgrants, -⟩ := vouched_toolCall hauthorized
  obtain ⟨child', hd, -, hchild⟩ := vouched_derive hderived
  cases hd
  refine ⟨.inr ⟨current, hsubject, coveredBy_of_grantsTool htool haccess hgrants⟩, ?_⟩
  intro g hg
  rw [HostCall.presented, hsubject, hparent] at hg
  simp only [Option.toList_some, Option.toList_none, List.append_nil, List.cons_append,
    List.nil_append, List.mem_cons, List.not_mem_nil, or_false, Decision.allowChild] at hg
  rcases hg with rfl | rfl
  · exact hcurrent
  · exact hchild

/-- Of an incoming call: what was received may call the tool, and validates against its parent. -/
theorem vouched_authorizeIncoming {codec : GcoWireCodec} {require : Bool}
    {requestMeta : Option Meta} {toolUri : String} {requestedScope : Option String}
    (h : Allows (authorizeIncoming env (cfg.runtime env now) codec require requestMeta
      (.str toolUri) (requestedScope.map .str)) w d w') :
    (HostCall.boundary codec (.authorizeIncoming require requestMeta toolUri
      requestedScope)).Vouched cfg env now d := by
  cases hreceived : HostCall.received env codec requestMeta with
  | none =>
    have hnot : ∀ wire, ¬Extracts codec env requestMeta wire := fun wire hwire => by
      rw [HostCall.received_eq_some_iff.2 hwire] at hreceived
      cases hreceived
    obtain ⟨hadvertised, hrequire, rfl, -⟩ := (allows_authorizeIncoming_of_not_extracts hnot).1 h
    refine ⟨.inl ⟨hrequire, hadvertised⟩, fun g hg => ?_⟩
    simp [HostCall.presented, HostCall.subject?, HostCall.parent?, hreceived, Decision.allow]
      at hg
  | some wire =>
    have hextracts := HostCall.received_eq_some_iff.1 hreceived
    cases hparent : wire.parent with
    | none =>
      rw [authorizeIncoming_of_no_parent hextracts hparent] at h
      obtain ⟨hauthentic, hgrants, rfl⟩ := vouched_toolCall h
      exact .of_subject (by simp [HostCall.subject?, hreceived])
        (by simp [HostCall.parent?, hreceived, hparent]) rfl hauthentic
        (coveredBy_of_grantsTool rfl rfl hgrants)
    | some p =>
      obtain ⟨w₁, hsubcall, htool⟩ := (allows_authorizeIncoming_of_parent hextracts hparent).1 h
      obtain ⟨hauthentic, hgrants, rfl⟩ := vouched_toolCall htool
      refine ⟨.inr ⟨wire.gco, by simp [HostCall.subject?, hreceived],
        coveredBy_of_grantsTool rfl rfl hgrants⟩, fun g hg => ?_⟩
      simp only [HostCall.presented, HostCall.subject?, HostCall.parent?, hreceived, hparent,
        Option.map_some, Option.bind_some, Option.toList_some, Decision.allow, Option.toList_none,
        List.append_nil, List.cons_append, List.nil_append, List.mem_cons, List.not_mem_nil,
        or_false] at hg
      rcases hg with rfl | rfl
      · exact hauthentic
      · exact (authentic_of_allows_authorizeSubcall hsubcall).1

/-- An allowed call is vouched for. -/
theorem HostCall.vouched_of_allows {call : HostCall V}
    (h : Allows (call.perform env (cfg.runtime env now)) w d w') :
    call.Vouched cfg env now d := by
  cases call with
  | authorizeSubcall parent child =>
    obtain ⟨w₁, hp, hc, hvalidate, rfl⟩ := allows_authorizeSubcall_iff.1 h
    obtain ⟨hparent, hchild⟩ := authentic_of_verifies hp hc hvalidate
    refine ⟨.inr ⟨child, rfl, coveredBy_of_none rfl rfl⟩, fun g hg => ?_⟩
    simp only [HostCall.presented, HostCall.subject?, HostCall.parent?, Option.toList_some,
      Decision.allow, Option.toList_none, List.append_nil, List.cons_append, List.nil_append,
      List.mem_cons, List.not_mem_nil, or_false] at hg
    rcases hg with rfl | rfl
    · exact hchild
    · exact hparent
  | deriveForSubcall parent request =>
    obtain ⟨child, rfl, hparent, hchild⟩ := vouched_derive h
    refine ⟨.inr ⟨parent, rfl, coveredBy_of_none rfl rfl⟩, fun g hg => ?_⟩
    simp only [HostCall.presented, HostCall.subject?, HostCall.parent?, Option.toList_some,
      Decision.allowChild, Option.toList_none, List.append_nil, List.cons_append, List.nil_append,
      List.mem_cons, List.not_mem_nil, or_false] at hg
    rcases hg with rfl | rfl
    · exact hparent
    · exact hchild
  | authorizeToolCall g toolUri requestedScope =>
    obtain ⟨hauthentic, hgrants, rfl⟩ := vouched_toolCall h
    exact .of_subject rfl rfl rfl hauthentic (coveredBy_of_grantsTool rfl rfl hgrants)
  | authorizeStateAccess g ns mode =>
    obtain ⟨hauthentic, w₁, -, -, hnext⟩ :=
      authentic_of_allows_withSubject ((allows_attempt_iff denies_malformed).1 h)
    obtain ⟨⟨m, hm, hgrants⟩, hallow⟩ := grantsMode_of_allows_bind mode hnext
    obtain ⟨rfl, -⟩ := allows_allow_iff.1 hallow
    exact .of_subject rfl rfl rfl hauthentic (coveredBy_of_grantsMode rfl rfl hm hgrants)
  | readState g ns key =>
    obtain ⟨hauthentic, w₁, -, -, hnext⟩ :=
      authentic_of_allows_withSubject ((allows_attempt_iff denies_read).1 h)
    obtain ⟨⟨m, hm, hgrants⟩, -⟩ := grantsMode_of_allows_bind (.member .read) hnext
    obtain ⟨-, -, value, -, rfl⟩ := allows_readState_iff.1 h
    exact .of_subject rfl rfl rfl hauthentic (coveredBy_of_grantsMode rfl rfl hm hgrants)
  | writeState g ns key value mode =>
    obtain ⟨hauthentic, w₁, hverifies, hafter, -⟩ :=
      authentic_of_allows_withSubject ((allows_attempt_iff denies_write).1 h)
    obtain ⟨d', w₂, hwrite, hcases⟩ :=
      @writeState_of_verifies _ _ _ _ _ cfg env now g w w₁ ns key value mode hverifies hafter
    obtain ⟨hrun, hd⟩ := h
    rw [show HostCall.perform env (cfg.runtime env now) (.writeState g ns key value mode) w =
      .ok d' w₂ from hwrite] at hrun
    cases hrun
    rcases hcases with ⟨rfl, p, m, hp, hm, hgrants, -⟩ | ⟨hdenied, -⟩
    · refine .of_subject rfl rfl rfl hauthentic (coveredBy_of_grantsMode rfl rfl hm ⟨?_, p, hp, ?_⟩)
      · rcases hgrants with ⟨rfl, -⟩ | ⟨rfl, -⟩ <;> decide
      · rcases hgrants with ⟨rfl, hmode⟩ | ⟨rfl, hmode, -⟩
        · exact accessAllows_write_iff.2 hmode
        · exact accessAllows_append_iff.2 hmode
    · rw [hdenied] at hd
      cases hd
  | boundary codec call =>
    cases call with
    | prepareToolCall parent toolUri requestedScope delegation baseMeta =>
      exact vouched_prepareSubcall rfl rfl rfl rfl h
    | prepareSubcall current toolUri requestedScope delegation baseMeta attachParent =>
      exact vouched_prepareSubcall rfl rfl rfl rfl h
    | authorizeIncoming require requestMeta toolUri requestedScope =>
      exact vouched_authorizeIncoming h

end Calls

/-! ### What a call leaves behind -/

section Leaves

variable {cfg : Config Key Cert Store V Ω} {signed : Ω → List Payload} {env : Externals}
  {now : PyDatetime} {w w' : World V Ω}

/-- What `derive_for_subcall` leaves: nothing new, or the data of a child of the verified parent. -/
def Asked (cfg : Config Key Cert Store V Ω) (signed : Ω → List Payload) (env : Externals)
    (now : PyDatetime) (parent : GCO) (w w' : World V Ω) : Prop :=
  ∃ w₁ w₂ data, cfg.Verifies env now parent w₁ w₂ ∧ AsksFor env now parent data ∧
    signed w'.host = signed w.host ++ [data]

theorem keeps_denyWireError {e : Exc} :
    Keeps (fun w : World V Ω => signed w.host)
      (denyWireError e : Py Exc (World V Ω) (Decision V)) := by
  unfold denyWireError
  cases e.kind with
  | wireError code => exact .bind (.ofExcept _) fun _ => .pure _
  | _ => exact .throw _

/-- A preparation, however it ends. -/
theorem leaves_prepareSubcall (h : cfg.Logs signed) {codec : GcoWireCodec} {current : GCO}
    {toolUri : String} {requestedScope : Option String} {delegation : DelegationRequest}
    {baseMeta : Option Meta} {attachParent : Bool}
    (hleaves : Leaves (do
        let r ← prepareSubcall env (cfg.runtime env now) codec current (.str toolUri)
          (requestedScope.map .str) delegation baseMeta attachParent
        pure r.1) w w') :
    signed w'.host = signed w.host ∨ Asked cfg signed env now current w w' := by
  have hprepare : Leaves (prepareSubcall env (cfg.runtime env now) codec current (.str toolUri)
      (requestedScope.map .str) delegation baseMeta attachParent) w w' := by
    rcases leaves_bind_iff.1 hleaves with ⟨e, he⟩ | ⟨r, w₁, hr, hpure⟩
    · exact .inr ⟨e, he⟩
    · exact .inl ⟨r, (leaves_pure_iff.1 hpure) ▸ hr⟩
  unfold prepareSubcall at hprepare
  -- the tool call asks nothing
  rcases leaves_bind_iff.1 hprepare with ⟨e, he⟩ | ⟨authorized, w₁, hauthorized, hrest⟩
  · exact .inl (keeps_authorizeToolCall h toolUri requestedScope _ _ (.inr ⟨e, he⟩))
  have hfirst : signed w₁.host = signed w.host :=
    keeps_authorizeToolCall h toolUri requestedScope _ _ (.inl ⟨authorized, hauthorized⟩)
  by_cases ha : authorized.allowed = true
  · rw [if_neg (not_not.2 ha)] at hrest
    -- and the attachment nothing either
    have hderived : ∀ w₂, Leaves ((cfg.runtime env now).deriveForSubcall env (.gco current)
        (.request delegation)) w₁ w₂ → signed w'.host = signed w₂.host →
        signed w'.host = signed w.host ∨ Asked cfg signed env now current w w' := by
      intro w₂ hw₂ hlast
      rcases h.leaves_deriveForSubcall hw₂ with hkept | ⟨w₃, data, hverifies, hasks, hadded⟩
      · exact .inl (hlast.trans (hkept.trans hfirst))
      · exact .inr ⟨w₁, w₃, data, hverifies, hasks, by rw [hlast, hadded, hfirst]⟩
    rcases leaves_bind_iff.1 hrest with ⟨e, he⟩ | ⟨derived, w₂, hderive, hattach⟩
    · exact hderived w' (.inr ⟨e, he⟩) rfl
    · refine hderived w₂ (.inl ⟨derived, hderive⟩) ?_
      refine (show Keeps (fun w : World V Ω => signed w.host) _ from ?_) _ _ hattach
      refine .ite (fun _ => .pure _) fun _ => ?_
      cases derived.child with
      | none => exact .pure _
      | some child =>
        dsimp only
        cases codec.attach env baseMeta child (if attachParent then some current else none) with
        | ok m => exact .pure _
        | error e => exact .bind keeps_denyWireError fun _ => .pure _
  · rw [if_pos ha] at hrest
    rw [leaves_pure_iff.1 hrest]
    exact .inl hfirst

theorem keeps_authorizeIncoming (h : cfg.Logs signed) {codec : GcoWireCodec} {require : Bool}
    {requestMeta : Option Meta} {toolUri : String} {requestedScope : Option String} :
    Keeps (fun w => signed w.host) (authorizeIncoming env (cfg.runtime env now) codec require
      requestMeta (.str toolUri) (requestedScope.map .str)) := by
  unfold authorizeIncoming
  refine .ite (fun _ => .ite (fun _ => .pure _) fun _ => .pure _) fun _ => ?_
  cases codec.extract env requestMeta with
  | error e => exact keeps_denyWireError
  | ok wire =>
    dsimp only
    cases wire.parent with
    | none => exact keeps_authorizeToolCall h toolUri requestedScope
    | some p =>
      refine .bind (keeps_authorizeSubcall h p wire.gco) fun _ =>
        .ite (fun _ => .pure _) fun _ => ?_
      exact keeps_authorizeToolCall h toolUri requestedScope

/-- A call, however it ends, adds nothing to the record of the authorities, or the data of a child
of an object that was presented and has verified. -/
theorem HostCall.leaves_perform (h : cfg.Logs signed) {call : HostCall V}
    (hleaves : Leaves (call.perform env (cfg.runtime env now)) w w') :
    signed w'.host = signed w.host ∨
      ∃ parent ∈ call.presented env, Asked cfg signed env now parent w w' := by
  cases call with
  | authorizeSubcall parent child => exact .inl (keeps_authorizeSubcall h _ _ _ _ hleaves)
  | deriveForSubcall parent request =>
    rcases h.leaves_deriveForSubcall hleaves with hkept | ⟨w₁, data, hverifies, hasks, hadded⟩
    · exact .inl hkept
    · exact .inr ⟨parent, List.mem_singleton_self _, w, w₁, data, hverifies, hasks, hadded⟩
  | authorizeToolCall => exact .inl (keeps_authorizeToolCall h _ _ _ _ hleaves)
  | authorizeStateAccess => exact .inl (keeps_authorizeStateAccess h _ _ _ _ hleaves)
  | readState => exact .inl (keeps_readState h _ _ _ _ hleaves)
  | writeState => exact .inl (keeps_writeState h _ _ _ _ _ _ hleaves)
  | boundary codec call =>
    cases call with
    | prepareToolCall parent toolUri requestedScope delegation baseMeta =>
      exact (leaves_prepareSubcall h hleaves).imp_right
        fun hasked => ⟨parent, List.mem_singleton_self _, hasked⟩
    | prepareSubcall current toolUri requestedScope delegation baseMeta attachParent =>
      exact (leaves_prepareSubcall h hleaves).imp_right
        fun hasked => ⟨current, List.mem_singleton_self _, hasked⟩
    | authorizeIncoming => exact .inl (keeps_authorizeIncoming h _ _ hleaves)

end Leaves

end GcoMcp
