import GcoSpec.Gco.Minting
import GcoSpec.GcoMcp.HostCalls
import GcoSpec.Library.Provenance
import GcoSpec.Library.Runs

/-!
# Confinement

Hosts that share nothing but what their authorities attest, over a network that belongs to an
adversary: whoever makes a call presents whatever objects and requests they like, made up,
replayed or altered, the state stores may be tampered with, and calls may fail halfway. The
assumption is that tokens cannot be forged (`Deployment.Unforged`): a payload that decodes under a
key the host trusts is about a root object, or about data that an authority was asked to attest.

`authority_confined` is what follows. Whatever is allowed, at any host and any time, was allowed to
an object that stems from a root by derivations that authorities attested, and the root grants it.
-/

namespace GcoMcp

open Python Gco Python.Json Provenance

variable {ι Key Cert Store V Ω : Type}

/-! ### Provenance of an object -/

/-- The object stems from a root by the delegations of `hops`, whose data were attested in this
order: it is the last of them, or the root itself, up to its attestation. -/
structure Stems (env : Externals) (roots : List GCO) (signed : List Payload) (root : GCO)
    (hops : List GCO) (g : GCO) : Prop where
  known : root ∈ roots
  chain : (root :: hops).IsChain (Delegates env)
  last : ((root :: hops).getLast (List.cons_ne_nil root hops)).bare = g.bare
  attested : (hops.map fun hop => hop.bareItems env).Sublist signed

/-- The attested data are those of objects each delegated by a root or by one before it. -/
def Founded (env : Externals) (roots : List GCO) (signed : List Payload) : Prop :=
  ∃ log : List GCO, signed = log.map (fun g => g.bareItems env) ∧
    Grounded (· ∈ roots) (Delegates env) log

theorem founded_nil (env : Externals) (roots : List GCO) : Founded env roots [] :=
  ⟨[], rfl, .nil⟩

/-- The digest is that of a root, or of attested data, as an authority computes it. -/
def Vouches (env : Externals) (roots : List GCO) (signed : List Payload) (digest : String) : Prop :=
  (∃ root ∈ roots, canonicalGcoHash env root = .ok digest) ∨
    ∃ data ∈ signed, hashPayload env (.dict data) = .ok digest

section Stems

variable {env : Externals} {roots hops : List GCO} {signed : List Payload} {root g : GCO}
  {digest : String}

/-- Without collisions, an object whose digest is vouched for stems from a root. -/
theorem Founded.stems (henv : env.Injective) (h : Founded env roots signed)
    (hhash : canonicalGcoHash env g = .ok digest) (hg : Vouches env roots signed digest) :
    ∃ root hops, Stems env roots signed root hops g := by
  obtain ⟨log, rfl, hgrounded⟩ := h
  rcases hg with ⟨root, hroot, hdigest⟩ | ⟨data, hdata, hdigest⟩
  · exact ⟨root, [], hroot, List.isChain_singleton root,
      bare_eq_of_canonicalGcoHash_eq henv hdigest hhash, List.nil_sublist _⟩
  · obtain ⟨b, hb, rfl⟩ := List.mem_map.1 hdata
    obtain ⟨root, hops, hcomes⟩ := hgrounded.exists_chain hb
    refine ⟨root, hops, hcomes.origin, hcomes.chain, ?_, hcomes.logged.map _⟩
    rw [hcomes.last]
    exact bare_eq_of_canonicalGcoHash_eq henv hdigest hhash

/-- What is derived from an object that stems from a root is founded like it. -/
theorem Founded.concat (henv : env.Injective) (h : Founded env roots signed) {child : GCO}
    (hhash : canonicalGcoHash env g = .ok digest) (hg : Vouches env roots signed digest)
    (hchild : Delegates env g child) :
    Founded env roots (signed ++ [child.bareItems env]) := by
  obtain ⟨log, rfl, hgrounded⟩ := h
  refine ⟨log ++ [child], by simp, ?_⟩
  rcases hg with ⟨root, hroot, hdigest⟩ | ⟨data, hdata, hdigest⟩
  · have hbare := bare_eq_of_canonicalGcoHash_eq henv hdigest hhash
    exact .concat hgrounded (.inl hroot) (hchild.of_bare_eq hbare)
  · obtain ⟨b, hb, rfl⟩ := List.mem_map.1 hdata
    have hbare := bare_eq_of_canonicalGcoHash_eq henv hdigest hhash
    exact .concat hgrounded (.inr hb) (hchild.of_bare_eq hbare)

namespace Stems

theorem mono {signed' : List Payload} (h : Stems env roots signed root hops g)
    (hsigned : signed.Sublist signed') : Stems env roots signed' root hops g :=
  { h with attested := h.attested.trans hsigned }

/-- The lineage of the object is that of the root, with the digests of all objects between. -/
theorem lineage (h : Stems env roots signed root hops g) :
    g.lineage = root.lineage ++ (root :: hops).dropLast.map (canonicalDigest env) := by
  have hbare := congrArg GCO.lineage h.last
  have hlast : g.lineage = ((root :: hops).getLast (List.cons_ne_nil root hops)).lineage :=
    hbare.symm
  rw [hlast]
  by_cases hne : hops = []
  · subst hne
    simp
  · rw [List.getLast_cons hne]
    exact Chains.accumulates (fun hab => hab.lineage.1) hne h.chain

/-- And it is no longer than a validator accepts. -/
theorem length_le (h : Stems env roots signed root hops g) : hops.length ≤ 128 := by
  by_cases hne : hops = []
  · simp [hne]
  · have hbound : (hops.getLast hne).lineage.length ≤ 128 :=
      Chains.getLast_of_step (P := fun g : GCO => g.lineage.length ≤ 128)
        (fun hab => hab.lineage.2) hne h.chain
    have hlineage := Chains.accumulates (fun hab => hab.lineage.1) hne h.chain
    rw [hlineage, List.length_append, List.length_map, List.length_dropLast, List.length_cons]
      at hbound
    omega

/-- After a hop the authority of the root is attenuated by all of them. -/
theorem attenuates (h : Stems env roots signed root hops g) (hne : hops ≠ []) :
    Attenuates hops.length root g := by
  have hgraded : Attenuates hops.length root (hops.getLast hne) :=
    graded_delegates.isChain hne h.chain
  have hbare : Attenuates hops.length root (hops.getLast hne).bare :=
    ⟨hgraded.tools, hgraded.permissions, hgraded.expiresAt, hgraded.traceId, hgraded.policyId,
      hgraded.modelIdentity, hgraded.interventionVersion, hgraded.version⟩
  have hlast := h.last
  rw [List.getLast_cons hne] at hlast
  rw [hlast] at hbare
  exact ⟨hbare.tools, hbare.permissions, hbare.expiresAt, hbare.traceId, hbare.policyId,
    hbare.modelIdentity, hbare.interventionVersion, hbare.version⟩

theorem expiresAt_le (h : Stems env roots signed root hops g) : g.expiresAt ≤ root.expiresAt := by
  by_cases hne : hops = []
  · subst hne
    have hbare := congrArg GCO.expiresAt h.last
    exact le_of_eq hbare.symm
  · exact (h.attenuates hne).expiresAt

/-- What the object grants to itself the root grants to it. -/
theorem coveredBy {call : HostCall V} (h : Stems env roots signed root hops g)
    (hcovered : call.CoveredBy g 0) : call.CoveredBy root hops.length := by
  by_cases hne : hops = []
  · subst hne
    have hbare : call.CoveredBy g.bare 0 := ⟨hcovered.tool, hcovered.access⟩
    rw [← h.last] at hbare
    exact ⟨hbare.tool, hbare.access⟩
  · exact hcovered.of_attenuates (h.attenuates hne)

end Stems

end Stems

/-! ### The network -/

/-- Hosts with a runtime each, the roots whose authority the deployment starts from, and the record
of what authorities were asked to attest. -/
structure Deployment (ι Key Cert Store V Ω : Type) where
  host : ι → Config Key Cert Store V Ω
  roots : List GCO
  signed : Ω → List Payload
  logs : ∀ i, (host i).Logs signed

/-- The store of every host, and everything outside them. -/
structure NetState (ι V Ω : Type) where
  stores : ι → GovernedStateStore V
  outside : Ω

/-- The world as a host sees it. -/
def NetState.world (s : NetState ι V Ω) (i : ι) : World V Ω := ⟨s.stores i, s.outside⟩

/-- What a call at a host makes of the state. -/
def NetState.after [DecidableEq ι] (s : NetState ι V Ω) (i : ι) (w : World V Ω) :
    NetState ι V Ω :=
  ⟨Function.update s.stores i w.store, w.host⟩

/-- A call at a host at a time, and how it was decided. -/
structure NetEvent (ι V : Type) where
  host : ι
  now : PyDatetime
  call : HostCall V
  decision : Decision V

namespace Deployment

variable (D : Deployment ι Key Cert Store V Ω) (env : Externals)

/-- No one forged the token of the object: what decodes from it under a key that the host trusts
carries the digest of a root, or of data that were attested. -/
def Unforged (i : ι) (now : PyDatetime) (signed : List Payload) (g : GCO) : Prop :=
  ∀ a ∈ g.attestation, ∀ t, now.toUtc? = some t → ∀ key algorithms payload,
    TrustedKey (D.host i).crypto (D.host i).trustBundle t key →
    (D.host i).crypto.decode a.value key algorithms = .ok (.dict payload) →
    ∃ digest, payload.lookup "gco_hash" = some (.str digest) ∧ Vouches env D.roots signed digest

/-- A step: a call at a host returns a decision or raises, or something happens that no authority
takes part in. Tokens that are presented were not forged before the call, and those of a derived
child not by its end. -/
inductive Step [DecidableEq ι] :
    NetState ι V Ω → Option (NetEvent ι V) → NetState ι V Ω → Prop
  | returned {s : NetState ι V Ω} {i : ι} {now : PyDatetime} {call : HostCall V}
    {d : Decision V} {w : World V Ω}
    (hrun : call.perform env ((D.host i).runtime env now) (s.world i) = .ok d w)
    (hpresented : ∀ g ∈ call.presented env, D.Unforged env i now (D.signed s.outside) g)
    (hchild : ∀ g ∈ d.child, D.Unforged env i now (D.signed w.host) g) :
    Step s (some ⟨i, now, call, d⟩) (s.after i w)
  | raised {s : NetState ι V Ω} {i : ι} {now : PyDatetime} {call : HostCall V} {e : Exc}
    {w : World V Ω}
    (hrun : call.perform env ((D.host i).runtime env now) (s.world i) = .error e w)
    (hpresented : ∀ g ∈ call.presented env, D.Unforged env i now (D.signed s.outside) g) :
    Step s none (s.after i w)
  | other {s s' : NetState ι V Ω} (hsigned : D.signed s'.outside = D.signed s.outside) :
    Step s none s'

variable {D env}

/-- The digest of an object that verifies was vouched for, if its token was not forged. -/
theorem vouches_of_verifies {i : ι} {now : PyDatetime} {signed : List Payload} {g : GCO}
    {w w' : World V Ω} (h : (D.host i).Verifies env now g w w')
    (hunforged : D.Unforged env i now signed g) :
    ∃ digest, canonicalGcoHash env g = .ok digest ∧ Vouches env D.roots signed digest := by
  obtain ⟨payload, exp, -, -, -, ⟨t, ht, hcheck⟩, -⟩ := h.attests
  obtain ⟨sub, hpayload, hsubject, -⟩ := AttestationVerifier.checkAttestation_eq_ok_iff.1 hcheck
  cases hattestation : g.attestation with
  | none =>
    rw [hattestation] at hpayload
    cases hpayload
  | some a =>
    rw [hattestation] at hpayload
    obtain ⟨key, algorithms, htrusted, hdecode⟩ :=
      AttestationVerifier.trustedKey_of_attestedPayload hpayload
    obtain ⟨digest, hdigest, hvouches⟩ :=
      hunforged a hattestation t ht key algorithms payload htrusted hdecode
    obtain ⟨-, hfits, hhash, -⟩ := checkSubject_eq_ok_iff.1 hsubject
    rw [hhash, Option.some.injEq, PyVal.str.injEq] at hdigest
    exact ⟨digest, hdigest ▸ canonicalGcoHash_of_serializable hfits, hvouches⟩

/-- What an allowed event says: the objects it is about stem from roots that are current at that
time, and the root of its subject grants what was asked for. -/
structure Confined (env : Externals) (roots : List GCO) (signed : List Payload)
    (e : NetEvent ι V) : Prop where
  subject : e.call.Ungoverned ∨ ∃ g root hops, e.call.subject? env = some g ∧
    Stems env roots signed root hops g ∧ e.call.CoveredBy root hops.length
  objects : ∀ g ∈ e.call.presented env ++ e.decision.child.toList, ∃ root hops,
    Stems env roots signed root hops g ∧ After root.expiresAt e.now ∧ hops.length ≤ 128 ∧
    g.lineage = root.lineage ++ (root :: hops).dropLast.map (canonicalDigest env)

theorem Confined.mono {roots : List GCO} {signed signed' : List Payload} {e : NetEvent ι V}
    (h : Confined env roots signed e) (hsigned : signed.Sublist signed') :
    Confined env roots signed' e where
  subject := h.subject.imp_right fun ⟨g, root, hops, hg, hstems, hcovered⟩ =>
    ⟨g, root, hops, hg, hstems.mono hsigned, hcovered⟩
  objects g hg := by
    obtain ⟨root, hops, hstems, hrest⟩ := h.objects g hg
    exact ⟨root, hops, hstems.mono hsigned, hrest⟩

/-- An authentic object stems from a root that is current. -/
theorem stems_of_authentic (henv : env.Injective) {i : ι} {now : PyDatetime}
    {signed : List Payload} {g : GCO} (hfounded : Founded env D.roots signed)
    (h : (D.host i).Authentic env now g) (hunforged : D.Unforged env i now signed g) :
    ∃ root hops, Stems env D.roots signed root hops g ∧ After root.expiresAt now ∧
      hops.length ≤ 128 ∧
      g.lineage = root.lineage ++ (root :: hops).dropLast.map (canonicalDigest env) := by
  obtain ⟨⟨w, w', hverifies⟩, hafter⟩ := h
  obtain ⟨digest, hhash, hvouches⟩ := vouches_of_verifies hverifies hunforged
  obtain ⟨root, hops, hstems⟩ := hfounded.stems henv hhash hvouches
  exact ⟨root, hops, hstems, hafter.mono hstems.expiresAt_le, hstems.length_le, hstems.lineage⟩

/-! ### Steps -/

variable {s s' : NetState ι V Ω}

/-- What a call leaves is founded like what it found. -/
theorem founded_of_leaves (henv : env.Injective) {i : ι} {now : PyDatetime} {call : HostCall V}
    {w : World V Ω} (hfounded : Founded env D.roots (D.signed s.outside))
    (hpresented : ∀ g ∈ call.presented env, D.Unforged env i now (D.signed s.outside) g)
    (hleaves : Leaves (call.perform env ((D.host i).runtime env now)) (s.world i) w) :
    Founded env D.roots (D.signed w.host) ∧
      (D.signed s.outside).Sublist (D.signed w.host) := by
  have hworld : (s.world i).host = s.outside := rfl
  rcases HostCall.leaves_perform (D.logs i) hleaves with
    hkept | ⟨parent, hparent, w₁, w₂, data, hverifies, ⟨child, -, hdelegates, -, rfl⟩, hadded⟩
  · rw [hkept, hworld]
    exact ⟨hfounded, List.Sublist.refl _⟩
  · rw [hadded, hworld]
    obtain ⟨digest, hhash, hvouches⟩ := vouches_of_verifies hverifies (hpresented parent hparent)
    exact ⟨hfounded.concat henv hhash hvouches hdelegates, List.sublist_append_left _ _⟩

variable [DecidableEq ι]

/-- A step keeps the record founded, and takes nothing from it. -/
theorem Step.founded (henv : env.Injective) {label : Option (NetEvent ι V)}
    (h : D.Step env s label s') (hfounded : Founded env D.roots (D.signed s.outside)) :
    Founded env D.roots (D.signed s'.outside) ∧
      (D.signed s.outside).Sublist (D.signed s'.outside) := by
  cases h with
  | returned hrun hpresented hchild =>
    exact founded_of_leaves henv hfounded hpresented (.inl ⟨_, hrun⟩)
  | raised hrun hpresented => exact founded_of_leaves henv hfounded hpresented (.inr ⟨_, hrun⟩)
  | other hsigned =>
    rw [hsigned]
    exact ⟨hfounded, List.Sublist.refl _⟩

/-- What a step allows is confined. -/
theorem Step.confined (henv : env.Injective) {e : NetEvent ι V} (h : D.Step env s (some e) s')
    (hfounded : Founded env D.roots (D.signed s.outside)) (hallowed : e.decision.allowed = true) :
    Confined env D.roots (D.signed s'.outside) e := by
  obtain ⟨hfounded', hsigned⟩ := Step.founded henv h hfounded
  cases h with
  | @returned i now call d w hrun hpresented hchild =>
    have hvouched : call.Vouched (D.host i) env now d :=
      HostCall.vouched_of_allows ⟨hrun, hallowed⟩
    have hobjects : ∀ g ∈ call.presented env ++ d.child.toList, ∃ root hops,
        Stems env D.roots (D.signed w.host) root hops g ∧ After root.expiresAt now ∧
        hops.length ≤ 128 ∧
        g.lineage = root.lineage ++ (root :: hops).dropLast.map (canonicalDigest env) := by
      intro g hg
      have hauthentic := hvouched.authentic g hg
      rcases List.mem_append.1 hg with hmem | hmem
      · -- presented before the call
        obtain ⟨root, hops, hstems, hrest⟩ :=
          stems_of_authentic henv hfounded hauthentic (hpresented g hmem)
        exact ⟨root, hops, hstems.mono hsigned, hrest⟩
      · -- derived by it
        exact stems_of_authentic henv hfounded' hauthentic (hchild g (Option.mem_toList.1 hmem))
    refine ⟨hvouched.subject.imp_right ?_, hobjects⟩
    rintro ⟨g, hg, hcovered⟩
    have hmem : g ∈ call.presented env ++ d.child.toList := by
      rw [HostCall.presented, hg]
      simp
    obtain ⟨root, hops, hstems, -⟩ := hobjects g hmem
    exact ⟨g, root, hops, hg, hstems, hstems.coveredBy hcovered⟩

/-! ### Runs -/

/-- From a founded record, everything that a run allows is confined. -/
theorem confined_of_run (henv : env.Injective) {labels : List (Option (NetEvent ι V))}
    (hrun : Runs.Run (D.Step env) s labels s')
    (hfounded : Founded env D.roots (D.signed s.outside)) :
    (D.signed s.outside).Sublist (D.signed s'.outside) ∧
      ∀ e, some e ∈ labels → e.decision.allowed = true →
        Confined env D.roots (D.signed s'.outside) e := by
  induction hrun with
  | nil s => exact ⟨List.Sublist.refl _, fun e he => absurd he List.not_mem_nil⟩
  | cons first rest ih =>
    obtain ⟨hfounded', hsigned⟩ := Step.founded henv first hfounded
    obtain ⟨hrest, hconfined⟩ := ih hfounded'
    refine ⟨hsigned.trans hrest, fun e he hallowed => ?_⟩
    rcases List.mem_cons.1 he with rfl | hmem
    · exact (Step.confined henv first hfounded hallowed).mono hrest
    · exact hconfined e hmem hallowed

end Deployment

/-- Authority is confined to what the roots grant. In every run of a deployment whose authorities
have attested nothing yet, whatever the adversary presents, replays, alters or loses: an allowed
call is about objects that stem from roots that are current at that time, by at most 128
delegations whose data authorities attested in this order and whose digests are the lineage; and
the root of its subject grants the tool, the scope and a depth above the number of delegations, or
the namespace and the mode. The one exception is a boundary that does not require the extension. -/
theorem authority_confined [DecidableEq ι] (D : Deployment ι Key Cert Store V Ω) (env : Externals)
    (henv : env.Injective) (s s' : NetState ι V Ω) (hstart : D.signed s.outside = [])
    (labels : List (Option (NetEvent ι V))) (hrun : Runs.Run (D.Step env) s labels s')
    (e : NetEvent ι V) (he : some e ∈ labels) (hallowed : e.decision.allowed = true) :
    Deployment.Confined env D.roots (D.signed s'.outside) e := by
  have hfounded : Founded env D.roots (D.signed s.outside) := by
    rw [hstart]
    exact founded_nil env D.roots
  exact (Deployment.confined_of_run henv hrun hfounded).2 e he hallowed

/-! ### A handover between two hosts -/

/-- A runtime as `mintingConfig`, whose authority records what it was asked to attest. -/
def recordingConfig : Config Unit Unit Unit String (List Payload) where
  crypto := tokenCrypto demoTokens
  trustBundle := demoBundle
  expectedAudience := none
  replayCache := none
  issue := some fun _ data w =>
    .ok (some ⟨.jwtSvid, demoChildToken, none⟩) { w with host := w.host ++ [data] }
  uuid4 := pure 0xa1
  readObject _ _ _ := throw (.typeError "unhashable type")
  writeObject _ _ _ _ := throw (.typeError "unhashable type")

theorem logs_recordingConfig : recordingConfig.Logs (id : List Payload → List Payload) where
  issue := by
    rintro issue ⟨⟩ identity data w w' (⟨a, h⟩ | ⟨e, h⟩)
    · cases h
      exact .inr rfl
    · cases h
  uuid4 := .pure _
  replayCache := by rintro cache ⟨⟩

/-- Two hosts, and `demoRoot`. -/
def demoDeployment : Deployment Bool Unit Unit Unit String (List Payload) where
  host _ := recordingConfig
  roots := [demoRoot]
  signed := id
  logs _ := logs_recordingConfig

/-- The data of `demoChild`. -/
def demoChildData : Payload := demoChild.bareItems demoExternals

theorem verifies_recordingConfig_demoRoot (w : World String (List Payload)) :
    recordingConfig.Verifies demoExternals demoNow.toPy demoRoot w w :=
  (Config.verifies_iff rfl).2 ⟨rfl, _, _, demoNow, PyDatetime.toUtc?_toPy demoNow,
    checkAttestation_demoRoot none (by decide)⟩

theorem verifies_recordingConfig_demoChild (w : World String (List Payload)) :
    recordingConfig.Verifies demoExternals demoNow.toPy demoChild w w :=
  (Config.verifies_iff rfl).2 ⟨rfl, _, _, demoNow, PyDatetime.toUtc?_toPy demoNow,
    checkAttestation_demoChild none (by decide)⟩

theorem derives_recordingConfig (store : GovernedStateStore String) :
    Allows ((recordingConfig.runtime demoExternals demoNow.toPy).deriveForSubcall demoExternals
      (.gco demoRoot) (.request demoDelegation)) ⟨store, []⟩ (.allowChild demoChild)
      ⟨store, [demoChildData]⟩ := by
  refine allows_deriveForSubcall_iff.2 ⟨_, rfl, _, demoChild, ⟨store, [demoChildData]⟩,
    verifies_recordingConfig_demoRoot _, ?_, verifies_recordingConfig_demoChild _, validate_demo,
    rfl⟩
  refine GCODerivationRuntime.derive_eq_ok_iff.2 ⟨demoChild.toolAuthority,
    demoChild.stateAccessPermissions, 0xa1, ⟨store, []⟩, ⟨store, []⟩,
    some ⟨.jwtSvid, demoChildToken, none⟩, ⟨store, [demoChildData]⟩, derivePlan_demo, rfl,
    serializable_demoRoot, ?_, ?_, ?_, ?_⟩
  · rw [childWithoutAttestation_demo]
    exact runtime_validate_of_ok recordingConfig validate_placeholder_demo _
  · rw [childWithoutAttestation_demo]
    rfl
  · rw [childWithoutAttestation_demo]
    rfl
  · exact runtime_validate_of_ok recordingConfig validate_demo _

theorem calls_recordingConfig (w : World String (List Payload)) :
    Allows ((recordingConfig.runtime demoExternals demoNow.toPy).authorizeToolCall demoExternals
      (.gco demoChild) (.str "mcp://tools/search") (some (.str "read"))) w .allow w :=
  (allows_authorizeToolCall_iff (some "read")).2 ⟨verifies_recordingConfig_demoChild w,
    ⟨demoNow.micros, PyDatetime.instant?_toPy demoNow, by decide⟩,
    ⟨⟨⟨"mcp://tools/search", by decide⟩, "read", 1⟩, by decide, by decide⟩, rfl⟩

theorem unforged_demo {token : String} {g : GCO} {claims : Payload} {signed : List Payload}
    (hattestation : g.attestation = some ⟨.jwtSvid, token, none⟩)
    (hlookup : demoTokens.lookup token = some (demoPayload g claims))
    (hvouches : Vouches demoExternals [demoRoot] signed (canonicalDigest demoExternals g))
    (i : Bool) : demoDeployment.Unforged demoExternals i demoNow.toPy signed g := by
  rintro a ha t - key algorithms payload - hdecode
  rw [hattestation] at ha
  cases ha
  have hdecode' : (tokenCrypto demoTokens).decode token key algorithms = .ok (.dict payload) :=
    hdecode
  simp only [tokenCrypto, hlookup] at hdecode'
  split_ifs at hdecode'
  cases hdecode'
  exact ⟨_, rfl, hvouches⟩

theorem unforged_demoRoot (signed : List Payload) (i : Bool) :
    demoDeployment.Unforged demoExternals i demoNow.toPy signed demoRoot :=
  unforged_demo rfl List.lookup_cons_self (.inl ⟨demoRoot, List.mem_singleton_self _,
    canonicalGcoHash_of_serializable serializable_demoRoot⟩) i

theorem unforged_demoChild (i : Bool) :
    demoDeployment.Unforged demoExternals i demoNow.toPy [demoChildData] demoChild := by
  have hlookup : demoTokens.lookup demoChildToken =
      some (demoPayload demoChild demoChildClaims) := by
    rw [demoTokens, Dict.lookup_cons_ite, if_neg demoRootToken_ne_demoChildToken.symm,
      List.lookup_cons_self]
  exact unforged_demo rfl hlookup
    (.inr ⟨demoChildData, List.mem_singleton_self _,
      canonicalGcoHash_of_serializable serializable_demoChild⟩) i

/-- One host derives `demoChild`, and the other lets it call the tool. -/
def demoToolEvent : NetEvent Bool String where
  host := true
  now := demoNow.toPy
  call := .authorizeToolCall demoChild "mcp://tools/search" (some "read")
  decision := .allow

theorem authority_confined_demo :
    Deployment.Confined demoExternals [demoRoot] [demoChildData] demoToolEvent := by
  let start : NetState Bool String (List Payload) := ⟨fun _ => .empty, []⟩
  have hfirst : demoDeployment.Step demoExternals start
      (some ⟨false, demoNow.toPy, .deriveForSubcall demoRoot demoDelegation,
        .allowChild demoChild⟩) (start.after false ⟨.empty, [demoChildData]⟩) := by
    refine .returned (derives_recordingConfig .empty).1 ?_ ?_
    · intro g hg
      obtain rfl := List.mem_singleton.1 hg
      exact unforged_demoRoot _ false
    · rintro g ⟨⟩
      exact unforged_demoChild false
  have hsecond : demoDeployment.Step demoExternals
      (start.after false ⟨.empty, [demoChildData]⟩) (some demoToolEvent)
      ((start.after false ⟨.empty, [demoChildData]⟩).after true ⟨.empty, [demoChildData]⟩) := by
    refine .returned (calls_recordingConfig _).1 ?_ (by rintro g ⟨⟩)
    intro g hg
    obtain rfl := List.mem_singleton.1 hg
    exact unforged_demoChild true
  exact authority_confined demoDeployment demoExternals demoExternals_injective start _ rfl _
    (.cons hfirst (.cons hsecond (.nil _))) demoToolEvent (by simp) rfl

end GcoMcp
