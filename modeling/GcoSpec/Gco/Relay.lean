import GcoSpec.Gco.CliChecks
import GcoSpec.GcoMcp.Handover

/-!
# Relays

Hosts that trust one bundle, each with a signing key that the bundle registers, pass an authority
on: a host lets the object it holds call a tool, and derives a child of it for the next one.

* `Relay.Carries.step`: an object whose entry for the tool has depth left can be passed on, by any
  of the hosts, and the child has one depth less;
* `Relay.le_of_run`: whatever the requests are, no run has more hops than the depth;
* `delegation_depth_exact`: so the depth, and the bound on the lineage, count the hops exactly.
-/

namespace Gco

open Python Python.Json GcoMcp

variable {ι Key Cert Store V Ω PrivateKey : Type}

/-! ### Hosts -/

/-- Hosts that trust one bundle, with a signing authority each. -/
structure Relay (ι Key Cert Store V Ω PrivateKey : Type) where
  process : ι → Config Key Cert Store V Ω
  bundle : TrustBundle Key Cert Store
  authority : ι → PemSigningAuthority PrivateKey

/-- What a host does with an object, and when. -/
structure Hop (ι : Type) where
  host : ι
  now : DateTime
  request : DelegationRequest

namespace Relay

variable (relay : Relay ι Key Cert Store V Ω PrivateKey) (ext : ModelExternals)
  (encode : JwtEncode PrivateKey)

/-- `GovernanceRuntime(bundle, attestation_authority=PemSigningAuthority(key, kid=kid))`. -/
def host (i : ι) : Config Key Cert Store V Ω :=
  (relay.process i).forCommand relay.bundle ((relay.authority i).issue ext encode)

/-- A host lets the object at hand call the tool, and derives a child of it. -/
def Step (toolUri : String) (requestedScope : Option String) (s : GCO × (ι → World V Ω))
    (hop : Hop ι) (s' : GCO × (ι → World V Ω)) : Prop :=
  let rt := (relay.host ext encode hop.host).runtime ext.toExternals hop.now.toPy
  ∃ w,
    Allows (rt.authorizeToolCall ext.toExternals (.gco s.1) (.str toolUri)
      (requestedScope.map .str)) (s.2 hop.host) .allow w ∧
    Allows (rt.deriveForSubcall ext.toExternals (.gco s.1) (.request hop.request)) w
      (.allowChild s'.1) (s'.2 hop.host) ∧
    ∀ j ≠ hop.host, s'.2 j = s.2 j

/-- The hosts use the same libraries, every authority signs with a key that the bundle registers for
the identity, no audience is expected, and UUIDs can be drawn. -/
structure Works (identity : Uri) : Prop where
  crypto : ∀ i j, (relay.process i).crypto = (relay.process j).crypto
  signs : ∀ i, ∃ key, relay.bundle.Registers identity (relay.authority i).kid key ∧
    SignsFor (relay.process i).crypto encode (relay.authority i).key key
  audience : relay.bundle.expectedAudience = none
  uuid4 : ∀ i w, ∃ spanId w', (relay.process i).uuid4 w = .ok spanId w'

/-- Every host accepts the object, whose entry for the tool has this depth. -/
structure Carries (now : DateTime) (toolUri : String) (requestedScope : Option String) (g : GCO)
    (depth : ℕ) : Prop where
  verifies : ∀ i w, (relay.host ext encode i).Verifies ext.toExternals now.toPy g w w
  namespaces : g.namespaces.Nodup
  toolUris : g.toolUris.Nodup
  entry : ∃ t ∈ g.toolAuthority, t.toolUri.text = toolUri ∧ t.maxDepth = depth ∧
    strip t.scope ≠ "" ∧ ∀ s ∈ requestedScope, scopeIsSubset s t.scope = true
  current : now.micros + 1000000 ≤ g.expiresAt.micros
  bound : g.expiresAt.micros < DateTime.roundsUpFrom

variable {relay ext encode} {toolUri : String} {requestedScope : Option String} {now : DateTime}
  {identity : Uri} {g : GCO}

/-- What one host verifies, all do. -/
theorem Works.verifies (hworks : relay.Works encode identity) {i : ι} {w w' : World V Ω}
    (h : (relay.host ext encode i).Verifies ext.toExternals now.toPy g w w') (j : ι)
    (v : World V Ω) : (relay.host ext encode j).Verifies ext.toExternals now.toPy g v v := by
  have hreceives : Receives (relay.host ext encode i) (relay.host ext encode j) :=
    ⟨hworks.crypto j i, rfl, rfl, rfl⟩
  exact hreceives.verifies h v

/-- An object with depth left can be passed on by any host, and the child has one less. -/
theorem Carries.step (hext : ext.ReadsBack) (hworks : relay.Works encode g.modelIdentity)
    {depth : ℕ} (h : relay.Carries ext encode now toolUri requestedScope g (depth + 1))
    (hlineage : g.lineage.length < 128) (i : ι) (ws : ι → World V Ω) :
    ∃ hop s', hop.host = i ∧ relay.Step ext encode toolUri requestedScope (g, ws) hop s' ∧
      relay.Carries ext encode now toolUri requestedScope s'.1 depth ∧
      s'.1.modelIdentity = g.modelIdentity ∧ s'.1.lineage.length = g.lineage.length + 1 := by
  obtain ⟨t, ht, huri, hdepth, hblank, hscope⟩ := h.entry
  -- the request asks for the tool, with all that the object has
  let request : DelegationRequest := ⟨[t], [], g.expiresAt⟩
  have hderivable : Derivable g request :=
    { lineage := hlineage
      parentNamespaces := h.namespaces
      requestNamespaces := List.nodup_nil
      parentToolUris := h.toolUris
      requestToolUris := List.nodup_singleton _
      tools := by
        intro t' ht'
        obtain rfl := List.mem_singleton.1 ht'
        exact ⟨t', ht, rfl, by omega, scopeIsSubset_iff.2 (List.Subset.refl _)⟩
      permissions := fun p hp => absurd hp List.not_mem_nil }
  have hmin : min request.requestedExpiry g.expiresAt = g.expiresAt := min_self _
  have hcurrent : now.micros + 1000000 ≤ (min request.requestedExpiry g.expiresAt).micros := by
    rw [hmin]
    exact h.current
  have hbound : (min request.requestedExpiry g.expiresAt).micros < DateTime.roundsUpFrom := by
    rw [hmin]
    exact h.bound
  have hafter : After (min request.requestedExpiry g.expiresAt) now.toPy := by
    refine after_toPy_iff.2 ?_
    show now.micros < (min request.requestedExpiry g.expiresAt).micros
    omega
  obtain ⟨key, hregisters, hsigns⟩ := hworks.signs i
  obtain ⟨spanId, w', huuid⟩ := hworks.uuid4 i (ws i)
  obtain ⟨a, hissue, hvalue, hattests⟩ :=
    exists_issue_grantedChild hext hregisters hsigns hderivable (h.verifies i (ws i)).serializable
      hcurrent spanId
  let child : GCO :=
    { grantedChild ext.toExternals g request spanId with attestation := some a }
  have hchild : (relay.host ext encode i).Verifies ext.toExternals now.toPy child w' w' :=
    (Config.verifies_iff rfl).2 ⟨rfl, hattests.2 ⟨hworks.audience, hbound⟩⟩
  have hauthorized : Allows (((relay.host ext encode i).runtime ext.toExternals
      now.toPy).authorizeToolCall ext.toExternals (.gco g) (.str toolUri)
        (requestedScope.map .str)) (ws i) .allow (ws i) :=
    (allows_authorizeToolCall_iff requestedScope).2 ⟨h.verifies i (ws i), hmin ▸ hafter,
      ⟨t, (grantFor?_eq_some_iff h.toolUris).2 ⟨ht, huri, by omega, hblank⟩, hscope⟩, rfl⟩
  have hderived : Allows (((relay.host ext encode i).runtime ext.toExternals
      now.toPy).deriveForSubcall ext.toExternals (.gco g) (.request request)) (ws i)
        (.allowChild child) w' :=
    (signedDerive_success_iff_allows.1 (signedDerive_success_iff.2 ⟨h.verifies i (ws i),
      hderivable, hafter, spanId, a, huuid, hissue, hvalue, rfl, hchild⟩)).2
  classical
  refine ⟨⟨i, now, request⟩, (child, Function.update ws i w'), rfl,
    ⟨ws i, hauthorized, ?_, fun j hj => Function.update_of_ne hj _ _⟩, ?_, rfl, ?_⟩
  · show Allows _ _ _ (Function.update ws i w' i)
    rw [Function.update_self]
    exact hderived
  · exact
      { verifies := hworks.verifies hchild
        namespaces := List.nodup_nil
        toolUris := List.nodup_singleton _
        entry := by
          refine ⟨g.grantedTool t, List.mem_singleton_self _, ?_⟩
          rw [GCO.grantedTool_of_mem h.toolUris ht rfl]
          exact ⟨huri, by dsimp only; omega, hblank, hscope⟩
        current := hcurrent
        bound := hbound }
  · show (g.lineage ++ [canonicalDigest ext.toExternals g]).length = _
    rw [List.length_append, List.length_singleton]

/-- Along any hosts there is a run, as long as depth and lineage allow. -/
theorem Carries.exists_run (hext : ext.ReadsBack) {hosts : List ι} {depth : ℕ}
    (hworks : relay.Works encode g.modelIdentity)
    (h : relay.Carries ext encode now toolUri requestedScope g depth)
    (hdepth : hosts.length ≤ depth) (hlineage : g.lineage.length + hosts.length ≤ 128)
    (ws : ι → World V Ω) :
    ∃ hops s', Runs.Run (relay.Step ext encode toolUri requestedScope) (g, ws) hops s' ∧
      hops.map Hop.host = hosts := by
  induction hosts generalizing g depth ws with
  | nil => exact ⟨[], (g, ws), .nil _, rfl⟩
  | cons i rest ih =>
    rw [List.length_cons] at hdepth hlineage
    obtain ⟨depth, rfl⟩ : ∃ d, depth = d + 1 := ⟨depth - 1, by omega⟩
    obtain ⟨hop, ⟨child, ws'⟩, hhost, hstep, hcarries, hidentity, hlength⟩ :=
      h.step hext hworks (by omega) i ws
    dsimp only at hcarries hidentity hlength
    obtain ⟨hops, last, hrun, hhosts⟩ :=
      ih (hidentity.symm ▸ hworks) hcarries (by omega) (by omega) ws'
    exact ⟨hop :: hops, last, .cons hstep hrun, by rw [List.map_cons, hhost, hhosts]⟩

/-! ### The bound -/

/-- What a step says of the object: it has depth left for the tool, and the child is within it. -/
theorem Step.narrows {s s' : GCO × (ι → World V Ω)} {hop : Hop ι}
    (h : relay.Step ext encode toolUri requestedScope s hop s') :
    Narrows ext.toExternals s.1 s'.1 ∧
      ∃ t ∈ s.1.toolAuthority, t.toolUri.text = toolUri ∧ 0 < t.maxDepth := by
  obtain ⟨w, hauthorized, hderived, -⟩ := h
  obtain ⟨-, -, ⟨t, hfind, -⟩, -⟩ := (allows_authorizeToolCall_iff requestedScope).1 hauthorized
  obtain ⟨issue, -, w₁, child, w₂, -, -, -, hvalidate, hd⟩ :=
    allows_deriveForSubcall_iff.1 hderived
  have hchild : s'.1 = child := Option.some.inj (congrArg Decision.child hd)
  rw [hchild]
  obtain ⟨hnarrows, -⟩ := validate_eq_ok_iff.1 hvalidate
  obtain ⟨ht, huri, hdepth, -⟩ := (grantFor?_eq_some_iff hnarrows.parentToolUris).1 hfind
  exact ⟨hnarrows, t, ht, huri, hdepth⟩

/-- No run has more hops than the depth for the tool, whatever was requested. -/
theorem le_of_run {s s' : GCO × (ι → World V Ω)} {hops : List (Hop ι)}
    (hrun : Runs.Run (relay.Step ext encode toolUri requestedScope) s hops s') (hne : hops ≠ []) :
    (∃ t ∈ s.1.toolAuthority, t.toolUri.text = toolUri ∧ hops.length ≤ t.maxDepth) ∧
      s.1.lineage.length + hops.length ≤ 128 := by
  induction hrun with
  | nil s => exact absurd rfl hne
  | @cons s s' s'' hop rest first hrest ih =>
    obtain ⟨hnarrows, t, ht, huri, hdepth⟩ := first.narrows
    have hlength : s'.1.lineage.length = s.1.lineage.length + 1 := by
      rw [hnarrows.lineage, List.length_append, List.length_singleton]
    rw [List.length_cons]
    by_cases hlast : rest = []
    · subst hlast
      have hbound := hnarrows.lineageLength
      exact ⟨⟨t, ht, huri, hdepth⟩, by rw [List.length_nil]; omega⟩
    · obtain ⟨⟨u, hu, huuri, hudepth⟩, hlineage⟩ := ih hlast
      obtain ⟨u', hu', hunarrows⟩ := hnarrows.tools u hu
      have huuri' : u'.toolUri.text = toolUri := by rw [← hunarrows.toolUri, huuri]
      have hless := hunarrows.maxDepth
      exact ⟨⟨u', hu', huuri', by omega⟩, by omega⟩

end Relay

/-- The depth counts the delegations. Take an object that one of the hosts verifies, with an entry
for a tool, and any hosts in a row, each to let the object at hand call the tool and to derive a
child for the next one, at times and with requests of its own choice: this can be done exactly if
there are no more hosts than the entry has depth, and than the lineage has room for. -/
theorem delegation_depth_exact (relay : Relay ι Key Cert Store V Ω PrivateKey)
    (ext : ModelExternals) (hext : ext.ReadsBack) (encode : JwtEncode PrivateKey) (g : GCO)
    (hworks : relay.Works encode g.modelIdentity) (now : DateTime) (i : ι) (w w' : World V Ω)
    (hverifies : (relay.host ext encode i).Verifies ext.toExternals now.toPy g w w')
    (hnamespaces : g.namespaces.Nodup) (htoolUris : g.toolUris.Nodup)
    (hsecond : now.micros + 1000000 ≤ g.expiresAt.micros)
    (hbound : g.expiresAt.micros < DateTime.roundsUpFrom) (t : ToolAuthority)
    (ht : t ∈ g.toolAuthority) (hblank : strip t.scope ≠ "") (requestedScope : Option String)
    (hscope : ∀ s ∈ requestedScope, scopeIsSubset s t.scope = true) (hosts : List ι)
    (ws : ι → World V Ω) :
    (∃ hops s', Runs.Run (relay.Step ext encode t.toolUri.text requestedScope) (g, ws) hops s' ∧
        hops.map Hop.host = hosts) ↔
      hosts = [] ∨ hosts.length ≤ t.maxDepth ∧ g.lineage.length + hosts.length ≤ 128 := by
  constructor
  · rintro ⟨hops, s', hrun, rfl⟩
    by_cases hne : hops = []
    · exact .inl (by rw [hne, List.map_nil])
    · obtain ⟨⟨u, hu, huri, hdepth⟩, hlineage⟩ := Relay.le_of_run hrun hne
      -- the object has one entry for the tool
      obtain rfl : u = t := List.inj_on_of_nodup_map htoolUris hu ht huri
      rw [List.length_map]
      exact .inr ⟨hdepth, hlineage⟩
  · rintro (rfl | ⟨hdepth, hlineage⟩)
    · exact ⟨[], (g, ws), .nil _, rfl⟩
    · have hcarries : relay.Carries ext encode now t.toolUri.text requestedScope g t.maxDepth :=
        ⟨hworks.verifies hverifies, hnamespaces, htoolUris, ⟨t, ht, rfl, rfl, hblank, hscope⟩,
          hsecond, hbound⟩
      exact hcarries.exists_run hext hworks hdepth hlineage ws

/-! ### Two hosts -/

/-- Two hosts with one key. -/
def demoRelay : Relay Bool Unit Unit Unit String Unit Unit where
  process _ := signingProcess
  bundle := signingBundle none
  authority _ := ⟨(), "k1"⟩

theorem works_demoRelay : demoRelay.Works jwsEncode (signedRoot none).modelIdentity where
  crypto _ _ := rfl
  signs _ := ⟨(), registers_demo none, signsFor_jwsEncode⟩
  audience := rfl
  uuid4 _ w := ⟨0, w, rfl⟩

/-- The depth of `demoRoot` for its first tool is 2. -/
theorem delegation_depth_exact_demo :
    (∃ hops s', Runs.Run (demoRelay.Step demoModelExternals jwsEncode "mcp://tools/search"
        (some "read")) (signedRoot none, fun _ => demoWorld .empty) hops s' ∧
      hops.map Hop.host = [true, false]) ∧
    ¬∃ hops s', Runs.Run (demoRelay.Step demoModelExternals jwsEncode "mcp://tools/search"
        (some "read")) (signedRoot none, fun _ => demoWorld .empty) hops s' ∧
      hops.map Hop.host = [true, false, true] := by
  have hexact := fun hosts => delegation_depth_exact demoRelay demoModelExternals
    demoModelExternals_readsBack jwsEncode (signedRoot none) works_demoRelay demoNow true
    (demoWorld .empty) (demoWorld .empty) (verifies_signedRoot none _ _)
    (derivable_signedRoot none).parentNamespaces (derivable_signedRoot none).parentToolUris
    (show demoNow.micros + 1000000 ≤ demoRoot.expiresAt.micros by decide)
    (show demoRoot.expiresAt.micros < DateTime.roundsUpFrom by decide)
    ⟨⟨"mcp://tools/search", by decide⟩, "read,write", 2⟩ List.mem_cons_self (by decide)
    (some "read") (by decide) hosts (fun _ => demoWorld .empty)
  refine ⟨(hexact [true, false]).2 (.inr ⟨le_rfl, ?_⟩), fun h => ?_⟩
  · show demoRoot.lineage.length + 2 ≤ 128
    decide
  · rcases (hexact [true, false, true]).1 h with hnil | ⟨hdepth, -⟩
    · cases hnil
    · exact absurd hdepth (by decide)

end Gco
