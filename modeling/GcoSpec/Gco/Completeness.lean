import GcoSpec.Gco.Maximality
import GcoSpec.Library.Runs

/-!
# Derivation and validation agree

`derive` checks a request in loops of its own, and the validator checks what comes out. Neither is
stricter than the other: every child that the validator accepts, and whose version is that of its
parent, is what `derive` returns for the child's own authority (`derive_authority`). So the chains
of objects that can be derived link by link are those that the validator accepts link by link
(`derivable_chain_iff`).
-/

namespace Gco

open Python

variable {σ : Type} {env : Externals} {now : PyDatetime} {parent child : GCO}

/-- The validator of the runtime reads the clock `now`. -/
def GCODerivationRuntime.ValidatesAt (rt : GCODerivationRuntime σ) (env : Externals)
    (now : PyDatetime) : Prop :=
  ∀ parent child, rt.validate parent child = Py.ofExcept (Gco.validate env now parent child)

/-- `derive` on the object at hand, for some request. -/
def GCODerivationRuntime.DeriveLink (rt : GCODerivationRuntime σ) (env : Externals) (x : GCO × σ)
    (child : GCO) (y : GCO × σ) : Prop :=
  y.1 = child ∧ ∃ request, rt.derive env x.1 request x.2 = .ok child y.2

/-! ### A child as a request -/

/-- What a child is granted of its parent may be asked for. -/
theorem Narrows.derivable (h : Narrows env parent child) : Derivable parent child.authority where
  lineage := by
    have hlength := h.lineageLength
    rw [h.lineage, List.length_append, List.length_singleton] at hlength
    omega
  parentNamespaces := h.parentNamespaces
  requestNamespaces := h.childNamespaces
  parentToolUris := h.parentToolUris
  requestToolUris := h.childToolUris
  tools t ht := by
    obtain ⟨t', ht', hnarrows⟩ := h.tools t ht
    exact ⟨t', ht', hnarrows.toolUri, by have := hnarrows.maxDepth; omega, hnarrows.scope⟩
  permissions := h.permissions

/-- And nothing of it is clamped. -/
theorem Narrows.grantedTool_eq (h : Narrows env parent child) {t : ToolAuthority}
    (ht : t ∈ child.toolAuthority) : parent.grantedTool t = t := by
  obtain ⟨t', ht', hnarrows⟩ := h.tools t ht
  have hdepth := hnarrows.maxDepth
  rw [GCO.grantedTool_of_mem h.parentToolUris ht' hnarrows.toolUri, min_eq_left (by omega)]

/-- The child is what its own authority is granted. -/
theorem Narrows.grantedChild_authority (h : Narrows env parent child)
    (hversion : child.gcoVersion = parent.gcoVersion) :
    grantedChild env parent child.authority child.spanId = child.bare := by
  have htools : child.toolAuthority.map parent.grantedTool = child.toolAuthority := by
    rw [List.map_congr_left fun t ht => h.grantedTool_eq ht, List.map_id']
  unfold grantedChild childWithoutAttestation GCO.authority GCO.bare
  simp only [GCO.mk.injEq, true_and, and_true]
  exact ⟨hversion.symm, h.traceId.symm, h.parentSpanId.symm, h.policyId.symm, h.modelIdentity.symm,
    h.interventionVersion.symm, htools, min_eq_left h.expiresAt, h.lineage.symm⟩

/-- With the span and the attestation of the child, `derive` returns the child. -/
theorem derive_authority {rt : GCODerivationRuntime σ} (hrt : rt.ValidatesAt env now)
    (hvalid : validate env now parent child = .ok ())
    (hversion : child.gcoVersion = parent.gcoVersion) {s s₁ s₂ : σ}
    (hspan : rt.uuid4 s = .ok child.spanId s₁)
    (hissue : rt.issue parent.modelIdentity.text (child.bareItems env) s₁ =
      .ok child.attestation s₂) :
    rt.derive env parent child.authority s = .ok child s₂ := by
  obtain ⟨hnarrows, hafter⟩ := validate_eq_ok_iff.1 hvalid
  have hgranted := hnarrows.grantedChild_authority hversion
  unfold grantedChild at hgranted
  have hplaceholder : validate env now parent { child.bare with attestation := some placeholder } =
      .ok () := by
    refine validate_eq_ok_iff.2 ⟨?_, hafter⟩
    rw [← hgranted]
    exact hnarrows.derivable.narrows hnarrows.serializable child.spanId (by decide)
  refine GCODerivationRuntime.derive_eq_ok_iff.2 ⟨_, _, child.spanId, s₁, s₁, child.attestation, s₂,
    derivePlan_eq_ok_iff.2 ⟨hnarrows.derivable, rfl⟩, hspan, hnarrows.serializable, ?_, ?_, ?_, ?_⟩
  · rw [hrt, hgranted, hplaceholder]
    rfl
  · rw [hgranted]
    exact hissue
  · rw [hgranted]
    rfl
  · rw [hrt, hvalid]
    rfl

/-- What `derive` returns the validator accepts, with the version of the parent. -/
theorem validate_of_derive {rt : GCODerivationRuntime σ} (hrt : rt.ValidatesAt env now)
    {request : DelegationRequest} {s s' : σ}
    (h : rt.derive env parent request s = .ok child s') :
    validate env now parent child = .ok () ∧ child.gcoVersion = parent.gcoVersion := by
  obtain ⟨tools, permissions, spanId, s₁, s₂, attestation, s₃, -, -, -, -, -, hchild, hvalid⟩ :=
    GCODerivationRuntime.derive_eq_ok_iff.1 h
  rw [hrt] at hvalid
  refine ⟨(Py.ofExcept_eq_ok hvalid).1, ?_⟩
  rw [hchild]
  rfl

/-! ### Chains -/

/-- A runtime that hands out the spans and the attestations of given objects, in turn. -/
def scriptedRuntime (env : Externals) (now : PyDatetime) : GCODerivationRuntime (List GCO) where
  issue _ _ := fun gs => .ok (gs.head?.bind GCO.attestation) gs.tail
  validate parent child := Py.ofExcept (validate env now parent child)
  uuid4 := fun gs => .ok ((gs.head?.map GCO.spanId).getD 0) gs

/-- It derives every chain that the validator accepts. -/
theorem run_scriptedRuntime {root : GCO} {hops : List GCO}
    (h : (root :: hops).IsChain fun parent child =>
      validate env now parent child = .ok () ∧ child.gcoVersion = parent.gcoVersion) :
    ∃ last, Runs.Run ((scriptedRuntime env now).DeriveLink env) (root, hops) hops last := by
  induction hops generalizing root with
  | nil => exact ⟨_, .nil _⟩
  | cons child rest ih =>
    obtain ⟨⟨hvalid, hversion⟩, htail⟩ := List.isChain_cons_cons.1 h
    obtain ⟨last, hrun⟩ := ih htail
    have hderive : (scriptedRuntime env now).derive env root child.authority (child :: rest) =
        .ok child rest := derive_authority (fun _ _ => rfl) hvalid hversion rfl rfl
    exact ⟨last, .cons ⟨rfl, child.authority, hderive⟩ hrun⟩

/-- Every link of a run is one that the validator accepts. -/
theorem isChain_of_run {rt : GCODerivationRuntime σ} (hrt : rt.ValidatesAt env now) {x y : GCO × σ}
    {hops : List GCO} (hrun : Runs.Run (rt.DeriveLink env) x hops y) :
    (x.1 :: hops).IsChain fun parent child =>
      validate env now parent child = .ok () ∧ child.gcoVersion = parent.gcoVersion := by
  induction hrun with
  | nil x => exact List.isChain_singleton _
  | cons first _ ih =>
    obtain ⟨rfl, request, hderive⟩ := first
    exact List.isChain_cons_cons.2 ⟨validate_of_derive hrt hderive, ih⟩

/-- The two sets of rules agree on whole chains: objects can be derived one from the other, by some
runtime with some requests, exactly if the validator accepts each as a child of the one before and
the version stays the same. -/
theorem derivable_chain_iff (env : Externals) (now : PyDatetime) (root : GCO) (hops : List GCO) :
    (∃ (σ : Type) (rt : GCODerivationRuntime σ) (s : σ) (last : GCO × σ), rt.ValidatesAt env now ∧
      Runs.Run (rt.DeriveLink env) (root, s) hops last) ↔
      (root :: hops).IsChain fun parent child =>
        validate env now parent child = .ok () ∧ child.gcoVersion = parent.gcoVersion := by
  constructor
  · rintro ⟨σ, rt, s, last, hrt, hrun⟩
    exact isChain_of_run hrt hrun
  · intro h
    obtain ⟨last, hrun⟩ := run_scriptedRuntime h
    exact ⟨List GCO, scriptedRuntime env now, hops, last, fun _ _ => rfl, hrun⟩

theorem derivable_chain_iff_demo :
    ∃ (σ : Type) (rt : GCODerivationRuntime σ) (s : σ) (last : GCO × σ),
      rt.ValidatesAt demoExternals demoNow.toPy ∧
        Runs.Run (rt.DeriveLink demoExternals) (demoRoot, s) [demoChild, demoLeaf] last :=
  (derivable_chain_iff demoExternals demoNow.toPy demoRoot [demoChild, demoLeaf]).2
    (List.isChain_cons_cons.2 ⟨⟨validate_demo, rfl⟩, List.isChain_cons_cons.2
      ⟨⟨validate_demoLeaf_child canonicalDigest_demoChild, rfl⟩, List.isChain_singleton _⟩⟩)

end Gco
