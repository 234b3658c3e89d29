import GcoSpec.Gco.Validator
import GcoSpec.Library.Chains

/-!
# Delegation chains

`validate` looks at one parent and one child. A chain of validated pairs attenuates authority
from its first object to its last: `Attenuates n` is what `n` hops leave of it, one hop gives
`Attenuates 1` (`Narrows.attenuates`), hops compose (`Attenuates.trans`), and
`delegation_chain_attenuates` is the result for chains of any length.
-/

namespace Gco

open Python

variable {env : Externals}

/-- After `n` hops, `child` has at most the authority of `parent`, and is the same activity. -/
structure Attenuates (n : ℕ) (parent child : GCO) : Prop where
  tools : ∀ t ∈ child.toolAuthority, ∃ t' ∈ parent.toolAuthority, t'.toolUri = t.toolUri ∧
    scopeTokens t.scope ⊆ scopeTokens t'.scope ∧ t.maxDepth + n ≤ t'.maxDepth
  permissions : ∀ p ∈ child.stateAccessPermissions, ∃ p' ∈ parent.stateAccessPermissions,
    p'.namespace = p.namespace ∧ accessAllows p'.accessMode p.accessMode = true ∧
      TaintLe p'.taintPolicy p.taintPolicy
  expiresAt : child.expiresAt ≤ parent.expiresAt
  traceId : child.traceId = parent.traceId
  policyId : child.policyId = parent.policyId
  modelIdentity : child.modelIdentity = parent.modelIdentity
  interventionVersion : child.interventionVersion = parent.interventionVersion
  version : major child.gcoVersion = major parent.gcoVersion

theorem TaintLe.trans {a b c : Label TaintPolicy} (hab : TaintLe a b) (hbc : TaintLe b c) :
    TaintLe a c := by
  obtain ⟨r, s, hr, hs, hrs⟩ := hab
  obtain ⟨s', t, hs', ht, hst⟩ := hbc
  rw [hs, Option.some.injEq] at hs'
  exact ⟨r, t, hr, ht, hrs.trans (hs' ▸ hst)⟩

/-- The depths of a child have texts, as those of its parent do. -/
theorem Narrows.serializable_child {parent child : GCO} (h : Narrows env parent child) :
    child.Serializable := by
  intro t ht
  obtain ⟨t', ht', hn⟩ := h.tools t ht
  exact (h.serializable t' ht').of_le (Nat.le_of_succ_le hn.maxDepth)

theorem Narrows.attenuates {parent child : GCO} (h : Narrows env parent child) :
    Attenuates 1 parent child where
  tools t ht := by
    obtain ⟨t', ht', hn⟩ := h.tools t ht
    exact ⟨t', ht', hn.toolUri.symm, scopeIsSubset_iff.1 hn.scope, hn.maxDepth⟩
  permissions p hp := by
    obtain ⟨p', hp', hn⟩ := h.permissions p hp
    exact ⟨p', hp', hn.namespace.symm, hn.accessMode, hn.taintPolicy⟩
  expiresAt := h.expiresAt
  traceId := h.traceId
  policyId := h.policyId
  modelIdentity := h.modelIdentity
  interventionVersion := h.interventionVersion
  version := h.version

theorem Attenuates.trans {m n : ℕ} {a b c : GCO} (hab : Attenuates m a b)
    (hbc : Attenuates n b c) : Attenuates (m + n) a c where
  tools t ht := by
    obtain ⟨t', ht', huri, hscope, hdepth⟩ := hbc.tools t ht
    obtain ⟨t'', ht'', huri', hscope', hdepth'⟩ := hab.tools t' ht'
    refine ⟨t'', ht'', huri'.trans huri, List.Subset.trans hscope hscope', ?_⟩
    omega
  permissions p hp := by
    obtain ⟨p', hp', hns, hmode, htaint⟩ := hbc.permissions p hp
    obtain ⟨p'', hp'', hns', hmode', htaint'⟩ := hab.permissions p' hp'
    exact ⟨p'', hp'', hns'.trans hns, accessAllows_trans hmode' hmode, htaint'.trans htaint⟩
  expiresAt := hbc.expiresAt.trans hab.expiresAt
  traceId := hbc.traceId.trans hab.traceId
  policyId := hbc.policyId.trans hab.policyId
  modelIdentity := hbc.modelIdentity.trans hab.modelIdentity
  interventionVersion := hbc.interventionVersion.trans hab.interventionVersion
  version := hbc.version.trans hab.version

/-- One hop of a chain: `validate` returned at some reading of the clock. -/
def Validated (env : Externals) (parent child : GCO) : Prop :=
  ∃ now, validate env now parent child = .ok ()

theorem Validated.narrows {parent child : GCO} (h : Validated env parent child) :
    Narrows env parent child := by
  obtain ⟨now, h⟩ := h
  exact (validate_eq_ok_iff.1 h).1

theorem graded_attenuates : Chains.Graded (Validated env) Attenuates where
  step h := h.narrows.attenuates
  trans := Attenuates.trans

/-- Authority only tightens along a delegation chain `g₀, gs` of any length: the last object has
no tool, permission or time that `g₀` does not grant it, its lineage is that of `g₀` followed by
the hashes of the objects before it, which all have one, and the lineage bound and the tool depths
of `g₀` bound the length of the chain. -/
theorem delegation_chain_attenuates (env : Externals) (g₀ : GCO) (gs : List GCO) (hne : gs ≠ [])
    (hchain : (g₀ :: gs).IsChain fun parent child =>
      ∃ now, validate env now parent child = .ok ()) :
    g₀.toolUris.Nodup ∧ g₀.namespaces.Nodup ∧
      Attenuates gs.length g₀ (gs.getLast hne) ∧
      (gs.getLast hne).lineage =
        g₀.lineage ++ (g₀ :: gs).dropLast.map (canonicalDigest env) ∧
      (∀ g ∈ (g₀ :: gs).dropLast, canonicalGcoHash env g = .ok (canonicalDigest env g)) ∧
      (gs.getLast hne).lineage.length ≤ 128 ∧
      gs.length ≤ 128 - g₀.lineage.length ∧
      ∀ t₀ ∈ g₀.toolAuthority,
        (∃ t ∈ (gs.getLast hne).toolAuthority, t.toolUri = t₀.toolUri) →
          gs.length ≤ t₀.maxDepth := by
  have hchain' : (g₀ :: gs).IsChain (Validated env) := hchain
  have hattenuates := graded_attenuates.isChain hne hchain'
  have hlineage := Chains.accumulates (fun h => h.narrows.lineage) hne hchain'
  have hhashed : ∀ g ∈ (g₀ :: gs).dropLast, canonicalGcoHash env g = .ok (canonicalDigest env g) :=
    Chains.dropLast_of_step (fun h => canonicalGcoHash_of_serializable h.narrows.serializable)
      hchain'
  have hlength := Chains.getLast_of_step (fun h => h.narrows.lineageLength) hne hchain'
  obtain ⟨huris, hnamespaces⟩ : g₀.toolUris.Nodup ∧ g₀.namespaces.Nodup := by
    obtain ⟨g, gs, rfl⟩ := List.exists_cons_of_ne_nil hne
    have h := (List.isChain_cons_cons.1 hchain').1.narrows
    exact ⟨h.parentToolUris, h.parentNamespaces⟩
  have hbound : g₀.lineage.length + gs.length ≤ 128 := by
    have := congrArg List.length hlineage
    simp only [List.length_append, List.length_map, List.length_dropLast, List.length_cons,
      Nat.add_sub_cancel] at this
    omega
  refine ⟨huris, hnamespaces, hattenuates, hlineage, hhashed, hlength, by omega, ?_⟩
  rintro t₀ ht₀ ⟨t, ht, huri⟩
  obtain ⟨t', ht', huri', -, hdepth⟩ := hattenuates.tools t ht
  -- `g₀` has one entry for the URI
  have : t' = t₀ := List.inj_on_of_nodup_map huris ht' ht₀ (congrArg Uri.text (huri'.trans huri))
  subst this
  omega

/-! ### A delegation -/

def demoIdentity : Uri := ⟨"spiffe://example.org/agent", by decide⟩

/-- 2026-01-01T00:00:00Z. -/
def demoNow : DateTime := ⟨1767225600000000, by decide, by decide⟩

/-- A JWS over `sub`, `gco_hash`, `exp` and `jti` for `demoRoot`. -/
def demoRootToken : String :=
  "eyJhbGciOiJFUzI1NiIsImtpZCI6ImsxIiwidHlwIjoiSldUIn0.eyJzdWIiOiJzcGlmZmU6Ly9leGFtcGxlLm9yZy" ++
    "9hZ2VudCIsImdjb19oYXNoIjoiNWM5OTViZmQ3OTQ5MjFkMGY1YmVkYmNlZmFjNDhhMjdjY2JhMGViYzVjNzBkNzgw" ++
    "NmZiZGEwNmZiNTVjYzNkYSIsImV4cCI6MTc2NzIyOTIwMCwianRpIjoicm9vdC1qdGkifQ.AdBXhLgigDP2gY3X90n" ++
    "Wr-iG81Uh_PuJctycHvqNyqzzJg4-YRomLy6udpHcT6qsJI90rnvqNNw9jmCOqNhi1Q"

/-- The same for `demoChild`. -/
def demoChildToken : String :=
  "eyJhbGciOiJFUzI1NiIsImtpZCI6ImsxIiwidHlwIjoiSldUIn0.eyJzdWIiOiJzcGlmZmU6Ly9leGFtcGxlLm9yZy" ++
    "9hZ2VudCIsImdjb19oYXNoIjoiNmY1NDBhMDE1NmJjYmMyMTE5MjEwY2VlYzZlY2NkZWY0ZmVhMWJkNzlmMGMyZmNk" ++
    "N2QxNWNkYjA5OTMwMzY3OCIsImV4cCI6MTc2NzIyNzQwMCwianRpIjoiY2hpbGQtanRpIn0.S2Thh1s7M4_hZUC3WL" ++
    "Of2s0yHG4UuxpLg9Y0889jtPxEvwfSVOGZW8FOXG6bhGs5_louxuX2ryTWgAuxU5S9kg"

/-- A JWS over `sub`, `gco_hash`, `exp` and `jti` for `demoLeaf`. -/
def demoLeafToken : String :=
  "eyJhbGciOiJFUzI1NiIsImtpZCI6ImsxIiwidHlwIjoiSldUIn0.eyJzdWIiOiJzcGlmZmU6Ly9leGFtcGxlLm9yZy" ++
    "9hZ2VudCIsImdjb19oYXNoIjoiMzMyMzk4MDdkNjM4ZWUwZDRjNTgxNjQ4NWRjNWI4OWU5YmExNmU2NzY0ZDQ0NmNh" ++
    "ZGNjODFkODU3NTkxNDljZSIsImV4cCI6MTc2NzIyNzQwMCwianRpIjoibGVhZi1qdGkifQ.j2QRM5R0X-PsnQnvRGF" ++
    "OGnA_574LIAbkzJvLjOmEkLLmd_1H6t4UE5_w1Rcu37SkIXgRZzj6MXesM757JBDQ0A"

theorem demoRootToken_ne_empty : demoRootToken ≠ "" := by decide +kernel

theorem demoChildToken_ne_empty : demoChildToken ≠ "" := by decide +kernel

theorem demoLeafToken_ne_empty : demoLeafToken ≠ "" := by decide +kernel

theorem demoRootToken_ne_demoChildToken : demoRootToken ≠ demoChildToken := by decide +kernel

/-- SHA-256 of the canonical text of `demoRoot`. -/
def demoRootDigest : String :=
  "5c995bfd794921d0f5bedbcefac48a27ccba0ebc5c70d7806fbda06fb55cc3da"

/-- SHA-256 of the canonical text of `demoChild`. -/
def demoChildDigest : String :=
  "6f540a0156bcbc2119210ceec6eccdef4fea1bd79f0c2fcd7d15cdb099303678"

/-- A root object for one hour, whose second tool has a blank scope. -/
def demoRoot : GCO where
  gcoVersion := "1.0.0"
  traceId := 0x10
  spanId := 0xa0
  parentSpanId := none
  policyId := "policy-1"
  modelIdentity := demoIdentity
  interventionVersion := "v1"
  toolAuthority :=
    [⟨⟨"mcp://tools/search", by decide⟩, "read,write", 2⟩,
      ⟨⟨"mcp://tools/list", by decide⟩, " ", 2⟩]
  stateAccessPermissions := [⟨"shared", .member .write, .member .clean⟩]
  expiresAt := ⟨1767229200000000, by decide, by decide⟩
  lineage := []
  attestation := some ⟨.jwtSvid, demoRootToken, none⟩

/-- A child of `demoRoot` for half an hour. -/
def demoChild : GCO where
  gcoVersion := "1.0.0"
  traceId := 0x10
  spanId := 0xa1
  parentSpanId := some 0xa0
  policyId := "policy-1"
  modelIdentity := demoIdentity
  interventionVersion := "v1"
  toolAuthority :=
    [⟨⟨"mcp://tools/search", by decide⟩, "read", 1⟩, ⟨⟨"mcp://tools/list", by decide⟩, ",", 1⟩]
  stateAccessPermissions := [⟨"shared", .member .write, .member .sanitized⟩]
  expiresAt := ⟨1767227400000000, by decide, by decide⟩
  lineage := [demoRootDigest]
  attestation := some ⟨.jwtSvid, demoChildToken, none⟩

/-- The child of `demoChild`. -/
def demoLeaf : GCO where
  gcoVersion := "1.0.0"
  traceId := 0x10
  spanId := 0xa2
  parentSpanId := some 0xa1
  policyId := "policy-1"
  modelIdentity := demoIdentity
  interventionVersion := "v1"
  toolAuthority := (demoChild.toolAuthority.take 1).map fun t => { t with maxDepth := 0 }
  stateAccessPermissions := []
  expiresAt := demoChild.expiresAt
  lineage := [demoRootDigest, demoChildDigest]
  attestation := some ⟨.jwtSvid, demoLeafToken, none⟩

theorem serializable_demoRoot : demoRoot.Serializable := by decide

theorem serializable_demoChild : demoChild.Serializable := by decide

theorem serializable_demoLeaf : demoLeaf.Serializable := by decide

/-- Texts as pydantic writes them: `str(uuid)`, and `Z` for the offset of UTC. -/
def demoTexts : Externals where
  sha256 := id
  dumpUuid := Uuid.str
  dumpDatetime t := String.ofList (t.isoBody ++ ['Z'])
  floatFormat := ⟨fun _ => [], fun _ => .nan⟩
  reprStr s := "'" ++ s ++ "'"

/-- A hash given by a table of texts and digests; a text outside it gets one that is no digest. -/
@[irreducible] def tableHash (table : List (String × String)) (text : String) : String :=
  (table.lookup text).getD ("#" ++ text)

theorem canonicalDigest_tableHash (env : Externals) {table : List (String × String)} {g : GCO}
    {digest : String} (h : table.lookup (canonicalText env g) = some digest) :
    canonicalDigest { env with sha256 := tableHash table } g = digest := by
  show tableHash table (canonicalText env g) = digest
  rw [tableHash, h, Option.getD_some]

/-- Such a hash has no collision when the digests are distinct and none starts like the others. -/
theorem tableHash_injective {table : List (String × String)}
    (hdistinct : ∀ p ∈ table, ∀ q ∈ table, p.2 = q.2 → p.1 = q.1)
    (hhash : ∀ p ∈ table, p.2.toList.head? ≠ some '#') : Function.Injective (tableHash table) := by
  have hmem : ∀ {text digest}, table.lookup text = some digest → (text, digest) ∈ table := by
    intro text digest h
    obtain ⟨l₁, l₂, rfl, -⟩ := List.lookup_eq_some_iff.1 h
    simp
  have houtside : ∀ text digest, table.lookup digest = none → ∀ p ∈ table, p.1 = text →
      p.2 ≠ "#" ++ digest := by
    rintro text digest - p hp - he
    exact hhash p hp (by rw [he, String.toList_append]; rfl)
  intro a b h
  unfold tableHash at h
  cases ha : table.lookup a with
  | none =>
    cases hb : table.lookup b with
    | none =>
      rw [ha, hb, Option.getD_none, Option.getD_none, ← String.toList_inj, String.toList_append,
        String.toList_append, List.append_cancel_left_eq, String.toList_inj] at h
      exact h
    | some d =>
      rw [ha, hb] at h
      exact absurd h.symm (houtside b a ha _ (hmem hb) rfl)
  | some d =>
    cases hb : table.lookup b with
    | none =>
      rw [ha, hb] at h
      exact absurd h (houtside a b hb _ (hmem ha) rfl)
    | some d' =>
      rw [ha, hb] at h
      exact hdistinct _ (hmem ha) _ (hmem hb) h

theorem tableHash_pair_injective {t₁ d₁ t₂ d₂ : String} (hd : d₁ ≠ d₂)
    (h₁ : d₁.toList.head? ≠ some '#') (h₂ : d₂.toList.head? ≠ some '#') :
    Function.Injective (tableHash [(t₁, d₁), (t₂, d₂)]) := by
  refine tableHash_injective ?_ ?_
  · simp only [List.forall_mem_cons, List.not_mem_nil, false_implies, implies_true, and_true,
      true_and]
    exact ⟨fun h => absurd h hd, fun h => absurd h hd.symm⟩
  · simp only [List.forall_mem_cons, List.not_mem_nil, false_implies, implies_true, and_true]
    exact ⟨h₁, h₂⟩

/-- SHA-256 on the texts of the two objects. -/
def demoExternals : Externals :=
  { demoTexts with
    sha256 := tableHash
      [(canonicalText demoTexts demoRoot, demoRootDigest),
        (canonicalText demoTexts demoChild, demoChildDigest)] }

theorem canonicalDigest_demoRoot : canonicalDigest demoExternals demoRoot = demoRootDigest :=
  canonicalDigest_tableHash demoTexts List.lookup_cons_self

theorem demoDigests : demoRootDigest ≠ demoChildDigest ∧
    demoRootDigest.toList.head? ≠ some '#' ∧ demoChildDigest.toList.head? ≠ some '#' := by
  decide +kernel

theorem demoExternals_injective : demoExternals.Injective where
  sha256 := tableHash_pair_injective demoDigests.1 demoDigests.2.1 demoDigests.2.2
  dumpUuid := Uuid.str_injective
  dumpDatetime _ _ h := DateTime.isoBody_injective
    (List.append_cancel_right (String.ofList_injective h))

theorem narrows_demo : Narrows demoExternals demoRoot demoChild where
  parentNamespaces := by decide
  childNamespaces := by decide
  parentToolUris := by decide
  childToolUris := by decide
  version := rfl
  traceId := rfl
  policyId := rfl
  modelIdentity := rfl
  interventionVersion := rfl
  parentSpanId := rfl
  serializable := serializable_demoRoot
  lineage := by rw [canonicalDigest_demoRoot]; rfl
  lineageLength := by decide
  tools t ht := by
    rcases List.mem_pair.1 ht with rfl | rfl
    · exact ⟨_, List.mem_cons_self, rfl, by decide, by decide⟩
    · exact ⟨_, List.mem_cons_of_mem _ List.mem_cons_self, rfl, by decide, by decide⟩
  permissions p hp := by
    obtain rfl := List.mem_singleton.1 hp
    exact ⟨_, List.mem_cons_self, rfl, by decide, 0, 1, rfl, rfl, by decide⟩
  expiresAt := by decide
  attestation := ⟨_, rfl, demoChildToken_ne_empty⟩

theorem validate_demo : validate demoExternals demoNow.toPy demoRoot demoChild = .ok () :=
  validate_eq_ok_iff.2 ⟨narrows_demo, demoNow.micros, PyDatetime.instant?_toPy demoNow, by decide⟩

theorem canonicalText_demoChild_ne :
    canonicalText demoTexts demoChild ≠ canonicalText demoTexts demoRoot := by
  intro h
  have hinjective : demoTexts.Injective :=
    { sha256 := Function.injective_id
      dumpUuid := demoExternals_injective.dumpUuid
      dumpDatetime := demoExternals_injective.dumpDatetime }
  have hbare := bare_eq_of_canonicalText_eq hinjective serializable_demoChild
    serializable_demoRoot h
  exact absurd (congrArg GCO.spanId hbare) (by decide)

theorem canonicalDigest_demoChild : canonicalDigest demoExternals demoChild = demoChildDigest :=
  canonicalDigest_tableHash demoTexts (by
    rw [Dict.lookup_cons_ite, if_neg canonicalText_demoChild_ne, List.lookup_cons_self])

theorem narrows_demoLeaf {env : Externals} (h : canonicalDigest env demoChild = demoChildDigest) :
    Narrows env demoChild demoLeaf where
  parentNamespaces := by decide
  childNamespaces := by decide
  parentToolUris := by decide
  childToolUris := by decide
  version := rfl
  traceId := rfl
  policyId := rfl
  modelIdentity := rfl
  interventionVersion := rfl
  parentSpanId := rfl
  serializable := serializable_demoChild
  lineage := by rw [h]; rfl
  lineageLength := by decide
  tools t ht := by
    obtain rfl := List.mem_singleton.1 ht
    exact ⟨_, List.mem_cons_self, rfl, by decide, by decide⟩
  permissions p hp := by cases hp
  expiresAt := le_rfl
  attestation := ⟨_, rfl, demoLeafToken_ne_empty⟩

theorem validate_demoLeaf_child {env : Externals}
    (h : canonicalDigest env demoChild = demoChildDigest) :
    validate env demoNow.toPy demoChild demoLeaf = .ok () :=
  validate_eq_ok_iff.2 ⟨narrows_demoLeaf h, demoNow.micros, PyDatetime.instant?_toPy demoNow,
    by decide⟩

/-- The bounds of a chain of two hops, the second of which uses up the depth. -/
theorem delegation_chain_attenuates_demo :
    Attenuates 2 demoRoot demoLeaf ∧
      demoLeaf.lineage = [demoRoot, demoChild].map (canonicalDigest demoExternals) := by
  obtain ⟨-, -, hattenuates, hlineage, -⟩ := delegation_chain_attenuates demoExternals demoRoot
    [demoChild, demoLeaf] (List.cons_ne_nil _ _)
    (List.isChain_cons_cons.2 ⟨⟨demoNow.toPy, validate_demo⟩,
      List.isChain_cons_cons.2 ⟨⟨demoNow.toPy, validate_demoLeaf_child canonicalDigest_demoChild⟩,
        List.isChain_singleton _⟩⟩)
  exact ⟨hattenuates, hlineage⟩

end Gco
