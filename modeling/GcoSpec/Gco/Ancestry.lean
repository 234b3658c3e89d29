import GcoSpec.Gco.Delegation

/-!
# Ancestry

`validate` compares the lineage of a child with that of its parent, and its last entry with the
hash of the parent. Along a chain from a root the lineage of each object is therefore the list of
the hashes of all objects before it (`lineage_getElem`), and without collisions it determines
them (`lineage_determines_ancestry`).
-/

namespace Gco

open Python

variable {env : Externals}

/-- A chain of derivations from a root object, each step accepted at its own reading of the
clock. -/
structure Descends (env : Externals) (root : GCO) (gs : List GCO) : Prop where
  start : ∃ now, validateRoot now root = .ok ()
  chain : (root :: gs).IsChain (Validated env)

namespace Descends

variable {root root' : GCO} {gs gs' : List GCO}

/-- The lineage of every object is the hashes of those before it. -/
theorem lineage_getElem (h : Descends env root gs) (i : ℕ) (hi : i < (root :: gs).length) :
    (root :: gs)[i].lineage = ((root :: gs).take i).map (canonicalDigest env) := by
  obtain ⟨now, hroot⟩ := h.start
  have hempty : root.lineage = [] := (validateRoot_eq_ok_iff.1 hroot).2.1
  rw [Chains.accumulates_getElem (fun hstep => hstep.narrows.lineage) h.chain i hi, hempty,
    List.nil_append]

/-- So the lineage says how many objects came before. -/
theorem length_lineage_getElem (h : Descends env root gs) (i : ℕ) (hi : i < (root :: gs).length) :
    (root :: gs)[i].lineage.length = i := by
  rw [h.lineage_getElem i hi, List.length_map, List.length_take]
  omega

/-- Every object but the last was hashed. -/
theorem serializable_getElem (h : Descends env root gs) {i : ℕ} (hi : i < gs.length)
    (hlt : i < (root :: gs).length) : (root :: gs)[i].Serializable := by
  have hall := Chains.dropLast_of_step (P := GCO.Serializable)
    (fun hstep => hstep.narrows.serializable) h.chain
  have hmem : i < (root :: gs).dropLast.length := by simpa using hi
  have hget := hall _ (List.getElem_mem hmem)
  rwa [List.getElem_dropLast] at hget

theorem lineage_getLast (h : Descends env root gs) :
    ((root :: gs).getLast (List.cons_ne_nil _ _)).lineage =
      ((root :: gs).take gs.length).map (canonicalDigest env) := by
  rw [List.getLast_eq_getElem]
  exact h.lineage_getElem gs.length (Nat.lt_succ_self _)

/-- Two objects of a chain differ, since their lineages have different lengths. -/
theorem bare_getElem_ne (h : Descends env root gs) {i j : ℕ} (hij : i < j)
    (hj : j < (root :: gs).length) : (root :: gs)[i].bare ≠ (root :: gs)[j].bare := by
  intro hbare
  have hlength : (root :: gs)[i].bare.lineage.length = (root :: gs)[j].bare.lineage.length := by
    rw [hbare]
  simp only [GCO.bare] at hlength
  rw [h.length_lineage_getElem i (hij.trans hj), h.length_lineage_getElem j hj] at hlength
  omega

end Descends

/-- The lineage of an object pins the whole chain that led to it: two chains from roots that end
in the same lineage are equally long, and agree on every object before the last, up to
attestations. In particular no object is its own ancestor. -/
theorem lineage_determines_ancestry (env : Externals) (henv : env.Injective) (r₀ s₀ : GCO)
    (rs ss : List GCO) (hr₀ : ∃ now, validateRoot now r₀ = .ok ())
    (hrs : (r₀ :: rs).IsChain fun parent child => ∃ now, validate env now parent child = .ok ())
    (hs₀ : ∃ now, validateRoot now s₀ = .ok ())
    (hss : (s₀ :: ss).IsChain fun parent child => ∃ now, validate env now parent child = .ok ())
    (hlineage : ((r₀ :: rs).getLast (List.cons_ne_nil _ _)).lineage =
      ((s₀ :: ss).getLast (List.cons_ne_nil _ _)).lineage) :
    rs.length = ss.length ∧
      (∀ i (hr : i < (r₀ :: rs).length) (hs : i < (s₀ :: ss).length), i < rs.length →
        (r₀ :: rs)[i].bare = (s₀ :: ss)[i].bare) ∧
      ∀ i j (hij : i < j) (hj : j < (r₀ :: rs).length),
        (r₀ :: rs)[i].bare ≠ (r₀ :: rs)[j].bare := by
  have hr : Descends env r₀ rs := ⟨hr₀, hrs⟩
  have hs : Descends env s₀ ss := ⟨hs₀, hss⟩
  rw [hr.lineage_getLast, hs.lineage_getLast] at hlineage
  have hlength : rs.length = ss.length := by
    have hmap := congrArg List.length hlineage
    simp only [List.length_map, List.length_take, List.length_cons] at hmap
    omega
  refine ⟨hlength, ?_, fun i j hij hj => hr.bare_getElem_ne hij hj⟩
  intro i hri hsi hi
  -- the entry at `i` is the hash of the object at `i`
  have hentry := congrArg (fun hashes => hashes[i]?) hlineage
  have hi' : i < ss.length := hlength ▸ hi
  simp only [List.getElem?_map, List.getElem?_take, if_pos hi, if_pos hi',
    List.getElem?_eq_getElem hri, List.getElem?_eq_getElem hsi, Option.map_some,
    Option.some.injEq] at hentry
  exact bare_eq_of_canonicalDigest_eq henv (hr.serializable_getElem hi hri)
    (hs.serializable_getElem hi' hsi) hentry

/-- Neither check looks at the attestation of the parent. -/
theorem Narrows.reissue {parent child : GCO} (h : Narrows env parent child)
    (a : Option AttestationModel) : Narrows env { parent with attestation := a } child :=
  { h with }

/-- And that of the child only needs a value. -/
theorem Narrows.reattest {parent child : GCO} (h : Narrows env parent child)
    {a : AttestationModel} (ha : a.value ≠ "") :
    Narrows env parent { child with attestation := some a } :=
  { h with attestation := ⟨a, rfl, ha⟩ }

/-- `demoRoot` with the token of `demoChild`. -/
def demoReissued : GCO := { demoRoot with attestation := some ⟨.jwtSvid, demoChildToken, none⟩ }

/-- `demoChild` with the token of `demoRoot`. -/
def demoReissuedChild : GCO :=
  { demoChild with attestation := some ⟨.jwtSvid, demoRootToken, none⟩ }

theorem validateRoot_demo {token : String} (htoken : token ≠ "") :
    validateRoot demoNow.toPy { demoRoot with attestation := some ⟨.jwtSvid, token, none⟩ } =
      .ok () :=
  validateRoot_eq_ok_iff.2 ⟨rfl, rfl, show demoRoot.namespaces.Nodup by decide,
    show demoRoot.toolUris.Nodup by decide,
    ⟨demoNow.micros, PyDatetime.instant?_toPy demoNow,
      show demoNow.micros < demoRoot.expiresAt.micros by decide⟩, _, rfl, htoken⟩

/-- A child of `demoRoot`, and `demoLeaf` as a child of it. -/
theorem isChain_demo {g c : GCO} (hc : c.expiresAt = demoChild.expiresAt)
    (hchild : Narrows demoExternals g c) (hleaf : Narrows demoExternals c demoLeaf) :
    [g, c, demoLeaf].IsChain fun parent child =>
      ∃ now, validate demoExternals now parent child = .ok () := by
  have hafter : After demoChild.expiresAt demoNow.toPy :=
    ⟨demoNow.micros, PyDatetime.instant?_toPy demoNow, by decide⟩
  refine List.isChain_cons_cons.2 ⟨⟨demoNow.toPy, validate_eq_ok_iff.2 ⟨hchild, hc ▸ hafter⟩⟩, ?_⟩
  exact List.isChain_cons_cons.2
    ⟨⟨demoNow.toPy, validate_eq_ok_iff.2 ⟨hleaf, hafter⟩⟩, List.isChain_singleton _⟩

/-- `demoLeaf` descends from `demoRoot` by `demoChild`, and from `demoReissued` by
`demoReissuedChild`; these agree up to attestation. -/
theorem lineage_determines_ancestry_demo :
    demoRoot.bare = demoReissued.bare ∧ demoChild.bare = demoReissuedChild.bare := by
  have hleaf := narrows_demoLeaf canonicalDigest_demoChild
  have hagree := (lineage_determines_ancestry demoExternals demoExternals_injective demoRoot
    demoReissued [demoChild, demoLeaf] [demoReissuedChild, demoLeaf]
    ⟨_, validateRoot_demo demoRootToken_ne_empty⟩ (isChain_demo rfl narrows_demo hleaf)
    ⟨_, validateRoot_demo demoChildToken_ne_empty⟩
    (isChain_demo rfl ((narrows_demo.reissue _).reattest demoRootToken_ne_empty)
      (hleaf.reissue _)) rfl).2.1
  exact ⟨hagree 0 (by decide) (by decide) (by decide), hagree 1 (by decide) (by decide) (by decide)⟩

end Gco
