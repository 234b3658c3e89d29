import GcoSpec.Gco.Decisions

/-!
# Does delegation narrow?

A validated child is compared with its parent on the gates that a grant opens.

* `tool_calls_narrow_iff`: what `authorize_tool_call` allows the child it allows the parent, unless
  the parent's scope for the tool is blank and the child's is not. The validator compares scopes as
  sets of tokens, and a scope of commas has none, but it is not blank.
* `reads_narrow_iff`: what the child reads the parent reads, unless the label of the key is
  `SANITIZED` and the parent's grant is `CLEAN`. The validator makes the labels of a grant go up,
  and the store takes the label of a grant for the clearance of its reader.
* `writes_narrow`: what the child writes the parent may write, and the parent leaves no higher label
  behind. Here the labels that go up are what the store needs.
-/

namespace Gco

open Python

variable {Key Cert Store V Ω : Type} {cfg : Config Key Cert Store V Ω} {env : Externals}
  {now : PyDatetime} {parent child : GCO} {w : World V Ω}

/-! ### Tool calls -/

/-- The entries for the tool: the child's has depth and a scope that is not blank and covers the
request, and the parent's scope is blank. -/
def WidensTool (parent child : GCO) (uri : String) (requestedScope : Option String) : Prop :=
  ∃ t ∈ child.toolAuthority, ∃ t' ∈ parent.toolAuthority, t.toolUri.text = uri ∧
    t'.toolUri.text = uri ∧ 0 < t.maxDepth ∧ strip t.scope ≠ "" ∧ strip t'.scope = "" ∧
    ∀ r ∈ requestedScope, scopeIsSubset r t.scope = true

/-- Without repeated URIs, any entry for the tool with depth and scope decides. -/
theorem grantFor?_eq_some_iff {g : GCO} (hnodup : g.toolUris.Nodup) {uri : String}
    {t : ToolAuthority} : grantFor? g.toolAuthority uri = some t ↔
      t ∈ g.toolAuthority ∧ t.toolUri.text = uri ∧ 0 < t.maxDepth ∧ strip t.scope ≠ "" := by
  constructor
  · intro h
    refine ⟨List.mem_of_find?_eq_some h, ?_⟩
    simpa using List.find?_some h
  · rintro ⟨hmem, hgrant⟩
    obtain ⟨t', ht'⟩ : ∃ t', grantFor? g.toolAuthority uri = some t' := by
      rw [← Option.isSome_iff_exists, grantFor?, List.find?_isSome]
      exact ⟨t, hmem, by simpa using hgrant⟩
    have huri : t'.toolUri.text = uri := (by simpa using List.find?_some ht' : _ ∧ _).1
    rw [ht', List.inj_on_of_nodup_map hnodup (List.mem_of_find?_eq_some ht') hmem
      (huri.trans hgrant.1.symm)]

theorem grantsTool_narrows_iff (h : Narrows env parent child) {uri : String}
    {requestedScope : Option String} :
    (GrantsTool child.toolAuthority uri requestedScope →
        GrantsTool parent.toolAuthority uri requestedScope) ↔
      ¬WidensTool parent child uri requestedScope := by
  constructor
  · rintro hgrants ⟨t, ht, t', ht', huri, huri', hdepth, hscope, hblank, hrequest⟩
    obtain ⟨t'', hfind, -⟩ :=
      hgrants ⟨t, (grantFor?_eq_some_iff h.childToolUris).2 ⟨ht, huri, hdepth, hscope⟩, hrequest⟩
    obtain ⟨ht'', huri'', -, hscope''⟩ := (grantFor?_eq_some_iff h.parentToolUris).1 hfind
    -- the parent has one entry for the tool, and its scope is blank
    have hsame : t'' = t' :=
      List.inj_on_of_nodup_map h.parentToolUris ht'' ht' (huri''.trans huri'.symm)
    exact hscope'' (hsame ▸ hblank)
  · rintro hwidens ⟨t, hfind, hrequest⟩
    obtain ⟨ht, huri, hdepth, hscope⟩ := (grantFor?_eq_some_iff h.childToolUris).1 hfind
    obtain ⟨t', ht', hnarrows⟩ := h.tools t ht
    have huri' : t'.toolUri.text = uri := by rw [← hnarrows.toolUri, huri]
    have hscope' : strip t'.scope ≠ "" := fun hblank =>
      hwidens ⟨t, ht, t', ht', huri, huri', hdepth, hscope, hblank, hrequest⟩
    have hdepth' : 0 < t'.maxDepth := lt_of_lt_of_le (Nat.succ_pos _) hnarrows.maxDepth
    exact ⟨t', (grantFor?_eq_some_iff h.parentToolUris).2 ⟨ht', huri', hdepth', hscope'⟩,
      fun r hr => scopeIsSubset_trans (hrequest r hr) hnarrows.scope⟩

/-- A pair widens a tool only with a scope that has no tokens although it is not blank: commas and
whitespace. -/
theorem WidensTool.scopeTokens_eq_nil (h : Narrows env parent child) {uri : String}
    {requestedScope : Option String} (hwidens : WidensTool parent child uri requestedScope) :
    ∃ t ∈ child.toolAuthority, t.toolUri.text = uri ∧ strip t.scope ≠ "" ∧
      scopeTokens t.scope = [] := by
  obtain ⟨t, ht, t', ht', huri, huri', -, hscope, hblank, -⟩ := hwidens
  refine ⟨t, ht, huri, hscope, ?_⟩
  obtain ⟨t'', ht'', hnarrows⟩ := h.tools t ht
  have huri'' : t''.toolUri.text = t'.toolUri.text := by rw [← hnarrows.toolUri, huri, huri']
  obtain rfl := List.inj_on_of_nodup_map h.parentToolUris ht'' ht' huri''
  have hsubset := scopeIsSubset_iff.1 hnarrows.scope
  rw [scopeTokens_of_blank hblank] at hsubset
  exact List.subset_nil.1 hsubset

/-- For a child that passed validation, what `authorize_tool_call` allows the child it allows the
parent, exactly if the pair does not widen the tool. -/
theorem tool_calls_narrow_iff (env : Externals) (cfg : Config Key Cert Store V Ω)
    (now : PyDatetime) (parent child : GCO) (hvalidate : validate env now parent child = .ok ())
    (w : World V Ω) (hparent : ∃ w', cfg.Verifies env now parent w w')
    (hchild : ∃ w', cfg.Verifies env now child w w') (uri : String)
    (requestedScope : Option String) :
    ((∃ d w', Allows ((cfg.runtime env now).authorizeToolCall env (.gco child) (.str uri)
        (requestedScope.map .str)) w d w') →
      ∃ d w', Allows ((cfg.runtime env now).authorizeToolCall env (.gco parent) (.str uri)
        (requestedScope.map .str)) w d w') ↔
      ¬WidensTool parent child uri requestedScope := by
  obtain ⟨hnarrows, hafter⟩ := validate_eq_ok_iff.1 hvalidate
  have hallows : ∀ g, After g.expiresAt now → (∃ w', cfg.Verifies env now g w w') →
      ((∃ d w', Allows ((cfg.runtime env now).authorizeToolCall env (.gco g) (.str uri)
        (requestedScope.map .str)) w d w') ↔ GrantsTool g.toolAuthority uri requestedScope) := by
    rintro g hg ⟨w', hverifies⟩
    simp only [allows_authorizeToolCall_iff]
    constructor
    · rintro ⟨d, w'', -, -, hgrants, -⟩
      exact hgrants
    · intro hgrants
      exact ⟨.allow, w', hverifies, hg, hgrants, rfl⟩
  rw [hallows child hafter hchild, hallows parent (hafter.mono hnarrows.expiresAt) hparent]
  exact grantsTool_narrows_iff hnarrows

/-! ### A child with a scope of commas -/

/-- A runtime that trusts the tokens of `demoRoot` and `demoChild`, without a replay cache. -/
def demoConfig : Config Unit Unit Unit String Unit where
  crypto := tokenCrypto demoTokens
  trustBundle := demoBundle
  expectedAudience := none
  replayCache := none
  issue := none
  uuid4 := pure 0
  readObject _ _ _ := throw (.typeError "unhashable type")
  writeObject _ _ _ _ := throw (.typeError "unhashable type")

def demoWorld (store : GovernedStateStore String) : World String Unit := ⟨store, ()⟩

theorem attests_demoRoot : demoConfig.Attests demoExternals demoNow.toPy demoRoot
    (demoPayload demoRoot demoRootClaims) demoRoot.expiresAt :=
  ⟨demoNow, PyDatetime.toUtc?_toPy demoNow, checkAttestation_demoRoot none (by decide)⟩

theorem attests_demoChild : demoConfig.Attests demoExternals demoNow.toPy demoChild
    (demoPayload demoChild demoChildClaims) demoChild.expiresAt :=
  ⟨demoNow, PyDatetime.toUtc?_toPy demoNow, checkAttestation_demoChild none (by decide)⟩

theorem verifies_demoRoot (w : World String Unit) :
    demoConfig.Verifies demoExternals demoNow.toPy demoRoot w w :=
  (Config.verifies_iff rfl).2 ⟨rfl, _, _, attests_demoRoot⟩

theorem verifies_demoChild (w : World String Unit) :
    demoConfig.Verifies demoExternals demoNow.toPy demoChild w w :=
  (Config.verifies_iff rfl).2 ⟨rfl, _, _, attests_demoChild⟩

/-- Both verify and the child passes validation. It may call the tool for which its scope is a
comma, and its parent, whose scope is a space, may not. -/
theorem tool_call_widened :
    validate demoExternals demoNow.toPy demoRoot demoChild = .ok () ∧
      (∃ w', demoConfig.Verifies demoExternals demoNow.toPy demoRoot (demoWorld .empty) w') ∧
      (∃ w', demoConfig.Verifies demoExternals demoNow.toPy demoChild (demoWorld .empty) w') ∧
      (∃ d w', Allows ((demoConfig.runtime demoExternals demoNow.toPy).authorizeToolCall
        demoExternals (.gco demoChild) (.str "mcp://tools/list") none)
        (demoWorld .empty) d w') ∧
      ¬∃ d w', Allows ((demoConfig.runtime demoExternals demoNow.toPy).authorizeToolCall
        demoExternals (.gco demoRoot) (.str "mcp://tools/list") none) (demoWorld .empty) d w' := by
  refine ⟨validate_demo, ⟨_, verifies_demoRoot _⟩, ⟨_, verifies_demoChild _⟩,
    ⟨.allow, demoWorld .empty, (allows_authorizeToolCall_iff none).2 ?_⟩, ?_⟩
  · refine ⟨verifies_demoChild _, ⟨demoNow.micros, PyDatetime.instant?_toPy demoNow, by decide⟩,
      ⟨⟨⟨"mcp://tools/list", by decide⟩, ",", 1⟩, by decide, ?_⟩, rfl⟩
    rintro r ⟨⟩
  · rintro ⟨d, w', h⟩
    obtain ⟨-, -, ⟨t, ht, -⟩, -⟩ := (allows_authorizeToolCall_iff none).1 h
    have hnone : grantFor? demoRoot.toolAuthority "mcp://tools/list" = none := by decide
    rw [hnone] at ht
    cases ht

/-- What `demoChild` may do with the other tool, `demoRoot` may do too. -/
theorem tool_calls_narrow_demo :
    ∃ d w', Allows ((demoConfig.runtime demoExternals demoNow.toPy).authorizeToolCall
      demoExternals (.gco demoRoot) (.str "mcp://tools/search") (some (.str "read")))
      (demoWorld .empty) d w' := by
  refine (tool_calls_narrow_iff demoExternals demoConfig demoNow.toPy demoRoot demoChild
    validate_demo (demoWorld .empty) ⟨_, verifies_demoRoot _⟩ ⟨_, verifies_demoChild _⟩
    "mcp://tools/search" (some "read")).2 ?_ ⟨.allow, demoWorld .empty,
      (allows_authorizeToolCall_iff (some "read")).2 ?_⟩
  · rintro ⟨t, ht, t', ht', huri, huri', -, -, hblank, -⟩
    rcases List.mem_pair.1 ht' with rfl | rfl
    · exact absurd hblank (by decide)
    · exact absurd huri' (by decide)
  · exact ⟨verifies_demoChild _, ⟨demoNow.micros, PyDatetime.instant?_toPy demoNow, by decide⟩,
      ⟨⟨⟨"mcp://tools/search", by decide⟩, "read", 1⟩, by decide, by decide⟩, rfl⟩

/-! ### Reads -/

/-- The key has a value whose label is `SANITIZED`, the child's grant reads and is at least
`SANITIZED`, and the parent's grant is `CLEAN`. -/
def WidensRead (store : GovernedStateStore V) (parent child : GCO) (ns key : String) : Prop :=
  (∃ value, store.values.get? (ns, key) = some value) ∧
    store.taints.get? (ns, key) = some (.member .sanitized) ∧
    (∃ p, child.permissionFor? ns = some p ∧ GovernedStateStore.isReadMode p.accessMode = true ∧
      ∃ r, taintRank p.taintPolicy = some r ∧ 1 ≤ r) ∧
    ∃ p, parent.permissionFor? ns = some p ∧ p.taintPolicy = .member .clean

theorem taintRank_eq_zero {l : Label TaintPolicy} (h : taintRank l = some 0) :
    l = .member .clean := by
  rcases l with (_ | _ | _ | _) | _ <;> first | rfl | cases h

theorem taintRank_eq_one {l : Label TaintPolicy} (h : taintRank l = some 1) :
    l = .member .sanitized := by
  rcases l with (_ | _ | _ | _) | _ <;> first | rfl | cases h

/-- The parent's permission for a namespace of the child. -/
theorem Narrows.permissionFor? (h : Narrows env parent child) {ns : String} {p : StatePermission}
    (hp : child.permissionFor? ns = some p) :
    ∃ p', parent.permissionFor? ns = some p' ∧ PermissionNarrows p' p := by
  obtain ⟨hmem, hns⟩ := GCO.permissionFor?_mem hp
  obtain ⟨p', hp', hnarrows⟩ := h.permissions p hmem
  exact ⟨p', (GCO.permissionFor?_eq_some_iff h.parentNamespaces).2
    ⟨hp', hnarrows.namespace.symm.trans hns⟩, hnarrows⟩

theorem store_reads_narrow_iff (h : Narrows env parent child) {store : GovernedStateStore V}
    {ns key : String} :
    (∀ value, store.read ns key child = .ok value → store.read ns key parent = .ok value) ↔
      ¬WidensRead store parent child ns key := by
  constructor
  · rintro hread ⟨⟨value, hvalue⟩, htaint, ⟨p, hp, hmode, r, hr, hle⟩, p', hp', hclean⟩
    have hchild : store.read ns key child = .ok value :=
      GovernedStateStore.read_eq_ok_iff.2 ⟨p, _, hp, hmode, hvalue, htaint,
        GovernedStateStore.taintReadable_iff.2 ⟨1, r, rfl, hr, le_rfl, hle⟩⟩
    -- the parent's clearance is below the label
    obtain ⟨q, t, hq, -, -, ht, hreadable⟩ :=
      GovernedStateStore.read_eq_ok_iff.1 (hread value hchild)
    rw [hp', Option.some.injEq] at hq
    rw [htaint, Option.some.injEq] at ht
    subst hq ht
    rw [hclean] at hreadable
    exact absurd hreadable (by decide)
  · intro hwidens value hread
    obtain ⟨p, t, hp, hmode, hvalue, htaint, hreadable⟩ :=
      GovernedStateStore.read_eq_ok_iff.1 hread
    obtain ⟨s, r, hs, hr, hs1, hsr⟩ := GovernedStateStore.taintReadable_iff.1 hreadable
    obtain ⟨p', hp', hnarrows⟩ := h.permissionFor? hp
    obtain ⟨r', -, hr', -, -⟩ := hnarrows.taintPolicy
    refine GovernedStateStore.read_eq_ok_iff.2 ⟨p', t, hp',
      GovernedStateStore.isReadMode_of_accessAllows hnarrows.accessMode hmode, hvalue, htaint,
      GovernedStateStore.taintReadable_iff.2 ⟨s, r', hs, hr', hs1, ?_⟩⟩
    by_contra hlt
    -- a label of rank at most 1 above the parent's clearance: `SANITIZED` above `CLEAN`
    obtain rfl : r' = 0 := by omega
    obtain rfl : s = 1 := by omega
    exact hwidens ⟨⟨value, hvalue⟩, taintRank_eq_one hs ▸ htaint, ⟨p, hp, hmode, r, hr, hsr⟩,
      p', hp', taintRank_eq_zero hr'⟩

/-- For a child that passed validation, what `read_state` returns to the child it returns to the
parent, exactly if the key is not a `SANITIZED` one that the parent's `CLEAN` grant keeps out. -/
theorem reads_narrow_iff (env : Externals) (cfg : Config Key Cert Store V Ω)
    (hcache : cfg.replayCache = none) (now : PyDatetime) (parent child : GCO)
    (hvalidate : validate env now parent child = .ok ()) (w : World V Ω)
    (hparent : ∃ w', cfg.Verifies env now parent w w')
    (hchild : ∃ w', cfg.Verifies env now child w w') (ns key : String) :
    (∀ value, (∃ d w', Allows ((cfg.runtime env now).readState (.gco child) (.str ns) (.str key))
        w d w' ∧ d.value = some value) →
      ∃ d w', Allows ((cfg.runtime env now).readState (.gco parent) (.str ns) (.str key))
        w d w' ∧ d.value = some value) ↔
      ¬WidensRead w.store parent child ns key := by
  obtain ⟨hnarrows, hafter⟩ := validate_eq_ok_iff.1 hvalidate
  have hallows : ∀ g, After g.expiresAt now → (∃ w', cfg.Verifies env now g w w') → ∀ value,
      ((∃ d w', Allows ((cfg.runtime env now).readState (.gco g) (.str ns) (.str key)) w d w' ∧
        d.value = some value) ↔ w.store.read ns key g = .ok value) := by
    rintro g hg ⟨w', hverifies⟩ value
    obtain ⟨rfl, -⟩ := (Config.verifies_iff hcache).1 hverifies
    simp only [allows_readState_iff]
    constructor
    · rintro ⟨d, w'', ⟨hverifies', -, v, hread, rfl⟩, hv⟩
      obtain ⟨rfl, -⟩ := (Config.verifies_iff hcache).1 hverifies'
      cases hv
      exact hread
    · intro hread
      exact ⟨.allowValue value, _, ⟨hverifies, hg, value, hread, rfl⟩, rfl⟩
  simp only [hallows child hafter hchild, hallows parent (hafter.mono hnarrows.expiresAt) hparent]
  exact store_reads_narrow_iff hnarrows

/-! ### A child above its parent's clearance -/

/-- The store after `demoChild` wrote the key `k` of its namespace. -/
def demoStore : GovernedStateStore String :=
  ⟨Dict.empty.set ("shared", "k") "42", Dict.empty.set ("shared", "k") (.member .sanitized)⟩

/-- Both verify and the child passes validation. The child reads the key it wrote, and its parent
may not. -/
theorem read_widened :
    validate demoExternals demoNow.toPy demoRoot demoChild = .ok () ∧
      (∃ w', demoConfig.Verifies demoExternals demoNow.toPy demoRoot (demoWorld demoStore) w') ∧
      (∃ w', demoConfig.Verifies demoExternals demoNow.toPy demoChild (demoWorld demoStore) w') ∧
      (∃ d w', Allows ((demoConfig.runtime demoExternals demoNow.toPy).readState (.gco demoChild)
        (.str "shared") (.str "k")) (demoWorld demoStore) d w' ∧ d.value = some "42") ∧
      ¬∃ d w', Allows ((demoConfig.runtime demoExternals demoNow.toPy).readState (.gco demoRoot)
        (.str "shared") (.str "k")) (demoWorld demoStore) d w' := by
  refine ⟨validate_demo, ⟨_, verifies_demoRoot _⟩, ⟨_, verifies_demoChild _⟩,
    ⟨.allowValue "42", demoWorld demoStore, allows_readState_iff.2 ?_, rfl⟩, ?_⟩
  · exact ⟨verifies_demoChild _, ⟨demoNow.micros, PyDatetime.instant?_toPy demoNow, by decide⟩,
      "42", rfl, rfl⟩
  · rintro ⟨d, w', h⟩
    obtain ⟨hverifies, -, value, hread, -⟩ := allows_readState_iff.1 h
    obtain ⟨rfl, -⟩ := (Config.verifies_iff rfl).1 hverifies
    cases hread

/-- The store after `demoRoot` wrote the key `k` of its namespace. -/
def demoCleanStore : GovernedStateStore String :=
  ⟨Dict.empty.set ("shared", "k") "42", Dict.empty.set ("shared", "k") (.member .clean)⟩

/-- The child reads the `CLEAN` value of `demoCleanStore`, so its parent does. -/
theorem reads_narrow_demo :
    ∃ d w', Allows ((demoConfig.runtime demoExternals demoNow.toPy).readState (.gco demoRoot)
      (.str "shared") (.str "k")) (demoWorld demoCleanStore) d w' ∧ d.value = some "42" := by
  refine (reads_narrow_iff demoExternals demoConfig rfl demoNow.toPy demoRoot demoChild
    validate_demo (demoWorld demoCleanStore) ⟨_, verifies_demoRoot _⟩ ⟨_, verifies_demoChild _⟩
    "shared" "k").2 ?_ "42" ⟨.allowValue "42", demoWorld demoCleanStore,
      allows_readState_iff.2 ?_, rfl⟩
  · rintro ⟨-, hlabel, -⟩
    have hne : demoCleanStore.taints.get? ("shared", "k") ≠ some (.member .sanitized) := by decide
    exact hne hlabel
  · exact ⟨verifies_demoChild _, ⟨demoNow.micros, PyDatetime.instant?_toPy demoNow, by decide⟩,
      "42", rfl, rfl⟩

/-! ### Writes -/

/-- The label that is left has the greater of the two ranks. -/
theorem taintRank_higherTaint {existing writer : Label TaintPolicy} {s r : ℕ}
    (hs : taintRank existing = some s) (hr : taintRank writer = some r) :
    taintRank (GovernedStateStore.higherTaint existing writer) = some (max s r) := by
  unfold GovernedStateStore.higherTaint
  rw [hs, hr]
  dsimp only
  by_cases h : r ≤ s
  · rw [if_pos h, hs, max_eq_left h]
  · rw [if_neg h, hr, max_eq_right (by omega)]

/-- After the writes of a lower and of a higher label: the one left is higher too, unless the key
had an unknown label, which stays. -/
theorem taintAfter_le {store : GovernedStateStore V} {storageKey : String × String}
    {lower higher : StatePermission} (h : TaintLe lower.taintPolicy higher.taintPolicy) :
    TaintLe (store.taintAfter storageKey lower) (store.taintAfter storageKey higher) ∨
      taintRank (store.taintAfter storageKey lower) = none ∧
        store.taintAfter storageKey higher = store.taintAfter storageKey lower ∧
        store.taints.get? storageKey = some (store.taintAfter storageKey lower) := by
  unfold GovernedStateStore.taintAfter
  cases htaint : store.taints.get? storageKey with
  | none => exact .inl h
  | some existing =>
    dsimp only
    cases hs : taintRank existing with
    | none =>
      right
      unfold GovernedStateStore.higherTaint
      rw [hs]
      exact ⟨hs, rfl, rfl⟩
    | some s =>
      left
      obtain ⟨r, r', hr, hr', hle⟩ := h
      exact ⟨max s r, max s r', taintRank_higherTaint hs hr, taintRank_higherTaint hs hr',
        max_le_max_left s hle⟩

/-- What a permission covers, a wider one covers. -/
theorem GrantsWrite.of_narrows {store : GovernedStateStore V} {p p' : StatePermission}
    {m : AccessMode} {storageKey : String × String} (h : GrantsWrite store p m storageKey)
    (hnarrows : PermissionNarrows p' p) : GrantsWrite store p' m storageKey := by
  rcases h with ⟨rfl, hmode⟩ | ⟨rfl, hmode, hnone⟩
  · refine .inl ⟨rfl, accessAllows_write_iff.1 ?_⟩
    exact accessAllows_trans hnarrows.accessMode (accessAllows_write_iff.2 hmode)
  · refine .inr ⟨rfl, accessAllows_append_iff.1 ?_, hnone⟩
    exact accessAllows_trans hnarrows.accessMode (accessAllows_append_iff.2 hmode)

/-- Delegation never widens what can be written nor cleans what is written. For a child that passed
validation, what `write_state` allows the child it allows the parent, on any store; the two stores
afterwards hold the same values, and the same labels but for the key, whose label after the child's
write is at least the one after the parent's, or is an unknown one that was there before. -/
theorem writes_narrow (env : Externals) (cfg : Config Key Cert Store V Ω) (now : PyDatetime)
    (parent child : GCO) (hvalidate : validate env now parent child = .ok ()) (w : World V Ω)
    (hparent : ∃ w', cfg.Verifies env now parent w w')
    (hchild : ∃ w', cfg.Verifies env now child w w') (ns key : String) (value : V)
    (mode : ModeText) (d : Decision V) (w₁ : World V Ω)
    (hallowed : Allows ((cfg.runtime env now).writeState (.gco child) (.str ns) (.str key) value
      mode.toMode) w d w₁) :
    ∃ d' w₂, Allows ((cfg.runtime env now).writeState (.gco parent) (.str ns) (.str key) value
        mode.toMode) w d' w₂ ∧
      (∀ k, w₁.store.values.get? k = w₂.store.values.get? k) ∧
      (∀ k, k ≠ (ns, key) → w₁.store.taints.get? k = w₂.store.taints.get? k) ∧
      ∃ t t', w₂.store.taints.get? (ns, key) = some t ∧ w₁.store.taints.get? (ns, key) = some t' ∧
        (TaintLe t t' ∨
          taintRank t = none ∧ t' = t ∧ w.store.taints.get? (ns, key) = some t) := by
  obtain ⟨hnarrows, hafter⟩ := validate_eq_ok_iff.1 hvalidate
  obtain ⟨wp, hparent⟩ := hparent
  obtain ⟨wc, hchild⟩ := hchild
  have hwrite := @writeState_of_verifies _ _ _ _ _ cfg env now child w wc ns key value mode hchild
    hafter
  obtain ⟨d₁, w₁', hreturns, hwritten⟩ := hwrite
  rw [hallowed.1] at hreturns
  cases hreturns
  rcases hwritten with ⟨rfl, p, m, hp, hm, hgrant, hstore⟩ | ⟨hdenied, -⟩
  · -- the permission of the parent covers the write too
    obtain ⟨p', hp', hpermission⟩ := hnarrows.permissionFor? hp
    rw [hchild.store] at hgrant hstore
    have hgrant' := hgrant.of_narrows hpermission
    have hwrite' := @writeState_of_verifies _ _ _ _ _ cfg env now parent w wp ns key value mode
      hparent (hafter.mono hnarrows.expiresAt)
    obtain ⟨d₂, w₂, hreturns', hwritten'⟩ := hwrite'
    rw [hparent.store] at hwritten'
    rcases hwritten' with ⟨rfl, q, m', hq, -, -, hstore'⟩ | ⟨-, -, hdenied⟩
    · rw [hp', Option.some.injEq] at hq
      subst hq
      refine ⟨_, w₂, ⟨hreturns', rfl⟩, ?_, ?_, w.store.taintAfter (ns, key) p',
        w.store.taintAfter (ns, key) p, ?_, ?_, taintAfter_le hpermission.taintPolicy⟩
      · intro k
        rw [hstore, hstore']
      · intro k hk
        rw [hstore, hstore']
        dsimp only
        rw [Dict.get?_set, Dict.get?_set, if_neg hk, if_neg hk]
      · rw [hstore']
        dsimp only
        rw [Dict.get?_set, if_pos rfl]
      · rw [hstore]
        dsimp only
        rw [Dict.get?_set, if_pos rfl]
    · exact absurd hgrant' (hdenied p' m hp' hm)
  · have hcontra := hallowed.2
    rw [hdenied] at hcontra
    cases hcontra

/-- The child writes the key `k` of an empty store, so its parent may. -/
theorem writes_narrow_demo :
    ∃ d w₂, Allows ((demoConfig.runtime demoExternals demoNow.toPy).writeState (.gco demoRoot)
        (.str "shared") (.str "k") "42" (ModeText.text "write").toMode) (demoWorld .empty) d w₂ ∧
      (∀ k, demoStore.values.get? k = w₂.store.values.get? k) ∧
      (∀ k, k ≠ ("shared", "k") → demoStore.taints.get? k = w₂.store.taints.get? k) ∧
      ∃ t t', w₂.store.taints.get? ("shared", "k") = some t ∧
        demoStore.taints.get? ("shared", "k") = some t' ∧
        (TaintLe t t' ∨ taintRank t = none ∧ t' = t ∧
          (demoWorld .empty).store.taints.get? ("shared", "k") = some t) := by
  have hafter : After demoChild.expiresAt demoNow.toPy :=
    ⟨demoNow.micros, PyDatetime.instant?_toPy demoNow, by decide⟩
  refine writes_narrow demoExternals demoConfig demoNow.toPy demoRoot demoChild validate_demo
    (demoWorld .empty) ⟨_, verifies_demoRoot _⟩ ⟨_, verifies_demoChild _⟩ "shared" "k" "42"
    (.text "write") .allow (demoWorld demoStore) ⟨?_, rfl⟩
  rw [GovernanceRuntime.writeState]
  refine attempt_of_ok ?_
  rw [GovernanceRuntime.writeStateBody, withSubject_of_verifies (verifies_demoChild _) hafter]
  rfl

end Gco
