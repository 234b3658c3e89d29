import GcoSpec.Gco.StateHistory

/-!
# Values that a reader may not see

The label of a key says who may read its value. What is written under a label that is not cleared
for a reader stays hidden from it, whoever writes it and however often:

* `Alike reader` compares two stores that differ at most in values whose labels are not cleared for
  the reader, and a call that is made of both leaves them so (`Serves.alike`);
* `hidden_values_do_not_flow` is about two runs that differ at most in such values.
-/

namespace Gco

open Python

variable {Key Cert Store V Ω : Type}

/-! ### Stores that a reader cannot tell apart -/

/-- The stores have the same labels and values for the same keys, and the same value wherever the
label is cleared for the reader. -/
structure Alike (reader : Label TaintPolicy) (s s' : GovernedStateStore V) : Prop where
  taints : ∀ k, s.taints.get? k = s'.taints.get? k
  defined : ∀ k, s.values.get? k = none ↔ s'.values.get? k = none
  values : ∀ k t, s.taints.get? k = some t → Cleared t reader → s.values.get? k = s'.values.get? k

/-- Whoever may read under the grants for the namespace is cleared for no more than the reader. -/
def ReadsWithin (reader : Label TaintPolicy) (g : GCO) (ns : String) : Prop :=
  ∀ p, g.permissionFor? ns = some p → ∀ t, Cleared t p.taintPolicy → Cleared t reader

/-- The label under which the object writes to the namespace is not cleared for the reader. -/
def WritesHidden (reader : Label TaintPolicy) (g : GCO) (ns : String) : Prop :=
  ∀ p, g.permissionFor? ns = some p → ¬Cleared p.taintPolicy reader

/-- The narrowed subject writes under the same label. -/
theorem WritesHidden.writeSubject {reader : Label TaintPolicy} {g : GCO} {ns : String}
    (h : WritesHidden reader g ns) (m : AccessMode) :
    WritesHidden reader (writeSubject g ns m) ns := by
  by_cases hm : m = .write
  · rw [Gco.writeSubject, if_pos hm]
    exact h
  · intro p hp
    have happend : Gco.writeSubject g ns m = Gco.writeSubject g ns .append := by
      rw [Gco.writeSubject, Gco.writeSubject, if_neg hm, if_neg (by decide)]
    rw [happend, permissionFor?_writeSubject_append] at hp
    obtain ⟨q, hq, rfl⟩ := Option.map_eq_some_iff.1 hp
    exact h q hq

namespace Alike

variable {reader : Label TaintPolicy} {s s' : GovernedStateStore V} {g : GCO}

theorem refl (s : GovernedStateStore V) : Alike reader s s :=
  ⟨fun _ => rfl, fun _ => Iff.rfl, fun _ _ _ _ => rfl⟩

/-- To any reader both return a value, or both raise the same. -/
theorem read_cases (h : Alike reader s s') (ns key : String) (g : GCO) :
    (∃ value value', s.read ns key g = .ok value ∧ s'.read ns key g = .ok value' ∧
      (ReadsWithin reader g ns → value = value')) ∨
      ∃ e, s.read ns key g = .error e ∧ s'.read ns key g = .error e := by
  unfold GovernedStateStore.read GovernedStateStore.permissionFor
  cases hp : g.permissionFor? ns with
  | none => exact .inr ⟨_, rfl, rfl⟩
  | some p =>
    simp only [bind, Except.bind]
    by_cases hmode : GovernedStateStore.isReadMode p.accessMode = true
    · rw [if_neg (not_not.2 hmode), if_neg (not_not.2 hmode), ← h.taints]
      cases hv : s.values.get? (ns, key) with
      | none =>
        rw [(h.defined _).1 hv]
        exact .inr ⟨_, rfl, rfl⟩
      | some value =>
        obtain ⟨value', hv'⟩ := Option.ne_none_iff_exists'.1
          (mt (h.defined (ns, key)).2 (by simp [hv]))
        rw [hv']
        cases ht : s.taints.get? (ns, key) with
        | none => exact .inr ⟨_, rfl, rfl⟩
        | some t =>
          dsimp only
          by_cases hreadable : GovernedStateStore.taintReadable t p.taintPolicy = true
          · rw [if_pos hreadable, if_pos hreadable]
            refine .inl ⟨value, value', rfl, rfl, fun hwithin => ?_⟩
            have hcleared := hwithin p hp t (taintReadable_iff_cleared.1 hreadable)
            have hsame := h.values _ t ht hcleared
            rw [hv, hv'] at hsame
            exact Option.some.inj hsame
          · rw [if_neg hreadable, if_neg hreadable]
            exact .inr ⟨_, rfl, rfl⟩
    · rw [if_pos hmode, if_pos hmode]
      exact .inr ⟨_, rfl, rfl⟩

/-- A write of values that are the same, or hidden, leaves them alike. -/
theorem set (h : Alike reader s s') (k : String × String) (p : StatePermission) {value value' : V}
    (hvalue : value = value' ∨ ¬Cleared p.taintPolicy reader) :
    Alike reader ⟨s.values.set k value, s.taints.set k (s.taintAfter k p)⟩
      ⟨s'.values.set k value', s'.taints.set k (s'.taintAfter k p)⟩ := by
  have hafter : s.taintAfter k p = s'.taintAfter k p := by
    rw [GovernedStateStore.taintAfter, GovernedStateStore.taintAfter, h.taints]
  constructor
  · intro k'
    rw [Dict.get?_set, Dict.get?_set, hafter, h.taints]
  · intro k'
    rw [Dict.get?_set, Dict.get?_set]
    split_ifs
    · simp
    · exact h.defined k'
  · intro k' t ht hcleared
    rw [Dict.get?_set] at ht ⊢
    rw [Dict.get?_set]
    split_ifs at ht ⊢
    · -- a label that is cleared after the write was written under one that is cleared
      have hp : Cleared p.taintPolicy reader := by
        rw [← Option.some.inj ht, GovernedStateStore.taintAfter] at hcleared
        split at hcleared
        · exact (cleared_higherTaint.1 hcleared).2
        · exact hcleared
      rw [hvalue.resolve_right (not_not.2 hp)]
    · exact h.values k' t ht hcleared

/-- Both stores accept the write and stay alike, or both raise the same. -/
theorem write_cases (h : Alike reader s s') (ns key : String) {value value' : V}
    (hvalue : value = value' ∨ WritesHidden reader g ns) :
    (∃ r r', s.write ns key value g = .ok r ∧ s'.write ns key value' g = .ok r' ∧
      Alike reader r r') ∨
      ∃ e, s.write ns key value g = .error e ∧ s'.write ns key value' g = .error e := by
  have hcontains : s.values.contains (ns, key) = s'.values.contains (ns, key) := by
    rw [Dict.contains, Dict.contains, Bool.eq_iff_iff, Option.isSome_iff_ne_none,
      Option.isSome_iff_ne_none]
    exact not_congr (h.defined (ns, key))
  unfold GovernedStateStore.write GovernedStateStore.permissionFor
  cases hp : g.permissionFor? ns with
  | none => exact .inr ⟨_, rfl, rfl⟩
  | some p =>
    simp only [bind, Except.bind, ← hcontains]
    by_cases hmode : GovernedStateStore.isWriteMode p.accessMode = true
    · rw [if_neg (not_not.2 hmode), if_neg (not_not.2 hmode)]
      by_cases happend : p.accessMode = .member .append ∧ s.values.contains (ns, key) = true
      · rw [if_pos happend, if_pos happend]
        exact .inr ⟨_, rfl, rfl⟩
      · rw [if_neg happend, if_neg happend]
        refine .inl ⟨_, _, rfl, rfl, h.set (ns, key) p ?_⟩
        exact hvalue.imp_right fun hidden => hidden p hp
    · rw [if_pos hmode, if_pos hmode]
      exact .inr ⟨_, rfl, rfl⟩

end Alike

/-! ### Two calls -/

section Calls

variable {cfg : Config Key Cert Store V Ω} {env : Externals} {now now' : PyDatetime} {g : GCO}
  {ns key : String} {w w' w₁ w₂ : World V Ω} {reader : Label TaintPolicy}

/-- What two reads of one subject decide. -/
theorem readState_alike (ns key : String) (hverifies : cfg.Verifies env now g w w₁)
    (hafter : After g.expiresAt now) (hverifies' : cfg.Verifies env now' g w' w₂)
    (hafter' : After g.expiresAt now') (h : Alike reader w₁.store w₂.store) :
    ∃ d d', (cfg.runtime env now).readState (.gco g) (.str ns) (.str key) w = .ok d w₁ ∧
      (cfg.runtime env now').readState (.gco g) (.str ns) (.str key) w' = .ok d' w₂ ∧
      d.allowed = d'.allowed ∧ (ReadsWithin reader g ns → d = d') := by
  obtain ⟨access, haccess, -⟩ :=
    authorizeVerifiedStateAccess_member (V := V) (σ := World V Ω) g ns .read
  have hbody : ∀ {now : PyDatetime} {w w₁ : World V Ω}, cfg.Verifies env now g w w₁ →
      After g.expiresAt now → (cfg.runtime env now).readStateBody (.gco g) (.str ns) (.str key) w =
        (if ¬access.allowed then pure access else do
          let value ← (cfg.runtime env now).read (.str ns) (.str key) g
          pure (.allowValue value)) w₁ := by
    intro now w w₁ hverifies hafter
    rw [GovernanceRuntime.readStateBody, withSubject_of_verifies hverifies hafter, haccess,
      pure_bind]
  have hfirst := hbody hverifies hafter
  have hsecond := hbody hverifies' hafter'
  rw [GovernanceRuntime.readState, GovernanceRuntime.readState]
  by_cases ha : access.allowed = true
  · rw [if_neg (not_not.2 ha), bind_apply, Config.runtime_read_str] at hfirst hsecond
    rcases h.read_cases ns key g with
      ⟨value, value', hread, hread', hsame⟩ | ⟨e, hread, hread'⟩
    · rw [hread] at hfirst
      rw [hread'] at hsecond
      exact ⟨_, _, attempt_of_ok hfirst, attempt_of_ok hsecond, rfl,
        fun hwithin => by rw [hsame hwithin]⟩
    · -- both stores raise, and their exception has a text
      obtain ⟨d, hd⟩ := (handleRead_returns_iff (V := V)).2 (GovernedStateStore.text_of_read hread)
      rw [hread] at hfirst
      rw [hread'] at hsecond
      exact ⟨d, d, attempt_of_error hfirst hd, attempt_of_error hsecond hd, rfl, fun _ => rfl⟩
  · rw [if_pos ha] at hfirst hsecond
    exact ⟨access, access, attempt_of_ok hfirst, attempt_of_ok hsecond, rfl, fun _ => rfl⟩

/-- What two writes of one subject decide, and leave. -/
theorem writeState_alike {value value' : V} {mode : ModeText}
    (hverifies : cfg.Verifies env now g w w₁) (hafter : After g.expiresAt now)
    (hverifies' : cfg.Verifies env now' g w' w₂) (hafter' : After g.expiresAt now')
    (h : Alike reader w₁.store w₂.store) (hvalue : value = value' ∨ WritesHidden reader g ns) :
    ∃ d w₃ w₄, (cfg.runtime env now).writeState (.gco g) (.str ns) (.str key) value mode.toMode w =
        .ok d w₃ ∧
      (cfg.runtime env now').writeState (.gco g) (.str ns) (.str key) value' mode.toMode w' =
        .ok d w₄ ∧ Alike reader w₃.store w₄.store := by
  have hcoerce : GovernanceRuntime.coerceWriteMode (mode.toMode : Mode (World V Ω)) =
      pure (mode.accessMode?.filter fun m => m = .write || m = .append) := by
    rw [GovernanceRuntime.coerceWriteMode, ModeText.coerceMode_toMode, pure_bind]
  rw [GovernanceRuntime.writeState, GovernanceRuntime.writeState]
  cases hfilter : mode.accessMode?.filter fun m => m = .write || m = .append with
  | none =>
    obtain ⟨text, htext⟩ := ModeText.format_toMode (V := V) (Ω := Ω) mode
    have hbody : ∀ {now : PyDatetime} {w w₁ : World V Ω} (value : V),
        cfg.Verifies env now g w w₁ → After g.expiresAt now →
          (cfg.runtime env now).writeStateBody (.gco g) (.str ns) (.str key) value mode.toMode w =
            .ok (denyNamespace s!"{text} denied for namespace {ns}") w₁ := by
      intro now w w₁ value hverifies hafter
      rw [GovernanceRuntime.writeStateBody, withSubject_of_verifies hverifies hafter, hcoerce,
        pure_bind, hfilter]
      dsimp only
      rw [htext, pure_bind, Arg.format, pure_bind, pure_apply]
    exact ⟨_, w₁, w₂, attempt_of_ok (hbody value hverifies hafter),
      attempt_of_ok (hbody value' hverifies' hafter'), h⟩
  | some m =>
    obtain ⟨access, haccess, -⟩ :=
      authorizeVerifiedStateAccess_member (V := V) (σ := World V Ω) g ns m
    have hbody : ∀ {now : PyDatetime} {w w₁ : World V Ω} (value : V),
        cfg.Verifies env now g w w₁ → After g.expiresAt now →
          (cfg.runtime env now).writeStateBody (.gco g) (.str ns) (.str key) value mode.toMode w =
            (if ¬access.allowed then pure access else do
              (cfg.runtime env now).write (.str ns) (.str key) value (writeSubject g ns m)
              pure .allow) w₁ := by
      intro now w w₁ value hverifies hafter
      rw [GovernanceRuntime.writeStateBody, withSubject_of_verifies hverifies hafter, hcoerce,
        pure_bind, hfilter]
      dsimp only
      rw [haccess, pure_bind, subjectForWriteMode_str, pure_bind]
    have hfirst := hbody value hverifies hafter
    have hsecond := hbody value' hverifies' hafter'
    by_cases ha : access.allowed = true
    · rw [if_neg (not_not.2 ha), bind_apply, Config.runtime_write_str] at hfirst hsecond
      have hvalue' : value = value' ∨ WritesHidden reader (writeSubject g ns m) ns :=
        hvalue.imp_right fun hidden => hidden.writeSubject m
      rcases h.write_cases ns key hvalue' with
        ⟨r, r', hwrite, hwrite', halike⟩ | ⟨e, hwrite, hwrite'⟩
      · rw [hwrite] at hfirst
        rw [hwrite'] at hsecond
        exact ⟨_, _, _, attempt_of_ok hfirst, attempt_of_ok hsecond, halike⟩
      · have htext := GovernedStateStore.text_of_write hwrite
        obtain ⟨d, hd⟩ := (handleWrite_returns_iff (V := V)).2 htext
        rw [hwrite] at hfirst
        rw [hwrite'] at hsecond
        exact ⟨d, w₁, w₂, attempt_of_error hfirst hd, attempt_of_error hsecond hd, h⟩
    · rw [if_pos ha] at hfirst hsecond
      exact ⟨access, w₁, w₂, attempt_of_ok hfirst, attempt_of_ok hsecond, h⟩

end Calls

/-! ### Two runs -/

/-- The calls are the same, or two writes of one subject that are hidden from the reader. -/
inductive AlikeCalls (reader : Label TaintPolicy) : StateCall V → StateCall V → Prop
  | same (call : StateCall V) : AlikeCalls reader call call
  | hidden {g : GCO} {ns key : String} {value value' : V} {mode : ModeText}
    (hidden : WritesHidden reader g ns) :
    AlikeCalls reader (.write g ns key value mode) (.write g ns key value' mode)

/-- Whatever the call returns the reader may see. -/
def StateCall.Within (reader : Label TaintPolicy) : StateCall V → Prop
  | write _ _ _ _ _ => True
  | read g ns _ => ReadsWithin reader g ns

section Runs

variable {cfg : Config Key Cert Store V Ω} {env : Externals} {reader : Label TaintPolicy}

/-- Calls that are alike, in stores that are. -/
theorem Serves.alike {call call' : StateCall V} {d d' : Decision V} {w w' w₁ w₁' : World V Ω}
    (h : Alike reader w.store w'.store) (hcall : AlikeCalls reader call call')
    (hserves : Serves cfg env w call d w₁) (hserves' : Serves cfg env w' call' d' w₁') :
    (d.allowed = d'.allowed ∧ (call.Within reader → d = d')) ∧ Alike reader w₁.store w₁'.store := by
  obtain ⟨hverifies, hafter, hreturns⟩ := hserves
  obtain ⟨hverifies', hafter', hreturns'⟩ := hserves'
  rw [← hverifies.store, ← hverifies'.store] at h
  have hwrite : ∀ {g ns key value value'} {mode : ModeText},
      (value = value' ∨ WritesHidden reader g ns) → call = .write g ns key value mode →
      call' = .write g ns key value' mode → d = d' ∧ Alike reader w₁.store w₁'.store := by
    rintro g ns key value value' mode hvalue rfl rfl
    obtain ⟨d₀, w₃, w₄, hfirst, hsecond, halike⟩ :=
      writeState_alike hverifies hafter hverifies' hafter' h hvalue
    cases hfirst.symm.trans hreturns
    cases hsecond.symm.trans hreturns'
    exact ⟨rfl, halike⟩
  cases hcall with
  | hidden hidden =>
    obtain ⟨rfl, halike⟩ := hwrite (.inr hidden) rfl rfl
    exact ⟨⟨rfl, fun _ => rfl⟩, halike⟩
  | same =>
    cases call with
    | write g ns key value mode =>
      obtain ⟨rfl, halike⟩ := hwrite (.inl rfl) rfl rfl
      exact ⟨⟨rfl, fun _ => rfl⟩, halike⟩
    | read g ns key =>
      obtain ⟨d₁, d₂, hfirst, hsecond, hallowed, hsame⟩ :=
        readState_alike ns key hverifies hafter hverifies' hafter' h
      cases hfirst.symm.trans hreturns
      cases hsecond.symm.trans hreturns'
      exact ⟨⟨hallowed, hsame⟩, h⟩

/-- Hidden values do not flow. Of two runs that start with stores which differ at most in values
whose labels are not cleared for a reader, and that differ at most in what is written under such
labels, the same calls are allowed; every call that returns only what the reader may see has the
same decision, with the same text; and the stores in the end differ no further. -/
theorem hidden_values_do_not_flow (cfg : Config Key Cert Store V Ω) (env : Externals)
    (reader : Label TaintPolicy) (w w' w₁ w₁' : World V Ω)
    (trace trace' : List (StateCall V × Decision V)) (hstores : Alike reader w.store w'.store)
    (hcalls : List.Forall₂ (fun x x' => AlikeCalls reader x.1 x'.1) trace trace')
    (hrun : StateRun cfg env w trace w₁) (hrun' : StateRun cfg env w' trace' w₁') :
    List.Forall₂ (fun x x' => x.2.allowed = x'.2.allowed ∧ (x.1.Within reader → x.2 = x'.2))
      trace trace' ∧ Alike reader w₁.store w₁'.store := by
  refine Runs.Run.lockstep (R := fun w w' : World V Ω => Alike reader w.store w'.store) ?_ hstores
    hcalls hrun hrun'
  intro w w' x x' w₁ w₁' h hcall hserves hserves'
  exact Serves.alike h hcall hserves hserves'

end Runs

/-! ### The label of a key -/

/-- `l` is no higher than `t`. A label without a rank is as high as any. -/
def NoHigher (l t : Label TaintPolicy) : Prop :=
  ∀ r, taintRank t = some r → ∃ s, taintRank l = some s ∧ s ≤ r

theorem NoHigher.refl (t : Label TaintPolicy) : NoHigher t t := fun r hr => ⟨r, hr, le_rfl⟩

theorem NoHigher.trans {a b c : Label TaintPolicy} (hab : NoHigher a b) (hbc : NoHigher b c) :
    NoHigher a c := by
  intro r hr
  obtain ⟨s, hs, hsr⟩ := hbc r hr
  obtain ⟨q, hq, hqs⟩ := hab s hs
  exact ⟨q, hq, hqs.trans hsr⟩

/-- `_higher_taint` returns one of its arguments, which is as high as both. -/
theorem higherTaint_cases (a b : Label TaintPolicy) :
    (GovernedStateStore.higherTaint a b = a ∨ GovernedStateStore.higherTaint a b = b) ∧
      NoHigher a (GovernedStateStore.higherTaint a b) ∧
      NoHigher b (GovernedStateStore.higherTaint a b) := by
  unfold GovernedStateStore.higherTaint
  cases ha : taintRank a with
  | none =>
    have htop : ∀ l, NoHigher l a := fun l r hr => by rw [ha] at hr; cases hr
    exact ⟨.inl rfl, htop a, htop b⟩
  | some q =>
    cases hb : taintRank b with
    | none =>
      have htop : ∀ l, NoHigher l b := fun l r hr => by rw [hb] at hr; cases hr
      exact ⟨.inr rfl, htop a, htop b⟩
    | some r =>
      dsimp only
      split_ifs with hle
      · refine ⟨.inl rfl, .refl a, fun q' hq' => ⟨r, hb, ?_⟩⟩
        rw [ha, Option.some.injEq] at hq'
        omega
      · refine ⟨.inr rfl, fun r' hr' => ⟨q, ha, ?_⟩, .refl b⟩
        rw [hb, Option.some.injEq] at hr'
        omega

/-- The labels under which a key was written. -/
def labelsOf (history : List (Written V)) (k : String × String) : List (Label TaintPolicy) :=
  (history.filter fun e => e.storageKey = k).map Written.taint

/-- Every label of the store is the highest one under which its key was written. -/
def Labelled (history : List (Written V)) (store : GovernedStateStore V) : Prop :=
  ∀ k t, store.taints.get? k = some t →
    t ∈ labelsOf history k ∧ ∀ l ∈ labelsOf history k, NoHigher l t

section Labels

variable {cfg : Config Key Cert Store V Ω} {env : Externals} {history : List (Written V)}
  {store : GovernedStateStore V}

theorem labelsOf_append (history : List (Written V)) (e : Written V) (k : String × String) :
    labelsOf (history ++ [e]) k =
      labelsOf history k ++ if e.storageKey = k then [e.taint] else [] := by
  rw [labelsOf, List.filter_append, List.map_append, labelsOf]
  by_cases hk : e.storageKey = k <;> simp [hk]

theorem mem_labelsOf {k : String × String} {l : Label TaintPolicy} :
    l ∈ labelsOf history k ↔ ∃ e ∈ history, e.storageKey = k ∧ e.taint = l := by
  simp [labelsOf, and_assoc]

/-- A write of the store raises the label. -/
theorem Labelled.write (h : Labelled history store) (hrep : Represents history store)
    (k : String × String) (value : V) (p : StatePermission) :
    Labelled (history ++ [⟨k, value, p.taintPolicy⟩])
      ⟨store.values.set k value, store.taints.set k (store.taintAfter k p)⟩ := by
  intro k' t ht
  rw [labelsOf_append]
  rw [Dict.get?_set] at ht
  by_cases hk : k' = k
  · subst hk
    rw [if_pos rfl] at ht ⊢
    rw [← Option.some.inj ht, GovernedStateStore.taintAfter]
    cases hold : store.taints.get? k' with
    | none =>
      -- the first write to the key
      have hnil : labelsOf history k' = [] := by
        rw [List.eq_nil_iff_forall_not_mem]
        intro l hl
        obtain ⟨e, he, hek, -⟩ := mem_labelsOf.1 hl
        exact (hrep.unlabelled k').1 hold e he hek
      rw [hnil]
      exact ⟨List.mem_singleton_self _, fun l hl => by
        rw [List.mem_singleton.1 hl]; exact .refl _⟩
    | some old =>
      obtain ⟨hmem, hupper⟩ := h k' old hold
      obtain ⟨heq, hleft, hright⟩ := higherTaint_cases old p.taintPolicy
      dsimp only
      constructor
      · rw [List.mem_append, List.mem_singleton]
        rcases heq with heq | heq
        · exact .inl (by rw [heq]; exact hmem)
        · exact .inr heq
      · intro l hl
        rcases List.mem_append.1 hl with hl | hl
        · exact (hupper l hl).trans hleft
        · rw [List.mem_singleton.1 hl]
          exact hright
  · rw [if_neg hk] at ht
    rw [if_neg (Ne.symm hk), List.append_nil]
    exact h k' t ht

theorem Serves.labelled {w w' : World V Ω} {call : StateCall V} {d : Decision V}
    (hserves : Serves cfg env w call d w') (h : Labelled history w.store)
    (hrep : Represents history w.store) : Labelled (history ++ call.writes d) w'.store := by
  obtain ⟨hverifies, hafter, hreturns⟩ := hserves
  rw [← hverifies.store] at h hrep
  cases call with
  | write g ns key value mode =>
    obtain ⟨d₀, w₀, hwrite, ⟨rfl, p, m, hp, -, -, hstore⟩ | ⟨hd, rfl, -⟩⟩ :=
      writeState_of_verifies hverifies hafter
    · cases hwrite.symm.trans hreturns
      have hwrites : (StateCall.write g ns key value mode).writes .allow =
          [⟨(ns, key), value, p.taintPolicy⟩] := by
        have hgrant : g.permissionFor? ns = some p := hp
        simp [StateCall.writes, StateCall.written?, hgrant]
      rw [hwrites, hstore]
      exact h.write hrep (ns, key) value p
    · cases hwrite.symm.trans hreturns
      rw [writes_of_denied hd, List.append_nil]
      exact h
  | read g ns key =>
    obtain ⟨d₀, hread, -⟩ := readState_of_verifies hverifies hafter
    cases hread.symm.trans hreturns
    have hwrites : (StateCall.read g ns key).writes d = [] := by
      simp [StateCall.writes, StateCall.written?]
    rw [hwrites, List.append_nil]
    exact h

/-- After a run from the empty store the labels are the highest. -/
theorem StateRun.labelled {host : Ω} {trace : List (StateCall V × Decision V)} {w : World V Ω}
    (hrun : StateRun cfg env ⟨.empty, host⟩ trace w) :
    Represents (allowedWrites trace) w.store ∧ Labelled (allowedWrites trace) w.store := by
  have hinit : Represents [] (World.store (⟨.empty, host⟩ : World V Ω)) ∧
      Labelled [] (World.store (⟨.empty, host⟩ : World V Ω)) :=
    ⟨represents_empty, fun k t ht => by cases ht⟩
  have hboth := Runs.Run.records (R := fun (history : List (Written V)) (w : World V Ω) =>
    Represents history w.store ∧ Labelled history w.store)
    (fun h hserves => ⟨(hserves.specified h.1).2, hserves.labelled h.2 h.1⟩) hinit hrun
  rwa [List.nil_append] at hboth

/-- What `read` and `get_taint` return, when the store has this for the key. -/
theorem read_and_getTaint_of_stored {ns key : String} {g : GCO} {p : StatePermission} {value : V}
    {t : Label TaintPolicy} (hp : g.permissionFor? ns = some p)
    (hmode : GovernedStateStore.isReadMode p.accessMode = true)
    (hvalue : store.values.get? (ns, key) = some value)
    (ht : store.taints.get? (ns, key) = some t) :
    store.getTaint ns key g = .ok t ∧
      (Cleared t p.taintPolicy → store.read ns key g = .ok value) ∧
      (¬Cleared t p.taintPolicy → store.read ns key g =
        .error (.taintedStateRead s!"tainted state rejected for {ns}/{key}")) := by
  unfold GovernedStateStore.getTaint GovernedStateStore.read GovernedStateStore.permissionFor
  rw [hp, hvalue, ht, ← taintReadable_iff_cleared]
  simp only [bind, Except.bind]
  rw [if_neg (not_not.2 hmode), if_neg (not_not.2 hmode)]
  exact ⟨rfl, fun hreadable => if_pos hreadable, fun hreadable => if_neg hreadable⟩

/-- What they raise for a subject without a grant to read, and for a key that is not there. -/
theorem read_and_getTaint_of_absent {ns key : String} {g : GCO}
    (h : (¬∃ p, g.permissionFor? ns = some p ∧
        GovernedStateStore.isReadMode p.accessMode = true) ∨
      store.values.get? (ns, key) = none ∧ store.taints.get? (ns, key) = none) :
    ∃ e, store.getTaint ns key g = .error e ∧ store.read ns key g = .error e := by
  unfold GovernedStateStore.getTaint GovernedStateStore.read GovernedStateStore.permissionFor
  cases hp : g.permissionFor? ns with
  | none => exact ⟨_, rfl, rfl⟩
  | some p =>
    simp only [bind, Except.bind]
    by_cases hmode : GovernedStateStore.isReadMode p.accessMode = true
    · obtain ⟨hvalue, ht⟩ := h.resolve_left (not_not.2 ⟨p, hp, hmode⟩)
      rw [if_neg (not_not.2 hmode), if_neg (not_not.2 hmode), hvalue, ht]
      exact ⟨_, rfl, rfl⟩
    · rw [if_pos hmode, if_pos hmode]
      exact ⟨_, rfl, rfl⟩

end Labels

/-- After a run from the empty store, `get_taint` and `read` tell a subject the same about a key.
Without a grant to read, or for a key that was not written, they raise the same. Otherwise
`get_taint` returns the highest label under which the key was written, and `read` the value of the
latest write if that label is cleared for the grant, and else `TaintedStateRead`. -/
theorem get_taint_predicts_read (cfg : Config Key Cert Store V Ω) (env : Externals) (host : Ω)
    (trace : List (StateCall V × Decision V)) (w : World V Ω)
    (hrun : StateRun cfg env ⟨.empty, host⟩ trace w) (g : GCO) (ns key : String) :
    (∃ e, w.store.getTaint ns key g = .error e ∧ w.store.read ns key g = .error e ∧
      ((¬∃ p, g.permissionFor? ns = some p ∧ GovernedStateStore.isReadMode p.accessMode = true) ∨
        labelsOf (allowedWrites trace) (ns, key) = [])) ∨
      ∃ p latest t, g.permissionFor? ns = some p ∧
        GovernedStateStore.isReadMode p.accessMode = true ∧
        latest? (allowedWrites trace) (ns, key) = some latest ∧
        t ∈ labelsOf (allowedWrites trace) (ns, key) ∧
        (∀ l ∈ labelsOf (allowedWrites trace) (ns, key), NoHigher l t) ∧
        w.store.getTaint ns key g = .ok t ∧
        (Cleared t p.taintPolicy → w.store.read ns key g = .ok latest.value) ∧
        (¬Cleared t p.taintPolicy → w.store.read ns key g =
          .error (.taintedStateRead s!"tainted state rejected for {ns}/{key}")) := by
  obtain ⟨hrep, hlabelled⟩ := hrun.labelled
  by_cases hgrant : ∃ p, g.permissionFor? ns = some p ∧
      GovernedStateStore.isReadMode p.accessMode = true
  · obtain ⟨p, hp, hmode⟩ := hgrant
    cases ht : w.store.taints.get? (ns, key) with
    | none =>
      have hnone := (hrep.unlabelled (ns, key)).1 ht
      obtain ⟨e, htaint, hread⟩ := read_and_getTaint_of_absent (g := g)
        (.inr ⟨hrep.get?_eq_none_iff.2 hnone, ht⟩)
      refine .inl ⟨e, htaint, hread, .inr ?_⟩
      rw [List.eq_nil_iff_forall_not_mem]
      intro l hl
      obtain ⟨entry, hentry, hkey, -⟩ := mem_labelsOf.1 hl
      exact hnone entry hentry hkey
    | some t =>
      obtain ⟨hmem, hhighest⟩ := hlabelled _ t ht
      obtain ⟨entry, hentry, hkey, -⟩ := mem_labelsOf.1 hmem
      obtain ⟨latest, hlatest⟩ := Option.ne_none_iff_exists'.1 fun hnone =>
        latest?_eq_none_iff.1 hnone entry hentry hkey
      have hvalue : w.store.values.get? (ns, key) = some latest.value := by
        rw [hrep.value, hlatest, Option.map_some]
      exact .inr ⟨p, latest, t, hp, hmode, hlatest, hmem, hhighest,
        read_and_getTaint_of_stored hp hmode hvalue ht⟩
  · obtain ⟨e, htaint, hread⟩ := read_and_getTaint_of_absent (.inl hgrant)
    exact .inl ⟨e, htaint, hread, .inl hgrant⟩

/-! ### A child writes one of two values -/

/-- The store after `demoChild` wrote the value. -/
def quarantineStore (value : String) : GovernedStateStore String :=
  ⟨Dict.empty.set ("shared", "k") value, Dict.empty.set ("shared", "k") (.member .sanitized)⟩

/-- The child writes, and its parent reads. -/
def quarantineTrace (value : String) : List (StateCall String × Decision String) :=
  [(.write demoChild "shared" "k" value (.text "write"), .allow),
    (.read demoRoot "shared" "k", .deny (some .taintedStateRead)
      (some "tainted state rejected for shared/k"))]

theorem stateRun_quarantineTrace (value : String) :
    StateRun demoConfig demoExternals (demoWorld .empty) (quarantineTrace value)
      (demoWorld (quarantineStore value)) := by
  have hroot : After demoRoot.expiresAt demoNow.toPy :=
    ⟨demoNow.micros, PyDatetime.instant?_toPy demoNow, by decide⟩
  have hchild : After demoChild.expiresAt demoNow.toPy :=
    ⟨demoNow.micros, PyDatetime.instant?_toPy demoNow, by decide⟩
  have hwrite : Serves demoConfig demoExternals (demoWorld .empty)
      (.write demoChild "shared" "k" value (.text "write")) .allow
        (demoWorld (quarantineStore value)) := by
    refine ⟨verifies_demoChild _, hchild, ?_⟩
    rw [StateCall.perform, GovernanceRuntime.writeState]
    refine attempt_of_ok ?_
    rw [GovernanceRuntime.writeStateBody, withSubject_of_verifies (verifies_demoChild _) hchild]
    rfl
  have hdenied : Serves demoConfig demoExternals (demoWorld (quarantineStore value))
      (.read demoRoot "shared" "k") (.deny (some .taintedStateRead)
        (some "tainted state rejected for shared/k")) (demoWorld (quarantineStore value)) := by
    refine ⟨verifies_demoRoot _, hroot, ?_⟩
    rw [StateCall.perform, GovernanceRuntime.readState]
    refine attempt_of_error (e := .taintedStateRead "tainted state rejected for shared/k") ?_ rfl
    rw [GovernanceRuntime.readStateBody, withSubject_of_verifies (verifies_demoRoot _) hroot]
    rfl
  exact .cons hwrite (.cons hdenied (.nil _))

theorem hidden_values_do_not_flow_demo :
    Alike (.member .clean) (quarantineStore "42") (quarantineStore "43") := by
  have hhidden : WritesHidden (.member .clean) demoChild "shared" := by
    intro p hp hcleared
    obtain ⟨s, r, hs, hr, -, hle⟩ := hcleared
    cases hp
    cases hs
    cases hr
    exact absurd hle (by decide)
  exact (hidden_values_do_not_flow demoConfig demoExternals (.member .clean) (demoWorld .empty)
    (demoWorld .empty) _ _ _ _ (.refl _) (.cons (.hidden hhidden) (.cons (.same _) .nil))
    (stateRun_quarantineTrace "42") (stateRun_quarantineTrace "43")).2

theorem get_taint_predicts_read_demo :
    ∃ t, (quarantineStore "42").getTaint "shared" "k" demoRoot = .ok t := by
  rcases get_taint_predicts_read demoConfig demoExternals () (quarantineTrace "42")
    (demoWorld (quarantineStore "42")) (stateRun_quarantineTrace "42") demoRoot "shared" "k" with
    ⟨e, htaint, -⟩ | ⟨-, -, t, -, -, -, -, -, htaint, -⟩
  · cases htaint
  · exact ⟨t, htaint⟩

end Gco
