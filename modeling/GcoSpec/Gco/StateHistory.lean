import GcoSpec.Gco.Narrowing
import GcoSpec.Library.Runs

/-!
# Governed state and its history

The history of a store is the list of the writes that were allowed, each with the label of the
permission it was made under. `Specified` says what the history decides about the next call, and
`Represents` how a store stands for a history: the value of a key is that of its latest write, and
its label is readable by those who could read the labels of all its writes.

A run is a list of calls, each on a subject that verifies and is current at its own instant.
`state_refines_history` says that a run from the empty store goes as its history has it.
-/

namespace Gco

open Python

variable {Key Cert Store V Ω : Type}

/-! ### Calls and histories -/

/-- A call of `write_state` or `read_state`. -/
inductive StateCall (V : Type)
  | write (g : GCO) (ns key : String) (value : V) (mode : ModeText)
  | read (g : GCO) (ns key : String)

/-- A write that was allowed. -/
structure Written (V : Type) where
  storageKey : String × String
  value : V
  taint : Label TaintPolicy

namespace StateCall

def subject : StateCall V → GCO
  | write g _ _ _ _ => g
  | read g _ _ => g

/-- The call, made of a runtime. -/
def perform (rt : GovernanceRuntime (World V Ω) V) : StateCall V → Py Exc (World V Ω) (Decision V)
  | write g ns key value mode => rt.writeState (.gco g) (.str ns) (.str key) value mode.toMode
  | read g ns key => rt.readState (.gco g) (.str ns) (.str key)

/-- What the call writes when it is allowed. -/
def written? : StateCall V → Option (Written V)
  | write g ns key value _ => (g.permissionFor? ns).map fun p => ⟨(ns, key), value, p.taintPolicy⟩
  | read _ _ _ => none

/-- What the call wrote, with this decision on it. -/
def writes (call : StateCall V) (d : Decision V) : List (Written V) :=
  if d.allowed then call.written?.toList else []

end StateCall

/-- The writes of the allowed calls, in order. -/
def allowedWrites (trace : List (StateCall V × Decision V)) : List (Written V) :=
  trace.flatMap fun x => x.1.writes x.2

/-- The latest write to a key. -/
def latest? (history : List (Written V)) (storageKey : String × String) : Option (Written V) :=
  history.reverse.find? fun e => e.storageKey = storageKey

/-- The label has a rank, which is at most that of `SANITIZED` and that of the reader. -/
def Cleared (taint reader : Label TaintPolicy) : Prop :=
  ∃ s r, taintRank taint = some s ∧ taintRank reader = some r ∧
    s ≤ TaintPolicy.sanitized.rank ∧ s ≤ r

/-- What the decision on a call has to be after a history. -/
def Specified (history : List (Written V)) (call : StateCall V) (d : Decision V) : Prop :=
  match call with
  | .write g ns key _ mode =>
      (d.allowed = true ↔ ∃ p, g.permissionFor? ns = some p ∧
        (mode.accessMode? = some .write ∧ p.accessMode = .member .write ∨
          mode.accessMode? = some .append ∧
            (p.accessMode = .member .append ∨ p.accessMode = .member .write) ∧
            ∀ e ∈ history, e.storageKey ≠ (ns, key))) ∧
        (d.allowed = true → d = .allow)
  | .read g ns key =>
      (d.allowed = true ↔ ∃ p, g.permissionFor? ns = some p ∧
        (p.accessMode = .member .read ∨ p.accessMode = .member .write) ∧
        (∃ e ∈ history, e.storageKey = (ns, key)) ∧
        ∀ e ∈ history, e.storageKey = (ns, key) → Cleared e.taint p.taintPolicy) ∧
        (d.allowed = true → ∃ e, latest? history (ns, key) = some e ∧ d = .allowValue e.value)

/-- Whether the call was allowed, and with which value. -/
def Decision.outcome (d : Decision V) : Option (Option V) :=
  if d.allowed then some d.value else none

/-- The history decides the outcome. -/
theorem Specified.outcome_eq {history : List (Written V)} {call : StateCall V} {d d' : Decision V}
    (h : Specified history call d) (h' : Specified history call d') : d.outcome = d'.outcome := by
  have hiff : d.allowed = true ↔ d'.allowed = true := by
    cases call with
    | write => exact h.1.trans h'.1.symm
    | read => exact h.1.trans h'.1.symm
  unfold Decision.outcome
  by_cases hd : d.allowed = true
  · have hd' := hiff.1 hd
    rw [if_pos hd, if_pos hd']
    cases call with
    | write => rw [h.2 hd, h'.2 hd']
    | read =>
      obtain ⟨e, he, rfl⟩ := h.2 hd
      obtain ⟨e', he', rfl⟩ := h'.2 hd'
      rw [he, Option.some.injEq] at he'
      rw [he']
  · rw [if_neg hd, if_neg fun hd' => hd (hiff.2 hd')]

/-! ### Stores that stand for a history -/

theorem taintReadable_iff_cleared {taint reader : Label TaintPolicy} :
    GovernedStateStore.taintReadable taint reader = true ↔ Cleared taint reader :=
  GovernedStateStore.taintReadable_iff

theorem cleared_iff {taint reader : Label TaintPolicy} {s r : ℕ} (hs : taintRank taint = some s)
    (hr : taintRank reader = some r) :
    Cleared taint reader ↔ s ≤ TaintPolicy.sanitized.rank ∧ s ≤ r := by
  simp [Cleared, hs, hr]

theorem not_cleared {taint reader : Label TaintPolicy}
    (h : taintRank taint = none ∨ taintRank reader = none) : ¬Cleared taint reader := by
  rintro ⟨s, r, hs, hr, -⟩
  rcases h with h | h
  · rw [h] at hs
    cases hs
  · rw [h] at hr
    cases hr

/-- The higher of two labels is readable by those who may read both. -/
theorem cleared_higherTaint {a b reader : Label TaintPolicy} :
    Cleared (GovernedStateStore.higherTaint a b) reader ↔ Cleared a reader ∧ Cleared b reader := by
  unfold GovernedStateStore.higherTaint
  cases hreader : taintRank reader with
  | none => exact iff_of_false (not_cleared (.inr hreader)) fun h => not_cleared (.inr hreader) h.1
  | some t =>
    cases ha : taintRank a with
    | none => exact iff_of_false (not_cleared (.inl ha)) fun h => not_cleared (.inl ha) h.1
    | some r =>
      cases hb : taintRank b with
      | none => exact iff_of_false (not_cleared (.inl hb)) fun h => not_cleared (.inl hb) h.2
      | some s =>
        rw [cleared_iff ha hreader, cleared_iff hb hreader]
        dsimp only
        split_ifs
        · rw [cleared_iff ha hreader]
          omega
        · rw [cleared_iff hb hreader]
          omega

/-- The store stands for the history. -/
structure Represents (history : List (Written V)) (store : GovernedStateStore V) : Prop where
  value : ∀ k, store.values.get? k = (latest? history k).map Written.value
  unlabelled : ∀ k, store.taints.get? k = none ↔ ∀ e ∈ history, e.storageKey ≠ k
  cleared : ∀ k t reader, store.taints.get? k = some t →
    (Cleared t reader ↔ ∀ e ∈ history, e.storageKey = k → Cleared e.taint reader)

theorem represents_empty : Represents [] (GovernedStateStore.empty : GovernedStateStore V) where
  value _ := rfl
  unlabelled _ := iff_of_true rfl (by simp)
  cleared _ _ _ h := by cases h

theorem latest?_append_singleton (history : List (Written V)) (e : Written V)
    (k : String × String) :
    latest? (history ++ [e]) k = if e.storageKey = k then some e else latest? history k := by
  rw [latest?, List.reverse_append, List.reverse_singleton, List.singleton_append, List.find?_cons]
  by_cases h : e.storageKey = k <;> simp [h, latest?]

theorem latest?_eq_none_iff {history : List (Written V)} {k : String × String} :
    latest? history k = none ↔ ∀ e ∈ history, e.storageKey ≠ k := by
  rw [latest?, List.find?_eq_none]
  simp

variable {history : List (Written V)} {store : GovernedStateStore V}

/-- A key without a write has no value. -/
theorem Represents.get?_eq_none_iff (h : Represents history store) {k : String × String} :
    store.values.get? k = none ↔ ∀ e ∈ history, e.storageKey ≠ k := by
  rw [h.value, Option.map_eq_none_iff, latest?_eq_none_iff]

/-- A write of the store adds a write to the history. -/
theorem Represents.write (h : Represents history store) (k : String × String) (value : V)
    (p : StatePermission) :
    Represents (history ++ [⟨k, value, p.taintPolicy⟩])
      ⟨store.values.set k value, store.taints.set k (store.taintAfter k p)⟩ where
  value k' := by
    rw [Dict.get?_set, latest?_append_singleton]
    by_cases hk : k' = k
    · rw [if_pos hk, if_pos hk.symm]
      rfl
    · rw [if_neg hk, if_neg (Ne.symm hk), h.value]
  unlabelled k' := by
    simp only [List.forall_mem_append, List.forall_mem_singleton]
    rw [Dict.get?_set]
    by_cases hk : k' = k
    · rw [if_pos hk]
      simp [hk]
    · rw [if_neg hk, h.unlabelled]
      simp [Ne.symm hk]
  cleared k' t reader ht := by
    simp only [List.forall_mem_append, List.forall_mem_singleton]
    rw [Dict.get?_set] at ht
    by_cases hk : k' = k
    · -- the label of the key is the higher of the two
      rw [if_pos hk, Option.some.injEq] at ht
      subst hk ht
      unfold GovernedStateStore.taintAfter
      cases hget : store.taints.get? k' with
      | none =>
        have hfirst : ∀ e ∈ history, e.storageKey = k' → Cleared e.taint reader :=
          fun e he hk => absurd hk ((h.unlabelled k').1 hget e he)
        exact ⟨fun hc => ⟨hfirst, fun _ => hc⟩, fun hc => hc.2 rfl⟩
      | some t =>
        dsimp only
        rw [cleared_higherTaint, h.cleared k' t reader hget]
        simp
    · rw [if_neg hk] at ht
      rw [h.cleared k' t reader ht]
      simp [Ne.symm hk]

/-- What the store returns to a reader is what the history has for it. -/
theorem Represents.read_eq_ok_iff (h : Represents history store) {ns key : String} {value : V}
    {g : GCO} : store.read ns key g = .ok value ↔
      (∃ p, g.permissionFor? ns = some p ∧
        (p.accessMode = .member .read ∨ p.accessMode = .member .write) ∧
        (∃ e ∈ history, e.storageKey = (ns, key)) ∧
        ∀ e ∈ history, e.storageKey = (ns, key) → Cleared e.taint p.taintPolicy) ∧
      ∃ e, latest? history (ns, key) = some e ∧ value = e.value := by
  have hmode : ∀ m, GovernedStateStore.isReadMode m = true ↔
      m = .member .read ∨ m = .member .write := by
    intro m
    simp [GovernedStateStore.isReadMode]
  have hwritten : (∃ e ∈ history, e.storageKey = (ns, key)) ↔
      ¬store.taints.get? (ns, key) = none := by
    rw [h.unlabelled]
    push Not
    rfl
  rw [GovernedStateStore.read_eq_ok_iff]
  constructor
  · rintro ⟨p, t, hp, hread, hvalue, ht, hreadable⟩
    rw [h.value, Option.map_eq_some_iff] at hvalue
    obtain ⟨e, he, rfl⟩ := hvalue
    refine ⟨⟨p, hp, (hmode _).1 hread, hwritten.2 ?_, ?_⟩, e, he, rfl⟩
    · rw [ht]
      exact Option.some_ne_none t
    · exact (h.cleared _ t _ ht).1 (taintReadable_iff_cleared.1 hreadable)
  · rintro ⟨⟨p, hp, hread, he, hcleared⟩, e, hlatest, rfl⟩
    obtain ⟨t, ht⟩ := Option.ne_none_iff_exists'.1 (hwritten.1 he)
    refine ⟨p, t, hp, (hmode _).2 hread, ?_, ht, ?_⟩
    · rw [h.value, hlatest]
      rfl
    · exact taintReadable_iff_cleared.2 ((h.cleared _ t _ ht).2 hcleared)

/-! ### Runs -/

section Runs

variable {cfg : Config Key Cert Store V Ω} {env : Externals}

/-- One call: its subject verifies and is current, and the call returns the decision. -/
inductive Serves (cfg : Config Key Cert Store V Ω) (env : Externals) (w : World V Ω)
    (call : StateCall V) (d : Decision V) (w'' : World V Ω) : Prop
  | intro {now : PyDatetime} {w' : World V Ω}
    (verifies : cfg.Verifies env now call.subject w w')
    (current : After call.subject.expiresAt now)
    (returns : call.perform (cfg.runtime env now) w = .ok d w'')

/-- Calls in sequence, with their decisions. -/
def StateRun (cfg : Config Key Cert Store V Ω) (env : Externals) :
    World V Ω → List (StateCall V × Decision V) → World V Ω → Prop :=
  Runs.Run fun w x w' => Serves cfg env w x.1 x.2 w'

theorem writes_of_denied {call : StateCall V} {d : Decision V} (h : d.allowed = false) :
    call.writes d = [] := by
  rw [StateCall.writes, h]
  rfl

/-- Calls with the same outcome write the same. -/
theorem writes_of_outcome {call : StateCall V} {d d' : Decision V}
    (h : d.outcome = d'.outcome) : call.writes d = call.writes d' := by
  unfold StateCall.writes
  unfold Decision.outcome at h
  split_ifs at h ⊢
  · rfl
  · rfl

/-- A call on a subject that verifies and is current returns, with what the history specifies. -/
theorem serves_specified {history : List (Written V)} {now : PyDatetime} {call : StateCall V}
    {w w' : World V Ω} (hverifies : cfg.Verifies env now call.subject w w')
    (hafter : After call.subject.expiresAt now) (h : Represents history w.store) :
    ∃ d w'', call.perform (cfg.runtime env now) w = .ok d w'' ∧ Specified history call d ∧
      Represents (history ++ call.writes d) w''.store := by
  rw [← hverifies.store] at h
  cases call with
  | write g ns key value mode =>
    have hverifies : cfg.Verifies env now g w w' := hverifies
    obtain ⟨d, w'', hreturns, ⟨rfl, p, m, hp, hm, hgrant, hstore⟩ | ⟨hd, rfl, hdenied⟩⟩ :=
      writeState_of_verifies hverifies hafter
    · refine ⟨_, w'', hreturns, ⟨iff_of_true rfl ⟨p, hp, ?_⟩, fun _ => rfl⟩, ?_⟩
      · rw [hm]
        rcases hgrant with ⟨rfl, hmode⟩ | ⟨rfl, hmode, hnone⟩
        · exact .inl ⟨rfl, hmode⟩
        · exact .inr ⟨rfl, hmode, h.get?_eq_none_iff.1 hnone⟩
      · have hwrites : (StateCall.write g ns key value mode).writes .allow =
            [⟨(ns, key), value, p.taintPolicy⟩] := by
          simp [StateCall.writes, StateCall.written?, hp]
        rw [hwrites, hstore]
        exact h.write (ns, key) value p
    · refine ⟨d, w'', hreturns, ⟨?_, fun hallowed => ?_⟩, ?_⟩
      · rw [hd]
        refine iff_of_false Bool.false_ne_true ?_
        rintro ⟨p, hp, ⟨hm, hmode⟩ | ⟨hm, hmode, hnone⟩⟩
        · exact hdenied p _ hp hm (.inl ⟨rfl, hmode⟩)
        · exact hdenied p _ hp hm (.inr ⟨rfl, hmode, h.get?_eq_none_iff.2 hnone⟩)
      · rw [hd] at hallowed
        cases hallowed
      · rw [writes_of_denied hd, List.append_nil]
        exact h
  | read g ns key =>
    have hverifies : cfg.Verifies env now g w w' := hverifies
    obtain ⟨d, hreturns, ⟨value, hread, rfl⟩ | ⟨⟨e, hread⟩, hd⟩⟩ :=
      readState_of_verifies hverifies hafter
    · obtain ⟨hgrant, e, hlatest, rfl⟩ := h.read_eq_ok_iff.1 hread
      refine ⟨_, w', hreturns, ⟨iff_of_true rfl hgrant, fun _ => ⟨e, hlatest, rfl⟩⟩, ?_⟩
      rw [show (StateCall.read g ns key).writes (.allowValue e.value) = [] from rfl,
        List.append_nil]
      exact h
    · refine ⟨d, w', hreturns, ⟨?_, fun hallowed => ?_⟩, ?_⟩
      · rw [hd]
        refine iff_of_false Bool.false_ne_true fun hgrant => ?_
        -- a write to the key has a latest one, and the store would have returned it
        obtain ⟨p, hp, hmode, ⟨e', he', hk⟩, hcleared⟩ := hgrant
        obtain ⟨latest, hlatest⟩ := Option.ne_none_iff_exists'.1 fun hnone =>
          latest?_eq_none_iff.1 hnone e' he' hk
        have hok := h.read_eq_ok_iff.2
          ⟨⟨p, hp, hmode, ⟨e', he', hk⟩, hcleared⟩, latest, hlatest, rfl⟩
        rw [hread] at hok
        cases hok
      · rw [hd] at hallowed
        cases hallowed
      · rw [writes_of_denied hd, List.append_nil]
        exact h

theorem Serves.specified {history : List (Written V)} {w w' : World V Ω} {call : StateCall V}
    {d : Decision V} (hserves : Serves cfg env w call d w') (h : Represents history w.store) :
    Specified history call d ∧ Represents (history ++ call.writes d) w'.store := by
  obtain ⟨hverifies, hcurrent, hreturns⟩ := hserves
  obtain ⟨d', w'', hreturns', hspecified, hrepresents⟩ := serves_specified hverifies hcurrent h
  rw [hreturns] at hreturns'
  cases hreturns'
  exact ⟨hspecified, hrepresents⟩

/-- After a run the store stands for the history with the writes of the run. -/
theorem StateRun.represents {history : List (Written V)} {w w' : World V Ω}
    {trace : List (StateCall V × Decision V)} (hrun : StateRun cfg env w trace w')
    (h : Represents history w.store) : Represents (history ++ allowedWrites trace) w'.store :=
  Runs.Run.records (R := fun history w => Represents history w.store)
    (fun hrepresents hserves => (Serves.specified hserves hrepresents).2) h hrun

/-- A trace with some of its denied calls left out. -/
inductive LeavesOut : List (StateCall V × Decision V) → List (StateCall V × Decision V) → Prop
  | nil : LeavesOut [] []
  | keep {trace kept : List (StateCall V × Decision V)} (x : StateCall V × Decision V)
    (rest : LeavesOut trace kept) : LeavesOut (x :: trace) (x :: kept)
  | drop {trace kept : List (StateCall V × Decision V)} {x : StateCall V × Decision V}
    (denied : x.2.allowed = false) (rest : LeavesOut trace kept) : LeavesOut (x :: trace) kept

/-- Without some of the denied calls, the others have the same outcomes. -/
theorem LeavesOut.outcomes_eq {history : List (Written V)} {w₁ w₁' w₂ w₂' : World V Ω}
    {trace kept trace' : List (StateCall V × Decision V)} (hkept : LeavesOut trace kept)
    (hrun : StateRun cfg env w₁ trace w₁') (hrun' : StateRun cfg env w₂ trace' w₂')
    (h₁ : Represents history w₁.store) (h₂ : Represents history w₂.store)
    (hcalls : trace'.map Prod.fst = kept.map Prod.fst) :
    trace'.map (fun x => x.2.outcome) = kept.map fun x => x.2.outcome := by
  induction hkept generalizing history w₁ w₂ trace' with
  | nil =>
    rw [List.map_eq_nil_iff.1 hcalls]
  | keep x rest ih =>
    obtain ⟨⟨call, d⟩, trace'', rfl, rfl, hrest⟩ := List.map_eq_cons_iff.1 hcalls
    cases hrun with
    | cons first hrun =>
      cases hrun' with
      | cons first' hrun' =>
        obtain ⟨hspecified, hrepresents⟩ := first.specified h₁
        obtain ⟨hspecified', hrepresents'⟩ := first'.specified h₂
        have houtcome := hspecified'.outcome_eq hspecified
        rw [writes_of_outcome houtcome] at hrepresents'
        rw [List.map_cons, List.map_cons, houtcome,
          ih hrun hrun' hrepresents hrepresents' hrest]
  | drop hdenied rest ih =>
    cases hrun with
    | cons first hrun =>
      -- the call left no trace in the history
      have hrepresents := (first.specified h₁).2
      rw [writes_of_denied hdenied, List.append_nil] at hrepresents
      exact ih hrun hrun' hrepresents h₂ hcalls

/-- A run from the empty store goes as its history has it: each decision is the one that the
earlier allowed writes specify, one more call on a subject that verifies and is current returns,
and leaving out denied calls changes the outcome of no other. -/
theorem state_refines_history (cfg : Config Key Cert Store V Ω) (env : Externals) (host : Ω)
    (trace : List (StateCall V × Decision V)) (w : World V Ω)
    (hrun : StateRun cfg env ⟨.empty, host⟩ trace w) :
    (∀ pre call d post, trace = pre ++ (call, d) :: post →
      Specified (allowedWrites pre) call d) ∧
    (∀ (now : PyDatetime) (call : StateCall V) (w' : World V Ω),
      cfg.Verifies env now call.subject w w' → After call.subject.expiresAt now →
        ∃ d w'', call.perform (cfg.runtime env now) w = .ok d w'') ∧
    ∀ kept host' trace' w', LeavesOut trace kept → StateRun cfg env ⟨.empty, host'⟩ trace' w' →
      trace'.map Prod.fst = kept.map Prod.fst →
      trace'.map (fun x => x.2.outcome) = kept.map fun x => x.2.outcome := by
  refine ⟨?_, ?_, ?_⟩
  · rintro pre call d post rfl
    obtain ⟨w', hpre, hpost⟩ := Runs.Run.split hrun
    cases hpost with
    | cons first rest => exact (first.specified (StateRun.represents hpre represents_empty)).1
  · intro now call w' hverifies hafter
    obtain ⟨d, w'', hreturns, -⟩ :=
      serves_specified hverifies hafter (hrun.represents represents_empty)
    exact ⟨d, w'', hreturns⟩
  · intro kept host' trace' w' hkept hrun' hcalls
    exact hkept.outcomes_eq hrun hrun' represents_empty represents_empty hcalls

end Runs

/-! ### A child writes and its parent cannot read -/

/-- `demoChild` writes a `SANITIZED` value, which its parent may not read. -/
def demoTrace : List (StateCall String × Decision String) :=
  [(.write demoChild "shared" "k" "42" (.text "write"), .allow),
    (.read demoRoot "shared" "k", .deny (some .taintedStateRead)
      (some "tainted state rejected for shared/k")),
    (.read demoChild "shared" "k", .allowValue "42")]

theorem stateRun_demoTrace :
    StateRun demoConfig demoExternals (demoWorld .empty) demoTrace (demoWorld demoStore) := by
  have hroot : After demoRoot.expiresAt demoNow.toPy :=
    ⟨demoNow.micros, PyDatetime.instant?_toPy demoNow, by decide⟩
  have hchild : After demoChild.expiresAt demoNow.toPy :=
    ⟨demoNow.micros, PyDatetime.instant?_toPy demoNow, by decide⟩
  have hwrite : Serves demoConfig demoExternals (demoWorld .empty)
      (.write demoChild "shared" "k" "42" (.text "write")) .allow (demoWorld demoStore) := by
    refine ⟨verifies_demoChild _, hchild, ?_⟩
    rw [StateCall.perform, GovernanceRuntime.writeState]
    refine attempt_of_ok ?_
    rw [GovernanceRuntime.writeStateBody, withSubject_of_verifies (verifies_demoChild _) hchild]
    rfl
  have hdenied : Serves demoConfig demoExternals (demoWorld demoStore)
      (.read demoRoot "shared" "k") (.deny (some .taintedStateRead)
        (some "tainted state rejected for shared/k")) (demoWorld demoStore) := by
    refine ⟨verifies_demoRoot _, hroot, ?_⟩
    rw [StateCall.perform, GovernanceRuntime.readState]
    have hraise : (demoConfig.runtime demoExternals demoNow.toPy).readStateBody (.gco demoRoot)
        (.str "shared") (.str "k") (demoWorld demoStore) = .error
          (.taintedStateRead "tainted state rejected for shared/k") (demoWorld demoStore) := by
      rw [GovernanceRuntime.readStateBody, withSubject_of_verifies (verifies_demoRoot _) hroot]
      rfl
    exact attempt_of_error hraise rfl
  have hread : Serves demoConfig demoExternals (demoWorld demoStore)
      (.read demoChild "shared" "k") (.allowValue "42") (demoWorld demoStore) := by
    refine ⟨verifies_demoChild _, hchild, ?_⟩
    rw [StateCall.perform, GovernanceRuntime.readState]
    refine attempt_of_ok ?_
    rw [GovernanceRuntime.readStateBody, withSubject_of_verifies (verifies_demoChild _) hchild]
    rfl
  exact .cons hwrite (.cons hdenied (.cons hread (.nil _)))

/-- The history denies the read of the parent, and with or without it the child reads the value. -/
theorem state_refines_history_demo :
    Specified [⟨("shared", "k"), "42", .member .sanitized⟩] (.read demoRoot "shared" "k")
      (.deny (some .taintedStateRead) (some "tainted state rejected for shared/k")) :=
  (state_refines_history demoConfig demoExternals () demoTrace (demoWorld demoStore)
    stateRun_demoTrace).1 [(.write demoChild "shared" "k" "42" (.text "write"), .allow)] _ _ _ rfl

end Gco
