import GcoSpec.Gco.ActivePolicies

/-!
# Views of a growing ledger

What `active_policies` answers as a ledger grows.

* `latest_event_decides`: now, a policy is active with the record that `latest_for_policy` finds,
  unless that deactivates it, and a call of `record_activation` changes the answer for no other
  policy.
* `as_of_replay`: as of a time it is active with the event that is greatest by `recorded_at` and
  sequence number among those recorded by then, unless that deactivates it; what is recorded with a
  later time changes nothing.

Both views are replays, so that the first part of each is `get?_activeSnapshot` for one order of the
events, and the second says which events take part.
-/

namespace Gco

open Python HashChain Replay PolicyActivationRecord

variable {ext : LedgerExternals} {P : Type} [DecidableEq P]

/-! ### How a ledger grows -/

/-- The records of a ledger are among those it has later, in front. -/
theorem prefix_of_recordStep {start host : LedgerHost P}
    (hrun : Relation.ReflTransGen (RecordStep ext) start host) :
    start.ledger.entries <+: host.ledger.entries := by
  refine Runs.invariant (I := fun host => start.ledger.entries <+: host.ledger.entries) ?_
    List.prefix_rfl hrun
  intro host host' hprefix hstep
  rcases hstep.entries with hsame | ⟨_, _, _, _, r, -, happended⟩
  · rwa [hsame]
  · rw [happended]
    exact hprefix.trans (List.prefix_append _ _)

/-! ### The current view -/

/-- One more event changes the current view at its own policy only. -/
theorem get?_activeSnapshot_concat (entries : List PolicyActivationRecord)
    (r : PolicyActivationRecord) {policyId : String} (hne : policyId ≠ policyOf r) :
    (activeSnapshot (entries ++ [r])).get? policyId = (activeSnapshot entries).get? policyId := by
  rw [get?_activeSnapshot, get?_activeSnapshot, last_concat, if_neg hne.symm]

/-- A call that returned appended its record, whatever came of storing it. -/
theorem of_recordActivation_eq_ok {host host' : LedgerHost P} {policyId interventionVersion : PyVal}
    {options : ActivationOptions} {callables : LedgerCallables} {storage : Storage}
    {r : PolicyActivationRecord}
    (h : recordActivation ext policyId interventionVersion options callables storage host =
      .ok r host') :
    host.ledger.usable = true ∧
      Seals ext host.ledger.entries policyId interventionVersion options callables r ∧
      host' = host.appended ext.toExternals r := by
  by_cases husable : host.ledger.usable = true
  · rw [recordActivation_of_usable husable] at h
    cases hseal : sealRecord ext host.ledger.entries policyId interventionVersion options
        callables with
    | error e =>
      rw [hseal] at h
      cases h
    | ok record =>
      rw [hseal] at h
      dsimp only at h
      rw [bind_apply] at h
      cases hpath : host.path with
      | none =>
        rw [append_in_memory husable hpath] at h
        cases h
        exact ⟨husable, sealRecord_eq_ok_iff.1 hseal, rfl⟩
      | some path =>
        cases storage with
        | stored =>
          rw [append_stored husable] at h
          cases h
          exact ⟨husable, sealRecord_eq_ok_iff.1 hseal, rfl⟩
        | failed written text =>
          rw [append_failed husable hpath] at h
          cases h
  · rw [Bool.not_eq_true] at husable
    rw [recordActivation_of_unusable husable] at h
    cases h

/-- The latest event of a policy decides whether it is active: `active_policies` and
`latest_for_policy` agree on every ledger, or both raise, and a record that is appended changes the
active policies at most at its own. -/
theorem latest_event_decides (ext : LedgerExternals) (host : LedgerHost P) :
    (host.ledger.usable = true → ∃ view, host.ledger.activePolicies none = .ok view ∧
      ∀ policyId, ∃ latest, host.ledger.latestForPolicy policyId = .ok latest ∧
        (view.contains policyId = true ↔
          ∃ r, latest = some r ∧ r.eventType ≠ .deactivate) ∧
        ∀ r, latest = some r → r.eventType ≠ .deactivate → view.get? policyId = some r) ∧
    (host.ledger.usable = false → ∃ text,
      host.ledger.activePolicies none = .error (.ledger (.append text)) ∧
      ∀ policyId, host.ledger.latestForPolicy policyId = .error (.ledger (.append text))) ∧
    ∀ policyId interventionVersion options callables storage r host',
      recordActivation ext policyId interventionVersion options callables storage host =
        .ok r host' →
      policyId = .str r.policyId.text ∧ ∃ view view',
        host.ledger.activePolicies none = .ok view ∧
        host'.ledger.activePolicies none = .ok view' ∧
        ∀ p, p ≠ r.policyId.text → (view'.contains p = true ↔ view.contains p = true) := by
  refine ⟨?_, ?_, ?_⟩
  · intro husable
    refine ⟨_, PolicyDeploymentLedger.activePolicies_none husable, fun policyId =>
      ⟨_, PolicyDeploymentLedger.latestForPolicy_eq husable policyId, ?_, ?_⟩⟩
    · rw [Dict.contains, get?_activeSnapshot, Option.isSome_iff_exists]
      refine exists_congr fun r => ?_
      rw [Option.filter_eq_some_iff, isLive, decide_eq_true_eq]
    · intro r hlatest hlive
      rw [get?_activeSnapshot, Option.filter_eq_some_iff]
      exact ⟨hlatest, decide_eq_true hlive⟩
  · intro hunusable
    refine ⟨_, PolicyDeploymentLedger.activePolicies_of_unusable hunusable none, fun policyId => ?_⟩
    rw [PolicyDeploymentLedger.latestForPolicy, PolicyDeploymentLedger.ensureUsable, hunusable]
    rfl
  · intro policyId interventionVersion options callables storage r host' hcall
    obtain ⟨husable, hseals, rfl⟩ := of_recordActivation_eq_ok hcall
    have husable' : (host.appended ext.toExternals r).ledger.usable = true := husable
    refine ⟨hseals.policyId, _, _, PolicyDeploymentLedger.activePolicies_none husable,
      PolicyDeploymentLedger.activePolicies_none husable', fun p hne => ?_⟩
    have hentries : (host.appended ext.toExternals r).ledger.entries =
        host.ledger.entries ++ [r] := rfl
    rw [Dict.contains, Dict.contains, hentries, get?_activeSnapshot_concat _ _ hne]

/-! ### Views as of a time -/

/-- The event of a policy that is greatest by time and sequence number among those recorded by an
instant, in microseconds. -/
def GreatestBy (entries : List PolicyActivationRecord) (micros : ℤ) (policyId : String)
    (r : PolicyActivationRecord) : Prop :=
  Greatest policyOf recordedRank (entries.filter fun r => r.recordedAt.micros ≤ micros) policyId r

/-- The view as of an instant: a policy is active with its greatest event by then, unless that
deactivates it. -/
def IsViewAsOf (entries : List PolicyActivationRecord) (micros : ℤ)
    (view : Dict String PolicyActivationRecord) : Prop :=
  ∀ policyId, (∀ r, GreatestBy entries micros policyId r →
      view.get? policyId = if r.eventType = .deactivate then none else some r) ∧
    ((∀ r, ¬GreatestBy entries micros policyId r) → view.get? policyId = none)

section

variable {entries : List PolicyActivationRecord}

/-- The greatest event is the last one of the replay. -/
theorem greatestBy_iff (h : entries.Pairwise fun a b => a.sequence < b.sequence)
    {atUtc : DateTime} {policyId : String} {r : PolicyActivationRecord} :
    GreatestBy entries atUtc.micros policyId r ↔
      last policyOf (qualifying entries atUtc) policyId = some r :=
  (last_qualifying_eq_some_iff (nodup_sequence h)).symm

theorem isViewAsOf_qualifying (h : entries.Pairwise fun a b => a.sequence < b.sequence)
    (atUtc : DateTime) :
    IsViewAsOf entries atUtc.micros (activeSnapshot (qualifying entries atUtc)) := by
  intro policyId
  simp only [greatestBy_iff h]
  rw [get?_activeSnapshot]
  refine ⟨?_, ?_⟩
  · intro r hlast
    rw [hlast]
    by_cases hdead : r.eventType = .deactivate
    · simp [Option.filter, isLive, hdead]
    · simp [Option.filter, isLive, hdead]
  · intro hnone
    rw [Option.eq_none_iff_forall_ne_some.2 hnone]
    rfl

/-- Events recorded after a time take no part in the view as of it. -/
theorem qualifying_append_of_later {added : List PolicyActivationRecord} {atUtc : DateTime}
    (hlater : ∀ r ∈ added, atUtc < r.recordedAt) :
    qualifying (entries ++ added) atUtc = qualifying entries atUtc := by
  have hnone : added.filter (fun r => r.recordedAt ≤ atUtc) = [] :=
    List.filter_eq_nil_iff.2 fun r hr hle => absurd (of_decide_eq_true hle) (hlater r hr).not_ge
  rw [qualifying, qualifying, List.filter_append, hnone, List.append_nil]

end

/-- As-of replay picks the greatest event of each policy by recorded time and sequence number: on a
usable ledger, as of a time that is one in UTC. There is exactly one such event when any was
recorded by then. Further events that are recorded with later times do not change the answer. -/
theorem as_of_replay {path : Option P} {files : P → Option String} {start host : LedgerHost P}
    (hopen : openLedger ext path files true = .ok start)
    (hrun : Relation.ReflTransGen (RecordStep ext) start host) {atTime : PyDatetime} {micros : ℤ}
    (haware : atTime.instant? = some micros) (husable : host.ledger.usable = true)
    (hrange : minMicros ≤ micros ∧ micros ≤ maxMicros) :
    (∃ view, host.ledger.activePolicies (some atTime) = .ok view ∧
      IsViewAsOf host.ledger.entries micros view) ∧
    (∀ policyId, (∃ r ∈ host.ledger.entries, policyOf r = policyId ∧ r.recordedAt.micros ≤ micros) →
      ∃! r, GreatestBy host.ledger.entries micros policyId r) ∧
    ∀ later, Relation.ReflTransGen (RecordStep ext) host later → later.ledger.usable = true →
      (∀ r ∈ later.ledger.entries.drop host.ledger.entries.length, micros < r.recordedAt.micros) →
      later.ledger.activePolicies (some atTime) = host.ledger.activePolicies (some atTime) := by
  have hpairwise := (chained_of_recordStep hopen hrun).pairwise_position
  -- the time in UTC
  obtain ⟨atUtc, rfl⟩ : ∃ atUtc : DateTime, atUtc.micros = micros :=
    ⟨⟨micros, hrange.1, hrange.2⟩, rfl⟩
  have hanswer : ∀ later : LedgerHost P, later.ledger.usable = true →
      later.ledger.activePolicies (some atTime) =
        .ok (activeSnapshot (qualifying later.ledger.entries atUtc)) := by
    intro later hlater
    rw [PolicyDeploymentLedger.activePolicies_some hlater haware, DateTime.ofMicros?,
      dif_pos hrange]
  refine ⟨⟨_, hanswer host husable, isViewAsOf_qualifying hpairwise atUtc⟩, ?_, ?_⟩
  · rintro policyId ⟨r, hr, hpolicy, hby⟩
    have hsome : last policyOf (qualifying host.ledger.entries atUtc) policyId ≠ none := by
      intro hnone
      exact last_eq_none_iff.1 hnone r (mem_qualifying.2 ⟨hr, hby⟩) hpolicy
    obtain ⟨greatest, hgreatest⟩ := Option.ne_none_iff_exists'.1 hsome
    refine ⟨greatest, (greatestBy_iff hpairwise).2 hgreatest, fun r' hr' => ?_⟩
    have hlast := (greatestBy_iff hpairwise).1 hr'
    rw [hgreatest] at hlast
    exact (Option.some.inj hlast).symm
  · intro later hlater hlaterUsable hadded
    obtain ⟨added, hentries⟩ := prefix_of_recordStep hlater
    rw [← hentries, List.drop_left] at hadded
    rw [hanswer later hlaterUsable, hanswer host husable, ← hentries,
      qualifying_append_of_later hadded]

/-! ### Times that are none in UTC, and a ledger that could not store -/

theorem minMicros_le_maxMicros : minMicros ≤ maxMicros := by
  unfold minMicros maxMicros
  omega

/-- The last microsecond of the year 9999, an hour west of Greenwich. -/
def demoLateTime : PyDatetime :=
  ⟨⟨maxMicros, minMicros_le_maxMicros, le_rfl⟩, some (-3600000000)⟩

theorem greatestBy_newer {micros : ℤ} (h : newerActivation.recordedAt.micros ≤ micros) :
    GreatestBy [newerActivation] micros "p" newerActivation := by
  refine ⟨?_, rfl, ?_⟩
  · rw [List.mem_filter]
    exact ⟨List.mem_singleton.2 rfl, decide_eq_true h⟩
  · intro r hr _
    rw [List.mem_singleton.1 (List.mem_filter.1 hr).1]

/-- The host after a line could not be stored. -/
def demoFailed : LedgerHost String := ⟨⟨[], false⟩, some "deployments.jsonl", fun _ => none⟩

theorem recordStep_failed : RecordStep demoLedgerReads demoNewLedger demoFailed := by
  refine ⟨.str "policy-alpha", .str "v1", demoOptions, demoCallables,
    .failed none "No space left on device", ?_⟩
  have husable : demoNewLedger.ledger.usable = true := rfl
  have hpath : demoNewLedger.path = some "deployments.jsonl" := rfl
  have hseal : sealRecord demoLedgerReads demoNewLedger.ledger.entries (.str "policy-alpha")
      (.str "v1") demoOptions demoCallables = .ok (demoActivation demoMetadata) :=
    sealRecord_eq_ok_iff.2 seals_demo
  rw [stateAfter, recordActivation_of_usable husable, hseal]
  dsimp only
  rw [bind_apply, append_failed husable hpath]
  rfl

/-- As of a time whose UTC time is after the year 9999, and on a ledger that could not store a
record, there is no answer. -/
theorem as_of_replay_raises :
    (openLedger demoReplayReads none (fun _ => none) true = .ok (demoMemory []) ∧
      Relation.ReflTransGen (RecordStep demoReplayReads) (demoMemory [])
        (demoMemory [newerActivation]) ∧
      demoLateTime.instant? = some (maxMicros + 3600000000) ∧
      GreatestBy [newerActivation] (maxMicros + 3600000000) "p" newerActivation ∧
      newerActivation.eventType ≠ .deactivate ∧
      (demoMemory [newerActivation]).ledger.activePolicies (some demoLateTime) =
        .error (.raised (.overflowError "date value out of range"))) ∧
    openLedger demoLedgerReads (some "deployments.jsonl") (fun _ => none) true =
        .ok demoNewLedger ∧
      Relation.ReflTransGen (RecordStep demoLedgerReads) demoNewLedger demoFailed ∧
      demoFailed.ledger.activePolicies (some newerActivation.recordedAt.toPy) = .error
        (.ledger (.append "ledger is unusable after a previous append storage failure")) := by
  have haware : demoLateTime.instant? = some (maxMicros + 3600000000) := rfl
  refine ⟨⟨openLedger_memory, .single recordStep_newer, haware, greatestBy_newer (by decide),
    by decide, ?_⟩, rfl, .single recordStep_failed,
    PolicyDeploymentLedger.activePolicies_of_unusable rfl _⟩
  rw [PolicyDeploymentLedger.activePolicies_some rfl haware, DateTime.ofMicros?,
    dif_neg (by decide)]

/-- The view as of the later of two times holds the first record, which has that time, and so it
does after a third was recorded with a time after it. -/
theorem as_of_replay_demo : ∃ view,
    (demoMemory [newerActivation, olderActivation]).ledger.activePolicies
        (some newerActivation.recordedAt.toPy) = .ok view ∧
      view.get? "p" = some newerActivation ∧
      (demoMemory [newerActivation, olderActivation, latestActivation]).ledger.activePolicies
        (some newerActivation.recordedAt.toPy) = .ok view := by
  have hrun : Relation.ReflTransGen (RecordStep demoReplayReads) (demoMemory [])
      (demoMemory [newerActivation, olderActivation]) :=
    (Relation.ReflTransGen.single recordStep_newer).tail recordStep_older
  obtain ⟨⟨view, hview, hasOf⟩, -, hlater⟩ := as_of_replay openLedger_memory hrun
    (PyDatetime.instant?_toPy newerActivation.recordedAt) rfl
    ⟨newerActivation.recordedAt.lower, newerActivation.recordedAt.upper⟩
  have hgreatest : GreatestBy [newerActivation, olderActivation] newerActivation.recordedAt.micros
      "p" newerActivation := (greatestBy_iff (by decide)).2 last_asOf_newer
  refine ⟨view, hview, (hasOf "p").1 newerActivation hgreatest, ?_⟩
  rw [hlater _ (.single recordStep_latest) rfl (by decide), hview]

end Gco
