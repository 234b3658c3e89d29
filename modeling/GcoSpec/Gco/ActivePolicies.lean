import GcoSpec.Gco.LedgerReload
import GcoSpec.Library.Replay
import Mathlib.Data.String.Basic

/-!
# Active policies

`active_policies` replays the events of a ledger, in the order they were appended in. As of a time
it replays those recorded by then, in the order of `recorded_at`, and of the sequence numbers among
those recorded at one time.

* `get?_activeSnapshot`: a policy is active with the last of its events, unless that deactivates it.
* `last_qualifying_eq_some_iff`: as of a time the last is the greatest by time and sequence number.
* `active_policies_late_iff`: so as of a late enough time the view is the current one exactly when
  the two orders agree on the last event of each policy. They need not: an event may be recorded
  with an earlier time than the ones before it.
-/

namespace Gco

open Python HashChain Replay PolicyActivationRecord

/-! ### Views -/

/-- One step of `_active_snapshot`. -/
def applyEvent (active : Dict String PolicyActivationRecord) (record : PolicyActivationRecord) :
    Dict String PolicyActivationRecord :=
  if record.eventType = .deactivate then active.erase record.policyId.text
  else active.set record.policyId.text record

/-- `_active_snapshot`. -/
def activeSnapshot (records : List PolicyActivationRecord) : Dict String PolicyActivationRecord :=
  records.foldl applyEvent Dict.empty

/-- `(r.recorded_at, r.sequence, r.event_id)`. -/
def replayKey (r : PolicyActivationRecord) : DateTime ×ₗ ℕ ×ₗ String :=
  toLex (r.recordedAt, toLex (r.sequence, r.eventId.text))

/-- The events recorded by a time, as they are replayed. -/
def qualifying (entries : List PolicyActivationRecord) (atUtc : DateTime) :
    List PolicyActivationRecord :=
  (entries.filter fun r => r.recordedAt ≤ atUtc).insertionSort (RankLe replayKey)

namespace PolicyDeploymentLedger

/-- `active_policies(at=atTime)`. -/
def activePolicies (ledger : PolicyDeploymentLedger) (atTime : Option PyDatetime) :
    Except LedgerExc (Dict String PolicyActivationRecord) := do
  ledger.ensureUsable.mapError .ledger
  match atTime with
  | none => pure (activeSnapshot ledger.entries)
  | some atTime =>
      if atTime.utcoffset = none then
        .error (.raised (.valueError "at must be timezone-aware UTC"))
      else match atTime.toUtc? with
        | none => .error (.raised (.overflowError "date value out of range"))
        | some atUtc => pure (activeSnapshot (qualifying ledger.entries atUtc))

/-- Most recent event for a policy, or `None` if never recorded. -/
def latestForPolicy (ledger : PolicyDeploymentLedger) (policyId : String) :
    Except LedgerExc (Option PolicyActivationRecord) := do
  ledger.ensureUsable.mapError .ledger
  pure (ledger.entries.reverse.find? fun record => record.policyId.text = policyId)

end PolicyDeploymentLedger

/-- Two calls end alike: with dictionaries that compare equal, or with one exception. -/
def SameAnswer : Except LedgerExc (Dict String PolicyActivationRecord) →
    Except LedgerExc (Dict String PolicyActivationRecord) → Prop
  | .ok a, .ok b => ∀ policyId, Option.Rel Same (a.get? policyId) (b.get? policyId)
  | .error e, .error e' => e = e'
  | _, _ => False

/-! ### The last event of a policy -/

/-- The policy an event is about. -/
def policyOf (r : PolicyActivationRecord) : String := r.policyId.text

/-- The policy is active after the event. -/
def isLive (r : PolicyActivationRecord) : Bool := r.eventType ≠ .deactivate

/-- The order of time, and of the ledger among events recorded at one time. -/
def recordedRank (r : PolicyActivationRecord) : DateTime ×ₗ ℕ := toLex (r.recordedAt, r.sequence)

theorem get?_applyEvent (active : Dict String PolicyActivationRecord)
    (r : PolicyActivationRecord) : (applyEvent active r).get? =
      Function.update active.get? (policyOf r) (if isLive r then some r else none) := by
  funext policyId
  rw [Function.update_apply, applyEvent]
  by_cases hdead : r.eventType = .deactivate
  · have hlive : ¬isLive r = true := by simp [isLive, hdead]
    rw [if_pos hdead, if_neg hlive, Dict.get?_erase]
    rfl
  · have hlive : isLive r = true := by simp [isLive, hdead]
    rw [if_neg hdead, if_pos hlive, Dict.get?_set]
    rfl

/-- A snapshot is the replay of the events. -/
theorem get?_activeSnapshot_eq_replay (records : List PolicyActivationRecord) :
    (activeSnapshot records).get? = replay policyOf isLive records := by
  induction records using List.reverseRecOn with
  | nil => rfl
  | append_singleton records r ih =>
    have hstep : activeSnapshot (records ++ [r]) = applyEvent (activeSnapshot records) r := by
      rw [activeSnapshot, List.foldl_append]
      rfl
    rw [hstep, replay_concat, get?_applyEvent, ih]

/-- A policy is active with its last event, unless that deactivates it. -/
theorem get?_activeSnapshot (records : List PolicyActivationRecord) (policyId : String) :
    (activeSnapshot records).get? policyId = (last policyOf records policyId).filter isLive := by
  rw [get?_activeSnapshot_eq_replay, replay_eq]

section

variable {entries : List PolicyActivationRecord}

theorem nodup_sequence (h : entries.Pairwise fun a b => a.sequence < b.sequence) :
    (entries.map (·.sequence)).Nodup := by
  rw [List.Nodup, List.pairwise_map]
  exact h.imp fun hab => Nat.ne_of_lt hab

/-- Events with one sequence number are one event. -/
theorem eq_of_sequence_eq (h : (entries.map (·.sequence)).Nodup) {a b : PolicyActivationRecord}
    (ha : a ∈ entries) (hb : b ∈ entries) (hab : a.sequence = b.sequence) : a = b :=
  List.inj_on_of_nodup_map h ha hb hab

theorem nodup_replayKey (h : (entries.map (·.sequence)).Nodup) :
    (entries.map replayKey).Nodup := by
  have hsequence : entries.map (·.sequence) =
      (entries.map replayKey).map fun key => (ofLex (ofLex key).2).1 := by
    rw [List.map_map]
    rfl
  rw [hsequence] at h
  exact h.of_map

/-- The event ids break no tie: sequence numbers do. -/
theorem replayKey_le_iff (h : (entries.map (·.sequence)).Nodup) {a b : PolicyActivationRecord}
    (ha : a ∈ entries) (hb : b ∈ entries) :
    replayKey a ≤ replayKey b ↔ recordedRank a ≤ recordedRank b := by
  rw [replayKey, replayKey, recordedRank, recordedRank, Prod.Lex.toLex_le_toLex,
    Prod.Lex.toLex_le_toLex, Prod.Lex.toLex_le_toLex]
  refine or_congr_right (and_congr_right fun _ => ?_)
  dsimp only
  constructor
  · rintro (hlt | ⟨heq, -⟩)
    · exact hlt.le
    · exact heq.le
  · intro hle
    rcases hle.lt_or_eq with hlt | heq
    · exact .inl hlt
    · rw [eq_of_sequence_eq h ha hb heq]
      exact .inr ⟨rfl, le_rfl⟩

theorem mem_qualifying {atUtc : DateTime} {r : PolicyActivationRecord} :
    r ∈ qualifying entries atUtc ↔ r ∈ entries ∧ r.recordedAt ≤ atUtc := by
  rw [qualifying, (List.perm_insertionSort (RankLe replayKey) _).mem_iff, List.mem_filter,
    decide_eq_true_eq]

/-- As of a time, the last event of a policy is the greatest by time and sequence number. -/
theorem last_qualifying_eq_some_iff (h : (entries.map (·.sequence)).Nodup) {atUtc : DateTime}
    {policyId : String} {r : PolicyActivationRecord} :
    last policyOf (qualifying entries atUtc) policyId = some r ↔
      Greatest policyOf recordedRank (entries.filter fun r => r.recordedAt ≤ atUtc) policyId r := by
  have hfiltered : ((entries.filter fun r => r.recordedAt ≤ atUtc).map (·.sequence)).Nodup :=
    h.sublist (List.filter_sublist.map _)
  rw [qualifying, last_sort_eq_some_iff (nodup_replayKey hfiltered)]
  constructor
  · intro hgreatest
    exact hgreatest.of_rank fun a ha b hb => (replayKey_le_iff hfiltered ha hb).1
  · intro hgreatest
    exact hgreatest.of_rank fun a ha b hb => (replayKey_le_iff hfiltered ha hb).2

end

/-! ### The two orders -/

section

variable {entries : List PolicyActivationRecord}

theorem rel_filter_isLive_iff {a b : PolicyActivationRecord} (hsame : a.Same b → b = a) :
    Option.Rel Same ((some a).filter isLive) ((some b).filter isLive) ↔
      b = a ∨ b.eventType = .deactivate ∧ a.eventType = .deactivate := by
  by_cases ha : a.eventType = .deactivate
  · by_cases hb : b.eventType = .deactivate
    · simp [Option.filter, isLive, ha, hb]
    · have hne : b ≠ a := by
        rintro rfl
        exact hb ha
      simp only [Option.filter, isLive, ha, hb, hne, ne_eq, not_true_eq_false, not_false_eq_true,
        decide_true, decide_false, false_and, or_self, iff_false]
      rintro ⟨⟩
  · by_cases hb : b.eventType = .deactivate
    · have hne : b ≠ a := by
        rintro rfl
        exact ha hb
      simp only [Option.filter, isLive, ha, hb, hne, ne_eq, not_true_eq_false, not_false_eq_true,
        decide_true, decide_false, and_false, or_self, iff_false]
      rintro ⟨⟩
    · simp only [Option.filter, isLive, ha, hb, ne_eq, not_false_eq_true, decide_true, if_true,
        and_self, or_false]
      constructor
      · rintro ⟨h⟩
        exact hsame h
      · rintro rfl
        exact .some (Same.refl b)

/-- As of a time by which every event is recorded, all of them qualify. -/
theorem last_qualifying_of_late (h : (entries.map (·.sequence)).Nodup) {atUtc : DateTime}
    (hlate : ∀ r ∈ entries, r.recordedAt ≤ atUtc) {policyId : String}
    {r : PolicyActivationRecord} :
    last policyOf (qualifying entries atUtc) policyId = some r ↔
      Greatest policyOf recordedRank entries policyId r := by
  have hall : entries.filter (fun r => r.recordedAt ≤ atUtc) = entries :=
    List.filter_eq_self.2 fun r hr => decide_eq_true (hlate r hr)
  rw [last_qualifying_eq_some_iff h, hall]

theorem last_qualifying_eq_none_iff {atUtc : DateTime}
    (hlate : ∀ r ∈ entries, r.recordedAt ≤ atUtc) {policyId : String} :
    last policyOf (qualifying entries atUtc) policyId = none ↔
      last policyOf entries policyId = none := by
  rw [last_eq_none_iff, last_eq_none_iff]
  refine forall_congr' fun r => imp_congr_left ?_
  rw [mem_qualifying]
  exact and_iff_left_of_imp (hlate r)

/-- As of a time by which every event is recorded, a policy has the current answer exactly when the
two orders agree on its last event, or both end with it deactivated. -/
theorem rel_get?_qualifying_iff
    (h : entries.Pairwise fun a b => a.sequence < b.sequence) {atUtc : DateTime}
    (hlate : ∀ r ∈ entries, r.recordedAt ≤ atUtc) (policyId : String) :
    Option.Rel Same ((activeSnapshot (qualifying entries atUtc)).get? policyId)
        ((activeSnapshot entries).get? policyId) ↔
      ∀ latest greatest, last policyOf entries policyId = some latest →
        Greatest policyOf recordedRank entries policyId greatest →
          latest = greatest ∨
            latest.eventType = .deactivate ∧ greatest.eventType = .deactivate := by
  have hnodup := nodup_sequence h
  simp only [← last_qualifying_of_late hnodup hlate]
  rw [get?_activeSnapshot, get?_activeSnapshot]
  cases hlatest : last policyOf entries policyId with
  | none =>
    rw [(last_qualifying_eq_none_iff hlate).2 hlatest]
    constructor
    · rintro _ latest greatest ⟨⟩
    · intro _
      exact .none
  | some latest =>
    cases hgreatest : last policyOf (qualifying entries atUtc) policyId with
    | none =>
      rw [(last_qualifying_eq_none_iff hlate).1 hgreatest] at hlatest
      cases hlatest
    | some greatest =>
      -- both are entries, which their sequence numbers tell apart
      have hmem := ((last_eq_some_iff h).1 hlatest).mem
      have hmem' := ((last_qualifying_of_late hnodup hlate).1 hgreatest).mem
      rw [rel_filter_isLive_iff fun hsame =>
        (eq_of_sequence_eq hnodup hmem' hmem hsame.sequence).symm]
      constructor
      · rintro hagree _ _ ⟨⟩ ⟨⟩
        exact hagree
      · intro hagree
        exact hagree latest greatest rfl rfl

end

/-! ### Calls -/

namespace PolicyDeploymentLedger

variable {ledger : PolicyDeploymentLedger}

theorem activePolicies_of_unusable (h : ledger.usable = false) (atTime : Option PyDatetime) :
    ledger.activePolicies atTime = .error
      (.ledger (.append "ledger is unusable after a previous append storage failure")) := by
  unfold activePolicies ensureUsable
  rw [h]
  rfl

theorem activePolicies_none (h : ledger.usable = true) :
    ledger.activePolicies none = .ok (activeSnapshot ledger.entries) := by
  unfold activePolicies
  rw [ensureUsable_eq_ok_iff.2 h]
  rfl

theorem activePolicies_some (h : ledger.usable = true) {atTime : PyDatetime} {micros : ℤ}
    (haware : atTime.instant? = some micros) :
    ledger.activePolicies (some atTime) =
      match DateTime.ofMicros? micros with
      | none => .error (.raised (.overflowError "date value out of range"))
      | some atUtc => .ok (activeSnapshot (qualifying ledger.entries atUtc)) := by
  have hoffset : atTime.utcoffset ≠ none := by
    intro hnaive
    rw [PyDatetime.instant?, hnaive] at haware
    cases haware
  unfold activePolicies
  rw [ensureUsable_eq_ok_iff.2 h]
  show (if atTime.utcoffset = none then _ else _) = _
  rw [if_neg hoffset, PyDatetime.toUtc?, haware]
  rfl

theorem activePolicies_toPy (h : ledger.usable = true) (atUtc : DateTime) :
    ledger.activePolicies (some atUtc.toPy) =
      .ok (activeSnapshot (qualifying ledger.entries atUtc)) := by
  rw [activePolicies_some h (PyDatetime.instant?_toPy atUtc), DateTime.ofMicros?,
    dif_pos ⟨atUtc.lower, atUtc.upper⟩]

theorem latestForPolicy_eq (h : ledger.usable = true) (policyId : String) :
    ledger.latestForPolicy policyId = .ok (last policyOf ledger.entries policyId) := by
  unfold latestForPolicy
  rw [ensureUsable_eq_ok_iff.2 h]
  rfl

end PolicyDeploymentLedger

/-- The event a policy has last in the ledger and the one it has last in time are one event, or both
deactivate it. -/
def LastAgree (ledger : PolicyDeploymentLedger) (policyId : String) : Prop :=
  ∀ latest greatest, ledger.latestForPolicy policyId = .ok (some latest) →
    Greatest policyOf recordedRank ledger.entries policyId greatest →
      latest = greatest ∨ latest.eventType = .deactivate ∧ greatest.eventType = .deactivate

variable {ext : LedgerExternals} {P : Type} [DecidableEq P]

/-- As of a time that no event was recorded after, `active_policies` answers as it does now exactly
when that time is one in UTC and the two orders agree on the last event of each policy. -/
theorem active_policies_late_iff {path : Option P} {files : P → Option String}
    {start host : LedgerHost P} (hopen : openLedger ext path files true = .ok start)
    (hrun : Relation.ReflTransGen (RecordStep ext) start host) {atTime : PyDatetime} {micros : ℤ}
    (haware : atTime.instant? = some micros)
    (hlate : ∀ r ∈ host.ledger.entries, r.recordedAt.micros ≤ micros) :
    SameAnswer (host.ledger.activePolicies (some atTime)) (host.ledger.activePolicies none) ↔
      (host.ledger.usable = true → (minMicros ≤ micros ∧ micros ≤ maxMicros) ∧
        ∀ policyId, LastAgree host.ledger policyId) := by
  have hpairwise := (chained_of_recordStep hopen hrun).pairwise_position
  by_cases husable : host.ledger.usable = true
  · rw [PolicyDeploymentLedger.activePolicies_none husable,
      PolicyDeploymentLedger.activePolicies_some husable haware]
    by_cases hrange : minMicros ≤ micros ∧ micros ≤ maxMicros
    · rw [DateTime.ofMicros?, dif_pos hrange]
      simp only [husable, hrange, and_self, true_and, forall_const, LastAgree,
        PolicyDeploymentLedger.latestForPolicy_eq husable, Except.ok.injEq]
      exact forall_congr' fun policyId => rel_get?_qualifying_iff hpairwise hlate policyId
    · rw [DateTime.ofMicros?, dif_neg hrange]
      simp only [husable, hrange, false_and, forall_const, iff_false]
      exact id
  · rw [Bool.not_eq_true] at husable
    rw [PolicyDeploymentLedger.activePolicies_of_unusable husable,
      PolicyDeploymentLedger.activePolicies_of_unusable husable]
    simp [SameAnswer, husable]

/-! ### The second of two deployments is recorded with an earlier time -/

/-- A ledger in memory. -/
def demoMemory (entries : List PolicyActivationRecord) : LedgerHost String :=
  ⟨⟨entries, true⟩, none, fun _ => none⟩

theorem openLedger_memory :
    openLedger demoReplayReads none (fun _ => none) true = .ok (demoMemory []) := rfl

theorem recordStep_newer : RecordStep demoReplayReads (demoMemory [])
    (demoMemory [newerActivation]) :=
  RecordStep.sealed rfl seals_newer

theorem recordStep_older : RecordStep demoReplayReads (demoMemory [newerActivation])
    (demoMemory [newerActivation, olderActivation]) :=
  RecordStep.sealed rfl seals_older

theorem older_lt_newer : olderActivation.recordedAt < newerActivation.recordedAt := by decide

theorem last_asOf_newer : last policyOf (qualifying [newerActivation, olderActivation]
    newerActivation.recordedAt) "p" = some newerActivation := by
  have hlate : ∀ r ∈ [newerActivation, olderActivation],
      r.recordedAt ≤ newerActivation.recordedAt := by
    simp [older_lt_newer.le]
  rw [last_qualifying_of_late (by decide) hlate]
  refine ⟨by simp, rfl, fun r hr _ => ?_⟩
  simp only [List.mem_cons, List.not_mem_nil, or_false] at hr
  rcases hr with rfl | rfl
  · exact le_rfl
  · exact Prod.Lex.toLex_le_toLex.2 (.inl older_lt_newer)

theorem get?_asOf_newer : (activeSnapshot (qualifying [newerActivation, olderActivation]
    newerActivation.recordedAt)).get? "p" = some newerActivation := by
  rw [get?_activeSnapshot, last_asOf_newer]
  rfl

theorem get?_current_older :
    (activeSnapshot [newerActivation, olderActivation]).get? "p" = some olderActivation := by
  have hlast : last policyOf ([newerActivation] ++ [olderActivation]) "p" =
      some olderActivation := by
    have hpolicy : policyOf olderActivation = "p" := rfl
    rw [last_concat, if_pos hpolicy]
  rw [get?_activeSnapshot]
  show (last policyOf ([newerActivation] ++ [olderActivation]) "p").filter isLive = _
  rw [hlast]
  rfl

/-- As of the later of the two times the policy is active with the record of that time, and now with
the one that was appended last. -/
theorem active_policies_late_older :
    openLedger demoReplayReads none (fun _ => none) true = .ok (demoMemory []) ∧
      Relation.ReflTransGen (RecordStep demoReplayReads) (demoMemory [])
        (demoMemory [newerActivation, olderActivation]) ∧
      (∀ r ∈ [newerActivation, olderActivation], r.recordedAt ≤ newerActivation.recordedAt) ∧
      ∃ view current,
        (demoMemory [newerActivation, olderActivation]).ledger.activePolicies
          (some newerActivation.recordedAt.toPy) = .ok view ∧
        (demoMemory [newerActivation, olderActivation]).ledger.activePolicies none = .ok current ∧
        view.get? "p" = some newerActivation ∧ current.get? "p" = some olderActivation ∧
        ¬SameAnswer (.ok view) (.ok current) := by
  refine ⟨openLedger_memory, (Relation.ReflTransGen.single recordStep_newer).tail recordStep_older,
    by simp [older_lt_newer.le], _, _, PolicyDeploymentLedger.activePolicies_toPy rfl _,
    PolicyDeploymentLedger.activePolicies_none rfl, get?_asOf_newer, get?_current_older, ?_⟩
  intro hsame
  have hp : Option.Rel Same (some newerActivation) (some olderActivation) := by
    rw [← get?_asOf_newer, ← get?_current_older]
    exact hsame "p"
  cases hp with
  | some h => exact absurd h.sequence (by decide)

theorem recordStep_latest : RecordStep demoReplayReads
    (demoMemory [newerActivation, olderActivation])
    (demoMemory [newerActivation, olderActivation, latestActivation]) :=
  RecordStep.sealed rfl seals_latest

theorem recordStep_other : RecordStep demoReplayReads
    (demoMemory [newerActivation, olderActivation, latestActivation])
    (demoMemory replayRecords) :=
  RecordStep.sealed rfl seals_other

theorem run_replayRecords : Relation.ReflTransGen (RecordStep demoReplayReads) (demoMemory [])
    (demoMemory replayRecords) :=
  (((Relation.ReflTransGen.single recordStep_newer).tail recordStep_older).tail
    recordStep_latest).tail recordStep_other

/-- After two more records, the last of which is of another policy and of the earlier time, the
views agree again. -/
theorem active_policies_late_demo :
    SameAnswer ((demoMemory replayRecords).ledger.activePolicies
        (some latestActivation.recordedAt.toPy))
      ((demoMemory replayRecords).ledger.activePolicies none) := by
  have hlate : ∀ r ∈ replayRecords,
      r.recordedAt.micros ≤ latestActivation.recordedAt.micros := by decide
  refine (active_policies_late_iff openLedger_memory run_replayRecords
    (PyDatetime.instant?_toPy latestActivation.recordedAt) hlate).2 fun _ =>
      ⟨⟨latestActivation.recordedAt.lower, latestActivation.recordedAt.upper⟩, ?_⟩
  intro policyId latest greatest hlatest hgreatest
  left
  have hpairwise : replayRecords.Pairwise fun a b => a.sequence < b.sequence := by decide
  rw [PolicyDeploymentLedger.latestForPolicy_eq rfl, Except.ok.injEq] at hlatest
  obtain ⟨hmem, hpolicy, hposition⟩ := (last_eq_some_iff hpairwise).1 hlatest
  obtain ⟨hmem', hpolicy', hrank⟩ := hgreatest
  by_cases hp : policyId = policyOf latestActivation
  · -- the third record is the last of its policy, by position and by time
    have hbefore : ∀ r ∈ replayRecords, policyOf r = policyOf latestActivation →
        r.sequence < latestActivation.sequence ∧ r.recordedAt < latestActivation.recordedAt ∨
          r = latestActivation := by
      intro r hr
      simp only [replayRecords, List.mem_cons, List.not_mem_nil, or_false] at hr
      rcases hr with rfl | rfl | rfl | rfl
      · exact fun _ => .inl (by decide)
      · exact fun _ => .inl (by decide)
      · exact fun _ => .inr rfl
      · exact fun hpolicy => absurd hpolicy (by decide)
    have hmemLatest : latestActivation ∈ replayRecords := by simp [replayRecords]
    have hlast := (hbefore latest hmem (hpolicy.trans hp)).resolve_left fun h =>
      absurd (hposition latestActivation hmemLatest hp.symm) h.1.not_ge
    have hgreatest := (hbefore greatest hmem' (hpolicy'.trans hp)).resolve_left fun h =>
      absurd (hrank latestActivation hmemLatest hp.symm)
        (Prod.Lex.toLex_lt_toLex.2 (.inl h.2)).not_ge
    rw [hlast, hgreatest]
  · -- the other policy has one record
    have hother : ∀ r ∈ replayRecords, policyOf r ≠ policyOf latestActivation →
        r = otherActivation := by
      intro r hr
      simp only [replayRecords, List.mem_cons, List.not_mem_nil, or_false] at hr
      rcases hr with rfl | rfl | rfl | rfl
      · exact fun hne => absurd rfl hne
      · exact fun hne => absurd rfl hne
      · exact fun hne => absurd rfl hne
      · exact fun _ => rfl
    rw [hother latest hmem (hpolicy ▸ hp), hother greatest hmem' (hpolicy' ▸ hp)]

end Gco
