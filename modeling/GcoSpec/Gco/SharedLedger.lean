import GcoSpec.Gco.LedgerRuns
import GcoSpec.Library.SharedChain

/-!
# Several ledgers on one file

Nothing keeps two processes from opening a ledger on the same path. Each holds the records it read
and those it appended itself, and each appends its lines to the one file.

Nothing is lost: in every interleaving the file holds the lines of all records, in the order in
which they were appended. And nothing is merged silently: the file is accepted with verification
exactly if every record was appended by a ledger that held all records before it
(`shared_file_accepted_iff`). The records of a stale ledger repeat sequence numbers.
-/

namespace Gco

open Python Python.Json HashChain PolicyActivationRecord

variable {ι P : Type} [DecidableEq ι] [DecidableEq P]

/-- The ledgers that are open, and the files. -/
structure SharedLedgers (ι P : Type) where
  ledgers : ι → Option PolicyDeploymentLedger
  files : P → Option String

/-- What a call of the `i`-th ledger leaves. -/
def SharedLedgers.after (s : SharedLedgers ι P) (i : ι) (host : LedgerHost P) :
    SharedLedgers ι P :=
  ⟨Function.update s.ledgers i (some host.ledger), host.files⟩

/-- A ledger is opened on the path, anew or for the first time, or a call of `record_activation` on
an open one returns or raises, when the storage raises nothing. -/
inductive SharedStep (ext : LedgerExternals) (path : P) :
    SharedLedgers ι P → List (Event ι PolicyActivationRecord) → SharedLedgers ι P → Prop
  | opened {s : SharedLedgers ι P} {host : LedgerHost P} (i : ι) (verify : Bool)
    (hopen : openLedger ext (some path) s.files verify = .ok host) :
    SharedStep ext path s [.opened i] (s.after i host)
  | notOpened {s : SharedLedgers ι P} {e : LedgerError} {verify : Bool}
    (hopen : openLedger ext (some path) s.files verify = .error e) : SharedStep ext path s [] s
  | recorded {s : SharedLedgers ι P} {i : ι} {ledger : PolicyDeploymentLedger}
    {host : LedgerHost P} {policyId interventionVersion : PyVal} {options : ActivationOptions}
    {callables : LedgerCallables} {r : PolicyActivationRecord} (hledger : s.ledgers i = some ledger)
    (hcall : recordActivation ext policyId interventionVersion options callables .stored
      ⟨ledger, some path, s.files⟩ = .ok r host) :
    SharedStep ext path s [.appended i r] (s.after i host)
  | rejected {s : SharedLedgers ι P} {i : ι} {ledger : PolicyDeploymentLedger}
    {host : LedgerHost P} {policyId interventionVersion : PyVal} {options : ActivationOptions}
    {callables : LedgerCallables} {e : LedgerExc} (hledger : s.ledgers i = some ledger)
    (hcall : recordActivation ext policyId interventionVersion options callables .stored
      ⟨ledger, some path, s.files⟩ = .error e host) :
    SharedStep ext path s [] (s.after i host)

omit [DecidableEq P] in
@[simp] theorem SharedLedgers.ledgers_after_self (s : SharedLedgers ι P) (i : ι)
    (host : LedgerHost P) : (s.after i host).ledgers i = some host.ledger :=
  Function.update_self ..

omit [DecidableEq P] in
@[simp] theorem SharedLedgers.ledgers_after_of_ne (s : SharedLedgers ι P) {i j : ι} (h : j ≠ i)
    (host : LedgerHost P) : (s.after i host).ledgers j = s.ledgers j :=
  Function.update_of_ne h ..

/-! ### A file of whole lines -/

section

variable {ext : LedgerExternals} {path : P} {files : P → Option String}
  {entries : List PolicyActivationRecord}

theorem forall₂_reloaded_same (entries : List PolicyActivationRecord) :
    List.Forall₂ Same (entries.map (·.reloaded)) entries :=
  (forall₂_same_reloaded entries).flip.imp fun _ _ h => h.symm

theorem chained_reloaded_iff {env : Externals} :
    Chained (links env) 0 genesisPrevHash (entries.map (·.reloaded)) ↔
      Chained (links env) 0 genesisPrevHash entries :=
  ⟨fun h => h.congr links_of_same (forall₂_reloaded_same entries),
    fun h => h.congr links_of_same (forall₂_same_reloaded entries)⟩

omit [DecidableEq P] in
/-- It is read as its records, if they are not verified or form a chain. -/
theorem openLedger_linesOf (hext : ext.ReadsBack)
    (hcontents : ((files path).getD "").toList = linesOf ext.toExternals entries) (verify : Bool) :
    (Chained (links ext.toExternals) 0 genesisPrevHash entries ∨ verify = false →
      openLedger ext (some path) files verify =
        .ok ⟨⟨entries.map (·.reloaded), true⟩, some path, files⟩) ∧
      (¬Chained (links ext.toExternals) 0 genesisPrevHash entries → ∃ text,
        openLedger ext (some path) files true = .error (.integrity text)) := by
  by_cases hchained : Chained (links ext.toExternals) 0 genesisPrevHash entries
  · exact ⟨fun _ => fromJsonl_linesOf hext hchained hcontents verify, absurd hchained⟩
  · -- the records are read, and then rejected
    cases hfile : files path with
    | none =>
      rw [hfile, Option.getD_none, String.toList_empty] at hcontents
      rw [eq_nil_of_linesOf_eq_nil hcontents.symm] at hchained
      exact absurd trivial hchained
    | some contents =>
      rw [hfile, Option.getD_some] at hcontents
      have hload : loadJsonl ext contents = .ok (entries.map (·.reloaded)) := by
        rw [← String.ofList_toList (s := contents), hcontents, loadJsonl_linesOf hext]
      refine ⟨?_, fun _ => ?_⟩
      · rintro (h | rfl)
        · exact absurd h hchained
        · rw [openLedger, Option.bind_some, hfile]
          dsimp only
          rw [hload]
          rfl
      · cases hverify : PolicyDeploymentLedger.verify ext.toExternals
            ⟨entries.map (·.reloaded), true⟩ none with
        | ok u =>
          obtain ⟨-, h, -⟩ := PolicyDeploymentLedger.verify_eq_ok_iff.1 hverify
          exact absurd (chained_reloaded_iff.1 h) hchained
        | error e =>
          obtain ⟨text, rfl⟩ := PolicyDeploymentLedger.verify_integrity rfl hverify
          refine ⟨text, ?_⟩
          rw [openLedger, Option.bind_some, hfile]
          dsimp only
          rw [hload]
          show (PolicyDeploymentLedger.verify ext.toExternals ⟨entries.map reloaded, true⟩
            none).bind _ = _
          rw [hverify]
          rfl

end

/-! ### The invariant -/

/-- The file holds the lines of all records, the open ledgers are usable and hold what their writers
have seen, and the records form a chain as long as all writers were in sync. -/
structure SharedFaithful (ext : LedgerExternals) (path : P)
    (history : List (Event ι PolicyActivationRecord)) (s : SharedLedgers ι P) : Prop where
  contents : ((s.files path).getD "").toList = linesOf ext.toExternals (log history)
  usable : ∀ i ledger, s.ledgers i = some ledger → ledger.usable = true
  views : Views Same history fun i => (s.ledgers i).map (·.entries)
  chained : Chained (links ext.toExternals) 0 genesisPrevHash (log history) ↔
    InSync history

/-- A sealed record goes on with the records of its ledger. -/
theorem Seals.follows {ext : LedgerExternals} {entries : List PolicyActivationRecord}
    {policyId interventionVersion : PyVal} {options : ActivationOptions}
    {callables : LedgerCallables} {r : PolicyActivationRecord}
    (h : Seals ext entries policyId interventionVersion options callables r) :
    (links ext.toExternals).Follows genesisPrevHash entries r :=
  ⟨h.sequence, h.prevEntryHash, h.intact⟩

omit [DecidableEq P] in
/-- The views of the ledgers after a call of one. -/
theorem views_after (s : SharedLedgers ι P) (i : ι) (host : LedgerHost P) :
    (fun j => ((s.after i host).ledgers j).map (·.entries)) =
      Function.update (fun j => (s.ledgers j).map (·.entries)) i (some host.ledger.entries) := by
  funext j
  by_cases hj : j = i
  · subst hj
    rw [Function.update_self, SharedLedgers.ledgers_after_self]
    rfl
  · rw [Function.update_of_ne hj, SharedLedgers.ledgers_after_of_ne s hj]

section

variable {ext : LedgerExternals} {path : P} {history : List (Event ι PolicyActivationRecord)}
  {s s' : SharedLedgers ι P}

omit [DecidableEq P] in
theorem usable_after (h : ∀ i ledger, s.ledgers i = some ledger → ledger.usable = true) {i : ι}
    {host : LedgerHost P} (hhost : host.ledger.usable = true) :
    ∀ j ledger, (s.after i host).ledgers j = some ledger → ledger.usable = true := by
  intro j ledger hj
  by_cases hij : j = i
  · subst hij
    rw [SharedLedgers.ledgers_after_self, Option.some.injEq] at hj
    exact hj ▸ hhost
  · rw [SharedLedgers.ledgers_after_of_ne s hij] at hj
    exact h j ledger hj

omit [DecidableEq P] in
/-- Opening changes neither the file nor what the other ledgers hold. -/
theorem SharedFaithful.opened (hext : ext.ReadsBack) (h : SharedFaithful ext path history s)
    {host : LedgerHost P} {verify : Bool} (i : ι)
    (hopen : openLedger ext (some path) s.files verify = .ok host) :
    SharedFaithful ext path (history ++ [.opened i]) (s.after i host) := by
  obtain ⟨hread, hrejected⟩ := openLedger_linesOf hext h.contents verify
  have hhost : host = ⟨⟨(log history).map (·.reloaded), true⟩, some path, s.files⟩ := by
    by_cases hchained :
        Chained (links ext.toExternals) 0 genesisPrevHash (log history)
    · exact Except.ok.inj (hopen.symm.trans (hread (.inl hchained)))
    · cases verify with
      | false => exact Except.ok.inj (hopen.symm.trans (hread (.inr rfl)))
      | true =>
        obtain ⟨text, htext⟩ := hrejected hchained
        rw [htext] at hopen
        cases hopen
  subst hhost
  refine ⟨?_, usable_after h.usable rfl, ?_, ?_⟩
  · rw [log_concat_opened]
    exact h.contents
  · rw [views_after]
    exact h.views.opened (forall₂_reloaded_same _) i
  · rw [log_concat_opened, inSync_concat_opened]
    exact h.chained

/-- What a ledger appends goes into the file, and continues the chain if it was up to date. -/
theorem SharedFaithful.recorded (h : SharedFaithful ext path history s) {i : ι}
    {ledger : PolicyDeploymentLedger} {host : LedgerHost P}
    {policyId interventionVersion : PyVal} {options : ActivationOptions}
    {callables : LedgerCallables} {r : PolicyActivationRecord} (hledger : s.ledgers i = some ledger)
    (hcall : recordActivation ext policyId interventionVersion options callables .stored
      ⟨ledger, some path, s.files⟩ = .ok r host) :
    SharedFaithful ext path (history ++ [.appended i r]) (s.after i host) := by
  have husable : (⟨ledger, some path, s.files⟩ : LedgerHost P).ledger.usable = true :=
    h.usable i ledger hledger
  obtain ⟨hseals, rfl⟩ := of_recordActivation_stored husable hcall
  have hview : (s.ledgers i).map (·.entries) = some ledger.entries := by rw [hledger]; rfl
  refine ⟨?_, usable_after h.usable husable, ?_, ?_⟩
  · rw [log_concat_appended, linesOf_concat, ← h.contents]
    simp [SharedLedgers.after, LedgerHost.appended, appendText]
  · rw [views_after]
    exact h.views.appended hview (Same.refl r)
  · rw [log_concat_appended, inSync_concat_appended, ← h.chained]
    exact h.views.chained_log_concat_iff links_of_same hview hseals.follows

/-- A call that is rejected leaves everything as it is. -/
theorem after_of_rejected (h : ∀ i ledger, s.ledgers i = some ledger → ledger.usable = true)
    {i : ι} {ledger : PolicyDeploymentLedger} {host : LedgerHost P}
    {policyId interventionVersion : PyVal} {options : ActivationOptions}
    {callables : LedgerCallables} {e : LedgerExc} (hledger : s.ledgers i = some ledger)
    (hcall : recordActivation ext policyId interventionVersion options callables .stored
      ⟨ledger, some path, s.files⟩ = .error e host) : s.after i host = s := by
  rw [recordActivation_stored (h i ledger hledger)] at hcall
  cases hseal : sealRecord ext ledger.entries policyId interventionVersion options callables with
  | ok r =>
    rw [hseal] at hcall
    cases hcall
  | error e' =>
    rw [hseal] at hcall
    cases hcall
    rw [SharedLedgers.after, ← hledger, Function.update_eq_self]

theorem SharedFaithful.step (hext : ext.ReadsBack) (h : SharedFaithful ext path history s)
    {events : List (Event ι PolicyActivationRecord)} (hstep : SharedStep ext path s events s') :
    SharedFaithful ext path (history ++ events) s' := by
  cases hstep with
  | opened i verify hopen => exact h.opened hext i hopen
  | notOpened hopen => rwa [List.append_nil]
  | recorded hledger hcall => exact h.recorded hledger hcall
  | rejected hledger hcall => rwa [List.append_nil, after_of_rejected h.usable hledger hcall]

end

/-- Nothing is lost, and nothing is merged silently. From a path without a file, after any
interleaving of openings and of calls of `record_activation` of any number of ledgers, the file
holds the lines of all records in the order of the appends, and is read back as these without
verification; with verification it is accepted exactly if every record was appended by a ledger that
held all records before it, and rejected with `LedgerIntegrityError` otherwise. -/
theorem shared_file_accepted_iff (ext : LedgerExternals) (hext : ext.ReadsBack) (path : P)
    (files : P → Option String) (habsent : files path = none) (s : SharedLedgers ι P)
    (steps : List (List (Event ι PolicyActivationRecord)))
    (hrun : Runs.Run (SharedStep ext path) ⟨fun _ => none, files⟩ steps s) :
    ((s.files path).getD "").toList = linesOf ext.toExternals (log steps.flatten) ∧
      (∃ host, fromJsonl ext path s.files false = .ok host ∧
        List.Forall₂ Same (log steps.flatten) host.ledger.entries) ∧
      ((∃ host, fromJsonl ext path s.files true = .ok host) ↔ InSync steps.flatten) ∧
      (¬InSync steps.flatten → ∃ text,
        fromJsonl ext path s.files true = .error (.integrity text)) := by
  have hinit : SharedFaithful ext path ([] : List (Event ι PolicyActivationRecord))
      ⟨fun _ => none, files⟩ :=
    ⟨by simp [habsent, log, linesOf], by simp, .nil, iff_of_true trivial inSync_nil⟩
  have h : SharedFaithful ext path steps.flatten s := by
    have hrecords : SharedFaithful ext path ([] ++ steps.flatMap id) s :=
      hrun.records (fun h hstep => h.step hext hstep) hinit
    rwa [List.nil_append, List.flatMap_id] at hrecords
  obtain ⟨hread, hrejected⟩ := openLedger_linesOf hext h.contents true
  refine ⟨h.contents, ⟨_, (openLedger_linesOf hext h.contents false).1 (.inr rfl),
    forall₂_same_reloaded _⟩, ?_, fun hstale => hrejected (h.chained.not.2 hstale)⟩
  constructor
  · rintro ⟨host, hopen⟩
    by_contra hstale
    obtain ⟨text, htext⟩ := hrejected (h.chained.not.2 hstale)
    rw [fromJsonl, htext] at hopen
    cases hopen
  · intro hsync
    exact ⟨_, hread (.inl (h.chained.2 hsync))⟩

/-! ### Forks -/

/-- Ledgers fork at most once. Without collisions, two ledgers that verify hold the same records up
to a place, and after it no two with one hash; and one that has anywhere the head hash of the other
starts with all of its records. -/
theorem verified_ledgers_fork_once (env : Externals) (hsha256 : Function.Injective env.sha256)
    (a b : PolicyDeploymentLedger) (ha : a.verify env none = .ok ())
    (hb : b.verify env none = .ok ()) :
    (∃ n, List.Forall₂ Same (a.entries.take n) (b.entries.take n) ∧
      ∀ r ∈ a.entries.drop n, ∀ r' ∈ b.entries.drop n, r.entryHash ≠ r'.entryHash) ∧
      ∀ head, a.headHash = .ok (some head) → (∃ r ∈ b.entries, r.entryHash.text = head) →
        List.Forall₂ Same a.entries (b.entries.take a.entries.length) := by
  obtain ⟨-, hchained, -⟩ := PolicyDeploymentLedger.verify_eq_ok_iff.1 ha
  obtain ⟨-, hchained', -⟩ := PolicyDeploymentLedger.verify_eq_ok_iff.1 hb
  have hL := links_commits hsha256
  constructor
  · obtain ⟨n, hforall, hdistinct⟩ := hchained.exists_fork hL hchained'
    refine ⟨n, hforall, fun r hr r' hr' h => hdistinct r hr r' hr' ?_⟩
    exact congrArg NonblankStr.text h
  · intro head hhead hmem
    obtain ⟨-, hlast⟩ := PolicyDeploymentLedger.headHash_eq_ok_iff.1 hhead
    exact hchained.forall₂_take_of_digest hL hchained' hlast hmem

/-- Two ledgers share their first record, with its metadata in two orders, and part after it; the
head of the first record alone is in both. -/
theorem verified_ledgers_fork_once_demo :
    (∃ n, List.Forall₂ Same ([demoActivation demoMetadata, demoUpgrade].take n)
        ([demoActivation demoMetadataLoaded, demoRollback].take n) ∧
      ∀ r ∈ [demoActivation demoMetadata, demoUpgrade].drop n,
        ∀ r' ∈ [demoActivation demoMetadataLoaded, demoRollback].drop n,
          r.entryHash ≠ r'.entryHash) ∧
      List.Forall₂ Same [demoActivation demoMetadata]
        ([demoActivation demoMetadataLoaded, demoRollback].take 1) := by
  have hrollback : PolicyDeploymentLedger.verify demoLedgerExternals
      ⟨[demoActivation demoMetadataLoaded, demoRollback], true⟩ none = .ok () :=
    PolicyDeploymentLedger.verify_none
      (verify_demoLedger_of_second (entryText_demoLoaded _) (by simp [demoRecords]) rfl rfl)
  constructor
  · exact (verified_ledgers_fork_once demoLedgerExternals demoLedgerExternals_injective _ _
      (PolicyDeploymentLedger.verify_none (verify_demoUpgrade rfl)) hrollback).1
  · exact (verified_ledgers_fork_once demoLedgerExternals demoLedgerExternals_injective _ _
      (PolicyDeploymentLedger.verify_none (verify_demoLedger rfl)) hrollback).2
        demoEntryHash.text rfl ⟨_, List.mem_cons_self, rfl⟩

/-! ### A stale ledger -/

/-- No ledger is open, and there is no file. -/
def demoShared : SharedLedgers Bool String := ⟨fun _ => none, fun _ => none⟩

/-- The files once `demoActivation` was recorded `n` times. -/
def demoSharedFiles : ℕ → String → Option String
  | 0 => fun _ => none
  | n + 1 => appendText (demoSharedFiles n) "deployments.jsonl"
      (endedLine demoLedgerExternals (demoActivation demoMetadata))

theorem recordActivation_demo (files : String → Option String) :
    recordActivation demoLedgerReads (.str "policy-alpha") (.str "v1") demoOptions demoCallables
        .stored ⟨⟨[], true⟩, some "deployments.jsonl", files⟩ =
      .ok (demoActivation demoMetadata) ((⟨⟨[], true⟩, some "deployments.jsonl", files⟩ :
        LedgerHost String).appended demoLedgerExternals (demoActivation demoMetadata)) := by
  rw [recordActivation_stored rfl, sealRecord_eq_ok_iff.2 seals_demo]
  rfl

/-- Two ledgers are opened, and each records an activation as the first: the file is rejected. -/
theorem shared_file_accepted_demo : ∃ text,
    fromJsonl demoLedgerReads "deployments.jsonl" (demoSharedFiles 2) true =
      .error (.integrity text) := by
  have hrun : Runs.Run (SharedStep demoLedgerReads "deployments.jsonl") demoShared
      [[.opened false], [.opened true], [.appended false (demoActivation demoMetadata)],
        [.appended true (demoActivation demoMetadata)]] _ :=
    .cons (.opened false true rfl) (.cons (.opened true true rfl)
      (.cons (.recorded rfl (recordActivation_demo _))
        (.cons (.recorded rfl (recordActivation_demo _)) (.nil _))))
  have hstale : ¬InSync ([.opened false, .opened true,
      .appended false (demoActivation demoMetadata), .appended true (demoActivation demoMetadata)] :
      List (Event Bool PolicyActivationRecord)) := by
    intro hsync
    have hcurrent := hsync [.opened false, .opened true,
      .appended false (demoActivation demoMetadata)] true (demoActivation demoMetadata) [] rfl
    exact absurd hcurrent.1 (by decide)
  exact (shared_file_accepted_iff demoLedgerReads demoLedgerReads_readsBack "deployments.jsonl"
    (fun _ => none) rfl _ _ hrun).2.2.2 hstale

end Gco
