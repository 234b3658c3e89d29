import GcoSpec.Gco.LedgerFile
import GcoSpec.Library.Runs
import GcoSpec.Python.IsoFormat

/-!
# Runs of a ledger with a file

A program records activations, some of which are rejected, and reads its file into a new ledger
now and then. The file is a faithful encoding of the run (`ledger_file_faithful`): after every
step the ledger verifies against its own head, and the file is read as the records in memory.

The invariant (`FileFaithful`) is that the records form a chain from the genesis value and that the
file holds their lines. It survives a reload because neither the hash nor the line of a record
depends on the order of its metadata, which is all that a reload changes.
-/

namespace Gco

open Python Python.Json HashChain PolicyActivationRecord

variable {P : Type} [DecidableEq P]

/-- What a program does with its ledger. -/
inductive LedgerOp
  | recordActivation (policyId interventionVersion : PyVal) (options : ActivationOptions)
      (callables : LedgerCallables)
  | recordFromGco (gco : GCO) (options : ActivationOptions) (callables : LedgerCallables)
  | reload (verify : Bool)

/-- The state after a call, whether it returned or raised. -/
def stateAfter {ε σ α : Type} (call : Py ε σ α) (s : σ) : σ :=
  match call s with
  | .ok _ s' => s'
  | .error _ s' => s'

/-- The host after an operation, when the storage raises nothing. A load that raises leaves the
program with the ledger it had. -/
def LedgerOp.perform (ext : LedgerExternals) (path : P) : LedgerOp → LedgerHost P → LedgerHost P
  | .recordActivation policyId interventionVersion options callables, host =>
      stateAfter (Gco.recordActivation ext policyId interventionVersion options callables .stored)
        host
  | .recordFromGco gco options callables, host =>
      stateAfter (Gco.recordFromGco ext gco options callables .stored) host
  | .reload verify, host =>
      match fromJsonl ext path host.files verify with
      | .ok host' => host'
      | .error _ => host

/-- One operation, whatever it is. -/
def LedgerStep (ext : LedgerExternals) (path : P) (host host' : LedgerHost P) : Prop :=
  ∃ op : LedgerOp, op.perform ext path host = host'

/-- The ledger is intact, and its file holds its records. -/
structure FileFaithful (ext : LedgerExternals) (path : P) (host : LedgerHost P) : Prop where
  bound : host.path = some path
  usable : host.ledger.usable = true
  chained : Chained (links ext.toExternals) 0 genesisPrevHash host.ledger.entries
  contents : ((host.files path).getD "").toList = linesOf ext.toExternals host.ledger.entries

/-! ### Records that are the same -/

theorem links_of_same {env : Externals} {a b : PolicyActivationRecord} (h : a.Same b) :
    (links env).position a = (links env).position b ∧
      (links env).previous a = (links env).previous b ∧
      (links env).digest a = (links env).digest b ∧
      ((links env).Intact a → (links env).Intact b) := by
  refine ⟨h.sequence, congrArg NonblankStr.text h.prevEntryHash,
    congrArg NonblankStr.text h.entryHash, ?_⟩
  intro hintact
  show b.entryHash.text = computeEntryHash env b.bodyForHash
  rw [computeEntryHash, ← h.entryText_eq, ← h.entryHash]
  exact hintact

theorem forall₂_same_reloaded (entries : List PolicyActivationRecord) :
    List.Forall₂ Same entries (entries.map (·.reloaded)) := by
  induction entries with
  | nil => exact .nil
  | cons r entries ih => exact .cons (same_reloaded r) ih

theorem linesOf_reloaded (env : Externals) (entries : List PolicyActivationRecord) :
    linesOf env (entries.map (·.reloaded)) = linesOf env entries := by
  rw [linesOf, linesOf, List.flatMap_map]
  refine List.flatMap_congr fun r _ => ?_
  rw [endedLine, endedLine, (same_reloaded r).jsonLine_eq]

theorem linesOf_concat (env : Externals) (entries : List PolicyActivationRecord)
    (r : PolicyActivationRecord) :
    linesOf env (entries ++ [r]) = linesOf env entries ++ endedLine env r := by
  rw [linesOf, linesOf, List.flatMap_append, List.flatMap_singleton]

theorem eq_nil_of_linesOf_eq_nil {env : Externals} {entries : List PolicyActivationRecord}
    (h : linesOf env entries = []) : entries = [] := by
  cases entries with
  | nil => rfl
  | cons r entries => simp [linesOf, endedLine] at h

variable {ext : LedgerExternals}

omit [DecidableEq P] in
/-- A file that holds the lines of a chain is accepted, and read as the records of the chain. -/
theorem fromJsonl_linesOf (hext : ext.ReadsBack) {path : P} {files : P → Option String}
    {entries : List PolicyActivationRecord}
    (hchained : Chained (links ext.toExternals) 0 genesisPrevHash entries)
    (hcontents : ((files path).getD "").toList = linesOf ext.toExternals entries) (verify : Bool) :
    fromJsonl ext path files verify =
      .ok ⟨⟨entries.map (·.reloaded), true⟩, some path, files⟩ := by
  have hloaded := hchained.congr links_of_same (forall₂_same_reloaded entries)
  have hverify : PolicyDeploymentLedger.verify ext.toExternals ⟨entries.map (·.reloaded), true⟩
      none = .ok () :=
    PolicyDeploymentLedger.verify_eq_ok_iff.2 ⟨rfl, hloaded, by rintro _ ⟨⟩⟩
  unfold fromJsonl openLedger
  cases hfile : files path with
  | none =>
    rw [hfile, Option.getD_none, String.toList_empty] at hcontents
    rw [Option.bind_some, hfile, eq_nil_of_linesOf_eq_nil hcontents.symm]
    rfl
  | some contents =>
    rw [hfile, Option.getD_some] at hcontents
    have hload : loadJsonl ext contents = .ok (entries.map (·.reloaded)) := by
      rw [← String.ofList_toList (s := contents), hcontents, loadJsonl_linesOf hext]
    rw [Option.bind_some, hfile]
    dsimp only
    rw [hload]
    cases verify with
    | false => rfl
    | true =>
      show (PolicyDeploymentLedger.verify _ _ _ >>= _) = _
      rw [hverify]
      rfl

/-! ### The invariant -/

section

variable {host : LedgerHost P} {policyId interventionVersion : PyVal} {options : ActivationOptions}
  {callables : LedgerCallables}

theorem stateAfter_of_sealed (h : host.ledger.usable = true) {r : PolicyActivationRecord}
    (hseal : sealRecord ext host.ledger.entries policyId interventionVersion options callables =
      .ok r) :
    stateAfter (recordActivation ext policyId interventionVersion options callables .stored) host =
      host.appended ext.toExternals r := by
  rw [stateAfter, recordActivation_stored h, hseal]

theorem stateAfter_of_rejected (h : host.ledger.usable = true) {e : LedgerExc}
    (hseal : sealRecord ext host.ledger.entries policyId interventionVersion options callables =
      .error e) :
    stateAfter (recordActivation ext policyId interventionVersion options callables .stored) host =
      host := by
  rw [stateAfter, recordActivation_stored h, hseal]

theorem LedgerStep.sealed (h : host.ledger.usable = true) {r : PolicyActivationRecord}
    (hseals : Seals ext host.ledger.entries policyId interventionVersion options callables r)
    (path : P) : LedgerStep ext path host (host.appended ext.toExternals r) :=
  ⟨.recordActivation policyId interventionVersion options callables,
    stateAfter_of_sealed h (sealRecord_eq_ok_iff.2 hseals)⟩

theorem LedgerStep.rejected (h : host.ledger.usable = true) {e : LedgerExc}
    (hseal : sealRecord ext host.ledger.entries policyId interventionVersion options callables =
      .error e) (path : P) : LedgerStep ext path host host :=
  ⟨.recordActivation policyId interventionVersion options callables,
    stateAfter_of_rejected h hseal⟩

end

namespace FileFaithful

variable {path : P} {host : LedgerHost P}

/-- A record that was sealed is appended to the chain and to the file. -/
theorem appended (h : FileFaithful ext path host) {policyId interventionVersion : PyVal}
    {options : ActivationOptions} {callables : LedgerCallables} {r : PolicyActivationRecord}
    (hseals : Seals ext host.ledger.entries policyId interventionVersion options callables r) :
    FileFaithful ext path (host.appended ext.toExternals r) where
  bound := h.bound
  usable := h.usable
  chained := hseals.chained h.chained
  contents := by
    have hfiles : (host.appended ext.toExternals r).files =
        appendText host.files path (endedLine ext.toExternals r) := by
      unfold LedgerHost.appended
      rw [h.bound]
    rw [hfiles, appendText, Function.update_self, Option.getD_some, String.toList_append,
      String.toList_ofList, h.contents]
    exact (linesOf_concat _ _ _).symm

theorem recordActivation (h : FileFaithful ext path host) (policyId interventionVersion : PyVal)
    (options : ActivationOptions) (callables : LedgerCallables) :
    FileFaithful ext path (stateAfter
      (Gco.recordActivation ext policyId interventionVersion options callables .stored) host) := by
  cases hseal : sealRecord ext host.ledger.entries policyId interventionVersion options
      callables with
  | error e =>
    rw [stateAfter_of_rejected h.usable hseal]
    exact h
  | ok r =>
    rw [stateAfter_of_sealed h.usable hseal]
    exact h.appended (sealRecord_eq_ok_iff.1 hseal)

omit [DecidableEq P] in
theorem fromJsonl (hext : ext.ReadsBack) (h : FileFaithful ext path host) (verify : Bool) :
    Gco.fromJsonl ext path host.files verify =
      .ok ⟨⟨host.ledger.entries.map (·.reloaded), true⟩, some path, host.files⟩ :=
  fromJsonl_linesOf hext h.chained h.contents verify

/-- Every operation keeps the file faithful. -/
theorem step (hext : ext.ReadsBack) (h : FileFaithful ext path host) {host' : LedgerHost P}
    (hstep : LedgerStep ext path host host') : FileFaithful ext path host' := by
  obtain ⟨op, rfl⟩ := hstep
  cases op with
  | recordActivation policyId interventionVersion options callables =>
    exact h.recordActivation policyId interventionVersion options callables
  | recordFromGco gco options callables =>
    exact h.recordActivation _ _ _ callables
  | reload verify =>
    rw [LedgerOp.perform, h.fromJsonl hext]
    exact
      { bound := rfl
        usable := rfl
        chained := h.chained.congr links_of_same (forall₂_same_reloaded _)
        contents := by
          rw [linesOf_reloaded]
          exact h.contents }

omit [DecidableEq P] in
theorem verify (h : FileFaithful ext path host) {expectedHead : Option String}
    (hhead : ∀ head, expectedHead = some head →
      host.ledger.entries.getLast?.map (·.entryHash.text) = some head) :
    host.ledger.verify ext.toExternals expectedHead = .ok () :=
  PolicyDeploymentLedger.verify_eq_ok_iff.2 ⟨h.usable, h.chained, hhead⟩

end FileFaithful

/-! ### Calls that may fail to store -/

/-- One call of `record_activation`, with any arguments and whatever comes of storing its line. -/
def RecordStep (ext : LedgerExternals) (host host' : LedgerHost P) : Prop :=
  ∃ policyId interventionVersion options callables storage,
    stateAfter (recordActivation ext policyId interventionVersion options callables storage) host =
      host'

/-- A call adds a record that was sealed, or none. -/
theorem RecordStep.entries {host host' : LedgerHost P} (h : RecordStep ext host host') :
    host'.ledger.entries = host.ledger.entries ∨
      ∃ policyId interventionVersion options callables r,
        Seals ext host.ledger.entries policyId interventionVersion options callables r ∧
          host'.ledger.entries = host.ledger.entries ++ [r] := by
  obtain ⟨policyId, interventionVersion, options, callables, storage, rfl⟩ := h
  by_cases husable : host.ledger.usable = true
  · rw [stateAfter, recordActivation_of_usable husable]
    cases hseal : sealRecord ext host.ledger.entries policyId interventionVersion options
        callables with
    | error e => exact .inl rfl
    | ok r =>
      have hseals := sealRecord_eq_ok_iff.1 hseal
      dsimp only
      rw [bind_apply]
      cases hpath : host.path with
      | none =>
        rw [append_in_memory husable hpath]
        exact .inr ⟨_, _, _, _, r, hseals, rfl⟩
      | some path =>
        cases storage with
        | stored =>
          rw [append_stored husable]
          exact .inr ⟨_, _, _, _, r, hseals, rfl⟩
        | failed written text =>
          rw [append_failed husable hpath]
          exact .inl rfl
  · rw [Bool.not_eq_true] at husable
    rw [stateAfter, recordActivation_of_unusable husable]
    exact .inl rfl

theorem RecordStep.sealed {host : LedgerHost P} (h : host.ledger.usable = true)
    {policyId interventionVersion : PyVal} {options : ActivationOptions}
    {callables : LedgerCallables} {r : PolicyActivationRecord}
    (hseals : Seals ext host.ledger.entries policyId interventionVersion options callables r) :
    RecordStep ext host (host.appended ext.toExternals r) :=
  ⟨policyId, interventionVersion, options, callables, .stored,
    stateAfter_of_sealed h (sealRecord_eq_ok_iff.2 hseals)⟩

omit [DecidableEq P] in
/-- A ledger that was opened holds a chain from the genesis value. -/
theorem chained_of_openLedger {path : Option P} {files : P → Option String} {host : LedgerHost P}
    (h : openLedger ext path files true = .ok host) :
    Chained (links ext.toExternals) 0 genesisPrevHash host.ledger.entries := by
  unfold openLedger at h
  cases hfile : path.bind files with
  | none =>
    rw [hfile] at h
    cases h
    exact trivial
  | some contents =>
    obtain ⟨path, rfl, hcontents⟩ := Option.bind_eq_some_iff.1 hfile
    obtain ⟨entries, -, hchained, rfl⟩ := (fromJsonl_eq_ok_iff hcontents).1 h
    exact hchained

/-- Whatever is recorded after it was opened, a ledger holds a chain from the genesis value. -/
theorem chained_of_recordStep {path : Option P} {files : P → Option String}
    {start host : LedgerHost P} (hopen : openLedger ext path files true = .ok start)
    (hrun : Relation.ReflTransGen (RecordStep ext) start host) :
    Chained (links ext.toExternals) 0 genesisPrevHash host.ledger.entries := by
  refine Runs.invariant (I := fun host =>
    Chained (links ext.toExternals) 0 genesisPrevHash host.ledger.entries) ?_
    (chained_of_openLedger hopen) hrun
  intro host host' hchained hstep
  rcases hstep.entries with hsame | ⟨_, _, _, _, r, hseals, happended⟩
  · rwa [hsame]
  · rw [happended]
    exact hseals.chained hchained

/-! ### Exporting -/

/-- `export_jsonl` writes the lines of the records. -/
theorem exportJsonl_eq {host : LedgerHost P} (h : host.ledger.usable = true) (target : P) :
    exportJsonl ext target host = .ok () { host with
      files := Function.update host.files target
        (some (String.ofList (linesOf ext.toExternals host.ledger.entries))) } := by
  have hpayload : (let payload :=
      ['\n'].intercalate (host.ledger.entries.map (jsonLine ext.toExternals))
      if payload = [] then payload else payload ++ ['\n']) =
        linesOf ext.toExternals host.ledger.entries := by
    cases hentries : host.ledger.entries with
    | nil => rfl
    | cons r entries =>
      obtain ⟨cs, hcs⟩ := jsonLine_eq_cons ext.toExternals r
      dsimp only
      rw [if_neg, intercalate_newline (by simp), List.flatMap_map]
      · rfl
      · rw [List.map_cons, hcs, List.intercalate_cons_cons_left]
        exact List.cons_ne_nil _ _
  have hlines : toJsonlLines ext host.ledger =
      .ok (host.ledger.entries.map (jsonLine ext.toExternals)) := by
    rw [toJsonlLines, PolicyDeploymentLedger.ensureUsable_eq_ok_iff.2 h]
    rfl
  rw [exportJsonl, bind_apply, ensureUsable_of_usable h]
  show (Py.ofExcept ((toJsonlLines ext host.ledger).mapError LedgerExc.ledger) >>= _) host = _
  rw [hlines, ← hpayload]
  rfl

/-- The file is a faithful encoding of the run: after every step the ledger verifies, against its
own head too, its records are numbered and linked from the genesis value on, and its file, and every
export of it, is read as its records. -/
theorem ledger_file_faithful (hext : ext.ReadsBack) {path : P} {files : P → Option String}
    (habsent : files path = none) {start host : LedgerHost P}
    (hopen : openLedger ext (some path) files true = .ok start)
    (hrun : Relation.ReflTransGen (LedgerStep ext path) start host) :
    host.ledger.verify ext.toExternals none = .ok () ∧
      (host.ledger.entries ≠ [] → ∃ head, host.ledger.headHash = .ok (some head) ∧
        host.ledger.verify ext.toExternals (some head) = .ok ()) ∧
      (∀ n (_ : n < host.ledger.entries.length), (host.ledger.entries[n]).sequence = n) ∧
      (∀ r ∈ host.ledger.entries.head?, r.prevEntryHash.text = genesisPrevHash) ∧
      (∀ n (_ : n + 1 < host.ledger.entries.length),
        (host.ledger.entries[n + 1]).prevEntryHash = (host.ledger.entries[n]).entryHash) ∧
      (∃ loaded, fromJsonl ext path host.files true = .ok loaded ∧
        List.Forall₂ Same host.ledger.entries loaded.ledger.entries) ∧
      ∀ target, ∃ exported, exportJsonl ext target host = .ok () exported ∧
        ∃ loaded, fromJsonl ext target exported.files true = .ok loaded ∧
          List.Forall₂ Same host.ledger.entries loaded.ledger.entries := by
  have hstart : FileFaithful ext path start := by
    unfold openLedger at hopen
    rw [Option.bind_some, habsent] at hopen
    cases hopen
    exact
      { bound := rfl
        usable := rfl
        chained := trivial
        contents := by
          show ((files path).getD "").toList = []
          rw [habsent]
          rfl }
  have h : FileFaithful ext path host := Runs.invariant (fun hI hR => hI.step hext hR) hstart hrun
  have hsame := forall₂_same_reloaded host.ledger.entries
  refine ⟨h.verify (by rintro _ ⟨⟩), ?_, ?_, h.chained.previous_head, ?_, ?_, ?_⟩
  · intro hne
    have hlast : host.ledger.entries.getLast?.map (·.entryHash.text) =
        some (host.ledger.entries.getLast hne).entryHash.text := by
      rw [List.getLast?_eq_some_getLast hne, Option.map_some]
    refine ⟨_, PolicyDeploymentLedger.headHash_eq_ok_iff.2 ⟨h.usable, hlast⟩, h.verify ?_⟩
    rintro _ ⟨⟩
    exact hlast
  · intro n hn
    have hposition := h.chained.position_getElem n hn
    rwa [Nat.zero_add] at hposition
  · intro n hn
    exact NonblankStr.ext (h.chained.previous_getElem_succ n hn)
  · exact ⟨_, h.fromJsonl hext true, hsame⟩
  · intro target
    refine ⟨_, exportJsonl_eq h.usable target, _, fromJsonl_linesOf hext h.chained ?_ true, hsame⟩
    dsimp only
    rw [Function.update_self, Option.getD_some, String.toList_ofList]

/-! ### A run in which one call is rejected and two are not -/

/-- pydantic and `repr` on the values of the run. -/
def demoLedgerReads : LedgerExternals :=
  { demoLedgerExternals with
    readInt := fun x => match x with
      | .int n => some n
      | _ => none
    readDatetime := fun x => x.str?.bind fun s => (DateTime.readIso s.toList).map DateTime.toPy
    decodeError := fun _ => "Expecting value: line 1 column 1 (char 0)"
    validationError := fun _ => "1 validation error for PolicyActivationRecord"
    repr := fun x => match x.str? with
      | some s => "'" ++ s ++ "'"
      | none => "<object>" }

theorem demoLedgerReads_readsBack : demoLedgerReads.ReadsBack where
  int _ := rfl
  datetime t := by
    have hdump : demoLedgerReads.dumpDatetime t = String.ofList (t.isoBody ++ ['Z']) := rfl
    have hread : ∀ s, demoLedgerReads.readDatetime (.str s) =
        (DateTime.readIso s.toList).map DateTime.toPy := fun _ => rfl
    rw [hdump, hread, String.toList_ofList, DateTime.readIso_isoBody]
    rfl

def demoOptions : ActivationOptions where
  actor := .str "spiffe://example.org/ops"
  reason := .str "initial rollout"
  metadata := some [(.str "channel", .str "canary"), (.str "region", .str "eu")]
  recordedAt := some (demoActivation demoMetadata).recordedAt.toPy

def demoCallables : LedgerCallables where
  now := .error (.valueError "no clock")
  idFactory := .ok (.str "evt-1")

/-- A new ledger, whose file does not exist. -/
def demoNewLedger : LedgerHost String := ⟨⟨[], true⟩, some "deployments.jsonl", fun _ => none⟩

theorem seals_demo : Seals demoLedgerReads [] (.str "policy-alpha") (.str "v1") demoOptions
    demoCallables (demoActivation demoMetadata) where
  eventType := rfl
  policyId := rfl
  policyId_nonblank := by decide +kernel
  interventionVersion := rfl
  interventionVersion_nonblank := by decide +kernel
  recordedAt := rfl
  eventId := eventIdOf_str (by decide +kernel) demoCallables.idFactory
  metadata := rfl
  deploymentId := rfl
  actor := rfl
  reason := rfl
  sequence := rfl
  prevEntryHash := rfl
  intact := (computeEntryHash_demo rfl).symm

def demoUpgradeOptions : ActivationOptions := { demoOptions with eventId := .str "evt-2" }

theorem seals_demoUpgrade : Seals demoLedgerReads [demoActivation demoMetadata]
    (.str "policy-alpha") (.str "v2") demoUpgradeOptions demoCallables demoUpgrade where
  eventType := rfl
  policyId := rfl
  policyId_nonblank := by decide +kernel
  interventionVersion := rfl
  interventionVersion_nonblank := by decide +kernel
  recordedAt := rfl
  eventId := eventIdOf_str (by decide +kernel) demoCallables.idFactory
  metadata := rfl
  deploymentId := rfl
  actor := rfl
  reason := rfl
  sequence := rfl
  prevEntryHash := rfl
  intact := intact_demoRecords (by simp [demoRecords])

/-- The ledger with one record and with two. -/
def demoActivatedLedger : LedgerHost String :=
  demoNewLedger.appended demoLedgerExternals (demoActivation demoMetadata)

def demoUpgradedLedger : LedgerHost String :=
  demoActivatedLedger.appended demoLedgerExternals demoUpgrade

/-- An accepted call, a rejected one and another accepted one: the file is read as the two
records. -/
theorem ledger_file_faithful_demo :
    ∃ loaded, fromJsonl demoLedgerReads "deployments.jsonl" demoUpgradedLedger.files true =
        .ok loaded ∧
      List.Forall₂ Same [demoActivation demoMetadata, demoUpgrade] loaded.ledger.entries := by
  have hblank : isBlank (.str "  ") = true := by
    rw [isBlank_str]
    decide +kernel
  have hseal : sealRecord demoLedgerReads demoActivatedLedger.ledger.entries (.str "  ") (.str "v1")
      demoOptions demoCallables =
        .error (.ledger (.append "policy_id must be a non-empty string")) :=
    sealRecord_of_blank (e := .activate) rfl hblank
  have hactivated : LedgerStep demoLedgerReads "deployments.jsonl" demoNewLedger
      demoActivatedLedger :=
    LedgerStep.sealed rfl seals_demo _
  have hrejected : LedgerStep demoLedgerReads "deployments.jsonl" demoActivatedLedger
      demoActivatedLedger :=
    LedgerStep.rejected rfl hseal _
  have hupgraded : LedgerStep demoLedgerReads "deployments.jsonl" demoActivatedLedger
      demoUpgradedLedger :=
    LedgerStep.sealed rfl seals_demoUpgrade _
  have habsent : demoNewLedger.files "deployments.jsonl" = none := rfl
  exact (ledger_file_faithful demoLedgerReads_readsBack habsent rfl
    (((Relation.ReflTransGen.single hactivated).tail hrejected).tail hupgraded)).2.2.2.2.2.1

end Gco
