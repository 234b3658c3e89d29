import GcoSpec.Gco.AsOfReplay

/-!
# Failures of a ledger

A call of `record_activation` that raises before it stores leaves no trace, and one that fails to
store disables the ledger (`failed_append_atomic_or_disabling`): its records stay as they are, while
the file may hold a part of the line or all of it, and so no operation answers from then on.

`LedgerCall` lists the operations of the class, each with its arguments; a program that goes on
after a failure makes any of them in any order (`performAll`).
-/

namespace Gco

open Python Python.Json HashChain

namespace PolicyDeploymentLedger

/-- `len(ledger)`. -/
def len (ledger : PolicyDeploymentLedger) : Except LedgerError ℕ := do
  ledger.ensureUsable
  pure ledger.entries.length

/-- `ledger.entries()`. -/
def entriesTuple (ledger : PolicyDeploymentLedger) :
    Except LedgerError (List PolicyActivationRecord) := do
  ledger.ensureUsable
  pure ledger.entries

end PolicyDeploymentLedger

/-- The operations of a ledger. -/
inductive LedgerCall (P : Type)
  | recordActivation (policyId interventionVersion : PyVal) (options : ActivationOptions)
      (callables : LedgerCallables) (storage : Storage)
  | recordFromGco (gco : GCO) (options : ActivationOptions) (callables : LedgerCallables)
      (storage : Storage)
  | entries
  | headHash
  | len
  | verify (expectedHead : Option String)
  | activePolicies (atTime : Option PyDatetime)
  | latestForPolicy (policyId : String)
  | toJsonlLines
  | exportJsonl (target : P)

/-- What they return. -/
inductive LedgerAnswer
  | none
  | record (record : PolicyActivationRecord)
  | records (records : List PolicyActivationRecord)
  | latest (record : Option PolicyActivationRecord)
  | active (view : Dict String PolicyActivationRecord)
  | head (hash : Option String)
  | count (n : ℕ)
  | lines (lines : List (List Char))

variable {P : Type} [DecidableEq P]

/-- A method that reads the ledger and changes nothing. -/
def readLedger {α : Type} (method : PolicyDeploymentLedger → Except LedgerExc α)
    (answer : α → LedgerAnswer) : Py LedgerExc (LedgerHost P) LedgerAnswer := do
  let host ← get
  let a ← Py.ofExcept (method host.ledger)
  pure (answer a)

/-- A call of an operation. -/
def LedgerCall.perform (ext : LedgerExternals) :
    LedgerCall P → Py LedgerExc (LedgerHost P) LedgerAnswer
  | .recordActivation policyId interventionVersion options callables storage => do
      let r ← Gco.recordActivation ext policyId interventionVersion options callables storage
      pure (.record r)
  | .recordFromGco gco options callables storage => do
      let r ← Gco.recordFromGco ext gco options callables storage
      pure (.record r)
  | .entries => readLedger (fun ledger => ledger.entriesTuple.mapError .ledger) .records
  | .headHash => readLedger (fun ledger => ledger.headHash.mapError .ledger) .head
  | .len => readLedger (fun ledger => ledger.len.mapError .ledger) .count
  | .verify expectedHead =>
      readLedger (fun ledger => (ledger.verify ext.toExternals expectedHead).mapError .ledger)
        fun _ => .none
  | .activePolicies atTime => readLedger (fun ledger => ledger.activePolicies atTime) .active
  | .latestForPolicy policyId =>
      readLedger (fun ledger => ledger.latestForPolicy policyId) .latest
  | .toJsonlLines =>
      readLedger (fun ledger => (Gco.toJsonlLines ext ledger).mapError .ledger) .lines
  | .exportJsonl target => do
      Gco.exportJsonl ext target
      pure .none

/-- Calls in sequence: what each returns or raises, and the host afterwards. -/
def performAll (ext : LedgerExternals) :
    List (LedgerCall P) → LedgerHost P → List (Except LedgerExc LedgerAnswer) × LedgerHost P
  | [], host => ([], host)
  | call :: calls, host =>
      match call.perform ext host with
      | .ok answer host' =>
          let (answers, last) := performAll ext calls host'
          (.ok answer :: answers, last)
      | .error e host' =>
          let (answers, last) := performAll ext calls host'
          (.error e :: answers, last)

/-- `LedgerAppendError`, as `_ensure_usable` raises it. -/
def unusableError : LedgerExc :=
  .ledger (.append "ledger is unusable after a previous append storage failure")

/-! ### An unusable ledger -/

section

variable {ext : LedgerExternals} {host : LedgerHost P}

omit [DecidableEq P] in
/-- A method that starts with `_ensure_usable` raises, whatever follows. -/
theorem readLedger_of_unusable {α : Type} {method : PolicyDeploymentLedger → Except LedgerExc α}
    (answer : α → LedgerAnswer) (h : method host.ledger = .error unusableError) :
    readLedger method answer host = .error unusableError host := by
  show (Py.ofExcept (method host.ledger) >>= fun a => pure (answer a)) host = _
  rw [h]
  rfl

theorem ensureUsable_bind_of_unusable {α : Type} {ledger : PolicyDeploymentLedger}
    (h : ledger.usable = false) (rest : Unit → Except LedgerError α) :
    (ledger.ensureUsable >>= rest).mapError .ledger = .error unusableError := by
  rw [PolicyDeploymentLedger.ensureUsable, h]
  rfl

/-- Every operation of an unusable ledger raises, and writes nothing. -/
theorem LedgerCall.perform_of_unusable (h : host.ledger.usable = false) (call : LedgerCall P) :
    call.perform ext host = .error unusableError host := by
  have hguard : ∀ {α : Type} (rest : Unit → Except LedgerError α),
      (host.ledger.ensureUsable >>= rest).mapError .ledger = .error unusableError :=
    fun rest => ensureUsable_bind_of_unusable h rest
  cases call with
  | recordActivation policyId interventionVersion options callables storage =>
    rw [perform, bind_apply, recordActivation_of_unusable h]
    rfl
  | recordFromGco gco options callables storage =>
    rw [perform, bind_apply, Gco.recordFromGco, recordActivation_of_unusable h]
    rfl
  | entries =>
    rw [perform]
    exact readLedger_of_unusable _ (hguard _)
  | headHash =>
    rw [perform]
    exact readLedger_of_unusable _ (hguard _)
  | len =>
    rw [perform]
    exact readLedger_of_unusable _ (hguard _)
  | verify expectedHead =>
    rw [perform]
    exact readLedger_of_unusable _ (hguard _)
  | activePolicies atTime =>
    rw [perform]
    exact readLedger_of_unusable _ (PolicyDeploymentLedger.activePolicies_of_unusable h atTime)
  | latestForPolicy policyId =>
    rw [perform]
    refine readLedger_of_unusable _ ?_
    rw [PolicyDeploymentLedger.latestForPolicy, PolicyDeploymentLedger.ensureUsable, h]
    rfl
  | toJsonlLines =>
    rw [perform]
    exact readLedger_of_unusable _ (hguard _)
  | exportJsonl target =>
    rw [perform, Gco.exportJsonl, bind_apply, bind_apply, ensureUsable_of_unusable h]
    rfl

/-- And so does every later one. -/
theorem performAll_of_unusable (h : host.ledger.usable = false) (calls : List (LedgerCall P)) :
    performAll ext calls host = (calls.map fun _ => .error unusableError, host) := by
  induction calls with
  | nil => rfl
  | cons call calls ih =>
    rw [performAll, LedgerCall.perform_of_unusable h, List.map_cons]
    dsimp only
    rw [ih]

end

/-! ### Failures -/

section

variable {ext : LedgerExternals} {host : LedgerHost P} {policyId interventionVersion : PyVal}
  {options : ActivationOptions} {callables : LedgerCallables}

/-- The call gets as far as to store a record: its guard and its checks have passed. -/
def Stores (ext : LedgerExternals) (host : LedgerHost P) (policyId interventionVersion : PyVal)
    (options : ActivationOptions) (callables : LedgerCallables) (r : PolicyActivationRecord) :
    Prop :=
  host.ledger.usable = true ∧
    sealRecord ext host.ledger.entries policyId interventionVersion options callables = .ok r

/-- A call that does not get as far as to store changes nothing. -/
theorem recordActivation_of_not_stores
    (h : ∀ r, ¬Stores ext host policyId interventionVersion options callables r)
    (storage : Storage) :
    ∃ e, recordActivation ext policyId interventionVersion options callables storage host =
      .error e host := by
  by_cases husable : host.ledger.usable = true
  · rw [recordActivation_of_usable husable]
    cases hseal : sealRecord ext host.ledger.entries policyId interventionVersion options
        callables with
    | error e => exact ⟨e, rfl⟩
    | ok r => exact absurd ⟨husable, hseal⟩ (h r)
  · rw [Bool.not_eq_true] at husable
    exact ⟨_, recordActivation_of_unusable husable storage⟩

/-- A call that fails to store leaves the records as they are, and the ledger unusable. -/
theorem recordActivation_of_failed {r : PolicyActivationRecord} {path : P} {written : Option ℕ}
    {text : String} (h : Stores ext host policyId interventionVersion options callables r)
    (hpath : host.path = some path) :
    recordActivation ext policyId interventionVersion options callables (.failed written text)
      host = .error (.ledger (.append s!"failed to append ledger entry: {text}"))
        { host with
          ledger := { host.ledger with usable := false }
          files := (writeLine host.files path (endedLine ext.toExternals r)
            (.failed written text)).1 } := by
  rw [recordActivation_of_usable h.1, h.2]
  dsimp only
  rw [bind_apply, append_failed h.1 hpath]

/-- A failed append is atomic or disables the ledger. A call that does not get as far as to store
leaves everything as it is, so that the next record has the number and the previous hash it would
have had. A call whose line cannot be stored, at whatever point, raises and leaves the records as
they are, and from then on every operation raises and writes nothing. -/
theorem failed_append_atomic_or_disabling (ext : LedgerExternals) (host : LedgerHost P)
    (policyId interventionVersion : PyVal) (options : ActivationOptions)
    (callables : LedgerCallables) :
    ((∀ r, ¬Stores ext host policyId interventionVersion options callables r) →
      ∀ storage, ∃ e host',
        recordActivation ext policyId interventionVersion options callables storage host =
          .error e host' ∧
        host' = host ∧
        ∀ policyId' interventionVersion' options' callables' storage' r host'',
          recordActivation ext policyId' interventionVersion' options' callables' storage' host' =
            .ok r host'' →
          r.sequence = host.ledger.entries.length ∧
            r.prevEntryHash.text =
              (host.ledger.entries.getLast?.map (·.entryHash.text)).getD genesisPrevHash) ∧
    ∀ r path written text, Stores ext host policyId interventionVersion options callables r →
      host.path = some path →
      ∃ e host',
        recordActivation ext policyId interventionVersion options callables
          (.failed written text) host = .error (.ledger (.append e)) host' ∧
        host'.ledger.entries = host.ledger.entries ∧
        ∀ calls, performAll ext calls host' = (calls.map fun _ => .error unusableError, host') := by
  refine ⟨?_, ?_⟩
  · intro hnot storage
    obtain ⟨e, he⟩ := recordActivation_of_not_stores hnot storage
    refine ⟨e, host, he, rfl, ?_⟩
    intro _ _ _ _ _ r host'' hcall
    obtain ⟨-, hseals, -⟩ := of_recordActivation_eq_ok hcall
    exact ⟨hseals.sequence, hseals.prevEntryHash⟩
  · intro r path written text hstores hpath
    refine ⟨_, _, recordActivation_of_failed hstores hpath, rfl, fun calls => ?_⟩
    exact performAll_of_unusable rfl calls

end

end Gco
