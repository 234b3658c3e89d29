import GcoSpec.Gco.CliOutput
import GcoSpec.Gco.LedgerFailure
import GcoSpec.Gco.SharedLedger

/-!
# The ledger commands

`gco ledger-verify`, `ledger-show` and `ledger-record`, each a process of its own: it reads the file
into a ledger, calls a method or two, prints, and exits with a status.

* `ledger_show_determined`: two files that verify against one sealed head are shown alike, to the
  letter.
* `ledger_json_reports`: with `--json` a command prints one object, whose `ok` is whether it exits
  with 0.
* `ledger_session`: after a session of commands the file lists the records that were accepted, and
  they decide what the next command does (`Holds` is the invariant, `Holds.run` a step of it).
* `expected_head_until_next_record`: within a session a head is accepted until the next record.
-/

namespace Gco

open Python Python.Json HashChain PolicyActivationRecord

/-! ### The commands -/

/-- What the commands use besides the ledger: the file a path names, and `str` of the exceptions
that no ledger raises by itself. -/
structure CliExternals (P : Type) extends LedgerExternals where
  pathOf : String → P
  strOf : LedgerExc → String

/-- `str` of what may be `None`. -/
def strOrNone (s : Option String) : String := s.getD "None"

/-- `except LedgerIntegrityError as exc: raise CLIError("LEDGER_INTEGRITY_ERROR", str(exc))`. -/
def raiseIntegrity : LedgerError → CliExc
  | .integrity text => .cliError "LEDGER_INTEGRITY_ERROR" text 1
  | .append text => .other text

variable {P : Type} [DecidableEq P] (ext : CliExternals P)

/-- `_load_policy_ledger`. -/
def loadPolicyLedger (path : String) (files : P → Option String) :
    Except CliExc PolicyDeploymentLedger :=
  if files (ext.pathOf path) = none then
    .error (.cliError "LEDGER_NOT_FOUND" s!"{path}: ledger file not found" 1)
  else match fromJsonl ext.toLedgerExternals (ext.pathOf path) files false with
    | .ok host => .ok host.ledger
    | .error (.integrity text) => .error (.cliError "LEDGER_INTEGRITY_ERROR" text 1)
    | .error (.append text) => .error (.cliError "LEDGER_MALFORMED" text 1)

/-- `record.model_dump(mode="json")`. -/
def dumpRecord (env : Externals) (record : PolicyActivationRecord) : PyVal :=
  .dict (record.items env)

/-- `_cmd_ledger_verify`. -/
def cmdLedgerVerify (path : String) (expectedHead : Option String) (asJson : Bool)
    (files : P → Option String) : Except CliExc CliOutput := do
  let ledger ← loadPolicyLedger ext path files
  (ledger.verify ext.toExternals expectedHead).mapError raiseIntegrity
  let entries ← ledger.len.mapError raiseIntegrity
  let headHash ← ledger.headHash.mapError raiseIntegrity
  let count ← formatInt entries
  let head := strOrNone headHash
  pure (emitSuccess ext.floatFormat
    [("entries", .int entries), ("head_hash", dumpOption .str headHash), ("verified", .bool true)]
    asJson s!"allow: ledger verified\nentries: {count}\nhead_hash: {head}")

/-- A line of `ledger-show` about an active policy. -/
def activeLine (item : String × PolicyActivationRecord) : String :=
  let policyId := item.1
  let version := item.2.interventionVersion.text
  let event := StrEnum.value item.2.eventType
  let sequence := item.2.sequence
  s!"  - {policyId} intervention={version} event={event} seq={sequence}"

/-- A line of `ledger-show` about an entry, with the first characters of its hash. -/
def historyLine (record : PolicyActivationRecord) : String :=
  let sequence := record.sequence
  let event := StrEnum.value record.eventType
  let policyId := record.policyId.text
  let version := record.interventionVersion.text
  let hash := String.ofList (record.entryHash.text.toList.take 12)
  s!"  - [{sequence}] {event} {policyId}@{version} hash={hash}…"

/-- `sorted(active.items())`, by the keys, which are distinct. -/
def sortedActive (active : Dict String PolicyActivationRecord) :
    List (String × PolicyActivationRecord) :=
  active.items.insertionSort fun a b => a.1 ≤ b.1

/-- The text of `ledger-show`, with the number of the entries. -/
def showText (count : String) (entries : List PolicyActivationRecord)
    (active : Dict String PolicyActivationRecord) (headHash : Option String) : String :=
  let head := strOrNone headHash
  "\n".intercalate ([s!"entries: {count}", s!"head_hash: {head}", "active policies:"] ++
    (if active.items = [] then ["  (none)"] else (sortedActive active).map activeLine) ++
    ["history:"] ++ if entries = [] then ["  (empty)"] else entries.map historyLine)

/-- The payload of `ledger-show`. -/
def showPayload (env : Externals) (entries : List PolicyActivationRecord)
    (active : Dict String PolicyActivationRecord) (headHash : Option String) :
    List (String × PyVal) :=
  [("active_policies", .dict (active.items.map fun item => (item.1, dumpRecord env item.2))),
   ("entries", .list (entries.map (dumpRecord env))),
   ("head_hash", dumpOption .str headHash)]

/-- `_cmd_ledger_show`. -/
def cmdLedgerShow (path : String) (asJson : Bool) (files : P → Option String) :
    Except CliExc CliOutput := do
  let ledger ← loadPolicyLedger ext path files
  (ledger.verify ext.toExternals none).mapError raiseIntegrity
  let entries ← ledger.entriesTuple.mapError raiseIntegrity
  let active ← (ledger.activePolicies none).mapError fun exc => .other (ext.strOf exc)
  let headHash ← ledger.headHash.mapError raiseIntegrity
  let payload := showPayload ext.toExternals entries active headHash
  if asJson then pure (emitSuccess ext.floatFormat payload true "")
  else do
    let count ← formatInt entries.length
    pure (emitSuccess ext.floatFormat payload false (showText count entries active headHash))

/-- The options of `ledger-record`; the parser admits the values of `ActivationEventType` only. -/
structure RecordArgs where
  policyId : String
  interventionVersion : String
  eventType : ActivationEventType
  deploymentId : Option String
  actor : Option String
  reason : Option String

/-- They as keyword arguments of `record_activation`. -/
def RecordArgs.options (args : RecordArgs) : ActivationOptions where
  eventType := .str (StrEnum.value args.eventType)
  deploymentId := dumpOption .str args.deploymentId
  actor := dumpOption .str args.actor
  reason := dumpOption .str args.reason

/-- The `except` of `_cmd_ledger_record`. -/
def raiseRecord : LedgerExc → CliExc
  | .ledger (.integrity text) => .cliError "LEDGER_INTEGRITY_ERROR" text 1
  | .ledger (.append text) => .cliError "LEDGER_APPEND_ERROR" text 1
  | exc => .other (ext.strOf exc)

/-- What `ledger-record` prints of a record, once it is the last of the ledger. -/
def recordOutput (record : PolicyActivationRecord) (headHash : Option String) (asJson : Bool) :
    CliOutput :=
  let event := StrEnum.value record.eventType
  let policyId := record.policyId.text
  let version := record.interventionVersion.text
  let sequence := record.sequence
  let hash := record.entryHash.text
  let head := strOrNone headHash
  emitSuccess ext.floatFormat
    [("head_hash", dumpOption .str headHash), ("record", dumpRecord ext.toExternals record)] asJson
    s!"recorded: {event} {policyId}@{version} seq={sequence}\nentry_hash: {hash}\nhead_hash: {head}"

/-- `_cmd_ledger_record`, with the files it leaves. -/
def cmdLedgerRecord (path : String) (args : RecordArgs) (callables : LedgerCallables)
    (storage : Storage) (asJson : Bool) (files : P → Option String) :
    Except CliExc CliOutput × (P → Option String) :=
  match openLedger ext.toLedgerExternals (some (ext.pathOf path)) files true with
  | .error exc => (.error (raiseRecord ext (.ledger exc)), files)
  | .ok host =>
      match recordActivation ext.toLedgerExternals (.str args.policyId)
          (.str args.interventionVersion) args.options callables storage host with
      | .error exc host => (.error (raiseRecord ext exc), host.files)
      | .ok record host =>
          (do
            let headHash ← host.ledger.headHash.mapError raiseIntegrity
            pure (recordOutput ext record headHash asJson), host.files)

/-- A command. -/
inductive LedgerCommand
  | verify (expectedHead : Option String)
  | show
  | record (args : RecordArgs)

/-- A process: what it is called with, what its clock and its source of UUIDs return, and whether it
can store a line. -/
structure Invocation where
  command : LedgerCommand
  asJson : Bool
  callables : LedgerCallables
  storage : Storage

/-- `main`, on the ledger at the path: what it prints, and the files it leaves. -/
def Invocation.run (path : String) (invocation : Invocation) (files : P → Option String) :
    CliOutput × (P → Option String) :=
  match invocation.command with
  | .verify expectedHead =>
      (mainOutput ext.floatFormat invocation.asJson
        (cmdLedgerVerify ext path expectedHead invocation.asJson files), files)
  | .show =>
      (mainOutput ext.floatFormat invocation.asJson
        (cmdLedgerShow ext path invocation.asJson files), files)
  | .record args =>
      let (result, after) := cmdLedgerRecord ext path args invocation.callables
        invocation.storage invocation.asJson files
      (mainOutput ext.floatFormat invocation.asJson result, after)

/-! ### Exit statuses -/

theorem status_raiseIntegrity (exc : LedgerError) : (raiseIntegrity exc).status = 1 := by
  cases exc <;> rfl

variable {ext} {path : String} {files : P → Option String}

omit [DecidableEq P] in
theorem status_raiseRecord (exc : LedgerExc) : (raiseRecord ext exc).status = 1 := by
  rcases exc with (_ | _) | _ | _ | _ <;> rfl

/-! ### What the commands do with a ledger -/

omit [DecidableEq P] in
theorem fromJsonl_unverified {ext : LedgerExternals} {path : P} {contents : String}
    (h : files path = some contents) :
    fromJsonl ext path files false =
      (loadJsonl ext contents).map fun entries => ⟨⟨entries, true⟩, some path, files⟩ := by
  unfold fromJsonl openLedger
  rw [Option.bind_some, h]
  dsimp only
  cases loadJsonl ext contents <;> rfl

omit [DecidableEq P] in
/-- A file that is there is read without verification. -/
theorem loadPolicyLedger_eq_ok_iff {ledger : PolicyDeploymentLedger} :
    loadPolicyLedger ext path files = .ok ledger ↔ ∃ contents entries,
      files (ext.pathOf path) = some contents ∧
      loadJsonl ext.toLedgerExternals contents = .ok entries ∧ ledger = ⟨entries, true⟩ := by
  unfold loadPolicyLedger
  cases hfile : files (ext.pathOf path) with
  | none =>
    rw [if_pos rfl]
    simp
  | some contents =>
    rw [if_neg (Option.some_ne_none contents), fromJsonl_unverified hfile]
    simp only [Option.some.injEq, exists_and_left, exists_eq_left']
    cases loadJsonl ext.toLedgerExternals contents with
    | error exc => cases exc <;> simp [Except.map]
    | ok entries => simp [Except.map, eq_comm]

omit [DecidableEq P] in
theorem status_loadPolicyLedger {exc : CliExc} (h : loadPolicyLedger ext path files = .error exc) :
    exc.status = 1 := by
  unfold loadPolicyLedger at h
  split_ifs at h
  · cases h
    rfl
  · split at h <;> cases h <;> rfl

/-- `head_hash()` of a usable ledger. -/
def headOf (entries : List PolicyActivationRecord) : Option String :=
  entries.getLast?.map (·.entryHash.text)

/-- What `ledger-verify` prints of a ledger that verifies, if the number of its entries has a
text. -/
def verifyOutput (ext : CliExternals P) (entries : List PolicyActivationRecord) (asJson : Bool) :
    Except CliExc CliOutput := do
  let count ← formatInt entries.length
  let head := strOrNone (headOf entries)
  pure (emitSuccess ext.floatFormat
    [("entries", .int entries.length), ("head_hash", dumpOption .str (headOf entries)),
      ("verified", .bool true)]
    asJson s!"allow: ledger verified\nentries: {count}\nhead_hash: {head}")

/-- What `ledger-show` prints of one; the number is in the text only. -/
def showOutput (ext : CliExternals P) (entries : List PolicyActivationRecord) (asJson : Bool) :
    Except CliExc CliOutput :=
  let payload := showPayload ext.toExternals entries (activeSnapshot entries) (headOf entries)
  if asJson then pure (emitSuccess ext.floatFormat payload true "")
  else do
    let count ← formatInt entries.length
    pure (emitSuccess ext.floatFormat payload false
      (showText count entries (activeSnapshot entries) (headOf entries)))

theorem exitStatus_formatInt_bind {F : FloatFormat} {asJson : Bool} {n : ℕ}
    {f : String → CliOutput} (hf : ∀ count, (f count).exitStatus = 0) :
    (mainOutput F asJson (formatInt n >>= fun count => pure (f count))).exitStatus =
      if IntFits n then 0 else 1 := by
  unfold formatInt
  split_ifs
  · exact hf _
  · exact exitStatus_mainOutput_error

omit [DecidableEq P] in
theorem exitStatus_verifyOutput {entries : List PolicyActivationRecord} {asJson : Bool} :
    (mainOutput ext.floatFormat asJson (verifyOutput ext entries asJson)).exitStatus =
      if IntFits entries.length then 0 else 1 :=
  exitStatus_formatInt_bind fun _ => exitStatus_emitSuccess

omit [DecidableEq P] in
theorem exitStatus_showOutput {entries : List PolicyActivationRecord} {asJson : Bool} :
    (mainOutput ext.floatFormat asJson (showOutput ext entries asJson)).exitStatus =
      if asJson = true ∨ IntFits entries.length then 0 else 1 := by
  cases asJson with
  | true => exact exitStatus_emitSuccess
  | false =>
    simp only [Bool.false_eq_true, false_or]
    exact exitStatus_formatInt_bind fun _ => exitStatus_emitSuccess

omit [DecidableEq P] in
/-- `ledger-verify`: the file is read, verified and counted. -/
theorem cmdLedgerVerify_eq {expectedHead : Option String} {asJson : Bool} :
    cmdLedgerVerify ext path expectedHead asJson files = (do
      let ledger ← loadPolicyLedger ext path files
      (ledger.verify ext.toExternals expectedHead).mapError raiseIntegrity
      verifyOutput ext ledger.entries asJson) := by
  unfold cmdLedgerVerify
  cases hload : loadPolicyLedger ext path files with
  | error exc => rfl
  | ok ledger =>
    obtain ⟨-, entries, -, -, rfl⟩ := loadPolicyLedger_eq_ok_iff.1 hload
    rfl

omit [DecidableEq P] in
theorem cmdLedgerShow_eq {asJson : Bool} :
    cmdLedgerShow ext path asJson files = (do
      let ledger ← loadPolicyLedger ext path files
      (ledger.verify ext.toExternals none).mapError raiseIntegrity
      showOutput ext ledger.entries asJson) := by
  unfold cmdLedgerShow
  cases hload : loadPolicyLedger ext path files with
  | error exc => rfl
  | ok ledger =>
    obtain ⟨-, entries, -, -, rfl⟩ := loadPolicyLedger_eq_ok_iff.1 hload
    rfl

omit [DecidableEq P] in
/-- A command that reads, verifies and prints does so if the ledger verifies, and raises
otherwise. -/
theorem reading_cases {expectedHead : Option String}
    (output : List PolicyActivationRecord → Except CliExc CliOutput)
    {result : Except CliExc CliOutput} (hresult : result = (do
      let ledger ← loadPolicyLedger ext path files
      (ledger.verify ext.toExternals expectedHead).mapError raiseIntegrity
      output ledger.entries)) :
    (∃ ledger, loadPolicyLedger ext path files = .ok ledger ∧
        ledger.verify ext.toExternals expectedHead = .ok () ∧
        result = output ledger.entries) ∨
      (∃ exc, exc.status = 1 ∧ result = .error exc) ∧
        ∀ ledger, loadPolicyLedger ext path files = .ok ledger →
          ledger.verify ext.toExternals expectedHead ≠ .ok () := by
  subst hresult
  cases hload : loadPolicyLedger ext path files with
  | error exc => exact .inr ⟨⟨exc, status_loadPolicyLedger hload, rfl⟩, by rintro _ ⟨⟩⟩
  | ok ledger =>
    have hbind : ∀ k : PolicyDeploymentLedger → Except CliExc CliOutput,
        ((.ok ledger : Except CliExc PolicyDeploymentLedger) >>= k) = k ledger := fun _ => rfl
    rw [hbind]
    cases hverify : ledger.verify ext.toExternals expectedHead with
    | ok u => exact .inl ⟨ledger, rfl, hverify, rfl⟩
    | error exc =>
      refine .inr ⟨⟨raiseIntegrity exc, status_raiseIntegrity exc, rfl⟩, ?_⟩
      rintro _ ⟨⟩ h
      rw [hverify] at h
      cases h

omit [DecidableEq P] in
/-- So it prints, or exits with 1. -/
theorem exitStatus_of_reading {expectedHead : Option String} (asJson : Bool)
    (output : List PolicyActivationRecord → Except CliExc CliOutput)
    {result : Except CliExc CliOutput} (hresult : result = (do
      let ledger ← loadPolicyLedger ext path files
      (ledger.verify ext.toExternals expectedHead).mapError raiseIntegrity
      output ledger.entries)) :
    (∃ ledger, loadPolicyLedger ext path files = .ok ledger ∧
        ledger.verify ext.toExternals expectedHead = .ok () ∧
        mainOutput ext.floatFormat asJson result =
          mainOutput ext.floatFormat asJson (output ledger.entries)) ∨
      (mainOutput ext.floatFormat asJson result).exitStatus = 1 ∧
        ∀ ledger, loadPolicyLedger ext path files = .ok ledger →
          ledger.verify ext.toExternals expectedHead ≠ .ok () := by
  rcases reading_cases output hresult with ⟨ledger, hload, hverify, rfl⟩ |
    ⟨⟨exc, hstatus, rfl⟩, hfails⟩
  · exact .inl ⟨ledger, hload, hverify, rfl⟩
  · exact .inr ⟨exitStatus_mainOutput_error.trans hstatus, hfails⟩

omit [DecidableEq P] in
theorem run_verify (path : String) (files : P → Option String) (expectedHead : Option String)
    (asJson : Bool) :
    (∃ ledger, loadPolicyLedger ext path files = .ok ledger ∧
        ledger.verify ext.toExternals expectedHead = .ok () ∧
        mainOutput ext.floatFormat asJson (cmdLedgerVerify ext path expectedHead asJson files) =
          mainOutput ext.floatFormat asJson (verifyOutput ext ledger.entries asJson)) ∨
      (mainOutput ext.floatFormat asJson
        (cmdLedgerVerify ext path expectedHead asJson files)).exitStatus = 1 ∧
        ∀ ledger, loadPolicyLedger ext path files = .ok ledger →
          ledger.verify ext.toExternals expectedHead ≠ .ok () :=
  exitStatus_of_reading asJson (fun entries => verifyOutput ext entries asJson) cmdLedgerVerify_eq

omit [DecidableEq P] in
theorem run_show (path : String) (files : P → Option String) (asJson : Bool) :
    (∃ ledger, loadPolicyLedger ext path files = .ok ledger ∧
        ledger.verify ext.toExternals none = .ok () ∧
        mainOutput ext.floatFormat asJson (cmdLedgerShow ext path asJson files) =
          mainOutput ext.floatFormat asJson (showOutput ext ledger.entries asJson)) ∨
      (mainOutput ext.floatFormat asJson (cmdLedgerShow ext path asJson files)).exitStatus = 1 ∧
        ∀ ledger, loadPolicyLedger ext path files = .ok ledger →
          ledger.verify ext.toExternals none ≠ .ok () :=
  exitStatus_of_reading asJson (fun entries => showOutput ext entries asJson) cmdLedgerShow_eq

/-! ### Records that are the same are shown alike -/

section Same

variable {xs ys : List PolicyActivationRecord}

theorem map_eq_of_forall₂_same {γ : Type} {f : PolicyActivationRecord → γ}
    (hf : ∀ {a b : PolicyActivationRecord}, a.Same b → f a = f b) (h : List.Forall₂ Same xs ys) :
    xs.map f = ys.map f := by
  induction h with
  | nil => rfl
  | cons hab _ ih => rw [List.map_cons, List.map_cons, hf hab, ih]

/-- A view of the active policies that does not look at the order of metadata. -/
theorem mapValues_activeSnapshot {γ : Type} {f : PolicyActivationRecord → γ}
    (hf : ∀ {a b : PolicyActivationRecord}, a.Same b → f a = f b) (h : List.Forall₂ Same xs ys) :
    (activeSnapshot xs).mapValues f = (activeSnapshot ys).mapValues f := by
  have hfold : ∀ active active' : Dict String PolicyActivationRecord,
      active.mapValues f = active'.mapValues f →
        (xs.foldl applyEvent active).mapValues f = (ys.foldl applyEvent active').mapValues f := by
    induction h with
    | nil => exact fun _ _ h => h
    | @cons a b xs ys hab _ ih =>
      intro active active' hactive
      refine ih _ _ ?_
      unfold applyEvent
      rw [hab.eventType, hab.policyId]
      by_cases hevent : b.eventType = .deactivate
      · rw [if_pos hevent, if_pos hevent, Dict.mapValues_erase, Dict.mapValues_erase, hactive]
      · rw [if_neg hevent, if_neg hevent, Dict.mapValues_set, Dict.mapValues_set, hactive, hf hab]
  exact hfold _ _ rfl

theorem headOf_of_same (h : List.Forall₂ Same xs ys) : headOf xs = headOf ys := by
  unfold headOf
  rw [← List.getLast?_map, ← List.getLast?_map,
    map_eq_of_forall₂_same (fun hab => congrArg NonblankStr.text hab.entryHash) h]

theorem sortKeys_dumpRecord {a b : PolicyActivationRecord} (h : a.Same b) (env : Externals) :
    sortKeys (dumpRecord env a) = sortKeys (dumpRecord env b) :=
  sortKeys_eq_of_emit_eq (readable_items env a) (readable_items env b) (h.jsonLine_eq env)

/-- What the line of an active policy says of the record. -/
def activeView (r : PolicyActivationRecord) : String × String × ℕ :=
  (r.interventionVersion.text, StrEnum.value r.eventType, r.sequence)

theorem map_activeLine (active : Dict String PolicyActivationRecord) :
    (sortedActive active).map activeLine =
      ((active.mapValues activeView).items.insertionSort fun a b => a.1 ≤ b.1).map fun item =>
        let policyId := item.1
        let version := item.2.1
        let event := item.2.2.1
        let sequence := item.2.2.2
        s!"  - {policyId} intervention={version} event={event} seq={sequence}" := by
  have hsort := List.map_insertionSort (r := fun a b : String × PolicyActivationRecord => a.1 ≤ b.1)
    (s := fun a b : String × String × String × ℕ => a.1 ≤ b.1)
    (fun item => (item.1, activeView item.2)) active.items fun a _ b _ => Iff.rfl
  rw [Dict.mapValues, ← hsort, List.map_map]
  rfl

/-- The text of `ledger-show` is the same. -/
theorem showText_of_same (h : List.Forall₂ Same xs ys) (count : String) :
    showText count xs (activeSnapshot xs) (headOf xs) =
      showText count ys (activeSnapshot ys) (headOf ys) := by
  have hview : ∀ {a b : PolicyActivationRecord}, a.Same b → activeView a = activeView b :=
    fun hab => by
      rw [activeView, activeView, hab.interventionVersion, hab.eventType, hab.sequence]
  have hviews := mapValues_activeSnapshot hview h
  have hactive : (sortedActive (activeSnapshot xs)).map activeLine =
      (sortedActive (activeSnapshot ys)).map activeLine := by
    rw [map_activeLine, map_activeLine, hviews]
  have hempty : (activeSnapshot xs).items = [] ↔ (activeSnapshot ys).items = [] := by
    have hmap : ∀ active : Dict String PolicyActivationRecord,
        (active.mapValues activeView).items = [] ↔ active.items = [] :=
      fun _ => List.map_eq_nil_iff
    rw [← hmap, ← hmap, hviews]
  have hhistory : xs.map historyLine = ys.map historyLine := by
    refine map_eq_of_forall₂_same (fun hab => ?_) h
    rw [historyLine, historyLine, hab.sequence, hab.eventType, hab.policyId,
      hab.interventionVersion, hab.entryHash]
  have hnil : xs = [] ↔ ys = [] := by
    rw [← List.length_eq_zero_iff, ← List.length_eq_zero_iff, h.length_eq]
  unfold showText
  rw [headOf_of_same h, hactive, hhistory]
  simp only [hempty, hnil]

/-- And so is its payload, once the keys are sorted. -/
theorem sortKeysPairs_showPayload (h : List.Forall₂ Same xs ys) (env : Externals) :
    sortKeysPairs (showPayload env xs (activeSnapshot xs) (headOf xs)) =
      sortKeysPairs (showPayload env ys (activeSnapshot ys) (headOf ys)) := by
  have hdump : ∀ {a b : PolicyActivationRecord}, a.Same b →
      sortKeys (dumpRecord env a) = sortKeys (dumpRecord env b) :=
    fun hab => sortKeys_dumpRecord hab env
  have hactive := congrArg Dict.items (mapValues_activeSnapshot hdump h)
  have hentries := map_eq_of_forall₂_same hdump h
  have hpairs : ∀ active : Dict String PolicyActivationRecord,
      sortKeysPairs (active.items.map fun item => (item.1, dumpRecord env item.2)) =
        (active.mapValues fun r => sortKeys (dumpRecord env r)).items := fun active => by
    rw [sortKeysPairs_eq_map, List.map_map]
    rfl
  simp only [showPayload, sortKeysPairs, sortKeys, sortKeysItems_eq_map, List.map_map, hpairs,
    hactive, headOf_of_same h]
  rw [show (sortKeys ∘ dumpRecord env) = fun r => sortKeys (dumpRecord env r) from rfl, hentries]

omit [DecidableEq P] in
theorem showOutput_of_same (h : List.Forall₂ Same xs ys) (asJson : Bool) :
    showOutput ext xs asJson = showOutput ext ys asJson := by
  have hbody : jsonText ext.floatFormat (("ok", .bool true) ::
      showPayload ext.toExternals xs (activeSnapshot xs) (headOf xs)) =
      jsonText ext.floatFormat (("ok", .bool true) ::
        showPayload ext.toExternals ys (activeSnapshot ys) (headOf ys)) := by
    unfold jsonText
    rw [Dict.items_ofPairs, Dict.items_ofPairs, sortKeys, sortKeys, sortKeysPairs, sortKeysPairs,
      sortKeysPairs_showPayload h]
    · exact (by decide : ["ok", "active_policies", "entries", "head_hash"].Nodup)
    · exact (by decide : ["ok", "active_policies", "entries", "head_hash"].Nodup)
  unfold showOutput emitSuccess
  simp only [hbody, showText_of_same h, h.length_eq]

omit [DecidableEq P] in
theorem verifyOutput_of_same (h : List.Forall₂ Same xs ys) (asJson : Bool) :
    verifyOutput ext xs asJson = verifyOutput ext ys asJson := by
  rw [verifyOutput, verifyOutput, headOf_of_same h, h.length_eq]

end Same

/-- A sealed head determines what is shown. Where `gco ledger-verify --expected-head` exits with 0
for one head on two files, `gco ledger-show` exits with 0 on both and prints the same, to the
letter, with and without `--json`. -/
theorem ledger_show_determined (ext : CliExternals P) (hsha256 : Function.Injective ext.sha256)
    (head path path' : String) (files files' : P → Option String) (verify verify' : Invocation)
    (hverify : verify.command = .verify (some head))
    (hverify' : verify'.command = .verify (some head))
    (h : (verify.run ext path files).1.exitStatus = 0)
    (h' : (verify'.run ext path' files').1.exitStatus = 0) (show₁ show₂ : Invocation)
    (hshow₁ : show₁.command = .show) (hshow₂ : show₂.command = .show)
    (hjson : show₁.asJson = show₂.asJson) :
    (show₁.run ext path files).1.exitStatus = 0 ∧
      (show₁.run ext path files).1 = (show₂.run ext path' files').1 := by
  -- both files are read as ledgers that verify against the head
  have hread : ∀ {path : String} {files : P → Option String} {i : Invocation},
      i.command = .verify (some head) → (i.run ext path files).1.exitStatus = 0 →
      ∃ ledger, loadPolicyLedger ext path files = .ok ledger ∧
        ledger.verify ext.toExternals (some head) = .ok () ∧ IntFits ledger.entries.length := by
    intro path files i hi hstatus
    rw [Invocation.run, hi] at hstatus
    dsimp only at hstatus
    rcases run_verify path files (some head) i.asJson with
      ⟨ledger, hload, hok, houtput⟩ | ⟨hone, -⟩
    · rw [houtput, exitStatus_verifyOutput] at hstatus
      exact ⟨ledger, hload, hok, by by_contra hfits; rw [if_neg hfits] at hstatus; cases hstatus⟩
    · rw [hone] at hstatus
      cases hstatus
  have hshow : ∀ {path : String} {files : P → Option String} {i : Invocation}
      {ledger : PolicyDeploymentLedger}, i.command = .show →
      loadPolicyLedger ext path files = .ok ledger →
      ledger.verify ext.toExternals (some head) = .ok () →
      (i.run ext path files).1 =
        mainOutput ext.floatFormat i.asJson (showOutput ext ledger.entries i.asJson) := by
    intro path files i ledger hi hload hok
    have hnone := PolicyDeploymentLedger.verify_none hok
    rw [Invocation.run, hi]
    dsimp only
    rcases run_show path files i.asJson with
      ⟨ledger', hload', -, houtput⟩ | ⟨-, hfails⟩
    · rw [hload] at hload'
      cases hload'
      exact houtput
    · exact absurd hnone (hfails ledger hload)
  obtain ⟨ledger, hload, hok, hfits⟩ := hread hverify h
  obtain ⟨ledger', hload', hok', -⟩ := hread hverify' h'
  have hsame := PolicyDeploymentLedger.forall₂_same_of_verify hsha256 hok hok'
  rw [hshow hshow₁ hload hok, hshow hshow₂ hload' hok', ← showOutput_of_same hsame, hjson,
    exitStatus_showOutput, if_pos (.inr hfits)]
  exact ⟨rfl, rfl⟩

/-! ### Reports -/

theorem plain_dumpOption (s : Option String) : Plain (dumpOption .str s) := by
  cases s <;> trivial

theorem plain_dumpRecord (env : Externals) (r : PolicyActivationRecord) :
    Plain (dumpRecord env r) := by
  have hmetadata : Plain (dumpMetadata r.metadata) := by
    refine plain_dict (by rw [List.map_map]; exact r.metadata.nodupKeys) ?_
    exact List.forall_mem_map.2 fun _ _ => trivial
  refine plain_dict (nodup_items env r) ?_
  simp [PolicyActivationRecord.items, plain_dumpOption, hmetadata, Plain, r.sequence_fits]

theorem plain_showPayload (env : Externals) (entries : List PolicyActivationRecord)
    (active : Dict String PolicyActivationRecord) (headHash : Option String) :
    ∀ kv ∈ showPayload env entries active headHash, Plain kv.2 := by
  have hactive : Plain (.dict (active.items.map fun item => (item.1, dumpRecord env item.2))) := by
    refine plain_dict (by rw [List.map_map]; exact active.nodupKeys) ?_
    exact List.forall_mem_map.2 fun item _ => plain_dumpRecord env item.2
  have hentries : Plain (.list (entries.map (dumpRecord env))) :=
    plain_list (List.forall_mem_map.2 fun r _ => plain_dumpRecord env r)
  simp [showPayload, hactive, hentries, plain_dumpOption]

/-- With `--json` every command, on every file, prints one line to `stdout` and nothing to `stderr`:
an object whose `ok` is true exactly if the command exits with 0. -/
theorem ledger_json_reports (ext : CliExternals P) (path : String) (files : P → Option String)
    (invocation : Invocation) (hjson : invocation.asJson = true) :
    (invocation.run ext path files).1.Reports ext.floatFormat := by
  obtain ⟨command, asJson, callables, storage⟩ := invocation
  cases hjson
  have herror : ∀ {exc : CliExc}, exc.status = 1 →
      (mainOutput ext.floatFormat true (.error exc)).Reports ext.floatFormat := by
    intro exc hstatus
    refine reports_mainOutput (by rintro _ ⟨⟩) ?_
    rintro _ ⟨⟩
    rw [hstatus]
    exact one_ne_zero
  cases command with
  | verify expectedHead =>
    show (mainOutput ext.floatFormat true _).Reports ext.floatFormat
    rcases reading_cases (fun entries => verifyOutput ext entries true) cmdLedgerVerify_eq with
      ⟨ledger, -, -, hresult⟩ | ⟨⟨exc, hstatus, hresult⟩, -⟩
    · rw [hresult]
      unfold verifyOutput formatInt
      split_ifs with hfits
      · refine reports_emitSuccess ?_ (by decide : "ok" ∉ ["entries", "head_hash", "verified"])
        simp [plain_dumpOption, Plain, hfits]
      · exact herror rfl
    · rw [hresult]
      exact herror hstatus
  | «show» =>
    show (mainOutput ext.floatFormat true _).Reports ext.floatFormat
    rcases reading_cases (fun entries => showOutput ext entries true) cmdLedgerShow_eq with
      ⟨ledger, -, -, hresult⟩ | ⟨⟨exc, hstatus, hresult⟩, -⟩
    · rw [hresult]
      exact reports_emitSuccess (plain_showPayload _ _ _ _)
        (by decide : "ok" ∉ ["active_policies", "entries", "head_hash"])
    · rw [hresult]
      exact herror hstatus
  | record args =>
    show (mainOutput ext.floatFormat true
      (cmdLedgerRecord ext path args callables storage true files).1).Reports ext.floatFormat
    unfold cmdLedgerRecord
    cases openLedger ext.toLedgerExternals (some (ext.pathOf path)) files true with
    | error exc => exact herror (status_raiseRecord _)
    | ok host =>
      dsimp only
      cases recordActivation ext.toLedgerExternals (.str args.policyId)
        (.str args.interventionVersion) args.options callables storage host with
      | error exc host' => exact herror (status_raiseRecord _)
      | ok record host' =>
        dsimp only
        cases host'.ledger.headHash with
        | error exc => exact herror (status_raiseIntegrity exc)
        | ok headHash =>
          show (recordOutput ext record headHash true).Reports ext.floatFormat
          unfold recordOutput
          refine reports_emitSuccess ?_ (by decide : "ok" ∉ ["head_hash", "record"])
          simp [plain_dumpOption, plain_dumpRecord]

/-! ### Sessions -/

/-- The file of the path holds the lines of a chain of records, and is there once there is one. -/
structure Holds (ext : CliExternals P) (path : String) (recorded : List PolicyActivationRecord)
    (files : P → Option String) : Prop where
  chained : Chained (links ext.toExternals) 0 genesisPrevHash recorded
  contents : ((files (ext.pathOf path)).getD "").toList = linesOf ext.toExternals recorded
  absent : files (ext.pathOf path) = none ↔ recorded = []

/-- The record says what the command was called with. -/
structure RecordArgs.Describes (args : RecordArgs) (r : PolicyActivationRecord) : Prop where
  policyId : r.policyId.text = args.policyId
  interventionVersion : r.interventionVersion.text = args.interventionVersion
  eventType : r.eventType = args.eventType
  deploymentId : r.deploymentId = args.deploymentId
  actor : r.actor = args.actor
  reason : r.reason = args.reason
  metadata : r.metadata = Dict.empty

/-- The checks of `record_activation` accept the arguments, over these records. -/
def Accepts (ext : CliExternals P) (recorded : List PolicyActivationRecord) (args : RecordArgs)
    (callables : LedgerCallables) : Prop :=
  ∃ r, Seals ext.toLedgerExternals recorded (.str args.policyId) (.str args.interventionVersion)
    args.options callables r

theorem dumpOption_str_injective {a b : Option String}
    (h : dumpOption .str a = dumpOption .str b) : a = b := by
  cases a <;> cases b <;> cases h <;> rfl

theorem Seals.describes {ext : LedgerExternals} {recorded : List PolicyActivationRecord}
    {args : RecordArgs} {callables : LedgerCallables} {r : PolicyActivationRecord}
    (h : Seals ext recorded (.str args.policyId) (.str args.interventionVersion) args.options
      callables r) : args.Describes r where
  policyId := (PyVal.str.inj h.policyId).symm
  interventionVersion := (PyVal.str.inj h.interventionVersion).symm
  eventType := (StrEnum.value_injective (PyVal.str.inj h.eventType)).symm
  deploymentId := (dumpOption_str_injective h.deploymentId).symm
  actor := (dumpOption_str_injective h.actor).symm
  reason := (dumpOption_str_injective h.reason).symm
  metadata := (Except.ok.inj h.metadata).symm

/-- The arguments and the records before it determine the record. -/
theorem Seals.unique {ext : LedgerExternals} {entries : List PolicyActivationRecord}
    {policyId interventionVersion : PyVal} {options : ActivationOptions}
    {callables : LedgerCallables} {r r' : PolicyActivationRecord}
    (h : Seals ext entries policyId interventionVersion options callables r)
    (h' : Seals ext entries policyId interventionVersion options callables r') : r = r' :=
  Except.ok.inj ((sealRecord_eq_ok_iff.2 h).symm.trans (sealRecord_eq_ok_iff.2 h'))

/-- Sealing looks at the number of the records and at the last hash. -/
theorem Seals.of_same {ext : LedgerExternals} {xs ys : List PolicyActivationRecord}
    {policyId interventionVersion : PyVal} {options : ActivationOptions}
    {callables : LedgerCallables} {r : PolicyActivationRecord}
    (h : Seals ext xs policyId interventionVersion options callables r)
    (hsame : List.Forall₂ Same xs ys) :
    Seals ext ys policyId interventionVersion options callables r :=
  { h with
    sequence := h.sequence.trans hsame.length_eq
    prevEntryHash := h.prevEntryHash.trans (tip_of_forall₂ links_of_same hsame genesisPrevHash) }

section Session

variable {recorded : List PolicyActivationRecord}

omit [DecidableEq P] in
/-- The file is read as its records, and they verify against their own head only. -/
theorem Holds.load (hext : ext.toLedgerExternals.ReadsBack) (h : Holds ext path recorded files) :
    (recorded ≠ [] → loadPolicyLedger ext path files = .ok ⟨recorded.map (·.reloaded), true⟩) ∧
      (recorded = [] → ∃ exc, loadPolicyLedger ext path files = .error exc) ∧
      ∀ expectedHead, PolicyDeploymentLedger.verify ext.toExternals
          ⟨recorded.map (·.reloaded), true⟩ expectedHead = .ok () ↔
        ∀ head, expectedHead = some head → headOf recorded = some head := by
  refine ⟨fun hne => ?_, fun hnil => ?_, fun expectedHead => ?_⟩
  · obtain ⟨contents, hfile⟩ := Option.ne_none_iff_exists'.1 (h.absent.not.2 hne)
    have hcontents := h.contents
    rw [hfile, Option.getD_some] at hcontents
    refine loadPolicyLedger_eq_ok_iff.2 ⟨contents, _, hfile, ?_, rfl⟩
    rw [← String.ofList_toList (s := contents), hcontents, loadJsonl_linesOf hext]
  · rw [loadPolicyLedger, if_pos (h.absent.2 hnil)]
    exact ⟨_, rfl⟩
  · rw [PolicyDeploymentLedger.verify_eq_ok_iff]
    have hhead : headOf (recorded.map (·.reloaded)) = headOf recorded :=
      headOf_of_same (forall₂_reloaded_same recorded)
    have hchained := chained_reloaded_iff.2 h.chained
    constructor
    · rintro ⟨-, -, hexpected⟩ head rfl
      exact hhead.symm.trans (hexpected head rfl)
    · intro hexpected
      exact ⟨rfl, hchained, fun head hsome => hhead.trans (hexpected head hsome)⟩

/-- `ledger-record` appends the line of the record it seals, or changes nothing. -/
theorem Holds.record (hext : ext.toLedgerExternals.ReadsBack) (h : Holds ext path recorded files)
    (args : RecordArgs) (callables : LedgerCallables) (asJson : Bool) :
    (∃ r, Seals ext.toLedgerExternals recorded (.str args.policyId)
          (.str args.interventionVersion) args.options callables r ∧
        cmdLedgerRecord ext path args callables .stored asJson files =
          (.ok (recordOutput ext r (some r.entryHash.text) asJson),
            appendText files (ext.pathOf path) (endedLine ext.toExternals r)) ∧
        Holds ext path (recorded ++ [r])
          (appendText files (ext.pathOf path) (endedLine ext.toExternals r))) ∨
      ¬Accepts ext recorded args callables ∧ ∃ exc, exc.status = 1 ∧
        cmdLedgerRecord ext path args callables .stored asJson files = (.error exc, files) := by
  have hopen : openLedger ext.toLedgerExternals (some (ext.pathOf path)) files true =
      .ok ⟨⟨recorded.map (·.reloaded), true⟩, some (ext.pathOf path), files⟩ :=
    fromJsonl_linesOf hext h.chained h.contents true
  unfold cmdLedgerRecord
  rw [hopen]
  dsimp only
  rw [recordActivation_stored rfl]
  dsimp only
  cases hseal : sealRecord ext.toLedgerExternals (recorded.map (·.reloaded)) (.str args.policyId)
      (.str args.interventionVersion) args.options callables with
  | ok r =>
    have hseals := (sealRecord_eq_ok_iff.1 hseal).of_same (forall₂_reloaded_same recorded)
    refine .inl ⟨r, hseals, ?_, hseals.chained h.chained, ?_, ?_⟩
    · dsimp only [LedgerHost.appended]
      have hlast : headOf (recorded.map (·.reloaded) ++ [r]) = some r.entryHash.text := by
        rw [headOf, List.getLast?_concat]
        rfl
      refine Prod.ext ?_ rfl
      show Except.ok (recordOutput ext r (headOf (recorded.map (·.reloaded) ++ [r])) asJson) = _
      rw [hlast]
    · rw [linesOf_concat, ← h.contents]
      simp [appendText]
    · simp [appendText]
  | error exc =>
    refine .inr ⟨?_, raiseRecord ext exc, status_raiseRecord exc, rfl⟩
    rintro ⟨r, hseals⟩
    have hok := sealRecord_eq_ok_iff.2 (hseals.of_same (forall₂_same_reloaded recorded))
    rw [hseal] at hok
    cases hok

/-- When a command succeeds over the records of the file. -/
def Invocation.Succeeds (ext : CliExternals P) (recorded : List PolicyActivationRecord)
    (invocation : Invocation) : Prop :=
  match invocation.command with
  | .verify expectedHead =>
      (recorded ≠ [] ∧ ∀ head, expectedHead = some head → headOf recorded = some head) ∧
        IntFits recorded.length
  | .show => recorded ≠ [] ∧ (invocation.asJson = true ∨ IntFits recorded.length)
  | .record args => Accepts ext recorded args invocation.callables

/-- The arguments a process has recorded. -/
def recordedBy (label : Invocation × CliOutput) : List RecordArgs :=
  match label.1.command with
  | .record args => if label.2.exitStatus = 0 then [args] else []
  | _ => []

/-- A process on the ledger at the path; a line it writes is stored. -/
def SessionStep (ext : CliExternals P) (path : String) (files : P → Option String)
    (label : Invocation × CliOutput) (files' : P → Option String) : Prop :=
  label.1.storage = .stored ∧ label.1.run ext path files = (label.2, files')

omit [DecidableEq P] in
/-- A command that reads the file and verifies it does so of the records that were put there. -/
theorem Holds.reads (hext : ext.toLedgerExternals.ReadsBack) (h : Holds ext path recorded files)
    (f : List PolicyActivationRecord → CliOutput) {expectedHead : Option String}
    {output : CliOutput} (houtput : (∃ ledger, loadPolicyLedger ext path files = .ok ledger ∧
        ledger.verify ext.toExternals expectedHead = .ok () ∧ output = f ledger.entries) ∨
      output.exitStatus = 1 ∧ ∀ ledger, loadPolicyLedger ext path files = .ok ledger →
        ledger.verify ext.toExternals expectedHead ≠ .ok ()) :
    (recorded ≠ [] ∧ ∀ head, expectedHead = some head → headOf recorded = some head) ∧
        output = f (recorded.map (·.reloaded)) ∨
      ¬(recorded ≠ [] ∧ ∀ head, expectedHead = some head → headOf recorded = some head) ∧
        output.exitStatus = 1 := by
  obtain ⟨hload, hmissing, hverify⟩ := h.load hext
  rcases houtput with ⟨ledger, hledger, hok, rfl⟩ | ⟨hone, hfails⟩
  · have hne : recorded ≠ [] := fun hnil => by
      obtain ⟨exc, hexc⟩ := hmissing hnil
      rw [hexc] at hledger
      cases hledger
    rw [hload hne] at hledger
    cases hledger
    exact .inl ⟨⟨hne, (hverify expectedHead).1 hok⟩, rfl⟩
  · refine .inr ⟨?_, hone⟩
    rintro ⟨hne, hhead⟩
    exact hfails _ (hload hne) ((hverify expectedHead).2 hhead)

omit [DecidableEq P] in
theorem Holds.verify_output (hext : ext.toLedgerExternals.ReadsBack)
    (h : Holds ext path recorded files) (expectedHead : Option String) (asJson : Bool) :
    (recorded ≠ [] ∧ ∀ head, expectedHead = some head → headOf recorded = some head) ∧
        mainOutput ext.floatFormat asJson (cmdLedgerVerify ext path expectedHead asJson files) =
          mainOutput ext.floatFormat asJson (verifyOutput ext recorded asJson) ∨
      ¬(recorded ≠ [] ∧ ∀ head, expectedHead = some head → headOf recorded = some head) ∧
        (mainOutput ext.floatFormat asJson
          (cmdLedgerVerify ext path expectedHead asJson files)).exitStatus = 1 := by
  rw [← verifyOutput_of_same (forall₂_reloaded_same recorded)]
  exact h.reads hext (fun entries => mainOutput _ asJson (verifyOutput ext entries asJson))
    (run_verify path files expectedHead asJson)

/-- The head that is accepted is the one of the records there are, if their number has a text. -/
theorem Holds.accepts_head (hext : ext.toLedgerExternals.ReadsBack)
    (h : Holds ext path recorded files) {invocation : Invocation} {head : String}
    (hverify : invocation.command = .verify (some head)) :
    (invocation.run ext path files).1.exitStatus = 0 ↔
      headOf recorded = some head ∧ IntFits recorded.length := by
  rw [Invocation.run, hverify]
  dsimp only
  rcases h.verify_output hext (some head) invocation.asJson with
    ⟨⟨-, hhead⟩, houtput⟩ | ⟨hnot, hone⟩
  · rw [houtput, exitStatus_verifyOutput, and_iff_right (hhead head rfl)]
    split_ifs with hfits <;> simp [hfits]
  · rw [hone]
    refine iff_of_false one_ne_zero fun ⟨hhead, _⟩ => hnot ⟨?_, ?_⟩
    · rintro rfl
      cases hhead
    · rintro _ ⟨⟩
      exact hhead

omit [DecidableEq P] in
theorem Holds.show_output (hext : ext.toLedgerExternals.ReadsBack)
    (h : Holds ext path recorded files) (asJson : Bool) :
    recorded ≠ [] ∧ mainOutput ext.floatFormat asJson (cmdLedgerShow ext path asJson files) =
        mainOutput ext.floatFormat asJson (showOutput ext recorded asJson) ∨
      ¬recorded ≠ [] ∧
        (mainOutput ext.floatFormat asJson (cmdLedgerShow ext path asJson files)).exitStatus =
          1 := by
  have hnone : (recorded ≠ [] ∧ ∀ head, (none : Option String) = some head →
      headOf recorded = some head) ↔ recorded ≠ [] := and_iff_left (by rintro _ ⟨⟩)
  rw [← hnone, ← showOutput_of_same (forall₂_reloaded_same recorded)]
  exact h.reads hext (fun entries => mainOutput _ asJson (showOutput ext entries asJson))
    (run_show path files asJson)

theorem run_record {i : Invocation} {args : RecordArgs} {result : Except CliExc CliOutput}
    {after : P → Option String} (hrecord : i.command = .record args)
    (h : cmdLedgerRecord ext path args i.callables i.storage i.asJson files = (result, after)) :
    i.run ext path files = (mainOutput ext.floatFormat i.asJson result, after) := by
  rw [Invocation.run, hrecord]
  dsimp only
  rw [h]

/-- What a command does to the file: a `ledger-record` that succeeds appends its record, and nothing
else changes any file. -/
theorem Holds.run (hext : ext.toLedgerExternals.ReadsBack) (h : Holds ext path recorded files)
    {invocation : Invocation} (hstored : invocation.storage = .stored) :
    (invocation.Succeeds ext recorded ∧ (invocation.run ext path files).1.exitStatus = 0 ∨
        ¬invocation.Succeeds ext recorded ∧
          (invocation.run ext path files).1.exitStatus = 1 ∧
          (invocation.run ext path files).2 = files) ∧
      (∀ q ≠ ext.pathOf path, (invocation.run ext path files).2 q = files q) ∧
      ∃ added, List.Forall₂ RecordArgs.Describes
          (recordedBy (invocation, (invocation.run ext path files).1)) added ∧
        Holds ext path (recorded ++ added) (invocation.run ext path files).2 := by
  obtain ⟨command, asJson, callables, storage⟩ := invocation
  cases hstored
  cases command with
  | verify expectedHead =>
    refine ⟨?_, fun q _ => rfl, [], .nil, by rwa [List.append_nil]⟩
    rcases h.verify_output hext expectedHead asJson with ⟨hreads, houtput⟩ | ⟨hfails, hone⟩
    · have hstatus := (congrArg CliOutput.exitStatus houtput).trans exitStatus_verifyOutput
      by_cases hfits : IntFits recorded.length
      · exact .inl ⟨⟨hreads, hfits⟩, hstatus.trans (if_pos hfits)⟩
      · exact .inr ⟨fun h => hfits h.2, hstatus.trans (if_neg hfits), rfl⟩
    · exact .inr ⟨fun h => hfails h.1, hone, rfl⟩
  | «show» =>
    refine ⟨?_, fun q _ => rfl, [], .nil, by rwa [List.append_nil]⟩
    rcases h.show_output hext asJson with ⟨hreads, houtput⟩ | ⟨hfails, hone⟩
    · have hstatus := (congrArg CliOutput.exitStatus houtput).trans exitStatus_showOutput
      by_cases hfits : asJson = true ∨ IntFits recorded.length
      · exact .inl ⟨⟨hreads, hfits⟩, hstatus.trans (if_pos hfits)⟩
      · exact .inr ⟨fun h => hfits h.2, hstatus.trans (if_neg hfits), rfl⟩
    · exact .inr ⟨fun h => hfails h.1, hone, rfl⟩
  | record args =>
    rcases h.record hext args callables asJson with
      ⟨r, hseals, hrun, hafter⟩ | ⟨hrefused, exc, hstatus, hrun⟩
    · have hinvocation := run_record (i := ⟨.record args, asJson, callables, .stored⟩) rfl hrun
      have hzero : (mainOutput ext.floatFormat asJson
          (.ok (recordOutput ext r (some r.entryHash.text) asJson))).exitStatus = 0 :=
        exitStatus_emitSuccess
      rw [hinvocation]
      refine ⟨.inl ⟨⟨r, hseals⟩, hzero⟩, fun q hq => Function.update_of_ne hq _ _, [r], ?_, hafter⟩
      dsimp only [recordedBy]
      rw [if_pos hzero]
      exact .cons hseals.describes .nil
    · have hinvocation := run_record (i := ⟨.record args, asJson, callables, .stored⟩) rfl hrun
      have hone : (mainOutput ext.floatFormat asJson (.error exc)).exitStatus = 1 :=
        exitStatus_mainOutput_error.trans hstatus
      rw [hinvocation]
      refine ⟨.inr ⟨hrefused, hone, rfl⟩, fun q _ => rfl, [], ?_, by rwa [List.append_nil]⟩
      dsimp only [recordedBy]
      rw [hone, if_neg one_ne_zero]
      exact .nil

/-- The calls have appended their records to the file, and no other file has changed. -/
def Appended (ext : CliExternals P) (path : String) (recorded : List PolicyActivationRecord)
    (files : P → Option String) (calls : List RecordArgs) (files' : P → Option String) : Prop :=
  (∀ q ≠ ext.pathOf path, files' q = files q) ∧
    ∃ added, List.Forall₂ RecordArgs.Describes calls added ∧
      Holds ext path (recorded ++ added) files'

theorem Appended.step (hext : ext.toLedgerExternals.ReadsBack) {calls : List RecordArgs}
    {files₁ files₂ : P → Option String} {label : Invocation × CliOutput}
    (h : Appended ext path recorded files calls files₁)
    (hstep : SessionStep ext path files₁ label files₂) :
    Appended ext path recorded files (calls ++ recordedBy label) files₂ := by
  obtain ⟨invocation, output⟩ := label
  obtain ⟨hother, added, hcalls, hholds⟩ := h
  obtain ⟨hstored, hstep⟩ := hstep
  obtain ⟨-, hframe, new, hnew, hafter⟩ := hholds.run hext hstored
  rw [hstep] at hframe hnew hafter
  refine ⟨fun q hq => (hframe q hq).trans (hother q hq), added ++ new, ?_, ?_⟩
  · exact List.rel_append hcalls hnew
  · rwa [← List.append_assoc]

/-- And what a session does. -/
theorem Holds.session (hext : ext.toLedgerExternals.ReadsBack) (h : Holds ext path recorded files)
    {labels : List (Invocation × CliOutput)} {files' : P → Option String}
    (hrun : Runs.Run (SessionStep ext path) files labels files') :
    Appended ext path recorded files (labels.flatMap recordedBy) files' := by
  have hinit : Appended ext path recorded files [] files :=
    ⟨fun _ _ => rfl, [], .nil, by rwa [List.append_nil]⟩
  rw [← List.nil_append (labels.flatMap recordedBy)]
  refine Runs.Run.records (R := Appended ext path recorded files) ?_ hinit hrun
  exact Appended.step hext

end Session

/-- A session on a ledger that does not exist yet. Its file comes to hold one line for each
`ledger-record` that exited with 0, in order, sealed into a chain, and no other file changes. What
it holds decides every next command: `ledger-record` succeeds when the checks accept its arguments,
`ledger-verify` when there are records and their head is the expected one, and `ledger-show` when
there are records, which it shows. Any other command exits with 1 and leaves the files. -/
theorem ledger_session (ext : CliExternals P) (hext : ext.toLedgerExternals.ReadsBack)
    (path : String) (files files' : P → Option String) (habsent : files (ext.pathOf path) = none)
    (labels : List (Invocation × CliOutput))
    (hrun : Runs.Run (SessionStep ext path) files labels files') :
    (∀ q ≠ ext.pathOf path, files' q = files q) ∧
      ∃ recorded, List.Forall₂ RecordArgs.Describes (labels.flatMap recordedBy) recorded ∧
        Holds ext path recorded files' ∧
        (∀ invocation : Invocation, invocation.storage = .stored →
          invocation.Succeeds ext recorded ∧ (invocation.run ext path files').1.exitStatus = 0 ∨
            ¬invocation.Succeeds ext recorded ∧
              (invocation.run ext path files').1.exitStatus = 1 ∧
              (invocation.run ext path files').2 = files') ∧
        ∀ invocation : Invocation, invocation.command = .show → recorded ≠ [] →
          (invocation.run ext path files').1 = mainOutput ext.floatFormat invocation.asJson
            (showOutput ext recorded invocation.asJson) := by
  have hinit : Holds ext path [] files := ⟨trivial, by rw [habsent]; rfl, by simp [habsent]⟩
  obtain ⟨hother, recorded, hcalls, hholds⟩ := hinit.session hext hrun
  rw [List.nil_append] at hholds
  refine ⟨hother, recorded, hcalls, hholds, fun _ hstored => (hholds.run hext hstored).1, ?_⟩
  intro invocation hshow hne
  rw [Invocation.run, hshow]
  rcases hholds.show_output hext invocation.asJson with ⟨-, houtput⟩ | ⟨hnil, -⟩
  · exact houtput
  · exact absurd hne hnil

/-- A head that `ledger-verify` accepts is accepted until the next record: at a later point of the
session `ledger-verify --expected-head` exits with 0 on it exactly if no `ledger-record` in between
did. -/
theorem expected_head_until_next_record (ext : CliExternals P)
    (hext : ext.toLedgerExternals.ReadsBack) (hsha256 : Function.Injective ext.sha256)
    (path head : String) (files₀ files files' : P → Option String)
    (habsent : files₀ (ext.pathOf path) = none) (earlier later : List (Invocation × CliOutput))
    (hearlier : Runs.Run (SessionStep ext path) files₀ earlier files)
    (hlater : Runs.Run (SessionStep ext path) files later files') (verify verify' : Invocation)
    (hverify : verify.command = .verify (some head))
    (hverify' : verify'.command = .verify (some head))
    (haccepted : (verify.run ext path files).1.exitStatus = 0) :
    (verify'.run ext path files').1.exitStatus = 0 ↔ later.flatMap recordedBy = [] := by
  have hinit : Holds ext path [] files₀ := ⟨trivial, by rw [habsent]; rfl, by simp [habsent]⟩
  obtain ⟨-, recorded, -, hholds⟩ := hinit.session hext hearlier
  rw [List.nil_append] at hholds
  obtain ⟨-, added, hcalls, hafter⟩ := hholds.session hext hlater
  obtain ⟨hhead, hfits⟩ := (hholds.accepts_head hext hverify).1 haccepted
  rw [hafter.accepts_head hext hverify', ← List.length_eq_zero_iff, hcalls.length_eq,
    List.length_eq_zero_iff]
  constructor
  · rintro ⟨hhead', -⟩
    have hsame := hholds.chained.forall₂_of_head (links_commits hsha256) hafter.chained hhead hhead'
    have hlength := hsame.length_eq
    rw [List.length_append] at hlength
    exact List.length_eq_zero_iff.1 (by omega)
  · rintro rfl
    rw [List.append_nil]
    exact ⟨hhead, hfits⟩

/-! ### A session that records two versions of a policy -/

def demoCli : CliExternals String :=
  { demoReplayReads with
    pathOf := id
    strOf := fun _ => "Exception" }

/-- The arguments of `ledger-record` that lead to a record. -/
def demoRecordArgs (r : PolicyActivationRecord) : RecordArgs :=
  ⟨r.policyId.text, r.interventionVersion.text, .activate, none, none, none⟩

def demoRecordCall (r : PolicyActivationRecord) : Invocation where
  command := .record (demoRecordArgs r)
  asJson := false
  callables := ⟨.ok r.recordedAt.toPy, .ok (.str r.eventId.text)⟩
  storage := .stored

/-- `ledger-verify --expected-head` with the head after the first record. -/
def demoVerifyCall : Invocation where
  command := .verify (some newerActivation.entryHash.text)
  asJson := true
  callables := demoCallables
  storage := .stored

def demoShowCall : Invocation := { demoVerifyCall with command := .show }

theorem demoCli_injective : Function.Injective demoCli.sha256 :=
  tableHash_entryText_injective (by decide +kernel) (by decide +kernel)

/-- A call leads to its record, where that record is sealed. -/
theorem run_demoRecordCall {path : String} {recorded : List PolicyActivationRecord}
    {files : String → Option String} (h : Holds demoCli path recorded files)
    {r : PolicyActivationRecord} (hseals : Seals demoReplayReads recorded (.str r.policyId.text)
      (.str r.interventionVersion.text) (demoRecordArgs r).options (demoRecordCall r).callables r) :
    ∃ files', SessionStep demoCli path files
        (demoRecordCall r, recordOutput demoCli r (some r.entryHash.text) false) files' ∧
      Holds demoCli path (recorded ++ [r]) files' := by
  rcases h.record demoReplayReads_readsBack (demoRecordArgs r) (demoRecordCall r).callables false
    with ⟨r', hseals', hrun, hholds⟩ | ⟨hrefused, -⟩
  · cases hseals.unique hseals'
    exact ⟨_, ⟨rfl, run_record rfl hrun⟩, hholds⟩
  · exact absurd ⟨r, hseals⟩ hrefused

theorem seals_demoFirst : Seals demoReplayReads [] (.str "p") (.str "v2")
    (demoRecordArgs newerActivation).options (demoRecordCall newerActivation).callables
      newerActivation :=
  { seals_newer with
    recordedAt := rfl
    eventId := eventIdOf_str newerActivation.eventId.nonblank demoCallables.idFactory }

theorem seals_demoSecond : Seals demoReplayReads [newerActivation] (.str "p") (.str "v1")
    (demoRecordArgs olderActivation).options (demoRecordCall olderActivation).callables
      olderActivation :=
  { seals_older with
    recordedAt := rfl
    eventId := eventIdOf_str olderActivation.eventId.nonblank demoCallables.idFactory }

/-- A ledger after the first call. -/
theorem exists_demoFirst (path : String) :
    ∃ files, SessionStep demoCli path (fun _ => none) (demoRecordCall newerActivation,
        recordOutput demoCli newerActivation (some newerActivation.entryHash.text) false) files ∧
      Holds demoCli path [newerActivation] files := by
  have hnew : Holds demoCli path [] fun _ => none := ⟨trivial, rfl, by simp⟩
  exact run_demoRecordCall (r := newerActivation) hnew seals_demoFirst

/-- And after the second, with the head checked in between. -/
theorem exists_demoSecond (path : String) : ∃ files output files',
    Runs.Run (SessionStep demoCli path) (fun _ => none)
      [(demoRecordCall newerActivation,
          recordOutput demoCli newerActivation (some newerActivation.entryHash.text) false),
        (demoVerifyCall, output),
        (demoRecordCall olderActivation,
          recordOutput demoCli olderActivation (some olderActivation.entryHash.text) false)]
      files' ∧
      Holds demoCli path [newerActivation] files ∧
      Holds demoCli path [newerActivation, olderActivation] files' := by
  obtain ⟨files, hfirst, hholds⟩ := exists_demoFirst path
  obtain ⟨files', hsecond, hholds'⟩ :=
    run_demoRecordCall (r := olderActivation) hholds seals_demoSecond
  have hverify : SessionStep demoCli path files
      (demoVerifyCall, (demoVerifyCall.run demoCli path files).1) files := ⟨rfl, rfl⟩
  exact ⟨files, _, files', .cons hfirst (.cons hverify (.cons hsecond (.nil files'))), hholds,
    hholds'⟩

theorem headOf_newer : headOf [newerActivation] = some newerActivation.entryHash.text ∧
    IntFits [newerActivation].length := ⟨rfl, by decide⟩

theorem headOf_older : headOf [newerActivation, olderActivation] =
    some olderActivation.entryHash.text ∧ IntFits [newerActivation, olderActivation].length :=
  ⟨rfl, by decide⟩

/-- `ledger-verify --expected-head` with the head after the second record. -/
def demoHeadCall : Invocation :=
  { demoVerifyCall with command := .verify (some olderActivation.entryHash.text) }

/-- A file with the two records after an empty line. -/
def demoSpacedFiles : String → Option String := fun _ =>
  some (String.ofList ('\n' :: linesOf demoCli.toExternals [newerActivation, olderActivation]))

theorem loadJsonl_empty_line {ext : LedgerExternals} (hext : ext.ReadsBack)
    (entries : List PolicyActivationRecord) :
    loadJsonl ext (String.ofList ('\n' :: linesOf ext.toExternals entries)) =
      .ok (entries.map (·.reloaded)) := by
  have hcr : '\r' ∉ '\n' :: linesOf ext.toExternals entries := by
    simpa using cr_notMem_linesOf ext.toExternals entries
  have hempty : strip (String.ofList [].reverse) = "" := by decide +kernel
  rw [loadJsonl_eq, readText, String.toList_ofList, newlines_of_notMem hcr, splitlines,
    String.toList_ofList, lines_newline, lines_linesOf, List.map_cons, loadLines, if_pos hempty,
    loadLines_jsonLines hext]

theorem demoHeadCall_spaced {path : String} {files : String → Option String}
    (h : Holds demoCli path [newerActivation, olderActivation] files) :
    (demoHeadCall.run demoCli "spaced.jsonl" demoSpacedFiles).1.exitStatus = 0 := by
  have hload : loadPolicyLedger demoCli "spaced.jsonl" demoSpacedFiles =
      .ok ⟨[newerActivation, olderActivation].map (·.reloaded), true⟩ :=
    loadPolicyLedger_eq_ok_iff.2
      ⟨_, _, rfl, loadJsonl_empty_line demoReplayReads_readsBack _, rfl⟩
  have hverify := ((h.load demoReplayReads_readsBack).2.2 (some olderActivation.entryHash.text)).2
    (by rintro _ ⟨⟩; rfl)
  rw [Invocation.run, demoHeadCall]
  dsimp only
  rcases @run_verify String demoCli "spaced.jsonl" demoSpacedFiles
      (some olderActivation.entryHash.text) true with ⟨ledger, hledger, -, houtput⟩ | ⟨-, hfails⟩
  · rw [hload] at hledger
    cases hledger
    rw [show demoVerifyCall.asJson = true from rfl, houtput, exitStatus_verifyOutput]
    exact if_pos (by decide)
  · exact absurd hverify (hfails _ hload)

/-- The file of a session, and another one with the same head, are shown alike. -/
theorem ledger_show_determined_demo : ∃ files,
    (demoShowCall.run demoCli "a.jsonl" files).1.exitStatus = 0 ∧
      (demoShowCall.run demoCli "a.jsonl" files).1 =
        (demoShowCall.run demoCli "spaced.jsonl" demoSpacedFiles).1 := by
  obtain ⟨-, -, files, -, -, hholds⟩ := exists_demoSecond "a.jsonl"
  exact ⟨files, ledger_show_determined demoCli demoCli_injective olderActivation.entryHash.text
    "a.jsonl" "spaced.jsonl" files demoSpacedFiles demoHeadCall demoHeadCall rfl rfl
    ((hholds.accepts_head demoReplayReads_readsBack rfl).2 headOf_older)
    (demoHeadCall_spaced hholds) demoShowCall demoShowCall rfl rfl rfl⟩

/-- A file with two records, a file that is missing, and a record that is not stored. -/
theorem ledger_json_reports_demo :
    (demoShowCall.run demoCli "spaced.jsonl" demoSpacedFiles).1.Reports demoCli.floatFormat ∧
      (demoVerifyCall.run demoCli "missing.jsonl" fun _ => none).1.Reports demoCli.floatFormat ∧
      (Invocation.run demoCli "a.jsonl" { demoRecordCall newerActivation with
        asJson := true
        storage := .failed (some 7) "No space left on device" } fun _ => none).1.Reports
          demoCli.floatFormat :=
  ⟨ledger_json_reports demoCli _ _ demoShowCall rfl,
    ledger_json_reports demoCli _ _ demoVerifyCall rfl, ledger_json_reports demoCli _ _ _ rfl⟩

/-- What the two calls recorded is shown. -/
theorem ledger_session_demo : ∃ r r' files,
    (demoRecordArgs newerActivation).Describes r ∧ (demoRecordArgs olderActivation).Describes r' ∧
      (demoShowCall.run demoCli "a.jsonl" files).1 =
        mainOutput demoCli.floatFormat true (showOutput demoCli [r, r'] true) := by
  obtain ⟨-, output, files, hrun, -⟩ := exists_demoSecond "a.jsonl"
  obtain ⟨-, recorded, hcalls, -, -, hshow⟩ := ledger_session demoCli demoReplayReads_readsBack
    "a.jsonl" (fun _ => none) files rfl _ hrun
  have hcalls' : List.Forall₂ RecordArgs.Describes
      [demoRecordArgs newerActivation, demoRecordArgs olderActivation] recorded := hcalls
  obtain ⟨r, rest, hdescribes, hrest, rfl⟩ := List.forall₂_cons_left_iff.1 hcalls'
  obtain ⟨r', rest', hdescribes', hrest', rfl⟩ := List.forall₂_cons_left_iff.1 hrest
  cases hrest'
  exact ⟨r, r', files, hdescribes, hdescribes', hshow demoShowCall rfl (List.cons_ne_nil r _)⟩

/-- And after the second call the head of the first is not accepted any more. -/
theorem expected_head_until_next_record_demo : ∃ files,
    (demoVerifyCall.run demoCli "a.jsonl" files).1.exitStatus ≠ 0 := by
  obtain ⟨files, hstep, hholds⟩ := exists_demoFirst "a.jsonl"
  obtain ⟨files', hstep', -⟩ := run_demoRecordCall (r := olderActivation) hholds seals_demoSecond
  refine ⟨files', fun hzero => ?_⟩
  have hnone := (expected_head_until_next_record demoCli demoReplayReads_readsBack
    demoCli_injective "a.jsonl" newerActivation.entryHash.text (fun _ => none) files files' rfl _ _
    (.cons hstep (.nil files)) (.cons hstep' (.nil files')) demoVerifyCall demoVerifyCall rfl rfl
    ((hholds.accepts_head demoReplayReads_readsBack rfl).2 headOf_newer)).1 hzero
  cases hnone

end Gco
