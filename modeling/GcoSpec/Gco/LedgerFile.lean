import GcoSpec.Gco.LedgerRecord

/-!
# A ledger and its file

A `LedgerHost` is a ledger, the path it was given and the files around it. `recordActivation` checks
its arguments, seals a record over the last hash (`sealRecord`) and appends it, in memory and in the
file; `fromJsonl` reads a file into a new ledger; `exportJsonl` writes the whole chain to another.

* `sealRecord_eq_ok_iff`: what a sealed record is, given that all checks passed.
* `recordActivation_stored`: both ends of a call, when the storage raises nothing.
* `loadJsonl_linesOf`: a file of whole lines is read as the records it was written from.

A `str` is a text of Unicode scalar values: one with a lone surrogate, which `encode` refuses, is
not an argument of the model. A file holds a text, in UTF-8, with the line ends of POSIX.
-/

namespace Gco

open Python Python.Json HashChain

/-- What the operations of a ledger raise. -/
inductive LedgerExc
  | ledger (e : LedgerError)
  /-- What `json.dumps` raises: the `TypeError` of an object that is no JSON, or the `ValueError` of
  an integer beyond the digit limit. -/
  | dumpError
  /-- `ValidationError` of pydantic. -/
  | validationError
  /-- Whatever the clock or the id factory raises. -/
  | raised (e : Exc)

/-- The keyword arguments that `record_activation` and `record_from_gco` share. -/
structure ActivationOptions where
  eventType : PyVal := .str "activate"
  deploymentId : PyVal := .none
  actor : PyVal := .none
  reason : PyVal := .none
  metadata : Option (List (PyVal × PyVal)) := none
  recordedAt : Option PyDatetime := none
  eventId : PyVal := .none

/-- What `_now` and `_id_factory` return or raise when they are called. -/
structure LedgerCallables where
  now : Except Exc PyDatetime
  idFactory : Except Exc PyVal

/-- A ledger, its path, and the contents of the files. -/
structure LedgerHost (P : Type) where
  ledger : PolicyDeploymentLedger
  path : Option P
  files : P → Option String

/-- What comes of writing a line: all of it is stored, or an `OSError` with this text is raised when
`written` of its characters have reached the file (`none`: it has not been opened). -/
inductive Storage
  | stored
  | failed (written : Option ℕ) (text : String)

/-! ### Sealing a record -/

/-- `not x or not str(x).strip()`. The text of a value that is true is not blank, unless the value
is a text; an object of no other kind is taken to be true. -/
def isBlank : PyVal → Bool
  | .none => true
  | .bool b => !b
  | .int n => n = 0
  | .float x => x = .finite 0
  | .str s => strip s = ""
  | .list xs => xs.isEmpty
  | .dict items => items.isEmpty
  | .object _ => false

/-- `if bad: raise LedgerAppendError(text)`. -/
def rejectIf (bad : Prop) [Decidable bad] (text : String) : Except LedgerExc Unit :=
  if bad then .error (.ledger (.append text)) else .ok ()

/-- One item of `_normalize_metadata`. -/
def normalizeItem (item : PyVal × PyVal) : Except LedgerExc (String × String) :=
  match item.1.str?, item.2.str? with
  | some key, some value => do
      rejectIf (key = "") "metadata keys must be non-empty"
      pure (key, value)
  | _, _ => .error (.ledger (.append "metadata keys and values must be strings"))

/-- `_normalize_metadata`. -/
def normalizeMetadata : Option (List (PyVal × PyVal)) → Except LedgerExc (Dict String String)
  | none => .ok Dict.empty
  | some items => (items.mapM normalizeItem).map Dict.ofPairs

/-- `compute_entry_hash`, which raises what `json.dumps` raises. -/
def hashBody (env : Externals) (body : List (String × PyVal)) : Except LedgerExc String :=
  match dumpsSorted env.floatFormat ledgerStyle (.dict body) with
  | none => .error .dumpError
  | some canonical => .ok (env.sha256 canonical)

variable (ext : LedgerExternals)

/-- `ActivationEventType(event_type)`. -/
def eventTypeOf (x : PyVal) : Except LedgerExc ActivationEventType :=
  match readEventType x with
  | some eventType => .ok eventType
  | none =>
      let shown := ext.repr x
      .error (.ledger (.append s!"unknown event_type: {shown}"))

/-- `recorded_at if recorded_at is not None else self._now()`, when it is in UTC. -/
def recordingTime (recordedAt : Option PyDatetime) (now : Except Exc PyDatetime) :
    Except LedgerExc DateTime := do
  let when ← recordedAt.elim (now.mapError .raised) .ok
  rejectIf (when.utcoffset = none) "recorded_at must be timezone-aware UTC"
  rejectIf (when.utcoffset ≠ some 0) "recorded_at must be UTC"
  pure when.fields

/-- `event_id if event_id is not None else self._id_factory()`, when it is not blank. -/
def eventIdOf (eventId : PyVal) (idFactory : Except Exc PyVal) : Except LedgerExc PyVal := do
  let eid ← match eventId with
    | .none => idFactory.mapError .raised
    | x => .ok x
  rejectIf (isBlank eid) "event_id must be a non-empty string"
  pure eid

/-- The part of `record_activation` up to the record, which stores nothing. -/
def sealRecord (entries : List PolicyActivationRecord) (policyId interventionVersion : PyVal)
    (options : ActivationOptions) (callables : LedgerCallables) :
    Except LedgerExc PolicyActivationRecord := do
  let eventType ← eventTypeOf ext options.eventType
  rejectIf (isBlank policyId) "policy_id must be a non-empty string"
  rejectIf (isBlank interventionVersion) "intervention_version must be a non-empty string"
  let when ← recordingTime options.recordedAt callables.now
  let sequence := entries.length
  let prev := (entries.getLast?.map (·.entryHash.text)).getD genesisPrevHash
  let eid ← eventIdOf options.eventId callables.idFactory
  let metadata ← normalizeMetadata options.metadata
  let entryHash ← hashBody ext.toExternals
    [("actor", options.actor),
     ("deployment_id", options.deploymentId),
     ("event_id", eid),
     ("event_type", .str (StrEnum.value eventType)),
     ("intervention_version", interventionVersion),
     ("metadata", dumpMetadata metadata),
     ("policy_id", policyId),
     ("prev_entry_hash", .str prev),
     ("reason", options.reason),
     ("recorded_at", .str (isoformatUtc when)),
     ("sequence", .int sequence)]
  let fields : RecordFields :=
    { sequence := sequence
      eventId := eid
      recordedAt := when.toPy
      eventType := .str (StrEnum.value eventType)
      policyId := policyId
      interventionVersion := interventionVersion
      deploymentId := options.deploymentId
      actor := options.actor
      reason := options.reason
      metadata := dumpMetadata metadata
      prevEntryHash := .str prev
      entryHash := .str entryHash }
  match fields.validate with
  | none => .error .validationError
  | some record => .ok record

/-! ### Appending -/

variable {P : Type} [DecidableEq P]

/-- `ledger._ensure_usable()`. -/
def ensureUsable : Py LedgerExc (LedgerHost P) Unit := do
  let host ← get
  Py.ofExcept (host.ledger.ensureUsable.mapError .ledger)

/-- The files after a text was written at the end of one, which is there from then on. -/
def appendText (files : P → Option String) (path : P) (text : List Char) : P → Option String :=
  Function.update files path (some ((files path).getD "" ++ String.ofList text))

/-- The line a record takes in a file, with the newline that ends it. -/
def endedLine (env : Externals) (record : PolicyActivationRecord) : List Char :=
  jsonLine env record ++ ['\n']

/-- What the statements under `try` of `_append` do to the files, and the text of their
`OSError`. -/
def writeLine (files : P → Option String) (path : P) (line : List Char) :
    Storage → (P → Option String) × Option String
  | .stored => (appendText files path line, none)
  | .failed none text => (files, some text)
  | .failed (some written) text => (appendText files path (line.take written), some text)

/-- `_append`. -/
def append (record : PolicyActivationRecord) (storage : Storage) :
    Py LedgerExc (LedgerHost P) Unit := do
  ensureUsable
  let host ← get
  match host.path with
  | none => pure ()
  | some path => do
      let (files, failure) := writeLine host.files path (endedLine ext.toExternals record) storage
      set { host with files := files }
      match failure with
      | none => pure ()
      | some exc => do
          modify fun host => { host with ledger := { host.ledger with usable := false } }
          throw (.ledger (.append s!"failed to append ledger entry: {exc}"))
  modify fun host =>
    { host with ledger := { host.ledger with entries := host.ledger.entries ++ [record] } }

def recordActivation (policyId interventionVersion : PyVal) (options : ActivationOptions)
    (callables : LedgerCallables) (storage : Storage) :
    Py LedgerExc (LedgerHost P) PolicyActivationRecord := do
  ensureUsable
  let host ← get
  let record ← Py.ofExcept
    (sealRecord ext host.ledger.entries policyId interventionVersion options callables)
  append ext record storage
  pure record

def recordFromGco (gco : GCO) (options : ActivationOptions) (callables : LedgerCallables)
    (storage : Storage) : Py LedgerExc (LedgerHost P) PolicyActivationRecord :=
  let actor := match options.actor with
    | .none => .str gco.modelIdentity.text
    | actor => actor
  recordActivation ext (.str gco.policyId) (.str gco.interventionVersion)
    { options with actor := actor } callables storage

/-! ### Loading and exporting -/

/-- The loop of `_load_jsonl`, from a line number. -/
def loadLines : ℕ → List String → Except LedgerError (List PolicyActivationRecord)
  | _, [] => .ok []
  | lineNo, line :: rest =>
      if strip line = "" then loadLines (lineNo + 1) rest
      else match loadLine ext line with
        | .error exc => .error (.integrity s!"malformed ledger line {lineNo}: {exc}")
        | .ok record => (loadLines (lineNo + 1) rest).map (record :: ·)

/-- `_load_jsonl`, on the contents of the file. -/
def loadJsonl (contents : String) : Except LedgerError (List PolicyActivationRecord) :=
  let text := readText contents
  if strip text = "" then .ok [] else loadLines ext 1 (splitlines text)

/-- `PolicyDeploymentLedger(path=path, verify_on_load=verify)`. -/
def openLedger (path : Option P) (files : P → Option String) (verify : Bool) :
    Except LedgerError (LedgerHost P) :=
  match path.bind files with
  | none => .ok ⟨⟨[], true⟩, path, files⟩
  | some contents => do
      let entries ← loadJsonl ext contents
      let ledger : PolicyDeploymentLedger := ⟨entries, true⟩
      if verify then ledger.verify ext.toExternals none
      pure ⟨ledger, path, files⟩

/-- `PolicyDeploymentLedger.from_jsonl(path, verify=verify)`. -/
def fromJsonl (path : P) (files : P → Option String) (verify : Bool) :
    Except LedgerError (LedgerHost P) :=
  openLedger ext (some path) files verify

def toJsonlLines (ledger : PolicyDeploymentLedger) : Except LedgerError (List (List Char)) := do
  ledger.ensureUsable
  pure (ledger.entries.map (jsonLine ext.toExternals))

/-- `export_jsonl`, when the target can be written. -/
def exportJsonl (target : P) : Py LedgerExc (LedgerHost P) Unit := do
  ensureUsable
  let host ← get
  let lines ← Py.ofExcept ((toJsonlLines ext host.ledger).mapError .ledger)
  let payload := ['\n'].intercalate lines
  let payload := if payload = [] then payload else payload ++ ['\n']
  set { host with files := Function.update host.files target (some (String.ofList payload)) }

/-! ### What is sealed -/

theorem rejectIf_bind_of_bad {β : Type} {bad : Prop} [Decidable bad] {text : String}
    {f : Unit → Except LedgerExc β} (h : bad) :
    (rejectIf bad text >>= f) = .error (.ledger (.append text)) := by
  rw [rejectIf, if_pos h]
  rfl

theorem rejectIf_bind_eq_ok_iff {β : Type} {bad : Prop} [Decidable bad] {text : String}
    {f : Unit → Except LedgerExc β} {b : β} :
    (rejectIf bad text >>= f) = .ok b ↔ ¬bad ∧ f () = .ok b := by
  by_cases hbad : bad
  · rw [rejectIf_bind_of_bad hbad]
    simp [hbad]
  · rw [rejectIf, if_neg hbad]
    simp [hbad, bind, Except.bind]

variable {ext}

theorem eventTypeOf_eq_ok_iff {x : PyVal} {e : ActivationEventType} :
    eventTypeOf ext x = .ok e ↔ x = .str (StrEnum.value e) := by
  rw [← readEventType_eq_some_iff, eventTypeOf]
  cases readEventType x with
  | none => simp
  | some e' => simp

theorem hashBody_bodyForHash (env : Externals) (r : PolicyActivationRecord) :
    hashBody env r.bodyForHash = .ok (computeEntryHash env r.bodyForHash) := by
  rw [hashBody, dumpsSorted_bodyForHash]
  rfl

theorem isBlank_str {s : String} : isBlank (.str s) = true ↔ strip s = "" := by
  rw [isBlank, decide_eq_true_eq]

theorem eventIdOf_str {s : String} (h : strip s ≠ "") (idFactory : Except Exc PyVal) :
    eventIdOf (.str s) idFactory = .ok (.str s) := by
  have hblank : ¬isBlank (.str s) = true := by rwa [isBlank_str]
  unfold eventIdOf
  dsimp only
  exact except_bind_eq_ok_iff.2 ⟨.str s, rfl, rejectIf_bind_eq_ok_iff.2 ⟨hblank, rfl⟩⟩

/-- The record is the one the arguments describe, next after the entries, and it carries the hash of
its body. -/
structure Seals (ext : LedgerExternals) (entries : List PolicyActivationRecord)
    (policyId interventionVersion : PyVal) (options : ActivationOptions)
    (callables : LedgerCallables) (r : PolicyActivationRecord) : Prop where
  eventType : options.eventType = .str (StrEnum.value r.eventType)
  policyId : policyId = .str r.policyId.text
  policyId_nonblank : strip r.policyId.text ≠ ""
  interventionVersion : interventionVersion = .str r.interventionVersion.text
  interventionVersion_nonblank : strip r.interventionVersion.text ≠ ""
  recordedAt : recordingTime options.recordedAt callables.now = .ok r.recordedAt
  eventId : eventIdOf options.eventId callables.idFactory = .ok (.str r.eventId.text)
  metadata : normalizeMetadata options.metadata = .ok r.metadata
  deploymentId : options.deploymentId = dumpOption .str r.deploymentId
  actor : options.actor = dumpOption .str r.actor
  reason : options.reason = dumpOption .str r.reason
  sequence : r.sequence = entries.length
  prevEntryHash : r.prevEntryHash.text = tip (links ext.toExternals) genesisPrevHash entries
  intact : (links ext.toExternals).Intact r

/-- A chain goes on with the record that is sealed over it. -/
theorem Seals.chained {ext : LedgerExternals} {entries : List PolicyActivationRecord}
    {policyId interventionVersion : PyVal} {options : ActivationOptions}
    {callables : LedgerCallables} {r : PolicyActivationRecord}
    (h : Seals ext entries policyId interventionVersion options callables r)
    (hentries : Chained (links ext.toExternals) 0 genesisPrevHash entries) :
    Chained (links ext.toExternals) 0 genesisPrevHash (entries ++ [r]) := by
  rw [chained_concat, Nat.zero_add]
  exact ⟨hentries, h.sequence, h.prevEntryHash, h.intact⟩

theorem toPy_injective : Function.Injective DateTime.toPy := by
  intro s t h
  rw [DateTime.toPy, DateTime.toPy, PyDatetime.mk.injEq] at h
  exact h.1

variable {entries : List PolicyActivationRecord} {policyId interventionVersion : PyVal}
  {options : ActivationOptions} {callables : LedgerCallables} {r : PolicyActivationRecord}

/-- What `record_activation` seals when none of its checks fails. -/
theorem sealRecord_eq_ok_iff :
    sealRecord ext entries policyId interventionVersion options callables = .ok r ↔
      Seals ext entries policyId interventionVersion options callables r := by
  unfold sealRecord
  constructor
  · intro h
    obtain ⟨eventType, heventType, h⟩ := except_bind_eq_ok_iff.1 h
    obtain ⟨hpolicyId, h⟩ := rejectIf_bind_eq_ok_iff.1 h
    obtain ⟨hversion, h⟩ := rejectIf_bind_eq_ok_iff.1 h
    obtain ⟨when, hwhen, h⟩ := except_bind_eq_ok_iff.1 h
    obtain ⟨eid, heid, h⟩ := except_bind_eq_ok_iff.1 h
    obtain ⟨metadata, hmetadata, h⟩ := except_bind_eq_ok_iff.1 h
    obtain ⟨entryHash, hhash, h⟩ := except_bind_eq_ok_iff.1 h
    dsimp only at h
    split at h
    · cases h
    next record hvalidate =>
    cases h
    have hr := RecordFields.validate_eq_some_iff.1 hvalidate
    have hwhen' : when = r.recordedAt := toPy_injective hr.recordedAt
    have htype : eventType = r.eventType :=
      StrEnum.value_injective (PyVal.str.inj hr.eventType)
    have hmetadata' : metadata = r.metadata :=
      Option.some.inj ((readMetadata_dumpMetadata metadata).symm.trans hr.metadata)
    have hsequence : entries.length = r.sequence := Int.ofNat.inj hr.sequence
    have hprev := PyVal.str.inj hr.prevEntryHash
    have hentryHash := PyVal.str.inj hr.entryHash
    have heventId : eid = .str r.eventId.text := hr.eventId
    have hpolicy : policyId = .str r.policyId.text := hr.policyId
    have hinterventionVersion : interventionVersion = .str r.interventionVersion.text :=
      hr.interventionVersion
    have hdeployment : options.deploymentId = dumpOption .str r.deploymentId := hr.deploymentId
    have hactor : options.actor = dumpOption .str r.actor := hr.actor
    have hreason : options.reason = dumpOption .str r.reason := hr.reason
    -- what was hashed is the body of the record
    rw [hwhen', htype, hmetadata', hsequence, hprev, heventId, hpolicy, hinterventionVersion,
      hdeployment, hactor, hreason] at hhash
    have hintact := Except.ok.inj ((hashBody_bodyForHash ext.toExternals r).symm.trans hhash)
    rw [hpolicy, isBlank_str] at hpolicyId
    rw [hinterventionVersion, isBlank_str] at hversion
    exact
      { eventType := htype ▸ eventTypeOf_eq_ok_iff.1 heventType
        policyId := hpolicy
        policyId_nonblank := hpolicyId
        interventionVersion := hinterventionVersion
        interventionVersion_nonblank := hversion
        recordedAt := hwhen' ▸ hwhen
        eventId := heventId ▸ heid
        metadata := hmetadata' ▸ hmetadata
        deploymentId := hdeployment
        actor := hactor
        reason := hreason
        sequence := hsequence.symm
        prevEntryHash := hprev.symm
        intact := hentryHash.symm.trans hintact.symm }
  · intro h
    have hprev : (entries.getLast?.map (·.entryHash.text)).getD genesisPrevHash =
        r.prevEntryHash.text := h.prevEntryHash.symm
    have hhash : hashBody ext.toExternals r.bodyForHash = .ok r.entryHash.text := by
      rw [hashBody_bodyForHash, Except.ok.injEq]
      exact h.intact.symm
    refine except_bind_eq_ok_iff.2 ⟨r.eventType, eventTypeOf_eq_ok_iff.2 h.eventType,
      rejectIf_bind_eq_ok_iff.2 ⟨?_, rejectIf_bind_eq_ok_iff.2 ⟨?_,
        except_bind_eq_ok_iff.2 ⟨r.recordedAt, h.recordedAt, except_bind_eq_ok_iff.2
          ⟨_, h.eventId, except_bind_eq_ok_iff.2 ⟨_, h.metadata,
            except_bind_eq_ok_iff.2 ⟨r.entryHash.text, ?_, ?_⟩⟩⟩⟩⟩⟩⟩
    · rw [h.policyId, isBlank_str]
      exact h.policyId_nonblank
    · rw [h.interventionVersion, isBlank_str]
      exact h.interventionVersion_nonblank
    · rw [hprev, ← h.sequence, h.policyId, h.interventionVersion, h.deploymentId, h.actor, h.reason]
      exact hhash
    · dsimp only
      rw [hprev, ← h.sequence, h.policyId, h.interventionVersion, h.deploymentId, h.actor, h.reason]
      have hfields := validate_fields r
      rw [PolicyActivationRecord.fields] at hfields
      rw [hfields]

theorem sealRecord_of_blank {e : ActivationEventType}
    (heventType : options.eventType = .str (StrEnum.value e)) (hblank : isBlank policyId = true) :
    sealRecord ext entries policyId interventionVersion options callables =
      .error (.ledger (.append "policy_id must be a non-empty string")) := by
  rw [sealRecord, eventTypeOf_eq_ok_iff.2 heventType]
  show (rejectIf _ _ >>= _) = _
  rw [rejectIf_bind_of_bad hblank]

/-! ### What is recorded -/

variable {P : Type} [DecidableEq P]

/-- The host after the record was appended, with its line in the file if there is one. -/
def LedgerHost.appended (env : Externals) (host : LedgerHost P) (record : PolicyActivationRecord) :
    LedgerHost P where
  ledger := { host.ledger with entries := host.ledger.entries ++ [record] }
  path := host.path
  files := match host.path with
    | none => host.files
    | some path => appendText host.files path (endedLine env record)

omit [DecidableEq P] in
theorem ensureUsable_of_usable {host : LedgerHost P} (h : host.ledger.usable = true) :
    ensureUsable host = .ok () host := by
  show (Py.ofExcept (host.ledger.ensureUsable.mapError LedgerExc.ledger) : Py _ _ _) host = _
  rw [PolicyDeploymentLedger.ensureUsable_eq_ok_iff.2 h]
  rfl

omit [DecidableEq P] in
theorem ensureUsable_of_unusable {host : LedgerHost P} (h : host.ledger.usable = false) :
    ensureUsable host = .error
      (.ledger (.append "ledger is unusable after a previous append storage failure")) host := by
  show (Py.ofExcept (host.ledger.ensureUsable.mapError LedgerExc.ledger) : Py _ _ _) host = _
  rw [PolicyDeploymentLedger.ensureUsable, h]
  rfl

theorem append_stored {host : LedgerHost P} (h : host.ledger.usable = true)
    (record : PolicyActivationRecord) :
    append ext record .stored host = .ok () (host.appended ext.toExternals record) := by
  obtain ⟨ledger, path, files⟩ := host
  rw [append, bind_apply, ensureUsable_of_usable h]
  cases path with
  | none => rfl
  | some path => rfl

/-- A ledger without a file stores nothing, so that nothing can fail. -/
theorem append_in_memory {host : LedgerHost P} (h : host.ledger.usable = true)
    (hpath : host.path = none) (record : PolicyActivationRecord) (storage : Storage) :
    append ext record storage host = .ok () (host.appended ext.toExternals record) := by
  obtain ⟨ledger, path, files⟩ := host
  obtain rfl : path = none := hpath
  rw [append, bind_apply, ensureUsable_of_usable h]
  rfl

/-- A line that could not be stored leaves the records as they are, and the ledger unusable. -/
theorem append_failed {host : LedgerHost P} (h : host.ledger.usable = true) {path : P}
    (hpath : host.path = some path) (record : PolicyActivationRecord) (written : Option ℕ)
    (text : String) :
    append ext record (.failed written text) host =
      .error (.ledger (.append s!"failed to append ledger entry: {text}"))
        { host with
          ledger := { host.ledger with usable := false }
          files := (writeLine host.files path (endedLine ext.toExternals record)
            (.failed written text)).1 } := by
  obtain ⟨ledger, path', files⟩ := host
  obtain rfl : path' = some path := hpath
  rw [append, bind_apply, ensureUsable_of_usable h]
  cases written with
  | none => rfl
  | some written => rfl

theorem recordActivation_of_unusable {host : LedgerHost P} (h : host.ledger.usable = false)
    (storage : Storage) :
    recordActivation ext policyId interventionVersion options callables storage host = .error
      (.ledger (.append "ledger is unusable after a previous append storage failure")) host := by
  rw [recordActivation, bind_apply, ensureUsable_of_unusable h]

/-- A call on a usable ledger appends what it seals. -/
theorem recordActivation_of_usable {host : LedgerHost P} (h : host.ledger.usable = true)
    (storage : Storage) :
    recordActivation ext policyId interventionVersion options callables storage host =
      match sealRecord ext host.ledger.entries policyId interventionVersion options callables with
      | .ok record => (append ext record storage >>= fun _ => pure record) host
      | .error e => .error e host := by
  rw [recordActivation, bind_apply, ensureUsable_of_usable h]
  show (Py.ofExcept (sealRecord ext host.ledger.entries policyId interventionVersion options
    callables) >>= fun record => append ext record storage >>= fun _ => pure record) host = _
  rw [bind_apply]
  cases sealRecord ext host.ledger.entries policyId interventionVersion options callables with
  | error e => rfl
  | ok record => rfl

/-- A call on a usable ledger, when the storage raises nothing, appends what it seals or leaves
everything as it is. -/
theorem recordActivation_stored {host : LedgerHost P} (h : host.ledger.usable = true) :
    recordActivation ext policyId interventionVersion options callables .stored host =
      match sealRecord ext host.ledger.entries policyId interventionVersion options callables with
      | .ok record => .ok record (host.appended ext.toExternals record)
      | .error e => .error e host := by
  rw [recordActivation_of_usable h]
  cases sealRecord ext host.ledger.entries policyId interventionVersion options callables with
  | error e => rfl
  | ok record =>
    show (append ext record .stored >>= fun _ => pure record) host = _
    rw [bind_apply, append_stored h]
    rfl

/-- What a call that returned has done. -/
theorem of_recordActivation_stored {host host' : LedgerHost P} (h : host.ledger.usable = true)
    (hcall : recordActivation ext policyId interventionVersion options callables .stored host =
      .ok r host') :
    Seals ext host.ledger.entries policyId interventionVersion options callables r ∧
      host' = host.appended ext.toExternals r := by
  rw [recordActivation_stored h] at hcall
  cases hseal : sealRecord ext host.ledger.entries policyId interventionVersion options
      callables with
  | error e =>
    rw [hseal] at hcall
    cases hcall
  | ok record =>
    rw [hseal] at hcall
    cases hcall
    exact ⟨sealRecord_eq_ok_iff.1 hseal, rfl⟩

/-! ### What is loaded -/

theorem loadLines_of_blank {n : ℕ} {lines : List String} (h : ∀ line ∈ lines, strip line = "") :
    loadLines ext n lines = .ok [] := by
  induction lines generalizing n with
  | nil => rfl
  | cons line lines ih =>
    obtain ⟨hline, hlines⟩ := List.forall_mem_cons.1 h
    rw [loadLines, if_pos hline, ih hlines]

/-- Lines are loaded one after the other. -/
theorem loadLines_append (n : ℕ) (xs ys : List String) :
    loadLines ext n (xs ++ ys) = (loadLines ext n xs).bind fun as =>
      (loadLines ext (n + xs.length) ys).map (as ++ ·) := by
  induction xs generalizing n with
  | nil =>
    rw [List.nil_append, loadLines, List.length_nil, Nat.add_zero]
    show _ = (loadLines ext n ys).map ([] ++ ·)
    cases loadLines ext n ys with
    | error e => rfl
    | ok bs => rfl
  | cons x xs ih =>
    rw [List.cons_append, loadLines, loadLines, List.length_cons, ih,
      show n + 1 + xs.length = n + (xs.length + 1) by omega]
    split_ifs with hblank
    · rfl
    · cases loadLine ext x with
      | error e => rfl
      | ok r =>
        dsimp only
        cases loadLines ext (n + 1) xs with
        | error e => rfl
        | ok as =>
          cases loadLines ext (n + (xs.length + 1)) ys with
          | error e => rfl
          | ok bs => rfl

theorem loadLines_append_eq_ok_iff {n : ℕ} {xs ys : List String}
    {entries : List PolicyActivationRecord} :
    loadLines ext n (xs ++ ys) = .ok entries ↔ ∃ as bs, loadLines ext n xs = .ok as ∧
      loadLines ext (n + xs.length) ys = .ok bs ∧ entries = as ++ bs := by
  rw [loadLines_append]
  cases loadLines ext n xs with
  | error e => simp [Except.bind]
  | ok as =>
    cases loadLines ext (n + xs.length) ys with
    | error e => simp [Except.bind, Except.map]
    | ok bs => simp [Except.bind, Except.map, eq_comm]

theorem loadLines_singleton_eq_ok_iff {n : ℕ} {line : String}
    {entries : List PolicyActivationRecord} :
    loadLines ext n [line] = .ok entries ↔ strip line = "" ∧ entries = [] ∨
      strip line ≠ "" ∧ ∃ r, loadLine ext line = .ok r ∧ entries = [r] := by
  rw [loadLines, loadLines]
  by_cases hblank : strip line = ""
  · simp [hblank, eq_comm]
  · cases loadLine ext line with
    | error e => simp [hblank]
    | ok r => simp [hblank, Except.map, eq_comm]

/-- The test for a blank file changes nothing: all its lines are blank. -/
theorem loadJsonl_eq (contents : String) :
    loadJsonl ext contents = loadLines ext 1 (splitlines (readText contents)) := by
  unfold loadJsonl
  dsimp only
  split_ifs with hblank
  · rw [loadLines_of_blank]
    intro line hline
    obtain ⟨l, hl, rfl⟩ := List.mem_map.1 hline
    rw [strip_eq_empty_iff, String.toList_ofList]
    intro c hc
    exact strip_eq_empty_iff.1 hblank c (by simpa using mem_of_mem_lines hl c hc)
  · rfl

theorem strip_jsonLine (env : Externals) (as : List Char) (r : PolicyActivationRecord) :
    strip (String.ofList (as ++ jsonLine env r)) ≠ "" := by
  obtain ⟨cs, hcs⟩ := jsonLine_eq_cons env r
  rw [ne_eq, strip_eq_empty_iff, String.toList_ofList, hcs]
  intro h
  exact absurd (h '{' (by simp)) (by decide)

/-- The line of a record is read as the record. -/
theorem loadLine_own (hext : ext.ReadsBack) (r : PolicyActivationRecord) :
    strip (String.ofList (jsonLine ext.toExternals r)) ≠ "" ∧
      loadLine ext (String.ofList (jsonLine ext.toExternals r)) = .ok r.reloaded := by
  have hempty : ∀ c ∈ ([] : List Char), isWs c = true := by simp
  have hblank := strip_jsonLine ext.toExternals [] r
  have hline := loadLine_jsonLine hext r hempty
  rw [List.nil_append] at hblank hline
  exact ⟨hblank, hline⟩

theorem loadLines_jsonLines (hext : ext.ReadsBack) (entries : List PolicyActivationRecord) (n : ℕ) :
    loadLines ext n ((entries.map (jsonLine ext.toExternals)).map String.ofList) =
      .ok (entries.map (·.reloaded)) := by
  induction entries generalizing n with
  | nil => rfl
  | cons r entries ih =>
    obtain ⟨hblank, hline⟩ := loadLine_own hext r
    rw [List.map_cons, List.map_cons, loadLines, if_neg hblank, hline, ih]
    rfl

/-- The contents of a file that holds the records, a line each. -/
def linesOf (env : Externals) (entries : List PolicyActivationRecord) : List Char :=
  entries.flatMap (endedLine env)

theorem cr_notMem_linesOf (env : Externals) (entries : List PolicyActivationRecord) :
    '\r' ∉ linesOf env entries := by
  intro h
  obtain ⟨r, -, hr⟩ := List.mem_flatMap.1 h
  rcases List.mem_append.1 hr with hline | hnewline
  · exact cr_notMem_of_open (isLineBoundary_of_mem_jsonLine env r) hline
  · exact absurd (List.mem_singleton.1 hnewline) (by decide)

theorem lines_linesOf (env : Externals) (entries : List PolicyActivationRecord) :
    lines [] (linesOf env entries) = entries.map (jsonLine env) :=
  lines_flatMap fun r _ => isLineBoundary_of_mem_jsonLine env r

/-- A file of whole lines is read as the records it was written from. -/
theorem loadJsonl_linesOf (hext : ext.ReadsBack) (entries : List PolicyActivationRecord) :
    loadJsonl ext (String.ofList (linesOf ext.toExternals entries)) =
      .ok (entries.map (·.reloaded)) := by
  rw [loadJsonl_eq, readText, String.toList_ofList,
    newlines_of_notMem (cr_notMem_linesOf ext.toExternals entries), splitlines,
    String.toList_ofList, lines_linesOf, loadLines_jsonLines hext]

omit [DecidableEq P] in
/-- A file is accepted with verification when its lines are records, and these form a chain. -/
theorem fromJsonl_eq_ok_iff {path : P} {files : P → Option String} {contents : String}
    (hfile : files path = some contents) {host : LedgerHost P} :
    fromJsonl ext path files true = .ok host ↔
      ∃ entries, loadJsonl ext contents = .ok entries ∧
        Chained (links ext.toExternals) 0 genesisPrevHash entries ∧
          host = ⟨⟨entries, true⟩, some path, files⟩ := by
  unfold fromJsonl openLedger
  rw [Option.bind_some, hfile]
  dsimp only
  rw [except_bind_eq_ok_iff]
  refine exists_congr fun entries => and_congr_right fun _ => ?_
  show (PolicyDeploymentLedger.verify ext.toExternals ⟨entries, true⟩ none >>= _) = _ ↔ _
  rw [except_bind_eq_ok_iff]
  constructor
  · rintro ⟨⟨⟩, hverify, hhost⟩
    exact ⟨(PolicyDeploymentLedger.verify_eq_ok_iff.1 hverify).2.1, (Except.ok.inj hhost).symm⟩
  · rintro ⟨hchained, rfl⟩
    refine ⟨(), PolicyDeploymentLedger.verify_eq_ok_iff.2 ⟨rfl, hchained, ?_⟩, rfl⟩
    rintro _ ⟨⟩

end Gco
