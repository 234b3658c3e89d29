import GcoSpec.Gco.PolicyLedger
import GcoSpec.Gco.Errors
import GcoSpec.Python.JsonText
import GcoSpec.Python.Lines

/-!
# Records in a ledger file

A ledger file holds one record a line: the JSON text of `model_dump(mode="json")` with sorted keys.
A line is read back by `json.loads` and `PolicyActivationRecord.model_validate`.

* `validate_eq_some_iff` is what the validators of the record accept.
* `isLineBoundary_of_mem_jsonLine`: the text of a record is one line.
* `loadLine_jsonLine`: it is read back as the same record.
* `Same.entryText_eq` and `Same.jsonLine_eq`: the order of metadata, which is all that a file
  changes, is not seen by the hash and not written.
-/

namespace Gco

open Python Python.Json

/-- What the ledger uses of pydantic and of `repr`, besides `Externals`. -/
structure LedgerExternals extends Externals where
  /-- The value of a field of type `int`, or `none` where it is no integer. -/
  readInt : PyVal → Option ℤ
  /-- The value of a field of type `datetime`. -/
  readDatetime : PyVal → Option PyDatetime
  /-- The text of the exception `json.loads(line)` raises. -/
  decodeError : String → String
  /-- The text of the exception `model_validate(payload)` raises. -/
  validationError : PyVal → String
  /-- `repr(x)`. -/
  repr : PyVal → String

/-- Integers are read as they are, and UTC datetimes as they were dumped. -/
structure LedgerExternals.ReadsBack (ext : LedgerExternals) : Prop where
  int : ∀ n, ext.readInt (.int n) = some n
  datetime : ∀ t, ext.readDatetime (.str (ext.dumpDatetime t)) = some t.toPy

/-- The laws are not about hashes, nor about texts of exceptions. -/
theorem LedgerExternals.ReadsBack.with_hash {ext : LedgerExternals} (h : ext.ReadsBack)
    (sha256 decodeError : String → String) :
    ReadsBack { ext with sha256 := sha256, decodeError := decodeError } :=
  ⟨h.int, h.datetime⟩

/-! ### Validating fields -/

/-- A `str` with `min_length=1`. -/
def readNonempty (x : PyVal) : Option NonemptyStr :=
  x.str?.bind fun s => if h : s ≠ "" then some ⟨s, h⟩ else none

/-- A `str` that passes `non_empty_ids`. -/
def readNonblank (x : PyVal) : Option NonblankStr :=
  x.str?.bind fun s => if h : strip s ≠ "" then some ⟨s, h⟩ else none

/-- `str | None`. -/
def readOptionalStr : PyVal → Option (Option String)
  | .none => some none
  | x => x.str?.map some

def readEventType (x : PyVal) : Option ActivationEventType :=
  x.str?.bind (StrEnum.ofValue? ActivationEventType)

/-- An item of a `dict[str, str]`. -/
def readItem (item : String × PyVal) : Option (String × String) :=
  item.2.str?.map fun s => (item.1, s)

/-- `dict[str, str]`. -/
def readMetadata : PyVal → Option (Dict String String)
  | .dict items => (items.mapM readItem).map Dict.ofPairs
  | _ => none

/-- `ge=0`, of an integer that `json.loads` reads or `json.dumps` wrote. -/
def readSequence (n : ℤ) : Option { m : ℕ // IntFits m } :=
  if h : 0 ≤ n ∧ IntFits n then some ⟨n.toNat, by rw [Int.toNat_of_nonneg h.1]; exact h.2⟩
  else none

/-- `recorded_at_must_be_utc`. -/
def recordedAtUtc (value : PyDatetime) : Option DateTime :=
  if value.utcoffset = some 0 then some value.fields else none

/-- The fields of a record before they are validated. -/
structure RecordFields where
  sequence : ℤ
  eventId : PyVal
  recordedAt : PyDatetime
  eventType : PyVal
  policyId : PyVal
  interventionVersion : PyVal
  deploymentId : PyVal
  actor : PyVal
  reason : PyVal
  metadata : PyVal
  prevEntryHash : PyVal
  entryHash : PyVal

/-- The record with these fields, or `none` where the model raises `ValidationError`. -/
def RecordFields.validate (f : RecordFields) : Option PolicyActivationRecord := do
  let sequence ← readSequence f.sequence
  let eventId ← readNonblank f.eventId
  let recordedAt ← recordedAtUtc f.recordedAt
  let eventType ← readEventType f.eventType
  let policyId ← readNonempty f.policyId
  let interventionVersion ← readNonempty f.interventionVersion
  let deploymentId ← readOptionalStr f.deploymentId
  let actor ← readOptionalStr f.actor
  let reason ← readOptionalStr f.reason
  let metadata ← readMetadata f.metadata
  let prevEntryHash ← readNonblank f.prevEntryHash
  let entryHash ← readNonblank f.entryHash
  pure { sequence := sequence.1, sequence_fits := sequence.2, eventId, recordedAt, eventType,
         policyId, interventionVersion, deploymentId, actor, reason, metadata, prevEntryHash,
         entryHash }

def recordFieldNames : List String :=
  ["sequence", "event_id", "recorded_at", "event_type", "policy_id", "intervention_version",
   "deployment_id", "actor", "reason", "metadata", "prev_entry_hash", "entry_hash"]

variable (ext : LedgerExternals)

/-- The fields of a payload: no others are allowed, and four of them have defaults. -/
def readFields (items : List (String × PyVal)) : Option RecordFields :=
  if items.all fun item => item.1 ∈ recordFieldNames then do
    pure
      { sequence := ← (items.lookup "sequence").bind ext.readInt
        eventId := ← items.lookup "event_id"
        recordedAt := ← (items.lookup "recorded_at").bind ext.readDatetime
        eventType := ← items.lookup "event_type"
        policyId := ← items.lookup "policy_id"
        interventionVersion := ← items.lookup "intervention_version"
        deploymentId := (items.lookup "deployment_id").getD .none
        actor := (items.lookup "actor").getD .none
        reason := (items.lookup "reason").getD .none
        metadata := (items.lookup "metadata").getD (.dict [])
        prevEntryHash := ← items.lookup "prev_entry_hash"
        entryHash := ← items.lookup "entry_hash" }
  else none

/-- `PolicyActivationRecord.model_validate(payload)`. -/
def modelValidate (payload : PyVal) : Option PolicyActivationRecord :=
  payload.mapping?.bind fun items => (readFields ext items).bind RecordFields.validate

/-! ### Lines -/

variable (env : Externals)

/-- The items of `record.model_dump(mode="json")`. -/
def PolicyActivationRecord.items (r : PolicyActivationRecord) : List (String × PyVal) :=
  [("sequence", .int r.sequence),
   ("event_id", .str r.eventId.text),
   ("recorded_at", .str (env.dumpDatetime r.recordedAt)),
   ("event_type", .str (StrEnum.value r.eventType)),
   ("policy_id", .str r.policyId.text),
   ("intervention_version", .str r.interventionVersion.text),
   ("deployment_id", dumpOption .str r.deploymentId),
   ("actor", dumpOption .str r.actor),
   ("reason", dumpOption .str r.reason),
   ("metadata", dumpMetadata r.metadata),
   ("prev_entry_hash", .str r.prevEntryHash.text),
   ("entry_hash", .str r.entryHash.text)]

/-- The text of `json.dumps(record.model_dump(mode="json"), sort_keys=True)`, with compact
separators. -/
def jsonLine (r : PolicyActivationRecord) : List Char :=
  emit env.floatFormat canonicalStyle (sortKeys (.dict (r.items env)))

/-- One line of a ledger file as a record, or the text of the exception. -/
def loadLine (line : String) : Except String PolicyActivationRecord :=
  match loads ext.floatFormat line with
  | none => .error (ext.decodeError line)
  | some payload =>
      match modelValidate ext payload with
      | none => .error (ext.validationError payload)
      | some record => .ok record

/-- The order in which `sort_keys` writes metadata. -/
def metadataLe (a b : String × String) : Prop := a.1 ≤ b.1

instance : DecidableRel metadataLe := fun a b => inferInstanceAs (Decidable (a.1 ≤ b.1))

/-- Metadata in the order of their keys. -/
def sortMetadata (metadata : Dict String String) : Dict String String where
  items := metadata.items.insertionSort metadataLe
  nodupKeys := ((List.perm_insertionSort metadataLe metadata.items).map Prod.fst).nodup_iff.2
    metadata.nodupKeys

/-- The record as it is read back from a file. -/
def PolicyActivationRecord.reloaded (r : PolicyActivationRecord) : PolicyActivationRecord :=
  { r with metadata := sortMetadata r.metadata }

/-! ### What is accepted -/

theorem str?_eq_some_iff {x : PyVal} {s : String} : x.str? = some s ↔ x = .str s := by
  cases x <;> simp [PyVal.str?]

theorem readNonempty_eq_some_iff {x : PyVal} {s : NonemptyStr} :
    readNonempty x = some s ↔ x = .str s.text := by
  rw [readNonempty, Option.bind_eq_some_iff]
  constructor
  · rintro ⟨t, ht, h⟩
    split_ifs at h
    cases h
    exact str?_eq_some_iff.1 ht
  · rintro rfl
    exact ⟨s.text, rfl, dif_pos s.nonempty⟩

theorem readNonblank_eq_some_iff {x : PyVal} {s : NonblankStr} :
    readNonblank x = some s ↔ x = .str s.text := by
  rw [readNonblank, Option.bind_eq_some_iff]
  constructor
  · rintro ⟨t, ht, h⟩
    split_ifs at h
    cases h
    exact str?_eq_some_iff.1 ht
  · rintro rfl
    exact ⟨s.text, rfl, dif_pos s.nonblank⟩

theorem readOptionalStr_eq_some_iff {x : PyVal} {s : Option String} :
    readOptionalStr x = some s ↔ x = dumpOption .str s := by
  cases s <;> cases x <;> simp [readOptionalStr, dumpOption, PyVal.str?]

theorem readEventType_eq_some_iff {x : PyVal} {e : ActivationEventType} :
    readEventType x = some e ↔ x = .str (StrEnum.value e) := by
  rw [readEventType, Option.bind_eq_some_iff]
  constructor
  · rintro ⟨s, hs, he⟩
    rw [StrEnum.value_of_ofValue? he]
    exact str?_eq_some_iff.1 hs
  · rintro rfl
    exact ⟨_, rfl, StrEnum.ofValue?_value e⟩

theorem readSequence_eq_some_iff {n : ℤ} {m : { m : ℕ // IntFits m }} :
    readSequence n = some m ↔ n = m.1 := by
  obtain ⟨m, hm⟩ := m
  unfold readSequence
  split_ifs with h
  · rw [Option.some.injEq, Subtype.mk.injEq]
    show n.toNat = m ↔ n = m
    omega
  · simp only [false_iff]
    rintro rfl
    exact h ⟨Int.natCast_nonneg m, hm⟩

theorem recordedAtUtc_eq_some_iff {value : PyDatetime} {t : DateTime} :
    recordedAtUtc value = some t ↔ value = t.toPy := by
  obtain ⟨fields, utcoffset⟩ := value
  unfold recordedAtUtc DateTime.toPy
  split_ifs with h
  · simp [show utcoffset = some 0 from h]
  · simp [show utcoffset ≠ some 0 from h]

/-- The fields are those of the record. -/
structure RecordFields.Describe (f : RecordFields) (r : PolicyActivationRecord) : Prop where
  sequence : f.sequence = r.sequence
  eventId : f.eventId = .str r.eventId.text
  recordedAt : f.recordedAt = r.recordedAt.toPy
  eventType : f.eventType = .str (StrEnum.value r.eventType)
  policyId : f.policyId = .str r.policyId.text
  interventionVersion : f.interventionVersion = .str r.interventionVersion.text
  deploymentId : f.deploymentId = dumpOption .str r.deploymentId
  actor : f.actor = dumpOption .str r.actor
  reason : f.reason = dumpOption .str r.reason
  metadata : readMetadata f.metadata = some r.metadata
  prevEntryHash : f.prevEntryHash = .str r.prevEntryHash.text
  entryHash : f.entryHash = .str r.entryHash.text

theorem RecordFields.validate_eq_some_iff {f : RecordFields} {r : PolicyActivationRecord} :
    f.validate = some r ↔ f.Describe r := by
  unfold RecordFields.validate
  constructor
  · intro h
    obtain ⟨sequence, hsequence, h⟩ := Option.bind_eq_some_iff.1 h
    obtain ⟨eventId, heventId, h⟩ := Option.bind_eq_some_iff.1 h
    obtain ⟨recordedAt, hrecordedAt, h⟩ := Option.bind_eq_some_iff.1 h
    obtain ⟨eventType, heventType, h⟩ := Option.bind_eq_some_iff.1 h
    obtain ⟨policyId, hpolicyId, h⟩ := Option.bind_eq_some_iff.1 h
    obtain ⟨version, hversion, h⟩ := Option.bind_eq_some_iff.1 h
    obtain ⟨deploymentId, hdeploymentId, h⟩ := Option.bind_eq_some_iff.1 h
    obtain ⟨actor, hactor, h⟩ := Option.bind_eq_some_iff.1 h
    obtain ⟨reason, hreason, h⟩ := Option.bind_eq_some_iff.1 h
    obtain ⟨metadata, hmetadata, h⟩ := Option.bind_eq_some_iff.1 h
    obtain ⟨prevEntryHash, hprevEntryHash, h⟩ := Option.bind_eq_some_iff.1 h
    obtain ⟨entryHash, hentryHash, h⟩ := Option.bind_eq_some_iff.1 h
    cases h
    exact
      { sequence := readSequence_eq_some_iff.1 hsequence
        eventId := readNonblank_eq_some_iff.1 heventId
        recordedAt := recordedAtUtc_eq_some_iff.1 hrecordedAt
        eventType := readEventType_eq_some_iff.1 heventType
        policyId := readNonempty_eq_some_iff.1 hpolicyId
        interventionVersion := readNonempty_eq_some_iff.1 hversion
        deploymentId := readOptionalStr_eq_some_iff.1 hdeploymentId
        actor := readOptionalStr_eq_some_iff.1 hactor
        reason := readOptionalStr_eq_some_iff.1 hreason
        metadata := hmetadata
        prevEntryHash := readNonblank_eq_some_iff.1 hprevEntryHash
        entryHash := readNonblank_eq_some_iff.1 hentryHash }
  · intro h
    have hsequence : readSequence f.sequence = some ⟨r.sequence, r.sequence_fits⟩ :=
      readSequence_eq_some_iff.2 h.sequence
    rw [hsequence, readNonblank_eq_some_iff.2 h.eventId,
      recordedAtUtc_eq_some_iff.2 h.recordedAt, readEventType_eq_some_iff.2 h.eventType,
      readNonempty_eq_some_iff.2 h.policyId, readNonempty_eq_some_iff.2 h.interventionVersion,
      readOptionalStr_eq_some_iff.2 h.deploymentId, readOptionalStr_eq_some_iff.2 h.actor,
      readOptionalStr_eq_some_iff.2 h.reason, h.metadata,
      readNonblank_eq_some_iff.2 h.prevEntryHash, readNonblank_eq_some_iff.2 h.entryHash]
    rfl

/-! ### Reading a line back -/

theorem mapM_readItem (pairs : List (String × String)) :
    (pairs.map fun p => (p.1, PyVal.str p.2)).mapM readItem = some pairs := by
  induction pairs with
  | nil => rfl
  | cons p pairs ih =>
    rw [List.map_cons, List.mapM_cons, ih]
    rfl

theorem readMetadata_dict (pairs : List (String × String)) :
    readMetadata (.dict (pairs.map fun p => (p.1, PyVal.str p.2))) =
      some (Dict.ofPairs pairs) := by
  rw [readMetadata, mapM_readItem, Option.map_some]

theorem readMetadata_dumpMetadata (metadata : Dict String String) :
    readMetadata (dumpMetadata metadata) = some metadata := by
  rw [dumpMetadata, readMetadata_dict, Option.some.injEq]
  have hitems := Dict.items_ofPairs metadata.nodupKeys
  obtain ⟨items, hnodup⟩ := metadata
  rcases h : Dict.ofPairs items with ⟨items', hnodup'⟩
  rw [h] at hitems
  cases hitems
  rfl

theorem sortKeys_dumpMetadata (metadata : Dict String String) :
    sortKeys (dumpMetadata metadata) = dumpMetadata (sortMetadata metadata) := by
  have hsort := List.map_insertionSort metadataLe keyLe (fun p => (p.1, PyVal.str p.2))
    metadata.items fun _ _ _ _ => Iff.rfl
  have hvalues : sortKeysPairs (metadata.items.map fun p => (p.1, PyVal.str p.2)) =
      metadata.items.map fun p => (p.1, PyVal.str p.2) := by
    rw [sortKeysPairs_eq_map, List.map_map]
    rfl
  rw [dumpMetadata, sortKeys, hvalues, ← hsort]
  rfl

theorem get?_sortMetadata (metadata : Dict String String) (key : String) :
    (sortMetadata metadata).get? key = metadata.get? key := by
  ext value
  rw [← Dict.mem_items_iff, ← Dict.mem_items_iff]
  exact (List.perm_insertionSort metadataLe metadata.items).mem_iff

/-- Sorting changes nothing but the order of metadata, which comparing them does not see. -/
theorem same_reloaded (r : PolicyActivationRecord) : r.Same r.reloaded :=
  { sequence := rfl, eventId := rfl, recordedAt := rfl, eventType := rfl, policyId := rfl
    interventionVersion := rfl, deploymentId := rfl, actor := rfl, reason := rfl
    metadata := fun key => (get?_sortMetadata r.metadata key).symm
    prevEntryHash := rfl, entryHash := rfl }

variable {ext}

theorem nodup_items (r : PolicyActivationRecord) : ((r.items env).map Prod.fst).Nodup :=
  show recordFieldNames.Nodup by decide

theorem readable_items {F : FloatFormat} (r : PolicyActivationRecord) :
    Readable F (.dict (r.items env)) := by
  have hoption := readable_dumpOption (readable_str (F := F))
  refine readable_dict (nodup_items env r) ?_
  simp [PolicyActivationRecord.items, Readable, hoption, readable_dumpMetadata, r.sequence_fits]

theorem sortKeys_dumpOption (s : Option String) :
    sortKeys (dumpOption .str s) = dumpOption .str s := by
  cases s <;> rfl

/-- The fields of a record as a file gives them. -/
def PolicyActivationRecord.fields (r : PolicyActivationRecord) : RecordFields where
  sequence := r.sequence
  eventId := .str r.eventId.text
  recordedAt := r.recordedAt.toPy
  eventType := .str (StrEnum.value r.eventType)
  policyId := .str r.policyId.text
  interventionVersion := .str r.interventionVersion.text
  deploymentId := dumpOption .str r.deploymentId
  actor := dumpOption .str r.actor
  reason := dumpOption .str r.reason
  metadata := dumpMetadata r.metadata
  prevEntryHash := .str r.prevEntryHash.text
  entryHash := .str r.entryHash.text

theorem validate_fields (r : PolicyActivationRecord) : r.fields.validate = some r :=
  RecordFields.validate_eq_some_iff.2
    ⟨rfl, rfl, rfl, rfl, rfl, rfl, rfl, rfl, rfl, readMetadata_dumpMetadata r.metadata, rfl, rfl⟩

/-- A dump with sorted keys has the fields of the record, with its metadata sorted. -/
theorem readFields_sortedItems (hext : ext.ReadsBack) (r : PolicyActivationRecord) :
    readFields ext ((sortKeysPairs (r.items ext.toExternals)).insertionSort keyLe) =
      some r.reloaded.fields := by
  have hlookup := lookup_insertionSort (nodup_items ext.toExternals r)
  have hnames : ((sortKeysPairs (r.items ext.toExternals)).insertionSort keyLe).all
      (fun item => item.1 ∈ recordFieldNames) = true := by
    rw [List.all_eq_true]
    intro item hitem
    have hmem := (List.perm_insertionSort keyLe _).mem_iff.1 hitem
    have hname := List.mem_map_of_mem (f := Prod.fst) hmem
    rw [map_fst_sortKeysPairs] at hname
    exact decide_eq_true hname
  have hsequence := hext.int r.sequence
  have hrecordedAt := hext.datetime r.recordedAt
  have hmetadata := sortKeys_dumpMetadata r.metadata
  simp only [readFields, if_pos hnames, hlookup]
  simp [PolicyActivationRecord.items, Dict.lookup_cons_ite, sortKeys, sortKeys_dumpOption,
    hsequence, hrecordedAt, hmetadata, PolicyActivationRecord.fields,
    PolicyActivationRecord.reloaded]

theorem modelValidate_dict (items : List (String × PyVal)) :
    modelValidate ext (.dict items) = (readFields ext items).bind RecordFields.validate := rfl

theorem modelValidate_sortKeys (hext : ext.ReadsBack) (r : PolicyActivationRecord) :
    modelValidate ext (sortKeys (.dict (r.items ext.toExternals))) = some r.reloaded := by
  rw [sortKeys, modelValidate_dict, readFields_sortedItems hext, Option.bind_some, validate_fields]

theorem loadLine_of_loads {line : String} {payload : PyVal} {r : PolicyActivationRecord}
    (hloads : loads ext.floatFormat line = some payload)
    (hvalidate : modelValidate ext payload = some r) : loadLine ext line = .ok r := by
  rw [loadLine, hloads]
  dsimp only
  rw [hvalidate]

/-- The text of a record is read back as the record, with its metadata sorted. -/
theorem loadLine_jsonLine (hext : ext.ReadsBack) (r : PolicyActivationRecord) {ws : List Char}
    (hws : ∀ c ∈ ws, isWs c = true) :
    loadLine ext (String.ofList (ws ++ jsonLine ext.toExternals r)) = .ok r.reloaded := by
  have hreadable := readable_sortKeys (readable_items (F := ext.floatFormat) ext.toExternals r)
  have hloads := loads_ws_append (S := canonicalStyle) hreadable hws
  exact loadLine_of_loads hloads (modelValidate_sortKeys hext r)

/-! ### The text of a record is one line -/

theorem printable_dumpMetadata {F : FloatFormat} (metadata : Dict String String) :
    Printable F canonicalStyle (dumpMetadata metadata) := by
  refine printable_dict rfl ?_
  intro item hitem
  obtain ⟨p, -, rfl⟩ := List.mem_map.1 hitem
  exact printable_str rfl p.2

theorem isPrintable_of_mem_jsonLine (r : PolicyActivationRecord) :
    ∀ c ∈ jsonLine env r, IsPrintable c := by
  refine printable_sortKeys_dict rfl ?_
  have hstr : ∀ s, Printable env.floatFormat canonicalStyle (sortKeys (.str s)) :=
    fun s => printable_str rfl s
  have hoption : ∀ s, Printable env.floatFormat canonicalStyle (sortKeys (dumpOption .str s)) := by
    intro s
    cases s with
    | none => exact printable_none
    | some s => exact hstr s
  have hmetadata : Printable env.floatFormat canonicalStyle
      (sortKeys (dumpMetadata r.metadata)) := by
    rw [sortKeys_dumpMetadata]
    exact printable_dumpMetadata _
  simp only [PolicyActivationRecord.items, List.forall_mem_cons, List.not_mem_nil, false_implies,
    implies_true, and_true]
  exact ⟨printable_int _, hstr _, hstr _, hstr _, hstr _, hstr _, hoption _, hoption _, hoption _,
    hmetadata, hstr _, hstr _⟩

theorem isLineBoundary_of_isPrintable {c : Char} (h : IsPrintable c) :
    isLineBoundary c = false := by
  obtain ⟨hlow, hhigh⟩ := h
  unfold isLineBoundary
  simp only [Bool.or_eq_false_iff, Bool.and_eq_false_iff, decide_eq_false_iff_not,
    beq_eq_false_iff_ne]
  omega

/-- The text of a record is one line. -/
theorem isLineBoundary_of_mem_jsonLine (r : PolicyActivationRecord) :
    ∀ c ∈ jsonLine env r, isLineBoundary c = false :=
  fun c hc => isLineBoundary_of_isPrintable (isPrintable_of_mem_jsonLine env r c hc)

theorem jsonLine_eq_cons (r : PolicyActivationRecord) : ∃ cs, jsonLine env r = '{' :: cs := by
  unfold jsonLine
  rw [sortKeys]
  cases (sortKeysPairs (r.items env)).insertionSort keyLe with
  | nil => exact ⟨_, rfl⟩
  | cons item items => exact ⟨_, rfl⟩

/-! ### The order of metadata -/

namespace PolicyActivationRecord.Same

variable {a b c : PolicyActivationRecord}

theorem refl (a : PolicyActivationRecord) : a.Same a :=
  ⟨rfl, rfl, rfl, rfl, rfl, rfl, rfl, rfl, rfl, fun _ => rfl, rfl, rfl⟩

theorem symm (h : a.Same b) : b.Same a :=
  ⟨h.sequence.symm, h.eventId.symm, h.recordedAt.symm, h.eventType.symm, h.policyId.symm,
    h.interventionVersion.symm, h.deploymentId.symm, h.actor.symm, h.reason.symm,
    fun key => (h.metadata key).symm, h.prevEntryHash.symm, h.entryHash.symm⟩

theorem trans (h : a.Same b) (h' : b.Same c) : a.Same c :=
  ⟨h.sequence.trans h'.sequence, h.eventId.trans h'.eventId, h.recordedAt.trans h'.recordedAt,
    h.eventType.trans h'.eventType, h.policyId.trans h'.policyId,
    h.interventionVersion.trans h'.interventionVersion, h.deploymentId.trans h'.deploymentId,
    h.actor.trans h'.actor, h.reason.trans h'.reason,
    fun key => (h.metadata key).trans (h'.metadata key), h.prevEntryHash.trans h'.prevEntryHash,
    h.entryHash.trans h'.entryHash⟩

theorem sortKeys_dumpMetadata_eq (h : a.Same b) :
    sortKeys (dumpMetadata a.metadata) = sortKeys (dumpMetadata b.metadata) :=
  sortKeys_dict_eq_of_perm (nodup_dumpMetadata a.metadata)
    ((Dict.perm_items_of_get?_eq h.metadata).map _)

/-- Records that are the same are hashed alike. -/
theorem entryText_eq (h : a.Same b) (F : FloatFormat) :
    entryText F a.bodyForHash = entryText F b.bodyForHash := by
  have hpairs : sortKeysPairs a.bodyForHash = sortKeysPairs b.bodyForHash := by
    simp only [PolicyActivationRecord.bodyForHash, sortKeysPairs, h.sortKeys_dumpMetadata_eq,
      h.sequence, h.eventId, h.recordedAt, h.eventType, h.policyId, h.interventionVersion,
      h.deploymentId, h.actor, h.reason, h.prevEntryHash]
  rw [entryText, entryText, sortKeys, sortKeys, hpairs]

/-- Records that are the same are written alike. -/
theorem jsonLine_eq (h : a.Same b) (env : Externals) : jsonLine env a = jsonLine env b := by
  have hpairs : sortKeysPairs (a.items env) = sortKeysPairs (b.items env) := by
    simp only [PolicyActivationRecord.items, sortKeysPairs, h.sortKeys_dumpMetadata_eq,
      h.sequence, h.eventId, h.recordedAt, h.eventType, h.policyId, h.interventionVersion,
      h.deploymentId, h.actor, h.reason, h.prevEntryHash, h.entryHash]
  rw [jsonLine, jsonLine, sortKeys, sortKeys, hpairs]

end PolicyActivationRecord.Same

end Gco
