import GcoSpec.Gco.Delegation
import GcoSpec.Python.Effect
import GcoSpec.Library.HashChain

/-!
# The policy deployment ledger

`PolicyDeploymentLedger.verify` walks the records of a ledger, checks the sequence number, the
previous hash and the hash of each, and compares the last hash with one that was sealed before.

* `verify_eq_ok_iff`: it succeeds exactly on a hash chain from the genesis value, with that head.
* `links_commits`: without collisions of SHA-256 the hash of an intact record determines every
  field of it.
* `sealed_head_pins`: so two ledgers that verify against one head hold the same records.
-/

namespace Gco

open Python Python.Json

/-! ### Records -/

inductive ActivationEventType
  | activate
  | deactivate
  | supersede
  deriving DecidableEq

instance : StrEnum ActivationEventType where
  value
    | .activate => "activate"
    | .deactivate => "deactivate"
    | .supersede => "supersede"
  members := [.activate, .deactivate, .supersede]
  mem_members e := by cases e <;> decide
  value_injective a b h := by cases a <;> cases b <;> first | rfl | exact absurd h (by decide)

/-- A `str` with `min_length=1`. -/
@[ext] structure NonemptyStr where
  text : String
  nonempty : text ≠ ""
  deriving DecidableEq

/-- A `str` that `non_empty_ids` accepts. -/
@[ext] structure NonblankStr where
  text : String
  nonblank : strip text ≠ ""
  deriving DecidableEq

/-- A record whose `recorded_at` is in UTC, and whose sequence number has a text: it is the place of
the record in a ledger, or was read from JSON. -/
structure PolicyActivationRecord where
  sequence : ℕ
  sequence_fits : IntFits sequence := by decide
  eventId : NonblankStr
  recordedAt : DateTime
  eventType : ActivationEventType
  policyId : NonemptyStr
  interventionVersion : NonemptyStr
  deploymentId : Option String
  actor : Option String
  reason : Option String
  metadata : Dict String String
  prevEntryHash : NonblankStr
  entryHash : NonblankStr

/-- `"0" * 64`. -/
def genesisPrevHash : String := String.ofList (List.replicate 64 '0')

/-- `_isoformat_utc`. -/
def isoformatUtc (value : DateTime) : String := replace "+00:00" "Z" value.isoformat

/-- Metadata as a value of JSON. -/
def dumpMetadata (metadata : Dict String String) : PyVal :=
  .dict (metadata.items.map fun item => (item.1, .str item.2))

namespace PolicyActivationRecord

def bodyForHash (r : PolicyActivationRecord) : List (String × PyVal) :=
  [("actor", dumpOption .str r.actor),
   ("deployment_id", dumpOption .str r.deploymentId),
   ("event_id", .str r.eventId.text),
   ("event_type", .str (StrEnum.value r.eventType)),
   ("intervention_version", .str r.interventionVersion.text),
   ("metadata", dumpMetadata r.metadata),
   ("policy_id", .str r.policyId.text),
   ("prev_entry_hash", .str r.prevEntryHash.text),
   ("reason", dumpOption .str r.reason),
   ("recorded_at", .str (isoformatUtc r.recordedAt)),
   ("sequence", .int r.sequence)]

/-- The records compare equal: metadata as maps, whatever the order of their items. -/
structure Same (a b : PolicyActivationRecord) : Prop where
  sequence : a.sequence = b.sequence
  eventId : a.eventId = b.eventId
  recordedAt : a.recordedAt = b.recordedAt
  eventType : a.eventType = b.eventType
  policyId : a.policyId = b.policyId
  interventionVersion : a.interventionVersion = b.interventionVersion
  deploymentId : a.deploymentId = b.deploymentId
  actor : a.actor = b.actor
  reason : a.reason = b.reason
  metadata : ∀ key, a.metadata.get? key = b.metadata.get? key
  prevEntryHash : a.prevEntryHash = b.prevEntryHash
  entryHash : a.entryHash = b.entryHash

end PolicyActivationRecord

/-- `separators=(",", ":")`, with `ensure_ascii=False`. -/
def ledgerStyle : Style := ⟨false, true⟩

/-- The text `compute_entry_hash` hashes. -/
def entryText (F : FloatFormat) (body : List (String × PyVal)) : String :=
  String.ofList (emit F ledgerStyle (sortKeys (.dict body)))

variable (env : Externals)

def computeEntryHash (body : List (String × PyVal)) : String :=
  env.sha256 (entryText env.floatFormat body)

/-! ### The ledger -/

/-- The exceptions of the module, with their texts. -/
inductive LedgerError
  | append (text : String)
  | integrity (text : String)
  deriving DecidableEq

/-- A ledger: what its methods read of it. -/
structure PolicyDeploymentLedger where
  entries : List PolicyActivationRecord
  usable : Bool

namespace PolicyDeploymentLedger

def ensureUsable (ledger : PolicyDeploymentLedger) : Except LedgerError Unit :=
  if ledger.usable then .ok ()
  else .error (.append "ledger is unusable after a previous append storage failure")

/-- Hash of the latest entry, or `None` when the ledger is empty. -/
def headHash (ledger : PolicyDeploymentLedger) : Except LedgerError (Option String) := do
  ledger.ensureUsable
  pure (ledger.entries.getLast?.map (·.entryHash.text))

/-- The loop of `verify`, from an index and the hash before it. -/
def verifyFrom : ℕ → String → List PolicyActivationRecord → Except LedgerError Unit
  | _, _, [] => .ok ()
  | index, prev, record :: rest =>
      let sequence := record.sequence
      if sequence ≠ index then
        .error (.integrity s!"sequence gap or reorder at index {index}: found sequence={sequence}")
      else if record.prevEntryHash.text ≠ prev then
        .error (.integrity s!"prev_entry_hash mismatch at sequence {sequence}")
      else if record.entryHash.text ≠ computeEntryHash env record.bodyForHash then
        .error (.integrity s!"entry_hash mismatch at sequence {sequence}")
      else verifyFrom (index + 1) record.entryHash.text rest

def verify (ledger : PolicyDeploymentLedger) (expectedHead : Option String) :
    Except LedgerError Unit := do
  ledger.ensureUsable
  verifyFrom env 0 genesisPrevHash ledger.entries
  match expectedHead with
  | none => .ok ()
  | some expected =>
      match ← ledger.headHash with
      | none => .error (.integrity "expected_head provided but ledger is empty")
      | some head =>
          if head ≠ expected then .error (.integrity "head hash does not match expected_head")
          else .ok ()

end PolicyDeploymentLedger

open HashChain

/-- A record in the chain: it is intact when its hash is the one of its body. -/
def links : Links PolicyActivationRecord String where
  position := (·.sequence)
  previous r := r.prevEntryHash.text
  digest r := r.entryHash.text
  Intact r := r.entryHash.text = computeEntryHash env r.bodyForHash

/-! ### Bodies -/

theorem isoformatUtc_eq (t : DateTime) : isoformatUtc t = String.ofList (t.isoBody ++ ['Z']) := by
  have hoffset : replaceChars "+00:00".toList "Z".toList "+00:00".toList 0 = ['Z'] := by decide
  have htext : t.isoformat.toList = t.isoBody ++ "+00:00".toList := String.toList_ofList
  have hbody : replaceChars "+00:00".toList "Z".toList (t.isoBody ++ "+00:00".toList) 0 =
      t.isoBody ++ replaceChars "+00:00".toList "Z".toList "+00:00".toList 0 :=
    replaceChars_append_of_notMem t.plus_notMem_isoBody _
  rw [isoformatUtc, replace, htext, hbody, hoffset]

theorem isoformatUtc_injective : Function.Injective isoformatUtc := by
  intro a b h
  rw [isoformatUtc_eq, isoformatUtc_eq] at h
  exact DateTime.isoBody_injective (List.append_cancel_right (String.ofList_injective h))

variable {env} {F : FloatFormat}

theorem nodup_bodyForHash (r : PolicyActivationRecord) : (r.bodyForHash.map Prod.fst).Nodup :=
  show ["actor", "deployment_id", "event_id", "event_type", "intervention_version", "metadata",
    "policy_id", "prev_entry_hash", "reason", "recorded_at", "sequence"].Nodup by decide

theorem nodup_dumpMetadata (metadata : Dict String String) :
    ((metadata.items.map fun item => (item.1, PyVal.str item.2)).map Prod.fst).Nodup := by
  rw [List.map_map]
  exact metadata.nodupKeys

theorem readable_dumpMetadata (metadata : Dict String String) :
    Readable F (dumpMetadata metadata) := by
  refine readable_dict (nodup_dumpMetadata metadata) ?_
  intro kv hkv
  obtain ⟨item, -, rfl⟩ := List.mem_map.1 hkv
  exact readable_str item.2

theorem readable_bodyForHash (r : PolicyActivationRecord) : Readable F (.dict r.bodyForHash) := by
  have hoption := readable_dumpOption (readable_str (F := F))
  refine readable_dict (nodup_bodyForHash r) ?_
  simp [PolicyActivationRecord.bodyForHash, Readable, hoption, readable_dumpMetadata,
    r.sequence_fits]

/-- `json.dumps` accepts the body of every record. -/
theorem dumpsSorted_bodyForHash (r : PolicyActivationRecord) :
    dumpsSorted F ledgerStyle (.dict r.bodyForHash) = some (entryText F r.bodyForHash) :=
  dumpsSorted_of_readable (readable_bodyForHash r)

theorem dumpMetadata_injective {a b : Dict String String}
    (h : sortKeys (dumpMetadata a) = sortKeys (dumpMetadata b)) (key : String) :
    a.get? key = b.get? key := by
  have hk := lookup_of_sortKeys_eq (nodup_dumpMetadata a) (nodup_dumpMetadata b) h key
  rw [Dict.lookup_map_snd, Dict.lookup_map_snd, Option.map_map, Option.map_map] at hk
  exact Option.map_injective (fun s t hst => by simpa [sortKeys] using hst) hk

/-- The text that is hashed determines every field but the hash. -/
theorem same_of_entryText_eq {a b : PolicyActivationRecord}
    (h : entryText F a.bodyForHash = entryText F b.bodyForHash)
    (hhash : a.entryHash = b.entryHash) : a.Same b := by
  have hsorted := sortKeys_eq_of_emit_eq (readable_bodyForHash a) (readable_bodyForHash b)
    (String.ofList_injective h)
  have hk := lookup_of_sortKeys_eq (nodup_bodyForHash a) (nodup_bodyForHash b) hsorted
  have hoption : ∀ {s t : Option String},
      some (sortKeys (dumpOption .str s)) = some (sortKeys (dumpOption .str t)) → s = t :=
    fun hst => dumpOption_injective (fun a b hab => by simpa [sortKeys] using hab)
      (by simp [sortKeys]) (Option.some.inj hst)
  exact
    { sequence := nat_of_map_sortKeys (hk "sequence")
      eventId := NonblankStr.ext (str_of_map_sortKeys (hk "event_id"))
      recordedAt := isoformatUtc_injective (str_of_map_sortKeys (hk "recorded_at"))
      eventType := StrEnum.value_injective (str_of_map_sortKeys (hk "event_type"))
      policyId := NonemptyStr.ext (str_of_map_sortKeys (hk "policy_id"))
      interventionVersion := NonemptyStr.ext (str_of_map_sortKeys (hk "intervention_version"))
      deploymentId := hoption (hk "deployment_id")
      actor := hoption (hk "actor")
      reason := hoption (hk "reason")
      metadata := dumpMetadata_injective (Option.some.inj (hk "metadata"))
      prevEntryHash := NonblankStr.ext (str_of_map_sortKeys (hk "prev_entry_hash"))
      entryHash := hhash }

/-- Without collisions, the hash of an intact record determines the record. -/
theorem links_commits (hsha256 : Function.Injective env.sha256) :
    (links env).Commits PolicyActivationRecord.Same where
  same ha hb hdigest := by
    have htexts := hsha256 (ha.symm.trans (hdigest.trans hb))
    exact same_of_entryText_eq htexts (NonblankStr.ext hdigest)
  position h := h.sequence
  previous h := congrArg NonblankStr.text h.prevEntryHash

/-! ### Verification -/

namespace PolicyDeploymentLedger

theorem verifyFrom_eq_ok_iff {entries : List PolicyActivationRecord} {index : ℕ} {prev : String} :
    verifyFrom env index prev entries = .ok () ↔ Chained (links env) index prev entries := by
  induction entries generalizing index prev with
  | nil => simp [verifyFrom, Chained]
  | cons record rest ih =>
    rw [verifyFrom, Chained, ← ih]
    dsimp only [links]
    split_ifs with hsequence hprev hhash
    · simp [hsequence]
    · simp [hprev]
    · simp [hhash]
    · push Not at hsequence hprev hhash
      simp [hsequence, hprev, hhash]

theorem ensureUsable_eq_ok_iff {ledger : PolicyDeploymentLedger} :
    ledger.ensureUsable = .ok () ↔ ledger.usable = true := by
  unfold ensureUsable
  split_ifs with h <;> simp [h]

theorem headHash_eq_ok_iff {ledger : PolicyDeploymentLedger} {head : Option String} :
    ledger.headHash = .ok head ↔
      ledger.usable = true ∧ ledger.entries.getLast?.map (·.entryHash.text) = head := by
  rw [headHash, except_bind_eq_ok_iff]
  constructor
  · rintro ⟨⟨⟩, husable, hhead⟩
    exact ⟨ensureUsable_eq_ok_iff.1 husable, Except.ok.inj hhead⟩
  · rintro ⟨husable, rfl⟩
    exact ⟨(), ensureUsable_eq_ok_iff.2 husable, rfl⟩

/-- A ledger verifies when it is usable, a hash chain from the genesis value, and ends in the
head that is expected. -/
theorem verify_eq_ok_iff {ledger : PolicyDeploymentLedger} {expectedHead : Option String} :
    ledger.verify env expectedHead = .ok () ↔
      ledger.usable = true ∧ Chained (links env) 0 genesisPrevHash ledger.entries ∧
        ∀ head, expectedHead = some head →
          ledger.entries.getLast?.map (·.entryHash.text) = some head := by
  unfold verify
  rw [seq_eq_ok_iff, ensureUsable_eq_ok_iff, seq_eq_ok_iff, verifyFrom_eq_ok_iff]
  refine and_congr_right fun husable => and_congr_right fun _ => ?_
  cases expectedHead with
  | none => simp
  | some expected =>
    dsimp only
    rw [except_bind_eq_ok_iff]
    simp only [headHash_eq_ok_iff, husable, true_and, exists_eq_left', Option.some.injEq,
      forall_eq']
    cases hlast : ledger.entries.getLast?.map (·.entryHash.text) with
    | none => simp
    | some head =>
      dsimp only
      split_ifs with hne
      · simpa using hne
      · push Not at hne
        simp [hne]

theorem verifyFrom_integrity {entries : List PolicyActivationRecord} {index : ℕ} {prev : String}
    {e : LedgerError} (h : verifyFrom env index prev entries = .error e) :
    ∃ text, e = .integrity text := by
  induction entries generalizing index prev with
  | nil => cases h
  | cons record rest ih =>
    rw [verifyFrom] at h
    split_ifs at h
    · exact ⟨_, (Except.error.inj h).symm⟩
    · exact ⟨_, (Except.error.inj h).symm⟩
    · exact ⟨_, (Except.error.inj h).symm⟩
    · exact ih h

/-- On a usable ledger `verify` raises nothing but `LedgerIntegrityError`. -/
theorem verify_integrity {ledger : PolicyDeploymentLedger} (husable : ledger.usable = true)
    {expectedHead : Option String} {e : LedgerError}
    (h : ledger.verify env expectedHead = .error e) : ∃ text, e = .integrity text := by
  unfold verify at h
  rcases except_bind_raises_iff.1 h with hensure | ⟨⟨⟩, -, hrest⟩
  · rw [ensureUsable_eq_ok_iff.2 husable] at hensure
    cases hensure
  rcases except_bind_raises_iff.1 hrest with hloop | ⟨⟨⟩, -, hhead⟩
  · exact verifyFrom_integrity hloop
  cases expectedHead with
  | none => cases hhead
  | some expected =>
    rcases except_bind_raises_iff.1 hhead with hraise | ⟨head, -, hcompare⟩
    · rw [headHash_eq_ok_iff.2 ⟨husable, rfl⟩] at hraise
      cases hraise
    cases head with
    | none => exact ⟨_, (Except.error.inj hcompare).symm⟩
    | some head =>
      dsimp only at hcompare
      split_ifs at hcompare
      exact ⟨_, (Except.error.inj hcompare).symm⟩

/-- The records of two ledgers that verify against one head, in order. -/
theorem forall₂_same_of_verify (hsha256 : Function.Injective env.sha256)
    {a b : PolicyDeploymentLedger} {head : String} (ha : a.verify env (some head) = .ok ())
    (hb : b.verify env (some head) = .ok ()) :
    List.Forall₂ PolicyActivationRecord.Same a.entries b.entries := by
  obtain ⟨-, hachain, hahead⟩ := verify_eq_ok_iff.1 ha
  obtain ⟨-, hbchain, hbhead⟩ := verify_eq_ok_iff.1 hb
  exact hachain.forall₂_of_head (links_commits hsha256) hbchain (hahead head rfl) (hbhead head rfl)

/-- Against the head sealed before it, no change of the records goes unnoticed. -/
theorem verify_of_tampered (hsha256 : Function.Injective env.sha256)
    {ledger tampered : PolicyDeploymentLedger} {head : String}
    (hverify : ledger.verify env none = .ok ()) (hhead : ledger.headHash = .ok (some head))
    (hchanged : ¬List.Forall₂ PolicyActivationRecord.Same ledger.entries tampered.entries)
    (husable : tampered.usable = true) :
    ∃ text, tampered.verify env (some head) = .error (.integrity text) := by
  obtain ⟨hledger, hchain, -⟩ := verify_eq_ok_iff.1 hverify
  have hsealed : ledger.verify env (some head) = .ok () := by
    refine verify_eq_ok_iff.2 ⟨hledger, hchain, ?_⟩
    rintro _ ⟨⟩
    exact (headHash_eq_ok_iff.1 hhead).2
  cases htampered : tampered.verify env (some head) with
  | ok u => exact absurd (forall₂_same_of_verify hsha256 hsealed htampered) hchanged
  | error e =>
    obtain ⟨text, rfl⟩ := verify_integrity husable htampered
    exact ⟨text, rfl⟩

theorem verify_none {ledger : PolicyDeploymentLedger} {head : String}
    (h : ledger.verify env (some head) = .ok ()) : ledger.verify env none = .ok () := by
  obtain ⟨husable, hchained, -⟩ := verify_eq_ok_iff.1 h
  exact verify_eq_ok_iff.2 ⟨husable, hchained, by rintro _ ⟨⟩⟩

end PolicyDeploymentLedger

/-- A sealed head pins the whole ledger: two ledgers that verify against it have equally many
records, and the same record at every position. -/
theorem sealed_head_pins (hsha256 : Function.Injective env.sha256) (a b : PolicyDeploymentLedger)
    (head : String) (ha : a.verify env (some head) = .ok ())
    (hb : b.verify env (some head) = .ok ()) :
    a.entries.length = b.entries.length ∧
      ∀ i (_ : i < a.entries.length) (_ : i < b.entries.length),
        (a.entries[i]).Same b.entries[i] := by
  have hsame := PolicyDeploymentLedger.forall₂_same_of_verify hsha256 ha hb
  obtain ⟨hlength, hget⟩ := List.forall₂_iff_get.1 hsame
  exact ⟨hlength, hget⟩

/-! ### Sealed ledgers, read back with the metadata in another order -/

def demoEntryHash : NonblankStr where
  text := "60879c6b85eac094d08842e5a568238b8b4b38b08850ad1269e8f09d7ba7e89c"
  nonblank := by decide +kernel

def demoActivation (metadata : Dict String String) : PolicyActivationRecord where
  sequence := 0
  eventId := ⟨"evt-1", by decide +kernel⟩
  recordedAt := ⟨4083998400000000, by decide, by decide⟩
  eventType := .activate
  policyId := ⟨"policy-alpha", by decide⟩
  interventionVersion := ⟨"v1", by decide⟩
  deploymentId := none
  actor := some "spiffe://example.org/ops"
  reason := some "initial rollout"
  metadata := metadata
  prevEntryHash := ⟨genesisPrevHash, by decide +kernel⟩
  entryHash := demoEntryHash

def demoMetadata : Dict String String := ⟨[("channel", "canary"), ("region", "eu")], by decide⟩

def demoMetadataLoaded : Dict String String :=
  ⟨[("region", "eu"), ("channel", "canary")], by decide⟩

/-- A second record, and another one in its place. -/
def demoUpgrade : PolicyActivationRecord :=
  { demoActivation demoMetadata with
    sequence := 1
    sequence_fits := by decide
    eventId := ⟨"evt-2", by decide +kernel⟩
    interventionVersion := ⟨"v2", by decide⟩
    prevEntryHash := demoEntryHash
    entryHash :=
      ⟨"fcb1317f9ea59ebaf39b4c15f46c7f50e127fc879b32001fcc5f19ccfd30f221", by decide +kernel⟩ }

def demoRollback : PolicyActivationRecord :=
  { demoUpgrade with
    interventionVersion := ⟨"v0", by decide⟩
    entryHash :=
      ⟨"1d97c9a61a3b6e6fa27c158b431e432449a4eec33549a90d7584b094419f4338", by decide +kernel⟩ }

def demoRecords : List PolicyActivationRecord :=
  [demoActivation demoMetadata, demoUpgrade, demoRollback]

/-- The table of the texts of records has the hash of each of them. -/
theorem tableHash_entryText {records : List PolicyActivationRecord}
    (hdistinct : records.Pairwise fun a b =>
      a.sequence ≠ b.sequence ∨ a.interventionVersion.text ≠ b.interventionVersion.text)
    {r : PolicyActivationRecord} (hr : r ∈ records) :
    tableHash (records.map fun r => (entryText F r.bodyForHash, r.entryHash.text))
      (entryText F r.bodyForHash) = r.entryHash.text := by
  have hlookup : (records.map fun r => (entryText F r.bodyForHash, r.entryHash.text)).lookup
      (entryText F r.bodyForHash) = some r.entryHash.text := by
    induction records with
    | nil => cases hr
    | cons s records ih =>
      obtain ⟨hs, hrest⟩ := List.pairwise_cons.1 hdistinct
      rw [List.map_cons, Dict.lookup_cons_ite]
      rcases List.mem_cons.1 hr with rfl | hmem
      · rw [if_pos rfl]
      · rw [if_neg, ih hrest hmem]
        intro htext
        have hsame := same_of_entryText_eq (a := { r with entryHash := s.entryHash }) htext rfl
        rcases hs r hmem with hsequence | hversion
        · exact hsequence hsame.sequence.symm
        · exact hversion (congrArg NonemptyStr.text hsame.interventionVersion.symm)
  rw [tableHash, hlookup, Option.getD_some]

/-- And no collision, if the hashes are distinct. -/
theorem tableHash_entryText_injective {records : List PolicyActivationRecord}
    (hhashes : (records.map fun r => r.entryHash.text).Nodup)
    (hhash : ∀ r ∈ records, r.entryHash.text.toList.head? ≠ some '#') :
    Function.Injective
      (tableHash (records.map fun r => (entryText F r.bodyForHash, r.entryHash.text))) := by
  refine tableHash_injective ?_ (List.forall_mem_map.2 hhash)
  intro p hp q hq h
  obtain ⟨r, hr, rfl⟩ := List.mem_map.1 hp
  obtain ⟨s, hs, rfl⟩ := List.mem_map.1 hq
  rw [List.inj_on_of_nodup_map hhashes hr hs h]

/-- SHA-256 on the texts of the records. -/
def demoLedgerExternals : Externals :=
  { demoTexts with
    sha256 := tableHash (demoRecords.map fun r =>
      (entryText demoTexts.floatFormat r.bodyForHash, r.entryHash.text)) }

theorem sortKeys_demoMetadata :
    sortKeys (dumpMetadata demoMetadataLoaded) = sortKeys (dumpMetadata demoMetadata) := rfl

theorem entryText_demoLoaded (F : FloatFormat) :
    entryText F (demoActivation demoMetadataLoaded).bodyForHash =
      entryText F (demoActivation demoMetadata).bodyForHash := by
  have hpairs : sortKeysPairs (demoActivation demoMetadataLoaded).bodyForHash =
      sortKeysPairs (demoActivation demoMetadata).bodyForHash := by
    simp only [PolicyActivationRecord.bodyForHash, sortKeysPairs, demoActivation,
      sortKeys_demoMetadata]
  rw [entryText, entryText, sortKeys, sortKeys, hpairs]

theorem demoLedgerExternals_injective : Function.Injective demoLedgerExternals.sha256 :=
  tableHash_entryText_injective (by decide +kernel) (by decide +kernel)

theorem intact_demoRecords {r : PolicyActivationRecord} (hr : r ∈ demoRecords) :
    (links demoLedgerExternals).Intact r :=
  (tableHash_entryText (by decide) hr).symm

theorem computeEntryHash_demo {body : List (String × PyVal)}
    (h : entryText demoTexts.floatFormat body =
      entryText demoTexts.floatFormat (demoActivation demoMetadata).bodyForHash) :
    computeEntryHash demoLedgerExternals body = demoEntryHash.text := by
  show tableHash _ (entryText demoTexts.floatFormat body) = _
  rw [h]
  exact tableHash_entryText (r := demoActivation demoMetadata) (by decide) List.mem_cons_self

/-- A ledger of such a record verifies. -/
theorem verify_demoLedger {metadata : Dict String String}
    (h : entryText demoTexts.floatFormat (demoActivation metadata).bodyForHash =
      entryText demoTexts.floatFormat (demoActivation demoMetadata).bodyForHash) :
    PolicyDeploymentLedger.verify demoLedgerExternals ⟨[demoActivation metadata], true⟩
      (some demoEntryHash.text) = .ok () := by
  refine PolicyDeploymentLedger.verify_eq_ok_iff.2 ⟨rfl, ⟨rfl, rfl, ?_, trivial⟩, ?_⟩
  · exact (computeEntryHash_demo h).symm
  · rintro _ ⟨⟩
    rfl

/-- And with a second record. -/
theorem verify_demoLedger_of_second {metadata : Dict String String}
    (h : entryText demoTexts.floatFormat (demoActivation metadata).bodyForHash =
      entryText demoTexts.floatFormat (demoActivation demoMetadata).bodyForHash)
    {r : PolicyActivationRecord} (hr : r ∈ demoRecords) (hsequence : r.sequence = 1)
    (hprev : r.prevEntryHash = demoEntryHash) :
    PolicyDeploymentLedger.verify demoLedgerExternals ⟨[demoActivation metadata, r], true⟩
      (some r.entryHash.text) = .ok () := by
  refine PolicyDeploymentLedger.verify_eq_ok_iff.2
    ⟨rfl, ⟨rfl, rfl, ?_, hsequence, ?_, intact_demoRecords hr, trivial⟩, ?_⟩
  · exact (computeEntryHash_demo h).symm
  · exact congrArg NonblankStr.text hprev
  · rintro _ ⟨⟩
    rfl

theorem verify_demoUpgrade {metadata : Dict String String}
    (h : entryText demoTexts.floatFormat (demoActivation metadata).bodyForHash =
      entryText demoTexts.floatFormat (demoActivation demoMetadata).bodyForHash) :
    PolicyDeploymentLedger.verify demoLedgerExternals
      ⟨[demoActivation metadata, demoUpgrade], true⟩ (some demoUpgrade.entryHash.text) = .ok () :=
  verify_demoLedger_of_second h (by simp [demoRecords]) rfl rfl

/-- Two records, the first with its metadata in two orders. -/
theorem sealed_head_pins_demo :
    (demoActivation demoMetadata).Same (demoActivation demoMetadataLoaded) ∧
      demoUpgrade.Same demoUpgrade := by
  have hpins := (sealed_head_pins demoLedgerExternals_injective
    ⟨[demoActivation demoMetadata, demoUpgrade], true⟩
    ⟨[demoActivation demoMetadataLoaded, demoUpgrade], true⟩ demoUpgrade.entryHash.text
    (verify_demoUpgrade rfl) (verify_demoUpgrade (entryText_demoLoaded _))).2
  exact ⟨hpins 0 Nat.two_pos Nat.two_pos, hpins 1 Nat.one_lt_two Nat.one_lt_two⟩

end Gco
