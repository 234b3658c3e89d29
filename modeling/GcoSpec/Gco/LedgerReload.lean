import GcoSpec.Gco.LedgerRuns

/-!
# Appending to a file that was loaded

`_load_jsonl` accepts a file whose last line has no newline. `_append` writes its line at the end of
the file as it is, so there the new record joins the last line. `reload_after_append_iff` says for
which files the records survive: what follows the last line end may hold only the whitespace that
JSON allows before a value, which are spaces and tabs. Any other file that is accepted is refused
after the append that reported success.
-/

namespace Gco

open Python Python.Json HashChain PolicyActivationRecord

variable {ext : LedgerExternals}

/-! ### The line that is written -/

theorem head?_endedLine (env : Externals) (r : PolicyActivationRecord) :
    (endedLine env r).head? = some '{' := by
  obtain ⟨cs, hcs⟩ := jsonLine_eq_cons env r
  rw [endedLine, hcs, List.cons_append, List.head?_cons]

theorem cr_notMem_endedLine (env : Externals) (r : PolicyActivationRecord) :
    '\r' ∉ endedLine env r := by
  have h := cr_notMem_linesOf env [r]
  rwa [linesOf, List.flatMap_singleton] at h

/-- The lines of a file before and after a record was appended: the record joins the open line. -/
theorem lines_of_appended (env : Externals) (contents : String) (r : PolicyActivationRecord) :
    splitlines (readText (contents ++ String.ofList (endedLine env r))) =
      (lines [] (endedLines (newlines contents.toList))).map String.ofList ++
        [String.ofList (openLine (newlines contents.toList) ++ jsonLine env r)] := by
  have hhead : (endedLine env r).head? ≠ some '\n' := by
    rw [head?_endedLine]
    decide
  have hopen : ∀ c ∈ openLine (newlines contents.toList) ++ jsonLine env r,
      isLineBoundary c = false := by
    intro c hc
    rcases List.mem_append.1 hc with h | h
    · exact isLineBoundary_of_mem_openLine c h
    · exact isLineBoundary_of_mem_jsonLine env r c h
  rw [splitlines, readText, String.toList_ofList, String.toList_append, String.toList_ofList,
    newlines_append _ hhead, newlines_of_notMem (cr_notMem_endedLine env r),
    lines_append (cr_notMem_newlines _), endedLine, ← List.append_assoc, lines_line hopen,
    List.map_append]
  rfl

theorem splitlines_readText (contents : String) :
    splitlines (readText contents) =
      (lines [] (endedLines (newlines contents.toList))).map String.ofList ++
        (if openLine (newlines contents.toList) = [] then []
          else [String.ofList (openLine (newlines contents.toList))]) := by
  have h := lines_append (cr_notMem_newlines contents.toList) []
  rw [List.append_nil, List.append_nil,
    lines_of_open isLineBoundary_of_mem_openLine] at h
  rw [splitlines, readText, String.toList_ofList, h, List.map_append]
  split_ifs <;> rfl

/-! ### The open line -/

theorem isWs_of_blank {c : Char} (h : c = ' ' ∨ c = '\t') : isWs c = true ∧ isSpace c = true := by
  rcases h with rfl | rfl <;> decide

/-- Whitespace of JSON that ends no line. -/
theorem blank_of_isWs {c : Char} (h : isWs c = true) (hopen : isLineBoundary c = false) :
    c = ' ' ∨ c = '\t' := by
  simp only [isWs, Bool.or_eq_true, decide_eq_true_eq] at h
  rcases h with ((rfl | rfl) | rfl) | rfl
  · exact .inl rfl
  · exact .inr rfl
  · exact absurd hopen (by decide)
  · exact absurd hopen (by decide)

theorem skipWs_jsonLine (env : Externals) (r : PolicyActivationRecord) :
    skipWs (jsonLine env r) ≠ [] := by
  obtain ⟨cs, hcs⟩ := jsonLine_eq_cons env r
  rw [hcs, skipWs_of_not (by decide)]
  exact List.cons_ne_nil _ _

theorem of_loadLine_eq_ok {line : String} {r : PolicyActivationRecord}
    (h : loadLine ext line = .ok r) : ∃ items, loads ext.floatFormat line = some (.dict items) := by
  unfold loadLine at h
  cases hloads : loads ext.floatFormat line with
  | none =>
    rw [hloads] at h
    cases h
  | some payload =>
    rw [hloads] at h
    dsimp only at h
    cases hvalidate : modelValidate ext payload with
    | none =>
      rw [hvalidate] at h
      cases h
    | some record =>
      obtain ⟨items, hitems, -⟩ := Option.bind_eq_some_iff.1 hvalidate
      cases payload with
      | dict items' => exact ⟨items', rfl⟩
      | _ => cases hitems

theorem loadLine_of_loads_none {line : String} (h : loads ext.floatFormat line = none) :
    ∃ exc, loadLine ext line = .error exc := by
  rw [loadLine, h]
  exact ⟨_, rfl⟩

/-- A line that was accepted, or that was skipped, is refused once a record has joined it, unless it
holds only spaces and tabs. -/
theorem loadLine_joined {l : List Char} (hopen : ∀ c ∈ l, isLineBoundary c = false)
    (hline : strip (String.ofList l) ≠ "" → ∃ r, loadLine ext (String.ofList l) = .ok r)
    (hblank : ¬∀ c ∈ l, c = ' ' ∨ c = '\t') (env : Externals) (r : PolicyActivationRecord) :
    ∃ exc, loadLine ext (String.ofList (l ++ jsonLine env r)) = .error exc := by
  apply loadLine_of_loads_none
  by_cases hstrip : strip (String.ofList l) = ""
  · -- whitespace of `str.strip`, some of it unknown to JSON
    rw [strip_eq_empty_iff, String.toList_ofList] at hstrip
    have hskip : skipWs l ≠ [] := by
      intro h
      refine hblank fun c hc => ?_
      exact blank_of_isWs (List.dropWhile_eq_nil_iff.1 h c hc) (hopen c hc)
    obtain ⟨c, rest, hcons⟩ := List.exists_cons_of_ne_nil hskip
    have hmem : c ∈ l := by
      refine (List.dropWhile_suffix isWs).subset ?_
      show c ∈ skipWs l
      rw [hcons]
      exact List.mem_cons_self
    exact loads_eq_none_of_isSpace (skipWs_append_of_eq_cons hcons _) (hstrip c hmem)
  · obtain ⟨r', hr'⟩ := hline hstrip
    obtain ⟨items, hitems⟩ := of_loadLine_eq_ok hr'
    exact loads_append_eq_none hitems (skipWs_jsonLine env r)

/-! ### Reloading -/

/-- What an accepted text holds: the records of its ended lines, and perhaps one in its open
line. -/
theorem of_loadJsonl_eq_ok {contents : String} {entries : List PolicyActivationRecord}
    (h : loadJsonl ext contents = .ok entries) :
    ∃ ended opened,
      loadLines ext 1 ((lines [] (endedLines (newlines contents.toList))).map String.ofList) =
        .ok ended ∧
      entries = ended ++ opened ∧
      (strip (String.ofList (openLine (newlines contents.toList))) = "" ∧ opened = [] ∨
        strip (String.ofList (openLine (newlines contents.toList))) ≠ "" ∧
          ∃ r, loadLine ext (String.ofList (openLine (newlines contents.toList))) = .ok r) := by
  rw [loadJsonl_eq, splitlines_readText, loadLines_append_eq_ok_iff] at h
  obtain ⟨ended, opened, hended, hopened, rfl⟩ := h
  refine ⟨ended, opened, hended, rfl, ?_⟩
  split_ifs at hopened with hnil
  · rw [hnil]
    exact .inl ⟨by decide +kernel, (Except.ok.inj hopened).symm⟩
  · rcases loadLines_singleton_eq_ok_iff.1 hopened with hblank | ⟨hne, r, hr, -⟩
    · exact .inl hblank
    · exact .inr ⟨hne, r, hr⟩

section

variable {P : Type} [DecidableEq P] {path : P} {files : P → Option String} {contents : String}

/-- Which records are read from a file after an append. -/
theorem fromJsonl_appended_eq_ok_iff (hfile : files path = some contents) (env : Externals)
    (r : PolicyActivationRecord) {again : LedgerHost P} :
    fromJsonl ext path (appendText files path (endedLine env r)) true = .ok again ↔
      ∃ ended joined,
        loadLines ext 1 ((lines [] (endedLines (newlines contents.toList))).map String.ofList) =
          .ok ended ∧
        (∃ r', loadLine ext (String.ofList (openLine (newlines contents.toList) ++
          jsonLine env r)) = .ok r' ∧ joined = [r']) ∧
        Chained (links ext.toExternals) 0 genesisPrevHash (ended ++ joined) ∧
        again = ⟨⟨ended ++ joined, true⟩, some path, appendText files path (endedLine env r)⟩ := by
  have hfile' : appendText files path (endedLine env r) path =
      some (contents ++ String.ofList (endedLine env r)) := by
    rw [appendText, Function.update_self, hfile, Option.getD_some]
  rw [fromJsonl_eq_ok_iff hfile']
  simp only [loadJsonl_eq, lines_of_appended, loadLines_append_eq_ok_iff,
    loadLines_singleton_eq_ok_iff]
  constructor
  · rintro ⟨_, ⟨ended, joined, hended, hjoined, rfl⟩, hchained, rfl⟩
    refine ⟨ended, joined, hended, ?_, hchained, rfl⟩
    exact hjoined.elim (fun h => absurd h.1 (strip_jsonLine env _ r)) And.right
  · rintro ⟨ended, joined, hended, hjoined, hchained, rfl⟩
    exact ⟨_, ⟨ended, joined, hended, .inr ⟨strip_jsonLine env _ r, hjoined⟩, rfl⟩, hchained, rfl⟩

variable {loaded host : LedgerHost P} {policyId interventionVersion : PyVal}
  {options : ActivationOptions} {callables : LedgerCallables} {r : PolicyActivationRecord}

/-- An append that joins what is left of another line is the end of the file. -/
theorem fromJsonl_ne_ok_of_open (hfile : files path = some contents)
    (hload : fromJsonl ext path files true = .ok loaded)
    (hcall : recordActivation ext policyId interventionVersion options callables .stored loaded =
      .ok r host)
    (hopen : ¬∀ c ∈ openLine (newlines contents.toList), c = ' ' ∨ c = '\t')
    (again : LedgerHost P) : fromJsonl ext path host.files true ≠ .ok again := by
  obtain ⟨entries, hentries, -, rfl⟩ := (fromJsonl_eq_ok_iff hfile).1 hload
  obtain ⟨-, rfl⟩ := of_recordActivation_stored rfl hcall
  obtain ⟨_, _, -, -, hlast⟩ := of_loadJsonl_eq_ok hentries
  have hline : strip (String.ofList (openLine (newlines contents.toList))) ≠ "" →
      ∃ r, loadLine ext (String.ofList (openLine (newlines contents.toList))) = .ok r :=
    fun hne => hlast.elim (fun h => absurd h.1 hne) And.right
  obtain ⟨exc, hexc⟩ :=
    loadLine_joined isLineBoundary_of_mem_openLine hline hopen ext.toExternals r
  intro hagain
  obtain ⟨_, _, -, ⟨r', hr', -⟩, -⟩ :=
    (fromJsonl_appended_eq_ok_iff hfile ext.toExternals r).1 hagain
  rw [hexc] at hr'
  cases hr'

/-- An append to a file of ended lines, but for spaces and tabs, is read back. -/
theorem fromJsonl_of_blank (hext : ext.ReadsBack) (hfile : files path = some contents)
    (hload : fromJsonl ext path files true = .ok loaded)
    (hcall : recordActivation ext policyId interventionVersion options callables .stored loaded =
      .ok r host)
    (hblank : ∀ c ∈ openLine (newlines contents.toList), c = ' ' ∨ c = '\t') :
    ∃ again, fromJsonl ext path host.files true = .ok again ∧
      List.Forall₂ Same (loaded.ledger.entries ++ [r]) again.ledger.entries := by
  obtain ⟨entries, hentries, hchained, rfl⟩ := (fromJsonl_eq_ok_iff hfile).1 hload
  obtain ⟨hseals, rfl⟩ := of_recordActivation_stored rfl hcall
  obtain ⟨ended, opened, hended, rfl, hlast⟩ := of_loadJsonl_eq_ok hentries
  -- the open line was skipped, and the new one is read without it
  have hspaces : strip (String.ofList (openLine (newlines contents.toList))) = "" := by
    rw [strip_eq_empty_iff, String.toList_ofList]
    exact fun c hc => (isWs_of_blank (hblank c hc)).2
  have hnone : opened = [] := hlast.elim And.right fun h => absurd hspaces h.1
  subst hnone
  rw [List.append_nil] at hchained hseals
  have hjoined := loadLine_jsonLine hext r fun c hc => (isWs_of_blank (hblank c hc)).1
  have hsame : List.Forall₂ Same (ended ++ [r]) (ended ++ [r.reloaded]) :=
    List.rel_append (List.forall₂_same.2 fun r _ => Same.refl r) (.cons (same_reloaded r) .nil)
  have hagain := (hseals.chained hchained).congr links_of_same hsame
  refine ⟨_, (fromJsonl_appended_eq_ok_iff hfile ext.toExternals r).2
    ⟨ended, [r.reloaded], hended, ⟨_, hjoined, rfl⟩, hagain, rfl⟩, ?_⟩
  show List.Forall₂ Same (ended ++ [] ++ [r]) (ended ++ [r.reloaded])
  rwa [List.append_nil]

/-- After an append to a file that was accepted, the file is accepted, with the records that were
loaded and the new one, exactly when its open line held only spaces and tabs. -/
theorem reload_after_append_iff (hext : ext.ReadsBack) {path : P} {files : P → Option String}
    {contents : String} (hfile : files path = some contents) {loaded host : LedgerHost P}
    (hload : fromJsonl ext path files true = .ok loaded) {policyId interventionVersion : PyVal}
    {options : ActivationOptions} {callables : LedgerCallables} {r : PolicyActivationRecord}
    (hcall : recordActivation ext policyId interventionVersion options callables .stored loaded =
      .ok r host) :
    (∃ again, fromJsonl ext path host.files true = .ok again ∧
        List.Forall₂ Same (loaded.ledger.entries ++ [r]) again.ledger.entries) ↔
      ∀ c ∈ openLine (newlines contents.toList), c = ' ' ∨ c = '\t' := by
  constructor
  · rintro ⟨again, hagain, -⟩
    by_contra hopen
    exact fromJsonl_ne_ok_of_open hfile hload hcall hopen again hagain
  · exact fromJsonl_of_blank hext hfile hload hcall

end

/-! ### Two deployments of a policy, the second with an earlier time -/

def newerActivation : PolicyActivationRecord :=
  { demoActivation Dict.empty with
    eventId := ⟨"newer", by decide +kernel⟩
    recordedAt := ⟨4084002000000000, by decide, by decide⟩
    policyId := ⟨"p", by decide⟩
    interventionVersion := demoUpgrade.interventionVersion
    actor := none
    reason := none
    entryHash :=
      ⟨"9125bc6cfd87bbc87a7ee382bf156cab05e78e3696331ead7de9512ed2df028d", by decide +kernel⟩ }

def olderActivation : PolicyActivationRecord :=
  { newerActivation with
    sequence := 1
    sequence_fits := demoUpgrade.sequence_fits
    eventId := ⟨"older", by decide +kernel⟩
    recordedAt := (demoActivation Dict.empty).recordedAt
    interventionVersion := (demoActivation Dict.empty).interventionVersion
    prevEntryHash := newerActivation.entryHash
    entryHash :=
      ⟨"6afcc1620ec2723c67c5d99639401d1fade25d96271c947aaef1e884dee67362", by decide +kernel⟩ }

/-- A third deployment of the policy, later than both. -/
def latestActivation : PolicyActivationRecord :=
  { newerActivation with
    sequence := 2
    sequence_fits := by decide
    eventId := ⟨"latest", by decide +kernel⟩
    recordedAt := ⟨4084005600000000, by decide, by decide⟩
    interventionVersion := ⟨"v3", by decide⟩
    prevEntryHash := olderActivation.entryHash
    entryHash :=
      ⟨"b48403ee98e144121dba77c39b7446472f9051702ba2ca42033fee979a9a64d5", by decide +kernel⟩ }

/-- And one of another policy, with the earlier time. -/
def otherActivation : PolicyActivationRecord :=
  { olderActivation with
    sequence := 3
    sequence_fits := by decide
    eventId := ⟨"other", by decide +kernel⟩
    policyId := ⟨"q", by decide⟩
    prevEntryHash := latestActivation.entryHash
    entryHash :=
      ⟨"edcb88af1d7db8cd7bb78907ed9d12bfd4d71b525f7995fb63f779f5046d2988", by decide +kernel⟩ }

def replayRecords : List PolicyActivationRecord :=
  [newerActivation, olderActivation, latestActivation, otherActivation]

/-- SHA-256 on the texts of the records. -/
def demoReplayReads : LedgerExternals :=
  { demoLedgerReads with
    sha256 := tableHash (replayRecords.map fun r =>
      (entryText demoTexts.floatFormat r.bodyForHash, r.entryHash.text))
    decodeError := fun _ => "Extra data: line 1 column 366 (char 365)" }

theorem demoReplayReads_readsBack : demoReplayReads.ReadsBack :=
  demoLedgerReads_readsBack.with_hash _ _

/-- The arguments a record without metadata comes from. -/
def optionsOf (r : PolicyActivationRecord) : ActivationOptions where
  recordedAt := some r.recordedAt.toPy
  eventId := .str r.eventId.text

theorem intact_replay {r : PolicyActivationRecord} (hr : r ∈ replayRecords) :
    (links demoReplayReads.toExternals).Intact r :=
  (tableHash_entryText (by decide) hr).symm

/-- Each record is sealed where it belongs. -/
theorem seals_replay {entries : List PolicyActivationRecord} {r : PolicyActivationRecord}
    (hr : r ∈ replayRecords) (hsequence : r.sequence = entries.length)
    (hprev : r.prevEntryHash.text =
      tip (links demoReplayReads.toExternals) genesisPrevHash entries) :
    Seals demoReplayReads entries (.str r.policyId.text) (.str r.interventionVersion.text)
      (optionsOf r) demoCallables r := by
  have hnonblank : ∀ r ∈ replayRecords, strip r.policyId.text ≠ "" ∧
      strip r.interventionVersion.text ≠ "" := by decide +kernel
  have hintact := intact_replay hr
  obtain ⟨hpolicy, hversion⟩ := hnonblank r hr
  obtain ⟨heventType, hrecorded, hmetadata, hdeployment, hactor, hreason⟩ :
      r.eventType = .activate ∧ recordingTime (some r.recordedAt.toPy) demoCallables.now =
        .ok r.recordedAt ∧ r.metadata = Dict.empty ∧ r.deploymentId = none ∧ r.actor = none ∧
        r.reason = none := by
    simp only [replayRecords, List.mem_cons, List.not_mem_nil, or_false] at hr
    rcases hr with rfl | rfl | rfl | rfl <;> exact ⟨rfl, rfl, rfl, rfl, rfl, rfl⟩
  exact
    { eventType := by rw [heventType]; rfl
      policyId := rfl
      policyId_nonblank := hpolicy
      interventionVersion := rfl
      interventionVersion_nonblank := hversion
      recordedAt := hrecorded
      eventId := eventIdOf_str r.eventId.nonblank demoCallables.idFactory
      metadata := by rw [hmetadata]; rfl
      deploymentId := by rw [hdeployment]; rfl
      actor := by rw [hactor]; rfl
      reason := by rw [hreason]; rfl
      sequence := hsequence
      prevEntryHash := hprev
      intact := hintact }

theorem intact_newer : (links demoReplayReads.toExternals).Intact newerActivation :=
  intact_replay List.mem_cons_self

theorem seals_newer : Seals demoReplayReads [] (.str "p") (.str "v2") (optionsOf newerActivation)
    demoCallables newerActivation :=
  seals_replay (r := newerActivation) (by simp [replayRecords]) rfl rfl

theorem seals_older : Seals demoReplayReads [newerActivation] (.str "p") (.str "v1")
    (optionsOf olderActivation) demoCallables olderActivation :=
  seals_replay (r := olderActivation) (by simp [replayRecords]) rfl rfl

theorem seals_latest : Seals demoReplayReads [newerActivation, olderActivation] (.str "p")
    (.str "v3") (optionsOf latestActivation) demoCallables latestActivation :=
  seals_replay (r := latestActivation) (by simp [replayRecords]) rfl rfl

theorem seals_other : Seals demoReplayReads [newerActivation, olderActivation, latestActivation]
    (.str "q") (.str "v1") (optionsOf otherActivation) demoCallables otherActivation :=
  seals_replay (r := otherActivation) (by simp [replayRecords]) rfl rfl

/-- A file system with one file, which holds the line of the first record and perhaps its end. -/
def filesWithEnd (lineEnd : List Char) (path : String) : Option String :=
  if path = "deployments.jsonl" then
    some (String.ofList (jsonLine demoReplayReads.toExternals newerActivation ++ lineEnd))
  else none

theorem filesWithEnd_path (lineEnd : List Char) : filesWithEnd lineEnd "deployments.jsonl" =
    some (String.ofList (jsonLine demoReplayReads.toExternals newerActivation ++ lineEnd)) :=
  if_pos rfl

def hostWithEnd (lineEnd : List Char) : LedgerHost String :=
  ⟨⟨[newerActivation], true⟩, some "deployments.jsonl", filesWithEnd lineEnd⟩

theorem recordActivation_hostWithEnd (lineEnd : List Char) :
    recordActivation demoReplayReads (.str "p") (.str "v1") (optionsOf olderActivation)
        demoCallables .stored (hostWithEnd lineEnd) =
      .ok olderActivation
        ((hostWithEnd lineEnd).appended demoReplayReads.toExternals olderActivation) := by
  have hseal : sealRecord demoReplayReads (hostWithEnd lineEnd).ledger.entries (.str "p")
      (.str "v1") (optionsOf olderActivation) demoCallables = .ok olderActivation :=
    sealRecord_eq_ok_iff.2 seals_older
  rw [recordActivation_stored rfl, hseal]

theorem fromJsonl_hostWithEnd {lineEnd : List Char} (hcr : '\r' ∉ lineEnd)
    (hlines : lines [] (jsonLine demoReplayReads.toExternals newerActivation ++ lineEnd) =
      [jsonLine demoReplayReads.toExternals newerActivation]) :
    fromJsonl demoReplayReads "deployments.jsonl" (filesWithEnd lineEnd) true =
      .ok (hostWithEnd lineEnd) := by
  have hnotMem : '\r' ∉ jsonLine demoReplayReads.toExternals newerActivation ++ lineEnd := by
    intro h
    rcases List.mem_append.1 h with hline | hend
    · exact cr_notMem_of_open (isLineBoundary_of_mem_jsonLine _ _) hline
    · exact hcr hend
  obtain ⟨hstrip, hline⟩ := loadLine_own demoReplayReads_readsBack newerActivation
  refine (fromJsonl_eq_ok_iff (filesWithEnd_path lineEnd)).2
    ⟨[newerActivation], ?_, ⟨rfl, rfl, intact_newer, trivial⟩, rfl⟩
  rw [loadJsonl_eq, readText, String.toList_ofList, newlines_of_notMem hnotMem, splitlines,
    String.toList_ofList, hlines]
  exact loadLines_singleton_eq_ok_iff.2 (.inr ⟨hstrip, _, hline, rfl⟩)

/-- The file is accepted without its last newline, and the call that appends to it returns; then
the file is refused. -/
theorem reload_after_append_open :
    fromJsonl demoReplayReads "deployments.jsonl" (filesWithEnd []) true = .ok (hostWithEnd []) ∧
      recordActivation demoReplayReads (.str "p") (.str "v1") (optionsOf olderActivation)
          demoCallables .stored (hostWithEnd []) =
        .ok olderActivation
          ((hostWithEnd []).appended demoReplayReads.toExternals olderActivation) ∧
      ∀ again, fromJsonl demoReplayReads "deployments.jsonl"
        ((hostWithEnd []).appended demoReplayReads.toExternals olderActivation).files true ≠
          .ok again := by
  have hopen := isLineBoundary_of_mem_jsonLine demoReplayReads.toExternals newerActivation
  obtain ⟨cs, hcs⟩ := jsonLine_eq_cons demoReplayReads.toExternals newerActivation
  have hload : fromJsonl demoReplayReads "deployments.jsonl" (filesWithEnd []) true =
      .ok (hostWithEnd []) := by
    apply fromJsonl_hostWithEnd (by simp)
    rw [List.append_nil, lines_of_open hopen, if_neg (by simp [hcs])]
  have hcall := recordActivation_hostWithEnd []
  refine ⟨hload, hcall, fromJsonl_ne_ok_of_open (filesWithEnd_path []) hload hcall ?_⟩
  intro hblank
  rw [List.append_nil, String.toList_ofList, newlines_of_notMem (cr_notMem_of_open hopen),
    openLine_of_open hopen] at hblank
  exact absurd (hblank '{' (by simp [hcs])) (by decide)

/-- With its last newline, the file is read back as both records. -/
theorem reload_after_append_ended :
    ∃ again, fromJsonl demoReplayReads "deployments.jsonl"
        ((hostWithEnd ['\n']).appended demoReplayReads.toExternals olderActivation).files true =
          .ok again ∧
      List.Forall₂ Same [newerActivation, olderActivation] again.ledger.entries := by
  have hopen := isLineBoundary_of_mem_jsonLine demoReplayReads.toExternals newerActivation
  have hload : fromJsonl demoReplayReads "deployments.jsonl" (filesWithEnd ['\n']) true =
      .ok (hostWithEnd ['\n']) :=
    fromJsonl_hostWithEnd (by decide) (lines_line hopen [])
  refine (reload_after_append_iff demoReplayReads_readsBack (filesWithEnd_path ['\n']) hload
    (recordActivation_hostWithEnd ['\n'])).2 ?_
  have hnotMem : '\r' ∉ jsonLine demoReplayReads.toExternals newerActivation ++ ['\n'] := by
    simpa using cr_notMem_of_open hopen
  rw [String.toList_ofList, newlines_of_notMem hnotMem, openLine_concat _ (by decide)]
  simp

end Gco
