import GcoSpec.Gco.Canonical
import GcoSpec.Python.JsonText

/-!
# What a process prints

The commands of `gco` print to one of the two streams and exit with a status. `main` turns what they
raise into the same.

With `--json` a process prints one line to `stdout`, whether it succeeds or fails, and the line is
an object whose `ok` says which (`CliOutput.Reports`).
-/

namespace Gco

open Python Python.Json

/-- What a command raises: a `CLIError`, or another exception, which `str` describes so. -/
inductive CliExc
  | cliError (code message : String) (exitStatus : ℕ)
  | other (text : String)

/-- The status with which `main` exits on it. -/
def CliExc.status : CliExc → ℕ
  | cliError _ _ exitStatus => exitStatus
  | other _ => 1

/-- A number in an f-string. -/
def formatInt (n : ℕ) : Except CliExc String :=
  if IntFits n then .ok s!"{n}" else .error (.other digitLimitText)

/-- What a process prints, and its exit status. -/
structure CliOutput where
  exitStatus : ℕ
  stdout : String
  stderr : String

/-- The separators of `json.dumps` by default. -/
def cliStyle : Style := ⟨true, false⟩

/-- `json.dumps(body, sort_keys=True)`, where a later item wins. The commands have formatted every
integer of the body before. -/
def jsonText (F : FloatFormat) (body : List (String × PyVal)) : String :=
  String.ofList (emit F cliStyle (sortKeys (.dict (Dict.ofPairs body).items)))

section Emit

variable (F : FloatFormat)

/-- `_emit_success`, and the status `SUCCESS`. -/
def emitSuccess (payload : List (String × PyVal)) (asJson : Bool) (human : String) : CliOutput :=
  if asJson then ⟨0, jsonText F (("ok", .bool true) :: payload) ++ "\n", ""⟩
  else ⟨0, human ++ "\n", ""⟩

/-- `_emit_failure`, and the status that goes with it. -/
def emitFailure (code message : String) (exitStatus : ℕ) (asJson : Bool)
    (payload : List (String × PyVal) := []) (label : String := "error") : CliOutput :=
  if asJson then
    ⟨exitStatus, jsonText F (("ok", .bool false) :: ("error_code", .str code) ::
      ("message", .str message) :: payload) ++ "\n", ""⟩
  else ⟨exitStatus, "", s!"{label}: {code}: {message}\n"⟩

/-- What `main` does with the call of a command. -/
def mainOutput (asJson : Bool) : Except CliExc CliOutput → CliOutput
  | .ok output => output
  | .error (.cliError code message exitStatus) => emitFailure F code message exitStatus asJson
  | .error (.other text) => emitFailure F "GCO_CLI_ERROR" text 1 asJson

end Emit

/-! ### Integers -/

theorem formatInt_returns_iff {n : ℕ} : (∃ text, formatInt n = .ok text) ↔ IntFits n := by
  unfold formatInt
  split_ifs with h <;> simp [h]

theorem errorsOnly_formatInt (n : ℕ) : ErrorsOnly (formatInt n) fun exc => exc.status = 1 := by
  unfold formatInt
  split_ifs
  · exact .ok _
  · exact .error rfl

/-! ### Exit statuses -/

variable {F : FloatFormat} {code message label human : String} {exitStatus : ℕ} {asJson : Bool}
  {payload : List (String × PyVal)}

theorem exitStatus_emitFailure :
    (emitFailure F code message exitStatus asJson payload label).exitStatus = exitStatus := by
  cases asJson <;> rfl

theorem exitStatus_emitSuccess : (emitSuccess F payload asJson human).exitStatus = 0 := by
  cases asJson <;> rfl

theorem exitStatus_mainOutput_error {exc : CliExc} :
    (mainOutput F asJson (.error exc)).exitStatus = exc.status := by
  cases exc <;> exact exitStatus_emitFailure

/-! ### Reports -/

theorem forall_items_ofPairs {p : PyVal → Prop} {body : List (String × PyVal)}
    (h : ∀ kv ∈ body, p kv.2) : ∀ kv ∈ (Dict.ofPairs body).items, p kv.2 := by
  rintro ⟨k, v⟩ hmem
  have hlookup := (Dict.mem_items_iff _).1 hmem
  rw [Dict.get?_ofPairs] at hlookup
  obtain ⟨l₁, l₂, hsplit, -⟩ := List.lookup_eq_some_iff.1 hlookup
  refine h (k, v) ?_
  rw [← List.mem_reverse, hsplit]
  simp

/-- What is printed is read back, with its keys sorted. -/
theorem loads_jsonText {body : List (String × PyVal)} (h : ∀ kv ∈ body, Readable F kv.2) :
    loads F (jsonText F body) = some (sortKeys (.dict (Dict.ofPairs body).items)) := by
  have hreadable : Readable F (.dict (Dict.ofPairs body).items) := by
    rw [Readable]
    exact ⟨(Dict.ofPairs body).nodupKeys, readablePairs_iff.2 (forall_items_ofPairs h)⟩
  exact loads_emit (readable_sortKeys hreadable)

/-- The process prints one line, which is read as an object whose `ok` is whether it exits
with 0. -/
def CliOutput.Reports (F : FloatFormat) (output : CliOutput) : Prop :=
  ∃ text body, output.stdout = text ++ "\n" ∧ output.stderr = "" ∧
    (∀ c ∈ text.toList, IsPrintable c) ∧ loads F text = some (.dict body) ∧
    body.lookup "ok" = some (.bool (decide (output.exitStatus = 0)))

theorem reports_jsonText {ok : Bool} {body : List (String × PyVal)}
    (hbody : ∀ kv ∈ body, Plain kv.2) (hok : "ok" ∉ body.map Prod.fst)
    (hstatus : decide (exitStatus = 0) = ok) :
    CliOutput.Reports F ⟨exitStatus, jsonText F (("ok", .bool ok) :: body) ++ "\n", ""⟩ := by
  have hplain : ∀ kv ∈ ("ok", PyVal.bool ok) :: body, Plain kv.2 :=
    List.forall_mem_cons.2 ⟨trivial, hbody⟩
  have hget : (Dict.ofPairs (("ok", PyVal.bool ok) :: body)).get? "ok" = some (.bool ok) := by
    rw [Dict.get?_ofPairs, List.reverse_cons, List.lookup_append,
      Dict.lookup_eq_none_iff_notMem.2 (by simpa using hok), Option.none_or,
      List.lookup_cons_self]
  refine ⟨_, _, rfl, rfl, ?_, loads_jsonText fun kv hkv => readable_of_plain (hplain kv hkv), ?_⟩
  · rw [jsonText, String.toList_ofList]
    exact printable_sortKeys rfl
      (plain_dict (Dict.nodupKeys _) (forall_items_ofPairs hplain))
  · rw [lookup_insertionSort (Dict.nodupKeys _)]
    show ((Dict.ofPairs (("ok", PyVal.bool ok) :: body)).get? "ok").map sortKeys = _
    rw [hget, hstatus]
    rfl

theorem reports_emitSuccess (hpayload : ∀ kv ∈ payload, Plain kv.2)
    (hok : "ok" ∉ payload.map Prod.fst) : (emitSuccess F payload true human).Reports F :=
  reports_jsonText hpayload hok rfl

theorem reports_emitFailure (hpayload : ∀ kv ∈ payload, Plain kv.2)
    (hok : "ok" ∉ payload.map Prod.fst) (hstatus : exitStatus ≠ 0) :
    (emitFailure F code message exitStatus true payload label).Reports F := by
  refine reports_jsonText ?_ ?_ (decide_eq_false hstatus)
  · exact List.forall_mem_cons.2 ⟨trivial, List.forall_mem_cons.2 ⟨trivial, hpayload⟩⟩
  · simpa using hok

/-- What `main` prints is a report when what the command prints is one. -/
theorem reports_mainOutput {result : Except CliExc CliOutput}
    (hok : ∀ output, result = .ok output → output.Reports F)
    (herror : ∀ exc, result = .error exc → exc.status ≠ 0) :
    (mainOutput F true result).Reports F := by
  have hnil : ∀ kv ∈ ([] : List (String × PyVal)), Plain kv.2 := List.forall_mem_nil _
  cases result with
  | ok output => exact hok output rfl
  | error exc =>
    cases exc with
    | cliError code message exitStatus =>
      exact reports_emitFailure hnil List.not_mem_nil (herror _ rfl)
    | other text => exact reports_emitFailure hnil List.not_mem_nil one_ne_zero

end Gco
