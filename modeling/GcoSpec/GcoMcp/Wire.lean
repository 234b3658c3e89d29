import GcoSpec.Gco.Canonical
import GcoSpec.Gco.Errors
import GcoSpec.Python.Effect

/-!
# The MCP extension on the wire

A request carries the authority of its sender in its `_meta`: a mapping with an entry for the
object, and optionally entries for its parent and for a handle. `GcoWireCodec` attaches these
entries and reads them back; `peerSupportsGco` reads the capability that announces them.
-/

namespace GcoMcp

open Python Python.Json Gco

/-! ### The extension -/

def extensionId : String := "com.alderlinesystems.gco"

/-- `META_GCO`. -/
def metaGco : String := extensionId ++ "/gco"

/-- `META_PARENT_GCO`. -/
def metaParentGco : String := extensionId ++ "/parent_gco"

/-- `META_HANDLE`. -/
def metaHandle : String := extensionId ++ "/handle"

/-- The `_meta` of a request. -/
abbrev Meta := Dict String PyVal

/-- `peer_supports_gco`. -/
def peerSupportsGco : Option (List (String × PyVal)) → Bool
  | none => false
  | some capabilities =>
      match ((capabilities.lookup "extensions").getD (.dict capabilities)).mapping? with
      | some extensions => (extensions.lookup extensionId).isSome
      | none => false

/-- `denial_decision`. -/
def denialDecision {V : Type} (errorCode : ErrorCode) (reason : String) : Decision V :=
  .deny (some errorCode) (some reason)

/-! ### The codec -/

structure WireGco where
  gco : GCO
  parent : Option GCO
  handle : Option String

/-- `GcoWireCodec`, with the bound of its settings and what `GCO.model_validate` does. -/
structure GcoWireCodec where
  maxGcoBytes : ℤ
  modelValidate : PyVal → Except Exc GCO

namespace GcoWireCodec

variable (codec : GcoWireCodec) (env : Externals)

/-- `_enforce_size`. The text is ASCII. -/
def enforceSize (payload : PyVal) : Except Exc Unit :=
  match dumpsSorted env.floatFormat canonicalStyle payload with
  | none => .error (.wireError .malformedGco "GCO _meta entry is not JSON serializable")
  | some text =>
      if codec.maxGcoBytes < text.utf8ByteSize then
        .error (.wireError .oversizeGco "GCO _meta entry exceeds maxGcoBytes")
      else .ok ()

/-- `_load_gco`. -/
def loadGco (payload : PyVal) : Except Exc GCO := do
  codec.enforceSize env payload
  match codec.modelValidate payload with
  | .ok gco => .ok gco
  | .error e =>
      if e.isTypeOrValueError then
        .error (.wireError .malformedGco "GCO _meta entry is malformed")
      else .error e

/-- `_load_handle`. -/
def loadHandle (payload : PyVal) : Except Exc String :=
  match payload.str? with
  | some handle =>
      if handle = "" then
        .error (.wireError .malformedGco "GCO handle _meta entry is malformed")
      else .ok handle
  | none => .error (.wireError .malformedGco "GCO handle _meta entry is malformed")

/-- An entry that is read if it is there. -/
def loadOptional {α : Type} (load : PyVal → Except Exc α) : Option PyVal → Except Exc (Option α)
  | none => .ok none
  | some payload => (load payload).map some

/-- `extract`. -/
def extract (requestMeta : Option Meta) : Except Exc WireGco :=
  match requestMeta.bind fun m => (m.get? metaGco).map fun payload => (m, payload) with
  | none => .error (.wireError .missingGco "GCO _meta entry is required")
  | some (m, payload) => do
      let gco ← codec.loadGco env payload
      let parent ← loadOptional (codec.loadGco env) (m.get? metaParentGco)
      let handle ← loadOptional loadHandle (m.get? metaHandle)
      pure ⟨gco, parent, handle⟩

/-- `attach`. -/
def attach (baseMeta : Option Meta) (gco : GCO) (parent : Option GCO) : Except Exc Meta := do
  codec.enforceSize env (gco.modelDump env)
  let nextMeta := (baseMeta.getD Dict.empty).set metaGco (gco.modelDump env)
  match parent with
  | some parent => do
      codec.enforceSize env (parent.modelDump env)
      pure (nextMeta.set metaParentGco (parent.modelDump env))
  | none => pure (nextMeta.erase metaParentGco)

variable {codec env}

/-- What is loaded was validated. -/
theorem modelValidate_of_loadGco {payload : PyVal} {g : GCO}
    (h : codec.loadGco env payload = .ok g) : codec.modelValidate payload = .ok g := by
  obtain ⟨-, -, h⟩ := except_bind_eq_ok_iff.1 h
  split at h
  · next hvalidate =>
    cases h
    exact hvalidate
  · split_ifs at h

theorem loadOptional_eq_ok {α : Type} {load : PyVal → Except Exc α} {entry : Option PyVal}
    {a : Option α} (h : loadOptional load entry = .ok a) :
    entry = none ∧ a = none ∨ ∃ payload b, entry = some payload ∧ load payload = .ok b ∧
      a = some b := by
  cases entry with
  | none =>
    cases h
    exact .inl ⟨rfl, rfl⟩
  | some payload =>
    rw [loadOptional] at h
    cases hload : load payload with
    | ok b =>
      rw [hload] at h
      cases h
      exact .inr ⟨payload, b, rfl, hload, rfl⟩
    | error e =>
      rw [hload] at h
      cases h

/-- What is extracted are the entries, validated. -/
theorem of_extract_eq_ok {requestMeta : Option Meta} {wire : WireGco}
    (h : codec.extract env requestMeta = .ok wire) :
    ∃ m payload, requestMeta = some m ∧ m.get? metaGco = some payload ∧
      codec.modelValidate payload = .ok wire.gco ∧
      (m.get? metaParentGco = none ∧ wire.parent = none ∨
        ∃ parentPayload parent, m.get? metaParentGco = some parentPayload ∧
          codec.modelValidate parentPayload = .ok parent ∧ wire.parent = some parent) := by
  unfold extract at h
  split at h
  · cases h
  · next m payload hmeta =>
    obtain ⟨m', rfl, hm'⟩ := Option.bind_eq_some_iff.1 hmeta
    obtain ⟨payload', hget, hpair⟩ := Option.map_eq_some_iff.1 hm'
    obtain ⟨rfl, rfl⟩ := Prod.mk.inj hpair
    obtain ⟨g, hg, h⟩ := except_bind_eq_ok_iff.1 h
    obtain ⟨parent, hparent, h⟩ := except_bind_eq_ok_iff.1 h
    obtain ⟨handle, -, h⟩ := except_bind_eq_ok_iff.1 h
    cases h
    refine ⟨m', payload', rfl, hget, modelValidate_of_loadGco hg, ?_⟩
    rcases loadOptional_eq_ok hparent with ⟨hnone, hp⟩ | ⟨parentPayload, p, hsome, hload, hp⟩
    · exact .inl ⟨hnone, hp⟩
    · exact .inr ⟨parentPayload, p, hsome, modelValidate_of_loadGco hload, hp⟩

/-- An object is attached when it fits, and its parent does if it goes along. -/
theorem attach_returns_iff (baseMeta : Option Meta) {gco : GCO} {parent : Option GCO} :
    (∃ m, codec.attach env baseMeta gco parent = .ok m) ↔
      ∀ g ∈ gco :: parent.toList, codec.enforceSize env (g.modelDump env) = .ok () := by
  rw [List.forall_mem_cons]
  unfold attach
  constructor
  · rintro ⟨m, h⟩
    obtain ⟨⟨⟩, hgco, h⟩ := except_bind_eq_ok_iff.1 h
    refine ⟨hgco, ?_⟩
    cases parent with
    | none => simp
    | some parent =>
      obtain ⟨⟨⟩, hparent, -⟩ := except_bind_eq_ok_iff.1 h
      simpa using hparent
  · rintro ⟨hgco, hparent⟩
    rw [hgco]
    cases parent with
    | none => exact ⟨_, rfl⟩
    | some parent =>
      have hfits := hparent parent (by simp)
      refine ⟨_, except_bind_eq_ok_iff.2 ⟨(), rfl, except_bind_eq_ok_iff.2 ⟨(), hfits, rfl⟩⟩⟩

/-- What is attached can be read back, and nothing else is changed. -/
theorem get?_of_attach {baseMeta : Option Meta} {gco : GCO} {parent : Option GCO} {m : Meta}
    (h : codec.attach env baseMeta gco parent = .ok m) :
    m.get? metaGco = some (gco.modelDump env) ∧
      m.get? metaParentGco = parent.map (GCO.modelDump env) ∧
      ∀ key, key ≠ metaGco → key ≠ metaParentGco →
        m.get? key = baseMeta.bind fun base => base.get? key := by
  have hne : metaGco ≠ metaParentGco := by decide
  have hbase : ∀ key, (baseMeta.getD Dict.empty).get? key =
      baseMeta.bind fun base => base.get? key := by
    intro key
    cases baseMeta <;> rfl
  obtain ⟨⟨⟩, -, h⟩ := except_bind_eq_ok_iff.1 h
  cases parent with
  | none =>
    cases h
    refine ⟨?_, ?_, ?_⟩
    · rw [Dict.get?_erase, if_neg hne, Dict.get?_set, if_pos rfl]
    · rw [Dict.get?_erase, if_pos rfl, Option.map_none]
    · intro key hgco hparent
      rw [Dict.get?_erase, if_neg hparent, Dict.get?_set, if_neg hgco, hbase]
  | some parent =>
    obtain ⟨⟨⟩, -, h⟩ := except_bind_eq_ok_iff.1 h
    cases h
    refine ⟨?_, ?_, ?_⟩
    · rw [Dict.get?_set, if_neg hne, Dict.get?_set, if_pos rfl]
    · rw [Dict.get?_set, if_pos rfl, Option.map_some]
    · intro key hgco hparent
      rw [Dict.get?_set, if_neg hparent, Dict.get?_set, if_neg hgco, hbase]

/-- An entry that fits is loaded as it validates. -/
theorem loadGco_of_fits {payload : PyVal} {g : GCO} (hfits : codec.enforceSize env payload = .ok ())
    (hvalidate : codec.modelValidate payload = .ok g) : codec.loadGco env payload = .ok g := by
  rw [loadGco, hfits]
  show (match codec.modelValidate payload with | .ok gco => _ | .error e => _) = _
  rw [hvalidate]

/-- Entries that load are what is extracted. -/
theorem extract_of_entries {m : Meta} {gco : GCO} {parent : Option GCO} {handle : Option String}
    (hgco : m.get? metaGco = some (gco.modelDump env))
    (hparent : m.get? metaParentGco = parent.map (GCO.modelDump env))
    (hload : ∀ g ∈ gco :: parent.toList, codec.loadGco env (g.modelDump env) = .ok g)
    (hhandle : loadOptional loadHandle (m.get? metaHandle) = .ok handle) :
    codec.extract env (some m) = .ok ⟨gco, parent, handle⟩ := by
  have hloadParent : loadOptional (codec.loadGco env) (m.get? metaParentGco) = .ok parent := by
    rw [hparent]
    cases parent with
    | none => rfl
    | some p =>
      rw [Option.map_some, loadOptional, hload p (by simp)]
      rfl
  unfold extract
  rw [Option.bind_some, hgco, Option.map_some]
  dsimp only
  rw [hload gco (by simp), hloadParent, hhandle]
  rfl

/-- What was attached is loaded, when its dump validates as what was dumped. -/
theorem loadGco_of_attach {baseMeta : Option Meta} {gco : GCO} {parent : Option GCO} {m : Meta}
    (h : codec.attach env baseMeta gco parent = .ok m)
    (hvalidate : ∀ g ∈ gco :: parent.toList, codec.modelValidate (g.modelDump env) = .ok g) :
    ∀ g ∈ gco :: parent.toList, codec.loadGco env (g.modelDump env) = .ok g := by
  intro g hg
  exact loadGco_of_fits ((attach_returns_iff baseMeta).1 ⟨m, h⟩ g hg) (hvalidate g hg)

/-- What was attached is extracted, when its dumps validate as what was dumped. -/
theorem extract_of_attach {baseMeta : Option Meta} {gco : GCO} {parent : Option GCO} {m : Meta}
    (h : codec.attach env baseMeta gco parent = .ok m)
    (hvalidate : ∀ g ∈ gco :: parent.toList, codec.modelValidate (g.modelDump env) = .ok g)
    (hhandle : ∀ base ∈ baseMeta, base.get? metaHandle = none) :
    codec.extract env (some m) = .ok ⟨gco, parent, none⟩ := by
  obtain ⟨hgco, hparent, hrest⟩ := get?_of_attach h
  refine extract_of_entries hgco hparent (loadGco_of_attach h hvalidate) ?_
  have hnone : m.get? metaHandle = none := by
    rw [hrest metaHandle (by decide) (by decide)]
    cases baseMeta with
    | none => rfl
    | some base => exact hhandle base rfl
  rw [hnone]
  rfl

end GcoWireCodec

end GcoMcp
