import GcoSpec.Gco.ModelValidate
import GcoSpec.GcoMcp.Wire

/-!
# The codec of the package

`GcoWireCodec` with the models of the package. The dump of an object whose labels are members
validates as the object (`validatesDump_standard`), and what the codec attaches is decided by the
sizes of the texts (`attach_oversize_iff`, `attach_malformed_iff`).
-/

namespace GcoMcp

open Python Python.Json Gco

/-- `GcoWireCodec(settings)`, with the bound of its settings. -/
def GcoWireCodec.standard (ext : ModelExternals) (maxGcoBytes : ℤ) : GcoWireCodec :=
  ⟨maxGcoBytes, GCO.modelValidate ext⟩

/-- What `GCO.model_validate` does with the dump of an object: it returns the object, unless a
label is not a member. -/
structure ValidatesDump (codec : GcoWireCodec) (env : Externals) (g : GCO) : Prop where
  of_typed : g.Typed → codec.modelValidate (g.modelDump env) = .ok g
  of_not_typed : ¬g.Typed → ∃ e, codec.modelValidate (g.modelDump env) = .error e

theorem validatesDump_standard {ext : ModelExternals} (hext : ext.ReadsBack) (maxGcoBytes : ℤ)
    (g : GCO) : ValidatesDump (.standard ext maxGcoBytes) ext.toExternals g where
  of_typed := GCO.modelValidate_of_typed hext
  of_not_typed := GCO.modelValidate_of_not_typed

/-- The bytes of the compact JSON text of an object. -/
def wireSize (env : Externals) (g : GCO) : ℕ :=
  (String.ofList (emit env.floatFormat canonicalStyle (sortKeys (g.modelDump env)))).utf8ByteSize

theorem wireSize_pos (env : Externals) (g : GCO) : 0 < wireSize env g := by
  unfold wireSize
  rw [GCO.modelDump, sortKeys]
  cases (sortKeysPairs _).insertionSort keyLe with
  | nil => exact Nat.zero_lt_two
  | cons kv kvs =>
    rw [Nat.pos_iff_ne_zero, ne_eq, String.utf8ByteSize_eq_zero_iff, ← String.toList_inj,
      String.toList_ofList]
    exact List.cons_ne_nil _ _

namespace GcoWireCodec

variable {codec : GcoWireCodec} {env : Externals}

/-- An object whose depths have texts fails the check of the codec when its own is too long; any
other object has no text. -/
theorem enforceSize_modelDump (g : GCO) :
    codec.enforceSize env (g.modelDump env) =
      if g.Serializable then
        if codec.maxGcoBytes < wireSize env g then
          .error (.wireError .oversizeGco "GCO _meta entry exceeds maxGcoBytes")
        else .ok ()
      else .error (.wireError .malformedGco "GCO _meta entry is not JSON serializable") := by
  rw [enforceSize]
  by_cases hg : g.Serializable
  · rw [dumpsSorted_of_readable (readable_modelDump hg), if_pos hg]
    rfl
  · rw [dumpsSorted_eq_none (Bool.eq_false_iff.2 fun h => hg (serializable_modelDump.1 h)),
      if_neg hg]

theorem enforceSize_eq_ok_iff {g : GCO} :
    codec.enforceSize env (g.modelDump env) = .ok () ↔
      g.Serializable ∧ wireSize env g ≤ codec.maxGcoBytes := by
  rw [enforceSize_modelDump]
  split_ifs with hg hsize
  · exact iff_of_false nofun fun h => not_le.2 hsize h.2
  · exact iff_of_true rfl ⟨hg, not_lt.1 hsize⟩
  · exact iff_of_false nofun fun h => hg h.1

theorem enforceSize_oversize_iff {g : GCO} :
    (∃ text, codec.enforceSize env (g.modelDump env) = .error (.wireError .oversizeGco text)) ↔
      g.Serializable ∧ codec.maxGcoBytes < wireSize env g := by
  rw [enforceSize_modelDump]
  split_ifs with hg hsize
  · exact iff_of_true ⟨_, rfl⟩ ⟨hg, hsize⟩
  · exact iff_of_false nofun fun h => hsize h.2
  · exact iff_of_false nofun fun h => hg h.1

theorem enforceSize_malformed_iff {g : GCO} :
    (∃ text, codec.enforceSize env (g.modelDump env) = .error (.wireError .malformedGco text)) ↔
      ¬g.Serializable := by
  rw [enforceSize_modelDump]
  split_ifs with hg hsize
  · exact iff_of_false nofun (not_not.2 hg)
  · exact iff_of_false nofun (not_not.2 hg)
  · exact iff_of_true ⟨_, rfl⟩ hg

/-- The object is checked before the parent, and nothing else keeps the codec from attaching
them. -/
theorem attach_eq_error_iff {baseMeta : Option Meta} {gco : GCO} {parent : Option GCO} {e : Exc} :
    codec.attach env baseMeta gco parent = .error e ↔
      codec.enforceSize env (gco.modelDump env) = .error e ∨
        codec.enforceSize env (gco.modelDump env) = .ok () ∧
          ∃ p ∈ parent, codec.enforceSize env (p.modelDump env) = .error e := by
  rw [attach, except_bind_raises_iff]
  refine or_congr_right ?_
  cases parent with
  | none =>
    refine iff_of_false ?_ (by rintro ⟨-, p, ⟨⟩, -⟩)
    rintro ⟨⟨⟩, -, ⟨⟩⟩
  | some p =>
    simp only [Option.mem_def, Option.some.injEq, exists_eq_left']
    constructor
    · rintro ⟨⟨⟩, hgco, h⟩
      rcases except_bind_raises_iff.1 h with hparent | ⟨⟨⟩, -, ⟨⟩⟩
      exact ⟨hgco, hparent⟩
    · rintro ⟨hgco, hparent⟩
      exact ⟨(), hgco, except_bind_raises_iff.2 (.inl hparent)⟩

/-- What is too long is refused for its size, the object before the parent. -/
theorem attach_oversize_iff {baseMeta : Option Meta} {gco : GCO} {parent : Option GCO} :
    (∃ text, codec.attach env baseMeta gco parent = .error (.wireError .oversizeGco text)) ↔
      gco.Serializable ∧ (codec.maxGcoBytes < wireSize env gco ∨
        ∃ p ∈ parent, p.Serializable ∧ codec.maxGcoBytes < wireSize env p) := by
  simp only [attach_eq_error_iff, exists_or, enforceSize_oversize_iff, exists_and_left]
  rw [exists_comm]
  simp only [exists_and_left, enforceSize_oversize_iff, enforceSize_eq_ok_iff]
  constructor
  · rintro (⟨hgco, hsize⟩ | ⟨⟨hgco, -⟩, hparent⟩)
    · exact ⟨hgco, .inl hsize⟩
    · exact ⟨hgco, .inr hparent⟩
  · rintro ⟨hgco, hsize⟩
    by_cases hlong : codec.maxGcoBytes < wireSize env gco
    · exact .inl ⟨hgco, hlong⟩
    · exact .inr ⟨⟨hgco, not_lt.1 hlong⟩, hsize.resolve_left hlong⟩

/-- What has no text is refused as malformed, unless the object before it is too long. -/
theorem attach_malformed_iff {baseMeta : Option Meta} {gco : GCO} {parent : Option GCO} :
    (∃ text, codec.attach env baseMeta gco parent = .error (.wireError .malformedGco text)) ↔
      ¬gco.Serializable ∨
        wireSize env gco ≤ codec.maxGcoBytes ∧ ∃ p ∈ parent, ¬p.Serializable := by
  simp only [attach_eq_error_iff, exists_or, enforceSize_malformed_iff, exists_and_left]
  rw [exists_comm]
  simp only [exists_and_left, enforceSize_malformed_iff, enforceSize_eq_ok_iff]
  constructor
  · exact Or.imp_right fun ⟨⟨_, hsize⟩, hparent⟩ => ⟨hsize, hparent⟩
  · intro h
    by_cases hgco : gco.Serializable
    · exact h.imp_right fun ⟨hsize, hparent⟩ => ⟨⟨hgco, hsize⟩, hparent⟩
    · exact .inl hgco

/-- What is attached has a text. -/
theorem serializable_of_attach {baseMeta : Option Meta} {gco : GCO} {parent : Option GCO}
    {m : Meta} (h : codec.attach env baseMeta gco parent = .ok m) :
    ∀ g ∈ gco :: parent.toList, g.Serializable := fun g hg =>
  (enforceSize_eq_ok_iff.1 ((attach_returns_iff baseMeta).1 ⟨m, h⟩ g hg)).1

/-- An object that has a text is attached with the bound that it just meets. -/
theorem attach_standard_of_size {ext : ModelExternals} {g : GCO} (hg : g.Serializable)
    (baseMeta : Option Meta) :
    ∃ m, (standard ext (wireSize env g)).attach env baseMeta g none = .ok m := by
  refine (attach_returns_iff baseMeta).2 fun g' hg' => ?_
  rw [List.mem_singleton.1 hg']
  exact enforceSize_eq_ok_iff.2 ⟨hg, le_rfl⟩

end GcoWireCodec

end GcoMcp
