import GcoSpec.GcoMcp.Handover

/-!
# Extraction undoes attachment

A `_meta` travels as JSON. What the codec of the package attaches is extracted at the other end as
it was (`extract_undoes_attach`): the size of an entry is the same on both sides, stale entries of
an earlier hop are replaced or removed, and the dump of an object whose labels are members validates
as the object.
-/

namespace GcoMcp

open Python Python.Json Gco

/-! ### Transport -/

/-- `json.loads(json.dumps(meta))`, where that is a mapping. -/
def jsonRoundTrip (fmt : FloatFormat) (st : Style) (m : Meta) : Option Meta :=
  (dumps fmt st (.dict m.items)).bind fun text =>
    (loads fmt text).bind fun x => x.mapping?.map Dict.ofPairs

/-- The entries are JSON values, whose floats are read back. -/
def JsonMeta (fmt : FloatFormat) (m : Meta) : Prop :=
  ∀ key x, m.get? key = some x → Readable fmt x

theorem jsonRoundTrip_of_json {fmt : FloatFormat} {m : Meta} (h : JsonMeta fmt m) (st : Style) :
    jsonRoundTrip fmt st m = some m := by
  have hreadable : Readable fmt (.dict m.items) := by
    refine readable_dict m.nodupKeys ?_
    rintro ⟨key, x⟩ hmem
    exact h key x (m.mem_items_iff.1 hmem)
  rw [jsonRoundTrip, dumps, if_pos (serializable_of_readable hreadable), Option.bind_some,
    loads_emit hreadable, Option.bind_some, PyVal.mapping?, Option.map_some, Dict.ofPairs_items]

/-- The handle of a `_meta`. -/
def handleOf (baseMeta : Option Meta) : Option String :=
  baseMeta.bind fun base => (base.get? metaHandle).bind PyVal.str?

section RoundTrip

variable {codec : GcoWireCodec} {env : Externals} {baseMeta : Option Meta} {gco : GCO}
  {parent : Option GCO} {m : Meta}

/-- A `_meta` of JSON values remains one. -/
theorem json_of_attach (h : codec.attach env baseMeta gco parent = .ok m)
    (hbase : ∀ base ∈ baseMeta, JsonMeta env.floatFormat base) : JsonMeta env.floatFormat m := by
  obtain ⟨hgco, hparent, hrest⟩ := GcoWireCodec.get?_of_attach h
  have hfits := GcoWireCodec.serializable_of_attach h
  intro key x hx
  by_cases hkey : key = metaGco
  · rw [hkey, hgco, Option.some.injEq] at hx
    rw [← hx]
    exact readable_modelDump (hfits gco List.mem_cons_self)
  · by_cases hkey' : key = metaParentGco
    · rw [hkey', hparent, Option.map_eq_some_iff] at hx
      obtain ⟨p, hp, rfl⟩ := hx
      exact readable_modelDump (hfits p (List.mem_cons_of_mem _ (Option.mem_toList.2 hp)))
    · rw [hrest key hkey hkey'] at hx
      obtain ⟨base, hbaseMeta, hx⟩ := Option.bind_eq_some_iff.1 hx
      exact hbase base hbaseMeta key x hx

/-- A handle that is there is not empty. -/
def ProperHandle (base : Meta) : Prop :=
  ∀ x, base.get? metaHandle = some x → ∃ s, s ≠ "" ∧ x = .str s

theorem loadHandle_of_attach (h : codec.attach env baseMeta gco parent = .ok m)
    (hhandle : ∀ base ∈ baseMeta, ProperHandle base) :
    GcoWireCodec.loadOptional GcoWireCodec.loadHandle (m.get? metaHandle) =
      .ok (handleOf baseMeta) := by
  obtain ⟨-, -, hrest⟩ := GcoWireCodec.get?_of_attach h
  rw [hrest metaHandle (by decide) (by decide), handleOf]
  cases baseMeta with
  | none => rfl
  | some base =>
    rw [Option.bind_some, Option.bind_some]
    cases hx : base.get? metaHandle with
    | none => rfl
    | some x =>
      obtain ⟨s, hs, rfl⟩ := hhandle base rfl x hx
      rw [GcoWireCodec.loadOptional, GcoWireCodec.loadHandle, PyVal.str?]
      dsimp only
      rw [if_neg hs]
      rfl

end RoundTrip

/-- What `attach` returned, sent as JSON, `extract` with the same settings reads as the objects
and the handle that went in, and the other entries of the base arrive as they were, for any style
of the JSON text. An object that has a text, as it has unless a depth is beyond the digit limit, is
refused as oversized exactly if the text is too long; one that has none is refused as malformed. The
object is checked before the parent. -/
theorem extract_undoes_attach (ext : ModelExternals) (hext : ext.ReadsBack) (maxGcoBytes : ℤ)
    (baseMeta : Option Meta) (hbase : ∀ base ∈ baseMeta, JsonMeta ext.floatFormat base)
    (hhandle : ∀ base ∈ baseMeta, ProperHandle base) (gco : GCO) (parent : Option GCO)
    (htyped : ∀ g ∈ gco :: parent.toList, g.Typed) (st : Style) :
    (∀ m, (GcoWireCodec.standard ext maxGcoBytes).attach ext.toExternals baseMeta gco parent =
        .ok m →
      ∃ received wire, jsonRoundTrip ext.floatFormat st m = some received ∧
        (GcoWireCodec.standard ext maxGcoBytes).extract ext.toExternals (some received) = .ok wire ∧
        wire.gco = gco ∧
        canonicalGcoHash ext.toExternals wire.gco = canonicalGcoHash ext.toExternals gco ∧
        wire.parent = parent ∧ wire.handle = handleOf baseMeta ∧
        ∀ key, key ≠ metaGco → key ≠ metaParentGco → m.get? key = received.get? key ∧
          received.get? key = baseMeta.bind fun base => base.get? key) ∧
      ((∃ text, (GcoWireCodec.standard ext maxGcoBytes).attach ext.toExternals baseMeta gco parent =
          .error (.wireError .oversizeGco text)) ↔
        gco.Serializable ∧ (maxGcoBytes < wireSize ext.toExternals gco ∨
          ∃ p ∈ parent, p.Serializable ∧ maxGcoBytes < wireSize ext.toExternals p)) ∧
      ((∃ text, (GcoWireCodec.standard ext maxGcoBytes).attach ext.toExternals baseMeta gco parent =
          .error (.wireError .malformedGco text)) ↔
        ¬gco.Serializable ∨ wireSize ext.toExternals gco ≤ maxGcoBytes ∧
          ∃ p ∈ parent, ¬p.Serializable) := by
  refine ⟨?_, GcoWireCodec.attach_oversize_iff, GcoWireCodec.attach_malformed_iff⟩
  · intro m h
    obtain ⟨hgco, hparent, hrest⟩ := GcoWireCodec.get?_of_attach h
    have hload := GcoWireCodec.loadGco_of_attach h fun g hg =>
      (validatesDump_standard hext maxGcoBytes g).of_typed (htyped g hg)
    refine ⟨m, ⟨gco, parent, handleOf baseMeta⟩, jsonRoundTrip_of_json (json_of_attach h hbase) st,
      GcoWireCodec.extract_of_entries hgco hparent hload (loadHandle_of_attach h hhandle), rfl, rfl,
      rfl, rfl, ?_⟩
    intro key hkey hkey'
    exact ⟨rfl, hrest key hkey hkey'⟩

/-- A depth that no JSON text holds. -/
@[irreducible] def demoDepth : ℕ := 10 ^ maxStrDigits

theorem not_intFits_demoDepth : ¬IntFits demoDepth := by
  unfold demoDepth
  exact not_intFits_pow

/-- `demoRoot` with that depth. -/
def demoDeep : GCO :=
  { demoRoot with
    toolAuthority := (demoRoot.toolAuthority.take 1).map fun t => { t with maxDepth := demoDepth } }

theorem not_serializable_demoDeep : ¬demoDeep.Serializable := fun h =>
  not_intFits_demoDepth (h _ (List.mem_singleton_self _))

/-- With a bound of no bytes `demoChild` is too long, but the object that goes before it has no
text: the attachment is refused as malformed. -/
theorem attach_malformed_not_oversize :
    (∀ g ∈ [demoDeep, demoChild], g.Typed) ∧
      (∃ text, (GcoWireCodec.standard demoModelExternals 0).attach demoExternals none demoDeep
        (some demoChild) = .error (.wireError .malformedGco text)) ∧
      ¬((∃ text, (GcoWireCodec.standard demoModelExternals 0).attach demoExternals none demoDeep
          (some demoChild) = .error (.wireError .oversizeGco text)) ↔
        ∃ g ∈ [demoDeep, demoChild], ∃ text, dumpsSorted demoExternals.floatFormat canonicalStyle
          (g.modelDump demoExternals) = some text ∧ 0 < text.utf8ByteSize) := by
  have hlong : ∃ g ∈ [demoDeep, demoChild], ∃ text, dumpsSorted demoExternals.floatFormat
      canonicalStyle (g.modelDump demoExternals) = some text ∧ 0 < text.utf8ByteSize :=
    ⟨demoChild, by simp, _, dumpsSorted_of_readable (readable_modelDump serializable_demoChild),
      wireSize_pos demoExternals demoChild⟩
  have htyped : ∀ g ∈ [demoDeep, demoChild], g.Typed := by
    simp only [List.forall_mem_cons, List.not_mem_nil, false_implies, implies_true, and_true]
    exact ⟨by simp [GCO.Typed, demoDeep, demoRoot], typed_of_narrows narrows_demo⟩
  refine ⟨htyped, GcoWireCodec.attach_malformed_iff.2 (.inl not_serializable_demoDeep), ?_⟩
  intro hiff
  exact not_serializable_demoDeep (GcoWireCodec.attach_oversize_iff.1 (hiff.2 hlong)).1

/-- A `_meta` with the entries of an earlier hop, a handle and an entry of its own. -/
def demoBase : Meta :=
  (((Dict.empty.set metaGco (.dict [])).set metaParentGco (.str "stale")).set metaHandle
    (.str "handle-1")).set "progressToken" (.int 7)

theorem json_demoBase : JsonMeta demoModelExternals.floatFormat demoBase := by
  intro key x h
  simp only [demoBase, Dict.get?_set, Dict.get?_empty] at h
  split_ifs at h <;> cases h
  · exact (by decide : IntFits 7)
  · exact trivial
  · exact trivial
  · exact readable_dict List.nodup_nil (by simp)

theorem properHandle_demoBase : ProperHandle demoBase := by
  intro x h
  cases h
  exact ⟨"handle-1", by decide, rfl⟩

/-- The child arrives without the stale parent, at a bound that it just meets. -/
theorem extract_undoes_attach_demo :
    ∃ m received wire, (GcoWireCodec.standard demoModelExternals
        (wireSize demoExternals demoChild)).attach demoExternals (some demoBase) demoChild none =
          .ok m ∧
      jsonRoundTrip demoExternals.floatFormat ⟨true, false⟩ m = some received ∧
      (GcoWireCodec.standard demoModelExternals (wireSize demoExternals demoChild)).extract
        demoExternals (some received) = .ok wire ∧
      wire.gco = demoChild ∧ wire.parent = none ∧ wire.handle = some "handle-1" ∧
      received.get? "progressToken" = some (.int 7) := by
  obtain ⟨m, hm⟩ : ∃ m, (GcoWireCodec.standard demoModelExternals
      (wireSize demoExternals demoChild)).attach demoExternals (some demoBase) demoChild none =
        .ok m := GcoWireCodec.attach_standard_of_size serializable_demoChild _
  have htyped : ∀ g ∈ [demoChild], g.Typed := by
    intro g hg
    rw [List.mem_singleton.1 hg]
    exact typed_of_narrows narrows_demo
  obtain ⟨received, wire, hreceived, hextract, hgco, -, hparent, hhandle, hrest⟩ :=
    (extract_undoes_attach demoModelExternals demoModelExternals_readsBack
      (wireSize demoExternals demoChild) (some demoBase) (by rintro _ ⟨⟩; exact json_demoBase)
      (by rintro _ ⟨⟩; exact properHandle_demoBase) demoChild none htyped ⟨true, false⟩).1 m hm
  refine ⟨m, received, wire, hm, hreceived, hextract, hgco, hparent, hhandle, ?_⟩
  exact (hrest "progressToken" (by decide) (by decide)).2

end GcoMcp
