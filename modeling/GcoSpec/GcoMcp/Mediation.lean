import GcoSpec.Gco.Mediation
import GcoSpec.Gco.Narrowing
import GcoSpec.GcoMcp.Boundaries

/-!
# Complete mediation

`IncomingAuthentic` is what an allowed decision of the server boundary implies, and
`complete_mediation_iff` puts the six methods and the boundary together: no call is allowed past
the checks, and every call returns, exactly if the collaborators and the arguments raise no
exception that the handlers cannot describe.
-/

namespace GcoMcp

open Python Gco

variable {Key Cert Store V Ω : Type}

/-- The client capability is advertised, the entry of the object parses to one that verifies, is
current and may call the tool, and an entry of a parent to one that verifies, is current and
validates it. -/
structure IncomingAuthentic (cfg : Config Key Cert Store V Ω) (env : Externals)
    (now : PyDatetime) (codec : GcoWireCodec) (requestMeta : Option Meta)
    (toolUri : Arg (World V Ω)) (requestedScope : Option (Arg (World V Ω))) (d : Decision V)
    (w' : World V Ω) : Prop where
  advertised : clientAdvertisedGco requestMeta = true
  parsed : ∃ m payload g, requestMeta = some m ∧ m.get? metaGco = some payload ∧
    codec.modelValidate payload = .ok g ∧ cfg.Authentic env now g ∧
    (∃ w, Allows ((cfg.runtime env now).authorizeToolCall env (.gco g) toolUri requestedScope)
      w d w') ∧
    ∀ parentPayload, m.get? metaParentGco = some parentPayload → ∃ p,
      codec.modelValidate parentPayload = .ok p ∧ cfg.Authentic env now p ∧
        validate env now p g = .ok ()

variable {cfg : Config Key Cert Store V Ω} {env : Externals} {now : PyDatetime}
  {codec : GcoWireCodec} {requestMeta : Option Meta} {toolUri : Arg (World V Ω)}
  {requestedScope : Option (Arg (World V Ω))} {w w' : World V Ω} {d : Decision V}

theorem authentic_of_allows_authorizeToolCall {g : GCO}
    (h : Allows ((cfg.runtime env now).authorizeToolCall env (.gco g) toolUri requestedScope)
      w d w') : cfg.Authentic env now g := by
  obtain ⟨g', ⟨s, s', hg⟩, hauthentic⟩ :=
    ensures_authentic cfg env now (.authorizeToolCall (.gco g) toolUri requestedScope) w d w' h.1
      h.2
  cases hg
  exact hauthentic

theorem authentic_of_allows_authorizeSubcall {p c : GCO}
    (h : Allows ((cfg.runtime env now).authorizeSubcall (.gco p) (.gco c)) w d w') :
    cfg.Authentic env now p ∧ validate env now p c = .ok () := by
  obtain ⟨p', c', ⟨s, s', hp⟩, ⟨t, t', hc⟩, hparent, -, hvalidate⟩ :=
    ensures_authentic cfg env now (.authorizeSubcall (.gco p) (.gco c)) w d w' h.1 h.2
  cases hp
  cases hc
  exact ⟨hparent, hvalidate⟩

theorem not_allows_denyWireError {σ : Type} {e : Exc} {s s' : σ} :
    ¬Allows (denyWireError e) s d s' := by
  rintro ⟨h, hd⟩
  cases hkind : e.kind with
  | wireError code =>
    rw [denyWireError, hkind] at h
    obtain ⟨text, w₁, -, h⟩ := bind_eq_ok h
    cases h
    cases hd
  | _ =>
    rw [denyWireError, hkind] at h
    cases h

/-- The server boundary allows no call past the checks. -/
theorem incomingAuthentic_of_allows
    (h : Allows (authorizeIncoming env (cfg.runtime env now) codec true requestMeta toolUri
      requestedScope) w d w') :
    IncomingAuthentic cfg env now codec requestMeta toolUri requestedScope d w' := by
  unfold authorizeIncoming at h
  by_cases hadvertised : clientAdvertisedGco requestMeta = true
  · rw [if_neg (not_not.2 hadvertised)] at h
    cases hextract : codec.extract env requestMeta with
    | error e =>
      rw [hextract] at h
      exact absurd h not_allows_denyWireError
    | ok wire =>
      obtain ⟨m, payload, hmeta, hget, hvalidate, hparent⟩ :=
        GcoWireCodec.of_extract_eq_ok hextract
      rw [hextract] at h
      dsimp only at h
      rcases hparent with ⟨hnone, hwire⟩ | ⟨parentPayload, parent, hsome, hvalidate', hwire⟩
      · rw [hwire] at h
        refine ⟨hadvertised, m, payload, wire.gco, hmeta, hget, hvalidate,
          authentic_of_allows_authorizeToolCall h, ⟨w, h⟩, ?_⟩
        intro parentPayload hsome
        rw [hnone] at hsome
        cases hsome
      · rw [hwire] at h
        obtain ⟨h, hd⟩ := h
        obtain ⟨subcall, w₁, hsubcall, h⟩ := bind_eq_ok h
        by_cases hallowed : subcall.allowed = true
        · rw [if_neg (not_not.2 hallowed)] at h
          refine ⟨hadvertised, m, payload, wire.gco, hmeta, hget, hvalidate,
            authentic_of_allows_authorizeToolCall ⟨h, hd⟩, ⟨w₁, h, hd⟩, ?_⟩
          intro payload' hpayload'
          rw [hsome, Option.some.injEq] at hpayload'
          subst hpayload'
          exact ⟨parent, hvalidate', authentic_of_allows_authorizeSubcall ⟨hsubcall, hallowed⟩⟩
        · rw [if_pos hallowed] at h
          cases h
          exact absurd hd hallowed
  · -- without the capability a boundary that requires it denies
    rw [if_pos hadvertised, if_pos rfl] at h
    exact absurd h not_allows_deny

/-! ### Collaborators that raise -/

/-- A runtime whose verifier raises `e`. -/
def raisingRuntime (e : Exc) : GovernanceRuntime Unit Unit where
  now := pure demoNow.toPy
  verify _ _ := throw e
  validate _ _ := pure ()
  read _ _ _ := pure ()
  write _ _ _ _ := pure ()
  issue := some fun _ _ => pure none
  uuid4 := pure 0

theorem raisesOnly_raisingRuntime {e : Exc} {P : Exc → Prop} (h : P e) :
    (raisingRuntime e).RaisesOnly P where
  now := .pure _
  verify _ _ := .throw h
  validate _ _ := .pure _
  read _ _ _ := .pure _
  write _ _ _ _ := .pure _
  issue := by
    rintro issue ⟨⟩ identity data
    exact .pure _
  uuid4 := .pure _

/-- A call of the method on a fixed object. -/
def demoMethodCall : Method → MethodCall Unit Unit
  | .authorizeSubcall => .authorizeSubcall (.gco demoRoot) (.gco demoRoot)
  | .authorizeToolCall => .authorizeToolCall (.gco demoRoot) (.str "mcp://tools/search") none
  | .authorizeStateAccess => .authorizeStateAccess (.gco demoRoot) (.str "shared") (.member .read)
  | .readState => .readState (.gco demoRoot) (.str "shared") (.str "k")
  | .writeState => .writeState (.gco demoRoot) (.str "shared") (.str "k") () (.member .write)
  | .deriveForSubcall => .deriveForSubcall (.gco demoRoot) (.request ⟨[], [], demoNow⟩)

theorem method_demoMethodCall (method : Method) : (demoMethodCall method).method = method := by
  cases method <;> rfl

theorem raisesOnly_demoMethodCall (method : Method) (P : Exc → Prop) :
    (demoMethodCall method).RaisesOnly P := by
  cases method with
  | authorizeSubcall => exact ⟨.pure _, .pure _⟩
  | authorizeToolCall => exact ⟨.pure _, trivial, by rintro x ⟨⟩⟩
  | authorizeStateAccess => exact ⟨.pure _, trivial, trivial⟩
  | readState => exact ⟨.pure _, trivial, trivial⟩
  | writeState => exact ⟨.pure _, trivial, trivial, trivial⟩
  | deriveForSubcall => exact ⟨.pure _, .pure _⟩

theorem body_demoMethodCall (method : Method) (e : Exc) :
    (demoMethodCall method).body demoExternals (raisingRuntime e) () = .error e () := by
  cases method <;> rfl

/-- When the verifier raises `e`, the call returns only if its handlers return on `e`. -/
theorem handles_of_returns {method : Method} {e : Exc}
    (h : Returns ((demoMethodCall method).perform demoExternals (raisingRuntime e))) :
    method.Handles e := by
  obtain ⟨d, s, h⟩ := h ()
  rw [MethodCall.perform_eq, method_demoMethodCall] at h
  rcases attempt_eq_ok h with hbody | ⟨e', hbody, hd⟩
  · rw [body_demoMethodCall] at hbody
    cases hbody
  · rw [body_demoMethodCall] at hbody
    cases hbody
    exact Method.handler_returns_iff.1 ⟨d, hd⟩

/-- Of each of the six methods: its calls return and mediate, on all collaborators and arguments
that raise only exceptions of a class, exactly if `str` returns on every exception of the class
and, for the two methods that read it, every `GCODerivationException` among them has its `error`. -/
theorem complete_mediation_iff (method : Method) (raised : Exc → Prop) :
    ((∀ (σ V : Type) (env : Externals) (rt : GovernanceRuntime σ V) (call : MethodCall σ V),
        call.method = method → rt.RaisesOnly raised → call.RaisesOnly raised →
        Returns (call.perform env rt)) ∧
      (∀ (Key Cert Store V Ω : Type) (cfg : Config Key Cert Store V Ω) (env : Externals)
        (now : PyDatetime) (call : MethodCall (World V Ω) V),
        Ensures (call.perform env (cfg.runtime env now)) fun d =>
          d.allowed = true → call.Authentic cfg env now d) ∧
      ∀ (Key Cert Store V Ω : Type) (cfg : Config Key Cert Store V Ω) (env : Externals)
        (now : PyDatetime) (codec : GcoWireCodec) (requestMeta : Option Meta)
        (toolUri : Arg (World V Ω)) (requestedScope : Option (Arg (World V Ω))) (d : Decision V)
        (w w' : World V Ω),
        Allows (authorizeIncoming env (cfg.runtime env now) codec true requestMeta toolUri
          requestedScope) w d w' →
        IncomingAuthentic cfg env now codec requestMeta toolUri requestedScope d w') ↔
      ∀ e, raised e → method.Handles e := by
  constructor
  · rintro ⟨hreturns, -, -⟩ e he
    exact handles_of_returns (hreturns Unit Unit demoExternals (raisingRuntime e)
      (demoMethodCall method) (method_demoMethodCall method) (raisesOnly_raisingRuntime he)
      (raisesOnly_demoMethodCall method raised))
  · intro hraised
    refine ⟨?_, ?_, ?_⟩
    · rintro σ V env rt call rfl hrt hcall
      exact perform_returns env (hrt.mono hraised) (hcall.mono hraised)
    · intro Key Cert Store V Ω cfg env now call
      exact ensures_authentic cfg env now call
    · intro Key Cert Store V Ω cfg env now codec requestMeta toolUri requestedScope d w w' h
      exact incomingAuthentic_of_allows h

/-- A verifier raises an exception whose `__str__` raises, and `authorize_tool_call` raises. -/
theorem authorizeToolCall_raises :
    ∃ e, (MethodCall.authorizeToolCall (.gco demoRoot) (.str "mcp://tools/search") none).perform
      demoExternals (raisingRuntime ⟨.other "Unprintable", none⟩) () = .error e () :=
  ⟨_, rfl⟩

end GcoMcp
