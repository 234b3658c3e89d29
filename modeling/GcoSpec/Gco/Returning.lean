import GcoSpec.Gco.Runtime

/-!
# The methods of the runtime return

Whatever its collaborators and its arguments raise, a method of the runtime hands the exception to
a handler, which puts its text into a denial. The handler itself raises when there is no such
text, and two of the methods read the `error` of a `GCODerivationException` too: `Method.Handles`
is the exceptions on which the handlers of a method return, and `Describable` those on which all
do. `GovernanceRuntime.RaisesOnly` and its like say that calls raise only exceptions of some kind,
and `perform_returns` is about the six methods.
-/

namespace Gco

open Python

variable {σ V : Type}

/-- `str(e)` returns and, if `e` is a `GCODerivationException`, it has its `error`. -/
def Exc.Describable (e : Exc) : Prop := (∃ t, e.text = some t) ∧ e.kind ≠ .derivation none

instance (e : Exc) : Decidable e.Describable :=
  decidable_of_iff (e.text.isSome ∧ e.kind ≠ .derivation none) (by
    rw [Exc.Describable, Option.isSome_iff_exists])

/-! ### Handlers -/

theorem str_returns {e : Exc} {t : String} (h : e.text = some t) : e.str = .ok t := by
  rw [Exc.str, h]

theorem text_of_str {e : Exc} {t : String} (h : e.str = .ok t) : e.text = some t := by
  unfold Exc.str at h
  split at h
  · next ht => cases h; exact ht
  · cases h

theorem denial_returns_iff {code : Option ErrorCode} {e : Exc} :
    (∃ d : Decision V, (do pure (.deny code (some (← e.str))) : Except Exc (Decision V)) = .ok d) ↔
      ∃ t, e.text = some t := by
  constructor
  · rintro ⟨d, h⟩
    obtain ⟨t, ht, -⟩ := except_bind_eq_ok_iff.1 h
    exact ⟨t, text_of_str ht⟩
  · rintro ⟨t, ht⟩
    rw [str_returns ht]
    exact ⟨_, rfl⟩

theorem denyMalformed_returns_iff {e : Exc} :
    (∃ d : Decision V, denyMalformed e = .ok d) ↔ ∃ t, e.text = some t :=
  denial_returns_iff

theorem handleRead_returns_iff {e : Exc} :
    (∃ d : Decision V, handleRead e = .ok d) ↔ ∃ t, e.text = some t := by
  unfold handleRead
  split
  · exact denial_returns_iff
  · exact denial_returns_iff
  · exact denial_returns_iff
  · exact denyMalformed_returns_iff

theorem handleWrite_returns_iff {e : Exc} :
    (∃ d : Decision V, handleWrite e = .ok d) ↔ ∃ t, e.text = some t := by
  unfold handleWrite
  split
  · exact denial_returns_iff
  · exact denial_returns_iff
  · exact denyMalformed_returns_iff

/-- The handlers of the methods on two objects return exactly on the describable exceptions. -/
theorem handleDerivation_returns_iff {e : Exc} :
    (∃ d : Decision V, handleDerivation e = .ok d) ↔ e.Describable := by
  unfold handleDerivation Exc.Describable
  constructor
  · rintro ⟨d, h⟩
    split at h
    · next he =>
      obtain ⟨t, ht, -⟩ := except_bind_eq_ok_iff.1 h
      refine ⟨⟨t, text_of_str ht⟩, ?_⟩
      rw [he]
      simp
    · cases h
    · next hkind =>
      obtain ⟨t, ht, -⟩ := except_bind_eq_ok_iff.1 h
      exact ⟨⟨t, text_of_str ht⟩, hkind⟩
  · rintro ⟨⟨t, ht⟩, hkind⟩
    split
    · rw [str_returns ht]
      exact ⟨_, rfl⟩
    · next he => exact absurd he hkind
    · exact denyMalformed_returns_iff.2 ⟨t, ht⟩

/-! ### The exceptions of the code itself -/

theorem describable_typeError (text : String) : (Exc.typeError text).Describable :=
  ⟨⟨text, rfl⟩, by simp [Exc.typeError]⟩

theorem describable_ofDerivation (error : DerivationError) : (Exc.ofDerivation error).Describable :=
  ⟨⟨_, rfl⟩, by simp [Exc.ofDerivation]⟩

theorem describable_digitLimitExceeded : digitLimitExceeded.Describable :=
  ⟨⟨_, rfl⟩, by simp [digitLimitExceeded, Exc.valueError]⟩

/-- A computation that raises only describable exceptions. -/
def RaisesDescribable {α : Type} (x : Except Exc α) : Prop := ∀ e, x = .error e → e.Describable

namespace RaisesDescribable

theorem leNow (t : DateTime) (now : PyDatetime) : RaisesDescribable (Gco.leNow t now) := by
  intro e h
  unfold Gco.leNow at h
  split at h
  · cases h
    exact describable_typeError _
  · cases h

theorem canonicalGcoHash (env : Externals) (g : GCO) :
    RaisesDescribable (Gco.canonicalGcoHash env g) := by
  intro e h
  rw [canonicalGcoHash_eq] at h
  split_ifs at h
  cases h
  exact describable_digitLimitExceeded

theorem derivePlan (parent : GCO) (request : DelegationRequest) :
    RaisesDescribable (Gco.derivePlan parent request) := by
  refine (errorsOnly_derivePlan parent request).mono ?_
  rintro e ⟨error, rfl⟩
  exact describable_ofDerivation error

end RaisesDescribable

/-! ### Arguments and collaborators -/

/-- The operations on the argument raise only exceptions in `P`. -/
structure ObjectArg.RaisesOnly (x : ObjectArg σ) (P : Exc → Prop) : Prop where
  str : Python.RaisesOnly x.str P
  format : Python.RaisesOnly x.format P
  repr : Python.RaisesOnly x.repr P
  eqStr : ∀ s, Python.RaisesOnly (x.eqStr s) P
  scopeTokens : Python.RaisesOnly x.scopeTokens P
  accessMode? : Python.RaisesOnly x.accessMode? P

def Arg.RaisesOnly (P : Exc → Prop) : Arg σ → Prop
  | .str _ => True
  | .object x => x.RaisesOnly P

def Mode.RaisesOnly (P : Exc → Prop) : Mode σ → Prop
  | .member _ => True
  | .other x => x.RaisesOnly P

def Input.RaisesOnly (P : Exc → Prop) (x : Input σ) : Prop := Python.RaisesOnly (coerceGco x) P

def Request.RaisesOnly (P : Exc → Prop) (x : Request σ) : Prop :=
  Python.RaisesOnly (coerceRequest x) P

/-- The collaborators raise only exceptions in `P`. -/
structure GovernanceRuntime.RaisesOnly (rt : GovernanceRuntime σ V) (P : Exc → Prop) : Prop where
  now : Python.RaisesOnly rt.now P
  verify : ∀ attestation g, Python.RaisesOnly (rt.verify attestation g) P
  validate : ∀ parent child, Python.RaisesOnly (rt.validate parent child) P
  read : ∀ ns key g, Python.RaisesOnly (rt.read ns key g) P
  write : ∀ ns key value g, Python.RaisesOnly (rt.write ns key value g) P
  issue : ∀ issue ∈ rt.issue, ∀ identity data, Python.RaisesOnly (issue identity data) P
  uuid4 : Python.RaisesOnly rt.uuid4 P

namespace Arg.RaisesOnly

variable {P : Exc → Prop} {x : Arg σ}

theorem toStr (h : x.RaisesOnly P) : Python.RaisesOnly x.toStr P := by
  cases x with
  | str s => exact .pure s
  | object x => exact h.str

theorem format (h : x.RaisesOnly P) : Python.RaisesOnly x.format P := by
  cases x with
  | str s => exact .pure s
  | object x => exact h.format

theorem repr (env : Externals) (h : x.RaisesOnly P) : Python.RaisesOnly (x.repr env) P := by
  cases x with
  | str s => exact .pure _
  | object x => exact h.repr

theorem eqStr (h : x.RaisesOnly P) (t : String) : Python.RaisesOnly (x.eqStr t) P := by
  cases x with
  | str s => exact .pure _
  | object x => exact h.eqStr t

theorem scopeTokens (h : x.RaisesOnly P) : Python.RaisesOnly x.scopeTokens P := by
  cases x with
  | str s => exact .pure _
  | object x => exact h.scopeTokens

theorem accessMode? (h : x.RaisesOnly P) : Python.RaisesOnly x.accessMode? P := by
  cases x with
  | str s => exact .pure _
  | object x => exact h.accessMode?

end Arg.RaisesOnly

theorem coerceMode_other_apply (x : Arg σ) (s : σ) :
    coerceMode (.other x) s = match x.toStr s with
      | .ok text s' => .ok (StrEnum.ofValue? AccessMode text) s'
      | .error e s' => if e.isTypeOrValueError then .ok none s' else .error e s' := rfl

namespace Mode.RaisesOnly

variable {P : Exc → Prop} {x : Mode σ}

theorem member (m : AccessMode) : (Mode.member m : Mode σ).RaisesOnly P := trivial

theorem accessMode? (h : x.RaisesOnly P) : Python.RaisesOnly x.accessMode? P := by
  cases x with
  | member m => exact .pure _
  | other x => exact Arg.RaisesOnly.accessMode? h

theorem label (h : x.RaisesOnly P) : Python.RaisesOnly x.label P := by
  cases x with
  | member m => exact .pure _
  | other x => exact Arg.RaisesOnly.toStr h

theorem format (h : x.RaisesOnly P) : Python.RaisesOnly x.format P := by
  cases x with
  | member m => exact .pure _
  | other x => exact Arg.RaisesOnly.format h

theorem coerceMode (h : x.RaisesOnly P) : Python.RaisesOnly (Gco.coerceMode x) P := by
  cases x with
  | member m => exact .pure _
  | other x =>
    intro s e s' he
    rw [coerceMode_other_apply] at he
    cases hx : x.toStr s with
    | ok text s'' =>
      rw [hx] at he
      cases he
    | error e' s'' =>
      rw [hx] at he
      dsimp only at he
      split_ifs at he
      cases he
      exact Arg.RaisesOnly.toStr h _ _ _ hx

end Mode.RaisesOnly

/-! ### Bodies -/

namespace GovernanceRuntime.RaisesOnly

variable {rt : GovernanceRuntime σ V} {P : Exc → Prop} {env : Externals}

theorem whenVerified (h : rt.RaisesOnly P) {g : GCO} {next : Py Exc σ (Decision V)}
    (hnext : Python.RaisesOnly next P) : Python.RaisesOnly (rt.whenVerified g next) P := by
  unfold GovernanceRuntime.whenVerified
  refine (h.verify _ _).bind fun verified => ?_
  exact .ite (fun _ => .pure _) fun _ => hnext

/-- The comparison with the clock may raise too. -/
theorem withSubject (h : rt.RaisesOnly P) (hP : ∀ e : Exc, e.Describable → P e) {gco : Input σ}
    (hgco : gco.RaisesOnly P) {next : GCO → Py Exc σ (Decision V)}
    (hnext : ∀ g, Python.RaisesOnly (next g) P) :
    Python.RaisesOnly (rt.withSubject gco next) P := by
  unfold GovernanceRuntime.withSubject
  refine hgco.bind fun subject => h.whenVerified (.bind ?_ fun expiry => ?_)
  · unfold verifySubjectNotExpired
    refine h.now.bind fun now => .bind (.ofExcept fun e he => ?_) fun expired => ?_
    · exact hP e (RaisesDescribable.leNow _ _ e he)
    · exact .ite (fun _ => .pure _) fun _ => .pure _
  · cases expiry with
    | none => exact hnext subject
    | some expiry => exact .pure expiry

theorem authorizeSubcallBody (h : rt.RaisesOnly P) {parent child : Input σ}
    (hparent : parent.RaisesOnly P) (hchild : child.RaisesOnly P) :
    Python.RaisesOnly (rt.authorizeSubcallBody parent child) P := by
  unfold GovernanceRuntime.authorizeSubcallBody
  refine hparent.bind fun p => h.whenVerified (hchild.bind fun c => h.whenVerified ?_)
  exact (h.validate p c).bind fun _ => .pure _

theorem toolDecision {toolUri : Arg σ} {requestedScope : Option (Arg σ)}
    (huri : toolUri.RaisesOnly P) (hscope : ∀ x ∈ requestedScope, x.RaisesOnly P)
    (tools : List ToolAuthority) :
    Python.RaisesOnly (GovernanceRuntime.toolDecision env toolUri requestedScope tools :
      Py Exc σ (Decision V)) P := by
  have hdecision : ∀ t, Python.RaisesOnly
      (scopeDecision env toolUri t requestedScope : Py Exc σ (Decision V)) P := by
    intro t
    cases requestedScope with
    | none => exact .pure _
    | some requested =>
      have hrequested := hscope requested rfl
      refine hrequested.scopeTokens.bind fun tokens => .ite (fun _ => .pure _) fun _ => ?_
      exact (hrequested.repr env).bind fun _ => huri.format.bind fun _ => .pure _
  induction tools with
  | nil => exact huri.format.bind fun _ => .pure _
  | cons t tools ih =>
    rw [GovernanceRuntime.toolDecision]
    refine huri.toStr.bind fun uri => .ite (fun _ => ?_) fun _ => ih
    exact .ite (fun _ => ih) fun _ => hdecision t

theorem authorizeVerifiedStateAccess {subject : GCO} {ns : Arg σ} {mode : Mode σ}
    (hns : ns.RaisesOnly P) (hmode : mode.RaisesOnly P) :
    Python.RaisesOnly (GovernanceRuntime.authorizeVerifiedStateAccess subject ns mode :
      Py Exc σ (Decision V)) P := by
  unfold GovernanceRuntime.authorizeVerifiedStateAccess
  refine hmode.coerceMode.bind fun coerced => ?_
  have hrequested : (coerced.elim mode Mode.member).RaisesOnly P := by
    cases coerced with
    | none => exact hmode
    | some m => exact trivial
  refine .bind (.findM? (fun p => hns.eqStr _) _) fun permission => ?_
  cases permission with
  | none => exact hns.format.bind fun _ => .pure _
  | some permission =>
    refine hrequested.accessMode?.bind fun _ => hrequested.label.bind fun _ => ?_
    refine .ite (fun _ => hns.format.bind fun _ => .pure _) fun _ => ?_
    refine hrequested.accessMode?.bind fun _ => ?_
    exact .ite (fun _ => hns.format.bind fun _ => .pure _) fun _ => .pure _

theorem subjectForWriteMode {subject : GCO} {ns : Arg σ} (hns : ns.RaisesOnly P)
    (m : AccessMode) :
    Python.RaisesOnly (GovernanceRuntime.subjectForWriteMode subject ns m : Py Exc σ GCO) P := by
  unfold GovernanceRuntime.subjectForWriteMode
  refine .ite (fun _ => .pure _) fun _ => .bind (.mapM (fun p => ?_) _) fun _ => .pure _
  refine (hns.eqStr _).bind fun same => ?_
  exact .ite (fun _ => .pure _) fun _ => .pure _

theorem derive (h : rt.RaisesOnly P) (hP : ∀ e : Exc, e.Describable → P e)
    {issue : String → Payload → Py Exc σ (Option AttestationModel)} (hissue : issue ∈ rt.issue)
    (parent : GCO) (request : DelegationRequest) :
    Python.RaisesOnly ((GCODerivationRuntime.mk issue rt.validate rt.uuid4).derive env parent
      request) P := by
  unfold GCODerivationRuntime.derive
  refine .bind (.ofExcept fun e he => hP e (RaisesDescribable.derivePlan _ _ e he)) ?_
  rintro ⟨tools, permissions⟩
  refine h.uuid4.bind fun spanId => ?_
  refine .bind (.ofExcept fun e he => hP e (RaisesDescribable.canonicalGcoHash env _ e he)) ?_
  intro parentHash
  refine (h.validate _ _).bind fun _ => ?_
  exact (h.issue issue hissue _ _).bind fun _ => (h.validate _ _).bind fun _ => .pure _

theorem deriveForSubcallBody (h : rt.RaisesOnly P) (hP : ∀ e : Exc, e.Describable → P e)
    {parent : Input σ} {request : Request σ} (hparent : parent.RaisesOnly P)
    (hrequest : request.RaisesOnly P) :
    Python.RaisesOnly (rt.deriveForSubcallBody env parent request) P := by
  unfold GovernanceRuntime.deriveForSubcallBody
  cases hissue : rt.issue with
  | none => exact .pure _
  | some issue =>
    refine hparent.bind fun p => h.whenVerified (hrequest.bind fun r => ?_)
    refine (h.derive hP hissue p r).bind fun child => h.whenVerified ?_
    exact (h.validate p child).bind fun _ => .pure _

end GovernanceRuntime.RaisesOnly

/-! ### Methods -/

/-- The six methods. -/
inductive Method
  | authorizeSubcall
  | authorizeToolCall
  | authorizeStateAccess
  | readState
  | writeState
  | deriveForSubcall
  deriving DecidableEq

namespace Method

/-- The handlers of the method read `exc.error` of a `GCODerivationException`. -/
def ReadsError : Method → Prop
  | authorizeSubcall | deriveForSubcall => True
  | authorizeToolCall | authorizeStateAccess | readState | writeState => False

/-- The handlers of the method return on `e`: `str(e)` returns, and where they read the `error` of
a `GCODerivationException` it has one. -/
def Handles (method : Method) (e : Exc) : Prop :=
  (∃ t, e.text = some t) ∧ (method.ReadsError → e.kind ≠ .derivation none)

theorem handles_of_describable (method : Method) {e : Exc} (h : e.Describable) :
    method.Handles e :=
  ⟨h.1, fun _ => h.2⟩

/-- The handlers of the method. -/
def handler : Method → Exc → Except Exc (Decision V)
  | authorizeSubcall | deriveForSubcall => handleDerivation
  | authorizeToolCall | authorizeStateAccess => denyMalformed
  | readState => handleRead
  | writeState => handleWrite

theorem handler_returns_iff {method : Method} {e : Exc} :
    (∃ d : Decision V, method.handler e = .ok d) ↔ method.Handles e := by
  have hderivation : (∃ d : Decision V, handleDerivation e = .ok d) ↔
      (∃ t, e.text = some t) ∧ (True → e.kind ≠ .derivation none) := by
    rw [handleDerivation_returns_iff, Exc.Describable, true_imp_iff]
  have hother : (∃ t, e.text = some t) ↔
      (∃ t, e.text = some t) ∧ (False → e.kind ≠ .derivation none) := by
    rw [false_imp_iff, and_true]
  cases method with
  | authorizeSubcall => exact hderivation
  | authorizeToolCall => exact denyMalformed_returns_iff.trans hother
  | authorizeStateAccess => exact denyMalformed_returns_iff.trans hother
  | readState => exact handleRead_returns_iff.trans hother
  | writeState => exact handleWrite_returns_iff.trans hother
  | deriveForSubcall => exact hderivation

end Method

/-- A call of one of the six methods. -/
inductive MethodCall (σ V : Type)
  | authorizeSubcall (parent child : Input σ)
  | authorizeToolCall (gco : Input σ) (toolUri : Arg σ) (requestedScope : Option (Arg σ))
  | authorizeStateAccess (gco : Input σ) (ns : Arg σ) (mode : Mode σ)
  | readState (gco : Input σ) (ns key : Arg σ)
  | writeState (gco : Input σ) (ns key : Arg σ) (value : V) (mode : Mode σ)
  | deriveForSubcall (parent : Input σ) (request : Request σ)

namespace MethodCall

/-- The method that is called. -/
def method : MethodCall σ V → Method
  | authorizeSubcall _ _ => .authorizeSubcall
  | authorizeToolCall _ _ _ => .authorizeToolCall
  | authorizeStateAccess _ _ _ => .authorizeStateAccess
  | readState _ _ _ => .readState
  | writeState _ _ _ _ _ => .writeState
  | deriveForSubcall _ _ => .deriveForSubcall

/-- The call, made of a runtime. -/
def perform (env : Externals) (rt : GovernanceRuntime σ V) :
    MethodCall σ V → Py Exc σ (Decision V)
  | authorizeSubcall parent child => rt.authorizeSubcall parent child
  | authorizeToolCall gco toolUri requestedScope =>
      rt.authorizeToolCall env gco toolUri requestedScope
  | authorizeStateAccess gco ns mode => rt.authorizeStateAccess gco ns mode
  | readState gco ns key => rt.readState gco ns key
  | writeState gco ns key value mode => rt.writeState gco ns key value mode
  | deriveForSubcall parent request => rt.deriveForSubcall env parent request

/-- The body of the `try` statement of the method. -/
def body (env : Externals) (rt : GovernanceRuntime σ V) : MethodCall σ V → Py Exc σ (Decision V)
  | authorizeSubcall parent child => rt.authorizeSubcallBody parent child
  | authorizeToolCall gco toolUri requestedScope =>
      rt.authorizeToolCallBody env gco toolUri requestedScope
  | authorizeStateAccess gco ns mode => rt.authorizeStateAccessBody gco ns mode
  | readState gco ns key => rt.readStateBody gco ns key
  | writeState gco ns key value mode => rt.writeStateBody gco ns key value mode
  | deriveForSubcall parent request => rt.deriveForSubcallBody env parent request

theorem perform_eq (env : Externals) (rt : GovernanceRuntime σ V) (call : MethodCall σ V) :
    call.perform env rt = attempt (call.body env rt) call.method.handler := by
  cases call <;> rfl

/-- The operations on the arguments raise only exceptions in `P`. -/
def RaisesOnly (P : Exc → Prop) : MethodCall σ V → Prop
  | authorizeSubcall parent child => parent.RaisesOnly P ∧ child.RaisesOnly P
  | authorizeToolCall gco toolUri requestedScope =>
      gco.RaisesOnly P ∧ toolUri.RaisesOnly P ∧ ∀ x ∈ requestedScope, x.RaisesOnly P
  | authorizeStateAccess gco ns mode =>
      gco.RaisesOnly P ∧ ns.RaisesOnly P ∧ mode.RaisesOnly P
  | readState gco ns key => gco.RaisesOnly P ∧ ns.RaisesOnly P ∧ key.RaisesOnly P
  | writeState gco ns key _ mode =>
      gco.RaisesOnly P ∧ ns.RaisesOnly P ∧ key.RaisesOnly P ∧ mode.RaisesOnly P
  | deriveForSubcall parent request => parent.RaisesOnly P ∧ request.RaisesOnly P

end MethodCall

section Mono

variable {P Q : Exc → Prop}

theorem Arg.RaisesOnly.mono {x : Arg σ} (h : x.RaisesOnly P) (hPQ : ∀ e, P e → Q e) :
    x.RaisesOnly Q := by
  cases x with
  | str s => exact trivial
  | object x =>
    have h : x.RaisesOnly P := h
    exact ⟨h.str.mono hPQ, h.format.mono hPQ, h.repr.mono hPQ, fun s => (h.eqStr s).mono hPQ,
      h.scopeTokens.mono hPQ, h.accessMode?.mono hPQ⟩

theorem Mode.RaisesOnly.mono {x : Mode σ} (h : x.RaisesOnly P) (hPQ : ∀ e, P e → Q e) :
    x.RaisesOnly Q := by
  cases x with
  | member m => exact trivial
  | other x => exact Arg.RaisesOnly.mono h hPQ

theorem GovernanceRuntime.RaisesOnly.mono {rt : GovernanceRuntime σ V} (h : rt.RaisesOnly P)
    (hPQ : ∀ e, P e → Q e) : rt.RaisesOnly Q where
  now := h.now.mono hPQ
  verify attestation g := (h.verify attestation g).mono hPQ
  validate parent child := (h.validate parent child).mono hPQ
  read ns key g := (h.read ns key g).mono hPQ
  write ns key value g := (h.write ns key value g).mono hPQ
  issue issue hissue identity data := (h.issue issue hissue identity data).mono hPQ
  uuid4 := h.uuid4.mono hPQ

theorem MethodCall.RaisesOnly.mono {call : MethodCall σ V} (h : call.RaisesOnly P)
    (hPQ : ∀ e, P e → Q e) : call.RaisesOnly Q := by
  cases call with
  | authorizeSubcall parent child =>
    exact ⟨Python.RaisesOnly.mono h.1 hPQ, Python.RaisesOnly.mono h.2 hPQ⟩
  | authorizeToolCall gco toolUri requestedScope =>
    obtain ⟨hgco, huri, hscope⟩ := h
    exact ⟨Python.RaisesOnly.mono hgco hPQ, huri.mono hPQ, fun x hx => (hscope x hx).mono hPQ⟩
  | authorizeStateAccess gco ns mode =>
    obtain ⟨hgco, hns, hmode⟩ := h
    exact ⟨Python.RaisesOnly.mono hgco hPQ, hns.mono hPQ, hmode.mono hPQ⟩
  | readState gco ns key =>
    obtain ⟨hgco, hns, hkey⟩ := h
    exact ⟨Python.RaisesOnly.mono hgco hPQ, hns.mono hPQ, hkey.mono hPQ⟩
  | writeState gco ns key value mode =>
    obtain ⟨hgco, hns, hkey, hmode⟩ := h
    exact ⟨Python.RaisesOnly.mono hgco hPQ, hns.mono hPQ, hkey.mono hPQ, hmode.mono hPQ⟩
  | deriveForSubcall parent request =>
    exact ⟨Python.RaisesOnly.mono h.1 hPQ, Python.RaisesOnly.mono h.2 hPQ⟩

end Mono

/-- The body of a call raises what its collaborators and its arguments raise, and what the handlers
describe. -/
theorem raisesOnly_body (env : Externals) {rt : GovernanceRuntime σ V} {call : MethodCall σ V}
    {P : Exc → Prop} (hP : ∀ e : Exc, e.Describable → P e) (h : rt.RaisesOnly P)
    (hcall : call.RaisesOnly P) : RaisesOnly (call.body env rt) P := by
  cases call with
  | authorizeSubcall parent child =>
    obtain ⟨hparent, hchild⟩ := hcall
    exact h.authorizeSubcallBody hparent hchild
  | authorizeToolCall gco toolUri requestedScope =>
    obtain ⟨hgco, huri, hscope⟩ := hcall
    exact h.withSubject hP hgco fun g =>
      GovernanceRuntime.RaisesOnly.toolDecision huri hscope g.toolAuthority
  | authorizeStateAccess gco ns mode =>
    obtain ⟨hgco, hns, hmode⟩ := hcall
    refine h.withSubject hP hgco fun g => ?_
    refine (GovernanceRuntime.RaisesOnly.authorizeVerifiedStateAccess hns hmode).bind fun _ => ?_
    exact .ite (fun _ => .pure _) fun _ => .pure _
  | readState gco ns key =>
    obtain ⟨hgco, hns, hkey⟩ := hcall
    refine h.withSubject hP hgco fun g => ?_
    refine (GovernanceRuntime.RaisesOnly.authorizeVerifiedStateAccess hns
      (.member _)).bind fun _ => ?_
    exact .ite (fun _ => .pure _) fun _ => (h.read _ _ _).bind fun _ => .pure _
  | writeState gco ns key value mode =>
    obtain ⟨hgco, hns, hkey, hmode⟩ := hcall
    refine h.withSubject hP hgco fun g => .bind (hmode.coerceMode.bind fun _ => .pure _) ?_
    rintro (_ | m)
    · exact hmode.format.bind fun _ => hns.format.bind fun _ => .pure _
    · refine (GovernanceRuntime.RaisesOnly.authorizeVerifiedStateAccess hns
        (.member _)).bind fun _ => ?_
      refine .ite (fun _ => .pure _) fun _ => ?_
      refine (GovernanceRuntime.RaisesOnly.subjectForWriteMode hns m).bind fun _ => ?_
      exact (h.write _ _ _ _).bind fun _ => .pure _
  | deriveForSubcall parent request =>
    obtain ⟨hparent, hrequest⟩ := hcall
    exact h.deriveForSubcallBody hP hparent hrequest

/-- A call returns if its collaborators and its arguments raise only exceptions that the handlers
of its method return on. -/
theorem perform_returns (env : Externals) {rt : GovernanceRuntime σ V} {call : MethodCall σ V}
    (h : rt.RaisesOnly call.method.Handles) (hcall : call.RaisesOnly call.method.Handles) :
    Returns (call.perform env rt) := by
  rw [MethodCall.perform_eq]
  exact (raisesOnly_body env (fun _ => call.method.handles_of_describable) h hcall).returns_attempt
    fun _ => Method.handler_returns_iff.2

end Gco
