import GcoSpec.Gco.Returning
import GcoSpec.Gco.Standard

/-!
# What the runtime decides

Each method of the standard runtime on a `GCO` and `str` arguments: when it allows, with which
decision, and what it leaves behind. `Allows x s d s'` says that the call `x` returns the allowed
decision `d`; no handler turns an exception into one, so only the bodies matter.

* `allows_withSubject_iff` is the common beginning of the methods on one subject;
* `allows_authorizeToolCall_iff` goes by the first entry of the grant that has depth and scope;
* `allows_readState_iff`, `readState_of_verifies` and `writeState_of_verifies` reduce to the store.
-/

namespace Gco

open Python

variable {σ V : Type}

/-- The call returns an allowed decision. -/
def Allows (x : Py Exc σ (Decision V)) (s : σ) (d : Decision V) (s' : σ) : Prop :=
  x s = .ok d s' ∧ d.allowed = true

/-- Every decision the handler makes of an exception is a denial. -/
def Denies (handler : Exc → Except Exc (Decision V)) : Prop :=
  ∀ e d, handler e = .ok d → d.allowed = false

theorem allowed_of_str {e : Exc} {d : Decision V} {code : ErrorCode}
    (h : (do pure (.deny (some code) (some (← e.str))) : Except Exc (Decision V)) = .ok d) :
    d.allowed = false := by
  obtain ⟨text, -, h⟩ := except_bind_eq_ok_iff.1 h
  cases h
  rfl

theorem denies_malformed : Denies (denyMalformed : Exc → Except Exc (Decision V)) :=
  fun _ _ h => allowed_of_str h

theorem denies_derivation : Denies (handleDerivation : Exc → Except Exc (Decision V)) := by
  intro e d h
  unfold handleDerivation at h
  split at h
  · exact allowed_of_str h
  · cases h
  · exact denies_malformed e d h

theorem denies_read : Denies (handleRead : Exc → Except Exc (Decision V)) := by
  intro e d h
  unfold handleRead at h
  split at h
  · exact allowed_of_str h
  · exact allowed_of_str h
  · exact allowed_of_str h
  · exact denies_malformed e d h

theorem denies_write : Denies (handleWrite : Exc → Except Exc (Decision V)) := by
  intro e d h
  unfold handleWrite at h
  split at h
  · exact allowed_of_str h
  · exact allowed_of_str h
  · exact denies_malformed e d h

/-- What a guarded method allows, its body allowed. -/
theorem allows_attempt_iff {body : Py Exc σ (Decision V)}
    {handler : Exc → Except Exc (Decision V)} (hdenies : Denies handler) {s s' : σ}
    {d : Decision V} : Allows (attempt body handler) s d s' ↔ Allows body s d s' := by
  constructor
  · rintro ⟨h, hd⟩
    rcases attempt_eq_ok h with hbody | ⟨e, -, he⟩
    · exact ⟨hbody, hd⟩
    · rw [hdenies e d he] at hd
      cases hd
  · rintro ⟨h, hd⟩
    exact ⟨attempt_of_ok h, hd⟩

theorem not_allows_deny {s s' : σ} {d : Decision V} {code : Option ErrorCode}
    {reason : Option String} : ¬Allows (pure (.deny code reason)) s d s' := by
  rintro ⟨h, hd⟩
  cases h
  cases hd

theorem allows_allow_iff {s s' : σ} {d : Decision V} :
    Allows (pure .allow) s d s' ↔ d = .allow ∧ s' = s := by
  constructor
  · rintro ⟨h, -⟩
    cases h
    exact ⟨rfl, rfl⟩
  · rintro ⟨rfl, rfl⟩
    exact ⟨rfl, rfl⟩

/-! ### Tool calls -/

/-- The entry that decides about a tool: the first one for its URI with depth and scope left. -/
def grantFor? (tools : List ToolAuthority) (uri : String) : Option ToolAuthority :=
  tools.find? fun t => t.toolUri.text = uri ∧ 0 < t.maxDepth ∧ strip t.scope ≠ ""

/-- The grant covers the tool, and the scope if one is requested. -/
def GrantsTool (tools : List ToolAuthority) (uri : String) (requestedScope : Option String) :
    Prop :=
  ∃ t, grantFor? tools uri = some t ∧ ∀ r ∈ requestedScope, scopeIsSubset r t.scope = true

theorem allows_scopeDecision_iff (env : Externals) {uri : String} {requestedScope : Option String}
    {t : ToolAuthority} {s s' : σ} {d : Decision V} :
    Allows (GovernanceRuntime.scopeDecision env (.str uri) t (requestedScope.map .str)) s d s' ↔
      (∀ r ∈ requestedScope, scopeIsSubset r t.scope = true) ∧ d = .allow ∧ s' = s := by
  cases requestedScope with
  | none =>
    rw [Option.map_none, GovernanceRuntime.scopeDecision, allows_allow_iff]
    simp
  | some r =>
    rw [Option.map_some, GovernanceRuntime.scopeDecision, Arg.scopeTokens, pure_bind]
    simp only [Option.mem_some_iff, forall_eq']
    unfold scopeIsSubset
    split_ifs with hr
    · rw [allows_allow_iff]
      exact (and_iff_right hr).symm
    · rw [Arg.repr, Arg.format, pure_bind, pure_bind]
      exact iff_of_false not_allows_deny fun h => hr h.1

theorem allows_toolDecision_iff (env : Externals) {uri : String} {requestedScope : Option String}
    {tools : List ToolAuthority} {s s' : σ} {d : Decision V} :
    Allows (GovernanceRuntime.toolDecision env (.str uri) (requestedScope.map .str) tools) s d s' ↔
      GrantsTool tools uri requestedScope ∧ d = .allow ∧ s' = s := by
  induction tools with
  | nil =>
    refine iff_of_false not_allows_deny ?_
    rintro ⟨⟨t, h, -⟩, -⟩
    cases h
  | cons t tools ih =>
    rw [GovernanceRuntime.toolDecision, Arg.toStr, pure_bind]
    by_cases hgrant : t.toolUri.text = uri ∧ 0 < t.maxDepth ∧ strip t.scope ≠ ""
    · -- this entry decides
      have hfind : grantFor? (t :: tools) uri = some t :=
        List.find?_cons_of_pos (by simpa using hgrant)
      rw [if_pos ⟨hgrant.1, hgrant.2.1⟩, if_neg hgrant.2.2, allows_scopeDecision_iff, GrantsTool,
        hfind]
      simp
    · -- an entry without the URI, depth or scope is passed over
      have hfind : grantFor? (t :: tools) uri = grantFor? tools uri :=
        List.find?_cons_of_neg (by simpa using hgrant)
      rw [GrantsTool, hfind, ← GrantsTool, ← ih]
      by_cases huri : t.toolUri.text = uri ∧ 0 < t.maxDepth
      · rw [if_pos huri, if_pos (not_not.1 fun hne => hgrant ⟨huri.1, huri.2, hne⟩)]
      · rw [if_neg huri]

/-! ### Access to a namespace -/

/-- The first permission for the namespace covers the mode. -/
def GrantsMode (g : GCO) (ns : String) (m : AccessMode) : Prop :=
  m ≠ .none ∧ ∃ p, g.permissionFor? ns = some p ∧ accessAllows p.accessMode (.member m) = true

theorem authorizeVerifiedStateAccess_member (g : GCO) (ns : String) (m : AccessMode) :
    ∃ d : Decision V, (GovernanceRuntime.authorizeVerifiedStateAccess g (.str ns) (.member m) :
      Py Exc σ (Decision V)) = pure d ∧ (d.allowed = true ↔ GrantsMode g ns m) := by
  have hfind : (g.stateAccessPermissions.findM? fun p => (Arg.str ns : Arg σ).eqStr p.namespace) =
      pure (g.permissionFor? ns) := List.findM?_pure _ _
  have hrank : accessRank (.member m) ≠ none := by cases m <;> simp [accessRank]
  unfold GovernanceRuntime.authorizeVerifiedStateAccess GrantsMode
  rw [coerceMode, pure_bind, hfind, pure_bind]
  cases g.permissionFor? ns with
  | none =>
    refine ⟨_, pure_bind _ _, ?_⟩
    simp [denyNamespace]
  | some p =>
    simp only [Option.elim_some, Mode.accessMode?, Mode.label, Arg.format, pure_bind,
      Option.bind_some]
    by_cases hnone : m = .none
    · refine ⟨_, if_pos (.inr (.inr (by rw [hnone]; rfl))), ?_⟩
      simp [denyNamespace, hnone]
    · have hisNone : (Mode.member m : Mode σ).isNone ≠ true := by
        cases m <;> simp_all [Mode.isNone]
      by_cases hallows : accessAllows p.accessMode (.member m) = true
      · -- a mode that allows another has a rank
        have hgranted : accessRank p.accessMode ≠ none := by
          intro hrank
          rcases hp : p.accessMode with (_ | _ | _ | _) | _ <;> rw [hp] at hrank hallows
          all_goals cases hrank
          cases hallows
        rw [if_neg (by simp [hrank, hgranted, hisNone]), if_neg (by simp [hallows])]
        exact ⟨_, rfl, by simp [hnone, hallows]⟩
      · split_ifs
        · exact ⟨_, rfl, by simp [denyNamespace, hallows]⟩
        · exact ⟨_, rfl, by simp [denyNamespace, hallows]⟩
        · simp_all

/-! ### The subject -/

section Standard

variable {Key Cert Store Ω : Type} {cfg : Config Key Cert Store V Ω} {env : Externals}
  {now : PyDatetime} {g : GCO} {w w' w'' : World V Ω} {d : Decision V}

theorem verifySubjectNotExpired_of_after (hafter : After g.expiresAt now) :
    (cfg.runtime env now).verifySubjectNotExpired g = pure none := by
  show (Py.ofExcept (leNow g.expiresAt now) >>= _ : Py _ _ _) = _
  rw [leNow_eq_false_iff.2 hafter]
  rfl

/-- The check of the expiry passes at a time before it, and else denies. -/
theorem verifySubjectNotExpired_eq_ok {expiry : Option (Decision V)}
    (h : (cfg.runtime env now).verifySubjectNotExpired g w = .ok expiry w') :
    w' = w ∧
      (expiry = none ∧ After g.expiresAt now ∨ ∃ d, expiry = some d ∧ d.allowed = false) := by
  have h' : (Py.ofExcept (leNow g.expiresAt now) >>= fun expired => if expired then
      pure (some (.deny (some (.derivation .expired)) none)) else pure none :
        Py Exc (World V Ω) (Option (Decision V))) w = .ok expiry w' := h
  obtain ⟨expired, w₁, hrun, hexpired⟩ := bind_eq_ok h'
  obtain ⟨hle, rfl⟩ := Py.ofExcept_eq_ok hrun
  cases expired with
  | true =>
    cases hexpired
    exact ⟨rfl, .inr ⟨_, rfl, rfl⟩⟩
  | false =>
    cases hexpired
    exact ⟨rfl, .inl ⟨rfl, leNow_eq_false_iff.1 hle⟩⟩

/-- An object that verifies is handed on. -/
theorem whenVerified_of_verifies (h : cfg.Verifies env now g w w')
    (next : Py Exc (World V Ω) (Decision V)) :
    (cfg.runtime env now).whenVerified g next w = next w' := by
  obtain ⟨r, hverify, hr⟩ := h
  rw [GovernanceRuntime.whenVerified, bind_of_ok hverify, if_neg (not_not.2 hr)]

/-- Any other is denied with the code of the verifier. -/
theorem whenVerified_of_not_verified {σ : Type} {rt : GovernanceRuntime σ V} {g : GCO}
    {r : VerificationResult} {s s' : σ} (h : rt.verify g.attestation g s = .ok r s')
    (hr : r.verified = false) (next : Py Exc σ (Decision V)) :
    rt.whenVerified g next s = .ok (.deny r.errorCode r.message) s' := by
  rw [GovernanceRuntime.whenVerified, bind_of_ok h, if_pos (by simp [hr])]
  rfl

/-- A subject that verifies and is current is handed on. -/
theorem withSubject_of_verifies {next : GCO → Py Exc (World V Ω) (Decision V)}
    (h : cfg.Verifies env now g w w') (hafter : After g.expiresAt now) :
    (cfg.runtime env now).withSubject (.gco g) next w = next g w' := by
  rw [GovernanceRuntime.withSubject, coerceGco, pure_bind, whenVerified_of_verifies h,
    verifySubjectNotExpired_of_after hafter, pure_bind]

/-- What is allowed once the object has verified. -/
theorem allows_whenVerified_iff {next : Py Exc (World V Ω) (Decision V)} :
    Allows ((cfg.runtime env now).whenVerified g next) w d w'' ↔
      ∃ w', cfg.Verifies env now g w w' ∧ Allows next w' d w'' := by
  unfold GovernanceRuntime.whenVerified
  constructor
  · rintro ⟨h, hd⟩
    obtain ⟨r, w', hverify, h⟩ := bind_eq_ok h
    by_cases hr : r.verified = true
    · rw [if_neg (not_not.2 hr)] at h
      exact ⟨w', ⟨r, hverify, hr⟩, h, hd⟩
    · rw [if_pos hr] at h
      exact absurd ⟨h, hd⟩ not_allows_deny
  · rintro ⟨w', hverifies, h, hd⟩
    exact ⟨(whenVerified_of_verifies hverifies next).trans h, hd⟩

/-- A method on one subject allows what it allows to a subject that verifies and is current. -/
theorem allows_withSubject_iff {next : GCO → Py Exc (World V Ω) (Decision V)} :
    Allows ((cfg.runtime env now).withSubject (.gco g) next) w d w'' ↔
      ∃ w', cfg.Verifies env now g w w' ∧ After g.expiresAt now ∧ Allows (next g) w' d w'' := by
  rw [GovernanceRuntime.withSubject, coerceGco, pure_bind, allows_whenVerified_iff]
  refine exists_congr fun w' => and_congr_right fun _ => ?_
  constructor
  · rintro ⟨h, hd⟩
    obtain ⟨expiry, w₁, hexpiry, h⟩ := bind_eq_ok h
    obtain ⟨rfl, ⟨rfl, hafter⟩ | ⟨e, rfl, he⟩⟩ := verifySubjectNotExpired_eq_ok hexpiry
    · exact ⟨hafter, h, hd⟩
    · cases h
      rw [he] at hd
      cases hd
  · rintro ⟨hafter, h, hd⟩
    refine ⟨?_, hd⟩
    rw [verifySubjectNotExpired_of_after hafter, pure_bind]
    exact h

/-! ### The methods -/

/-- `authorize_tool_call` allows a current, verified subject what its grant covers. -/
theorem allows_authorizeToolCall_iff {uri : String} (requestedScope : Option String) :
    Allows ((cfg.runtime env now).authorizeToolCall env (.gco g) (.str uri)
        (requestedScope.map .str)) w d w' ↔
      cfg.Verifies env now g w w' ∧ After g.expiresAt now ∧
        GrantsTool g.toolAuthority uri requestedScope ∧ d = .allow := by
  rw [GovernanceRuntime.authorizeToolCall, allows_attempt_iff denies_malformed,
    GovernanceRuntime.authorizeToolCallBody, allows_withSubject_iff]
  simp only [allows_toolDecision_iff]
  constructor
  · rintro ⟨w₁, hverifies, hafter, hgrant, rfl, rfl⟩
    exact ⟨hverifies, hafter, hgrant, rfl⟩
  · rintro ⟨hverifies, hafter, hgrant, rfl⟩
    exact ⟨w', hverifies, hafter, hgrant, rfl, rfl⟩

/-- `read_state` allows a current, verified subject what the store returns to it. -/
theorem allows_readState_iff {ns key : String} :
    Allows ((cfg.runtime env now).readState (.gco g) (.str ns) (.str key)) w d w' ↔
      cfg.Verifies env now g w w' ∧ After g.expiresAt now ∧
        ∃ value, w'.store.read ns key g = .ok value ∧ d = .allowValue value := by
  rw [GovernanceRuntime.readState, allows_attempt_iff denies_read,
    GovernanceRuntime.readStateBody, allows_withSubject_iff]
  obtain ⟨access, haccess, hallowed⟩ :=
    authorizeVerifiedStateAccess_member (V := V) (σ := World V Ω) g ns .read
  rw [haccess]
  simp only [pure_bind]
  constructor
  · rintro ⟨w₁, hverifies, hafter, h, hd⟩
    by_cases ha : access.allowed = true
    · rw [if_neg (not_not.2 ha)] at h
      obtain ⟨value, w₂, hrun, hvalue⟩ := bind_eq_ok h
      rw [Config.runtime_read_str] at hrun
      obtain ⟨hread, rfl⟩ := Py.ofExcept_eq_ok hrun
      cases hvalue
      exact ⟨hverifies, hafter, value, hread, rfl⟩
    · rw [if_pos ha] at h
      cases h
      exact absurd hd ha
  · rintro ⟨hverifies, hafter, value, hread, rfl⟩
    refine ⟨w', hverifies, hafter, ?_, rfl⟩
    -- the gate of the store implies that of the runtime
    obtain ⟨p, t, hp, hmode, -⟩ := GovernedStateStore.read_eq_ok_iff.1 hread
    have ha : access.allowed = true :=
      hallowed.2 ⟨by decide, p, hp, GovernedStateStore.isReadMode_iff.1 hmode⟩
    rw [if_neg (not_not.2 ha), bind_apply, Config.runtime_read_str, hread]
    rfl

/-- The validator returns, and then the decision. -/
theorem allows_validate_iff {p c : GCO} (d₀ : Decision V) (hd₀ : d₀.allowed = true) :
    Allows (do (cfg.runtime env now).validate p c; pure d₀) w d w' ↔
      validate env now p c = .ok () ∧ d = d₀ ∧ w' = w := by
  constructor
  · rintro ⟨h, hd⟩
    obtain ⟨⟨⟩, w₁, hvalidate, hrest⟩ := bind_eq_ok h
    obtain ⟨hok, rfl⟩ := Py.ofExcept_eq_ok hvalidate
    cases hrest
    exact ⟨hok, rfl, rfl⟩
  · rintro ⟨hok, rfl, rfl⟩
    refine ⟨?_, hd₀⟩
    show ((Py.ofExcept (validate env now p c) : Py Exc (World V Ω) Unit) >>= _) w' = _
    rw [hok]
    rfl

/-- `authorize_subcall` allows a child that validates, when both verify, the parent first. -/
theorem allows_authorizeSubcall_iff {p c : GCO} :
    Allows ((cfg.runtime env now).authorizeSubcall (.gco p) (.gco c)) w d w' ↔
      ∃ w₁, cfg.Verifies env now p w w₁ ∧ cfg.Verifies env now c w₁ w' ∧
        validate env now p c = .ok () ∧ d = .allow := by
  rw [GovernanceRuntime.authorizeSubcall, allows_attempt_iff denies_derivation,
    GovernanceRuntime.authorizeSubcallBody, coerceGco, pure_bind, allows_whenVerified_iff]
  refine exists_congr fun w₁ => and_congr_right fun _ => ?_
  rw [coerceGco, pure_bind, allows_whenVerified_iff]
  simp only [allows_validate_iff .allow rfl]
  constructor
  · rintro ⟨w₂, hverifies, hvalidate, rfl, rfl⟩
    exact ⟨hverifies, hvalidate, rfl⟩
  · rintro ⟨hverifies, hvalidate, rfl⟩
    exact ⟨w', hverifies, hvalidate, rfl, rfl⟩

/-- `derive_for_subcall` allows what the authority derives, when it verifies and validates. -/
theorem allows_deriveForSubcall_iff {parent : GCO} {request : DelegationRequest} :
    Allows ((cfg.runtime env now).deriveForSubcall env (.gco parent) (.request request)) w d w' ↔
      ∃ issue ∈ cfg.issue, ∃ w₁ child w₂, cfg.Verifies env now parent w w₁ ∧
        (GCODerivationRuntime.mk issue (cfg.runtime env now).validate cfg.uuid4).derive env parent
          request w₁ = .ok child w₂ ∧
        cfg.Verifies env now child w₂ w' ∧ validate env now parent child = .ok () ∧
        d = .allowChild child := by
  rw [GovernanceRuntime.deriveForSubcall, allows_attempt_iff denies_derivation,
    GovernanceRuntime.deriveForSubcallBody]
  have hissue : (cfg.runtime env now).issue = cfg.issue := rfl
  rw [hissue]
  cases cfg.issue with
  | none =>
    refine iff_of_false not_allows_deny ?_
    rintro ⟨issue, h, -⟩
    cases h
  | some issue =>
    simp only [Option.mem_some_iff, exists_eq_left']
    rw [coerceGco, pure_bind, allows_whenVerified_iff]
    refine exists_congr fun w₁ => ?_
    rw [coerceRequest, pure_bind]
    constructor
    · rintro ⟨hverifies, h, hd⟩
      obtain ⟨child, w₂, hderive, h⟩ := bind_eq_ok h
      obtain ⟨w₃, hchild, h⟩ := allows_whenVerified_iff.1 ⟨h, hd⟩
      obtain ⟨hvalidate, rfl, rfl⟩ :=
        (allows_validate_iff (.allowChild child) rfl).1 h
      exact ⟨child, w₂, hverifies, hderive, hchild, hvalidate, rfl⟩
    · rintro ⟨child, w₂, hverifies, hderive, hchild, hvalidate, rfl⟩
      have hallows : Allows ((cfg.runtime env now).whenVerified child do
          (cfg.runtime env now).validate parent child
          pure (.allowChild child)) w₂ (.allowChild child) w' :=
        allows_whenVerified_iff.2
          ⟨w', hchild, (allows_validate_iff (.allowChild child) rfl).2 ⟨hvalidate, rfl, rfl⟩⟩
      have hderive' : (GCODerivationRuntime.mk issue (cfg.runtime env now).validate
          (cfg.runtime env now).uuid4).derive env parent request w₁ = .ok child w₂ := hderive
      refine ⟨hverifies, ?_, rfl⟩
      rw [bind_of_ok hderive']
      exact hallows.1

/-- A child that is minted and does not verify is denied with the code of the verifier. -/
theorem deriveForSubcall_of_not_verified {parent child : GCO} {request : DelegationRequest}
    {issue : String → Payload → Py Exc (World V Ω) (Option AttestationModel)}
    {w₁ w₂ : World V Ω} {r : VerificationResult} (hissue : cfg.issue = some issue)
    (hparent : cfg.Verifies env now parent w w₁)
    (hderive : (GCODerivationRuntime.mk issue (cfg.runtime env now).validate
      (cfg.runtime env now).uuid4).derive env parent request w₁ = .ok child w₂)
    (hverify : (cfg.runtime env now).verify child.attestation child w₂ = .ok r w')
    (hr : r.verified = false) :
    (cfg.runtime env now).deriveForSubcall env (.gco parent) (.request request) w =
      .ok (.deny r.errorCode r.message) w' := by
  refine attempt_of_ok ?_
  have hissue' : (cfg.runtime env now).issue = some issue := hissue
  rw [GovernanceRuntime.deriveForSubcallBody, hissue']
  dsimp only
  rw [coerceGco, pure_bind, whenVerified_of_verifies hparent, coerceRequest, pure_bind,
    bind_of_ok hderive]
  exact whenVerified_of_not_verified hverify hr _

/-! ### Reads and writes of a verified, current subject -/

/-- `read_state` returns what the store does, and changes nothing. -/
theorem readState_of_verifies {ns key : String} (h : cfg.Verifies env now g w w')
    (hafter : After g.expiresAt now) :
    ∃ d, (cfg.runtime env now).readState (.gco g) (.str ns) (.str key) w = .ok d w' ∧
      ((∃ value, w'.store.read ns key g = .ok value ∧ d = .allowValue value) ∨
        (∃ e, w'.store.read ns key g = .error e) ∧ d.allowed = false) := by
  obtain ⟨access, haccess, hallowed⟩ :=
    authorizeVerifiedStateAccess_member (V := V) (σ := World V Ω) g ns .read
  have hbody : (cfg.runtime env now).readStateBody (.gco g) (.str ns) (.str key) w =
      (if ¬access.allowed then pure access else do
        let value ← (cfg.runtime env now).read (.str ns) (.str key) g
        pure (.allowValue value)) w' := by
    rw [GovernanceRuntime.readStateBody, withSubject_of_verifies h hafter, haccess, pure_bind]
  rw [GovernanceRuntime.readState]
  cases hread : w'.store.read ns key g with
  | ok value =>
    obtain ⟨p, t, hp, hmode, -⟩ := GovernedStateStore.read_eq_ok_iff.1 hread
    have ha : access.allowed = true :=
      hallowed.2 ⟨by decide, p, hp, GovernedStateStore.isReadMode_iff.1 hmode⟩
    refine ⟨_, attempt_of_ok (hbody.trans ?_), .inl ⟨value, rfl, rfl⟩⟩
    rw [if_neg (not_not.2 ha), bind_apply, Config.runtime_read_str, hread]
    rfl
  | error e =>
    by_cases ha : access.allowed = true
    · -- the store raised, and its exceptions have a text
      obtain ⟨d, hd⟩ := (handleRead_returns_iff (V := V)).2 (GovernedStateStore.text_of_read hread)
      refine ⟨d, attempt_of_error (hbody.trans ?_) hd, .inr ⟨⟨e, rfl⟩, denies_read e d hd⟩⟩
      rw [if_neg (not_not.2 ha), bind_apply, Config.runtime_read_str, hread]
      rfl
    · refine ⟨access, attempt_of_ok (hbody.trans ?_), .inr ⟨⟨e, rfl⟩, by simpa using ha⟩⟩
      rw [if_pos ha]
      rfl

/-! ### Writes -/

/-- A mode as the signature of `write_state` has it: `str | AccessMode`. -/
inductive ModeText
  | member (m : AccessMode)
  | text (s : String)

namespace ModeText

/-- The mode as an argument. -/
def toMode : ModeText → Mode (World V Ω)
  | member m => .member m
  | text s => .other (.str s)

/-- The access mode that is meant, if there is one. -/
def accessMode? : ModeText → Option AccessMode
  | member m => some m
  | text s => StrEnum.ofValue? AccessMode s

theorem coerceMode_toMode (mode : ModeText) :
    coerceMode (mode.toMode : Mode (World V Ω)) = pure mode.accessMode? := by
  cases mode <;> rfl

theorem format_toMode (mode : ModeText) :
    ∃ text, (mode.toMode : Mode (World V Ω)).format = pure text := by
  cases mode <;> exact ⟨_, rfl⟩

end ModeText

/-- A permission for `p` covers a write in the mode `m` to the key. -/
def GrantsWrite (store : GovernedStateStore V) (p : StatePermission) (m : AccessMode)
    (storageKey : String × String) : Prop :=
  m = .write ∧ p.accessMode = .member .write ∨
    m = .append ∧ (p.accessMode = .member .append ∨ p.accessMode = .member .write) ∧
      store.values.get? storageKey = none

theorem accessAllows_write_iff {l : Label AccessMode} :
    accessAllows l (.member .write) = true ↔ l = .member .write := by
  rcases l with (_ | _ | _ | _) | _ <;> simp [accessAllows, accessAllowances]

theorem accessAllows_append_iff {l : Label AccessMode} :
    accessAllows l (.member .append) = true ↔ l = .member .append ∨ l = .member .write := by
  rcases l with (_ | _ | _ | _) | _ <;> simp [accessAllows, accessAllowances]

/-- The subject that `write_state` passes to the store. -/
def writeSubject (g : GCO) (ns : String) (m : AccessMode) : GCO :=
  if m = .write then g
  else { g with stateAccessPermissions := g.stateAccessPermissions.map fun p =>
    if p.namespace = ns then { p with accessMode := .member .append } else p }

theorem subjectForWriteMode_str (g : GCO) (ns : String) (m : AccessMode) :
    (GovernanceRuntime.subjectForWriteMode g (.str ns) m : Py Exc σ GCO) =
      pure (writeSubject g ns m) := by
  unfold GovernanceRuntime.subjectForWriteMode writeSubject
  split_ifs
  · rfl
  · have hmap : (g.stateAccessPermissions.mapM fun p => do
        if ← (Arg.str ns : Arg σ).eqStr p.namespace then
          pure { p with accessMode := .member .append }
        else pure p : Py Exc σ (List StatePermission)) =
        pure (g.stateAccessPermissions.map fun p =>
          if p.namespace = ns then { p with accessMode := .member .append } else p) := by
      rw [← List.mapM_pure]
      refine congrArg (List.mapM · _) (funext fun p => ?_)
      rw [Arg.eqStr, pure_bind]
      by_cases h : p.namespace = ns <;> simp [h]
    rw [hmap, pure_bind]

/-- The narrowed subject has the same first permission, in mode `APPEND`. -/
theorem permissionFor?_writeSubject_append (g : GCO) (ns : String) :
    (writeSubject g ns .append).permissionFor? ns =
      (g.permissionFor? ns).map fun p => { p with accessMode := .member .append } := by
  rw [writeSubject, if_neg (by decide), GCO.permissionFor?, GCO.permissionFor?]
  dsimp only
  induction g.stateAccessPermissions with
  | nil => rfl
  | cons p ps ih =>
    rw [List.map_cons, List.find?_cons, List.find?_cons]
    by_cases h : p.namespace = ns
    · simp [h]
    · simp [h, ih]

/-- The gates of the runtime and of the store, taken together. -/
theorem grantsMode_and_write_iff {g : GCO} {ns key : String} {value : V} {m : AccessMode}
    {store store' : GovernedStateStore V} (hm : m = .write ∨ m = .append) :
    GrantsMode g ns m ∧ store.write ns key value (writeSubject g ns m) = .ok store' ↔
      ∃ p, g.permissionFor? ns = some p ∧ GrantsWrite store p m (ns, key) ∧
        store' = ⟨store.values.set (ns, key) value,
          store.taints.set (ns, key) (store.taintAfter (ns, key) p)⟩ := by
  rw [GrantsMode, GovernedStateStore.write_eq_ok_iff]
  rcases hm with rfl | rfl
  · -- the subject is passed on as it is
    rw [writeSubject, if_pos rfl]
    simp only [accessAllows_write_iff, GrantsWrite, true_and, reduceCtorEq, false_and, or_false,
      ne_eq, not_false_eq_true]
    constructor
    · rintro ⟨⟨p, hp, hmode⟩, q, hq, -, hstore⟩
      rw [hp, Option.some.injEq] at hq
      subst hq
      exact ⟨p, hp, hmode, hstore⟩
    · rintro ⟨p, hp, hmode, hstore⟩
      exact ⟨⟨p, hp, hmode⟩, p, hp, .inl hmode, hstore⟩
  · rw [permissionFor?_writeSubject_append]
    simp only [accessAllows_append_iff, GrantsWrite, true_and, reduceCtorEq, false_and, false_or,
      ne_eq, not_false_eq_true, Option.map_eq_some_iff]
    constructor
    · rintro ⟨⟨p, hp, hmode⟩, q, ⟨p', hp', rfl⟩, hgrant, hstore⟩
      rw [hp, Option.some.injEq] at hp'
      subst hp'
      refine ⟨p, hp, ⟨hmode, ?_⟩, hstore⟩
      rcases hgrant with hgrant | ⟨-, hnone⟩
      · cases hgrant
      · exact hnone
    · rintro ⟨p, hp, ⟨hmode, hnone⟩, hstore⟩
      exact ⟨⟨p, hp, hmode⟩, _, ⟨p, hp, rfl⟩, .inr ⟨rfl, hnone⟩, hstore⟩

/-- What one of the two gates denies is not covered. -/
theorem not_grantsWrite_of_denied {g : GCO} {ns key : String} {value : V} {m : AccessMode}
    {store : GovernedStateStore V} (hm : m = .write ∨ m = .append)
    (hdenied : ¬GrantsMode g ns m ∨
      ∃ e, store.write ns key value (writeSubject g ns m) = .error e)
    {p : StatePermission} (hp : g.permissionFor? ns = some p) :
    ¬GrantsWrite store p m (ns, key) := by
  intro hgrant
  obtain ⟨hgrants, hwrite⟩ : GrantsMode g ns m ∧
      store.write ns key value (writeSubject g ns m) = .ok _ :=
    (grantsMode_and_write_iff hm).2 ⟨p, hp, hgrant, rfl⟩
  rcases hdenied with hdenied | ⟨e, he⟩
  · exact hdenied hgrants
  · rw [hwrite] at he
    cases he

/-- A mode other than `WRITE` and `APPEND` is not covered. -/
theorem not_grantsWrite_of_filter {mode : ModeText}
    (hfilter : (mode.accessMode?.filter fun m => m = .write || m = .append) = none)
    {store : GovernedStateStore V} {p : StatePermission} {m : AccessMode}
    {path : String × String} (hm : mode.accessMode? = some m) : ¬GrantsWrite store p m path := by
  intro hgrant
  rw [hm, Option.filter_eq_none_iff] at hfilter
  rcases hgrant with ⟨rfl, -⟩ | ⟨rfl, -⟩
  · exact hfilter _ rfl rfl
  · exact hfilter _ rfl rfl

/-- `write_state` writes what the permission covers, and else denies and changes nothing. -/
theorem writeState_of_verifies {ns key : String} {value : V} {mode : ModeText}
    (h : cfg.Verifies env now g w w') (hafter : After g.expiresAt now) :
    ∃ d w'', (cfg.runtime env now).writeState (.gco g) (.str ns) (.str key) value mode.toMode w =
        .ok d w'' ∧
      ((d = .allow ∧ ∃ p m, g.permissionFor? ns = some p ∧ mode.accessMode? = some m ∧
          GrantsWrite w'.store p m (ns, key) ∧
          w''.store = ⟨w'.store.values.set (ns, key) value,
            w'.store.taints.set (ns, key) (w'.store.taintAfter (ns, key) p)⟩) ∨
        (d.allowed = false ∧ w'' = w' ∧ ∀ p m, g.permissionFor? ns = some p →
          mode.accessMode? = some m → ¬GrantsWrite w'.store p m (ns, key))) := by
  have hcoerce : GovernanceRuntime.coerceWriteMode (mode.toMode : Mode (World V Ω)) =
      pure (mode.accessMode?.filter fun m => m = .write || m = .append) := by
    rw [GovernanceRuntime.coerceWriteMode, ModeText.coerceMode_toMode, pure_bind]
  rw [GovernanceRuntime.writeState]
  cases hfilter : mode.accessMode?.filter fun m => m = .write || m = .append with
  | none =>
    -- a mode other than `WRITE` and `APPEND`
    obtain ⟨text, htext⟩ := ModeText.format_toMode (V := V) mode
    have hbody : (cfg.runtime env now).writeStateBody (.gco g) (.str ns) (.str key) value
        mode.toMode w = .ok (denyNamespace s!"{text} denied for namespace {ns}") w' := by
      rw [GovernanceRuntime.writeStateBody, withSubject_of_verifies h hafter, hcoerce, pure_bind,
        hfilter]
      dsimp only
      rw [htext, pure_bind, Arg.format, pure_bind, pure_apply]
    exact ⟨_, w', attempt_of_ok hbody,
      .inr ⟨rfl, rfl, fun p m _ hm => not_grantsWrite_of_filter hfilter hm⟩⟩
  | some m =>
    obtain ⟨hmode, hm⟩ := Option.filter_eq_some_iff.1 hfilter
    replace hm : m = .write ∨ m = .append := by simpa using hm
    obtain ⟨access, haccess, hallowed⟩ :=
      authorizeVerifiedStateAccess_member (V := V) (σ := World V Ω) g ns m
    have hbody : (cfg.runtime env now).writeStateBody (.gco g) (.str ns) (.str key) value
        mode.toMode w = (if ¬access.allowed then pure access else do
          (cfg.runtime env now).write (.str ns) (.str key) value (writeSubject g ns m)
          pure .allow) w' := by
      rw [GovernanceRuntime.writeStateBody, withSubject_of_verifies h hafter, hcoerce, pure_bind,
        hfilter]
      dsimp only
      rw [haccess, pure_bind, subjectForWriteMode_str, pure_bind]
    have hnot : (¬GrantsMode g ns m ∨ ∃ e, w'.store.write ns key value
        (writeSubject g ns m) = .error e) → ∀ p m', g.permissionFor? ns = some p →
        mode.accessMode? = some m' → ¬GrantsWrite w'.store p m' (ns, key) := by
      intro hdenied p m' hp hm'
      rw [hmode, Option.some.injEq] at hm'
      subst hm'
      exact not_grantsWrite_of_denied hm hdenied hp
    by_cases ha : access.allowed = true
    · rw [if_neg (not_not.2 ha), bind_apply, Config.runtime_write_str] at hbody
      cases hwrite : w'.store.write ns key value (writeSubject g ns m) with
      | ok store' =>
        rw [hwrite] at hbody
        obtain ⟨p, hp, hgrant, hstore⟩ :=
          (grantsMode_and_write_iff hm).1 ⟨hallowed.1 ha, hwrite⟩
        exact ⟨_, _, attempt_of_ok hbody, .inl ⟨rfl, p, m, hp, hmode, hgrant, hstore⟩⟩
      | error e =>
        rw [hwrite] at hbody
        have htext := GovernedStateStore.text_of_write hwrite
        obtain ⟨d, hd⟩ := (handleWrite_returns_iff (V := V)).2 htext
        exact ⟨d, w', attempt_of_error hbody hd,
          .inr ⟨denies_write e d hd, rfl, hnot (.inr ⟨e, hwrite⟩)⟩⟩
    · rw [if_pos ha] at hbody
      have hgrants : ¬GrantsMode g ns m := fun h => ha (hallowed.2 h)
      exact ⟨access, w', attempt_of_ok hbody, .inr ⟨by simpa using ha, rfl, hnot (.inl hgrants)⟩⟩

end Standard

end Gco
