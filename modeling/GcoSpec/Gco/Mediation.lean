import GcoSpec.Gco.Decisions

/-!
# Mediation

What an allowed decision of one of the six methods implies. Whatever the collaborators do, the
verifier has accepted each subject, and either the clock was read before its expiry or, for two
subjects, the validator has let the pair pass (`ensures_mediated`). With the standard
collaborators this makes the subjects verified, current and valid as a pair (`ensures_authentic`).
-/

namespace Gco

open Python

/-! ### Arbitrary collaborators -/

section Collaborators

variable {σ V : Type}

namespace GovernanceRuntime

variable (rt : GovernanceRuntime σ V)

/-- The verifier accepts the object. -/
def Accepts (g : GCO) : Prop :=
  ∃ r, CanReturn (rt.verify g.attestation g) r ∧ r.verified = true

/-- The clock can be read before the expiry of the object. -/
def Current (g : GCO) : Prop := ∃ now, CanReturn rt.now now ∧ After g.expiresAt now

end GovernanceRuntime

/-- What has to hold for the call to be allowed: of its subject, or of its two. -/
def MethodCall.Mediated (rt : GovernanceRuntime σ V) (call : MethodCall σ V) (d : Decision V) :
    Prop :=
  match call with
  | .authorizeSubcall parent child => ∃ p c, CanReturn (coerceGco parent) p ∧
      CanReturn (coerceGco child) c ∧ rt.Accepts p ∧ rt.Accepts c ∧
      CanReturn (rt.validate p c) ()
  | .deriveForSubcall parent _ => ∃ p c, CanReturn (coerceGco parent) p ∧ d.child = some c ∧
      rt.Accepts p ∧ rt.Accepts c ∧ CanReturn (rt.validate p c) ()
  | .authorizeToolCall gco _ _ | .authorizeStateAccess gco _ _ | .readState gco _ _ |
    .writeState gco _ _ _ _ =>
      ∃ g, CanReturn (coerceGco gco) g ∧ rt.Accepts g ∧ rt.Current g

variable {rt : GovernanceRuntime σ V} {env : Externals}

theorem denied_ensures {x : Py Exc σ (Decision V)} {Q : Decision V → Prop} {code : Option ErrorCode}
    {reason : Option String} (h : x = pure (.deny code reason)) :
    Ensures x fun d => d.allowed = true → Q d := by
  rw [h]
  exact .pure fun h => absurd h Bool.false_ne_true

/-- What is allowed after the verification was accepted. -/
theorem ensures_whenVerified {g : GCO} {next : Py Exc σ (Decision V)} {Q : Decision V → Prop}
    (hnext : rt.Accepts g → Ensures next fun d => d.allowed = true → Q d) :
    Ensures (rt.whenVerified g next) fun d => d.allowed = true → Q d := by
  unfold GovernanceRuntime.whenVerified
  refine (Ensures.canReturn _).bind fun r hr => ?_
  by_cases hverified : r.verified = true
  · rw [if_neg (not_not.2 hverified)]
    exact hnext ⟨r, hr, hverified⟩
  · rw [if_pos hverified]
    exact denied_ensures rfl

/-- A method on one subject allows nothing to a subject that is not accepted or not current. -/
theorem ensures_withSubject {gco : Input σ} {next : GCO → Py Exc σ (Decision V)} :
    Ensures (rt.withSubject gco next) fun d => d.allowed = true →
      ∃ g, CanReturn (coerceGco gco) g ∧ rt.Accepts g ∧ rt.Current g := by
  unfold GovernanceRuntime.withSubject
  refine (Ensures.canReturn _).bind fun g hg => ensures_whenVerified fun haccepts => ?_
  have hexpiry : Ensures (rt.verifySubjectNotExpired g) fun expiry =>
      expiry = none ∧ rt.Current g ∨ ∃ d, expiry = some d ∧ d.allowed = false := by
    unfold GovernanceRuntime.verifySubjectNotExpired
    refine (Ensures.canReturn _).bind fun now hnow => ?_
    have hle : Ensures (Py.ofExcept (leNow g.expiresAt now) : Py Exc σ Bool) fun expired =>
        leNow g.expiresAt now = .ok expired := fun s expired s' h => (Py.ofExcept_eq_ok h).1
    refine hle.bind fun expired hexpired => ?_
    cases expired with
    | true => exact .pure (.inr ⟨_, rfl, rfl⟩)
    | false => exact .pure (.inl ⟨rfl, now, hnow, leNow_eq_false_iff.1 hexpired⟩)
  refine hexpiry.bind ?_
  rintro expiry (⟨rfl, hcurrent⟩ | ⟨d, rfl, hd⟩)
  · exact (Ensures.canReturn _).mono fun _ _ _ => ⟨g, hg, haccepts, hcurrent⟩
  · exact .pure fun h => absurd h (by simp [hd])

/-- The handlers allow nothing. -/
theorem ensures_attempt {body : Py Exc σ (Decision V)} {handler : Exc → Except Exc (Decision V)}
    (hdenies : Denies handler) {Q : Decision V → Prop}
    (hbody : Ensures body fun d => d.allowed = true → Q d) :
    Ensures (attempt body handler) fun d => d.allowed = true → Q d :=
  hbody.attempt fun e d he hd => by rw [hdenies e d he] at hd; cases hd

/-- No method allows anything past the verifier, or past the clock or the validator. -/
theorem ensures_mediated (env : Externals) (rt : GovernanceRuntime σ V) (call : MethodCall σ V) :
    Ensures (call.perform env rt) fun d => d.allowed = true → call.Mediated rt d := by
  cases call with
  | authorizeSubcall parent child =>
    refine ensures_attempt denies_derivation ?_
    unfold GovernanceRuntime.authorizeSubcallBody
    refine (Ensures.canReturn _).bind fun p hp => ensures_whenVerified fun hparent => ?_
    refine (Ensures.canReturn _).bind fun c hc => ensures_whenVerified fun hchild => ?_
    refine (Ensures.canReturn _).bind fun _ hvalidate => ?_
    exact .pure fun _ => ⟨p, c, hp, hc, hparent, hchild, hvalidate⟩
  | deriveForSubcall parent request =>
    refine ensures_attempt denies_derivation ?_
    unfold GovernanceRuntime.deriveForSubcallBody
    cases rt.issue with
    | none => exact denied_ensures rfl
    | some issue =>
      refine (Ensures.canReturn _).bind fun p hp => ensures_whenVerified fun hparent => ?_
      refine .seq fun r => .seq fun child => ensures_whenVerified fun hchild => ?_
      refine (Ensures.canReturn _).bind fun _ hvalidate => ?_
      exact .pure fun _ => ⟨p, child, hp, rfl, hparent, hchild, hvalidate⟩
  | authorizeToolCall => exact ensures_attempt denies_malformed ensures_withSubject
  | authorizeStateAccess => exact ensures_attempt denies_malformed ensures_withSubject
  | readState => exact ensures_attempt denies_read ensures_withSubject
  | writeState => exact ensures_attempt denies_write ensures_withSubject

end Collaborators

/-! ### The standard collaborators -/

section Standard

variable {Key Cert Store V Ω : Type}

/-- The object verifies, in some state of the caller's objects, and is current. -/
def Config.Authentic (cfg : Config Key Cert Store V Ω) (env : Externals) (now : PyDatetime)
    (g : GCO) : Prop :=
  (∃ w w', cfg.Verifies env now g w w') ∧ After g.expiresAt now

/-- What an allowed decision says about the subjects at an instant. -/
def MethodCall.Authentic (cfg : Config Key Cert Store V Ω) (env : Externals) (now : PyDatetime)
    (call : MethodCall (World V Ω) V) (d : Decision V) : Prop :=
  match call with
  | .authorizeSubcall parent child => ∃ p c, CanReturn (coerceGco parent) p ∧
      CanReturn (coerceGco child) c ∧ cfg.Authentic env now p ∧ cfg.Authentic env now c ∧
      validate env now p c = .ok ()
  | .deriveForSubcall parent _ => ∃ p c, CanReturn (coerceGco parent) p ∧ d.child = some c ∧
      cfg.Authentic env now p ∧ cfg.Authentic env now c ∧ validate env now p c = .ok ()
  | .authorizeToolCall gco _ _ | .authorizeStateAccess gco _ _ | .readState gco _ _ |
    .writeState gco _ _ _ _ =>
      ∃ g, CanReturn (coerceGco gco) g ∧ cfg.Authentic env now g

variable {cfg : Config Key Cert Store V Ω} {env : Externals} {now : PyDatetime}

theorem verifies_of_accepts {g : GCO} (h : (cfg.runtime env now).Accepts g) :
    ∃ w w', cfg.Verifies env now g w w' := by
  obtain ⟨r, ⟨w, w', hverify⟩, hr⟩ := h
  exact ⟨w, w', r, hverify, hr⟩

/-- The validator checks the expiry of both objects. -/
theorem authentic_of_validate {p c : GCO} (hp : (cfg.runtime env now).Accepts p)
    (hc : (cfg.runtime env now).Accepts c)
    (hvalidate : CanReturn ((cfg.runtime env now).validate p c) ()) :
    cfg.Authentic env now p ∧ cfg.Authentic env now c ∧ validate env now p c = .ok () := by
  obtain ⟨w, w', h⟩ := hvalidate
  have hok := (Py.ofExcept_eq_ok h).1
  obtain ⟨hnarrows, hafter⟩ := validate_eq_ok_iff.1 hok
  exact ⟨⟨verifies_of_accepts hp, hafter.mono hnarrows.expiresAt⟩, ⟨verifies_of_accepts hc, hafter⟩,
    hok⟩

theorem authentic_of_current {g : GCO} (hg : (cfg.runtime env now).Accepts g)
    (hcurrent : (cfg.runtime env now).Current g) : cfg.Authentic env now g := by
  obtain ⟨t, ⟨w, w', h⟩, hafter⟩ := hcurrent
  cases h
  exact ⟨verifies_of_accepts hg, hafter⟩

/-- An allowed decision is about subjects that verify and are current at the instant of the call
and, for two subjects, about a child that validates against its parent. -/
theorem ensures_authentic (cfg : Config Key Cert Store V Ω) (env : Externals) (now : PyDatetime)
    (call : MethodCall (World V Ω) V) :
    Ensures (call.perform env (cfg.runtime env now)) fun d => d.allowed = true →
      call.Authentic cfg env now d := by
  refine (ensures_mediated env (cfg.runtime env now) call).mono fun d h hd => ?_
  have hmediated := h hd
  cases call with
  | authorizeSubcall parent child =>
    obtain ⟨p, c, hp, hc, hparent, hchild, hvalidate⟩ := hmediated
    exact ⟨p, c, hp, hc, authentic_of_validate hparent hchild hvalidate⟩
  | deriveForSubcall parent request =>
    obtain ⟨p, c, hp, hc, hparent, hchild, hvalidate⟩ := hmediated
    exact ⟨p, c, hp, hc, authentic_of_validate hparent hchild hvalidate⟩
  | authorizeToolCall =>
    obtain ⟨g, hg, haccepts, hcurrent⟩ := hmediated
    exact ⟨g, hg, authentic_of_current haccepts hcurrent⟩
  | authorizeStateAccess =>
    obtain ⟨g, hg, haccepts, hcurrent⟩ := hmediated
    exact ⟨g, hg, authentic_of_current haccepts hcurrent⟩
  | readState =>
    obtain ⟨g, hg, haccepts, hcurrent⟩ := hmediated
    exact ⟨g, hg, authentic_of_current haccepts hcurrent⟩
  | writeState =>
    obtain ⟨g, hg, haccepts, hcurrent⟩ := hmediated
    exact ⟨g, hg, authentic_of_current haccepts hcurrent⟩

end Standard

end Gco
