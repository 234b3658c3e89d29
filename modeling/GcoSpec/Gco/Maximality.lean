import GcoSpec.Gco.Delegation
import GcoSpec.Gco.Derivation

/-!
# What derivation grants

`derive` repeats the rules of the validator in loops of its own, clamps depth and expiry, and
validates twice, before the authority is called and after. What it returns is the greatest child
within the request (`Narrows.within_grantedChild`), and it returns one exactly if the request is
derivable and the clock reads before the child's expiry both times (`derive_grants_greatest`).
-/

namespace Gco

open Python

variable {σ : Type}

/-! ### Authority -/

/-- An entry for a tool covers another one. -/
structure ToolCovers (upper t : ToolAuthority) : Prop where
  toolUri : t.toolUri = upper.toolUri
  scope : scopeIsSubset t.scope upper.scope = true
  maxDepth : t.maxDepth ≤ upper.maxDepth

/-- The authority of an object, as a request for it. -/
def GCO.authority (g : GCO) : DelegationRequest :=
  ⟨g.toolAuthority, g.stateAccessPermissions, g.expiresAt⟩

/-- Every entry of `a` is covered by one of `b`, and `a` expires no later. -/
structure Within (a b : DelegationRequest) : Prop where
  tools : ∀ t ∈ a.toolAuthority, ∃ t' ∈ b.toolAuthority, ToolCovers t' t
  permissions : ∀ p ∈ a.stateAccessPermissions, ∃ p' ∈ b.stateAccessPermissions,
    PermissionNarrows p' p
  expiry : a.requestedExpiry ≤ b.requestedExpiry

/-- A permission that is allowed at all is within itself. -/
theorem PermissionNarrows.self {p q : StatePermission} (h : PermissionNarrows q p) :
    PermissionNarrows p p := by
  obtain ⟨⟨m, hm⟩, -⟩ := h.typed
  have hmode : accessAllows p.accessMode p.accessMode = true := by
    rw [hm]
    cases m <;> decide
  obtain ⟨r, s, -, hs, -⟩ := h.taintPolicy
  exact ⟨rfl, hmode, s, s, hs, hs, le_rfl⟩

section Child

variable (env : Externals)

/-- The child a derivable request is granted. -/
def grantedChild (parent : GCO) (request : DelegationRequest) (spanId : Uuid) : GCO :=
  childWithoutAttestation parent request spanId (canonicalDigest env parent)
    (request.toolAuthority.map parent.grantedTool) request.stateAccessPermissions

variable {env} {parent g : GCO} {request : DelegationRequest}

/-- The child is within its parent. -/
theorem Derivable.narrows (h : Derivable parent request) (hparent : parent.Serializable)
    (spanId : Uuid) {a : AttestationModel} (ha : a.value ≠ "") :
    Narrows env parent { grantedChild env parent request spanId with attestation := some a } where
  parentNamespaces := h.parentNamespaces
  childNamespaces := h.requestNamespaces
  parentToolUris := h.parentToolUris
  childToolUris := by
    show ((request.toolAuthority.map parent.grantedTool).map (·.toolUri.text)).Nodup
    rw [List.map_map]
    exact h.requestToolUris
  version := rfl
  traceId := rfl
  policyId := rfl
  modelIdentity := rfl
  interventionVersion := rfl
  parentSpanId := rfl
  serializable := hparent
  lineage := rfl
  lineageLength := by
    have hlength := h.lineage
    show (parent.lineage ++ [canonicalDigest env parent]).length ≤ 128
    rw [List.length_append, List.length_singleton]
    omega
  tools := by
    intro t ht
    obtain ⟨r, hr, rfl⟩ := List.mem_map.1 ht
    obtain ⟨t', ht', huri, hdepth, hscope⟩ := h.tools r hr
    refine ⟨t', ht', ?_⟩
    rw [GCO.grantedTool_of_mem h.parentToolUris ht' huri]
    exact ⟨huri, by show min _ _ + 1 ≤ _; omega, hscope⟩
  permissions := h.permissions
  expiresAt := min_le_right _ _
  attestation := ⟨a, rfl, ha⟩

/-- Its labels are members. -/
theorem Derivable.typed_grantedChild (h : Derivable parent request) (spanId : Uuid) :
    (grantedChild env parent request spanId).Typed := by
  intro p hp
  obtain ⟨q, -, hnarrows⟩ := h.permissions p hp
  exact hnarrows.typed

/-- Its depths have texts, as those of the parent do. -/
theorem Derivable.serializable_grantedChild (h : Derivable parent request)
    (hparent : parent.Serializable) (spanId : Uuid) :
    (grantedChild env parent request spanId).Serializable := by
  intro t ht
  obtain ⟨r, hr, rfl⟩ := List.mem_map.1 ht
  obtain ⟨t', ht', huri, -, -⟩ := h.tools r hr
  rw [GCO.grantedTool_of_mem h.parentToolUris ht' huri]
  refine (hparent t' ht').of_le ?_
  show min _ _ ≤ _
  omega

/-- What may be derived does not depend on the attestation of the parent. -/
theorem Derivable.with_attestation (h : Derivable parent request) (a : Option AttestationModel) :
    Derivable { parent with attestation := a } request :=
  ⟨h.lineage, h.parentNamespaces, h.requestNamespaces, h.parentToolUris, h.requestToolUris,
    h.tools, h.permissions⟩

/-- The child is within the request. -/
theorem Derivable.within (h : Derivable parent request) (spanId : Uuid) :
    Within (grantedChild env parent request spanId).authority request where
  tools := by
    intro t ht
    obtain ⟨r, hr, rfl⟩ := List.mem_map.1 ht
    exact ⟨r, hr, rfl, scopeIsSubset_iff.2 (List.Subset.refl _), min_le_left _ _⟩
  permissions := by
    intro p hp
    obtain ⟨q, -, hnarrows⟩ := h.permissions p hp
    exact ⟨p, hp, hnarrows.self⟩
  expiry := min_le_left _ _

/-- Whatever is within the parent and the request is within the child: the depths and the expiry
are clamped no further than both require. -/
theorem Narrows.within_grantedChild (h : Narrows env parent g)
    (hwithin : Within g.authority request) (spanId : Uuid) :
    Within g.authority (grantedChild env parent request spanId).authority where
  tools := by
    intro t ht
    obtain ⟨r, hr, hcovers⟩ := hwithin.tools t ht
    obtain ⟨t', ht', hnarrows⟩ := h.tools t ht
    have huri : r.toolUri = t'.toolUri := hcovers.toolUri.symm.trans hnarrows.toolUri
    refine ⟨parent.grantedTool r, List.mem_map.2 ⟨r, hr, rfl⟩, hcovers.toolUri, hcovers.scope, ?_⟩
    have hrequest := hcovers.maxDepth
    have hparent := hnarrows.maxDepth
    rw [GCO.grantedTool_of_mem h.parentToolUris ht' huri]
    show t.maxDepth ≤ min _ _
    omega
  permissions := hwithin.permissions
  expiry := le_min hwithin.expiry h.expiresAt

end Child

/-! ### The clock and the authority -/

/-- What `derive` works with. The clock may move with every call. -/
structure Collaborators (σ : Type) where
  clock : σ → PyDatetime × σ
  uuid4 : σ → Uuid × σ
  issue : String → Payload → Py Exc σ (Option AttestationModel)

/-- The objects, with the calls of `issue` so far. -/
abbrev Recorded (σ : Type) := σ × List (String × Payload)

/-- A call that is not one of `issue`. -/
def unrecorded {α : Type} (x : σ → α × σ) : Py Exc (Recorded σ) α := fun s =>
  .ok (x s.1).1 ((x s.1).2, s.2)

/-- A call of `issue`, whether it returns or raises. -/
def recorded (issue : String → Payload → Py Exc σ (Option AttestationModel)) (identity : String)
    (data : Payload) : Py Exc (Recorded σ) (Option AttestationModel) := fun s =>
  match issue identity data s.1 with
  | .ok a s' => .ok a (s', s.2 ++ [(identity, data)])
  | .error e s' => .error e (s', s.2 ++ [(identity, data)])

/-- `GCOValidator(now=clock).validate`. -/
def validateClocked (env : Externals) (clock : Py Exc σ PyDatetime) (parent child : GCO) :
    Py Exc σ Unit := do
  Py.ofExcept (validateBeforeClock env parent child)
  let now ← clock
  Py.ofExcept (validateFromClock now child)

/-- The calls of `issue` that were made. -/
def issueCalls : EStateM.Result Exc (Recorded σ) GCO → List (String × Payload)
  | .ok _ s => s.2
  | .error _ s => s.2

namespace Collaborators

variable (env : Externals) (c : Collaborators σ) (parent : GCO) (request : DelegationRequest)
  (s : σ)

/-- `GCODerivationRuntime(authority, validator=GCOValidator(now=clock))`. -/
def runtime : GCODerivationRuntime (Recorded σ) where
  issue := recorded c.issue
  validate := validateClocked env (unrecorded c.clock)
  uuid4 := unrecorded c.uuid4

/-- The reading of the clock before the authority is called. -/
def reading : PyDatetime × σ := c.clock (c.uuid4 s).2

/-- The request is derivable, the parent has a hash, and the child is current, when the authority
may be called. -/
def MayIssue : Prop :=
  Derivable parent request ∧ parent.Serializable ∧
    After (min request.requestedExpiry parent.expiresAt) (c.reading s).1

/-- The child, without attestation. -/
def child : GCO := grantedChild env parent request (c.uuid4 s).1

/-- The arguments of `issue`. -/
def call : String × Payload :=
  (parent.modelIdentity.text, (c.child env parent request s).bareItems env)

/-- What the authority does when it is called. -/
def issued : EStateM.Result Exc σ (Option AttestationModel) :=
  c.issue (c.call env parent request s).1 (c.call env parent request s).2 (c.reading s).2

/-- A reading of the clock is a naive datetime. -/
def ReadsNaive : Prop :=
  (c.reading s).1.instant? = none ∨
    ∃ a s', c.issued env parent request s = .ok a s' ∧ (c.clock s').1.instant? = none

/-- What `derive` and the validator raise. -/
def Raises (e : Exc) : Prop :=
  e.IsDerivation ∨ e = naiveComparison ∧ c.ReadsNaive env parent request s

/-- How `derive` ends. -/
inductive Outcome (calls : List (String × Payload)) : EStateM.Result Exc (Recorded σ) GCO → Prop
  | refused (e : Exc) (s' : σ) (hrefused : ¬c.MayIssue parent request s)
      (he : c.Raises env parent request s e ∨ e = digitLimitExceeded ∧ ¬parent.Serializable) :
      Outcome calls (.error e (s', calls))
  | notIssued (e : Exc) (s' : σ) (hmay : c.MayIssue parent request s)
      (hissued : c.issued env parent request s = .error e s') :
      Outcome calls (.error e (s', calls ++ [c.call env parent request s]))
  | rejected (a : Option AttestationModel) (s' s'' : σ) (e : Exc)
      (hmay : c.MayIssue parent request s) (hissued : c.issued env parent request s = .ok a s')
      (hrejected : ¬((∃ a', a = some a' ∧ a'.value ≠ "") ∧
        After (min request.requestedExpiry parent.expiresAt) (c.clock s').1))
      (he : c.Raises env parent request s e) :
      Outcome calls (.error e (s'', calls ++ [c.call env parent request s]))
  | returned (a : AttestationModel) (s' s'' : σ) (hmay : c.MayIssue parent request s)
      (hissued : c.issued env parent request s = .ok (some a) s') (ha : a.value ≠ "")
      (hafter : After (min request.requestedExpiry parent.expiresAt) (c.clock s').1) :
      Outcome calls (.ok { c.child env parent request s with attestation := some a }
        (s'', calls ++ [c.call env parent request s]))

variable {env c parent request s} {calls : List (String × Payload)}

theorem recorded_apply :
    recorded c.issue (c.call env parent request s).1 (c.call env parent request s).2
        ((c.reading s).2, calls) = match c.issued env parent request s with
      | .ok a s' => .ok a (s', calls ++ [c.call env parent request s])
      | .error e s' => .error e (s', calls ++ [c.call env parent request s]) := rfl

/-- The checks of the validator on the child itself pass, and leave those of the clock and of the
attestation. -/
theorem runtime_validate_child (h : Derivable parent request) (hparent : parent.Serializable)
    (a : Option AttestationModel) (t : σ) :
    (c.runtime env).validate parent { c.child env parent request s with attestation := a }
        (t, calls) =
      (Py.ofExcept (validateFromClock (c.clock t).1
        { c.child env parent request s with attestation := a }) : Py Exc (Recorded σ) Unit)
        ((c.clock t).2, calls) := by
  have hbefore : validateBeforeClock env parent
      { c.child env parent request s with attestation := a } = .ok () :=
    validateBeforeClock_eq_ok_iff.2 ⟨placeholder, h.narrows hparent _ (by decide)⟩
  show validateClocked env (unrecorded c.clock) parent _ _ = _
  rw [validateClocked, hbefore, Py.ofExcept_ok, pure_bind]
  rfl

/-- For a derivable request the plan is made, and the child built if the parent has a hash. -/
theorem derive_of_derivable (h : Derivable parent request) (hparent : parent.Serializable) :
    (c.runtime env).derive env parent request (s, calls) = (do
      (c.runtime env).validate parent
        { c.child env parent request s with attestation := some placeholder }
      let a ← recorded c.issue (c.call env parent request s).1 (c.call env parent request s).2
      (c.runtime env).validate parent { c.child env parent request s with attestation := a }
      pure { c.child env parent request s with attestation := a }) ((c.uuid4 s).2, calls) := by
  rw [GCODerivationRuntime.derive, derivePlan_eq_ok_iff.2 ⟨h, rfl⟩, Py.ofExcept_ok, pure_bind]
  simp only [canonicalGcoHash_of_serializable hparent, Py.ofExcept_ok, pure_bind]
  rfl

/-- Without a hash of the parent there is no child. -/
theorem derive_of_not_serializable (h : Derivable parent request) (hparent : ¬parent.Serializable) :
    (c.runtime env).derive env parent request (s, calls) =
      .error digitLimitExceeded ((c.uuid4 s).2, calls) := by
  rw [GCODerivationRuntime.derive, derivePlan_eq_ok_iff.2 ⟨h, rfl⟩, Py.ofExcept_ok, pure_bind]
  simp only [canonicalGcoHash_eq, if_neg hparent]
  rfl

/-- `derive` ends in one of these ways. -/
theorem derive_outcome : c.Outcome env parent request s calls
    ((c.runtime env).derive env parent request (s, calls)) := by
  cases hplan : derivePlan parent request with
  | error e =>
    rw [GCODerivationRuntime.derive, hplan]
    refine .refused e s (fun hmay => ?_)
      (.inl (.inl (errorsOnly_derivePlan parent request e hplan)))
    rw [derivePlan_eq_ok_iff.2 ⟨hmay.1, rfl⟩] at hplan
    cases hplan
  | ok plan =>
    have hderivable := (derivePlan_eq_ok_iff.1 hplan).1
    by_cases hparent : parent.Serializable
    swap
    · rw [derive_of_not_serializable hderivable hparent]
      exact .refused _ _ (fun hmay => hparent hmay.2.1) (.inr ⟨rfl, hparent⟩)
    rw [derive_of_derivable hderivable hparent, bind_apply,
      runtime_validate_child hderivable hparent]
    cases hfirst : validateFromClock (c.clock (c.uuid4 s).2).1
        { c.child env parent request s with attestation := some placeholder } with
    | error e =>
      -- refused by the first validation, for the clock
      refine .refused e _ ?_ ?_
      · rintro ⟨-, -, hafter⟩
        rw [validateFromClock_eq_ok_iff.2 ⟨hafter, _, rfl, by decide⟩] at hfirst
        cases hfirst
      · refine .inl ((errorsOnly_validateFromClock _ _ e hfirst).imp_right ?_)
        rintro ⟨hnaive, he⟩
        exact ⟨he, .inl hnaive⟩
    | ok _ =>
      have hmay : c.MayIssue parent request s :=
        ⟨hderivable, hparent, (validateFromClock_eq_ok_iff.1 hfirst).1⟩
      rw [Py.ofExcept_ok, pure_apply]
      dsimp only
      rw [bind_apply, ← reading, recorded_apply]
      cases hissued : c.issued env parent request s with
      | error e s' => exact .notIssued e s' hmay hissued
      | ok a s' =>
        dsimp only
        rw [bind_apply, runtime_validate_child hderivable hparent]
        cases hsecond : validateFromClock (c.clock s').1
            { c.child env parent request s with attestation := a } with
        | error e =>
          -- the child was minted, and is refused by the second validation
          refine .rejected a s' _ e hmay hissued ?_ ?_
          · rintro ⟨hvalue, hafter⟩
            rw [validateFromClock_eq_ok_iff.2 ⟨hafter, hvalue⟩] at hsecond
            cases hsecond
          · refine (errorsOnly_validateFromClock _ _ e hsecond).imp_right ?_
            rintro ⟨hnaive, he⟩
            exact ⟨he, .inr ⟨a, s', hissued, hnaive⟩⟩
        | ok _ =>
          obtain ⟨hafter, a', ha, hvalue⟩ := validateFromClock_eq_ok_iff.1 hsecond
          obtain rfl : a = some a' := ha
          exact .returned a' s' _ hmay hissued hvalue hafter

end Collaborators

/-- For every clock and authority, `derive` returns exactly if the request is derivable, the clock
reads before the expiry, the parent has a hash, and then the authority issues an attestation with a
value and the clock still reads before it. Otherwise it raises a `GCODerivationException`, what the
authority raised, of a naive reading the `TypeError` of the comparison, or of a parent without a
hash the `ValueError` of `json.dumps`. The authority is called once, if the request is derivable,
the parent has a hash and the first reading is before the expiry, and else not at all. A child that
is returned passes validation, is within the request, and covers every object that is within the
request and passes validation. -/
theorem derive_grants_greatest (env : Externals) (c : Collaborators σ) (parent : GCO)
    (request : DelegationRequest) (s : σ) :
    ((∃ child s', (c.runtime env).derive env parent request (s, []) = .ok child s') ↔
      c.MayIssue parent request s ∧ ∃ a s', c.issued env parent request s = .ok (some a) s' ∧
        a.value ≠ "" ∧ After (min request.requestedExpiry parent.expiresAt) (c.clock s').1) ∧
    (∀ e s', (c.runtime env).derive env parent request (s, []) = .error e s' →
      e.IsDerivation ∨ (∃ s'', c.issued env parent request s = .error e s'') ∨
        e = naiveComparison ∧ c.ReadsNaive env parent request s ∨
        e = digitLimitExceeded ∧ ¬parent.Serializable) ∧
    (c.MayIssue parent request s →
      issueCalls ((c.runtime env).derive env parent request (s, [])) =
        [c.call env parent request s]) ∧
    (¬c.MayIssue parent request s →
      issueCalls ((c.runtime env).derive env parent request (s, [])) = []) ∧
    ∀ child s', (c.runtime env).derive env parent request (s, []) = .ok child s' →
      (∃ a s'', c.issued env parent request s = .ok a s'' ∧
        validate env (c.clock s'').1 parent child = .ok ()) ∧
      Within child.authority request ∧
      ∀ now g, validate env now parent g = .ok () → Within g.authority request →
        Within g.authority child.authority := by
  have houtcome : c.Outcome env parent request s []
    ((c.runtime env).derive env parent request (s, [])) := Collaborators.derive_outcome
  generalize (c.runtime env).derive env parent request (s, []) = r at houtcome
  cases houtcome with
  | refused e s' hrefused he =>
    refine ⟨⟨?_, fun h => absurd h.1 hrefused⟩, ?_, fun h => absurd h hrefused, fun _ => rfl, ?_⟩
    · rintro ⟨child, s', ⟨⟩⟩
    · rintro e' s'' ⟨⟩
      rcases he with (he | he) | he
      · exact .inl he
      · exact .inr (.inr (.inl he))
      · exact .inr (.inr (.inr he))
    · rintro child s' ⟨⟩
  | notIssued e s' hmay hissued =>
    refine ⟨⟨?_, ?_⟩, ?_, fun _ => rfl, fun h => absurd hmay h, ?_⟩
    · rintro ⟨child, s', ⟨⟩⟩
    · rintro ⟨-, a, s'', hissued', -⟩
      rw [hissued] at hissued'
      cases hissued'
    · rintro e' s'' ⟨⟩
      exact .inr (.inl ⟨s', hissued⟩)
    · rintro child s' ⟨⟩
  | rejected a s' s'' e hmay hissued hrejected he =>
    refine ⟨⟨?_, ?_⟩, ?_, fun _ => rfl, fun h => absurd hmay h, ?_⟩
    · rintro ⟨child, s', ⟨⟩⟩
    · rintro ⟨-, a', t, hissued', hvalue, hafter⟩
      rw [hissued] at hissued'
      cases hissued'
      exact absurd ⟨⟨a', rfl, hvalue⟩, hafter⟩ hrejected
    · rintro e' s'' ⟨⟩
      exact he.imp_right fun he => .inr (.inl he)
    · rintro child s' ⟨⟩
  | returned a s' s'' hmay hissued hvalue hafter =>
    refine ⟨⟨fun _ => ⟨hmay, a, s', hissued, hvalue, hafter⟩, fun _ => ⟨_, _, rfl⟩⟩, ?_,
      fun _ => rfl, fun h => absurd hmay h, ?_⟩
    · rintro e' s'' ⟨⟩
    · rintro child s' ⟨⟩
      have hwithin : Within (c.child env parent request s).authority request := hmay.1.within _
      refine ⟨⟨_, _, hissued, validate_eq_ok_iff.2 ⟨hmay.1.narrows hmay.2.1 _ hvalue, hafter⟩⟩,
        hwithin, ?_⟩
      intro now g hvalidate hg
      have hcovers : Within g.authority (c.child env parent request s).authority :=
        (validate_eq_ok_iff.1 hvalidate).1.within_grantedChild hg _
      exact hcovers

/-! ### Minting across the expiry -/

/-- A request for more depth and time than `demoRoot` has. -/
def demoClampedRequest : DelegationRequest where
  toolAuthority := (demoRoot.toolAuthority.take 1).map fun t => { t with maxDepth := 5 }
  stateAccessPermissions := [⟨"shared", .member .read, .member .sanitized⟩]
  requestedExpiry := ⟨1767232800000000, by decide, by decide⟩

theorem derivable_demo : Derivable demoRoot demoClampedRequest where
  lineage := by decide
  parentNamespaces := by decide
  requestNamespaces := by decide
  parentToolUris := by decide
  requestToolUris := by decide
  tools := by
    intro t ht
    obtain rfl := List.mem_singleton.1 ht
    exact ⟨⟨⟨"mcp://tools/search", by decide⟩, "read,write", 2⟩, by decide, rfl, by decide,
      by decide⟩
  permissions := by
    intro p hp
    obtain rfl := List.mem_singleton.1 hp
    exact ⟨⟨"shared", .member .write, .member .clean⟩, by decide, rfl, rfl, 0, 1, rfl, rfl,
      by decide⟩

/-- The state is the time, and it is `answered` when the authority answers. -/
def demoCollaborators (answered : DateTime) : Collaborators DateTime where
  clock t := (t.toPy, t)
  uuid4 t := (0xa1, t)
  issue _ _ := fun _ => .ok (some ⟨.jwtSvid, "token", none⟩) answered

/-- How `derive` ends for `demoClampedRequest`, with the calls of `issue`. -/
def demoMinting (answered : DateTime) : EStateM.Result Exc (Recorded DateTime) GCO :=
  ((demoCollaborators answered).runtime demoExternals).derive demoExternals demoRoot
    demoClampedRequest (demoNow, [])

/-- What the authority answers. -/
def demoIssued (answered : DateTime) : EStateM.Result Exc DateTime (Option AttestationModel) :=
  (demoCollaborators answered).issued demoExternals demoRoot demoClampedRequest demoNow

theorem mayIssue_demo (answered : DateTime) :
    (demoCollaborators answered).MayIssue demoRoot demoClampedRequest demoNow :=
  ⟨derivable_demo, serializable_demoRoot, demoNow.micros, PyDatetime.instant?_toPy demoNow,
    by decide⟩

theorem demoMinting_rejected :
    ∃ e t call, demoMinting demoRoot.expiresAt = .error e (t, [call]) := by
  have houtcome : (demoCollaborators demoRoot.expiresAt).Outcome demoExternals demoRoot
      demoClampedRequest demoNow [] (demoMinting demoRoot.expiresAt) :=
    Collaborators.derive_outcome
  generalize demoMinting demoRoot.expiresAt = r at houtcome
  cases houtcome with
  | refused e s' hrefused he => exact absurd (mayIssue_demo _) hrefused
  | notIssued e s' hmay hissued => cases hissued
  | rejected a s' t e hmay hissued hrejected he => exact ⟨e, t, _, rfl⟩
  | returned a s' t hmay hissued ha hafter =>
    -- the clock has reached the expiry
    cases hissued
    obtain ⟨micros, hmicros, hlt⟩ := hafter
    rw [show ((demoCollaborators demoRoot.expiresAt).clock demoRoot.expiresAt).1 =
      demoRoot.expiresAt.toPy from rfl, PyDatetime.instant?_toPy, Option.some.injEq] at hmicros
    subst hmicros
    exact absurd hlt (by decide)

/-- The authority answers when the child expires: it was called once, and no child is returned. No
one instant makes the condition that the child is current right, both about the child that is
returned and about the call. -/
theorem expired_while_minting :
    Derivable demoRoot demoClampedRequest ∧
      (∃ a t, demoIssued demoRoot.expiresAt = .ok (some a) t ∧ a.value ≠ "") ∧
      ∀ now, ¬(((∃ child t, demoMinting demoRoot.expiresAt = .ok child t) ↔
            Derivable demoRoot demoClampedRequest ∧
              After (min demoClampedRequest.requestedExpiry demoRoot.expiresAt) now ∧
              ∃ a t, demoIssued demoRoot.expiresAt = .ok (some a) t ∧ a.value ≠ "") ∧
          ((issueCalls (demoMinting demoRoot.expiresAt)).length = 1 ↔
            Derivable demoRoot demoClampedRequest ∧
              After (min demoClampedRequest.requestedExpiry demoRoot.expiresAt) now)) := by
  have hissued : ∃ a t, demoIssued demoRoot.expiresAt = .ok (some a) t ∧ a.value ≠ "" :=
    ⟨_, _, rfl, by decide⟩
  refine ⟨derivable_demo, hissued, ?_⟩
  rintro now ⟨hreturns, hcalls⟩
  obtain ⟨e, t, call, hminting⟩ := demoMinting_rejected
  rw [hminting] at hreturns hcalls
  have hafter := (hcalls.1 rfl).2
  obtain ⟨child, t', h⟩ := hreturns.2 ⟨derivable_demo, hafter, hissued⟩
  cases h

/-- An authority that answers at once: the child is returned, and covers the others. -/
theorem derive_grants_greatest_demo :
    ∃ child t, demoMinting demoNow = .ok child t ∧
      ∀ now g, validate demoExternals now demoRoot g = .ok () →
        Within g.authority demoClampedRequest → Within g.authority child.authority := by
  obtain ⟨hreturns, -, -, -, hgreatest⟩ := derive_grants_greatest demoExternals
    (demoCollaborators demoNow) demoRoot demoClampedRequest demoNow
  obtain ⟨child, t, h⟩ := hreturns.2 ⟨mayIssue_demo _, ⟨.jwtSvid, "token", none⟩, demoNow, rfl,
    by decide, demoNow.micros, PyDatetime.instant?_toPy demoNow, by decide⟩
  exact ⟨child, t, h, (hgreatest child t h).2.2⟩

end Gco
