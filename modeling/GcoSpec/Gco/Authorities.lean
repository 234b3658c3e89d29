import GcoSpec.Gco.Ancestry
import GcoSpec.Gco.Maximality
import GcoSpec.Gco.Decisions

/-!
# What the authorities attest

Only `derive` calls an attestation authority, and `derive_for_subcall` only for a parent that has
verified. `Config.Logs cfg signed` says that `signed` lists, in the state of the caller's objects,
what the authority of a runtime was asked to attest; under it

* every other method of the runtime leaves the list as it is (`keeps_authorizeToolCall`, …);
* `derive_for_subcall`, however it ends, adds at most one entry: the data of a child that is within
  a verified parent (`leaves_deriveForSubcall`).

`TrustedKey` is what the trust bundle contributes to a verified result: the key that decoded the
payload.
-/

namespace Gco

open Python Python.Json

variable {Key Cert Store V Ω : Type}

/-! ### Trusted keys -/

/-- A key that the bundle vouches for at an instant: one of its JWKs, or that of a certificate with
a chain to one of its CAs. -/
inductive TrustedKey (crypto : Crypto Key Cert Store) (bundle : TrustBundle Key Cert Store)
    (now : DateTime) (key : Key) : Prop
  | jwk {domain kid : String} {entry : TrustDomainBundle Key Cert Store}
    (hdomain : bundle.domains.get? domain = some entry) (hkey : entry.jwks.get? kid = some key)
  | leaf {domain : String} {entry : TrustDomainBundle Key Cert Store} {store : Store} {leaf : Cert}
    {chain : List Cert} (hdomain : bundle.domains.get? domain = some entry)
    (hstore : entry.caStore = some store)
    (hchain : crypto.verifyChain store now leaf chain = .ok ())
    (hkey : crypto.publicKey leaf = .ok key)

theorem of_selectJwk {entry : TrustDomainBundle Key Cert Store} {header : Payload} {key : Key}
    (h : selectJwk entry header = .ok key) : ∃ kid, entry.jwks.get? kid = some key := by
  unfold selectJwk at h
  split at h
  · cases h
  · next kid _ =>
    split at h
    · cases h
    · next hkey =>
      cases h
      exact ⟨kid, hkey⟩

/-- A chain that validates ends in a CA of some domain of the bundle. -/
theorem of_validatedX509Chain {crypto : Crypto Key Cert Store}
    {bundle : TrustBundle Key Cert Store} {header : Payload} {now : DateTime} {leaf : Cert}
    (h : validatedX509Chain crypto bundle header now = .ok leaf) :
    ∃ domain entry store chain, bundle.domains.get? domain = some entry ∧
      entry.caStore = some store ∧ crypto.verifyChain store now leaf chain = .ok () := by
  unfold validatedX509Chain at h
  split at h
  · split at h
    · next leaf' chain _ _ =>
      split at h
      · cases h
      · split at h
        · cases h
        · next store hstore =>
          split at h
          · cases h
          · cases h
          · next hchain =>
            cases h
            obtain ⟨entry, hentry, hca⟩ := Option.bind_eq_some_iff.1 hstore
            obtain ⟨domain, -, hdomain⟩ := Option.bind_eq_some_iff.1 hentry
            exact ⟨domain, entry, store, chain, hdomain, hca, hchain⟩
    · cases h
  · cases h

/-- A payload that the verifier takes from a token was decoded with a trusted key. -/
theorem AttestationVerifier.trustedKey_of_attestedPayload {σ : Type}
    {v : AttestationVerifier Key Cert Store σ} {now : DateTime} {a : AttestationModel} {g : GCO}
    {payload : Payload} {sub : Option String}
    (h : v.attestedPayload now (some a) g = .ok (.ok (payload, sub))) :
    ∃ key algorithms, TrustedKey v.crypto v.trustBundle now key ∧
      v.crypto.decode a.value key algorithms = .ok (.dict payload) := by
  unfold attestedPayload at h
  dsimp only at h
  split_ifs at h
  · cases h
  · cases hformat : a.format <;> rw [hformat] at h
    · -- a JWT-SVID: the key is a JWK
      dsimp only at h
      cases hjwt : v.jwtSvidPayload a.value with
      | error failure => rw [hjwt] at h; cases h
      | ok items =>
        rw [hjwt] at h
        cases h
        unfold jwtSvidPayload at hjwt
        split at hjwt
        · split at hjwt
          · cases hjwt
          · next hdomain =>
            obtain ⟨key, hselect, hdecode⟩ := except_bind_eq_ok_iff.1 hjwt
            obtain ⟨domain, -, hentry⟩ := Option.bind_eq_some_iff.1 hdomain
            obtain ⟨kid, hkid⟩ := of_selectJwk hselect
            obtain ⟨algorithms, hok⟩ := decode_of_decodeWithKey hdecode
            exact ⟨key, algorithms, .jwk hentry hkid, hok⟩
        · cases hjwt
    · -- an X.509-SVID: the key is that of the leaf
      dsimp only at h
      unfold x509SvidPayload at h
      split at h
      · cases h
      · split at h
        · cases h
        · next leaf hchain =>
          split_ifs at h
          · cases h
          · obtain ⟨key, hkey, h⟩ := except_bind_eq_ok_iff.1 h
            split_ifs at h
            · cases h
            · split at h
              · cases h
              · next hdecode =>
                cases h
                obtain ⟨domain, entry, store, chain, hentry, hca, hverify⟩ :=
                  of_validatedX509Chain hchain
                obtain ⟨algorithms, hok⟩ := decode_of_decodeWithKey hdecode
                exact ⟨key, algorithms, .leaf hentry hca hverify hkey, hok⟩
    · cases h
    · cases h

/-! ### The record of what was asked -/

/-- The list grows by what the authority is asked to attest, and no other call changes it. -/
structure Config.Logs (cfg : Config Key Cert Store V Ω) (signed : Ω → List Payload) : Prop where
  issue : ∀ issue ∈ cfg.issue, ∀ identity data w w', Leaves (issue identity data) w w' →
    signed w'.host = signed w.host ∨ signed w'.host = signed w.host ++ [data]
  uuid4 : Keeps (fun w => signed w.host) cfg.uuid4
  replayCache : ∀ cache ∈ cfg.replayCache, ∀ jti exp now,
    Keeps signed (cache.checkAndRecord jti exp now)

section Keeps

variable {cfg : Config Key Cert Store V Ω} {signed : Ω → List Payload} {env : Externals}
  {now : PyDatetime} {g : GCO}

theorem keeps_onHost {α : Type} {x : Py Exc Ω α} (h : Keeps signed x) :
    Keeps (fun w : World V Ω => signed w.host) (onHost x) := by
  intro w w' hleaves
  unfold Leaves at hleaves
  rw [onHost_apply] at hleaves
  cases hx : x w.host with
  | ok a host =>
    rw [hx] at hleaves
    rcases hleaves with ⟨b, hb⟩ | ⟨e, he⟩
    · cases hb
      exact h _ _ (.inl ⟨a, hx⟩)
    · cases he
  | error e host =>
    rw [hx] at hleaves
    rcases hleaves with ⟨b, hb⟩ | ⟨e', he⟩
    · cases hb
    · cases he
      exact h _ _ (.inr ⟨e, hx⟩)

theorem keeps_acceptOnce {cache : Option (ReplayCache Ω)}
    (h : ∀ c ∈ cache, ∀ jti exp now, Keeps signed (c.checkAndRecord jti exp now))
    (payload : Payload) (exp now : DateTime) :
    Keeps signed (acceptOnce cache payload exp now) := by
  cases cache with
  | none => exact .pure _
  | some c =>
    unfold acceptOnce verifyReplay
    dsimp only
    split
    · exact .pure _
    · refine .ite (fun _ => .pure _) fun _ => ?_
      exact .bind (h c rfl _ _ _) fun accepted => .ite (fun _ => .pure _) fun _ => .pure _

/-- The verifier asks no authority. -/
theorem Config.Logs.verify (h : cfg.Logs signed) (a : Option AttestationModel) :
    Keeps (fun w => signed w.host) ((cfg.runtime env now).verify a g) := by
  refine keeps_onHost (x := (cfg.verifier now).verify env a g none) ?_
  refine .bind (.bind (.pure _) fun value => ?_) fun t => ?_
  · cases value.toUtc? with
    | none => exact .throw _
    | some t => exact .pure t
  · rw [AttestationVerifier.verifyAt_eq]
    refine .bind (.ofExcept _) fun checked => ?_
    rcases checked with failure | ⟨payload, exp⟩
    · exact .pure _
    · exact keeps_acceptOnce h.replayCache payload exp t

theorem keeps_whenVerified (h : cfg.Logs signed) {next : Py Exc (World V Ω) (Decision V)}
    (hnext : Keeps (fun w => signed w.host) next) :
    Keeps (fun w => signed w.host) ((cfg.runtime env now).whenVerified g next) :=
  .bind (h.verify _) fun _ => .ite (fun _ => .pure _) fun _ => hnext

theorem keeps_withSubject (h : cfg.Logs signed) {next : GCO → Py Exc (World V Ω) (Decision V)}
    (hnext : ∀ g, Keeps (fun w => signed w.host) (next g)) :
    Keeps (fun w => signed w.host) ((cfg.runtime env now).withSubject (.gco g) next) := by
  refine .bind (.pure g) fun subject => keeps_whenVerified h (.bind ?_ fun expiry => ?_)
  · refine .bind (.pure now) fun t => .bind (.ofExcept _) fun expired => ?_
    exact .ite (fun _ => .pure _) fun _ => .pure _
  · cases expiry with
    | none => exact hnext subject
    | some expiry => exact .pure _

/-! ### The methods that ask nothing -/

theorem keeps_authorizeSubcall (h : cfg.Logs signed) (p c : GCO) :
    Keeps (fun w => signed w.host)
      ((cfg.runtime env now).authorizeSubcall (.gco p) (.gco c)) := by
  refine .attempt (.bind (.pure p) fun p => keeps_whenVerified h ?_)
  refine .bind (.pure c) fun c => keeps_whenVerified h ?_
  exact .bind (.ofExcept _) fun _ => .pure _

theorem keeps_toolDecision {σ τ : Type} {f : σ → τ} (uri : String) (scope : Option String)
    (tools : List ToolAuthority) :
    Keeps f (GovernanceRuntime.toolDecision env (.str uri) (scope.map .str) tools :
      Py Exc σ (Decision V)) := by
  induction tools with
  | nil => exact .bind (.pure uri) fun _ => .pure _
  | cons t tools ih =>
    rw [GovernanceRuntime.toolDecision]
    refine .bind (.pure uri) fun uri' => .ite (fun _ => .ite (fun _ => ih) fun _ => ?_) fun _ => ih
    cases scope with
    | none => exact .pure _
    | some scope =>
      refine .bind (.pure _) fun tokens => .ite (fun _ => .pure _) fun _ => ?_
      exact .bind (.pure _) fun _ => .bind (.pure _) fun _ => .pure _

theorem keeps_authorizeToolCall (h : cfg.Logs signed) (uri : String) (scope : Option String) :
    Keeps (fun w => signed w.host)
      ((cfg.runtime env now).authorizeToolCall env (.gco g) (.str uri) (scope.map .str)) :=
  .attempt (keeps_withSubject h fun _ => keeps_toolDecision uri scope _)

/-- On `str` arguments the decision about a namespace touches no object. -/
theorem authorizeVerifiedStateAccess_toMode (g : GCO) (ns : String) (mode : ModeText) :
    ∃ d : Decision V, (GovernanceRuntime.authorizeVerifiedStateAccess g (.str ns) mode.toMode :
        Py Exc (World V Ω) (Decision V)) = pure d ∧
      (d.allowed = true ↔ ∃ m, mode.accessMode? = some m ∧ GrantsMode g ns m) := by
  cases hmode : mode.accessMode? with
  | some m =>
    -- a text that names a mode is coerced to it
    obtain ⟨d, hd, hallowed⟩ :=
      authorizeVerifiedStateAccess_member (V := V) (σ := World V Ω) g ns m
    refine ⟨d, ?_, by simpa using hallowed⟩
    rw [← hd]
    unfold GovernanceRuntime.authorizeVerifiedStateAccess
    rw [ModeText.coerceMode_toMode, hmode, coerceMode, pure_bind, pure_bind]
    rfl
  | none =>
    cases mode with
    | member m => cases hmode
    | text s =>
      have hfind : (g.stateAccessPermissions.findM? fun p =>
          (Arg.str ns : Arg (World V Ω)).eqStr p.namespace) = pure (g.permissionFor? ns) :=
        List.findM?_pure _ _
      unfold GovernanceRuntime.authorizeVerifiedStateAccess
      rw [ModeText.coerceMode_toMode, hmode, pure_bind, hfind, pure_bind]
      cases g.permissionFor? ns with
      | none => exact ⟨_, pure_bind _ _, by simp [denyNamespace]⟩
      | some p =>
        have hnone : (Mode.accessMode? (ModeText.toMode (.text s)) :
            Py Exc (World V Ω) (Option AccessMode)) = pure none := congrArg pure hmode
        simp only [Option.elim_none, hnone, pure_bind, Option.bind_none, true_or, if_true]
        exact ⟨_, rfl, by simp [denyNamespace]⟩

theorem keeps_authorizeVerifiedStateAccess {τ : Type} {f : World V Ω → τ} (ns : String)
    (mode : ModeText) :
    Keeps f (GovernanceRuntime.authorizeVerifiedStateAccess g (.str ns) mode.toMode :
      Py Exc (World V Ω) (Decision V)) := by
  obtain ⟨d, hd, -⟩ := authorizeVerifiedStateAccess_toMode (V := V) (Ω := Ω) g ns mode
  rw [hd]
  exact .pure d

theorem keeps_authorizeStateAccess (h : cfg.Logs signed) (ns : String) (mode : ModeText) :
    Keeps (fun w => signed w.host)
      ((cfg.runtime env now).authorizeStateAccess (.gco g) (.str ns) mode.toMode) :=
  .attempt (keeps_withSubject h fun _ => .bind (keeps_authorizeVerifiedStateAccess ns mode)
    fun _ => .ite (fun _ => .pure _) fun _ => .pure _)

theorem keeps_readState (h : cfg.Logs signed) (ns key : String) :
    Keeps (fun w => signed w.host)
      ((cfg.runtime env now).readState (.gco g) (.str ns) (.str key)) := by
  refine .attempt (keeps_withSubject h fun g => .bind
    (keeps_authorizeVerifiedStateAccess ns (.member .read)) fun _ => .ite (fun _ => .pure _)
      fun _ => .bind (fun w w' hleaves => ?_) fun _ => .pure _)
  have hread : Leaves (Py.ofExcept (w.store.read ns key g) : Py Exc (World V Ω) V) w w' := hleaves
  rw [leaves_ofExcept_iff.1 hread]

theorem keeps_writeState (h : cfg.Logs signed) (ns key : String) (value : V) (mode : ModeText) :
    Keeps (fun w => signed w.host)
      ((cfg.runtime env now).writeState (.gco g) (.str ns) (.str key) value mode.toMode) := by
  refine .attempt (keeps_withSubject h fun g => ?_)
  rw [GovernanceRuntime.coerceWriteMode, ModeText.coerceMode_toMode, pure_bind, pure_bind]
  cases mode.accessMode?.filter fun m => m = .write || m = .append with
  | none =>
    obtain ⟨text, htext⟩ := ModeText.format_toMode (V := V) (Ω := Ω) mode
    dsimp only
    rw [htext]
    exact .bind (.pure _) fun _ => .bind (.pure _) fun _ => .pure _
  | some m =>
    refine .bind (keeps_authorizeVerifiedStateAccess ns (.member m)) fun _ =>
      .ite (fun _ => .pure _) fun _ => ?_
    rw [subjectForWriteMode_str, pure_bind]
    refine .bind (fun w w' hleaves => ?_) fun _ => .pure _
    -- a write changes the store only
    unfold Leaves at hleaves
    rw [Config.runtime_write_str] at hleaves
    cases hwrite : w.store.write ns key value (writeSubject g ns m) with
    | ok store =>
      rw [hwrite] at hleaves
      rcases hleaves with ⟨u, hu⟩ | ⟨e, he⟩
      · cases hu
        rfl
      · cases he
    | error e =>
      rw [hwrite] at hleaves
      rcases hleaves with ⟨u, hu⟩ | ⟨e', he⟩
      · cases hu
      · cases he
        rfl

end Keeps

/-! ### Derivation -/

/-- The child is within the parent, once it is attested. -/
def Delegates (env : Externals) (parent child : GCO) : Prop :=
  ∃ a, Narrows env parent { child with attestation := some a }

section Delegates

variable {env : Externals} {parent child : GCO}

theorem Delegates.attenuates (h : Delegates env parent child) : Attenuates 1 parent child := by
  obtain ⟨a, hnarrows⟩ := h
  have hattenuates := hnarrows.attenuates
  exact ⟨hattenuates.tools, hattenuates.permissions, hattenuates.expiresAt, hattenuates.traceId,
    hattenuates.policyId, hattenuates.modelIdentity, hattenuates.interventionVersion,
    hattenuates.version⟩

theorem Delegates.lineage (h : Delegates env parent child) :
    child.lineage = parent.lineage ++ [canonicalDigest env parent] ∧
      child.lineage.length ≤ 128 := by
  obtain ⟨a, hnarrows⟩ := h
  exact ⟨hnarrows.lineage, hnarrows.lineageLength⟩

/-- The attestation of the parent does not matter. -/
theorem Delegates.of_bare_eq (h : Delegates env parent child) {parent' : GCO}
    (hbare : parent'.bare = parent.bare) : Delegates env parent' child := by
  obtain ⟨a, hnarrows⟩ := h
  have hparent : { parent with attestation := parent'.attestation } = parent' :=
    calc { parent with attestation := parent'.attestation }
      _ = { parent.bare with attestation := parent'.attestation } := rfl
      _ = { parent'.bare with attestation := parent'.attestation } := by rw [hbare]
      _ = parent' := rfl
  exact ⟨a, hparent ▸ hnarrows.reissue parent'.attestation⟩

theorem graded_delegates : Chains.Graded (Delegates env) Attenuates where
  step h := h.attenuates
  trans := Attenuates.trans

end Delegates

/-- The entry that a derivation from the parent may add: the data of a current child of it. -/
def AsksFor (env : Externals) (now : PyDatetime) (parent : GCO) (data : Payload) : Prop :=
  ∃ child : GCO, child.attestation = none ∧ Delegates env parent child ∧
    After child.expiresAt now ∧ data = child.bareItems env

section Derivation

variable {cfg : Config Key Cert Store V Ω} {signed : Ω → List Payload} {env : Externals}
  {now : PyDatetime}

/-- `derive`, however it ends, has asked for at most one child of the parent. -/
theorem Config.Logs.leaves_derive (h : cfg.Logs signed)
    {issue : String → Payload → Py Exc (World V Ω) (Option AttestationModel)}
    (hissue : issue ∈ cfg.issue) {parent : GCO} {request : DelegationRequest} {w w' : World V Ω}
    (hleaves : Leaves ((GCODerivationRuntime.mk issue (cfg.runtime env now).validate
      (cfg.runtime env now).uuid4).derive env parent request) w w') :
    signed w'.host = signed w.host ∨
      ∃ data, AsksFor env now parent data ∧ signed w'.host = signed w.host ++ [data] := by
  unfold GCODerivationRuntime.derive at hleaves
  -- the plan and the UUID
  rcases leaves_bind_iff.1 hleaves with ⟨e, he⟩ | ⟨⟨tools, permissions⟩, w₁, hplan, hspan⟩
  · exact .inl (Keeps.ofExcept (f := fun w : World V Ω => signed w.host) _ _ _ (.inr ⟨e, he⟩))
  obtain ⟨-, rfl⟩ := Py.ofExcept_eq_ok hplan
  dsimp only at hspan
  rcases leaves_bind_iff.1 hspan with ⟨e, he⟩ | ⟨spanId, w₂, huuid, hhash⟩
  · exact .inl (h.uuid4 _ _ (.inr ⟨e, he⟩))
  have hsigned : signed w₂.host = signed w₁.host := h.uuid4 _ _ (.inl ⟨spanId, huuid⟩)
  -- the hash of the parent
  rcases leaves_bind_iff.1 hhash with ⟨e, he⟩ | ⟨parentHash, w₃, hdigest, hfirst⟩
  · have hsame := Keeps.ofExcept (f := fun w : World V Ω => signed w.host) _ _ _ (.inr ⟨e, he⟩)
    exact .inl (hsame.trans hsigned)
  obtain ⟨-, rfl⟩ := Py.ofExcept_eq_ok hdigest
  -- the first validation lets only children of the parent through
  rcases leaves_bind_iff.1 hfirst with ⟨e, he⟩ | ⟨⟨⟩, w₄, hvalidate, hask⟩
  · have hsame := Keeps.ofExcept (f := fun w : World V Ω => signed w.host) _ _ _ (.inr ⟨e, he⟩)
    exact .inl (hsame.trans hsigned)
  obtain ⟨hvalid, rfl⟩ := Py.ofExcept_eq_ok hvalidate
  obtain ⟨hnarrows, hafter⟩ := validate_eq_ok_iff.1 hvalid
  have hasks : AsksFor env now parent
      ((childWithoutAttestation parent request spanId parentHash tools permissions).bareItems
        env) :=
    ⟨_, rfl, ⟨placeholder, hnarrows⟩, hafter, rfl⟩
  -- what the authority records, and nothing after it
  rcases leaves_bind_iff.1 hask with ⟨e, he⟩ | ⟨a, w₅, ha, hlater⟩
  · rcases h.issue issue hissue _ _ _ _ (.inr ⟨e, he⟩) with hkept | hadded
    · exact .inl (hkept.trans hsigned)
    · exact .inr ⟨_, hasks, by rw [hadded, hsigned]⟩
  have hlast : signed w'.host = signed w₅.host := by
    have hkeeps : Keeps (fun w : World V Ω => signed w.host) (do
        (cfg.runtime env now).validate parent
          { childWithoutAttestation parent request spanId parentHash tools permissions with
            attestation := a }
        pure { childWithoutAttestation parent request spanId parentHash tools permissions with
          attestation := a }) := .bind (.ofExcept _) fun _ => .pure _
    exact hkeeps _ _ hlater
  rcases h.issue issue hissue _ _ _ _ (.inl ⟨a, ha⟩) with hkept | hadded
  · exact .inl (hlast.trans (hkept.trans hsigned))
  · exact .inr ⟨_, hasks, by rw [hlast, hadded, hsigned]⟩

/-- `derive_for_subcall`, however it ends, has asked for nothing, or for a current child of the
parent, once that had verified. -/
theorem Config.Logs.leaves_deriveForSubcall (h : cfg.Logs signed) {parent : GCO}
    {request : DelegationRequest} {w w' : World V Ω}
    (hleaves : Leaves ((cfg.runtime env now).deriveForSubcall env (.gco parent)
      (.request request)) w w') :
    signed w'.host = signed w.host ∨
      ∃ w₁ data, cfg.Verifies env now parent w w₁ ∧ AsksFor env now parent data ∧
        signed w'.host = signed w.host ++ [data] := by
  rw [GovernanceRuntime.deriveForSubcall, leaves_attempt_iff] at hleaves
  unfold GovernanceRuntime.deriveForSubcallBody at hleaves
  cases hissue : (cfg.runtime env now).issue with
  | none =>
    rw [hissue] at hleaves
    exact .inl (Keeps.pure (f := fun w : World V Ω => signed w.host) _ _ _ hleaves)
  | some issue =>
    rw [hissue] at hleaves
    dsimp only at hleaves
    rw [coerceGco, pure_bind] at hleaves
    rcases leaves_bind_iff.1 hleaves with ⟨e, he⟩ | ⟨r, w₁, hverify, hleaves⟩
    · exact .inl (h.verify _ _ _ (.inr ⟨e, he⟩))
    have hsigned : signed w₁.host = signed w.host := h.verify _ _ _ (.inl ⟨r, hverify⟩)
    by_cases hr : r.verified = true
    · rw [if_neg (not_not.2 hr), coerceRequest, pure_bind] at hleaves
      -- after the derivation the verifier and the validator are left
      have hrest : ∀ (child : GCO), Keeps (fun w : World V Ω => signed w.host)
          ((cfg.runtime env now).whenVerified child do
            (cfg.runtime env now).validate parent child
            pure (.allowChild child)) := fun child =>
        keeps_whenVerified h (.bind (.ofExcept _) fun _ => .pure _)
      rcases leaves_bind_iff.1 hleaves with ⟨e, he⟩ | ⟨child, w₂, hderive, hleaves⟩
      · rcases h.leaves_derive hissue (.inr ⟨e, he⟩) with hkept | ⟨data, hasks, hadded⟩
        · exact .inl (hkept.trans hsigned)
        · exact .inr ⟨w₁, data, ⟨r, hverify, hr⟩, hasks, by rw [hadded, hsigned]⟩
      · have hlast : signed w'.host = signed w₂.host := hrest child _ _ hleaves
        rcases h.leaves_derive hissue (.inl ⟨child, hderive⟩) with hkept | ⟨data, hasks, hadded⟩
        · exact .inl (hlast.trans (hkept.trans hsigned))
        · exact .inr ⟨w₁, data, ⟨r, hverify, hr⟩, hasks, by rw [hlast, hadded, hsigned]⟩
    · rw [if_pos hr] at hleaves
      have hlast := Keeps.pure (f := fun w : World V Ω => signed w.host) _ _ _ hleaves
      exact .inl (hlast.trans hsigned)

end Derivation

end Gco
