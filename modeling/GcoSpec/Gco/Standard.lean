import GcoSpec.Gco.Runtime
import GcoSpec.Gco.Binding

/-!
# The runtime with its standard collaborators

`GovernanceRuntime` as its constructor builds it: the verifier and the validator of the package
read the runtime's clock, and the store is a `GovernedStateStore`. `Config.runtime` is that runtime
at one reading of the clock. The replay cache, the attestation authority and the source of UUIDs
remain arbitrary.
-/

namespace Gco

open Python

/-- The objects behind a runtime: its store, and those of the caller, the replay cache among
them. -/
@[ext] structure World (V Ω : Type) where
  store : GovernedStateStore V
  host : Ω

variable {Key Cert Store V Ω α : Type}

/-- A call that touches only the objects of the caller. -/
def onHost (x : Py Exc Ω α) : Py Exc (World V Ω) α := fun w =>
  match x w.host with
  | .ok a host => .ok a { w with host := host }
  | .error e host => .error e { w with host := host }

theorem onHost_apply (x : Py Exc Ω α) (w : World V Ω) :
    onHost x w = match x w.host with
      | .ok a host => .ok a { w with host := host }
      | .error e host => .error e { w with host := host } := rfl

theorem onHost_eq_ok {x : Py Exc Ω α} {a : α} {w w' : World V Ω} (h : onHost x w = .ok a w') :
    x w.host = .ok a w'.host ∧ w'.store = w.store := by
  rw [onHost_apply] at h
  cases hx : x w.host with
  | ok b host =>
    rw [hx] at h
    cases h
    exact ⟨rfl, rfl⟩
  | error e host =>
    rw [hx] at h
    cases h

/-- The arguments of the constructor. A `GovernedStateStore` takes any hashable key; what it does
with one that is not a `str` is left open. -/
structure Config (Key Cert Store V Ω : Type) where
  crypto : Crypto Key Cert Store
  trustBundle : TrustBundle Key Cert Store
  expectedAudience : Option (List String)
  replayCache : Option (ReplayCache Ω)
  issue : Option (String → Payload → Py Exc (World V Ω) (Option AttestationModel))
  uuid4 : Py Exc (World V Ω) Uuid
  readObject : Arg (World V Ω) → Arg (World V Ω) → GCO → Py Exc (World V Ω) V
  writeObject : Arg (World V Ω) → Arg (World V Ω) → V → GCO → Py Exc (World V Ω) Unit

namespace Config

variable (cfg : Config Key Cert Store V Ω) (env : Externals) (now : PyDatetime)

/-- `AttestationVerifier(trust_bundle, now, expected_audience, replay_cache)`. -/
def verifier : AttestationVerifier Key Cert Store Ω :=
  ⟨cfg.crypto, cfg.trustBundle, pure now, cfg.expectedAudience, cfg.replayCache⟩

/-- `state_store.read`. -/
def read (ns key : Arg (World V Ω)) (g : GCO) : Py Exc (World V Ω) V :=
  match ns, key with
  | .str ns, .str key => fun w => (Py.ofExcept (w.store.read ns key g) : Py Exc (World V Ω) V) w
  | _, _ => cfg.readObject ns key g

/-- `state_store.write`. -/
def write (ns key : Arg (World V Ω)) (value : V) (g : GCO) : Py Exc (World V Ω) Unit :=
  match ns, key with
  | .str ns, .str key => fun w =>
      match w.store.write ns key value g with
      | .ok store => .ok () { w with store := store }
      | .error e => .error e w
  | _, _ => cfg.writeObject ns key value g

/-- The runtime, while its clock reads `now`. -/
def runtime : GovernanceRuntime (World V Ω) V where
  now := pure now
  verify attestation g := onHost ((cfg.verifier now).verify env attestation g none)
  validate parent child := Py.ofExcept (validate env now parent child)
  read := cfg.read
  write := cfg.write
  issue := cfg.issue
  uuid4 := cfg.uuid4

/-- The attestation of `g` verifies in the world `w`, which leaves the world `w'`. -/
def Verifies (g : GCO) (w w' : World V Ω) : Prop :=
  ∃ r, (cfg.runtime env now).verify g.attestation g w = .ok r w' ∧ r.verified = true

/-- The attestation of `g` passes every check but that of the replay cache, which it would leave
with this payload and expiry. -/
def Attests (g : GCO) (payload : Payload) (exp : DateTime) : Prop :=
  ∃ t, now.toUtc? = some t ∧
    (cfg.verifier now).checkAttestation env t g.attestation g = .ok (.ok (payload, exp))

variable {cfg env now}

theorem runtime_read_str (ns key : String) (g : GCO) (w : World V Ω) :
    (cfg.runtime env now).read (.str ns) (.str key) g w =
      (Py.ofExcept (w.store.read ns key g) : Py Exc (World V Ω) V) w := rfl

theorem runtime_write_str (ns key : String) (value : V) (g : GCO) (w : World V Ω) :
    (cfg.runtime env now).write (.str ns) (.str key) value g w =
      match w.store.write ns key value g with
      | .ok store => .ok () { w with store := store }
      | .error e => .error e w := rfl

theorem verifier_verify_eq (g : GCO) (h : Ω) :
    (cfg.verifier now).verify env g.attestation g none h = match now.toUtc? with
      | none => .error (.overflowError "date value out of range") h
      | some t => (cfg.verifier now).verifyAt env t g.attestation g h :=
  verify_apply env (cfg.verifier now) g.attestation g now rfl

/-- A verified attestation passed all checks, and the cache accepted it. -/
theorem Verifies.attests {g : GCO} {w w' : World V Ω} (h : cfg.Verifies env now g w w') :
    ∃ payload exp t r, now.toUtc? = some t ∧ cfg.Attests env now g payload exp ∧
      acceptOnce cfg.replayCache payload exp t w.host = .ok r w'.host ∧ r.verified = true := by
  obtain ⟨r, h, hr⟩ := h
  obtain ⟨hverify, -⟩ := onHost_eq_ok h
  rw [verifier_verify_eq] at hverify
  cases hnow : now.toUtc? with
  | none =>
    rw [hnow] at hverify
    cases hverify
  | some t =>
    rw [hnow] at hverify
    obtain ⟨payload, exp, hcheck, haccept⟩ :=
      AttestationVerifier.checkAttestation_of_verified hverify hr
    exact ⟨payload, exp, t, r, rfl, ⟨t, hnow, hcheck⟩, haccept, hr⟩

/-- An object that is attested has a canonical text. -/
theorem Attests.serializable {g : GCO} {payload : Payload} {exp : DateTime}
    (h : cfg.Attests env now g payload exp) : g.Serializable := by
  obtain ⟨t, -, hcheck⟩ := h
  obtain ⟨sub, -, hsubject, -⟩ := AttestationVerifier.checkAttestation_eq_ok_iff.1 hcheck
  exact (checkSubject_eq_ok_iff.1 hsubject).2.1

theorem Verifies.serializable {g : GCO} {w w' : World V Ω} (h : cfg.Verifies env now g w w') :
    g.Serializable := by
  obtain ⟨payload, exp, t, r, -, hattests, -⟩ := h.attests
  exact hattests.serializable

/-- Verification does not touch the store. -/
theorem Verifies.store {g : GCO} {w w' : World V Ω} (h : cfg.Verifies env now g w w') :
    w'.store = w.store := by
  obtain ⟨r, h, -⟩ := h
  exact (onHost_eq_ok h).2

/-- Verification is the checks, and then the cache. -/
theorem verify_of_attests {g : GCO} {payload : Payload} {exp t : DateTime}
    (h : cfg.Attests env now g payload exp) (ht : now.toUtc? = some t) (w : World V Ω) :
    (cfg.runtime env now).verify g.attestation g w =
      onHost (acceptOnce cfg.replayCache payload exp t) w := by
  obtain ⟨t', ht', hcheck⟩ := h
  rw [ht, Option.some.injEq] at ht'
  subst ht'
  have hverify : (cfg.verifier now).verify env g.attestation g none w.host =
      acceptOnce cfg.replayCache payload exp t w.host := by
    rw [verifier_verify_eq, ht]
    dsimp only
    rw [AttestationVerifier.verifyAt_eq, hcheck]
    rfl
  show onHost _ w = onHost _ w
  rw [onHost_apply, onHost_apply, hverify]

/-- Without a cache, verification is the checks. -/
theorem verifies_iff (hcache : cfg.replayCache = none) {g : GCO} {w w' : World V Ω} :
    cfg.Verifies env now g w w' ↔ w' = w ∧ ∃ payload exp, cfg.Attests env now g payload exp := by
  constructor
  · intro h
    obtain ⟨payload, exp, t, r, -, hattests, haccept, -⟩ := h.attests
    have hstore := h.store
    rw [hcache, acceptOnce, pure_apply, EStateM.Result.ok.injEq] at haccept
    exact ⟨World.ext hstore haccept.2.symm, payload, exp, hattests⟩
  · rintro ⟨rfl, payload, exp, hattests⟩
    obtain ⟨t, ht, -⟩ := id hattests
    refine ⟨.ok, ?_, rfl⟩
    rw [verify_of_attests hattests ht, hcache]
    rfl

end Config

/-! ### What the verifier raises -/

section Raises

variable {env : Externals} {Q : Exc → Prop} (hoverflow : ∀ text, Q (.overflowError text))
  (hdigits : Q digitLimitExceeded)

include hoverflow in
theorem errorsOnly_numericDate (x : Number) : ErrorsOnly (numericDate x) Q := by
  unfold numericDate
  split
  · exact .error (hoverflow _)
  · exact .ok _
  · split <;> exact .ok _

include hoverflow in
theorem errorsOnly_checkTimes (payload : Payload) (now : DateTime) :
    ErrorsOnly (checkTimes payload now) Q := by
  have hexp : ErrorsOnly (checkExp payload now) Q := by
    unfold checkExp
    split
    · exact .ok _
    · refine (errorsOnly_numericDate hoverflow _).bind fun t => ?_
      split
      · exact .ok _
      · split_ifs <;> exact .ok _
  have hfuture : ∀ key malformed future,
      ErrorsOnly (checkNotFuture payload now key malformed future) Q := by
    intro key malformed future
    unfold checkNotFuture
    split
    · exact .ok _
    · split
      · exact .ok _
      · refine (errorsOnly_numericDate hoverflow _).bind fun t => ?_
        split
        · exact .ok _
        · split_ifs <;> exact .ok _
  unfold checkTimes
  refine hexp.bind fun t => ?_
  split
  · exact .ok _
  · refine (hfuture _ _ _).bind fun u => ?_
    split
    · exact .ok _
    · refine (hfuture _ _ _).bind fun u => ?_
      split <;> exact .ok _

include hoverflow hdigits in
/-- The checks raise when a time claim is too large, when the object has no hash, and what
`cert.public_key()` does. -/
theorem AttestationVerifier.errorsOnly_checkAttestation {v : AttestationVerifier Key Cert Store Ω}
    (hkey : ∀ cert, ErrorsOnly (v.crypto.publicKey cert) Q) (now : DateTime)
    (attestation : Option AttestationModel) (g : GCO) :
    ErrorsOnly (v.checkAttestation env now attestation g) Q := by
  have hx509 : ∀ token, ErrorsOnly (v.x509SvidPayload token g now) Q := by
    intro token
    unfold AttestationVerifier.x509SvidPayload
    split
    · exact .ok _
    · split
      · exact .ok _
      · split_ifs
        · exact .ok _
        · refine (hkey _).bind fun key => ?_
          split_ifs
          · exact .ok _
          · split <;> exact .ok _
  have hpayload : ErrorsOnly (v.attestedPayload now attestation g) Q := by
    unfold AttestationVerifier.attestedPayload
    split
    · exact .ok _
    · split_ifs
      · exact .ok _
      · split
        · exact .ok _
        · exact hx509 _
        · exact .ok _
  have hsubject : ∀ payload sub audience,
      ErrorsOnly (checkSubject env payload g sub audience) Q := by
    intro payload sub audience e he
    rw [(checkSubject_eq_error_iff.1 he).2.2]
    exact hdigits
  refine hpayload.bind fun r => ?_
  split
  · exact .ok _
  · refine ErrorsOnly.map_iff.2 ((hsubject _ _ _).bind fun checked => ?_)
    split
    · exact .ok _
    · exact errorsOnly_checkTimes hoverflow _ _

include hoverflow hdigits in
/-- The verifier raises no more than that and what its cache does. -/
theorem Config.raisesOnly_verify {cfg : Config Key Cert Store V Ω}
    (hkey : ∀ cert, ErrorsOnly (cfg.crypto.publicKey cert) Q)
    (hcache : ∀ cache ∈ cfg.replayCache, ∀ jti exp now,
      RaisesOnly (cache.checkAndRecord jti exp now) Q)
    (now : PyDatetime) (attestation : Option AttestationModel) (g : GCO) :
    RaisesOnly ((cfg.runtime env now).verify attestation g) Q := by
  have haccept : ∀ payload exp t, RaisesOnly (acceptOnce cfg.replayCache payload exp t) Q := by
    intro payload exp t
    unfold acceptOnce
    split
    · exact .pure _
    · next cache hmem =>
      unfold verifyReplay
      split
      · exact .pure _
      · exact .ite (fun _ => .pure _) fun _ =>
          (hcache cache hmem _ _ _).bind fun _ => .ite (fun _ => .pure _) fun _ => .pure _
  have hverify : RaisesOnly ((cfg.verifier now).verify env attestation g none) Q := by
    have hnow : RaisesOnly (AttestationVerifier.coerceNow none (cfg.verifier now).now) Q := by
      refine RaisesOnly.bind (.pure _) fun value => ?_
      split
      · exact .throw (hoverflow _)
      · exact .pure _
    refine hnow.bind fun t => ?_
    rw [AttestationVerifier.verifyAt_eq]
    refine (RaisesOnly.ofExcept (AttestationVerifier.errorsOnly_checkAttestation hoverflow hdigits
      hkey t attestation g)).bind fun checked => ?_
    split
    · exact .pure _
    · exact haccept _ _ _
  intro w e w' he
  have hhost : onHost ((cfg.verifier now).verify env attestation g none) w = .error e w' := he
  rw [onHost_apply] at hhost
  split at hhost
  · cases hhost
  · next hraise =>
    cases hhost
    exact hverify _ _ _ hraise

end Raises

end Gco
