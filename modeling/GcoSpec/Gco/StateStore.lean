import GcoSpec.Gco.Validator

/-!
# The governed state store

`GovernedStateStore` keeps two dictionaries over pairs of a namespace and a key: the values, and
the taint labels they were written with. `write` only ever raises the label of a key, and `read`
checks it twice: against `SANITIZED`, and against the label of the reader's own grant.

`write_eq_ok_iff` and `read_eq_ok_iff` say when the two succeed and with what.
-/

namespace Gco

open Python

/-- `GovernedStateStore`, over values of type `V`. -/
structure GovernedStateStore (V : Type) where
  values : Dict (String × String) V
  taints : Dict (String × String) (Label TaintPolicy)

variable {V : Type}

namespace GovernedStateStore

/-- `GovernedStateStore()`. -/
def empty : GovernedStateStore V := ⟨Dict.empty, Dict.empty⟩

/-- `_permission_for`. -/
def permissionFor (ns : String) (g : GCO) : Except Exc StatePermission :=
  match g.permissionFor? ns with
  | some permission => .ok permission
  | none => .error (.namespaceAccessDenied s!"namespace {ns} is not delegated")

/-- `_higher_taint`. -/
def higherTaint (existingTaint writerTaint : Label TaintPolicy) : Label TaintPolicy :=
  match taintRank existingTaint, taintRank writerTaint with
  | none, _ => existingTaint
  | some _, none => writerTaint
  | some existingRank, some writerRank =>
      if writerRank ≤ existingRank then existingTaint else writerTaint

/-- `access_mode in {AccessMode.WRITE, AccessMode.APPEND}`. -/
def isWriteMode (mode : Label AccessMode) : Bool :=
  mode = .member .write || mode = .member .append

/-- `access_mode in {AccessMode.READ, AccessMode.WRITE}`. -/
def isReadMode (mode : Label AccessMode) : Bool :=
  mode = .member .read || mode = .member .write

/-- The label of a key after a write under `permission`. -/
def taintAfter (store : GovernedStateStore V) (storageKey : String × String)
    (permission : StatePermission) : Label TaintPolicy :=
  match store.taints.get? storageKey with
  | some taint => higherTaint taint permission.taintPolicy
  | none => permission.taintPolicy

/-- `write`: the store afterwards. All checks come before the first mutation. -/
def write (store : GovernedStateStore V) (ns key : String) (value : V) (g : GCO) :
    Except Exc (GovernedStateStore V) := do
  let permission ← permissionFor ns g
  if ¬isWriteMode permission.accessMode then
    .error (.namespaceAccessDenied s!"write denied for namespace {ns}")
  else if permission.accessMode = .member .append ∧ store.values.contains (ns, key) then
    .error (.namespaceAccessDenied s!"append denied for existing key {ns}/{key}")
  else
    pure ⟨store.values.set (ns, key) value,
      store.taints.set (ns, key) (store.taintAfter (ns, key) permission)⟩

/-- The taint gates of `read`: the label is at most `SANITIZED`, and at most the reader's. -/
def taintReadable (storedTaint readerTaint : Label TaintPolicy) : Bool :=
  match taintRank storedTaint, taintRank (.member .sanitized), taintRank readerTaint with
  | some storedRank, some sanitizedRank, some permissionRank =>
      storedRank ≤ sanitizedRank && storedRank ≤ permissionRank
  | _, _, _ => false

/-- `read`. -/
def read (store : GovernedStateStore V) (ns key : String) (g : GCO) : Except Exc V := do
  let permission ← permissionFor ns g
  if ¬isReadMode permission.accessMode then
    .error (.namespaceAccessDenied s!"read denied for namespace {ns}")
  else match store.values.get? (ns, key), store.taints.get? (ns, key) with
    | some value, some storedTaint =>
        if taintReadable storedTaint permission.taintPolicy then .ok value
        else .error (.taintedStateRead s!"tainted state rejected for {ns}/{key}")
    | _, _ => .error (.stateKeyNotFound s!"state key {ns}/{key} was not found")

/-- `get_taint`. -/
def getTaint (store : GovernedStateStore V) (ns key : String) (g : GCO) :
    Except Exc (Label TaintPolicy) := do
  let permission ← permissionFor ns g
  if ¬isReadMode permission.accessMode then
    .error (.namespaceAccessDenied s!"read denied for namespace {ns}")
  else match store.taints.get? (ns, key) with
    | some storedTaint => .ok storedTaint
    | none => .error (.stateKeyNotFound s!"state key {ns}/{key} was not found")

/-! ### Modes -/

theorem isReadMode_iff {mode : Label AccessMode} :
    isReadMode mode = true ↔ accessAllows mode (.member .read) = true := by
  rcases mode with (_ | _ | _ | _) | _ <;> simp [isReadMode, accessAllows, accessAllowances]

/-- A read grant of the child is a read grant of the parent. -/
theorem isReadMode_of_accessAllows {granted requested : Label AccessMode}
    (h : accessAllows granted requested = true) (hread : isReadMode requested = true) :
    isReadMode granted = true := by
  rw [isReadMode_iff] at hread ⊢
  exact accessAllows_trans h hread

/-! ### What `write` and `read` do -/

theorem permissionFor_eq_ok_iff {ns : String} {g : GCO} {p : StatePermission} :
    permissionFor ns g = .ok p ↔ g.permissionFor? ns = some p := by
  unfold permissionFor
  cases g.permissionFor? ns <;> simp

variable {store store' : GovernedStateStore V} {ns key : String} {value : V} {g : GCO}

/-- A write succeeds under a write grant, or under an append grant on a key without a value. -/
theorem write_eq_ok_iff : store.write ns key value g = .ok store' ↔
    ∃ p, g.permissionFor? ns = some p ∧ (p.accessMode = .member .write ∨
      p.accessMode = .member .append ∧ store.values.get? (ns, key) = none) ∧
      store' = ⟨store.values.set (ns, key) value,
        store.taints.set (ns, key) (store.taintAfter (ns, key) p)⟩ := by
  have hcontains : ¬store.values.contains (ns, key) = true ↔
      store.values.get? (ns, key) = none := by
    rw [Dict.contains, Bool.not_eq_true, Option.isSome_eq_false_iff, Option.isNone_iff_eq_none]
  rw [write, except_bind_eq_ok_iff]
  refine exists_congr fun p => ?_
  rw [permissionFor_eq_ok_iff]
  refine and_congr_right fun _ => ?_
  by_cases hmode : isWriteMode p.accessMode = true
  · rw [if_neg (not_not.2 hmode)]
    simp only [isWriteMode, Bool.or_eq_true, decide_eq_true_eq] at hmode
    by_cases happend : p.accessMode = .member .append ∧ store.values.contains (ns, key) = true
    · rw [if_pos happend]
      simp only [reduceCtorEq, false_iff, not_and]
      rintro (hwrite | ⟨-, hnone⟩)
      · rw [hwrite] at happend
        exact absurd happend.1 (by decide)
      · exact absurd happend.2 (hcontains.2 hnone)
    · rw [if_neg happend]
      have hgrant : p.accessMode = .member .write ∨
          p.accessMode = .member .append ∧ store.values.get? (ns, key) = none :=
        hmode.imp_right fun ha => ⟨ha, hcontains.1 fun hc => happend ⟨ha, hc⟩⟩
      simp only [pure, Except.pure, Except.ok.injEq, hgrant, true_and]
      exact eq_comm
  · -- neither `WRITE` nor `APPEND`
    rw [if_pos hmode]
    simp only [isWriteMode, Bool.or_eq_true, decide_eq_true_eq, not_or] at hmode
    simp [hmode]

/-- A read succeeds under a read grant on a key whose label passes both gates. -/
theorem read_eq_ok_iff : store.read ns key g = .ok value ↔
    ∃ p t, g.permissionFor? ns = some p ∧ isReadMode p.accessMode = true ∧
      store.values.get? (ns, key) = some value ∧ store.taints.get? (ns, key) = some t ∧
      taintReadable t p.taintPolicy = true := by
  rw [read, except_bind_eq_ok_iff]
  constructor
  · rintro ⟨p, hp, h⟩
    rw [permissionFor_eq_ok_iff] at hp
    by_cases hmode : isReadMode p.accessMode = true
    · rw [if_neg (not_not.2 hmode)] at h
      split at h
      · next v t hv ht =>
        split_ifs at h with htaint
        cases h
        exact ⟨p, t, hp, hmode, hv, ht, htaint⟩
      · cases h
    · rw [if_pos hmode] at h
      cases h
  · rintro ⟨p, t, hp, hmode, hv, ht, htaint⟩
    refine ⟨p, permissionFor_eq_ok_iff.2 hp, ?_⟩
    rw [if_neg (not_not.2 hmode), hv, ht]
    dsimp only
    rw [if_pos htaint]

/-- The exceptions of the store have a text. -/
theorem text_of_read {e : Exc} (h : store.read ns key g = .error e) : ∃ t, e.text = some t := by
  unfold read permissionFor at h
  cases hp : g.permissionFor? ns with
  | none =>
    rw [hp] at h
    cases h
    exact ⟨_, rfl⟩
  | some p =>
    rw [hp] at h
    simp only [bind, Except.bind] at h
    by_cases hmode : isReadMode p.accessMode = true
    · rw [if_neg (not_not.2 hmode)] at h
      split at h
      · split_ifs at h
        cases h
        exact ⟨_, rfl⟩
      · cases h
        exact ⟨_, rfl⟩
    · rw [if_pos hmode] at h
      cases h
      exact ⟨_, rfl⟩

theorem text_of_write {e : Exc} (h : store.write ns key value g = .error e) :
    ∃ t, e.text = some t := by
  unfold write permissionFor at h
  cases hp : g.permissionFor? ns with
  | none =>
    rw [hp] at h
    cases h
    exact ⟨_, rfl⟩
  | some p =>
    rw [hp] at h
    simp only [bind, Except.bind] at h
    by_cases hmode : isWriteMode p.accessMode = true
    · rw [if_neg (not_not.2 hmode)] at h
      split_ifs at h
      · cases h
        exact ⟨_, rfl⟩
      · cases h
    · rw [if_pos hmode] at h
      cases h
      exact ⟨_, rfl⟩

/-- The labels that pass both gates. -/
theorem taintReadable_iff {stored reader : Label TaintPolicy} :
    taintReadable stored reader = true ↔
      ∃ s r, taintRank stored = some s ∧ taintRank reader = some r ∧ s ≤ 1 ∧ s ≤ r := by
  have hsanitized : taintRank (.member .sanitized) = some 1 := rfl
  unfold taintReadable
  rw [hsanitized]
  cases taintRank stored <;> cases taintRank reader <;> simp

end GovernedStateStore

end Gco
