import Mathlib.Tactic.Common

/-!
# Python calls

A call that may mutate objects and raise an exception: `Py ε σ α` takes the state of the objects
and returns a value or raises, in either case with the state as it stands then. A raised
exception does not undo the mutations made before it. `attempt body handler` is

    try:
        body
    except Exception as exc:
        return handler(exc)

`Ensures` speaks about what a call returns, `RaisesOnly` about what it raises, and `Leaves` and
`Keeps` about the state either leaves.
-/

namespace Python

/-! ### Calls that touch no object -/

theorem except_bind_eq_ok_iff {ε α β : Type} {x : Except ε α} {f : α → Except ε β} {b : β} :
    (x >>= f) = .ok b ↔ ∃ a, x = .ok a ∧ f a = .ok b := by
  cases x with
  | error e => simp [bind, Except.bind]
  | ok a => simp [bind, Except.bind]

theorem except_bind_eq_error_iff {ε α β : Type} {x : Except ε α} {f : α → Except ε β} :
    (∃ e, (x >>= f) = .error e) ↔
      (∃ e, x = .error e) ∨ ∃ a, x = .ok a ∧ ∃ e, f a = .error e := by
  cases x with
  | error e => simp [bind, Except.bind]
  | ok a => simp [bind, Except.bind]

/-- A part that returns whatever it is given raises nothing. -/
theorem except_bind_eq_error_iff_of_returns {ε α β : Type} {x : Except ε α}
    {f : α → Except ε β} (hf : ∀ a, ∃ b, f a = .ok b) :
    (∃ e, (x >>= f) = .error e) ↔ ∃ e, x = .error e := by
  rw [except_bind_eq_error_iff]
  refine or_iff_left ?_
  rintro ⟨a, -, e, he⟩
  obtain ⟨b, hb⟩ := hf a
  rw [hb] at he
  cases he

/-- What a sequence raises is raised by one of its parts. -/
theorem except_bind_raises_iff {ε α β : Type} {x : Except ε α} {f : α → Except ε β} {e : ε} :
    (x >>= f) = .error e ↔ x = .error e ∨ ∃ a, x = .ok a ∧ f a = .error e := by
  cases x with
  | error e' => simp [bind, Except.bind]
  | ok a => simp [bind, Except.bind]

theorem except_map_eq_ok_iff {ε α β : Type} {x : Except ε α} {f : α → β} {b : β} :
    x.map f = .ok b ↔ ∃ a, x = .ok a ∧ f a = b := by
  cases x <;> simp [Except.map]

/-- Statements in sequence: none of them raised. -/
theorem seq_eq_ok_iff {ε : Type} {x : Except ε Unit} {y : Unit → Except ε Unit} :
    (x >>= y) = .ok () ↔ x = .ok () ∧ y () = .ok () := by
  rw [except_bind_eq_ok_iff]
  exact ⟨fun ⟨(), h⟩ => h, fun h => ⟨(), h⟩⟩

/-- A loop that raises at the first bad item: no item was bad. -/
theorem forM_eq_ok_iff {ε α : Type} {f : α → Except ε Unit} {l : List α} :
    l.forM f = .ok () ↔ ∀ a ∈ l, f a = .ok () := by
  induction l with
  | nil => simp [pure, Except.pure]
  | cons a l ih =>
    rw [List.forM, seq_eq_ok_iff, ih, List.forall_mem_cons]

/-- A loop that builds a list and raises at the first bad item. -/
theorem mapM_eq_ok_iff {ε α β : Type} {f : α → Except ε β} {P : α → Prop} {g : α → β}
    (h : ∀ a b, f a = .ok b ↔ P a ∧ b = g a) {l : List α} {bs : List β} :
    l.mapM f = .ok bs ↔ (∀ a ∈ l, P a) ∧ bs = l.map g := by
  induction l generalizing bs with
  | nil => simp [pure, Except.pure, eq_comm]
  | cons a l ih =>
    rw [List.mapM_cons, except_bind_eq_ok_iff, List.forall_mem_cons, List.map_cons]
    simp only [except_bind_eq_ok_iff, h, ih]
    constructor
    · rintro ⟨b, ⟨ha, rfl⟩, bs', ⟨hl, rfl⟩, hbs⟩
      cases hbs
      exact ⟨⟨ha, hl⟩, rfl⟩
    · rintro ⟨⟨ha, hl⟩, rfl⟩
      exact ⟨g a, ⟨ha, rfl⟩, l.map g, ⟨hl, rfl⟩, rfl⟩

/-- A loop that builds a list returns when each item does, with the results in order. -/
theorem exists_mapM_eq_ok {ε α β γ : Type} {f : α → Except ε β} {g : β → γ} {t : α → γ}
    {l : List α} (h : ∀ a ∈ l, ∃ b, f a = .ok b ∧ g b = t a) :
    ∃ bs, l.mapM f = .ok bs ∧ bs.map g = l.map t := by
  induction l with
  | nil => exact ⟨[], rfl, rfl⟩
  | cons a l ih =>
    rw [List.forall_mem_cons] at h
    obtain ⟨b, hb, hgb⟩ := h.1
    obtain ⟨bs, hbs, hgbs⟩ := ih h.2
    refine ⟨b :: bs, ?_, ?_⟩
    · rw [List.mapM_cons, hb, hbs]
      rfl
    · rw [List.map_cons, List.map_cons, hgb, hgbs]

theorem mapM_returns_iff {ε α β : Type} {f : α → Except ε β} {l : List α} :
    (∃ bs, l.mapM f = .ok bs) ↔ ∀ a ∈ l, ∃ b, f a = .ok b := by
  induction l with
  | nil => simp [pure, Except.pure]
  | cons a l ih =>
    rw [List.mapM_cons, List.forall_mem_cons, ← ih]
    simp only [except_bind_eq_ok_iff]
    constructor
    · rintro ⟨-, b, hb, bs, hbs, -⟩
      exact ⟨⟨b, hb⟩, bs, hbs⟩
    · rintro ⟨⟨b, hb⟩, bs, hbs⟩
      exact ⟨_, b, hb, bs, hbs, rfl⟩

/-- Whatever the computation raises satisfies `P`. -/
def ErrorsOnly {ε α : Type} (x : Except ε α) (P : ε → Prop) : Prop := ∀ e, x = .error e → P e

namespace ErrorsOnly

variable {ε α β : Type} {x : Except ε α} {P Q : ε → Prop}

theorem mono (h : ErrorsOnly x P) (hPQ : ∀ e, P e → Q e) : ErrorsOnly x Q :=
  fun e he => hPQ e (h e he)

theorem ok (a : α) : ErrorsOnly (.ok a) P := by
  rintro e ⟨⟩

theorem error {e : ε} (h : P e) : ErrorsOnly (.error e : Except ε α) P := by
  rintro e' ⟨⟩
  exact h

theorem bind {f : α → Except ε β} (hx : ErrorsOnly x P) (hf : ∀ a, ErrorsOnly (f a) P) :
    ErrorsOnly (x >>= f) P := by
  intro e h
  rcases except_bind_raises_iff.1 h with hx' | ⟨a, -, ha⟩
  · exact hx e hx'
  · exact hf a e ha

theorem mapM {f : α → Except ε β} (hf : ∀ a, ErrorsOnly (f a) P) (l : List α) :
    ErrorsOnly (l.mapM f) P := by
  induction l with
  | nil => exact ok []
  | cons a l ih =>
    rw [List.mapM_cons]
    exact (hf a).bind fun b => ih.bind fun bs => ok _

theorem forM {f : α → Except ε Unit} (hf : ∀ a, ErrorsOnly (f a) P) (l : List α) :
    ErrorsOnly (l.forM f) P := by
  induction l with
  | nil => exact ok ()
  | cons a l ih =>
    rw [List.forM]
    exact (hf a).bind fun _ => ih

theorem map_iff {f : α → β} : ErrorsOnly (x.map f) P ↔ ErrorsOnly x P := by
  cases x with
  | error e =>
    constructor
    · intro h
      exact error (h e rfl)
    · intro h
      exact error (h e rfl)
  | ok a => exact iff_of_true (ok _) (ok _)

end ErrorsOnly

/-! ### Calls over objects -/

/-- A call over objects in state `σ` that returns an `α` or raises an `ε`. -/
abbrev Py (ε σ α : Type) := EStateM ε σ α

variable {ε σ α β : Type}

/-- Return or raise as a computation that touches no object did. -/
def Py.ofExcept : Except ε α → Py ε σ α
  | .ok a => pure a
  | .error e => throw e

@[simp] theorem Py.ofExcept_ok (a : α) : (Py.ofExcept (.ok a) : Py ε σ α) = pure a := rfl

theorem pure_apply (a : α) (s : σ) : (pure a : Py ε σ α) s = .ok a s := rfl

theorem bind_apply (x : Py ε σ α) (f : α → Py ε σ β) (s : σ) :
    (x >>= f) s = match x s with
      | .ok a s' => f a s'
      | .error e s' => .error e s' := by
  show EStateM.bind x f s = _
  unfold EStateM.bind
  rfl

theorem bind_of_ok {x : Py ε σ α} {s s' : σ} {a : α} (h : x s = .ok a s') (f : α → Py ε σ β) :
    (x >>= f) s = f a s' := by
  rw [bind_apply, h]

/-- A computation that returned went through each of its parts. -/
theorem bind_eq_ok {x : Py ε σ α} {f : α → Py ε σ β} {s s'' : σ} {b : β}
    (h : (x >>= f) s = .ok b s'') : ∃ a s', x s = .ok a s' ∧ f a s' = .ok b s'' := by
  rw [bind_apply] at h
  cases hx : x s with
  | ok a s' => rw [hx] at h; exact ⟨a, s', rfl, h⟩
  | error e s' => rw [hx] at h; cases h

theorem Py.ofExcept_eq_ok {x : Except ε α} {s s' : σ} {a : α}
    (h : (Py.ofExcept x : Py ε σ α) s = .ok a s') : x = .ok a ∧ s' = s := by
  cases x with
  | ok b => cases h; exact ⟨rfl, rfl⟩
  | error e => cases h

/-- `try: body except Exception as exc: return handler(exc)`, where the handler may raise too. -/
def attempt (body : Py ε σ α) (handler : ε → Except ε α) : Py ε σ α := fun s =>
  match body s with
  | .ok a s' => .ok a s'
  | .error e s' =>
      match handler e with
      | .ok a => .ok a s'
      | .error e' => .error e' s'

theorem attempt_of_ok {body : Py ε σ α} {handler : ε → Except ε α} {s s' : σ} {a : α}
    (h : body s = .ok a s') : attempt body handler s = .ok a s' := by
  rw [attempt, h]

theorem attempt_of_error {body : Py ε σ α} {handler : ε → Except ε α} {s s' : σ} {e : ε} {a : α}
    (h : body s = .error e s') (ha : handler e = .ok a) : attempt body handler s = .ok a s' := by
  rw [attempt, h]
  dsimp only
  rw [ha]

/-- A guarded call returned what its body returned, or what the handler made of the exception. -/
theorem attempt_eq_ok {body : Py ε σ α} {handler : ε → Except ε α} {s s' : σ} {a : α}
    (h : attempt body handler s = .ok a s') :
    body s = .ok a s' ∨ ∃ e, body s = .error e s' ∧ handler e = .ok a := by
  unfold attempt at h
  cases hb : body s with
  | ok b t => rw [hb] at h; exact .inl h
  | error e t =>
    rw [hb] at h
    dsimp only at h
    cases he : handler e with
    | ok b => rw [he] at h; cases h; exact .inr ⟨e, rfl, he⟩
    | error e' => rw [he] at h; cases h

/-- A guarded call returns unless the handler raises on the exception of the body. -/
theorem attempt_returns_iff {body : Py ε σ α} {handler : ε → Except ε α} {s : σ} :
    (∃ a s', attempt body handler s = .ok a s') ↔
      ∀ e s', body s = .error e s' → ∃ a, handler e = .ok a := by
  constructor
  · rintro ⟨a, s', h⟩ e t he
    rcases attempt_eq_ok h with hb | ⟨e', hb, ha⟩
    · rw [he] at hb
      cases hb
    · rw [he] at hb
      cases hb
      exact ⟨a, ha⟩
  · intro h
    cases hb : body s with
    | ok a s' => exact ⟨a, s', attempt_of_ok hb⟩
    | error e s' =>
      obtain ⟨a, ha⟩ := h e s' hb
      exact ⟨a, s', attempt_of_error hb ha⟩

/-- The call returns, whatever state it starts in. -/
def Returns (x : Py ε σ α) : Prop := ∀ s, ∃ a s', x s = .ok a s'

/-! ### Postconditions -/

/-- Whatever the call returns satisfies `Q`. -/
def Ensures (x : Py ε σ α) (Q : α → Prop) : Prop := ∀ s a s', x s = .ok a s' → Q a

/-- The call can return `a`. -/
def CanReturn (x : Py ε σ α) (a : α) : Prop := ∃ s s', x s = .ok a s'

namespace Ensures

variable {x : Py ε σ α} {P Q : α → Prop}

theorem mono (h : Ensures x P) (hPQ : ∀ a, P a → Q a) : Ensures x Q :=
  fun s a s' hx => hPQ a (h s a s' hx)

theorem canReturn (x : Py ε σ α) : Ensures x (CanReturn x) := fun s _ s' h => ⟨s, s', h⟩

theorem pure {a : α} (h : Q a) : Ensures (Pure.pure a : Py ε σ α) Q := by
  rintro s b s' ⟨⟩
  exact h

theorem bind {f : α → Py ε σ β} {R : β → Prop} (hx : Ensures x P)
    (hf : ∀ a, P a → Ensures (f a) R) : Ensures (x >>= f) R := by
  intro s b s'' h
  obtain ⟨a, s', ha, hb⟩ := bind_eq_ok h
  exact hf a (hx s a s' ha) s' b s'' hb

/-- A call in sequence after one whose result does not matter. -/
theorem seq {f : α → Py ε σ β} {R : β → Prop} (hf : ∀ a, Ensures (f a) R) :
    Ensures (x >>= f) R :=
  (canReturn x).bind fun a _ => hf a

/-- A guarded call satisfies what its body and its handlers do. -/
theorem attempt {handler : ε → Except ε α} (hbody : Ensures x Q)
    (hhandler : ∀ e a, handler e = .ok a → Q a) : Ensures (Python.attempt x handler) Q := by
  intro s a s' h
  rcases attempt_eq_ok h with hx | ⟨e, -, ha⟩
  · exact hbody s a s' hx
  · exact hhandler e a ha

end Ensures

/-! ### Exceptions -/

/-- Whatever the call raises satisfies `P`. -/
def RaisesOnly (x : Py ε σ α) (P : ε → Prop) : Prop := ∀ s e s', x s = .error e s' → P e

namespace RaisesOnly

variable {x : Py ε σ α} {P Q : ε → Prop}

theorem mono (h : RaisesOnly x P) (hPQ : ∀ e, P e → Q e) : RaisesOnly x Q :=
  fun s e s' hx => hPQ e (h s e s' hx)

theorem pure (a : α) : RaisesOnly (Pure.pure a : Py ε σ α) P := by
  rintro s e s' ⟨⟩

theorem throw {e : ε} (h : P e) : RaisesOnly (MonadExcept.throw e : Py ε σ α) P := by
  rintro s e' s' ⟨⟩
  exact h

theorem ofExcept {y : Except ε α} (h : ∀ e, y = .error e → P e) :
    RaisesOnly (Py.ofExcept y : Py ε σ α) P := by
  cases y with
  | ok a => exact pure a
  | error e => exact throw (h e rfl)

theorem bind {f : α → Py ε σ β} (hx : RaisesOnly x P) (hf : ∀ a, RaisesOnly (f a) P) :
    RaisesOnly (x >>= f) P := by
  intro s e s'' h
  rw [bind_apply] at h
  cases hs : x s with
  | ok a s' =>
    rw [hs] at h
    exact hf a s' e s'' h
  | error e' s' =>
    rw [hs] at h
    cases h
    exact hx s _ _ hs

theorem ite {c : Prop} [Decidable c] {y : Py ε σ α} (hx : c → RaisesOnly x P)
    (hy : ¬c → RaisesOnly y P) : RaisesOnly (if c then x else y) P := by
  by_cases hc : c
  · rw [if_pos hc]
    exact hx hc
  · rw [if_neg hc]
    exact hy hc

theorem mapM {f : α → Py ε σ β} (hf : ∀ a, RaisesOnly (f a) P) (l : List α) :
    RaisesOnly (l.mapM f) P := by
  induction l with
  | nil => exact pure []
  | cons a l ih =>
    rw [List.mapM_cons]
    exact (hf a).bind fun b => ih.bind fun bs => pure _

theorem findM? {f : α → Py ε σ Bool} (hf : ∀ a, RaisesOnly (f a) P) (l : List α) :
    RaisesOnly (l.findM? f) P := by
  induction l with
  | nil => exact pure none
  | cons a l ih =>
    rw [List.findM?]
    refine (hf a).bind fun b => ?_
    cases b
    · exact ih
    · exact pure (some a)

theorem of_returns (h : Returns x) : RaisesOnly x P := by
  intro s e s' he
  obtain ⟨a, s'', ha⟩ := h s
  rw [ha] at he
  cases he

/-- A guarded call returns if its handlers return on whatever the body raises. -/
theorem returns_attempt {handler : ε → Except ε α} (hx : RaisesOnly x P)
    (hhandler : ∀ e, P e → ∃ a, handler e = .ok a) : Returns (attempt x handler) :=
  fun s => attempt_returns_iff.2 fun e s' he => hhandler e (hx s e s' he)

/-- What it returns satisfies what the body ensures, and the handlers on whatever it raises. -/
theorem ensures_attempt {Q : α → Prop} {handler : ε → Except ε α} (hx : RaisesOnly x P)
    (hbody : Ensures x Q) (hhandler : ∀ e, P e → ∀ a, handler e = .ok a → Q a) :
    Ensures (attempt x handler) Q := by
  intro s a s' h
  rcases attempt_eq_ok h with hok | ⟨e, herror, ha⟩
  · exact hbody s a s' hok
  · exact hhandler e (hx s e s' herror) a ha

end RaisesOnly

/-! ### States -/

/-- The call ends in the state `s'`, whether it returns or raises. -/
def Leaves (x : Py ε σ α) (s s' : σ) : Prop := (∃ a, x s = .ok a s') ∨ ∃ e, x s = .error e s'

theorem leaves_pure_iff {a : α} {s s' : σ} : Leaves (pure a : Py ε σ α) s s' ↔ s' = s := by
  constructor
  · rintro (⟨b, h⟩ | ⟨e, h⟩) <;> cases h
    rfl
  · rintro rfl
    exact .inl ⟨a, rfl⟩

theorem leaves_ofExcept_iff {y : Except ε α} {s s' : σ} :
    Leaves (Py.ofExcept y : Py ε σ α) s s' ↔ s' = s := by
  cases y with
  | ok a => exact leaves_pure_iff
  | error e =>
    constructor
    · rintro (⟨b, h⟩ | ⟨e', h⟩) <;> cases h
      rfl
    · rintro rfl
      exact .inr ⟨e, rfl⟩

/-- A sequence ends where its first part raises, or where the second ends. -/
theorem leaves_bind_iff {x : Py ε σ α} {f : α → Py ε σ β} {s s'' : σ} :
    Leaves (x >>= f) s s'' ↔
      (∃ e, x s = .error e s'') ∨ ∃ a s', x s = .ok a s' ∧ Leaves (f a) s' s'' := by
  unfold Leaves
  rw [bind_apply]
  cases x s <;> simp

/-- A handler touches no object. -/
theorem leaves_attempt_iff {body : Py ε σ α} {handler : ε → Except ε α} {s s' : σ} :
    Leaves (attempt body handler) s s' ↔ Leaves body s s' := by
  unfold Leaves attempt
  cases body s with
  | ok a t => rfl
  | error e t => cases h : handler e <;> simp [h]

/-- Whether it returns or raises, the call leaves `f` of the state as it is. -/
def Keeps {τ : Type} (f : σ → τ) (x : Py ε σ α) : Prop := ∀ s s', Leaves x s s' → f s' = f s

namespace Keeps

variable {τ : Type} {f : σ → τ} {x : Py ε σ α}

theorem pure (a : α) : Keeps f (Pure.pure a : Py ε σ α) := fun _ _ h =>
  congrArg f (leaves_pure_iff.1 h)

theorem ofExcept (y : Except ε α) : Keeps f (Py.ofExcept y : Py ε σ α) := fun _ _ h =>
  congrArg f (leaves_ofExcept_iff.1 h)

theorem throw (e : ε) : Keeps f (MonadExcept.throw e : Py ε σ α) := ofExcept (.error e)

theorem bind {g : α → Py ε σ β} (hx : Keeps f x) (hg : ∀ a, Keeps f (g a)) :
    Keeps f (x >>= g) := by
  intro s s'' h
  rcases leaves_bind_iff.1 h with ⟨e, he⟩ | ⟨a, s', ha, hrest⟩
  · exact hx s s'' (.inr ⟨e, he⟩)
  · rw [hg a s' s'' hrest, hx s s' (.inl ⟨a, ha⟩)]

theorem ite {c : Prop} [Decidable c] {y : Py ε σ α} (hx : c → Keeps f x) (hy : ¬c → Keeps f y) :
    Keeps f (if c then x else y) := by
  by_cases hc : c
  · rw [if_pos hc]
    exact hx hc
  · rw [if_neg hc]
    exact hy hc

theorem attempt {handler : ε → Except ε α} (hx : Keeps f x) :
    Keeps f (Python.attempt x handler) := fun s s' h => hx s s' (leaves_attempt_iff.1 h)

end Keeps

end Python
