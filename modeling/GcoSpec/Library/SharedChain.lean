import GcoSpec.Library.HashChain

/-!
# A hash chain with several writers

A log to which several writers append, each from a view of its own: a writer that opens the log
sees all of it, and from then on only what it appends itself. An entry follows the view of its
writer, not the log, so the log is a chain exactly if every entry was appended by a writer that saw
the whole log (`Views.chained_log_concat_iff`).

`UpToDate` says of a history of such events which writers see the whole log after it, and `InSync`
that no other writer has appended. What the views have to do with the history is `Views`, which both
kinds of events keep.
-/

namespace HashChain

variable {ι ρ η : Type*}

/-- What happens to the log. -/
inductive Event (ι ρ : Type*)
  | opened (i : ι)
  | appended (i : ι) (r : ρ)

namespace Event

/-- The entry that is appended, if one is. -/
def entry? : Event ι ρ → Option ρ
  | opened _ => none
  | appended _ r => some r

/-- Who sees the whole log after the event. -/
def next (current : ι → Prop) : Event ι ρ → ι → Prop
  | opened i => fun j => j = i ∨ current j
  | appended i _ => fun j => j = i ∧ current j

end Event

/-- All entries of a history, in order. -/
def log (history : List (Event ι ρ)) : List ρ := history.filterMap Event.entry?

/-- The writer sees the whole log: it opened it, or was the last to append while it saw it. -/
def UpToDate (history : List (Event ι ρ)) : ι → Prop := history.foldl Event.next fun _ => False

/-- Every entry was appended by a writer that saw the whole log. -/
def InSync (history : List (Event ι ρ)) : Prop :=
  ∀ before i r after, history = before ++ .appended i r :: after → UpToDate before i

section History

variable {history : List (Event ι ρ)} {i j : ι} {r : ρ}

theorem log_concat_opened : log (history ++ [.opened i]) = log history := by
  simp [log, Event.entry?]

theorem log_concat_appended : log (history ++ [.appended i r]) = log history ++ [r] := by
  simp [log, Event.entry?]

theorem upToDate_concat_opened :
    UpToDate (history ++ [.opened i]) j ↔ j = i ∨ UpToDate history j := by
  rw [UpToDate, List.foldl_append]
  rfl

theorem upToDate_concat_appended :
    UpToDate (history ++ [.appended i r]) j ↔ j = i ∧ UpToDate history j := by
  rw [UpToDate, List.foldl_append]
  rfl

theorem inSync_nil : InSync ([] : List (Event ι ρ)) := by
  intro before i r after h
  simp at h

/-- The last event of a history, in front of nothing. -/
theorem inSync_concat_iff {e : Event ι ρ} :
    InSync (history ++ [e]) ↔ InSync history ∧ ∀ i r, e = .appended i r → UpToDate history i := by
  constructor
  · intro h
    refine ⟨fun before i r after hhistory => ?_, fun i r he => h history i r [] (by rw [he])⟩
    exact h before i r (after ++ [e]) (by simp [hhistory])
  · rintro ⟨hhistory, hlast⟩ before i r after h
    rcases List.eq_nil_or_concat after with rfl | ⟨after, e', rfl⟩
    · obtain ⟨rfl, he⟩ := List.append_inj' h rfl
      exact hlast i r (List.cons.inj he).1
    · have h' : history ++ [e] = (before ++ .appended i r :: after) ++ [e'] := by simpa using h
      exact hhistory before i r after (List.append_inj' h' rfl).1

theorem inSync_concat_opened : InSync (history ++ [.opened i]) ↔ InSync history := by
  rw [inSync_concat_iff]
  simp

theorem inSync_concat_appended :
    InSync (history ++ [.appended i r]) ↔ InSync history ∧ UpToDate history i := by
  rw [inSync_concat_iff]
  simp

end History

/-! ### Entries that say the same -/

variable {L : Links ρ η} {genesis : η} {Same : ρ → ρ → Prop}

/-- Entries that are the `Same` have one place in a chain. -/
def Links.Respects (L : Links ρ η) (Same : ρ → ρ → Prop) : Prop :=
  ∀ {a b}, Same a b → L.position a = L.position b ∧ L.previous a = L.previous b ∧
    L.digest a = L.digest b ∧ (L.Intact a → L.Intact b)

theorem tip_of_forall₂ (hsame : L.Respects Same) {xs ys : List ρ} (h : List.Forall₂ Same xs ys)
    (d : η) : tip L d xs = tip L d ys := by
  induction h generalizing d with
  | nil => rfl
  | cons hab _ ih =>
    obtain ⟨-, -, hdigest, -⟩ := hsame hab
    rw [tip_cons, tip_cons, hdigest]
    exact ih _

/-- An entry that goes on with a view: the next position, the digest of its last entry. -/
structure Links.Follows (L : Links ρ η) (genesis : η) (view : List ρ) (r : ρ) : Prop where
  position : L.position r = view.length
  previous : L.previous r = tip L genesis view
  intact : L.Intact r

/-! ### Views -/

/-- What the views of the writers have to do with the history: none is longer than the log, and the
writers that are up to date see what the log says. -/
structure Views (Same : ρ → ρ → Prop) (history : List (Event ι ρ)) (view : ι → Option (List ρ)) :
    Prop where
  length_le : ∀ i v, view i = some v → v.length ≤ (log history).length
  stale : ∀ i v, view i = some v → ¬UpToDate history i → v.length < (log history).length
  current : ∀ i v, view i = some v → UpToDate history i → List.Forall₂ Same v (log history)

namespace Views

variable {history : List (Event ι ρ)} {view : ι → Option (List ρ)} {i : ι} {v : List ρ}

theorem nil : Views Same ([] : List (Event ι ρ)) fun _ => none where
  length_le := by simp
  stale := by simp
  current := by simp

variable [DecidableEq ι]

/-- A writer that opens the log sees all of it. -/
theorem opened (h : Views Same history view) (hv : List.Forall₂ Same v (log history)) (i : ι) :
    Views Same (history ++ [.opened i]) (Function.update view i (some v)) where
  length_le j u hu := by
    rw [log_concat_opened]
    by_cases hj : j = i
    · subst hj
      rw [Function.update_self, Option.some.injEq] at hu
      exact Nat.le_of_eq (hu ▸ hv.length_eq)
    · rw [Function.update_of_ne hj] at hu
      exact h.length_le j u hu
  stale j u hu hstale := by
    rw [upToDate_concat_opened, not_or] at hstale
    rw [Function.update_of_ne hstale.1] at hu
    rw [log_concat_opened]
    exact h.stale j u hu hstale.2
  current j u hu hcurrent := by
    rw [log_concat_opened]
    by_cases hj : j = i
    · subst hj
      rw [Function.update_self, Option.some.injEq] at hu
      exact hu ▸ hv
    · rw [upToDate_concat_opened, or_iff_right hj] at hcurrent
      rw [Function.update_of_ne hj] at hu
      exact h.current j u hu hcurrent

/-- A writer that appends sees what it saw, and its entry; the others miss it. -/
theorem appended (h : Views Same history view) (hv : view i = some v) {r : ρ} (hr : Same r r) :
    Views Same (history ++ [.appended i r]) (Function.update view i (some (v ++ [r]))) where
  length_le j u hu := by
    rw [log_concat_appended, List.length_append, List.length_singleton]
    by_cases hj : j = i
    · subst hj
      rw [Function.update_self, Option.some.injEq] at hu
      rw [← hu, List.length_append, List.length_singleton]
      exact Nat.succ_le_succ (h.length_le j v hv)
    · rw [Function.update_of_ne hj] at hu
      exact Nat.le_succ_of_le (h.length_le j u hu)
  stale j u hu hstale := by
    rw [log_concat_appended, List.length_append, List.length_singleton]
    rw [upToDate_concat_appended, not_and] at hstale
    by_cases hj : j = i
    · subst hj
      rw [Function.update_self, Option.some.injEq] at hu
      rw [← hu, List.length_append, List.length_singleton]
      exact Nat.succ_lt_succ (h.stale j v hv (hstale rfl))
    · rw [Function.update_of_ne hj] at hu
      exact Nat.lt_succ_of_le (h.length_le j u hu)
  current j u hu hcurrent := by
    obtain ⟨rfl, hbefore⟩ := upToDate_concat_appended.1 hcurrent
    rw [Function.update_self, Option.some.injEq] at hu
    rw [log_concat_appended, ← hu]
    exact List.rel_append (h.current j v hv hbefore) (.cons hr .nil)

omit [DecidableEq ι] in
/-- What follows the view of a writer goes on with the chain exactly if the writer is up to date. -/
theorem chained_log_concat_iff (hsame : L.Respects Same) (h : Views Same history view)
    (hv : view i = some v) {r : ρ} (hr : L.Follows genesis v r) :
    Chained L 0 genesis (log history ++ [r]) ↔
      Chained L 0 genesis (log history) ∧ UpToDate history i := by
  rw [chained_concat]
  refine and_congr_right fun _ => ?_
  constructor
  · rintro ⟨hposition, -, -⟩
    by_contra hstale
    have hlt := h.stale i v hv hstale
    have hlength := hr.position
    omega
  · intro hcurrent
    have hforall := h.current i v hv hcurrent
    refine ⟨?_, ?_, hr.intact⟩
    · rw [hr.position, hforall.length_eq, Nat.zero_add]
    · rw [hr.previous, tip_of_forall₂ hsame hforall]

end Views

end HashChain
