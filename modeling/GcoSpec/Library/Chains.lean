import Mathlib.Data.List.Chain
import Mathlib.Tactic.Common

/-!
# Chains of steps

What a property of one step says about the two ends of a chain of steps `a, l₁, …, lₙ`.

* A relation graded by the number of steps, with `T 1` for each step, holds between the ends
  (`Graded.isChain`).
* When each step appends one item to a record, the last record is the first one followed by the
  items of all steps in order (`accumulates`), and so is each record in between
  (`accumulates_getElem`).
-/

namespace Chains

variable {α β : Type*} {R : α → α → Prop}

/-- What holds of one step and is kept by a step in front holds of every chain. -/
theorem induction_isChain {P : α → List α → Prop} (single : ∀ {a b}, R a b → P a [b])
    (cons : ∀ {a b l}, l ≠ [] → R a b → P b l → P a (b :: l)) {a : α} {l : List α} (hl : l ≠ [])
    (h : (a :: l).IsChain R) : P a l := by
  induction l generalizing a with
  | nil => exact absurd rfl hl
  | cons b l ih =>
    obtain ⟨hab, hbl⟩ := List.isChain_cons_cons.1 h
    rcases eq_or_ne l [] with rfl | hne
    · exact single hab
    · exact cons hne hab (ih hne hbl)

/-- `T` relates the ends of every step of `R` in grade 1, and composes. -/
structure Graded (R : α → α → Prop) (T : ℕ → α → α → Prop) : Prop where
  step : ∀ {a b}, R a b → T 1 a b
  trans : ∀ {m n a b c}, T m a b → T n b c → T (m + n) a c

/-- Along a chain of `n` steps the grades add up to `n`. -/
theorem Graded.isChain {T : ℕ → α → α → Prop} (hT : Graded R T) {a : α} {l : List α}
    (hl : l ≠ []) (h : (a :: l).IsChain R) : T l.length a (l.getLast hl) := by
  refine induction_isChain (P := fun a l => ∀ hl : l ≠ [], T l.length a (l.getLast hl))
    ?_ ?_ hl h hl
  · intro a b hab _
    exact hT.step hab
  · intro a b l hne hab ih _
    rw [List.getLast_cons hne, List.length_cons, Nat.add_comm]
    exact hT.trans (hT.step hab) (ih hne)

/-- A record to which every step appends an item lists the items of all steps. -/
theorem accumulates {record : α → List β} {item : α → β}
    (hstep : ∀ {a b}, R a b → record b = record a ++ [item a]) {a : α} {l : List α} (hl : l ≠ [])
    (h : (a :: l).IsChain R) :
    record (l.getLast hl) = record a ++ (a :: l).dropLast.map item := by
  refine induction_isChain (P := fun a l => ∀ hl : l ≠ [],
    record (l.getLast hl) = record a ++ (a :: l).dropLast.map item) ?_ ?_ hl h hl
  · intro a b hab _
    exact hstep hab
  · intro a b l hne hab ih _
    rw [List.getLast_cons hne, ih hne, hstep hab, List.append_assoc]
    cases l with
    | nil => exact absurd rfl hne
    | cons c l => rfl

theorem accumulates_getElem {record : α → List β} {item : α → β}
    (hstep : ∀ {a b}, R a b → record b = record a ++ [item a]) {a : α} {l : List α}
    (h : (a :: l).IsChain R) (i : ℕ) (hi : i < (a :: l).length) :
    record (a :: l)[i] = record a ++ ((a :: l).take i).map item := by
  induction i generalizing a l with
  | zero => simp
  | succ i ih =>
    cases l with
    | nil => simp at hi
    | cons b l =>
      obtain ⟨hab, hbl⟩ := List.isChain_cons_cons.1 h
      have hi' : i < (b :: l).length := Nat.lt_of_succ_lt_succ hi
      show record (b :: l)[i] = record a ++ (a :: (b :: l).take i).map item
      rw [ih hbl hi', hstep hab, List.append_assoc]
      rfl

/-- A property of the end of every step holds at the end of a chain. -/
theorem getLast_of_step {P : α → Prop} (hstep : ∀ {a b}, R a b → P b) {a : α} {l : List α}
    (hl : l ≠ []) (h : (a :: l).IsChain R) : P (l.getLast hl) := by
  refine induction_isChain (P := fun _ l => ∀ hl : l ≠ [], P (l.getLast hl)) ?_ ?_ hl h hl
  · intro a b hab _
    exact hstep hab
  · intro a b l hne _ ih _
    rw [List.getLast_cons hne]
    exact ih hne

/-- A property of the start of every step holds of all but the end of a chain. -/
theorem dropLast_of_step {P : α → Prop} (hstep : ∀ {a b}, R a b → P a) {a : α} {l : List α}
    (h : (a :: l).IsChain R) : ∀ x ∈ (a :: l).dropLast, P x := by
  induction l generalizing a with
  | nil => simp
  | cons b l ih =>
    obtain ⟨hab, hbl⟩ := List.isChain_cons_cons.1 h
    rw [List.dropLast_cons_cons, List.forall_mem_cons]
    exact ⟨hstep hab, ih hbl⟩

end Chains
