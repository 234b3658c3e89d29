import Mathlib.Data.List.Forall2
import Mathlib.Logic.Relation

/-!
# Runs

A system that takes step after step.

* Of a step relation `R`, a run is a `Relation.ReflTransGen R`: what holds at the start and is
  preserved by a step holds at the end (`invariant`).
* Of steps with labels, a run is a `Run`, which lists the labels in order. When a state stands for
  a history to which every step adds, the state after a run stands for what all its steps added
  (`Run.records`). When two systems in related states take related steps, so do two of their runs
  (`Run.lockstep`).
-/

namespace Runs

variable {σ ι β : Type*}

/-- An invariant of the steps is an invariant of the runs. -/
theorem invariant {R : σ → σ → Prop} {I : σ → Prop} (hstep : ∀ {s s'}, I s → R s s' → I s')
    {s s' : σ} (hinit : I s) (hrun : Relation.ReflTransGen R s s') : I s' := by
  induction hrun with
  | refl => exact hinit
  | tail _ h ih => exact hstep ih h

/-! ### Labelled runs -/

/-- Steps in sequence, with their labels. -/
inductive Run (step : σ → ι → σ → Prop) : σ → List ι → σ → Prop
  | nil (s : σ) : Run step s [] s
  | cons {s s' s'' : σ} {i : ι} {is : List ι} (first : step s i s') (rest : Run step s' is s'') :
    Run step s (i :: is) s''

variable {step : σ → ι → σ → Prop}

/-- A run passes through a state between any two parts of it. -/
theorem Run.split {s s'' : σ} {is js : List ι} (hrun : Run step s (is ++ js) s'') :
    ∃ s', Run step s is s' ∧ Run step s' js s'' := by
  induction is generalizing s with
  | nil => exact ⟨s, .nil s, hrun⟩
  | cons i is ih =>
    cases hrun with
    | cons first rest =>
      obtain ⟨s', his, hjs⟩ := ih rest
      exact ⟨s', .cons first his, hjs⟩

/-- After a run the state stands for the history with what the steps of the run added. -/
theorem Run.records {R : List β → σ → Prop} {adds : ι → List β}
    (hstep : ∀ {history s i s'}, R history s → step s i s' → R (history ++ adds i) s')
    {history : List β} {s s' : σ} {is : List ι} (hinit : R history s)
    (hrun : Run step s is s') : R (history ++ is.flatMap adds) s' := by
  induction hrun generalizing history with
  | nil s =>
    rw [List.flatMap_nil, List.append_nil]
    exact hinit
  | cons first rest ih =>
    rw [List.flatMap_cons, ← List.append_assoc]
    exact ih (hstep hinit first)

/-- Two runs whose steps correspond keep what every pair of steps keeps, and their labels have what
every pair of steps yields. -/
theorem Run.lockstep {τ κ : Type*} {step' : τ → κ → τ → Prop} {R : σ → τ → Prop}
    {C Q : ι → κ → Prop}
    (hstep : ∀ {s t i j s' t'}, R s t → C i j → step s i s' → step' t j t' → Q i j ∧ R s' t')
    {s s' : σ} {t t' : τ} {is : List ι} {js : List κ} (hinit : R s t)
    (hlabels : List.Forall₂ C is js) (hrun : Run step s is s') (hrun' : Run step' t js t') :
    List.Forall₂ Q is js ∧ R s' t' := by
  induction hlabels generalizing s t with
  | nil =>
    cases hrun
    cases hrun'
    exact ⟨.nil, hinit⟩
  | cons hlabel _ ih =>
    cases hrun with
    | cons first rest =>
      cases hrun' with
      | cons first' rest' =>
        obtain ⟨hyield, hnext⟩ := hstep hinit hlabel first first'
        obtain ⟨hyields, hlast⟩ := ih hnext rest rest'
        exact ⟨.cons hyield hyields, hlast⟩

end Runs
