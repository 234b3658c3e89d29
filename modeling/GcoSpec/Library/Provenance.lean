import Mathlib.Data.List.Chain
import Mathlib.Tactic.Common

/-!
# Provenance

A log to which entries are only added at the end is *grounded* when each entry was derived from an
origin or from an entry before it. Then every entry has a history inside the log: a chain of
derivations from an origin to the entry, whose members stand in the log in this order
(`Grounded.exists_chain`).
-/

namespace Provenance

variable {α : Type*} {origin : α → Prop} {R : α → α → Prop} {log : List α} {a b : α}

/-- Every entry of the log was derived by `R` from an origin, or from an entry before it. -/
inductive Grounded (origin : α → Prop) (R : α → α → Prop) : List α → Prop
  | nil : Grounded origin R []
  | concat {log : List α} {a b : α} (earlier : Grounded origin R log)
    (source : origin a ∨ a ∈ log) (derived : R a b) : Grounded origin R (log ++ [b])

/-- `b` comes from the origin `o` by the derivations of `l`, which the log lists in order. -/
structure Comes (origin : α → Prop) (R : α → α → Prop) (log : List α) (o : α) (l : List α)
    (b : α) : Prop where
  origin : origin o
  chain : (o :: l).IsChain R
  last : (o :: l).getLast (List.cons_ne_nil o l) = b
  logged : l.Sublist log

namespace Comes

variable {o : α} {l : List α}

/-- An origin comes from itself. -/
theorem refl (ho : origin o) (log : List α) : Comes origin R log o [] o :=
  ⟨ho, List.isChain_singleton o, rfl, List.nil_sublist log⟩

/-- What is derived from an object that has a history has one too. -/
theorem concat (h : Comes origin R log o l a) (hab : R a b) :
    Comes origin R (log ++ [b]) o (l ++ [b]) b where
  origin := h.origin
  chain := by
    rw [← List.cons_append, List.isChain_append]
    refine ⟨h.chain, List.isChain_singleton b, ?_⟩
    intro x hx y hy
    rw [List.getLast?_eq_some_getLast (List.cons_ne_nil o l), h.last, Option.mem_some] at hx
    rw [List.head?_cons, Option.mem_some] at hy
    subst hx hy
    exact hab
  last := by
    rw [List.getLast_cons (by simp)]
    exact List.getLast_append_singleton l
  logged := List.Sublist.append h.logged (List.Sublist.refl [b])

theorem mono {log' : List α} (h : Comes origin R log o l b) (hlog : log.Sublist log') :
    Comes origin R log' o l b := ⟨h.origin, h.chain, h.last, h.logged.trans hlog⟩

end Comes

/-- Every entry of a grounded log has a history in it. -/
theorem Grounded.exists_chain (h : Grounded origin R log) (hb : b ∈ log) :
    ∃ o l, Comes origin R log o l b := by
  induction h generalizing b with
  | nil => exact absurd hb List.not_mem_nil
  | @concat log a c earlier source derived ih =>
    have hlog : log.Sublist (log ++ [c]) := List.sublist_append_left log [c]
    rcases List.mem_append.1 hb with hb | hb
    · obtain ⟨o, l, hcomes⟩ := ih hb
      exact ⟨o, l, hcomes.mono hlog⟩
    · obtain rfl := List.mem_singleton.1 hb
      rcases source with ho | ha
      · exact ⟨a, [b], (Comes.refl ho log).concat derived⟩
      · obtain ⟨o, l, hcomes⟩ := ih ha
        exact ⟨o, l ++ [b], hcomes.concat derived⟩

end Provenance
