import Mathlib.Data.List.Nodup
import Mathlib.Data.List.ReduceOption
import Mathlib.Data.List.Range

/-!
# Names given or generated

Entries of a list are filed under names. An entry has the name that was given to it, or else one
that is generated from its position.

* The names are the given ones and those generated for the positions without one, in another order
  (`names_perm`).
* When different positions generate different names, no two entries have the same name exactly when
  the given names differ from each other and from the generated names in use (`nodup_names_iff`).
-/

namespace Naming

variable {α : Type*} {generate : ℕ → α} {given : List (Option α)}

/-- The names of entries that stand from position `n` on. -/
def namesFrom (generate : ℕ → α) (n : ℕ) (given : List (Option α)) : List α :=
  (given.zipIdx n).map fun x => x.1.getD (generate x.2)

/-- The names of the entries of a list. -/
def names (generate : ℕ → α) (given : List (Option α)) : List α := namesFrom generate 0 given

/-- The positions without a given name, of entries that stand from position `n` on. -/
def unnamedFrom (n : ℕ) (given : List (Option α)) : List ℕ :=
  ((given.zipIdx n).filter fun x => x.1.isNone).map Prod.snd

theorem nodup_unnamedFrom (n : ℕ) (given : List (Option α)) : (unnamedFrom n given).Nodup := by
  have hpositions : ((given.zipIdx n).map Prod.snd).Nodup := by
    rw [List.zipIdx_map_snd]
    exact List.nodup_range'
  exact hpositions.sublist (List.filter_sublist.map Prod.snd)

theorem mem_unnamedFrom_zero_iff {i : ℕ} : i ∈ unnamedFrom 0 given ↔ given[i]? = some none := by
  unfold unnamedFrom
  rw [List.mem_map]
  constructor
  · rintro ⟨⟨name, j⟩, hmem, rfl⟩
    obtain ⟨hentry, hnone⟩ := List.mem_filter.1 hmem
    rw [Option.isNone_iff_eq_none] at hnone
    dsimp only at hnone
    subst hnone
    exact List.mem_zipIdx_iff_getElem?.1 hentry
  · intro h
    exact ⟨(none, i), List.mem_filter.2 ⟨List.mem_zipIdx_iff_getElem?.2 h, rfl⟩, rfl⟩

/-- The given names in order, followed by the generated ones. -/
theorem namesFrom_perm (n : ℕ) (given : List (Option α)) :
    (namesFrom generate n given).Perm
      (given.reduceOption ++ (unnamedFrom n given).map generate) := by
  induction given generalizing n with
  | nil => exact .nil
  | cons entry given ih =>
    cases entry with
    | some name => exact (ih (n + 1)).cons name
    | none =>
      -- the generated name moves behind the given ones
      exact ((ih (n + 1)).cons (generate n)).trans List.perm_middle.symm

theorem names_perm (given : List (Option α)) :
    (names generate given).Perm (given.reduceOption ++ (unnamedFrom 0 given).map generate) :=
  namesFrom_perm 0 given

/-- The names of entries clash where two given names do, or where a given name is the one generated
for another entry. -/
theorem nodup_names_iff (hgenerate : Function.Injective generate) :
    (names generate given).Nodup ↔ given.reduceOption.Nodup ∧
      ∀ i, given[i]? = some none → generate i ∉ given.reduceOption := by
  have hgenerated : ((unnamedFrom 0 given).map generate).Nodup :=
    (nodup_unnamedFrom 0 given).map hgenerate
  rw [(names_perm given).nodup_iff, List.nodup_append]
  constructor
  · rintro ⟨hgiven, -, hapart⟩
    refine ⟨hgiven, ?_⟩
    intro i hi hmem
    have hused := List.mem_map_of_mem (f := generate) (mem_unnamedFrom_zero_iff.2 hi)
    exact hapart _ hmem _ hused rfl
  · rintro ⟨hgiven, hapart⟩
    refine ⟨hgiven, hgenerated, ?_⟩
    rintro name hmem _ hused rfl
    obtain ⟨i, hi, rfl⟩ := List.mem_map.1 hused
    exact hapart i (mem_unnamedFrom_zero_iff.1 hi) hmem

end Naming
