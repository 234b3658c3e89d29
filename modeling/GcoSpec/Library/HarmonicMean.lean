import Mathlib.Algebra.BigOperators.Group.List.Basic
import Mathlib.Algebra.Order.BigOperators.Group.List
import Mathlib.Algebra.Order.Field.Basic
import Mathlib.Tactic.FieldSimp

/-!
# The harmonic mean

Of positive values in an ordered field. It lies between any bounds of the values (`le_mean`,
`mean_le`), and is as great as an upper bound only when every value is (`mean_eq_iff`).
-/

namespace HarmonicMean

variable {K : Type*} [Field K] [LinearOrder K] [IsStrictOrderedRing K] {values : List K} {m : K}

/-- The number of values over the sum of their reciprocals. -/
def mean (values : List K) : K := values.length / (values.map fun v => 1 / v).sum

omit [LinearOrder K] [IsStrictOrderedRing K] in
theorem sum_const (values : List K) (c : K) :
    (values.map fun _ => c).sum = values.length * c := by
  rw [List.map_const', List.sum_replicate, nsmul_eq_mul]

theorem length_pos (hne : values ≠ []) : (0 : K) < values.length :=
  Nat.cast_pos.2 (List.length_pos_iff.2 hne)

/-- Values that are at most `m` have reciprocals that are at least its own. -/
theorem le_sum (hpos : ∀ v ∈ values, 0 < v) (h : ∀ v ∈ values, v ≤ m) :
    values.length * (1 / m) ≤ (values.map fun v => 1 / v).sum := by
  rw [← sum_const values (1 / m)]
  exact List.sum_le_sum fun v hv => one_div_le_one_div_of_le (hpos v hv) (h v hv)

theorem sum_le (hm : 0 < m) (h : ∀ v ∈ values, m ≤ v) :
    (values.map fun v => 1 / v).sum ≤ values.length * (1 / m) := by
  rw [← sum_const values (1 / m)]
  exact List.sum_le_sum fun v hv => one_div_le_one_div_of_le hm (h v hv)

theorem sum_pos (hne : values ≠ []) (hpos : ∀ v ∈ values, 0 < v) :
    0 < (values.map fun v => 1 / v).sum := by
  refine List.sum_pos _ ?_ (by simpa using hne)
  intro x hx
  obtain ⟨v, hv, rfl⟩ := List.mem_map.1 hx
  exact one_div_pos.2 (hpos v hv)

/-- The mean is at least a lower bound of the values. -/
theorem le_mean (hne : values ≠ []) (hm : 0 < m) (h : ∀ v ∈ values, m ≤ v) : m ≤ mean values := by
  have hsum := sum_pos hne fun v hv => hm.trans_le (h v hv)
  rw [mean, le_div_iff₀ hsum]
  calc m * (values.map fun v => 1 / v).sum
      ≤ m * (values.length * (1 / m)) := mul_le_mul_of_nonneg_left (sum_le hm h) hm.le
    _ = values.length := by field_simp

/-- And at most an upper bound. -/
theorem mean_le (hne : values ≠ []) (hpos : ∀ v ∈ values, 0 < v) (h : ∀ v ∈ values, v ≤ m) :
    mean values ≤ m := by
  obtain ⟨v, hv⟩ := List.exists_mem_of_ne_nil values hne
  have hm : 0 < m := (hpos v hv).trans_le (h v hv)
  rw [mean, div_le_iff₀ (sum_pos hne hpos)]
  calc (values.length : K) = m * (values.length * (1 / m)) := by field_simp
    _ ≤ m * (values.map fun v => 1 / v).sum := mul_le_mul_of_nonneg_left (le_sum hpos h) hm.le

/-- It reaches an upper bound only when every value does. -/
theorem mean_eq_iff (hne : values ≠ []) (hpos : ∀ v ∈ values, 0 < v) (h : ∀ v ∈ values, v ≤ m) :
    mean values = m ↔ ∀ v ∈ values, v = m := by
  have hsum := sum_pos hne hpos
  constructor
  · intro hmean v hv
    by_contra hv'
    have hlt : v < m := lt_of_le_of_ne (h v hv) hv'
    have hm : 0 < m := (hpos v hv).trans hlt
    -- one reciprocal is greater than that of the bound, and none is less
    have hstrict : (values.map fun _ => 1 / m).sum < (values.map fun v => 1 / v).sum := by
      refine List.sum_lt_sum _ _ ?_ ⟨v, hv, one_div_lt_one_div_of_lt (hpos v hv) hlt⟩
      intro w hw
      exact one_div_le_one_div_of_le (hpos w hw) (h w hw)
    rw [sum_const] at hstrict
    have hless : mean values < m := by
      rw [mean, div_lt_iff₀ hsum]
      calc (values.length : K) = m * (values.length * (1 / m)) := by field_simp
        _ < m * (values.map fun v => 1 / v).sum := mul_lt_mul_of_pos_left hstrict hm
    exact absurd hmean hless.ne
  · intro hall
    obtain ⟨v, hv⟩ := List.exists_mem_of_ne_nil values hne
    have hm : 0 < m := hall v hv ▸ hpos v hv
    exact le_antisymm (mean_le hne hpos h) (le_mean hne hm fun v hv => (hall v hv).ge)

end HarmonicMean
