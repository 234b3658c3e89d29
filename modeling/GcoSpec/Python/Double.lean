import GcoSpec.Python.Value
import Mathlib.Data.Int.Log
import Mathlib.Tactic.Linarith

/-!
# Doubles

A finite `float` is a rational. `toDouble` is the rounding of what an operation on floats returns,
and `truncate` is `int`.
-/

namespace Python

/-- The double nearest to `q`, or the even one of two, with 52 binary digits after the first. The
exponent is taken to be that of a normal double. -/
def toDouble (q : ℚ) : ℚ :=
  let ulp := (2 : ℚ) ^ (Int.log 2 |q| - 52)
  roundHalfEven (q / ulp) * ulp

/-- `int(x)` of a finite `float`. -/
def truncate (x : ℚ) : ℤ := if 0 ≤ x then ⌊x⌋ else ⌈x⌉

theorem floor_le_roundHalfEven (q : ℚ) : ⌊q⌋ ≤ roundHalfEven q := by
  unfold roundHalfEven
  dsimp only
  split_ifs <;> omega

theorem roundHalfEven_le_ceil (q : ℚ) : roundHalfEven q ≤ ⌈q⌉ := by
  have hceil := Int.floor_le_ceil q
  have hsucc : 1 / 2 ≤ q - ⌊q⌋ → ⌊q⌋ + 1 ≤ ⌈q⌉ := by
    intro h
    rw [Int.add_one_le_iff, Int.lt_ceil]
    linarith
  unfold roundHalfEven
  dsimp only
  split_ifs with hlow
  · exact hceil
  · exact hsucc (not_lt.1 hlow)
  · exact hceil
  · exact hsucc (not_lt.1 hlow)

/-- From the middle below an even number on, rounding reaches it. -/
theorem le_roundHalfEven_iff {n : ℤ} (hn : n % 2 = 0) (q : ℚ) :
    n ≤ roundHalfEven q ↔ n - 1 / 2 ≤ q := by
  have hfloor := Int.floor_le q
  have hlt := Int.lt_floor_add_one q
  by_cases hbelow : ⌊q⌋ + 1 = n
  · -- the number is the one above
    have hcast : (⌊q⌋ : ℚ) = n - 1 := by
      rw [← hbelow]
      push_cast
      ring
    unfold roundHalfEven
    dsimp only
    rw [hcast]
    split_ifs with hlow hhigh heven
    · refine iff_of_false (by omega) (by linarith)
    · refine iff_of_true (by omega) (by linarith)
    · omega
    · refine iff_of_true (by omega) (by linarith)
  · by_cases hle : n ≤ ⌊q⌋
    · have hcast : (n : ℚ) ≤ ⌊q⌋ := by exact_mod_cast hle
      exact iff_of_true (hle.trans (floor_le_roundHalfEven q)) (by linarith)
    · have hcast : (⌊q⌋ : ℚ) + 1 ≤ n - 1 := by
        have h : ⌊q⌋ + 1 ≤ n - 1 := by omega
        exact_mod_cast h
      refine iff_of_false ?_ (by linarith)
      have hround := roundHalfEven_le_ceil q
      have hceil := Int.ceil_le_floor_add_one q
      omega

/-- With `k` binary digits for the fraction. -/
theorem toDouble_eq {q : ℚ} {k : ℕ} (hk : Int.log 2 |q| = 52 - k) :
    toDouble q = roundHalfEven (q * 2 ^ k) / 2 ^ k := by
  have hulp : (2 : ℚ) ^ (Int.log 2 |q| - 52) = (2 ^ k)⁻¹ := by
    rw [hk, sub_sub_cancel_left, zpow_neg, zpow_natCast]
  unfold toDouble
  dsimp only
  rw [hulp, div_inv_eq_mul, div_eq_mul_inv]

/-- Below `2 ^ 53` there are such digits. -/
theorem exists_log_eq {q : ℚ} (hq : |q| < 2 ^ 53) : ∃ k : ℕ, Int.log 2 |q| = 52 - k := by
  have hlog : Int.log 2 |q| < 53 := by
    by_cases hzero : |q| = 0
    · rw [hzero, Int.log_zero_right]
      decide
    · have hpos : 0 < |q| := lt_of_le_of_ne (abs_nonneg q) (Ne.symm hzero)
      refine (Int.lt_zpow_iff_log_lt (by decide) hpos).1 ?_
      exact_mod_cast hq
  exact ⟨(52 - Int.log 2 |q|).toNat, by omega⟩

/-- Rounding does not cross an integer. -/
theorem le_toDouble {n : ℤ} {q : ℚ} (hq : |q| < 2 ^ 53) (h : n ≤ q) : n ≤ toDouble q := by
  obtain ⟨k, hk⟩ := exists_log_eq hq
  have hfloor : n * 2 ^ k ≤ ⌊q * 2 ^ k⌋ := by
    rw [Int.le_floor]
    push_cast
    gcongr
  have hround : ((n * 2 ^ k : ℤ) : ℚ) ≤ roundHalfEven (q * 2 ^ k) := by
    exact_mod_cast hfloor.trans (floor_le_roundHalfEven _)
  rw [toDouble_eq hk, le_div_iff₀ (by positivity)]
  exact_mod_cast hround

theorem toDouble_le {n : ℤ} {q : ℚ} (hq : |q| < 2 ^ 53) (h : q ≤ n) : toDouble q ≤ n := by
  obtain ⟨k, hk⟩ := exists_log_eq hq
  have hceil : ⌈q * 2 ^ k⌉ ≤ n * 2 ^ k := by
    rw [Int.ceil_le]
    push_cast
    gcongr
  have hround : (roundHalfEven (q * 2 ^ k) : ℚ) ≤ ((n * 2 ^ k : ℤ) : ℚ) := by
    exact_mod_cast (roundHalfEven_le_ceil _).trans hceil
  rw [toDouble_eq hk, div_le_iff₀ (by positivity)]
  exact_mod_cast hround

theorem le_truncate {n : ℤ} {x : ℚ} (h : n ≤ x) : n ≤ truncate x := by
  unfold truncate
  split_ifs
  · exact Int.le_floor.2 h
  · exact Int.cast_le.1 (h.trans (Int.le_ceil x))

theorem truncate_le_iff {n : ℤ} (hn : 0 ≤ n) {x : ℚ} : truncate x ≤ n ↔ x < n + 1 := by
  unfold truncate
  split_ifs with hx
  · rw [← Int.lt_add_one_iff, Int.floor_lt]
    push_cast
    rfl
  · have hcast : (0 : ℚ) ≤ n := by exact_mod_cast hn
    refine iff_of_true ?_ (by linarith)
    rw [Int.ceil_le]
    linarith

end Python
