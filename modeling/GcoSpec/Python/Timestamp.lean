import GcoSpec.Python.DateTime

/-!
# Timestamps

`t.timestamp()` divides microseconds by a million and rounds to the nearest double; `int` then drops
the fraction. At the end of the calendar a double has 15 binary digits for the fraction of a second,
so that the last 15 microseconds round up to the year 10000, which no `datetime` is in.

* `DateTime.ediv_le_unixSeconds`: otherwise nothing is lost but the fraction;
* `DateTime.fromTimestamp_unixSeconds`: which datetimes come back as one.
-/

namespace Python

namespace DateTime

/-- `t.timestamp()`. -/
def timestamp (t : DateTime) : ℚ := toDouble (t.micros / 1000000)

/-- `int(t.timestamp())`. -/
def unixSeconds (t : DateTime) : ℤ := truncate t.timestamp

/-- `9999-12-31T23:59:59.999985Z`: from here on the timestamp is that of the year 10000. -/
def roundsUpFrom : ℤ := 253402300799999985

variable (t : DateTime)

theorem abs_seconds_lt : |(t.micros / 1000000 : ℚ)| < 2 ^ 38 := by
  have hlower := t.lower
  have hupper := t.upper
  unfold minMicros at hlower
  unfold maxMicros at hupper
  have hlower' : (-62135596800000000 : ℚ) ≤ t.micros := by exact_mod_cast hlower
  have hupper' : (t.micros : ℚ) ≤ 253402300799999999 := by exact_mod_cast hupper
  rw [abs_lt]
  constructor
  · rw [lt_div_iff₀ (by norm_num)]
    linarith
  · rw [div_lt_iff₀ (by norm_num)]
    linarith

/-- The seconds are not fewer than the whole ones. -/
theorem ediv_le_unixSeconds : t.micros / 1000000 ≤ t.unixSeconds := by
  have hlt : |(t.micros / 1000000 : ℚ)| < 2 ^ 53 := t.abs_seconds_lt.trans (by norm_num)
  refine le_truncate (le_toDouble hlt ?_)
  rw [le_div_iff₀ (by norm_num)]
  have h : t.micros / 1000000 * 1000000 ≤ t.micros := by omega
  exact_mod_cast h

theorem abs_unixSeconds_le : |t.unixSeconds| ≤ 2 ^ 38 := by
  have hlt : |(t.micros / 1000000 : ℚ)| < 2 ^ 53 := t.abs_seconds_lt.trans (by norm_num)
  obtain ⟨hlower, hupper⟩ := abs_lt.1 t.abs_seconds_lt
  have hge : ((-2 ^ 38 : ℤ) : ℚ) ≤ t.timestamp := le_toDouble hlt (by push_cast; exact hlower.le)
  have hle : t.timestamp ≤ ((2 ^ 38 : ℤ) : ℚ) := toDouble_le hlt (by push_cast; exact hupper.le)
  exact abs_le.2 ⟨le_truncate hge, (truncate_le_iff (by norm_num)).2 (by linarith)⟩

/-- In the last binade of the calendar a double has 15 digits for the fraction. -/
theorem log_seconds_of_le (h : (2 : ℚ) ^ 37 ≤ t.micros / 1000000) :
    Int.log 2 |(t.micros / 1000000 : ℚ)| = 52 - (15 : ℕ) := by
  have hpos : 0 < |(t.micros / 1000000 : ℚ)| := by
    rw [abs_pos]
    linarith
  have hge : 37 ≤ Int.log 2 |(t.micros / 1000000 : ℚ)| := by
    refine (Int.zpow_le_iff_le_log (by decide) hpos).1 ?_
    exact le_trans (by exact_mod_cast h) (le_abs_self _)
  have hlt : Int.log 2 |(t.micros / 1000000 : ℚ)| < 38 := by
    refine (Int.lt_zpow_iff_log_lt (by decide) hpos).1 ?_
    exact_mod_cast t.abs_seconds_lt
  omega

/-- The timestamp is in the year 10000 exactly for the last microseconds of the year 9999. -/
theorem unixSeconds_le_iff : t.unixSeconds ≤ 253402300799 ↔ t.micros < roundsUpFrom := by
  have hlt : |(t.micros / 1000000 : ℚ)| < 2 ^ 53 := t.abs_seconds_lt.trans (by norm_num)
  rw [unixSeconds, truncate_le_iff (by norm_num), roundsUpFrom]
  by_cases hbinade : (2 : ℚ) ^ 37 ≤ t.micros / 1000000
  · have hround := le_roundHalfEven_iff (n := 253402300800 * 2 ^ 15) (by norm_num)
      (t.micros / 1000000 * 2 ^ 15 : ℚ)
    have hmiddle : ((253402300800 * 2 ^ 15 : ℤ) - 1 / 2 : ℚ) ≤ t.micros / 1000000 * 2 ^ 15 ↔
        253402300799999985 ≤ t.micros := by
      constructor
      · intro h
        have h' : (253402300799999984 : ℚ) < t.micros := by
          push_cast at h
          linarith
        exact_mod_cast h'
      · intro h
        have h' : (253402300799999985 : ℚ) ≤ t.micros := by exact_mod_cast h
        push_cast
        linarith
    rw [hmiddle] at hround
    rw [timestamp, toDouble_eq (t.log_seconds_of_le hbinade), div_lt_iff₀ (by positivity),
      ← not_le, ← not_le, ← hround, ← Int.cast_le (R := ℚ)]
    push_cast
    norm_num
  · have hle := toDouble_le (n := 2 ^ 37) hlt (by push_cast; linarith)
    refine iff_of_true ?_ ?_
    · rw [timestamp]
      push_cast at hle
      linarith
    · rw [not_le, div_lt_iff₀ (by norm_num)] at hbinade
      have h : (t.micros : ℚ) < 253402300799999985 := by linarith
      exact_mod_cast h

/-- What a timestamp comes back as is its whole second, if that is in the calendar. -/
theorem fromTimestamp_unixSeconds {s : DateTime} :
    fromTimestamp (.int t.unixSeconds) = .ok s ↔
      t.micros < roundsUpFrom ∧ s.micros = t.unixSeconds * 1000000 := by
  have hfloor := t.ediv_le_unixSeconds
  have hlower := t.lower
  unfold minMicros at hlower
  rw [← t.unixSeconds_le_iff]
  unfold fromTimestamp timestampMicros ofMicros? minMicros maxMicros
  dsimp only
  by_cases hyear : t.unixSeconds ≤ 253402300799
  · rw [if_neg (by omega), dif_pos (by omega)]
    dsimp only
    rw [Except.ok.injEq, DateTime.ext_iff]
    exact ⟨fun h => ⟨hyear, h.symm⟩, fun h => h.2.symm⟩
  · refine iff_of_false ?_ fun h => hyear h.1
    split_ifs with hoverflow hrange
    · simp
    · omega
    · simp

end DateTime

end Python
