import GcoSpec.Python.Double
import GcoSpec.Python.Digits
import Mathlib.Order.Lattice
import Mathlib.Tactic.IntervalCases
import Mathlib.Tactic.Linarith

/-!
# Python datetimes

A UTC `datetime` is the number of microseconds since 1970-01-01, within the years 1 to 9999
(`DateTime`). A `datetime` as a caller may hand it in has calendar fields and perhaps a UTC
offset (`PyDatetime`): it is naive without one, and comparing a naive one with a UTC one raises
`TypeError`.

* `DateTime.fromTimestamp` is `datetime.fromtimestamp(x, timezone.utc)`;
* `DateTime.isoformat` is `isoformat()`, over the calendar algorithm of the standard library
  (`ord2ymd`); `isoBody_injective` is what an identity of texts says about instants.
-/

namespace Python

/-- Microseconds of `0001-01-01T00:00:00Z`. -/
def minMicros : ℤ := -62135596800000000

/-- Microseconds of `9999-12-31T23:59:59.999999Z`. -/
def maxMicros : ℤ := 253402300799999999

/-- An aware `datetime` in UTC. -/
@[ext] structure DateTime where
  micros : ℤ
  lower : minMicros ≤ micros
  upper : micros ≤ maxMicros
  deriving DecidableEq

namespace DateTime

theorem micros_injective : Function.Injective micros := fun _ _ h => DateTime.ext h

instance : LinearOrder DateTime := LinearOrder.lift' micros micros_injective

theorem le_iff {a b : DateTime} : a ≤ b ↔ a.micros ≤ b.micros := Iff.rfl

/-- The instant at `micros`, when it is in range. -/
def ofMicros? (micros : ℤ) : Option DateTime :=
  if h : minMicros ≤ micros ∧ micros ≤ maxMicros then some ⟨micros, h.1, h.2⟩ else none

/-- The exceptions of `datetime.fromtimestamp`. -/
inductive TimestampError
  | overflowError
  | osError
  | valueError

/-- Seconds since the epoch as microseconds, for a number that is finite. The fraction of a second
is multiplied in double precision. -/
def timestampMicros : Number → Option ℤ
  | .int n => some (n * 1000000)
  | .float (.finite q) =>
      some (truncate q * 1000000 + roundHalfEven (toDouble ((q - truncate q) * 1000000)))
  | .float _ => none

/-- `datetime.fromtimestamp(x, timezone.utc)`: seconds beyond 64 bits overflow `time_t`, and a
year outside 1 to 9999 is a `ValueError`. -/
def fromTimestamp (x : Number) : Except TimestampError DateTime :=
  match timestampMicros x with
  | none => .error .valueError
  | some micros =>
      if micros < -(2 ^ 63 * 1000000) ∨ 2 ^ 63 * 1000000 ≤ micros then .error .overflowError
      else match ofMicros? micros with
        | none => .error .valueError
        | some t => .ok t

end DateTime

/-! ### Datetimes of a caller -/

/-- A `datetime`: the instant its calendar fields name in UTC, and its UTC offset in
microseconds when it has one. -/
structure PyDatetime where
  fields : DateTime
  utcoffset : Option ℤ

/-- A UTC `datetime` as a caller's. -/
def DateTime.toPy (t : DateTime) : PyDatetime := ⟨t, some 0⟩

namespace PyDatetime

/-- The microseconds since the epoch an aware `datetime` stands for. -/
def instant? (d : PyDatetime) : Option ℤ := d.utcoffset.map fun off => d.fields.micros - off

/-- `d.replace(tzinfo=timezone.utc)` for a naive `d`, `d.astimezone(timezone.utc)` for an aware
one, which raises `OverflowError` (here `none`) outside the range of dates. -/
def toUtc? (d : PyDatetime) : Option DateTime :=
  match d.instant? with
  | none => some d.fields
  | some micros => DateTime.ofMicros? micros

@[simp] theorem instant?_toPy (t : DateTime) : t.toPy.instant? = some t.micros := by
  simp [instant?, DateTime.toPy]

@[simp] theorem toUtc?_toPy (t : DateTime) : t.toPy.toUtc? = some t := by
  simp [toUtc?, DateTime.ofMicros?, t.lower, t.upper]

end PyDatetime

/-! ### The calendar -/

/-- A leap year of the Gregorian calendar. -/
def isLeap (y : ℕ) : Bool := y % 4 = 0 && (y % 100 ≠ 0 || y % 400 = 0)

/-- Days of a year before the first of month `m`. -/
def daysBeforeMonth (leap : Bool) (m : ℕ) : ℕ :=
  [0, 0, 31, 59, 90, 120, 151, 181, 212, 243, 273, 304, 334].getD m 0 +
    if 2 < m && leap then 1 else 0

/-- The month and day of the `k`-th day of a year, counted from 0: a first guess that is right
or one month late. -/
def monthDay (leap : Bool) (k : ℕ) : ℕ × ℕ :=
  let month := (k + 50) / 32
  if k < daysBeforeMonth leap month then (month - 1, k - daysBeforeMonth leap (month - 1) + 1)
  else (month, k - daysBeforeMonth leap month + 1)

/-- The year and the day in it, counted from 0, of the `n`-th day since `0001-01-01`. -/
def yearDay (n : ℕ) : ℕ × ℕ :=
  let n400 := n / 146097
  let n100 := n % 146097 / 36524
  let n4 := n % 146097 % 36524 / 1461
  let n1 := n % 146097 % 36524 % 1461 / 365
  let year := n400 * 400 + n100 * 100 + n4 * 4 + n1 + 1
  if n1 = 4 ∨ n100 = 4 then (year - 1, 365) else (year, n % 146097 % 36524 % 1461 % 365)

/-- The calendar date of the `n`-th day since `0001-01-01`. -/
def ord2ymd (n : ℕ) : ℕ × ℕ × ℕ :=
  ((yearDay n).1, monthDay (isLeap (yearDay n).1) (yearDay n).2)

/-- Days before the first of January of year `y`. -/
def daysBeforeYear (y : ℕ) : ℕ := (y - 1) * 365 + (y - 1) / 4 - (y - 1) / 100 + (y - 1) / 400

/-- Years in cycles of 400, 100, 4 and 1. -/
theorem daysBeforeYear_cycles (a : ℕ) {b c d : ℕ} (hb : b ≤ 3) (hc : c ≤ 24) (hd : d ≤ 3) :
    daysBeforeYear (a * 400 + b * 100 + c * 4 + d + 1) =
      a * 146097 + b * 36524 + c * 1461 + d * 365 := by
  unfold daysBeforeYear
  have h4 : (a * 400 + b * 100 + c * 4 + d + 1 - 1) / 4 = a * 100 + b * 25 + c := by omega
  have h100 : (a * 400 + b * 100 + c * 4 + d + 1 - 1) / 100 = a * 4 + b := by omega
  have h400 : (a * 400 + b * 100 + c * 4 + d + 1 - 1) / 400 = a := by omega
  rw [h4, h100, h400]
  omega

theorem daysBeforeYear_yearDay (n : ℕ) : daysBeforeYear (yearDay n).1 + (yearDay n).2 = n := by
  unfold yearDay
  dsimp only
  generalize ha : n / 146097 = a
  generalize hb : n % 146097 / 36524 = b
  generalize hc : n % 146097 % 36524 / 1461 = c
  generalize hd : n % 146097 % 36524 % 1461 / 365 = d
  split_ifs with h
  · -- the last day of a cycle: 31 December of the year before the quotients name
    dsimp only
    rcases h with h | h
    · rw [show a * 400 + b * 100 + c * 4 + d + 1 - 1 = a * 400 + b * 100 + c * 4 + 3 + 1 by omega,
        daysBeforeYear_cycles a (by omega) (by omega) le_rfl]
      omega
    · rw [show a * 400 + b * 100 + c * 4 + d + 1 - 1 = a * 400 + 3 * 100 + 24 * 4 + 3 + 1 by omega,
        daysBeforeYear_cycles a le_rfl le_rfl le_rfl]
      omega
  · rw [daysBeforeYear_cycles a (by omega) (by omega) (by omega)]
    omega

theorem yearDay_lt (n : ℕ) : (yearDay n).2 < 366 := by
  unfold yearDay
  dsimp only
  split_ifs <;> dsimp only <;> omega

theorem monthDay_spec : ∀ leap : Bool, ∀ k : Fin 366,
    daysBeforeMonth leap (monthDay leap k).1 + (monthDay leap k).2 = k + 1 ∧
      (monthDay leap k).1 < 100 ∧ (monthDay leap k).2 < 100 := by
  decide +kernel

/-- A date determines the day. -/
theorem ord2ymd_injective : Function.Injective ord2ymd := by
  intro m n h
  obtain ⟨hy, hmd⟩ := Prod.mk.inj h
  have hm := (monthDay_spec (isLeap (yearDay m).1) ⟨_, yearDay_lt m⟩).1
  have hn := (monthDay_spec (isLeap (yearDay n).1) ⟨_, yearDay_lt n⟩).1
  simp only [hy] at hm hmd
  simp only [hmd, hn, Nat.add_right_cancel_iff] at hm
  rw [← daysBeforeYear_yearDay m, ← daysBeforeYear_yearDay n, hy, hm]

/-! ### ISO texts -/

theorem pad_subset (w n : ℕ) : ∀ c ∈ pad 10 w n, c ∈ "0123456789".toList := by
  induction w generalizing n with
  | zero => simp [pad]
  | succ w ih =>
    intro c hc
    rcases List.mem_append.1 hc with h | h
    · exact ih _ c h
    · rw [List.mem_singleton] at h
      have hd : ∀ a : Fin 10, Nat.digitChar a ∈ "0123456789".toList := by decide
      exact h ▸ hd ⟨n % 10, by omega⟩

namespace DateTime

/-- Microseconds since `0001-01-01T00:00:00Z`. -/
def sinceMin (t : DateTime) : ℕ := (t.micros - minMicros).toNat

theorem sinceMin_injective : Function.Injective sinceMin := by
  intro a b h
  have ha := a.lower
  have hb := b.lower
  unfold sinceMin at h
  exact DateTime.ext (by omega)

theorem sinceMin_lt (t : DateTime) : t.sinceMin / 86400000000 < 3652059 := by
  have h := t.upper
  have h' := t.lower
  unfold sinceMin
  simp only [minMicros, maxMicros] at *
  omega

/-- `YYYY-MM-DD` of a day. -/
def isoDate (n : ℕ) : List Char :=
  pad 10 4 (ord2ymd n).1 ++ '-' :: (pad 10 2 (ord2ymd n).2.1 ++ '-' :: pad 10 2 (ord2ymd n).2.2)

/-- `HH:MM:SS` of a number of seconds, and the microseconds unless they are 0. -/
def isoTime (us : ℕ) : List Char :=
  pad 10 2 (us / 3600000000) ++ ':' :: (pad 10 2 (us / 60000000 % 60) ++
    ':' :: (pad 10 2 (us / 1000000 % 60) ++
      if us % 1000000 = 0 then [] else '.' :: pad 10 6 (us % 1000000)))

/-- The text of `t.isoformat()` before the offset. -/
def isoBody (t : DateTime) : List Char :=
  isoDate (t.sinceMin / 86400000000) ++ 'T' :: isoTime (t.sinceMin % 86400000000)

/-- `t.isoformat()`. -/
def isoformat (t : DateTime) : String := String.ofList (t.isoBody ++ "+00:00".toList)

theorem length_isoDate (n : ℕ) : (isoDate n).length = 10 := by simp [isoDate]

theorem yearDay_year_lt {n : ℕ} (h : n < 3652059) : (yearDay n).1 < 10000 := by
  unfold yearDay
  dsimp only
  split_ifs <;> dsimp only <;> omega

theorem isoDate_injective {m n : ℕ} (hm : m < 3652059) (hn : n < 3652059)
    (h : isoDate m = isoDate n) : m = n := by
  have hbm := monthDay_spec (isLeap (yearDay m).1) ⟨_, yearDay_lt m⟩
  have hbn := monthDay_spec (isLeap (yearDay n).1) ⟨_, yearDay_lt n⟩
  obtain ⟨hy, h⟩ := List.append_inj h (by simp)
  obtain ⟨hmo, h⟩ := List.append_inj (List.cons.inj h).2 (by simp)
  have hd := (List.cons.inj h).2
  apply ord2ymd_injective
  have hy' := pad_injective (by omega) (by omega) (yearDay_year_lt hm) (yearDay_year_lt hn) hy
  refine Prod.ext hy' (Prod.ext ?_ ?_)
  · exact pad_injective (by omega) (by omega) hbm.2.1 hbn.2.1 hmo
  · exact pad_injective (by omega) (by omega) hbm.2.2 hbn.2.2 hd

theorem isoTime_injective {m n : ℕ} (hm : m < 86400000000) (hn : n < 86400000000)
    (h : isoTime m = isoTime n) : m = n := by
  obtain ⟨hh, h⟩ := List.append_inj h (by simp)
  obtain ⟨hmin, h⟩ := List.append_inj (List.cons.inj h).2 (by simp)
  obtain ⟨hs, hus⟩ := List.append_inj (List.cons.inj h).2 (by simp)
  have hh := pad_injective (by omega) (by omega) (by omega) (by omega) hh
  have hmin := pad_injective (by omega) (by omega) (by omega) (by omega) hmin
  have hs := pad_injective (by omega) (by omega) (by omega) (by omega) hs
  have hus : m % 1000000 = n % 1000000 := by
    split_ifs at hus with h0 h1 h1
    · omega
    · exact pad_injective (by omega) (by omega) (w := 6) (by omega) (by omega) (List.cons.inj hus).2
  omega

/-- Two instants with the same ISO text, up to the offset, are equal. -/
theorem isoBody_injective : Function.Injective isoBody := by
  intro a b h
  obtain ⟨hd, ht⟩ := List.append_inj h (by simp [length_isoDate])
  have hdate := isoDate_injective (sinceMin_lt a) (sinceMin_lt b) hd
  have htime := isoTime_injective (by omega) (by omega) (List.cons.inj ht).2
  apply sinceMin_injective
  omega

theorem plus_notMem_isoBody (t : DateTime) : '+' ∉ t.isoBody := by
  have hp : ∀ w n, '+' ∉ pad 10 w n := fun w n h => absurd (pad_subset w n _ h) (by decide)
  have ht : ∀ us, '+' ∉ isoTime us := by
    intro us
    unfold isoTime
    split_ifs <;> simp [hp]
  simp [isoBody, isoDate, hp, ht]

end DateTime

end Python
