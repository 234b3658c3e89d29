import GcoSpec.Python.DateTime

/-!
# Reading ISO texts

`readIso` reads the text of a UTC datetime that `isoformat` wrote, with `Z` for the offset: it is
the inverse of the calendar algorithm (`readIso_isoBody`).
-/

namespace Python

/-- The number `cs` spells in decimal digits, after digits of value `n`. -/
def readDec (n : ℕ) : List Char → Option ℕ
  | [] => some n
  | c :: cs => if c.isDigit then readDec (n * 10 + (c.toNat - 48)) cs else none

theorem readDec_append (n : ℕ) (cs ds : List Char) :
    readDec n (cs ++ ds) = (readDec n cs).bind fun m => readDec m ds := by
  induction cs generalizing n with
  | nil => rfl
  | cons c cs ih =>
    rw [List.cons_append, readDec, readDec, ih]
    by_cases hc : c.isDigit = true
    · rw [if_pos hc, if_pos hc]
    · rw [if_neg hc, if_neg hc]
      rfl

theorem readDec_digitChar : ∀ d : Fin 10, ∀ n, readDec n [Nat.digitChar d] = some (n * 10 + d) := by
  intro d n
  have hdigit : ∀ d : Fin 10, (Nat.digitChar d).isDigit = true ∧
      (Nat.digitChar d).toNat - 48 = d := by decide
  rw [readDec, if_pos (hdigit d).1, (hdigit d).2]
  rfl

/-- A number that fits is read back from its digits. -/
theorem readDec_pad (w n : ℕ) : readDec 0 (pad 10 w n) = some (n % 10 ^ w) := by
  induction w generalizing n with
  | zero => simp [pad, readDec, Nat.mod_one]
  | succ w ih =>
    have hd := readDec_digitChar ⟨n % 10, Nat.mod_lt n (by decide)⟩
    rw [pad, readDec_append, ih, Option.bind_some, hd, pow_succ', Nat.mod_mul]
    congr 1
    ring

/-- The day of a calendar date, counted from `0001-01-01`. -/
def ymd2ord (date : ℕ × ℕ × ℕ) : ℕ :=
  daysBeforeYear date.1 + daysBeforeMonth (isLeap date.1) date.2.1 + date.2.2 - 1

theorem ymd2ord_ord2ymd (n : ℕ) : ymd2ord (ord2ymd n) = n := by
  have hmonth := (monthDay_spec (isLeap (yearDay n).1) ⟨_, yearDay_lt n⟩).1
  have hyear := daysBeforeYear_yearDay n
  simp only at hmonth
  unfold ymd2ord ord2ymd
  dsimp only
  omega

/-- The microseconds of a fraction, or of none, before the `Z`. -/
def readFraction : List Char → Option ℕ
  | ['Z'] => some 0
  | ['.', a, b, c, d, e, f, 'Z'] => readDec 0 [a, b, c, d, e, f]
  | _ => none

namespace DateTime

/-- The instant of a date and a time of day in microseconds, when there is such a date. -/
def ofFields (year month day time : ℕ) : Option DateTime :=
  let n := ymd2ord (year, month, day)
  if ord2ymd n = (year, month, day) ∧ time < 86400000000 then
    ofMicros? (minMicros + n * 86400000000 + time)
  else none

/-- The datetime a text `YYYY-MM-DDTHH:MM:SS[.ffffff]Z` stands for. -/
def readIso : List Char → Option DateTime
  | y₁ :: y₂ :: y₃ :: y₄ :: '-' :: m₁ :: m₂ :: '-' :: d₁ :: d₂ :: 'T' :: h₁ :: h₂ :: ':' :: i₁ ::
      i₂ :: ':' :: s₁ :: s₂ :: rest => do
      let year ← readDec 0 [y₁, y₂, y₃, y₄]
      let month ← readDec 0 [m₁, m₂]
      let day ← readDec 0 [d₁, d₂]
      let hour ← readDec 0 [h₁, h₂]
      let minute ← readDec 0 [i₁, i₂]
      let second ← readDec 0 [s₁, s₂]
      let micros ← readFraction rest
      if minute < 60 ∧ second < 60 then
        ofFields year month day (((hour * 60 + minute) * 60 + second) * 1000000 + micros)
      else none
  | _ => none

theorem ofFields_of_day {t : DateTime} {year month day : ℕ}
    (h : ord2ymd (t.sinceMin / 86400000000) = (year, month, day)) :
    ofFields year month day (t.sinceMin % 86400000000) = some t := by
  have hlow := t.lower
  have hhigh := t.upper
  have hsince : (t.sinceMin : ℤ) = t.micros - minMicros := by
    unfold sinceMin
    omega
  have hmicros : minMicros + ((t.sinceMin / 86400000000 : ℕ) : ℤ) * 86400000000 +
      ((t.sinceMin % 86400000000 : ℕ) : ℤ) = t.micros := by omega
  rw [ofFields, ← h, ymd2ord_ord2ymd, if_pos ⟨rfl, Nat.mod_lt _ (by decide)⟩, hmicros,
    ofMicros?, dif_pos ⟨hlow, hhigh⟩]

theorem readFraction_isoTime (us : ℕ) :
    readFraction ((if us % 1000000 = 0 then [] else '.' :: pad 10 6 (us % 1000000)) ++ ['Z']) =
      some (us % 1000000) := by
  split_ifs with h
  · rw [h]
    rfl
  · obtain ⟨a, b, c, d, e, f, hpad⟩ :
        ∃ a b c d e f, pad 10 6 (us % 1000000) = [a, b, c, d, e, f] := ⟨_, _, _, _, _, _, rfl⟩
    have hread := readDec_pad 6 (us % 1000000)
    rw [Nat.mod_eq_of_lt (show us % 1000000 < 10 ^ 6 by omega), hpad] at hread
    rw [hpad]
    exact hread

/-- The text of a datetime is read back as the datetime. -/
theorem readIso_isoBody (t : DateTime) : readIso (t.isoBody ++ ['Z']) = some t := by
  have hday := sinceMin_lt t
  have hyear := yearDay_year_lt hday
  have hmonth := monthDay_spec (isLeap (yearDay (t.sinceMin / 86400000000)).1)
    ⟨_, yearDay_lt (t.sinceMin / 86400000000)⟩
  rcases hdate : ord2ymd (t.sinceMin / 86400000000) with ⟨year, month, day⟩
  have hfields := ofFields_of_day hdate
  have hus : t.sinceMin % 86400000000 < 86400000000 := Nat.mod_lt _ (by decide)
  rw [isoBody, isoDate, isoTime, hdate]
  generalize t.sinceMin % 86400000000 = us at hfields hus
  have hyear' : year < 10 ^ 4 := by
    have h : (yearDay (t.sinceMin / 86400000000)).1 = year := congrArg Prod.fst hdate
    rw [← h]
    exact hyear
  have hmonth' : month < 10 ^ 2 ∧ day < 10 ^ 2 := by
    have h : monthDay (isLeap (yearDay (t.sinceMin / 86400000000)).1)
        (yearDay (t.sinceMin / 86400000000)).2 = (month, day) := congrArg Prod.snd hdate
    dsimp only at hmonth
    rw [h] at hmonth
    exact hmonth.2
  have hpad4 : ∀ n, ∃ a b c d, pad 10 4 n = [a, b, c, d] := fun n => ⟨_, _, _, _, rfl⟩
  have hpad2 : ∀ n, ∃ a b, pad 10 2 n = [a, b] := fun n => ⟨_, _, rfl⟩
  have hread : ∀ {w n : ℕ}, n < 10 ^ w → readDec 0 (pad 10 w n) = some n := by
    intro w n hn
    rw [readDec_pad, Nat.mod_eq_of_lt hn]
  have hfraction := readFraction_isoTime us
  have hy := hread hyear'
  have hm := hread hmonth'.1
  have hd := hread hmonth'.2
  have hh := hread (show us / 3600000000 < 10 ^ 2 by omega)
  have hi := hread (show us / 60000000 % 60 < 10 ^ 2 by omega)
  have hs := hread (show us / 1000000 % 60 < 10 ^ 2 by omega)
  obtain ⟨y₁, y₂, y₃, y₄, hye⟩ := hpad4 year
  obtain ⟨m₁, m₂, hme⟩ := hpad2 month
  obtain ⟨d₁, d₂, hde⟩ := hpad2 day
  obtain ⟨h₁, h₂, hhe⟩ := hpad2 (us / 3600000000)
  obtain ⟨i₁, i₂, hie⟩ := hpad2 (us / 60000000 % 60)
  obtain ⟨s₁, s₂, hse⟩ := hpad2 (us / 1000000 % 60)
  rw [hye] at hy
  rw [hme] at hm
  rw [hde] at hd
  rw [hhe] at hh
  rw [hie] at hi
  rw [hse] at hs
  have htime : ((us / 3600000000 * 60 + us / 60000000 % 60) * 60 + us / 1000000 % 60) * 1000000 +
      us % 1000000 = us := by omega
  rw [hye, hme, hde, hhe, hie, hse]
  simp only [List.cons_append, List.nil_append]
  rw [readIso, hy, hm, hd, hh, hi, hs, hfraction]
  simp only [Option.bind_eq_bind, Option.bind_some]
  rw [if_pos ⟨Nat.mod_lt _ (by decide), Nat.mod_lt _ (by decide)⟩, htime, hfields]

end DateTime

end Python
