import Mathlib.Tactic.Common
import Mathlib.Tactic.Ring

/-!
# Fixed-width numerals

`pad b w n` is `n` in base `b` in exactly `w` digits, as a format such as `%04x` or `%02d` writes
a number that fits. `readHex` reads hexadecimal digits of either case. A UUID is its 128 bits,
`Uuid.str` its text in five groups, and `Uuid.ofStr?` reads it back.
-/

namespace Python

/-- `n` in base `b`, in `w` digits. -/
def pad (b : ℕ) : ℕ → ℕ → List Char
  | 0, _ => []
  | w + 1, n => pad b w (n / b) ++ [Nat.digitChar (n % b)]

@[simp] theorem length_pad (b w n : ℕ) : (pad b w n).length = w := by
  induction w generalizing n with
  | zero => rfl
  | succ w ih => simp [pad, ih]

theorem digitChar_inj : ∀ a b : Fin 16, Nat.digitChar a = Nat.digitChar b → a = b := by decide

/-- Numbers that fit are determined by their digits. -/
theorem pad_injective {b w m n : ℕ} (hb : 0 < b) (hb' : b ≤ 16) (hm : m < b ^ w) (hn : n < b ^ w)
    (h : pad b w m = pad b w n) : m = n := by
  induction w generalizing m n with
  | zero => rw [pow_zero] at hm hn; omega
  | succ w ih =>
    rw [pow_succ] at hm hn
    obtain ⟨hq, hr⟩ := List.append_inj' h rfl
    have hdiv := ih (Nat.div_lt_of_lt_mul (by rwa [mul_comm])) (Nat.div_lt_of_lt_mul
      (by rwa [mul_comm])) hq
    have hlt : ∀ k, k % b < 16 := fun k => lt_of_lt_of_le (Nat.mod_lt k hb) hb'
    have hmod := digitChar_inj ⟨m % b, hlt m⟩ ⟨n % b, hlt n⟩ (by simpa using hr)
    rw [Fin.mk.injEq] at hmod
    rw [← Nat.div_add_mod m b, ← Nat.div_add_mod n b, hdiv, hmod]

/-! ### Hexadecimal digits -/

/-- The value of a hexadecimal digit. -/
def hexVal? (c : Char) : Option ℕ :=
  if '0' ≤ c ∧ c ≤ '9' then some (c.toNat - 48)
  else if 'a' ≤ c ∧ c ≤ 'f' then some (c.toNat - 87)
  else if 'A' ≤ c ∧ c ≤ 'F' then some (c.toNat - 55)
  else none

theorem hexVal?_digitChar : ∀ n : Fin 16, hexVal? (Nat.digitChar n) = some n.val := by decide

/-- The number `cs` spells in hexadecimal, after digits of value `n`. -/
def readHex (n : ℕ) : List Char → Option ℕ
  | [] => some n
  | c :: cs => (hexVal? c).bind fun d => readHex (n * 16 + d) cs

theorem readHex_append (n : ℕ) (cs ds : List Char) :
    readHex n (cs ++ ds) = (readHex n cs).bind fun m => readHex m ds := by
  induction cs generalizing n with
  | nil => rfl
  | cons c cs ih =>
    rw [List.cons_append, readHex, readHex]
    cases hexVal? c with
    | none => rfl
    | some d => exact ih _

/-- The digits of a number that fits, after digits of value `n`. -/
theorem readHex_pad_from (n w m : ℕ) :
    readHex n (pad 16 w m) = some (n * 16 ^ w + m % 16 ^ w) := by
  induction w generalizing m with
  | zero => simp [pad, readHex, Nat.mod_one]
  | succ w ih =>
    have hd := hexVal?_digitChar ⟨m % 16, Nat.mod_lt m (by decide)⟩
    rw [pad, readHex_append, ih, Option.bind_some, readHex, hd, Option.bind_some, readHex,
      pow_succ', Nat.mod_mul]
    congr 1
    ring

theorem readHex_pad (w n : ℕ) : readHex 0 (pad 16 w n) = some (n % 16 ^ w) := by
  rw [readHex_pad_from, zero_mul, zero_add]

theorem filter_hyphen_pad (w n : ℕ) : (pad 16 w n).filter (· ≠ '-') = pad 16 w n := by
  induction w generalizing n with
  | zero => rfl
  | succ w ih =>
    rw [pad, List.filter_append, ih, List.filter_cons_of_pos (by simp), List.filter_nil]

/-! ### UUIDs -/

/-- A `uuid.UUID`. -/
abbrev Uuid := BitVec 128

/-- `str(u)`: the digits in groups of 8, 4, 4, 4 and 12. -/
def Uuid.str (u : Uuid) : String :=
  String.ofList (pad 16 8 (u.toNat / 2 ^ 96) ++ '-' :: (pad 16 4 (u.toNat / 2 ^ 80 % 2 ^ 16) ++
    '-' :: (pad 16 4 (u.toNat / 2 ^ 64 % 2 ^ 16) ++ '-' :: (pad 16 4 (u.toNat / 2 ^ 48 % 2 ^ 16) ++
      '-' :: pad 16 12 (u.toNat % 2 ^ 48)))))

theorem Uuid.str_injective : Function.Injective Uuid.str := by
  intro u v h
  have hu := u.isLt
  have hv := v.isLt
  obtain ⟨h1, h⟩ := List.append_inj (String.ofList_injective h) (by simp)
  obtain ⟨h2, h⟩ := List.append_inj (List.cons.inj h).2 (by simp)
  obtain ⟨h3, h⟩ := List.append_inj (List.cons.inj h).2 (by simp)
  obtain ⟨h4, h⟩ := List.append_inj (List.cons.inj h).2 (by simp)
  have h5 := (List.cons.inj h).2
  -- each group has room for its part of the number
  have h1 := pad_injective (by decide) (by decide) (by omega) (by omega) h1
  have h2 := pad_injective (by decide) (by decide) (by omega) (by omega) h2
  have h3 := pad_injective (by decide) (by decide) (by omega) (by omega) h3
  have h4 := pad_injective (by decide) (by decide) (by omega) (by omega) h4
  have h5 := pad_injective (by decide) (by decide) (by omega) (by omega) h5
  apply BitVec.eq_of_toNat_eq
  omega

/-- The UUID with these digits; hyphens may stand anywhere. -/
def Uuid.ofStr? (s : String) : Option Uuid :=
  (readHex 0 (s.toList.filter (· ≠ '-'))).map (BitVec.ofNat 128)

/-- A UUID is read back from its text. -/
theorem Uuid.ofStr?_str (u : Uuid) : Uuid.ofStr? u.str = some u := by
  have hu := u.isLt
  have hyphen : ∀ cs : List Char, ('-' :: cs).filter (· ≠ '-') = cs.filter (· ≠ '-') :=
    fun cs => List.filter_cons_of_neg (by simp)
  rw [Uuid.ofStr?, Uuid.str, String.toList_ofList]
  simp only [List.filter_append, hyphen, filter_hyphen_pad, readHex_append, readHex_pad_from,
    Option.bind_some, Option.map_some, Option.some.injEq]
  apply BitVec.eq_of_toNat_eq
  rw [BitVec.toNat_ofNat]
  omega

end Python
