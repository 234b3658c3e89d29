import GcoSpec.Python.Json

/-!
# Reading back what was written

`loads` gives back every value `emit` wrote, with either setting of `ensure_ascii` and either
separators. So a text determines the value (`eq_of_emit_eq`), and a text written with
`sort_keys=True` determines what each `dict` of the value maps its keys to
(`sortKeys_eq_of_emit_eq`, `lookup_of_sortKeys_eq`).

A value is `Readable` when its numbers are integers within the digit limit, or floats whose text
reads back, it holds no object that is not JSON, and no `dict` in it repeats a key.
-/

namespace Python

namespace Json

/-! ### Strings -/

theorem readUnit_pad {n : ℕ} (h : n < 0x10000) (cs : List Char) :
    readUnit (pad 16 4 n ++ cs) = some (n, cs) := by
  obtain ⟨a, b, c, d, he⟩ : ∃ a b c d, pad 16 4 n = [a, b, c, d] := ⟨_, _, _, _, rfl⟩
  have hr := readHex_pad 4 n
  rw [he, Nat.mod_eq_of_lt (show n < 16 ^ 4 from h)] at hr
  rw [he]
  simp only [List.cons_append, List.nil_append, readUnit, hr, Option.map_some]

theorem readChar_unitEscape {n : ℕ} (h : n < 0x10000) (cs : List Char) :
    readChar (unitEscape n ++ cs) = joinUnit n cs := by
  rw [unitEscape, List.cons_append, List.cons_append, readChar, readUnit_pad h, Option.bind_some]

theorem toNat_range (c : Char) : c.toNat < 0xd800 ∨ 0xdfff < c.toNat ∧ c.toNat < 0x110000 := c.valid

/-- Beyond the basic plane, the two units of a surrogate pair join to the code point. -/
theorem joinUnit_pair {n : ℕ} (hn : 0x10000 ≤ n) (hn' : n < 0x110000) (cs : List Char) :
    joinUnit (0xd800 + (n - 0x10000) / 1024)
      (unitEscape (0xdc00 + (n - 0x10000) % 1024) ++ cs) = some (some (Char.ofNat n), cs) := by
  have hhi : isHighSurrogate (0xd800 + (n - 0x10000) / 1024) = true := by
    simp only [isHighSurrogate, Bool.and_eq_true, decide_eq_true_eq]
    omega
  have hlo : isLowSurrogate (0xdc00 + (n - 0x10000) % 1024) = true := by
    simp only [isLowSurrogate, Bool.and_eq_true, decide_eq_true_eq]
    omega
  have hsum : 0x10000 + (0xd800 + (n - 0x10000) / 1024 - 0xd800) * 1024 +
      (0xdc00 + (n - 0x10000) % 1024 - 0xdc00) = n := by omega
  have hread := readUnit_pad (show 0xdc00 + (n - 0x10000) % 1024 < 0x10000 by omega) cs
  rw [unitEscape, List.cons_append, List.cons_append, joinUnit.eq_1, if_pos hhi, hread,
    Option.map_some, if_pos hlo, hsum]

theorem joinUnit_single {n : ℕ} (hhi : isHighSurrogate n = false) (hlo : isLowSurrogate n = false)
    (cs : List Char) : joinUnit n cs = some (some (Char.ofNat n), cs) := by
  unfold joinUnit
  rw [if_neg (by simp [hhi]), if_neg (by simp [hlo])]

theorem readChar_codeEscape (c : Char) (cs : List Char) :
    readChar (codeEscape c.toNat ++ cs) = some (some c, cs) := by
  have hc := toNat_range c
  unfold codeEscape
  split_ifs with h
  · -- a character is no surrogate
    have hhi : isHighSurrogate c.toNat = false := by
      simp only [isHighSurrogate, Bool.and_eq_false_iff, decide_eq_false_iff_not]
      omega
    have hlo : isLowSurrogate c.toNat = false := by
      simp only [isLowSurrogate, Bool.and_eq_false_iff, decide_eq_false_iff_not]
      omega
    rw [readChar_unitEscape h, joinUnit_single hhi hlo, Char.ofNat_toNat]
  · rw [List.append_assoc, readChar_unitEscape (by omega), joinUnit_pair (by omega) (by omega),
      Char.ofNat_toNat]

theorem unescape_of_shortEscape {c d : Char} (h : shortEscape c = some d) :
    d ≠ 'u' ∧ unescape d = some c := by
  unfold shortEscape at h
  split_ifs at h with h1 h2 h3 h4 h5 h6 h7 <;> cases h <;> subst_vars <;> decide

theorem readChar_escapeChar (ascii : Bool) (c : Char) (cs : List Char) :
    readChar (escapeChar ascii c ++ cs) = some (some c, cs) := by
  unfold escapeChar
  cases h : shortEscape c with
  | some d =>
    obtain ⟨hd, hu⟩ := unescape_of_shortEscape h
    simp only [List.cons_append, List.nil_append]
    rw [readChar.eq_2 _ _ (by rintro rfl; exact hd rfl), hu, Option.map_some]
  | none =>
    dsimp only
    split_ifs with hb
    · exact readChar_codeEscape c cs
    · have hbs : c ≠ '\\' := by rintro rfl; cases h
      have h20 : ¬c.toNat < 0x20 := by
        simp only [Bool.or_eq_true, decide_eq_true_eq, not_or] at hb
        exact hb.1
      rw [List.singleton_append, readChar.eq_3 _ _ (by rintro _ rfl; exact absurd rfl hbs)
        (by rintro _ _ rfl; exact absurd rfl hbs), if_neg h20]

theorem escapeChar_eq_cons (ascii : Bool) (c : Char) :
    ∃ d ds, escapeChar ascii c = d :: ds ∧ d ≠ '\"' := by
  unfold escapeChar
  cases h : shortEscape c with
  | some d => exact ⟨_, _, rfl, by decide⟩
  | none =>
    dsimp only
    split_ifs with hb
    · unfold codeEscape unitEscape
      split_ifs <;> exact ⟨_, _, rfl, by decide⟩
    · exact ⟨c, [], rfl, by rintro rfl; cases h⟩

theorem scanChars_escape (ascii : Bool) (s : List Char) (rest : List Char) {n : ℕ}
    (hn : (s.flatMap (escapeChar ascii)).length < n) :
    scanChars n (s.flatMap (escapeChar ascii) ++ '\"' :: rest) = some (s.map some, rest) := by
  induction s generalizing n with
  | nil =>
    obtain ⟨n, rfl⟩ := Nat.exists_eq_succ_of_ne_zero (Nat.ne_of_gt hn)
    rfl
  | cons c s ih =>
    obtain ⟨n, rfl⟩ := Nat.exists_eq_succ_of_ne_zero (Nat.ne_of_gt (Nat.zero_lt_of_lt hn))
    obtain ⟨d, ds, he, hd⟩ := escapeChar_eq_cons ascii c
    have hread := readChar_escapeChar ascii c (s.flatMap (escapeChar ascii) ++ '\"' :: rest)
    rw [List.flatMap_cons, List.length_append, he, List.length_cons] at hn
    rw [he, List.cons_append] at hread
    rw [List.flatMap_cons, he, List.append_assoc, List.cons_append,
      scanChars.eq_3 _ _ (by rintro _ ⟨⟩; exact hd rfl), hread, Option.bind_some,
      ih (by omega)]
    rfl

theorem joinChars_map_some (s : List Char) : joinChars (s.map some) = some s := by
  induction s with
  | nil => rfl
  | cons c s ih => rw [List.map_cons, joinChars, ih]; rfl

/-- A string is read back from its JSON text. -/
theorem scanString_escape (ascii : Bool) (s : String) (rest : List Char) :
    scanString (s.toList.flatMap (escapeChar ascii) ++ '\"' :: rest) = some (some s, rest) := by
  have hlength : (s.toList.flatMap (escapeChar ascii)).length <
      (s.toList.flatMap (escapeChar ascii) ++ '\"' :: rest).length + 1 := by
    rw [List.length_append]
    omega
  rw [scanString, scanChars_escape ascii _ _ hlength, Option.map_some, joinChars_map_some,
    Option.map_some, String.ofList_toList]

/-! ### Numbers -/

/-- The text after a number does not continue it. -/
def NumEnd (rest : List Char) : Prop :=
  ∀ c ∈ rest.head?, c.isDigit = false ∧ c ≠ '.' ∧ c ≠ 'e' ∧ c ≠ 'E'

theorem numEnd_nil : NumEnd [] := by rintro c ⟨⟩

theorem numEnd_cons {c : Char} (rest : List Char)
    (h : c.isDigit = false ∧ c ≠ '.' ∧ c ≠ 'e' ∧ c ≠ 'E') : NumEnd (c :: rest) := by
  rintro d ⟨⟩
  exact h

theorem takeWhile_digits {ds rest : List Char} (hd : ∀ c ∈ ds, c.isDigit = true)
    (hr : NumEnd rest) : (ds ++ rest).takeWhile Char.isDigit = ds := by
  rw [List.takeWhile_append_of_pos hd]
  cases rest with
  | nil => simp
  | cons c rest => simp [(hr c rfl).1]

theorem dropWhile_digits {ds rest : List Char} (hd : ∀ c ∈ ds, c.isDigit = true)
    (hr : NumEnd rest) : (ds ++ rest).dropWhile Char.isDigit = rest := by
  rw [List.dropWhile_append_of_pos hd]
  cases rest with
  | nil => rfl
  | cons c rest => rw [List.dropWhile_cons_of_neg (by simp [(hr c rfl).1])]

/-- A positive number does not start with `0`. -/
theorem head?_toDigits {n : ℕ} (hn : 0 < n) : (Nat.toDigits 10 n).head? ≠ some '0' := by
  induction n using Nat.strongRecOn with
  | ind n ih =>
    by_cases h : n < 10
    · rw [Nat.toDigits_of_lt_base h, List.head?_cons, ne_eq, Option.some.injEq,
        Nat.digitChar_eq_zero]
      omega
    · rw [Nat.toDigits_of_base_le (by decide) (by omega)]
      have hq := ih (n / 10) (by omega) (by omega)
      cases hd : Nat.toDigits 10 (n / 10) with
      | nil => exact absurd hd Nat.toDigits_ne_nil
      | cons c ds => rwa [hd] at hq

theorem isDigit_toDigits {n : ℕ} : ∀ c ∈ Nat.toDigits 10 n, c.isDigit = true := fun _ hc =>
  Nat.isDigit_of_mem_toDigits (by decide) (by decide) hc

theorem scanInt_toDigits (n : ℕ) {rest : List Char} (hr : NumEnd rest) :
    scanInt (Nat.toDigits 10 n ++ rest) = some (Nat.toDigits 10 n, rest) := by
  rcases Nat.eq_zero_or_pos n with rfl | hn
  · rfl
  · have hhead := head?_toDigits hn
    have hdig := isDigit_toDigits (n := n)
    cases hd : Nat.toDigits 10 n with
    | nil => exact absurd hd Nat.toDigits_ne_nil
    | cons c ds =>
      rw [hd] at hhead hdig
      have hc : c ≠ '0' := by rintro rfl; exact hhead rfl
      have hds : ∀ d ∈ ds, d.isDigit = true := fun d h => hdig d (List.mem_cons_of_mem _ h)
      rw [List.cons_append, scanInt.eq_2 _ _ hc, if_pos (hdig c List.mem_cons_self),
        takeWhile_digits hds hr, dropWhile_digits hds hr]

theorem scanFrac_of_numEnd {rest : List Char} (hr : NumEnd rest) : scanFrac rest = ([], rest) := by
  rw [scanFrac.eq_2]
  rintro cs rfl
  exact (hr '.' rfl).2.1 rfl

theorem scanExp_of_numEnd {rest : List Char} (hr : NumEnd rest) : scanExp rest = ([], rest) := by
  cases rest with
  | nil => rfl
  | cons c cs =>
    obtain ⟨-, -, he, hE⟩ := hr c rfl
    rw [scanExp]
    rcases scanSign cs with ⟨sign, ds⟩
    refine if_neg ?_
    rintro ⟨h | h, -⟩
    · exact he h
    · exact hE h

theorem scanUnsigned_toDigits (fmt : FloatFormat) (neg : Bool) {n : ℕ}
    (hn : (Nat.toDigits 10 n).length ≤ maxStrDigits) {rest : List Char} (hr : NumEnd rest) :
    scanUnsigned fmt neg (Nat.toDigits 10 n ++ rest) =
      some (.int (if neg then -n else n), rest) := by
  rw [scanUnsigned, scanInt_toDigits n hr, Option.bind_some]
  simp only [scanFrac_of_numEnd hr, scanExp_of_numEnd hr, and_self, if_true,
    Nat.ofDigitChars_ten_toDigits, if_pos hn]

/-- A text that starts with a digit holds no literal. -/
theorem scanAtom_of_isDigit (fmt : FloatFormat) {c : Char} (hc : c.isDigit = true)
    (cs : List Char) : scanAtom fmt (c :: cs) = scanUnsigned fmt false (c :: cs) := by
  have hne : ∀ d : Char, d.isDigit = false → c ≠ d := by
    rintro d hd rfl
    rw [hc] at hd
    cases hd
  rw [scanAtom.eq_7 _ _ (by rintro _ ⟨⟩; exact hne _ rfl rfl) (by rintro _ ⟨⟩; exact hne _ rfl rfl)
    (by rintro _ ⟨⟩; exact hne _ rfl rfl) (by rintro _ ⟨⟩; exact hne _ rfl rfl)
    (by rintro _ ⟨⟩; exact hne _ rfl rfl) (by rintro _ ⟨⟩; exact hne _ rfl rfl),
    scanNumber.eq_2 _ _ (by rintro _ ⟨⟩; exact hne _ rfl rfl)]

theorem scanAtom_minus (fmt : FloatFormat) {c : Char} (hc : c.isDigit = true) (cs : List Char) :
    scanAtom fmt ('-' :: c :: cs) = scanUnsigned fmt true (c :: cs) := by
  rw [scanAtom.eq_7 _ _ (by rintro _ ⟨⟩) (by rintro _ ⟨⟩) (by rintro _ ⟨⟩) (by rintro _ ⟨⟩)
    (by rintro _ ⟨⟩) (by rintro _ ⟨⟩; cases hc), scanNumber]

/-- A text that is read by `scanAtom`: it starts with none of the three opening characters. -/
def AtomStart (cs : List Char) : Prop :=
  ∃ c ds, cs = c :: ds ∧ c ≠ '\"' ∧ c ≠ '{' ∧ c ≠ '[' ∧ isWs c = false ∧ c ≠ ']' ∧ c ≠ '}'

theorem atomStart_of_isDigit {c : Char} (hc : c.isDigit = true) (cs : List Char) :
    AtomStart (c :: cs) := by
  have hne : ∀ d : Char, d.isDigit = false → c ≠ d := by
    rintro d hd rfl
    rw [hc] at hd
    cases hd
  refine ⟨c, cs, rfl, hne _ rfl, hne _ rfl, hne _ rfl, ?_, hne _ rfl, hne _ rfl⟩
  simp [isWs, hne ' ' rfl, hne '\t' rfl, hne '\n' rfl, hne '\r' rfl]

/-- Decimal texts read back. -/
theorem scanAtom_intText (fmt : FloatFormat) {n : ℤ} (hn : IntFits n) {rest : List Char}
    (hr : NumEnd rest) : scanAtom fmt (intText n ++ rest) = some (.int n, rest) := by
  have hdig := isDigit_toDigits (n := n.natAbs)
  cases hd : Nat.toDigits 10 n.natAbs with
  | nil => exact absurd hd Nat.toDigits_ne_nil
  | cons c ds =>
    have hc : c.isDigit = true := hdig c (by rw [hd]; exact List.mem_cons_self)
    have hread := fun neg => scanUnsigned_toDigits fmt neg hn hr
    rw [hd] at hread
    unfold intText
    rw [hd]
    split_ifs with hneg
    · rw [List.cons_append, List.cons_append, scanAtom_minus fmt hc, ← List.cons_append, hread,
        if_pos rfl, show -(n.natAbs : ℤ) = n by omega]
    · rw [List.cons_append, scanAtom_of_isDigit fmt hc, ← List.cons_append, hread,
        if_neg (by decide), show (n.natAbs : ℤ) = n by omega]

theorem atomStart_intText (n : ℤ) : AtomStart (intText n) := by
  unfold intText
  split_ifs
  · exact ⟨_, _, rfl, by decide⟩
  · cases hd : Nat.toDigits 10 n.natAbs with
    | nil => exact absurd hd Nat.toDigits_ne_nil
    | cons c ds =>
      exact atomStart_of_isDigit (isDigit_toDigits c (by rw [hd]; exact List.mem_cons_self)) ds

/-! ### Values -/

/-- `repr(x)` is a number that `float` reads back. -/
def FloatFormat.Reads (fmt : FloatFormat) (q : ℚ) : Prop :=
  AtomStart (fmt.repr q) ∧
    ∀ rest, NumEnd rest → scanAtom fmt (fmt.repr q ++ rest) = some (.float (.finite q), rest)

mutual

/-- The values that their JSON text determines. -/
def Readable (fmt : FloatFormat) : PyVal → Prop
  | .int n => IntFits n
  | .float (.finite q) => fmt.Reads q
  | .list xs => ReadableItems fmt xs
  | .dict kvs => (kvs.map Prod.fst).Nodup ∧ ReadablePairs fmt kvs
  | .object _ => False
  | _ => True

def ReadableItems (fmt : FloatFormat) : List PyVal → Prop
  | [] => True
  | x :: xs => Readable fmt x ∧ ReadableItems fmt xs

def ReadablePairs (fmt : FloatFormat) : List (String × PyVal) → Prop
  | [] => True
  | (_, v) :: kvs => Readable fmt v ∧ ReadablePairs fmt kvs

end

variable {F : FloatFormat} {S : Style}

theorem skipWs_of_not {c : Char} (hc : isWs c = false) (cs : List Char) :
    skipWs (c :: cs) = c :: cs := by
  rw [skipWs, List.dropWhile_cons_of_neg (by simp [hc])]

/-- The separators are a comma or colon and whitespace. -/
theorem itemSeparator_eq (S : Style) :
    ∃ ws, S.itemSeparator = ',' :: ws ∧ ∀ cs, skipWs (ws ++ cs) = skipWs cs := by
  unfold Style.itemSeparator
  split_ifs
  · exact ⟨[], rfl, fun _ => rfl⟩
  · exact ⟨[' '], rfl, fun _ => rfl⟩

theorem keySeparator_eq (S : Style) :
    ∃ ws, S.keySeparator = ':' :: ws ∧ ∀ cs, skipWs (ws ++ cs) = skipWs cs := by
  unfold Style.keySeparator
  split_ifs
  · exact ⟨[], rfl, fun _ => rfl⟩
  · exact ⟨[' '], rfl, fun _ => rfl⟩

/-- A text of a value starts with a character that is neither whitespace nor a closing bracket. -/
theorem emit_eq_cons {v : PyVal} (hv : Readable F v) :
    ∃ c cs, emit F S v = c :: cs ∧ isWs c = false ∧ c ≠ ']' := by
  cases v with
  | none => exact ⟨_, _, rfl, by decide⟩
  | bool b => cases b <;> exact ⟨_, _, rfl, by decide⟩
  | int n =>
    obtain ⟨c, cs, h, -, -, -, hw, hb, -⟩ := atomStart_intText n
    exact ⟨c, cs, h, hw, hb⟩
  | float x =>
    cases x with
    | finite q =>
      obtain ⟨⟨c, cs, h, -, -, -, hw, hb, -⟩, -⟩ := hv
      exact ⟨c, cs, h, hw, hb⟩
    | inf => exact ⟨_, _, rfl, by decide⟩
    | negInf => exact ⟨_, _, rfl, by decide⟩
    | nan => exact ⟨_, _, rfl, by decide⟩
  | str s => exact ⟨_, _, rfl, by decide⟩
  | list xs => cases xs <;> exact ⟨_, _, rfl, by decide⟩
  | dict kvs => cases kvs <;> exact ⟨_, _, rfl, by decide⟩
  | object t => exact hv.elim

theorem skipWs_emit {v : PyVal} (hv : Readable F v) (cs : List Char) :
    skipWs (emit F S v ++ cs) = emit F S v ++ cs := by
  obtain ⟨c, ds, h, hw, -⟩ := emit_eq_cons (S := S) hv
  rw [h, List.cons_append, skipWs_of_not hw]

theorem numEnd_emitItems (xs : List PyVal) (rest : List Char) :
    NumEnd (emitItems F S xs ++ rest) := by
  cases xs with
  | nil => exact numEnd_cons _ (by decide)
  | cons x xs =>
    obtain ⟨ws, h, -⟩ := itemSeparator_eq S
    rw [emitItems, h]
    exact numEnd_cons _ (by decide)

theorem numEnd_emitPairs (kvs : List (String × PyVal)) (rest : List Char) :
    NumEnd (emitPairs F S kvs ++ rest) := by
  cases kvs with
  | nil => exact numEnd_cons _ (by decide)
  | cons kv kvs =>
    obtain ⟨k, v⟩ := kv
    obtain ⟨ws, h, -⟩ := itemSeparator_eq S
    rw [emitPairs, h]
    exact numEnd_cons _ (by decide)

theorem scanValue_atom {cs : List Char} (h : AtomStart cs) (n : ℕ) (rest : List Char) :
    scanValue F (n + 1) (cs ++ rest) = scanAtom F (cs ++ rest) := by
  obtain ⟨c, ds, rfl, hq, hb, hl, -⟩ := h
  rw [List.cons_append, scanValue, if_neg hq, if_neg hb, if_neg hl]

theorem textPairs_map_some (kvs : List (String × PyVal)) :
    textPairs (kvs.map fun kv => (some kv.1, kv.2)) = some kvs := by
  induction kvs with
  | nil => rfl
  | cons kv kvs ih => rw [List.map_cons, textPairs, ih]; rfl

theorem dictOfPairs_map_some {kvs : List (String × PyVal)} (h : (kvs.map Prod.fst).Nodup) :
    dictOfPairs (kvs.map fun kv => (some kv.1, kv.2)) = .dict kvs := by
  rw [dictOfPairs, textPairs_map_some, Option.elim_some, Dict.items_ofPairs h]

theorem one_le_length_emitItems (xs : List PyVal) : 1 ≤ (emitItems F S xs).length := by
  cases xs with
  | nil => exact le_rfl
  | cons x xs =>
    obtain ⟨ws, h, -⟩ := itemSeparator_eq S
    rw [emitItems, h, List.cons_append, List.length_cons]
    omega

theorem one_le_length_emitPairs (kvs : List (String × PyVal)) :
    1 ≤ (emitPairs F S kvs).length := by
  cases kvs with
  | nil => exact le_rfl
  | cons kv kvs =>
    obtain ⟨k, v⟩ := kv
    obtain ⟨ws, h, -⟩ := itemSeparator_eq S
    rw [emitPairs, h, List.cons_append, List.length_cons]
    omega

/-- The items of a list, as `emit` writes them after the opening bracket. -/
def bodyItems (F : FloatFormat) (S : Style) : List PyVal → List Char
  | [] => []
  | x :: xs => emit F S x ++ emitItems F S xs

/-- The items of an object, as `emit` writes them after the opening brace. -/
def bodyPairs (F : FloatFormat) (S : Style) : List (String × PyVal) → List Char
  | [] => []
  | (k, v) :: kvs =>
      quote S.ensureAscii k ++ (S.keySeparator ++ (emit F S v ++ emitPairs F S kvs))

theorem emitItems_cons (x : PyVal) (xs : List PyVal) :
    emitItems F S (x :: xs) = S.itemSeparator ++ bodyItems F S (x :: xs) := by
  rw [emitItems, bodyItems]

theorem emitPairs_cons (kv : String × PyVal) (kvs : List (String × PyVal)) :
    emitPairs F S (kv :: kvs) = S.itemSeparator ++ bodyPairs F S (kv :: kvs) := by
  rw [emitPairs, bodyPairs]

theorem scanValue_float {x : PyFloat} (hx : Readable F (.float x)) (n : ℕ) {rest : List Char}
    (hr : NumEnd rest) :
    scanValue F (n + 1) (emit F S (.float x) ++ rest) = some (.float x, rest) := by
  cases x with
  | finite q =>
    rw [Readable] at hx
    rw [emit, floatText, scanValue_atom hx.1, hx.2 rest hr]
  | inf => rfl
  | negInf => rfl
  | nan => rfl

mutual

/-- A value is read back from its text, whatever text follows. -/
theorem scanValue_emit : ∀ (v : PyVal), Readable F v → ∀ (n : ℕ) (rest : List Char),
    (emit F S v).length ≤ n → NumEnd rest →
    scanValue F n (emit F S v ++ rest) = some (v, rest)
  | v, hv, 0, rest, hn, _ => by
    obtain ⟨c, cs, h, -⟩ := emit_eq_cons (S := S) hv
    rw [h] at hn
    cases hn
  | .none, _, n + 1, rest, _, _ => rfl
  | .bool true, _, n + 1, rest, _, _ => rfl
  | .bool false, _, n + 1, rest, _, _ => rfl
  | .int k, hk, n + 1, rest, _, hr => by
    rw [Readable] at hk
    rw [emit, scanValue_atom (atomStart_intText k), scanAtom_intText F hk hr]
  | .float x, hv, n + 1, rest, _, hr => scanValue_float hv n hr
  | .str s, _, n + 1, rest, _, _ => by
    rw [emit, quote, List.cons_append, scanValue, if_pos rfl, List.append_assoc,
      List.singleton_append, scanString_escape]
    rfl
  | .list [], _, n + 1, rest, _, _ => rfl
  | .list (x :: xs), hv, n + 1, rest, hn, _ => by
    obtain ⟨c, cs, hc, hw, hb⟩ := emit_eq_cons (S := S) hv.1
    have hitems := scanItems_body (x :: xs) hv (List.cons_ne_nil x xs) n rest
      (by rw [emit, List.length_cons] at hn; exact Nat.le_of_succ_le_succ hn)
    simp only [bodyItems, hc, List.cons_append, List.append_assoc] at hitems
    rw [emit, hc]
    simp only [List.cons_append, List.append_assoc]
    rw [scanValue, if_neg (by decide), if_neg (by decide), if_pos rfl, skipWs_of_not hw,
      List.head?_cons, if_neg (by simpa using hb), hitems]
    rfl
  | .dict [], _, n + 1, rest, _, _ => rfl
  | .dict ((k, v) :: kvs), hv, n + 1, rest, hn, _ => by
    have hpairs := scanPairs_body ((k, v) :: kvs) hv.2 (List.cons_ne_nil _ kvs) n rest
      (by rw [emit, List.length_cons] at hn; exact Nat.le_of_succ_le_succ hn)
    simp only [bodyPairs, quote, List.cons_append, List.append_assoc] at hpairs
    rw [emit, quote]
    simp only [List.cons_append, List.append_assoc]
    rw [scanValue, if_neg (by decide), if_pos rfl, skipWs_of_not (by decide), List.head?_cons,
      if_neg (by decide), hpairs, Option.map_some, dictOfPairs_map_some hv.1]
  | .object _, hv, _, _, _, _ => hv.elim

theorem scanItems_body : ∀ (xs : List PyVal), ReadableItems F xs → xs ≠ [] →
    ∀ (n : ℕ) (rest : List Char), (bodyItems F S xs).length ≤ n →
    scanItems F n (bodyItems F S xs ++ rest) = some (xs, rest)
  | [], _, hne, _, _, _ => absurd rfl hne
  | x :: xs, hx, _, 0, rest, hn => by
    have h1 := one_le_length_emitItems (F := F) (S := S) xs
    rw [bodyItems, List.length_append] at hn
    omega
  | x :: xs, hx, _, n + 1, rest, hn => by
    have h1 := one_le_length_emitItems (F := F) (S := S) xs
    rw [bodyItems, List.length_append] at hn
    have hvalue := scanValue_emit x hx.1 n (emitItems F S xs ++ rest) (by omega)
      (numEnd_emitItems xs rest)
    rw [bodyItems, List.append_assoc, scanItems, hvalue, Option.bind_some]
    cases xs with
    | nil => rfl
    | cons y ys =>
      obtain ⟨ws, hws, hskip⟩ := itemSeparator_eq S
      rw [emitItems_cons, hws, List.length_append, List.length_cons] at hn
      have hrest := scanItems_body (y :: ys) hx.2 (List.cons_ne_nil y ys) n rest (by omega)
      have hstart : skipWs (bodyItems F S (y :: ys) ++ rest) =
          bodyItems F S (y :: ys) ++ rest := by
        rw [bodyItems, List.append_assoc, skipWs_emit hx.2.1]
      rw [emitItems_cons, hws, List.append_assoc, List.cons_append, skipWs_of_not (by decide)]
      simp only
      rw [hskip, hstart, hrest]
      rfl

theorem scanPairs_body : ∀ (kvs : List (String × PyVal)), ReadablePairs F kvs → kvs ≠ [] →
    ∀ (n : ℕ) (rest : List Char), (bodyPairs F S kvs).length ≤ n →
    scanPairs F n (bodyPairs F S kvs ++ rest) =
      some (kvs.map fun kv => (some kv.1, kv.2), rest)
  | [], _, hne, _, _, _ => absurd rfl hne
  | (k, v) :: kvs, hv, _, 0, rest, hn => by
    have h1 := one_le_length_emitPairs (F := F) (S := S) kvs
    rw [bodyPairs, List.length_append, List.length_append, List.length_append] at hn
    omega
  | (k, v) :: kvs, hv, _, n + 1, rest, hn => by
    have h1 := one_le_length_emitPairs (F := F) (S := S) kvs
    obtain ⟨wk, hwk, hskipk⟩ := keySeparator_eq S
    rw [bodyPairs, List.length_append, List.length_append, List.length_append] at hn
    have hvalue := scanValue_emit v hv.1 n (emitPairs F S kvs ++ rest) (by omega)
      (numEnd_emitPairs kvs rest)
    rw [bodyPairs, quote, hwk]
    simp only [List.cons_append, List.append_assoc, List.nil_append]
    rw [scanPairs, scanString_escape, Option.bind_some, skipWs_of_not (by decide)]
    simp only
    rw [hskipk, skipWs_emit hv.1, hvalue, Option.bind_some]
    cases kvs with
    | nil => rfl
    | cons kv kvs =>
      obtain ⟨ws, hws, hskip⟩ := itemSeparator_eq S
      rw [emitPairs_cons, hws, List.length_append, List.length_cons] at hn
      have hrest := scanPairs_body (kv :: kvs) hv.2 (List.cons_ne_nil kv kvs) n rest (by omega)
      have hstart : skipWs (bodyPairs F S (kv :: kvs) ++ rest) =
          bodyPairs F S (kv :: kvs) ++ rest := by
        rw [bodyPairs, quote]
        exact skipWs_of_not (by decide) _
      rw [emitPairs_cons, hws, List.append_assoc, List.cons_append, skipWs_of_not (by decide)]
      simp only
      rw [hskip, hstart, hrest]
      rfl

end

/-- `json.loads(json.dumps(v))` is `v`. -/
theorem loads_emit {v : PyVal} (hv : Readable F v) :
    loads F (String.ofList (emit F S v)) = some v := by
  have h := scanValue_emit (S := S) v hv ((emit F S v).length + 1) [] (by omega) numEnd_nil
  have hskip := skipWs_emit (S := S) hv []
  rw [List.append_nil] at h hskip
  rw [loads, String.toList_ofList, hskip, h]
  rfl

/-- A text determines the value it was written from. -/
theorem eq_of_emit_eq {v w : PyVal} (hv : Readable F v) (hw : Readable F w)
    (h : emit F S v = emit F S w) : v = w := by
  have hl := loads_emit (S := S) hv
  rw [h, loads_emit hw] at hl
  exact (Option.some.inj hl).symm

/-! ### Sorted keys -/

theorem sortKeysItems_eq_map (xs : List PyVal) : sortKeysItems xs = xs.map sortKeys := by
  induction xs with
  | nil => rfl
  | cons x xs ih => rw [sortKeysItems, ih, List.map_cons]

theorem sortKeysPairs_eq_map (kvs : List (String × PyVal)) :
    sortKeysPairs kvs = kvs.map fun kv => (kv.1, sortKeys kv.2) := by
  induction kvs with
  | nil => rfl
  | cons kv kvs ih =>
    obtain ⟨k, v⟩ := kv
    rw [sortKeysPairs, ih, List.map_cons]

theorem map_fst_sortKeysPairs (kvs : List (String × PyVal)) :
    (sortKeysPairs kvs).map Prod.fst = kvs.map Prod.fst := by
  rw [sortKeysPairs_eq_map, List.map_map]
  rfl

theorem readablePairs_iff {kvs : List (String × PyVal)} :
    ReadablePairs F kvs ↔ ∀ kv ∈ kvs, Readable F kv.2 := by
  induction kvs with
  | nil => simp [ReadablePairs]
  | cons kv kvs ih =>
    obtain ⟨k, v⟩ := kv
    rw [ReadablePairs, ih, List.forall_mem_cons]

mutual

theorem readable_sortKeys : ∀ {v : PyVal}, Readable F v → Readable F (sortKeys v)
  | .none, h => h
  | .bool _, h => h
  | .int _, h => h
  | .float _, h => h
  | .str _, h => h
  | .list xs, h => by
    rw [Readable] at h
    rw [sortKeys, Readable]
    exact readableItems_sortKeys h
  | .dict kvs, h => by
    rw [Readable] at h
    rw [sortKeys, Readable]
    have hperm := List.perm_insertionSort keyLe (sortKeysPairs kvs)
    constructor
    · rw [(hperm.map Prod.fst).nodup_iff, map_fst_sortKeysPairs]
      exact h.1
    · have hpairs := readablePairs_iff.1 (readablePairs_sortKeys h.2)
      exact readablePairs_iff.2 fun kv hkv => hpairs kv (hperm.mem_iff.1 hkv)
  | .object _, h => h

theorem readableItems_sortKeys : ∀ {xs : List PyVal}, ReadableItems F xs →
    ReadableItems F (sortKeysItems xs)
  | [], h => h
  | _ :: _, h => ⟨readable_sortKeys h.1, readableItems_sortKeys h.2⟩

theorem readablePairs_sortKeys : ∀ {kvs : List (String × PyVal)}, ReadablePairs F kvs →
    ReadablePairs F (sortKeysPairs kvs)
  | [], h => h
  | (_, _) :: _, h => ⟨readable_sortKeys h.1, readablePairs_sortKeys h.2⟩

end

mutual

theorem serializable_of_readable : ∀ {v : PyVal}, Readable F v → serializable v = true
  | .none, _ => rfl
  | .bool _, _ => rfl
  | .int _, h => by
    rw [Readable] at h
    rw [serializable, decide_eq_true h]
  | .float _, _ => rfl
  | .str _, _ => rfl
  | .list xs, h => by
    rw [Readable] at h
    rw [serializable]
    exact serializableItems_of_readable h
  | .dict kvs, h => by
    rw [Readable] at h
    rw [serializable]
    exact serializablePairs_of_readable h.2
  | .object _, h => h.elim

theorem serializableItems_of_readable : ∀ {xs : List PyVal}, ReadableItems F xs →
    serializableItems xs = true
  | [], _ => rfl
  | x :: xs, h => by
    rw [serializableItems, serializable_of_readable h.1, serializableItems_of_readable h.2]
    rfl

theorem serializablePairs_of_readable : ∀ {kvs : List (String × PyVal)}, ReadablePairs F kvs →
    serializablePairs kvs = true
  | [], _ => rfl
  | (_, v) :: kvs, h => by
    rw [serializablePairs, serializable_of_readable h.1, serializablePairs_of_readable h.2]
    rfl

end

theorem serializableItems_iff {xs : List PyVal} :
    serializableItems xs = true ↔ ∀ x ∈ xs, serializable x = true := by
  induction xs with
  | nil => simp [serializableItems]
  | cons x xs ih => rw [serializableItems, Bool.and_eq_true, ih, List.forall_mem_cons]

theorem serializablePairs_iff {kvs : List (String × PyVal)} :
    serializablePairs kvs = true ↔ ∀ kv ∈ kvs, serializable kv.2 = true := by
  induction kvs with
  | nil => simp [serializablePairs]
  | cons kv kvs ih =>
    obtain ⟨k, v⟩ := kv
    rw [serializablePairs, Bool.and_eq_true, ih, List.forall_mem_cons]

mutual

/-- Sorting the keys does not make a value one that `json.dumps` accepts. -/
theorem serializable_of_sortKeys : ∀ {v : PyVal}, serializable (sortKeys v) = true →
    serializable v = true
  | .none, h => h
  | .bool _, h => h
  | .int _, h => h
  | .float _, h => h
  | .str _, h => h
  | .list xs, h => by
    rw [sortKeys, serializable] at h
    rw [serializable]
    exact serializableItems_of_sortKeys h
  | .dict kvs, h => by
    rw [sortKeys, serializable, serializablePairs_iff] at h
    have hperm := List.perm_insertionSort keyLe (sortKeysPairs kvs)
    rw [serializable]
    exact serializablePairs_of_sortKeys (serializablePairs_iff.2 fun kv hkv =>
      h kv (hperm.mem_iff.2 hkv))
  | .object _, h => h

theorem serializableItems_of_sortKeys : ∀ {xs : List PyVal},
    serializableItems (sortKeysItems xs) = true → serializableItems xs = true
  | [], h => h
  | x :: xs, h => by
    rw [sortKeysItems, serializableItems, Bool.and_eq_true] at h
    rw [serializableItems, serializable_of_sortKeys h.1, serializableItems_of_sortKeys h.2]
    rfl

theorem serializablePairs_of_sortKeys : ∀ {kvs : List (String × PyVal)},
    serializablePairs (sortKeysPairs kvs) = true → serializablePairs kvs = true
  | [], h => h
  | (_, v) :: kvs, h => by
    rw [sortKeysPairs, serializablePairs, Bool.and_eq_true] at h
    rw [serializablePairs, serializable_of_sortKeys h.1, serializablePairs_of_sortKeys h.2]
    rfl

end

/-- `json.dumps(v, sort_keys=True)` raises where `json.dumps(v)` would. -/
theorem dumpsSorted_eq_none {v : PyVal} (hv : serializable v = false) :
    dumpsSorted F S v = none := by
  rw [dumpsSorted, dumps, if_neg]
  intro h
  rw [serializable_of_sortKeys h] at hv
  cases hv

/-- `json.dumps(v, sort_keys=True)` of a readable value. -/
theorem dumpsSorted_of_readable {v : PyVal} (hv : Readable F v) :
    dumpsSorted F S v = some (String.ofList (emit F S (sortKeys v))) := by
  rw [dumpsSorted, dumps, if_pos (serializable_of_readable (readable_sortKeys hv))]

/-- Two values with one text under `sort_keys=True` are equal up to the order of keys. -/
theorem sortKeys_eq_of_emit_eq {v w : PyVal} (hv : Readable F v) (hw : Readable F w)
    (h : emit F S (sortKeys v) = emit F S (sortKeys w)) : sortKeys v = sortKeys w :=
  eq_of_emit_eq (readable_sortKeys hv) (readable_sortKeys hw) h

/-- Looking a key up among sorted items finds what the unsorted items hold, sorted inside. -/
theorem lookup_insertionSort {kvs : List (String × PyVal)} (h : (kvs.map Prod.fst).Nodup)
    (k : String) : ((sortKeysPairs kvs).insertionSort keyLe).lookup k =
      (kvs.lookup k).map sortKeys := by
  have hperm := List.perm_insertionSort keyLe (sortKeysPairs kvs)
  have hsorted : (((sortKeysPairs kvs).insertionSort keyLe).map Prod.fst).Nodup := by
    rw [(hperm.map Prod.fst).nodup_iff, map_fst_sortKeysPairs]
    exact h
  ext v
  rw [Dict.lookup_eq_some_iff_mem hsorted, hperm.mem_iff, sortKeysPairs_eq_map, List.mem_map,
    Option.map_eq_some_iff]
  constructor
  · rintro ⟨⟨k', w⟩, hmem, he⟩
    obtain ⟨rfl, rfl⟩ := Prod.mk.inj he
    exact ⟨w, (Dict.lookup_eq_some_iff_mem h).2 hmem, rfl⟩
  · rintro ⟨w, hw, rfl⟩
    exact ⟨(k, w), (Dict.lookup_eq_some_iff_mem h).1 hw, rfl⟩

/-- A text written with `sort_keys=True` determines what every key of a `dict` maps to. -/
theorem lookup_of_sortKeys_eq {a b : List (String × PyVal)} (ha : (a.map Prod.fst).Nodup)
    (hb : (b.map Prod.fst).Nodup) (h : sortKeys (.dict a) = sortKeys (.dict b)) (k : String) :
    (a.lookup k).map sortKeys = (b.lookup k).map sortKeys := by
  rw [sortKeys, sortKeys, PyVal.dict.injEq] at h
  rw [← lookup_insertionSort ha, ← lookup_insertionSort hb, h]

end Json

end Python
