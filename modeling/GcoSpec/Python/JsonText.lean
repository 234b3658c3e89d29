import GcoSpec.Python.JsonRoundTrip
import GcoSpec.Python.Text
import Mathlib.Data.String.Basic

/-!
# JSON texts inside other texts

What a program that keeps one JSON document a line relies on.

* Under `sort_keys` a text does not depend on the order of items (`sortKeys_dict_eq_of_perm`).
* With `ensure_ascii` a text without floats (`Plain`) holds only printable ASCII characters
  (`printable_sortKeys`), so none that ends a line.
* The text of an object ends where its brace closes: `scanValue` reads the same object whatever
  follows it (`scans_append`). So two texts of objects in one line are no document
  (`loads_append_eq_none`).
-/

namespace Python

namespace Json

/-! ### Sorted keys -/

instance : Std.Total keyLe := ⟨fun a b => le_total a.1 b.1⟩

instance : IsTrans _ keyLe := ⟨fun _ _ _ h h' => le_trans (α := String) h h'⟩

/-- The text under `sort_keys=True` does not depend on the order of the items. -/
theorem sortKeys_dict_eq_of_perm {a b : List (String × PyVal)} (ha : (a.map Prod.fst).Nodup)
    (h : a.Perm b) : sortKeys (.dict a) = sortKeys (.dict b) := by
  have hperm : (sortKeysPairs a).Perm (sortKeysPairs b) := by
    rw [sortKeysPairs_eq_map, sortKeysPairs_eq_map]
    exact h.map _
  have hsort := List.perm_insertionSort keyLe (sortKeysPairs a)
  have hsort' := List.perm_insertionSort keyLe (sortKeysPairs b)
  rw [sortKeys, sortKeys, PyVal.dict.injEq]
  refine List.Perm.eq_of_pairwise ?_ (List.pairwise_insertionSort keyLe _)
    (List.pairwise_insertionSort keyLe _) (hsort.trans (hperm.trans hsort'.symm))
  -- items with one key are one item
  intro x y hx hy hxy hyx
  have hx' := hsort.mem_iff.1 hx
  have hy' := hperm.mem_iff.2 (hsort'.mem_iff.1 hy)
  refine List.inj_on_of_nodup_map (f := Prod.fst) ?_ hx' hy' (le_antisymm hxy hyx)
  rw [map_fst_sortKeysPairs]
  exact ha

variable {F : FloatFormat} {S : Style}

/-! ### Printable texts -/

/-- The printable characters of ASCII. -/
def IsPrintable (c : Char) : Prop := 0x20 ≤ c.toNat ∧ c.toNat < 0x7f

instance : DecidablePred IsPrintable := fun c => by unfold IsPrintable; infer_instance

theorem isPrintable_digitChar : ∀ n : Fin 16, IsPrintable (Nat.digitChar n) := by decide

theorem isPrintable_pad (w n : ℕ) : ∀ c ∈ pad 16 w n, IsPrintable c := by
  induction w generalizing n with
  | zero => simp [pad]
  | succ w ih =>
    intro c hc
    rcases List.mem_append.1 hc with h | h
    · exact ih _ c h
    · rw [List.mem_singleton] at h
      exact h ▸ isPrintable_digitChar ⟨n % 16, Nat.mod_lt n (by decide)⟩

theorem isPrintable_unitEscape (n : ℕ) : ∀ c ∈ unitEscape n, IsPrintable c := by
  intro c hc
  rw [unitEscape, List.mem_cons, List.mem_cons] at hc
  rcases hc with rfl | rfl | hc
  · decide
  · decide
  · exact isPrintable_pad 4 n c hc

theorem isPrintable_codeEscape (n : ℕ) : ∀ c ∈ codeEscape n, IsPrintable c := by
  intro c hc
  unfold codeEscape at hc
  split_ifs at hc
  · exact isPrintable_unitEscape n c hc
  · rcases List.mem_append.1 hc with h | h
    · exact isPrintable_unitEscape _ c h
    · exact isPrintable_unitEscape _ c h

theorem isPrintable_of_shortEscape {c d : Char} (h : shortEscape c = some d) : IsPrintable d := by
  unfold shortEscape at h
  split_ifs at h <;> cases h <;> decide

theorem isPrintable_escapeChar (c : Char) : ∀ d ∈ escapeChar true c, IsPrintable d := by
  intro d hd
  unfold escapeChar at hd
  cases hshort : shortEscape c with
  | some e =>
    rw [hshort] at hd
    simp only [List.mem_cons, List.not_mem_nil, or_false] at hd
    rcases hd with rfl | rfl
    · decide
    · exact isPrintable_of_shortEscape hshort
  | none =>
    rw [hshort] at hd
    dsimp only at hd
    split_ifs at hd with hcode
    · exact isPrintable_codeEscape _ d hd
    · -- what is not escaped is printable
      rw [List.mem_singleton] at hd
      subst hd
      simp only [Bool.true_and, Bool.or_eq_true, decide_eq_true_eq, not_or, not_lt, not_le] at hcode
      exact hcode

theorem isPrintable_quote (s : String) : ∀ c ∈ quote true s, IsPrintable c := by
  intro c hc
  rw [quote, List.mem_cons, List.mem_append, List.mem_flatMap, List.mem_singleton] at hc
  rcases hc with rfl | ⟨d, -, hd⟩ | rfl
  · decide
  · exact isPrintable_escapeChar d c hd
  · decide

theorem isPrintable_of_all {cs : List Char} (h : cs.all fun c => decide (IsPrintable c)) :
    ∀ c ∈ cs, IsPrintable c := by
  intro c hc
  exact of_decide_eq_true (List.all_eq_true.1 h c hc)

theorem isPrintable_separators (S : Style) :
    (∀ c ∈ S.itemSeparator, IsPrintable c) ∧ ∀ c ∈ S.keySeparator, IsPrintable c := by
  unfold Style.itemSeparator Style.keySeparator
  cases S.compact with
  | false => exact ⟨isPrintable_of_all (by decide), isPrintable_of_all (by decide)⟩
  | true => exact ⟨isPrintable_of_all (by decide), isPrintable_of_all (by decide)⟩

/-- The text of the value is printable ASCII. -/
def Printable (F : FloatFormat) (S : Style) (v : PyVal) : Prop := ∀ c ∈ emit F S v, IsPrintable c

theorem printable_none : Printable F S .none := by
  show ∀ c ∈ ['n', 'u', 'l', 'l'], IsPrintable c
  exact isPrintable_of_all (by decide)

theorem printable_bool (b : Bool) : Printable F S (.bool b) := by
  cases b with
  | false =>
    show ∀ c ∈ ['f', 'a', 'l', 's', 'e'], IsPrintable c
    exact isPrintable_of_all (by decide)
  | true =>
    show ∀ c ∈ ['t', 'r', 'u', 'e'], IsPrintable c
    exact isPrintable_of_all (by decide)

theorem printable_int (n : ℤ) : Printable F S (.int n) := by
  have hdigits : ∀ c ∈ Nat.toDigits 10 n.natAbs, IsPrintable c := by
    intro c hc
    have hd := isDigit_toDigits c hc
    simp only [Char.isDigit, Bool.and_eq_true, decide_eq_true_eq, UInt32.le_iff_toNat_le] at hd
    have hlow : 48 ≤ c.toNat := hd.1
    have hhigh : c.toNat ≤ 57 := hd.2
    exact ⟨by omega, by omega⟩
  intro c hc
  rw [emit, intText] at hc
  split_ifs at hc
  · rcases List.mem_cons.1 hc with rfl | h
    · decide
    · exact hdigits c h
  · exact hdigits c hc

theorem printable_str (hS : S.ensureAscii = true) (s : String) : Printable F S (.str s) := by
  intro c hc
  rw [emit, hS] at hc
  exact isPrintable_quote s c hc

theorem printable_emitPairs (hS : S.ensureAscii = true) {kvs : List (String × PyVal)}
    (h : ∀ kv ∈ kvs, Printable F S kv.2) : ∀ c ∈ emitPairs F S kvs, IsPrintable c := by
  induction kvs with
  | nil =>
    show ∀ c ∈ ['}'], IsPrintable c
    exact isPrintable_of_all (by decide)
  | cons kv kvs ih =>
    obtain ⟨k, v⟩ := kv
    obtain ⟨hv, hkvs⟩ := List.forall_mem_cons.1 h
    intro c hc
    simp only [emitPairs, List.mem_append, hS] at hc
    rcases hc with hc | hc | hc | hc | hc
    · exact (isPrintable_separators S).1 c hc
    · exact isPrintable_quote k c hc
    · exact (isPrintable_separators S).2 c hc
    · exact hv c hc
    · exact ih hkvs c hc

theorem printable_dict (hS : S.ensureAscii = true) {kvs : List (String × PyVal)}
    (h : ∀ kv ∈ kvs, Printable F S kv.2) : Printable F S (.dict kvs) := by
  cases kvs with
  | nil =>
    show ∀ c ∈ ['{', '}'], IsPrintable c
    exact isPrintable_of_all (by decide)
  | cons kv kvs =>
    obtain ⟨k, v⟩ := kv
    obtain ⟨hv, hkvs⟩ := List.forall_mem_cons.1 h
    intro c hc
    simp only [emit, List.mem_cons, List.mem_append, hS] at hc
    rcases hc with rfl | hc | hc | hc | hc
    · decide
    · exact isPrintable_quote k c hc
    · exact (isPrintable_separators S).2 c hc
    · exact hv c hc
    · exact printable_emitPairs hS hkvs c hc

/-- Sorting keys leaves a text printable when it makes the values so. -/
theorem printable_sortKeys_dict (hS : S.ensureAscii = true) {kvs : List (String × PyVal)}
    (h : ∀ kv ∈ kvs, Printable F S (sortKeys kv.2)) : Printable F S (sortKeys (.dict kvs)) := by
  rw [sortKeys]
  refine printable_dict hS ?_
  intro kv hkv
  have hmem := (List.perm_insertionSort keyLe (sortKeysPairs kvs)).mem_iff.1 hkv
  rw [sortKeysPairs_eq_map, List.mem_map] at hmem
  obtain ⟨p, hp, rfl⟩ := hmem
  exact h p hp

theorem printable_list {xs : List PyVal} (h : ∀ x ∈ xs, Printable F S x) :
    Printable F S (.list xs) := by
  have hitems : ∀ {xs : List PyVal}, (∀ x ∈ xs, Printable F S x) →
      ∀ c ∈ emitItems F S xs, IsPrintable c := by
    intro xs h
    induction xs with
    | nil =>
      show ∀ c ∈ [']'], IsPrintable c
      exact isPrintable_of_all (by decide)
    | cons x xs ih =>
      obtain ⟨hx, hxs⟩ := List.forall_mem_cons.1 h
      intro c hc
      simp only [emitItems, List.mem_append] at hc
      rcases hc with hc | hc | hc
      · exact (isPrintable_separators S).1 c hc
      · exact hx c hc
      · exact ih hxs c hc
  cases xs with
  | nil =>
    show ∀ c ∈ ['[', ']'], IsPrintable c
    exact isPrintable_of_all (by decide)
  | cons x xs =>
    obtain ⟨hx, hxs⟩ := List.forall_mem_cons.1 h
    intro c hc
    simp only [emit, List.mem_cons, List.mem_append] at hc
    rcases hc with rfl | hc | hc
    · decide
    · exact hx c hc
    · exact hitems hxs c hc

/-! ### Values without floats -/

mutual

/-- A value of `None`, booleans, integers within the digit limit and strings, in lists and
dictionaries. -/
def Plain : PyVal → Prop
  | .int n => IntFits n
  | .float _ => False
  | .list xs => PlainItems xs
  | .dict kvs => (kvs.map Prod.fst).Nodup ∧ PlainPairs kvs
  | .object _ => False
  | _ => True

def PlainItems : List PyVal → Prop
  | [] => True
  | x :: xs => Plain x ∧ PlainItems xs

def PlainPairs : List (String × PyVal) → Prop
  | [] => True
  | (_, v) :: kvs => Plain v ∧ PlainPairs kvs

end

theorem plain_list {xs : List PyVal} (h : ∀ x ∈ xs, Plain x) : Plain (.list xs) := by
  rw [Plain]
  induction xs with
  | nil => trivial
  | cons x xs ih =>
    obtain ⟨hx, hxs⟩ := List.forall_mem_cons.1 h
    exact ⟨hx, ih hxs⟩

theorem plain_dict {kvs : List (String × PyVal)} (hk : (kvs.map Prod.fst).Nodup)
    (h : ∀ kv ∈ kvs, Plain kv.2) : Plain (.dict kvs) := by
  rw [Plain]
  refine ⟨hk, ?_⟩
  clear hk
  induction kvs with
  | nil => trivial
  | cons kv kvs ih =>
    obtain ⟨hv, hkvs⟩ := List.forall_mem_cons.1 h
    exact ⟨hv, ih hkvs⟩

mutual

/-- Its text is read back, whatever the format of floats. -/
theorem readable_of_plain : ∀ {v : PyVal}, Plain v → Readable F v
  | .none, _ => trivial
  | .bool _, _ => trivial
  | .int _, h => h
  | .float _, h => h.elim
  | .str _, _ => trivial
  | .list xs, h => by
    rw [Plain] at h
    rw [Readable]
    exact readableItems_of_plain h
  | .dict kvs, h => by
    rw [Plain] at h
    rw [Readable]
    exact ⟨h.1, readablePairs_of_plain h.2⟩
  | .object _, h => h.elim

theorem readableItems_of_plain : ∀ {xs : List PyVal}, PlainItems xs → ReadableItems F xs
  | [], _ => trivial
  | _ :: _, h => ⟨readable_of_plain h.1, readableItems_of_plain h.2⟩

theorem readablePairs_of_plain : ∀ {kvs : List (String × PyVal)}, PlainPairs kvs →
    ReadablePairs F kvs
  | [], _ => trivial
  | (_, _) :: _, h => ⟨readable_of_plain h.1, readablePairs_of_plain h.2⟩

end

mutual

/-- And with `ensure_ascii` it is printable, also with the keys sorted. -/
theorem printable_sortKeys (hS : S.ensureAscii = true) :
    ∀ {v : PyVal}, Plain v → Printable F S (sortKeys v)
  | .none, _ => printable_none
  | .bool b, _ => printable_bool b
  | .int n, _ => printable_int n
  | .float _, h => h.elim
  | .str s, _ => printable_str hS s
  | .list xs, h => by
    rw [Plain] at h
    rw [sortKeys, sortKeysItems_eq_map]
    exact printable_list (List.forall_mem_map.2 (printable_sortKeysItems hS h))
  | .dict kvs, h => by
    rw [Plain] at h
    exact printable_sortKeys_dict hS (printable_sortKeysPairs hS h.2)
  | .object _, h => h.elim

theorem printable_sortKeysItems (hS : S.ensureAscii = true) : ∀ {xs : List PyVal},
    PlainItems xs → ∀ x ∈ xs, Printable F S (sortKeys x)
  | [], _ => List.forall_mem_nil _
  | _ :: _, h =>
      List.forall_mem_cons.2 ⟨printable_sortKeys hS h.1, printable_sortKeysItems hS h.2⟩

theorem printable_sortKeysPairs (hS : S.ensureAscii = true) : ∀ {kvs : List (String × PyVal)},
    PlainPairs kvs → ∀ kv ∈ kvs, Printable F S (sortKeys kv.2)
  | [], _ => List.forall_mem_nil _
  | (_, _) :: _, h =>
      List.forall_mem_cons.2 ⟨printable_sortKeys hS h.1, printable_sortKeysPairs hS h.2⟩

end

/-! ### Strings that end -/

theorem readUnit_append {cs rest : List Char} {n : ℕ} (h : readUnit cs = some (n, rest))
    (t : List Char) : readUnit (cs ++ t) = some (n, rest ++ t) := by
  unfold readUnit at h
  split at h
  · next a b c d ds =>
    obtain ⟨m, hm, hpair⟩ := Option.map_eq_some_iff.1 h
    obtain ⟨rfl, rfl⟩ := Prod.mk.inj hpair
    show (readHex 0 [a, b, c, d]).map _ = _
    rw [hm, Option.map_some]
    rfl
  · cases h

/-- A text that is not cut at its start, or just before the letter of an escape. -/
def Uncut (cs : List Char) : Prop := cs ≠ [] ∧ cs ≠ ['\\']

theorem joinUnit_append {hi : ℕ} {cs rest : List Char} {c : Option Char}
    (h : joinUnit hi cs = some (c, rest)) (hrest : Uncut rest) (t : List Char) :
    joinUnit hi (cs ++ t) = some (c, rest ++ t) := by
  unfold joinUnit at h ⊢
  by_cases hhi : isHighSurrogate hi = true
  · rw [if_pos hhi] at h ⊢
    split at h
    · next ds =>
      -- a second escape follows, and all of it
      obtain ⟨p, hp, hpair⟩ := Option.map_eq_some_iff.1 h
      have hread := readUnit_append hp t
      show (readUnit (ds ++ t)).map _ = _
      rw [hread, Option.map_some]
      split_ifs at hpair with hlow
      · obtain ⟨rfl, rfl⟩ := Prod.mk.inj hpair
        rw [if_pos hlow]
      · obtain ⟨rfl, rfl⟩ := Prod.mk.inj hpair
        rw [if_neg hlow]
    · next hother =>
      cases h
      obtain ⟨hne, hcut⟩ := hrest
      split
      · next ds heq =>
        -- no escape begins where none began before
        exfalso
        rcases cs with _ | ⟨a, _ | ⟨b, tail⟩⟩
        · exact hne rfl
        · exact hcut (by rw [(List.cons.inj heq).1])
        · obtain ⟨rfl, hu⟩ := List.cons.inj heq
          have hb : b = 'u' := (List.cons.inj hu).1
          exact hother tail (by rw [hb])
      · rfl
  · rw [if_neg hhi] at h ⊢
    split_ifs at h ⊢ <;> cases h <;> rfl

theorem readChar_append {cs rest : List Char} {c : Option Char} (h : readChar cs = some (c, rest))
    (hrest : Uncut rest) (t : List Char) : readChar (cs ++ t) = some (c, rest ++ t) := by
  unfold readChar at h
  split at h
  · next ds =>
    obtain ⟨p, hp, hjoin⟩ := Option.bind_eq_some_iff.1 h
    show (readUnit (ds ++ t)).bind _ = _
    rw [readUnit_append hp t, Option.bind_some]
    exact joinUnit_append hjoin hrest t
  · next d ds hd =>
    obtain ⟨e, he, hpair⟩ := Option.map_eq_some_iff.1 h
    cases hpair
    rw [List.cons_append, List.cons_append, readChar.eq_2 _ _ hd, he, Option.map_some]
  · next d ds hunit hescape =>
    split_ifs at h with hcontrol
    cases h
    have hd : d ≠ '\\' := by
      rintro rfl
      cases rest with
      | nil => exact hrest.1 rfl
      | cons e es =>
        by_cases he : e = 'u'
        · exact hunit es rfl (by rw [he])
        · exact hescape e es rfl rfl
    rw [List.cons_append, readChar.eq_3 _ _ (by rintro _ rfl; exact absurd rfl hd)
      (by rintro _ _ rfl; exact absurd rfl hd), if_neg hcontrol]
  · cases h

/-- Characters are read up to a quote, so the text was not cut before it. -/
theorem uncut_of_scanChars {n : ℕ} {cs : List Char} {p : List (Option Char) × List Char}
    (h : scanChars n cs = some p) : Uncut cs := by
  have hnil : ∀ k, scanChars k [] = none := by
    intro k
    cases k <;> rfl
  constructor
  · rintro rfl
    rw [hnil] at h
    cases h
  · rintro rfl
    cases n with
    | zero => cases h
    | succ n =>
      rw [scanChars.eq_3 _ _ (by rintro _ ⟨⟩)] at h
      obtain ⟨q, hq, hrest⟩ := Option.bind_eq_some_iff.1 h
      cases hq
      rw [hnil] at hrest
      cases hrest

theorem scanChars_append {n m : ℕ} {cs rest : List Char} {xs : List (Option Char)}
    (h : scanChars n cs = some (xs, rest)) (hnm : n ≤ m) (t : List Char) :
    scanChars m (cs ++ t) = some (xs, rest ++ t) := by
  induction n generalizing m cs xs with
  | zero => cases h
  | succ n ih =>
    obtain ⟨m, rfl⟩ : ∃ k, m = k + 1 := ⟨m - 1, by omega⟩
    by_cases hquote : ∃ ds, cs = '\"' :: ds
    · obtain ⟨ds, rfl⟩ := hquote
      cases h
      rfl
    · have hne : ∀ ds, cs = '\"' :: ds → False := fun ds hds => hquote ⟨ds, hds⟩
      rw [scanChars.eq_3 _ _ hne] at h
      obtain ⟨⟨c, ds⟩, hchar, h⟩ := Option.bind_eq_some_iff.1 h
      obtain ⟨⟨ys, rest'⟩, hchars, hpair⟩ := Option.map_eq_some_iff.1 h
      obtain ⟨rfl, rfl⟩ := Prod.mk.inj hpair
      have hread := readChar_append hchar (uncut_of_scanChars hchars) t
      have hne' : ∀ es, cs ++ t = '\"' :: es → False := by
        intro es hes
        cases cs with
        | nil => cases hchar
        | cons d cs => exact hne cs (by rw [(List.cons.inj hes).1])
      rw [scanChars.eq_3 _ _ hne', hread, Option.bind_some, ih hchars (by omega),
        Option.map_some]

/-- A string ends at its closing quote. -/
theorem scanString_append {cs rest : List Char} {s : Option String}
    (h : scanString cs = some (s, rest)) (t : List Char) :
    scanString (cs ++ t) = some (s, rest ++ t) := by
  obtain ⟨⟨xs, rest'⟩, hchars, hpair⟩ := Option.map_eq_some_iff.1 h
  obtain ⟨rfl, rfl⟩ := Prod.mk.inj hpair
  rw [scanString, scanChars_append hchars (by rw [List.length_append]; omega), Option.map_some]

/-! ### Numbers that end -/

/-- What follows a value that has ended: something that does not continue a number. -/
def Ended (rest : List Char) : Prop := rest ≠ [] ∧ NumEnd rest

theorem takeWhile_append_of_ended {p : Char → Bool} {cs : List Char} (h : cs.dropWhile p ≠ [])
    (t : List Char) : (cs ++ t).takeWhile p = cs.takeWhile p ∧
      (cs ++ t).dropWhile p = cs.dropWhile p ++ t := by
  induction cs with
  | nil => exact absurd rfl h
  | cons c cs ih =>
    by_cases hc : p c = true
    · rw [List.dropWhile_cons_of_pos hc] at h
      obtain ⟨htake, hdrop⟩ := ih h
      simp [hc, htake, hdrop]
    · simp [hc]

theorem scanInt_append {cs ds rest : List Char} (h : scanInt cs = some (ds, rest))
    (hrest : rest ≠ []) (t : List Char) : scanInt (cs ++ t) = some (ds, rest ++ t) := by
  unfold scanInt at h
  split at h
  · cases h
    rfl
  · next c cs hc =>
    split_ifs at h with hdigit
    cases h
    obtain ⟨htake, hdrop⟩ := takeWhile_append_of_ended hrest t
    rw [List.cons_append, scanInt.eq_2 _ _ hc, if_pos hdigit, htake, hdrop]
  · cases h

theorem scanSign_append {cs : List Char} (h : cs ≠ []) (t : List Char) :
    scanSign (cs ++ t) = ((scanSign cs).1, (scanSign cs).2 ++ t) := by
  cases cs with
  | nil => exact absurd rfl h
  | cons c cs =>
    by_cases hplus : c = '+'
    · subst hplus
      rfl
    · by_cases hminus : c = '-'
      · subst hminus
        rfl
      · rw [List.cons_append, scanSign.eq_3 _ (by rintro _ ⟨⟩; exact hplus rfl)
          (by rintro _ ⟨⟩; exact hminus rfl), scanSign.eq_3 _ (by rintro _ ⟨⟩; exact hplus rfl)
          (by rintro _ ⟨⟩; exact hminus rfl), List.cons_append]

/-- An exponent that ended, and that what it was read from is no fraction. -/
theorem scanExp_append {cs e rest : List Char} (h : scanExp cs = (e, rest)) (hrest : Ended rest)
    (t : List Char) :
    scanExp (cs ++ t) = (e, rest ++ t) ∧ cs ≠ [] ∧ cs.head? ≠ some '.' := by
  cases cs with
  | nil =>
    cases h
    exact absurd rfl hrest.1
  | cons c cs =>
    rw [scanExp] at h
    dsimp only at h
    split_ifs at h with hexp
    · obtain ⟨rfl, rfl⟩ := Prod.mk.inj h
      obtain ⟨hletter, hdigits⟩ := hexp
      have hne : cs ≠ [] := by
        rintro rfl
        exact hdigits rfl
      obtain ⟨htake, hdrop⟩ := takeWhile_append_of_ended hrest.1 t
      refine ⟨?_, List.cons_ne_nil c cs, ?_⟩
      · rw [List.cons_append, scanExp, scanSign_append hne]
        dsimp only
        rw [htake, hdrop, if_pos ⟨hletter, hdigits⟩]
      · rcases hletter with rfl | rfl <;> simp
    · obtain ⟨rfl, rfl⟩ := Prod.mk.inj h
      obtain ⟨-, hdot, he, hE⟩ := hrest.2 c rfl
      refine ⟨?_, List.cons_ne_nil c cs, by simpa using hdot⟩
      rw [List.cons_append, scanExp]
      exact if_neg fun hexp => hexp.1.elim he hE

theorem scanFrac_append {cs f rest : List Char} (h : scanFrac cs = (f, rest)) (hne : rest ≠ [])
    (hdot : rest.head? ≠ some '.') (t : List Char) :
    scanFrac (cs ++ t) = (f, rest ++ t) ∧ cs ≠ [] := by
  unfold scanFrac at h
  split at h
  · next ds =>
    split_ifs at h with hdigits
    · obtain ⟨rfl, rfl⟩ := Prod.mk.inj h
      exact absurd rfl hdot
    · obtain ⟨rfl, rfl⟩ := Prod.mk.inj h
      obtain ⟨htake, hdrop⟩ := takeWhile_append_of_ended hne t
      refine ⟨?_, List.cons_ne_nil _ _⟩
      rw [List.cons_append, scanFrac, htake, hdrop, if_neg hdigits]
  · next hother =>
    obtain ⟨rfl, rfl⟩ := Prod.mk.inj h
    refine ⟨scanFrac.eq_2 _ ?_, hne⟩
    intro ds hds
    cases cs with
    | nil => exact hne rfl
    | cons c cs => exact hdot (by rw [(List.cons.inj hds).1, List.head?_cons])

theorem scanUnsigned_append {neg : Bool} {cs rest : List Char} {v : PyVal}
    (h : scanUnsigned F neg cs = some (v, rest)) (hrest : Ended rest) (t : List Char) :
    scanUnsigned F neg (cs ++ t) = some (v, rest ++ t) := by
  obtain ⟨⟨ds, afterInt⟩, hint, h⟩ := Option.bind_eq_some_iff.1 h
  rcases hfrac : scanFrac afterInt with ⟨frac, afterFrac⟩
  rcases hexp : scanExp afterFrac with ⟨exp, afterExp⟩
  simp only [hfrac, hexp] at h
  have hlast : afterExp = rest := by
    split_ifs at h <;> cases h <;> rfl
  subst hlast
  obtain ⟨hexp', hne, hdot⟩ := scanExp_append hexp hrest t
  obtain ⟨hfrac', hne'⟩ := scanFrac_append hfrac hne hdot t
  rw [scanUnsigned, scanInt_append hint hne' t, Option.bind_some]
  simp only [hfrac', hexp']
  by_cases hinteger : frac = [] ∧ exp = []
  · rw [if_pos hinteger] at h ⊢
    by_cases hlength : ds.length ≤ maxStrDigits
    · rw [if_pos hlength] at h ⊢
      cases h
      rfl
    · rw [if_neg hlength] at h
      cases h
  · rw [if_neg hinteger] at h ⊢
    cases h
    rfl

/-- A text that is no literal: what `scanNumber` reads starts with a digit, perhaps after a sign. -/
theorem of_scanInt_eq_some {cs : List Char} {p : List Char × List Char}
    (h : scanInt cs = some p) : ∃ c ds, cs = c :: ds ∧ c.isDigit = true := by
  unfold scanInt at h
  split at h
  · exact ⟨_, _, rfl, by decide⟩
  · next c ds hc =>
    split_ifs at h with hdigit
    exact ⟨c, ds, rfl, hdigit⟩
  · cases h

theorem scanNumber_append {cs rest : List Char} {v : PyVal}
    (h : scanNumber F cs = some (v, rest)) (hrest : Ended rest) (t : List Char) :
    scanAtom F (cs ++ t) = some (v, rest ++ t) := by
  unfold scanNumber at h
  split at h
  · next ds =>
    have happend := scanUnsigned_append h hrest t
    obtain ⟨p, hint, -⟩ := Option.bind_eq_some_iff.1 h
    obtain ⟨c, es, rfl, hc⟩ := of_scanInt_eq_some hint
    rw [List.cons_append, List.cons_append, scanAtom_minus F hc]
    exact happend
  · have happend := scanUnsigned_append h hrest t
    obtain ⟨p, hint, -⟩ := Option.bind_eq_some_iff.1 h
    obtain ⟨c, es, rfl, hc⟩ := of_scanInt_eq_some hint
    rw [List.cons_append, scanAtom_of_isDigit F hc]
    exact happend

/-- A literal or a number that ended. -/
theorem scanAtom_append {cs rest : List Char} {v : PyVal} (h : scanAtom F cs = some (v, rest))
    (hrest : Ended rest) (t : List Char) : scanAtom F (cs ++ t) = some (v, rest ++ t) := by
  unfold scanAtom at h
  split at h
  · cases h; rfl
  · cases h; rfl
  · cases h; rfl
  · cases h; rfl
  · cases h; rfl
  · cases h; rfl
  · exact scanNumber_append h hrest t

/-! ### Values that end -/

theorem skipWs_append {cs : List Char} (h : skipWs cs ≠ []) (t : List Char) :
    skipWs (cs ++ t) = skipWs cs ++ t :=
  (takeWhile_append_of_ended h t).2

theorem skipWs_append_of_eq_cons {cs rest : List Char} {c : Char} (h : skipWs cs = c :: rest)
    (t : List Char) : skipWs (cs ++ t) = c :: (rest ++ t) := by
  rw [skipWs_append (by rw [h]; exact List.cons_ne_nil c rest), h, List.cons_append]

/-- What a reader found after whitespace is not at the end of the text. -/
theorem skipWs_append_of_scan {α : Type} {scan : List Char → Option α} (hnil : scan [] = none)
    {cs : List Char} {a : α} (h : scan (skipWs cs) = some a) :
    skipWs cs ≠ [] ∧ ∀ t, skipWs (cs ++ t) = skipWs cs ++ t := by
  have hne : skipWs cs ≠ [] := by
    intro hskip
    rw [hskip, hnil] at h
    cases h
  exact ⟨hne, skipWs_append hne⟩

/-- Whitespace and the separators end a value. -/
theorem ended_of_skipWs {cs rest : List Char} {c : Char} (h : skipWs cs = c :: rest)
    (hc : c = ',' ∨ c = ']' ∨ c = '}') : Ended cs := by
  cases cs with
  | nil => cases h
  | cons d ds =>
    refine ⟨List.cons_ne_nil d ds, numEnd_cons ds ?_⟩
    by_cases hd : isWs d = true
    · simp only [isWs, Bool.or_eq_true, decide_eq_true_eq] at hd
      rcases hd with ((rfl | rfl) | rfl) | rfl <;> decide
    · rw [skipWs_of_not (by simpa using hd)] at h
      obtain ⟨rfl, -⟩ := List.cons.inj h
      rcases hc with rfl | rfl | rfl <;> decide

/-- With fuel `n`, what the scanner has read does not depend on what follows. -/
structure Scans (F : FloatFormat) (n : ℕ) : Prop where
  value : ∀ {cs v rest m}, scanValue F n cs = some (v, rest) →
    cs.head? = some '{' ∨ Ended rest → n ≤ m → ∀ t, scanValue F m (cs ++ t) = some (v, rest ++ t)
  items : ∀ {cs xs rest m}, scanItems F n cs = some (xs, rest) → n ≤ m →
    ∀ t, scanItems F m (cs ++ t) = some (xs, rest ++ t)
  pairs : ∀ {cs kvs rest m}, scanPairs F n cs = some (kvs, rest) → n ≤ m →
    ∀ t, scanPairs F m (cs ++ t) = some (kvs, rest ++ t)

theorem scanValue_nil (F : FloatFormat) (n : ℕ) : scanValue F n [] = none := by
  cases n <;> rfl

theorem scanItems_nil (F : FloatFormat) (n : ℕ) : scanItems F n [] = none := by
  cases n with
  | zero => rfl
  | succ n => rw [scanItems, scanValue_nil, Option.bind_none]

theorem scanPairs_nil (F : FloatFormat) (n : ℕ) : scanPairs F n [] = none := by
  cases n <;> rfl

theorem Scans.value_succ {n : ℕ} (ih : Scans F n) {cs rest : List Char} {v : PyVal} {m : ℕ}
    (h : scanValue F (n + 1) cs = some (v, rest)) (hend : cs.head? = some '{' ∨ Ended rest)
    (hnm : n + 1 ≤ m) (t : List Char) : scanValue F m (cs ++ t) = some (v, rest ++ t) := by
  obtain ⟨m, rfl⟩ : ∃ k, m = k + 1 := ⟨m - 1, by omega⟩
  have hnm : n ≤ m := by omega
  cases cs with
  | nil =>
    rw [scanValue_nil] at h
    cases h
  | cons c cs =>
    rw [scanValue] at h
    rw [List.cons_append, scanValue]
    split_ifs at h with hquote hbrace hclose hbracket hclose
    · obtain ⟨⟨s, rest'⟩, hstring, hpair⟩ := Option.map_eq_some_iff.1 h
      obtain ⟨rfl, rfl⟩ := Prod.mk.inj hpair
      rw [if_pos hquote, scanString_append hstring, Option.map_some]
    · obtain ⟨rfl, rfl⟩ := Prod.mk.inj (Option.some.inj h)
      obtain ⟨hne, hskip⟩ := skipWs_append_of_scan List.head?_nil hclose
      rw [if_neg hquote, if_pos hbrace, hskip, List.head?_append_of_ne_nil _ hne, if_pos hclose,
        List.tail_append_of_ne_nil hne]
    · obtain ⟨⟨kvs, rest'⟩, hpairs, hpair⟩ := Option.map_eq_some_iff.1 h
      obtain ⟨rfl, rfl⟩ := Prod.mk.inj hpair
      obtain ⟨hne, hskip⟩ := skipWs_append_of_scan (scanPairs_nil F n) hpairs
      rw [if_neg hquote, if_pos hbrace, hskip, List.head?_append_of_ne_nil _ hne, if_neg hclose,
        ih.pairs hpairs hnm t, Option.map_some]
    · obtain ⟨rfl, rfl⟩ := Prod.mk.inj (Option.some.inj h)
      obtain ⟨hne, hskip⟩ := skipWs_append_of_scan List.head?_nil hclose
      rw [if_neg hquote, if_neg hbrace, if_pos hbracket, hskip,
        List.head?_append_of_ne_nil _ hne, if_pos hclose, List.tail_append_of_ne_nil hne]
    · obtain ⟨⟨xs, rest'⟩, hitems, hpair⟩ := Option.map_eq_some_iff.1 h
      obtain ⟨rfl, rfl⟩ := Prod.mk.inj hpair
      obtain ⟨hne, hskip⟩ := skipWs_append_of_scan (scanItems_nil F n) hitems
      rw [if_neg hquote, if_neg hbrace, if_pos hbracket, hskip,
        List.head?_append_of_ne_nil _ hne, if_neg hclose, ih.items hitems hnm t, Option.map_some]
    · have hended : Ended rest := by
        rcases hend with hhead | hended
        · exact absurd (Option.some.inj hhead) hbrace
        · exact hended
      rw [if_neg hquote, if_neg hbrace, if_neg hbracket, ← List.cons_append]
      exact scanAtom_append h hended t

theorem Scans.items_succ {n : ℕ} (ih : Scans F n) {cs rest : List Char} {xs : List PyVal} {m : ℕ}
    (h : scanItems F (n + 1) cs = some (xs, rest)) (hnm : n + 1 ≤ m) (t : List Char) :
    scanItems F m (cs ++ t) = some (xs, rest ++ t) := by
  obtain ⟨m, rfl⟩ : ∃ k, m = k + 1 := ⟨m - 1, by omega⟩
  have hnm : n ≤ m := by omega
  rw [scanItems] at h
  obtain ⟨⟨v, afterValue⟩, hvalue, h⟩ := Option.bind_eq_some_iff.1 h
  dsimp only at h
  split at h
  · next rest' hskip =>
    obtain ⟨rfl, rfl⟩ := Prod.mk.inj (Option.some.inj h)
    have hended := ended_of_skipWs hskip (by simp)
    rw [scanItems, ih.value hvalue (.inr hended) hnm t, Option.bind_some]
    dsimp only
    rw [skipWs_append_of_eq_cons hskip]
    rfl
  · next rest' hskip =>
    obtain ⟨⟨ys, rest''⟩, hitems, hpair⟩ := Option.map_eq_some_iff.1 h
    obtain ⟨rfl, rfl⟩ := Prod.mk.inj hpair
    have hended := ended_of_skipWs hskip (by simp)
    have hrest := (skipWs_append_of_scan (scanItems_nil F n) hitems).2 t
    rw [scanItems, ih.value hvalue (.inr hended) hnm t, Option.bind_some]
    dsimp only
    rw [skipWs_append_of_eq_cons hskip]
    show (scanItems F m (skipWs (rest' ++ t))).map _ = _
    rw [hrest, ih.items hitems hnm t, Option.map_some]
  · cases h

theorem Scans.pairs_succ {n : ℕ} (ih : Scans F n) {cs rest : List Char}
    {kvs : List (Option String × PyVal)} {m : ℕ} (h : scanPairs F (n + 1) cs = some (kvs, rest))
    (hnm : n + 1 ≤ m) (t : List Char) : scanPairs F m (cs ++ t) = some (kvs, rest ++ t) := by
  obtain ⟨m, rfl⟩ : ∃ k, m = k + 1 := ⟨m - 1, by omega⟩
  have hnm : n ≤ m := by omega
  unfold scanPairs at h
  split at h
  · next n' ds hn =>
    obtain rfl : n = n' := by omega
    obtain ⟨⟨k, afterKey⟩, hkey, h⟩ := Option.bind_eq_some_iff.1 h
    dsimp only at h
    split at h
    · next afterColon hcolon =>
      obtain ⟨⟨v, afterValue⟩, hvalue, h⟩ := Option.bind_eq_some_iff.1 h
      have hstart := (skipWs_append_of_scan (scanValue_nil F n) hvalue).2 t
      rw [List.cons_append, scanPairs, scanString_append hkey, Option.bind_some]
      dsimp only at h ⊢
      rw [skipWs_append_of_eq_cons hcolon]
      show (scanValue F m (skipWs (afterColon ++ t))).bind _ = _
      rw [hstart]
      split at h
      · next rest' hskip =>
        obtain ⟨rfl, rfl⟩ := Prod.mk.inj (Option.some.inj h)
        have hended := ended_of_skipWs hskip (by simp)
        rw [ih.value hvalue (.inr hended) hnm t, Option.bind_some]
        dsimp only
        rw [skipWs_append_of_eq_cons hskip]
        rfl
      · next rest' hskip =>
        obtain ⟨⟨kvs', rest''⟩, hpairs, hpair⟩ := Option.map_eq_some_iff.1 h
        obtain ⟨rfl, rfl⟩ := Prod.mk.inj hpair
        have hended := ended_of_skipWs hskip (by simp)
        have hrest := (skipWs_append_of_scan (scanPairs_nil F n) hpairs).2 t
        rw [ih.value hvalue (.inr hended) hnm t, Option.bind_some]
        dsimp only
        rw [skipWs_append_of_eq_cons hskip]
        show (scanPairs F m (skipWs (rest' ++ t))).map _ = _
        rw [hrest, ih.pairs hpairs hnm t, Option.map_some]
      · cases h
    · cases h
  · cases h

theorem scans (F : FloatFormat) (n : ℕ) : Scans F n := by
  induction n with
  | zero =>
    exact
      { value := by rintro _ _ _ _ ⟨⟩
        items := by rintro _ _ _ _ ⟨⟩
        pairs := by rintro _ _ _ _ ⟨⟩ }
  | succ n ih => exact { value := ih.value_succ, items := ih.items_succ, pairs := ih.pairs_succ }

/-! ### Documents -/

theorem scanAtom_ne_dict {cs rest : List Char} {kvs : List (String × PyVal)} :
    scanAtom F cs ≠ some (.dict kvs, rest) := by
  intro h
  unfold scanAtom at h
  split at h
  · cases h
  · cases h
  · cases h
  · cases h
  · cases h
  · cases h
  · unfold scanNumber at h
    split at h <;>
    · obtain ⟨p, -, h⟩ := Option.bind_eq_some_iff.1 h
      dsimp only at h
      split_ifs at h <;> cases h

theorem head?_of_scanValue_dict {n : ℕ} {cs rest : List Char} {kvs : List (String × PyVal)}
    (h : scanValue F n cs = some (.dict kvs, rest)) : cs.head? = some '{' := by
  cases n with
  | zero => cases h
  | succ n =>
    cases cs with
    | nil => cases h
    | cons c cs =>
      rw [scanValue] at h
      by_cases hquote : c = '\"'
      · rw [if_pos hquote] at h
        obtain ⟨⟨s, rest'⟩, -, hpair⟩ := Option.map_eq_some_iff.1 h
        cases s <;> cases hpair
      by_cases hbrace : c = '{'
      · rw [hbrace, List.head?_cons]
      rw [if_neg hquote, if_neg hbrace] at h
      by_cases hbracket : c = '['
      · rw [if_pos hbracket] at h
        split_ifs at h
        · cases h
        · obtain ⟨p, -, hpair⟩ := Option.map_eq_some_iff.1 h
          cases hpair
      · rw [if_neg hbracket] at h
        exact absurd h scanAtom_ne_dict

/-- The text of an object and more is no document. -/
theorem loads_append_eq_none {s t : List Char} {kvs : List (String × PyVal)}
    (h : loads F (String.ofList s) = some (.dict kvs)) (ht : skipWs t ≠ []) :
    loads F (String.ofList (s ++ t)) = none := by
  unfold loads at h ⊢
  rw [String.toList_ofList] at h ⊢
  obtain ⟨⟨v, rest⟩, hscan, hend⟩ := Option.bind_eq_some_iff.1 h
  dsimp only at hend
  split_ifs at hend with hrest
  cases hend
  have hstart := (skipWs_append_of_scan (scanValue_nil F _) hscan).2 t
  have hall := (scans F _).value (m := (s ++ t).length + 1) hscan
    (.inl (head?_of_scanValue_dict hscan)) (by rw [List.length_append]; omega) t
  have hskip : skipWs (rest ++ t) = skipWs t :=
    List.dropWhile_append_of_pos (List.dropWhile_eq_nil_iff.1 hrest)
  rw [hstart, hall, Option.bind_some, hskip, if_neg ht]

/-- A document may follow whitespace. -/
theorem loads_ws_append {v : PyVal} (hv : Readable F v) {ws : List Char}
    (hws : ∀ c ∈ ws, isWs c = true) : loads F (String.ofList (ws ++ emit F S v)) = some v := by
  have hskip : skipWs (ws ++ emit F S v) = emit F S v := by
    have hemit := skipWs_emit (S := S) hv []
    rw [List.append_nil] at hemit
    rw [skipWs, List.dropWhile_append_of_pos hws]
    exact hemit
  have hscan := scanValue_emit (S := S) v hv ((ws ++ emit F S v).length + 1) []
    (by rw [List.length_append]; omega) numEnd_nil
  rw [List.append_nil] at hscan
  rw [loads, String.toList_ofList, hskip, hscan]
  rfl

/-- No document starts with a whitespace character that JSON does not know. -/
theorem loads_eq_none_of_isSpace {cs rest : List Char} {c : Char} (h : skipWs cs = c :: rest)
    (hc : isSpace c = true) : loads F (String.ofList cs) = none := by
  have hne : ∀ d : Char, isSpace d = false → c ≠ d := by
    rintro d hd rfl
    rw [hc] at hd
    cases hd
  have hdigit : c.isDigit = false := by
    by_contra hd
    simp only [Bool.not_eq_false, Char.isDigit, Bool.and_eq_true, decide_eq_true_eq,
      UInt32.le_iff_toNat_le] at hd
    have hlow : 48 ≤ c.toNat := hd.1
    have hhigh : c.toNat ≤ 57 := hd.2
    simp only [isSpace, Bool.or_eq_true, Bool.and_eq_true, decide_eq_true_eq, beq_iff_eq] at hc
    omega
  have hatom : scanAtom F (c :: rest) = none := by
    rw [scanAtom.eq_7 _ _ (by rintro _ ⟨⟩; exact hne _ rfl rfl)
      (by rintro _ ⟨⟩; exact hne _ rfl rfl) (by rintro _ ⟨⟩; exact hne _ rfl rfl)
      (by rintro _ ⟨⟩; exact hne _ rfl rfl) (by rintro _ ⟨⟩; exact hne _ rfl rfl)
      (by rintro _ ⟨⟩; exact hne _ rfl rfl),
      scanNumber.eq_2 _ _ (by rintro _ ⟨⟩; exact hne _ rfl rfl), scanUnsigned,
      scanInt.eq_2 _ _ (hne _ rfl), hdigit]
    rfl
  rw [loads, String.toList_ofList, h, scanValue, if_neg (hne _ rfl), if_neg (hne _ rfl),
    if_neg (hne _ rfl), hatom, Option.bind_none]

end Json

end Python
