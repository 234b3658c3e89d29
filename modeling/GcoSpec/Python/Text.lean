import Mathlib.Data.List.DropRight
import Mathlib.Data.List.TakeWhile
import Mathlib.Tactic.Common

/-!
# Python strings

The `str` operations a Python program splits and compares words with. A `str` without lone
surrogates is a Lean `String`: both are sequences of Unicode scalar values.

* `isSpace` is the whitespace of `str.split()` and `str.strip()` (they share one table);
* `strip`, `split`, `replace` follow the methods of those names;
* `strOr a b` is the expression `a or b` on an optional string.
-/

namespace Python

/-- The code points `str.isspace` accepts. -/
def isSpace (c : Char) : Bool :=
  let n := c.toNat
  (9 ≤ n && n ≤ 13) || (28 ≤ n && n ≤ 32) || n == 0x85 || n == 0xa0 || n == 0x1680 ||
    (0x2000 ≤ n && n ≤ 0x200a) || n == 0x2028 || n == 0x2029 || n == 0x202f || n == 0x205f ||
    n == 0x3000

/-- `s.strip()`. -/
def strip (s : String) : String :=
  String.ofList ((s.toList.dropWhile isSpace).rdropWhile isSpace)

/-- The words of a text, when the letters of `w` (last first) have been read already. -/
def words (w : List Char) : List Char → List (List Char)
  | [] => if w = [] then [] else [w.reverse]
  | c :: cs =>
      if isSpace c then if w = [] then words [] cs else w.reverse :: words [] cs
      else words (c :: w) cs

/-- `s.split()`: the maximal runs of characters that are not whitespace. -/
def split (s : String) : List String := (words [] s.toList).map String.ofList

/-- `replace` on characters: the count is what is left of an occurrence of `old` being skipped. -/
def replaceChars (old new : List Char) : List Char → ℕ → List Char
  | [], _ => []
  | _ :: cs, k + 1 => replaceChars old new cs k
  | c :: cs, 0 =>
      if old.isPrefixOf (c :: cs) then new ++ replaceChars old new cs (old.length - 1)
      else c :: replaceChars old new cs 0

/-- `s.replace(old, new)`, for a non-empty `old`. -/
def replace (old new s : String) : String :=
  String.ofList (replaceChars old.toList new.toList s.toList 0)

/-- `a or b`: the empty string is false. -/
def strOr (a : Option String) (b : String) : String :=
  match a with
  | none => b
  | some s => if s = "" then b else s

@[simp] theorem strOr_none (b : String) : strOr none b = b := rfl

/-! ### Blank texts -/

theorem ofList_eq_empty {l : List Char} : String.ofList l = "" ↔ l = [] := by
  rw [← String.toList_inj, String.toList_ofList, String.toList_empty]

theorem strip_eq_empty_iff {s : String} : strip s = "" ↔ ∀ c ∈ s.toList, isSpace c = true := by
  rw [strip, ofList_eq_empty, List.rdropWhile_eq_nil_iff]
  constructor
  · intro h
    -- the first pass stops at a character that is not whitespace, which the second would keep
    rw [← List.dropWhile_eq_nil_iff]
    by_contra hne
    have hns := List.head_dropWhile_not isSpace hne
    rw [h _ (List.head_mem hne)] at hns
    exact absurd hns (by simp)
  · intro h c hc
    exact h c ((List.dropWhile_suffix isSpace).subset hc)

/-- Reading only whitespace adds no word. -/
theorem words_of_blank {cs : List Char} (h : ∀ c ∈ cs, isSpace c = true) : words [] cs = [] := by
  induction cs with
  | nil => rfl
  | cons c cs ih =>
    rw [words, if_pos (h c (by simp)), if_pos rfl]
    exact ih fun d hd => h d (by simp [hd])

/-! ### Replacing -/

/-- Replacing one character by another maps the text. -/
theorem replaceChars_single (a b : Char) (cs : List Char) :
    replaceChars [a] [b] cs 0 = cs.map fun c => if c = a then b else c := by
  induction cs with
  | nil => rfl
  | cons c cs ih =>
    rw [replaceChars, List.map_cons]
    by_cases h : c = a
    · subst h; simp [List.isPrefixOf, ih]
    · simp [List.isPrefixOf, ih, h, Ne.symm h]

/-- No occurrence of `old` starts before its first character does. -/
theorem replaceChars_append_of_notMem {a : Char} {old new cs : List Char} (h : a ∉ cs)
    (rest : List Char) :
    replaceChars (a :: old) new (cs ++ rest) 0 = cs ++ replaceChars (a :: old) new rest 0 := by
  induction cs with
  | nil => rfl
  | cons c cs ih =>
    obtain ⟨hc, hcs⟩ := List.ne_and_not_mem_of_not_mem_cons h
    have hp : (a :: old).isPrefixOf (c :: (cs ++ rest)) = false := by simp [List.isPrefixOf, hc]
    rw [List.cons_append, replaceChars, hp, if_neg (by simp), ih hcs, List.cons_append]

theorem toList_replace (old new s : String) :
    (replace old new s).toList = replaceChars old.toList new.toList s.toList 0 :=
  String.toList_ofList

end Python
