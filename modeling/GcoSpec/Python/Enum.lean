import Mathlib.Logic.Function.Basic
import Mathlib.Tactic.Common

/-!
# String enumerations

`class E(str, Enum)`: each member is a string, and equal to it. A field of such a type holds a
member once the value has been validated; a value built without validation may hold any other
string. `Label E` is the content of such a field: a member, or a string that is no member's
value (a string that is one *is* that member, so it needs no second form).
-/

namespace Python

/-- A `str` enumeration: the value of each member, and the members in order. -/
class StrEnum (ε : Type) where
  value : ε → String
  members : List ε
  mem_members : ∀ e, e ∈ members
  value_injective : Function.Injective value

namespace StrEnum

variable {ε : Type} [StrEnum ε]

/-- `E(s)`, or `none` where the call raises `ValueError`. -/
def ofValue? (ε : Type) [StrEnum ε] (s : String) : Option ε :=
  (members : List ε).find? fun e => value e = s

theorem value_of_ofValue? {s : String} {e : ε} (h : ofValue? ε s = some e) : value e = s := by
  simpa using List.find?_some h

@[simp] theorem ofValue?_value (e : ε) : ofValue? ε (value e) = some e := by
  obtain ⟨e', h⟩ : ∃ e', ofValue? ε (value e) = some e' := by
    rw [← Option.isSome_iff_exists, ofValue?, List.find?_isSome]
    exact ⟨e, mem_members e, by simp⟩
  rw [h, value_injective (value_of_ofValue? h)]

end StrEnum

open StrEnum

/-- The content of a field of enumeration type `ε`, validated or not. -/
inductive Label (ε : Type) [StrEnum ε]
  | member (e : ε)
  | other (raw : String) (h : ofValue? ε raw = none)

namespace Label

variable {ε : Type} [StrEnum ε]

/-- The label as a string. -/
def value : Label ε → String
  | member e => StrEnum.value e
  | other raw _ => raw

/-- The label a string is. -/
def ofString (s : String) : Label ε :=
  match h : ofValue? ε s with
  | some e => member e
  | none => other s h

theorem value_injective : Function.Injective (value : Label ε → String) := by
  intro a b h
  cases a with
  | member e =>
    cases b with
    | member e' => exact congrArg member (StrEnum.value_injective h)
    | other raw hr =>
      have h' : StrEnum.value e = raw := h
      rw [← h', ofValue?_value] at hr
      cases hr
  | other raw hr =>
    cases b with
    | member e' =>
      have h' : raw = StrEnum.value e' := h
      rw [h', ofValue?_value] at hr
      cases hr
    | other raw' hr' =>
      have h' : raw = raw' := h
      subst h'
      rfl

instance : DecidableEq (Label ε) := fun a b =>
  decidable_of_iff (a.value = b.value) value_injective.eq_iff

theorem value_ofString (s : String) : (ofString s : Label ε).value = s := by
  unfold ofString
  split
  · next e h => exact value_of_ofValue? h
  · rfl

@[simp] theorem ofString_value (l : Label ε) : ofString l.value = l :=
  value_injective (value_ofString _)

@[simp] theorem ofString_member (e : ε) : ofString (StrEnum.value e) = member e :=
  ofString_value (member e)

end Label

end Python
