import GcoSpec.Python.Dict
import Mathlib.Data.Rat.Floor
import Mathlib.Algebra.Order.Floor.Ring

/-!
# Python values

The values a decoded JSON document is made of, and one constructor for every object that is not
such a value. Integers have any size. A finite float is the rational it stands for.

A `dict` met inside a value is its item list; `PyVal.get?` is `d.get(k)` on it. The numbers of
the language are `int`, `float` and, since `bool` is a subclass of `int`, the booleans
(`PyVal.number?` is the test `isinstance(x, int | float)`).
-/

namespace Python

/-- A Python `float`. -/
inductive PyFloat
  | finite (q : ℚ)
  | inf
  | negInf
  | nan
  deriving DecidableEq

/-- A Python value. -/
inductive PyVal
  | none
  | bool (b : Bool)
  | int (n : ℤ)
  | float (x : PyFloat)
  | str (s : String)
  | list (xs : List PyVal)
  | dict (items : List (String × PyVal))
  /-- Any other object; `typeName` is the name of its class. -/
  | object (typeName : String)

/-- A number of Python. -/
inductive Number
  | int (n : ℤ)
  | float (x : PyFloat)

namespace PyVal

/-- `x` as a number, when `isinstance(x, int | float)`. -/
def number? : PyVal → Option Number
  | bool b => some (.int (if b then 1 else 0))
  | int n => some (.int n)
  | float x => some (.float x)
  | _ => .none

/-- `x`, when `isinstance(x, str)`. -/
def str? : PyVal → Option String
  | str s => some s
  | _ => .none

/-- The items of `x`, when `isinstance(x, Mapping)`. -/
def mapping? : PyVal → Option (List (String × PyVal))
  | dict items => some items
  | _ => .none

/-- The strings of `x`, when `isinstance(x, list)` and every item is a `str`. -/
def strList? : PyVal → Option (List String)
  | list xs => xs.mapM str?
  | _ => .none

/-- `bool(x)`; an object of no other kind is taken to be true. -/
def truthy : PyVal → Bool
  | none => false
  | bool b => b
  | int n => n ≠ 0
  | float x => x ≠ .finite 0
  | str s => s ≠ ""
  | list xs => !xs.isEmpty
  | dict items => !items.isEmpty
  | object _ => true

end PyVal

/-- `x == s` for a `str` `s`, where `x` is the result of a `dict.get`. -/
def eqStr (x : Option PyVal) (s : String) : Bool := x.bind PyVal.str? = some s

theorem eqStr_iff {x : Option PyVal} {s : String} : eqStr x s = true ↔ x = some (.str s) := by
  unfold eqStr
  cases x with
  | none => simp
  | some v => cases v <;> simp [PyVal.str?]

/-! ### Doubles -/

/-- The integers that `float(n)` refuses with `OverflowError`: those that round to `2 ^ 1024` or
more. -/
def tooLargeForDouble (n : ℤ) : Prop := 2 ^ 1024 - 2 ^ 970 ≤ |n|

instance (n : ℤ) : Decidable (tooLargeForDouble n) := by unfold tooLargeForDouble; infer_instance

/-- `math.isfinite(x)`, or `none` where it raises `OverflowError`: it converts an `int` first. -/
def isfinite : Number → Option Bool
  | .int n => if tooLargeForDouble n then none else some true
  | .float (.finite _) => some true
  | .float _ => some false

/-- Round to the nearest integer, ties to the even one. -/
def roundHalfEven (q : ℚ) : ℤ :=
  let below := ⌊q⌋
  if q - below < 1 / 2 then below
  else if 1 / 2 < q - below then below + 1
  else if below % 2 = 0 then below else below + 1

end Python
