import GcoSpec.Python.Value

/-!
# JSON Schema

The keywords of a schema and the values they accept, as draft 2020-12 says. What a text has to be
under the name of a format is a parameter of the validator, which need not check formats at all;
a schema carries the proof that with a less strict check it accepts no less (`Schema.mono`).
-/

namespace JsonSchema

open Python

/-- What the validator says of a text under the name of a format. -/
abbrev FormatCheck := String → String → Bool

/-- A validator without a check of formats. -/
def anyFormat : FormatCheck := fun _ _ => true

/-- A check that is no less strict than another one. -/
def Stricter (check check' : FormatCheck) : Prop :=
  ∀ name s, check name s = true → check' name s = true

theorem stricter_anyFormat (check : FormatCheck) : Stricter check anyFormat := fun _ _ _ => rfl

/-! ### Types -/

inductive JsonType
  | null
  | boolean
  | integer
  | number
  | string
  | array
  | object

/-- The value is of the type. A number without a fraction is an integer. -/
def JsonType.has : JsonType → PyVal → Bool
  | null, .none => true
  | boolean, .bool _ => true
  | integer, .int _ => true
  | integer, .float (.finite q) => q.isInt
  | number, .int _ => true
  | number, .float _ => true
  | string, .str _ => true
  | array, .list _ => true
  | object, .dict _ => true
  | _, _ => false

/-! ### Schemas -/

/-- The values that a validator accepts. -/
structure Schema where
  accepts : FormatCheck → PyVal → Bool
  mono : ∀ {check check' : FormatCheck} {x : PyVal}, Stricter check check' →
    accepts check x = true → accepts check' x = true

namespace Schema

/-- A keyword that does not look at formats. -/
def ofValues (p : PyVal → Bool) : Schema where
  accepts _ := p
  mono _ h := h

/-- `"type"`, one or several. -/
def type (types : List JsonType) : Schema := ofValues fun x => types.any fun t => t.has x

/-- `"enum"`, for texts. -/
def enum (values : List String) : Schema :=
  ofValues fun x => match x with
    | .str s => s ∈ values
    | _ => false

/-- `"minimum"`, which only says something about numbers. -/
def minimum (least : ℤ) : Schema :=
  ofValues fun x => match x with
    | .int n => least ≤ n
    | .float (.finite q) => (least : ℚ) ≤ q
    | .float .negInf => false
    | _ => true

/-- `"format"`, which only says something about texts. -/
def format (name : String) : Schema where
  accepts check x := match x with
    | .str s => check name s
    | _ => true
  mono {check check' x} hstrict h := by
    cases x with
    | str s => exact hstrict name s h
    | _ => rfl

/-- `"items"`, which only says something about arrays. -/
def items (s : Schema) : Schema where
  accepts check x := match x with
    | .list xs => xs.all (s.accepts check)
    | _ => true
  mono {check check' x} hstrict h := by
    cases x with
    | list xs => exact List.all_eq_true.2 fun y hy => s.mono hstrict (List.all_eq_true.1 h y hy)
    | _ => rfl

/-- `"required"`, which only says something about objects. -/
def required (names : List String) : Schema :=
  ofValues fun x => match x with
    | .dict entries => names.all fun name => (entries.lookup name).isSome
    | _ => true

/-- `"properties"` with `"additionalProperties": false`. -/
def onlyProperties (properties : List (String × Schema)) : Schema where
  accepts check x := match x with
    | .dict entries =>
        (entries.all fun entry => entry.1 ∈ properties.map Prod.fst) &&
          properties.all fun p => (entries.lookup p.1).all (p.2.accepts check)
    | _ => true
  mono {check check' x} hstrict h := by
    cases x with
    | dict entries =>
      dsimp only at h ⊢
      rw [Bool.and_eq_true, List.all_eq_true, List.all_eq_true] at h ⊢
      refine ⟨h.1, fun p hp => ?_⟩
      have hproperty := h.2 p hp
      cases hlookup : entries.lookup p.1 with
      | none => rfl
      | some v =>
        rw [hlookup] at hproperty
        exact p.2.mono hstrict hproperty
    | _ => rfl

/-- The keywords of one schema. -/
def allOf (keywords : List Schema) : Schema where
  accepts check x := keywords.all fun k => k.accepts check x
  mono hstrict h :=
    List.all_eq_true.2 fun k hk => k.mono hstrict (List.all_eq_true.1 h k hk)

/-! ### What is accepted -/

variable {check : FormatCheck} {x : PyVal}

@[simp] theorem allOf_nil : (allOf []).accepts check x = true := rfl

@[simp] theorem allOf_cons {k : Schema} {ks : List Schema} :
    (allOf (k :: ks)).accepts check x = true ↔
      k.accepts check x = true ∧ (allOf ks).accepts check x = true := by
  simp [allOf]

@[simp] theorem type_string : (type [.string]).accepts check x = true ↔ ∃ s, x = .str s := by
  cases x <;> simp [type, ofValues, JsonType.has]

@[simp] theorem type_string_null :
    (type [.string, .null]).accepts check x = true ↔ x = .none ∨ ∃ s, x = .str s := by
  cases x <;> simp [type, ofValues, JsonType.has]

@[simp] theorem type_array : (type [.array]).accepts check x = true ↔ ∃ xs, x = .list xs := by
  cases x <;> simp [type, ofValues, JsonType.has]

@[simp] theorem type_object :
    (type [.object]).accepts check x = true ↔ ∃ entries, x = .dict entries := by
  cases x <;> simp [type, ofValues, JsonType.has]

@[simp] theorem type_object_null :
    (type [.object, .null]).accepts check x = true ↔ x = .none ∨ ∃ entries, x = .dict entries := by
  cases x <;> simp [type, ofValues, JsonType.has]

@[simp] theorem enum_accepts {values : List String} :
    (enum values).accepts check x = true ↔ ∃ s ∈ values, x = .str s := by
  cases x <;> simp [enum, ofValues]

@[simp] theorem format_str {name s : String} :
    (format name).accepts check (.str s) = check name s := rfl

@[simp] theorem items_list {s : Schema} {xs : List PyVal} :
    (items s).accepts check (.list xs) = true ↔ ∀ y ∈ xs, s.accepts check y = true := by
  simp [items]

/-- A number that is not written with a fraction. -/
theorem integer_minimum_zero (hfloat : ∀ q, x ≠ .float q) :
    (allOf [type [.integer], minimum 0]).accepts check x = true ↔ ∃ n : ℤ, 0 ≤ n ∧ x = .int n := by
  cases x with
  | float q => exact absurd rfl (hfloat q)
  | _ => simp [type, minimum, ofValues, JsonType.has]

/-- The entry of an object under a required name is there, and accepted. -/
def Entry (check : FormatCheck) (entries : List (String × PyVal)) (name : String) (s : Schema) :
    Prop :=
  ∃ v, entries.lookup name = some v ∧ s.accepts check v = true

/-- An entry that may be missing. -/
def OptionalEntry (check : FormatCheck) (entries : List (String × PyVal)) (name : String)
    (s : Schema) : Prop :=
  ∀ v, entries.lookup name = some v → s.accepts check v = true

/-- What `required` and `onlyProperties` say of the entries. -/
theorem entries_accepts {names : List String} {properties : List (String × Schema)}
    {entries : List (String × PyVal)} :
    (allOf [required names, onlyProperties properties]).accepts check (.dict entries) = true ↔
      (∀ entry ∈ entries, entry.1 ∈ properties.map Prod.fst) ∧
        (∀ name ∈ names, (entries.lookup name).isSome) ∧
        ∀ p ∈ properties, OptionalEntry check entries p.1 p.2 := by
  have hproperty : ∀ p : String × Schema,
      (entries.lookup p.1).all (p.2.accepts check) = true ↔
        OptionalEntry check entries p.1 p.2 := by
    intro p
    unfold OptionalEntry
    cases entries.lookup p.1 <;> simp
  simp only [allOf_cons, allOf_nil, and_true, required, onlyProperties, ofValues, Bool.and_eq_true,
    List.all_eq_true, decide_eq_true_eq, hproperty]
  exact ⟨fun ⟨hrequired, hclosed, hproperties⟩ => ⟨hclosed, hrequired, hproperties⟩,
    fun ⟨hclosed, hrequired, hproperties⟩ => ⟨hrequired, hclosed, hproperties⟩⟩

theorem entry_iff {entries : List (String × PyVal)} {name : String} {s : Schema} :
    Entry check entries name s ↔
      (entries.lookup name).isSome ∧ OptionalEntry check entries name s := by
  unfold Entry OptionalEntry
  cases entries.lookup name <;> simp

/-- An object has the entries that are required, and no others than those that have a schema. -/
theorem object_accepts {names : List String} {properties : List (String × Schema)} :
    (allOf [type [.object], allOf [required names, onlyProperties properties]]).accepts check x =
        true ↔
      ∃ entries, x = .dict entries ∧ (∀ entry ∈ entries, entry.1 ∈ properties.map Prod.fst) ∧
        (∀ name ∈ names, (entries.lookup name).isSome) ∧
        ∀ p ∈ properties, OptionalEntry check entries p.1 p.2 := by
  rw [allOf_cons, allOf_cons, allOf_nil, type_object]
  constructor
  · rintro ⟨⟨entries, rfl⟩, h, -⟩
    exact ⟨entries, rfl, entries_accepts.1 h⟩
  · rintro ⟨entries, rfl, h⟩
    exact ⟨⟨entries, rfl⟩, entries_accepts.2 h, rfl⟩

/-- Or the value is null. -/
theorem object_null_accepts {names : List String} {properties : List (String × Schema)} :
    (allOf [type [.object, .null], allOf [required names, onlyProperties properties]]).accepts
        check x = true ↔
      x = .none ∨
        (allOf [type [.object], allOf [required names, onlyProperties properties]]).accepts
          check x = true := by
  cases x with
  | none => simp [required, onlyProperties, ofValues]
  | _ => simp [allOf_cons]

/-- All entries are required. -/
theorem object_accepts_all {names : List String} {properties : List (String × Schema)}
    (hnames : names = properties.map Prod.fst) :
    (allOf [type [.object], allOf [required names, onlyProperties properties]]).accepts check x =
        true ↔
      ∃ entries, x = .dict entries ∧ (∀ entry ∈ entries, entry.1 ∈ properties.map Prod.fst) ∧
        ∀ p ∈ properties, Entry check entries p.1 p.2 := by
  rw [object_accepts, hnames]
  refine exists_congr fun entries => and_congr_right fun _ => and_congr_right fun _ => ?_
  simp only [entry_iff, List.forall_mem_map]
  exact ⟨fun h p hp => ⟨h.1 p hp, h.2 p hp⟩,
    fun h => ⟨fun p hp => (h p hp).1, fun p hp => (h p hp).2⟩⟩

end Schema

end JsonSchema
