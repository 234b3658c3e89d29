import Mathlib.Data.List.Dedup
import Mathlib.Data.List.Nodup
import Mathlib.Data.List.Perm.Subperm
import Mathlib.Tactic.Common

/-!
# Python dictionaries

A `dict` is the list of its items in insertion order, with the fact that no key occurs twice.
`d[k] = v` replaces the value of a present key where it stands and appends a new one; `del d[k]`
and `d.pop(k, None)` drop the item; a comprehension `{k: v for ...}` is `ofPairs`, where a later
pair wins. What a program can see of a `dict` through `d.get(k)` is described by the `get?_*`
lemmas, one for each operation.
-/

namespace Python

universe u v

/-- A Python `dict`. -/
structure Dict (α : Type u) (β : Type v) where
  items : List (α × β)
  nodupKeys : (items.map Prod.fst).Nodup

namespace Dict

variable {α : Type u} {β : Type v} [DecidableEq α]

/-- `{}`. -/
def empty : Dict α β := ⟨[], List.nodup_nil⟩

/-- `d.get(k)`. -/
def get? (d : Dict α β) (k : α) : Option β := d.items.lookup k

/-- `k in d`. -/
def contains (d : Dict α β) (k : α) : Bool := (d.get? k).isSome

/-- `len(d)`. -/
def size (d : Dict α β) : ℕ := d.items.length

/-- Replace the value of the item of `k`. -/
def replaceItem (k : α) (v : β) (p : α × β) : α × β := if p.1 = k then (p.1, v) else p

theorem map_fst_replaceItem (k : α) (v : β) (l : List (α × β)) :
    (l.map (replaceItem k v)).map Prod.fst = l.map Prod.fst := by
  rw [List.map_map]
  refine List.map_congr_left fun p _ => ?_
  by_cases h : p.1 = k <;> simp [replaceItem, h]

theorem notMem_keys_of_lookup {l : List (α × β)} {k : α} (h : l.lookup k = none) :
    k ∉ l.map Prod.fst := by
  intro hk
  obtain ⟨p, hp, rfl⟩ := List.mem_map.1 hk
  simpa using List.lookup_eq_none_iff.1 h p hp

theorem lookup_eq_none_iff_notMem {l : List (α × β)} {k : α} :
    l.lookup k = none ↔ k ∉ l.map Prod.fst := by
  refine ⟨notMem_keys_of_lookup, ?_⟩
  intro hk
  rw [List.lookup_eq_none_iff]
  intro p hp
  have hne : k ≠ p.1 := by
    rintro rfl
    exact hk (List.mem_map_of_mem hp)
  simpa using hne

/-- `d[k] = v`. -/
def set (d : Dict α β) (k : α) (v : β) : Dict α β :=
  if h : d.get? k = none then
    ⟨d.items ++ [(k, v)], by
      rw [List.map_append, List.nodup_append]
      refine ⟨d.nodupKeys, by simp, fun a ha b hb => ?_⟩
      simp only [List.map_cons, List.map_nil, List.mem_singleton] at hb
      rintro rfl
      exact notMem_keys_of_lookup h (hb ▸ ha)⟩
  else ⟨d.items.map (replaceItem k v), by rw [map_fst_replaceItem]; exact d.nodupKeys⟩

/-- The items that satisfy `p`, as `{k: v for k, v in d.items() if p}` keeps them. -/
def filter (d : Dict α β) (p : α → β → Bool) : Dict α β :=
  ⟨d.items.filter fun kv => p kv.1 kv.2,
    d.nodupKeys.sublist (List.filter_sublist.map Prod.fst)⟩

/-- `d.pop(k, None)`. -/
def erase (d : Dict α β) (k : α) : Dict α β := d.filter fun k' _ => k' ≠ k

/-- `{k: v for k, v in pairs}`. -/
def ofPairs (pairs : List (α × β)) : Dict α β := pairs.foldl (fun d p => d.set p.1 p.2) empty

/-! ### What `get` sees -/

@[simp] theorem get?_empty (k : α) : (empty : Dict α β).get? k = none := rfl

theorem mem_keys_iff {d : Dict α β} {k : α} : k ∈ d.items.map Prod.fst ↔ d.get? k ≠ none := by
  rw [get?, ne_eq, lookup_eq_none_iff_notMem, not_not]

theorem lookup_cons_ite (l : List (α × β)) (a k : α) (b : β) :
    ((a, b) :: l).lookup k = if k = a then some b else l.lookup k := by
  by_cases h : k = a
  · subst h; simp
  · rw [List.lookup_cons, show (k == a) = false by simp [h], if_neg h]

theorem lookup_map_snd {γ : Type*} (f : β → γ) (l : List (α × β)) (k : α) :
    (l.map fun p => (p.1, f p.2)).lookup k = (l.lookup k).map f := by
  induction l with
  | nil => rfl
  | cons p l ih =>
    obtain ⟨a, b⟩ := p
    rw [List.map_cons, lookup_cons_ite, lookup_cons_ite, ih]
    split_ifs <;> rfl

theorem lookup_map_replaceItem (l : List (α × β)) (k k' : α) (v : β) :
    (l.map (replaceItem k v)).lookup k' =
      if k' = k then (l.lookup k).map fun _ => v else l.lookup k' := by
  induction l with
  | nil => simp
  | cons p l ih =>
    obtain ⟨a, b⟩ := p
    rw [List.map_cons]
    by_cases ha : a = k
    · subst ha
      by_cases hk : k' = a <;> simp [replaceItem, lookup_cons_ite, hk, ih]
    · by_cases hk : k' = k
      · subst hk
        simp [replaceItem, lookup_cons_ite, ha, Ne.symm ha, ih]
      · simp [replaceItem, lookup_cons_ite, ha, hk, ih]

theorem get?_set (d : Dict α β) (k k' : α) (v : β) :
    (d.set k v).get? k' = if k' = k then some v else d.get? k' := by
  unfold set
  split
  · next h =>
    by_cases hk : k' = k
    · subst hk
      simp [get?, List.lookup_append, show d.items.lookup k' = none from h]
    · simp [get?, List.lookup_append, lookup_cons_ite, hk]
  · next h =>
    obtain ⟨b, hb⟩ := Option.ne_none_iff_exists'.1 h
    simp only [get?] at hb ⊢
    rw [lookup_map_replaceItem, hb]
    rfl

/-- An item is present exactly when `get` finds it: no key occurs twice. -/
theorem mem_items_iff (d : Dict α β) {k : α} {v : β} : (k, v) ∈ d.items ↔ d.get? k = some v := by
  obtain ⟨l, hl⟩ := d
  simp only [get?]
  induction l with
  | nil => simp
  | cons p l ih =>
    obtain ⟨a, b⟩ := p
    rw [List.map_cons, List.nodup_cons] at hl
    rw [List.mem_cons, lookup_cons_ite, Prod.mk.injEq, ih hl.2]
    by_cases h : k = a
    · subst h
      have hnone : l.lookup k ≠ some v := fun hs =>
        hl.1 (List.mem_map.2 ⟨(k, v), (ih hl.2).2 hs, rfl⟩)
      simp [hnone, eq_comm]
    · simp [h]

/-- Equal dictionaries have the same items, in some order. -/
theorem perm_items_of_get?_eq {d d' : Dict α β} (h : ∀ k, d.get? k = d'.get? k) :
    d.items.Perm d'.items := by
  refine (List.perm_ext_iff_of_nodup d.nodupKeys.of_map d'.nodupKeys.of_map).2 ?_
  rintro ⟨k, v⟩
  rw [d.mem_items_iff, d'.mem_items_iff, h]

theorem lookup_eq_some_iff_mem {l : List (α × β)} (h : (l.map Prod.fst).Nodup) {k : α} {v : β} :
    l.lookup k = some v ↔ (k, v) ∈ l :=
  (mem_items_iff ⟨l, h⟩).symm

theorem get?_filter (d : Dict α β) (p : α → β → Bool) (k : α) :
    (d.filter p).get? k = (d.get? k).filter (p k) := by
  ext v
  rw [← mem_items_iff, Option.filter_eq_some_iff, ← mem_items_iff]
  exact List.mem_filter

theorem get?_erase (d : Dict α β) (k k' : α) :
    (d.erase k).get? k' = if k' = k then none else d.get? k' := by
  rw [erase, get?_filter]
  by_cases h : k' = k
  · subst h; cases d.get? k' <;> simp
  · cases d.get? k' <;> simp [h]

omit [DecidableEq α] in
theorem size_filter_le (d : Dict α β) (p : α → β → Bool) : (d.filter p).size ≤ d.size :=
  List.length_filter_le _ _

theorem size_set (d : Dict α β) (k : α) (v : β) :
    (d.set k v).size = if d.get? k = none then d.size + 1 else d.size := by
  unfold set
  split <;> simp [size, *]

/-- A dictionary with fewer keys is smaller. -/
theorem size_le_of_get? {d d' : Dict α β} (h : ∀ k, d.get? k ≠ none → d'.get? k ≠ none) :
    d.size ≤ d'.size := by
  have hsubset : d.items.map Prod.fst ⊆ d'.items.map Prod.fst := by
    intro k hk
    exact mem_keys_iff.2 (h k (mem_keys_iff.1 hk))
  have hlength := (d.nodupKeys.subperm hsubset).length_le
  rwa [List.length_map, List.length_map] at hlength

theorem size_set_le (d : Dict α β) (k : α) (v : β) : (d.set k v).size ≤ d.size + 1 := by
  rw [size_set]
  split <;> omega

/-! ### Comprehensions -/

theorem get?_foldl_set (l : List (α × β)) (d : Dict α β) (k : α) :
    (l.foldl (fun d p => d.set p.1 p.2) d).get? k = (l.reverse.lookup k).or (d.get? k) := by
  induction l generalizing d with
  | nil => simp
  | cons p l ih =>
    obtain ⟨a, b⟩ := p
    rw [List.foldl_cons, ih, List.reverse_cons, List.lookup_append, get?_set]
    by_cases h : k = a
    · subst h; cases l.reverse.lookup k <;> simp
    · cases l.reverse.lookup k <;> simp [lookup_cons_ite, h]

/-- The last pair with a key wins. -/
theorem get?_ofPairs (l : List (α × β)) (k : α) : (ofPairs l).get? k = l.reverse.lookup k := by
  rw [ofPairs, get?_foldl_set, get?_empty, Option.or_none]

theorem mem_keys_ofPairs_iff {l : List (α × β)} {k : α} :
    k ∈ (ofPairs l).items.map Prod.fst ↔ k ∈ l.map Prod.fst := by
  rw [mem_keys_iff, get?_ofPairs, ne_eq, lookup_eq_none_iff_notMem, not_not, List.map_reverse,
    List.mem_reverse]

/-- A comprehension has as many items as its pairs have different keys. -/
theorem size_ofPairs (l : List (α × β)) :
    (ofPairs l).size = (l.map Prod.fst).dedup.length := by
  have hperm : ((ofPairs l).items.map Prod.fst).Perm (l.map Prod.fst).dedup := by
    refine (List.perm_ext_iff_of_nodup (ofPairs l).nodupKeys (List.nodup_dedup _)).2 fun k => ?_
    rw [List.mem_dedup]
    exact mem_keys_ofPairs_iff
  rw [← hperm.length_eq, List.length_map, size]

/-- A comprehension drops no pair exactly when no key is repeated. -/
theorem size_ofPairs_eq_length_iff {l : List (α × β)} :
    (ofPairs l).size = l.length ↔ (l.map Prod.fst).Nodup := by
  have hlength : (l.map Prod.fst).length = l.length := List.length_map Prod.fst
  rw [size_ofPairs, ← hlength]
  constructor
  · intro h
    rw [← List.dedup_eq_self]
    exact (List.dedup_sublist _).eq_of_length h
  · intro h
    rw [h.dedup]

/-- Without repeated keys, a comprehension holds each of its pairs. -/
theorem get?_ofPairs_eq_some_iff {l : List (α × β)} (hl : (l.map Prod.fst).Nodup) {k : α} {v : β} :
    (ofPairs l).get? k = some v ↔ (k, v) ∈ l := by
  have hr : (l.reverse.map Prod.fst).Nodup := by
    rw [List.map_reverse]; exact List.nodup_reverse.2 hl
  rw [get?_ofPairs, ← List.mem_reverse]
  exact lookup_eq_some_iff_mem hr

theorem items_set_of_none (d : Dict α β) {k : α} (v : β) (h : d.get? k = none) :
    (d.set k v).items = d.items ++ [(k, v)] := by
  rw [set, dif_pos h]

/-- Setting a key to the value it has changes nothing. -/
theorem items_set_of_some (d : Dict α β) {k : α} {v : β} (h : d.get? k = some v) :
    (d.set k v).items = d.items := by
  rw [set, dif_neg (by simp [h])]
  refine (List.map_congr_left fun p hp => ?_).trans (List.map_id _)
  unfold replaceItem
  split_ifs with hk
  · have hvalue := (d.mem_items_iff (k := p.1) (v := p.2)).1 hp
    rw [hk, h, Option.some.injEq] at hvalue
    rw [hvalue]
    rfl
  · rfl

theorem items_foldl_set (l : List (α × β)) (d : Dict α β)
    (h : ((d.items ++ l).map Prod.fst).Nodup) :
    (l.foldl (fun d p => d.set p.1 p.2) d).items = d.items ++ l := by
  induction l generalizing d with
  | nil => simp
  | cons p l ih =>
    obtain ⟨k, v⟩ := p
    -- the key of the first pair is new
    have hk : d.get? k = none := by
      rw [get?, lookup_eq_none_iff_notMem]
      intro hmem
      rw [List.map_append, List.nodup_append] at h
      exact h.2.2 k hmem k (by simp) rfl
    have hset := items_set_of_none d v hk
    rw [List.foldl_cons, ih _ (by rwa [hset, List.append_assoc]), hset, List.append_assoc]
    rfl

/-- A comprehension over pairs with distinct keys keeps them as they are. -/
theorem items_ofPairs {l : List (α × β)} (h : (l.map Prod.fst).Nodup) : (ofPairs l).items = l :=
  items_foldl_set l empty h

/-- A dictionary is rebuilt from its items. -/
theorem ofPairs_items (d : Dict α β) : ofPairs d.items = d := by
  have hitems := items_ofPairs d.nodupKeys
  cases h : ofPairs d.items
  cases d
  rw [h] at hitems
  dsimp only at hitems
  subst hitems
  rfl

/-! ### Values -/

/-- `{k: f(v) for k, v in d.items()}`. -/
def mapValues {γ : Type*} (f : β → γ) (d : Dict α β) : Dict α γ where
  items := d.items.map fun p => (p.1, f p.2)
  nodupKeys := by
    rw [List.map_map]
    exact d.nodupKeys

theorem mapValues_set {γ : Type*} (f : β → γ) (d : Dict α β) (k : α) (v : β) :
    (d.set k v).mapValues f = (d.mapValues f).set k (f v) := by
  have hget : (d.mapValues f).get? k = (d.get? k).map f := lookup_map_snd f d.items k
  unfold set
  by_cases h : d.get? k = none
  · have hnone : (d.mapValues f).get? k = none := by rw [hget, h, Option.map_none]
    rw [dif_pos h, dif_pos hnone]
    simp [mapValues]
  · have hsome : (d.mapValues f).get? k ≠ none := by
      rwa [hget, ne_eq, Option.map_eq_none_iff]
    rw [dif_neg h, dif_neg hsome]
    simp only [mapValues, List.map_map, Dict.mk.injEq]
    refine List.map_congr_left fun p _ => ?_
    by_cases hp : p.1 = k <;> simp [replaceItem, hp]

theorem mapValues_erase {γ : Type*} (f : β → γ) (d : Dict α β) (k : α) :
    (d.erase k).mapValues f = (d.mapValues f).erase k := by
  simp [mapValues, erase, filter, List.filter_map, Function.comp_def]

end Dict

end Python
