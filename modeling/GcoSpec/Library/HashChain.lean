import Mathlib.Data.List.Forall2
import Mathlib.Data.List.Induction
import Mathlib.Tactic.Common

/-!
# Hash chains

A list of entries in which each names the digest of the one before it. Entries carry their digest,
and an entry is intact when that digest is the one of its contents.

When a digest determines what an entry says, its position and its predecessor included
(`Links.Commits`), the digest of the last entry determines the whole chain
(`Chained.forall₂_of_head`): the positions of the last entries give equal lengths, and the rest is
an induction from the end, because an entry names the digest the next step backwards needs.
-/

namespace HashChain

variable {ρ η : Type*}

/-- What an entry says about its place in a chain. -/
structure Links (ρ η : Type*) where
  position : ρ → ℕ
  previous : ρ → η
  digest : ρ → η
  Intact : ρ → Prop

variable (L : Links ρ η)

/-- The digest the next entry has to name, after `genesis` and the entries. -/
def tip (genesis : η) (entries : List ρ) : η := (entries.getLast?.map L.digest).getD genesis

/-- Intact entries at positions `i, i + 1, …`, the first of which follows the digest `d`. -/
def Chained : ℕ → η → List ρ → Prop
  | _, _, [] => True
  | i, d, r :: rs =>
      L.position r = i ∧ L.previous r = d ∧ L.Intact r ∧ Chained (i + 1) (L.digest r) rs

/-- Intact entries with one digest are the `Same`, at one position and after one digest. -/
structure Links.Commits (Same : ρ → ρ → Prop) : Prop where
  same : ∀ {a b}, L.Intact a → L.Intact b → L.digest a = L.digest b → Same a b
  position : ∀ {a b}, Same a b → L.position a = L.position b
  previous : ∀ {a b}, Same a b → L.previous a = L.previous b

variable {L} {i : ℕ} {d : η}

theorem tip_nil : tip L d [] = d := rfl

theorem tip_cons (r : ρ) (rs : List ρ) : tip L d (r :: rs) = tip L (L.digest r) rs := by
  cases rs with
  | nil => rfl
  | cons r' rs => rw [tip, tip, List.getLast?_cons_cons, List.getLast?_cons, Option.map_some,
      Option.getD_some, Option.getD_some]

theorem tip_concat (rs : List ρ) (r : ρ) : tip L d (rs ++ [r]) = L.digest r := by
  rw [tip, List.getLast?_concat, Option.map_some, Option.getD_some]

/-- The last entry of a chain, after the others. -/
theorem chained_concat {rs : List ρ} {r : ρ} :
    Chained L i d (rs ++ [r]) ↔ Chained L i d rs ∧
      L.position r = i + rs.length ∧ L.previous r = tip L d rs ∧ L.Intact r := by
  induction rs generalizing i d with
  | nil => simp [Chained, tip_nil]
  | cons a rs ih =>
    rw [List.cons_append, Chained, Chained, ih, tip_cons, List.length_cons]
    constructor
    · rintro ⟨ha, hd, hintact, hrs, hr, hrest⟩
      exact ⟨⟨ha, hd, hintact, hrs⟩, by omega, hrest⟩
    · rintro ⟨⟨ha, hd, hintact, hrs⟩, hr, hrest⟩
      exact ⟨ha, hd, hintact, hrs, by omega, hrest⟩

/-- Entries that say the same about their place, and are intact together, form a chain together. -/
theorem Chained.congr {Same : ρ → ρ → Prop}
    (hsame : ∀ {a b}, Same a b → L.position a = L.position b ∧ L.previous a = L.previous b ∧
      L.digest a = L.digest b ∧ (L.Intact a → L.Intact b)) {xs ys : List ρ}
    (hxs : Chained L i d xs) (h : List.Forall₂ Same xs ys) : Chained L i d ys := by
  induction h generalizing i d with
  | nil => exact trivial
  | cons hab _ ih =>
    obtain ⟨hposition, hprevious, hdigest, hintact⟩ := hsame hab
    obtain ⟨hi, hd, ha, hrest⟩ := hxs
    rw [hdigest] at hrest
    exact ⟨hposition ▸ hi, hprevious ▸ hd, hintact ha, ih hrest⟩

/-- The position of an entry is where it stands. -/
theorem Chained.position_getElem {rs : List ρ} (h : Chained L i d rs) (n : ℕ) (hn : n < rs.length) :
    L.position rs[n] = i + n := by
  induction rs generalizing i d n with
  | nil => cases hn
  | cons r rs ih =>
    obtain ⟨hr, -, -, hrest⟩ := h
    cases n with
    | zero => exact hr
    | succ n =>
      rw [List.getElem_cons_succ, ih hrest n (Nat.lt_of_succ_lt_succ hn)]
      omega

/-- Positions increase along a chain. -/
theorem Chained.pairwise_position {rs : List ρ} (h : Chained L i d rs) :
    rs.Pairwise fun a b => L.position a < L.position b := by
  rw [List.pairwise_iff_getElem]
  intro m n hm hn hmn
  rw [h.position_getElem m hm, h.position_getElem n hn]
  omega

/-- An entry names the digest of the one before it. -/
theorem Chained.previous_getElem_succ {rs : List ρ} (h : Chained L i d rs) (n : ℕ)
    (hn : n + 1 < rs.length) : L.previous rs[n + 1] = L.digest rs[n] := by
  induction rs generalizing i d n with
  | nil => cases hn
  | cons r rs ih =>
    obtain ⟨-, -, -, hrest⟩ := h
    cases n with
    | zero =>
      cases rs with
      | nil => simp at hn
      | cons r' rs => exact hrest.2.1
    | succ n =>
      rw [List.getElem_cons_succ, List.getElem_cons_succ]
      exact ih hrest n (Nat.lt_of_succ_lt_succ hn)

/-- The first entry names the digest the chain starts from. -/
theorem Chained.previous_head {rs : List ρ} (h : Chained L i d rs) :
    ∀ r ∈ rs.head?, L.previous r = d := by
  cases rs with
  | nil => rintro r ⟨⟩
  | cons r rs =>
    rintro _ ⟨⟩
    exact h.2.1

/-- Two chains of one length that end in one digest say the same, entry by entry. -/
theorem Chained.forall₂_of_length {Same : ρ → ρ → Prop} (hL : L.Commits Same) {xs ys : List ρ}
    (hx : Chained L i d xs) (hy : Chained L i d ys) (hlength : xs.length = ys.length)
    (htip : tip L d xs = tip L d ys) : List.Forall₂ Same xs ys := by
  induction xs using List.reverseRecOn generalizing ys with
  | nil =>
    rw [List.length_nil, eq_comm, List.length_eq_zero_iff] at hlength
    rw [hlength]
    exact .nil
  | append_singleton xs a ih =>
    rcases List.eq_nil_or_concat' ys with rfl | ⟨ys, b, rfl⟩
    · simp at hlength
    rw [chained_concat] at hx hy
    obtain ⟨hxs, -, hpa, ha⟩ := hx
    obtain ⟨hys, -, hpb, hb⟩ := hy
    rw [tip_concat, tip_concat] at htip
    have hab := hL.same ha hb htip
    -- what the last entries name is where the shorter chains end
    have htip' : tip L d xs = tip L d ys := by rw [← hpa, ← hpb, hL.previous hab]
    have hlength' : xs.length = ys.length := by simpa using hlength
    exact List.rel_append (ih hxs hys hlength' htip') (.cons hab .nil)

/-- The digest of the last entry determines a chain. -/
theorem Chained.forall₂_of_head {Same : ρ → ρ → Prop} (hL : L.Commits Same) {xs ys : List ρ}
    {h : η} (hx : Chained L i d xs) (hy : Chained L i d ys)
    (hxh : xs.getLast?.map L.digest = some h) (hyh : ys.getLast?.map L.digest = some h) :
    List.Forall₂ Same xs ys := by
  refine hx.forall₂_of_length hL hy ?_ (by rw [tip, tip, hxh, hyh])
  rcases List.eq_nil_or_concat' xs with rfl | ⟨xs, a, rfl⟩
  · cases hxh
  rcases List.eq_nil_or_concat' ys with rfl | ⟨ys, b, rfl⟩
  · cases hyh
  obtain ⟨-, hpa, -, ha⟩ := chained_concat.1 hx
  obtain ⟨-, hpb, -, hb⟩ := chained_concat.1 hy
  rw [List.getLast?_concat, Option.map_some, Option.some.injEq] at hxh hyh
  have hpos := hL.position (hL.same ha hb (hxh.trans hyh.symm))
  simp only [List.length_append, List.length_singleton]
  omega

/-! ### Forks -/

section Forks

variable {Same : ρ → ρ → Prop} {xs ys : List ρ}

theorem Chained.intact_getElem {rs : List ρ} (h : Chained L i d rs) (n : ℕ) (hn : n < rs.length) :
    L.Intact rs[n] := by
  induction rs generalizing i d n with
  | nil => cases hn
  | cons r rs ih =>
    obtain ⟨-, -, hr, hrest⟩ := h
    cases n with
    | zero => exact hr
    | succ n => exact ih hrest n (Nat.lt_of_succ_lt_succ hn)

/-- Two chains have a digest in common only at one place. -/
theorem Chained.index_eq (hL : L.Commits Same) (hx : Chained L i d xs) (hy : Chained L i d ys)
    {m n : ℕ} (hm : m < xs.length) (hn : n < ys.length) (h : L.digest xs[m] = L.digest ys[n]) :
    m = n := by
  have hsame := hL.same (hx.intact_getElem m hm) (hy.intact_getElem n hn) h
  have hposition := hL.position hsame
  rw [hx.position_getElem m hm, hy.position_getElem n hn] at hposition
  exact Nat.add_left_cancel hposition

/-- And then all the digests before it. -/
theorem Chained.digest_getElem_eq (hL : L.Commits Same) (hx : Chained L i d xs)
    (hy : Chained L i d ys) (k n : ℕ) (hm : k + n < xs.length) (hn : k + n < ys.length)
    (h : L.digest xs[k + n] = L.digest ys[k + n]) : L.digest xs[k] = L.digest ys[k] := by
  induction n with
  | zero => exact h
  | succ n ih =>
    have hsame := hL.same (hx.intact_getElem (k + n + 1) hm) (hy.intact_getElem (k + n + 1) hn) h
    have hprevious := hL.previous hsame
    rw [hx.previous_getElem_succ (k + n) hm, hy.previous_getElem_succ (k + n) hn] at hprevious
    exact ih (Nat.lt_of_succ_lt hm) (Nat.lt_of_succ_lt hn) hprevious

/-- Two chains say the same up to a place, and have no digest in common after it. -/
theorem Chained.exists_fork (hL : L.Commits Same) (hx : Chained L i d xs)
    (hy : Chained L i d ys) :
    ∃ n, List.Forall₂ Same (xs.take n) (ys.take n) ∧
      ∀ x ∈ xs.drop n, ∀ y ∈ ys.drop n, L.digest x ≠ L.digest y := by
  induction xs generalizing i d ys with
  | nil => exact ⟨0, by simp, by simp⟩
  | cons x xs ih =>
    cases ys with
    | nil => exact ⟨0, by simp, by simp⟩
    | cons y ys =>
      by_cases hdigest : L.digest x = L.digest y
      · -- the chains have not forked yet
        have hsame := hL.same hx.2.2.1 hy.2.2.1 hdigest
        have hyrest := hy.2.2.2
        rw [← hdigest] at hyrest
        obtain ⟨n, hforall, hdistinct⟩ := ih hx.2.2.2 hyrest
        exact ⟨n + 1, .cons hsame hforall, hdistinct⟩
      · refine ⟨0, by simp, ?_⟩
        rw [List.drop_zero, List.drop_zero]
        intro a ha b hb h
        obtain ⟨m, hm, rfl⟩ := List.getElem_of_mem ha
        obtain ⟨n, hn, rfl⟩ := List.getElem_of_mem hb
        obtain rfl := hx.index_eq hL hy hm hn h
        have hm' : 0 + m < (x :: xs).length := by omega
        have hn' : 0 + m < (y :: ys).length := by omega
        exact hdigest (hx.digest_getElem_eq hL hy 0 m hm' hn' (by simpa using h))

/-- A chain that has the last digest of another one starts with it. -/
theorem Chained.forall₂_take_of_digest (hL : L.Commits Same) (hx : Chained L i d xs)
    (hy : Chained L i d ys) {h : η} (hxh : xs.getLast?.map L.digest = some h)
    (hyh : ∃ y ∈ ys, L.digest y = h) : List.Forall₂ Same xs (ys.take xs.length) := by
  obtain ⟨x, hlast, rfl⟩ := Option.map_eq_some_iff.1 hxh
  obtain ⟨xs, rfl⟩ : ∃ as, xs = as ++ [x] := List.getLast?_eq_some_iff.1 hlast
  obtain ⟨y, hy', hdigest⟩ := hyh
  obtain ⟨n, hforall, hdistinct⟩ := hx.exists_fork hL hy
  obtain ⟨m, hm, rfl⟩ := List.getElem_of_mem hy'
  have hindex : xs.length = m := hx.index_eq hL hy (by simp) hm (by simp [hdigest])
  have hle : (xs ++ [x]).length ≤ n := by
    by_contra hlt
    have hxmem : x ∈ (xs ++ [x]).drop n := by
      rw [List.drop_append_of_le_length (by simp at hlt; omega)]
      simp
    have hymem : ys[m] ∈ ys.drop n := by
      rw [List.mem_drop_iff_getElem]
      exact ⟨m - n, by simp at hlt; omega, by congr 1; simp at hlt; omega⟩
    exact hdistinct x hxmem _ hymem hdigest.symm
  rw [List.take_of_length_le hle] at hforall
  rw [hforall.length_eq, List.length_take, ← List.take_eq_take_min]
  exact hforall

end Forks

end HashChain
