import Mathlib.Data.List.Induction
import Mathlib.Data.List.Sort
import Mathlib.Data.Prod.Lex
import Mathlib.Logic.Function.Basic
import Mathlib.Tactic.Common

/-!
# Replaying events

Events that each concern one key are applied one after the other: a live event takes the place of
its key, any other clears it (`replay`). So what stands at a key is the last event that concerns it,
if that is live (`replay_eq`).

Which event is the last depends on the order they are applied in. Of events in the order of a rank
it is the one with the greatest rank (`last_eq_some_iff`), and so it is of events that are sorted
by a rank no two of them share (`last_sort_eq_some_iff`).
-/

namespace Replay

variable {α ε β γ : Type*}

section

variable [DecidableEq α] (key : ε → α) (live : ε → Bool)

/-- The last of the events that concern a key. -/
def last (events : List ε) (k : α) : Option ε := events.reverse.find? fun e => decide (key e = k)

/-- What stands at a key after the events. -/
def replay (events : List ε) : α → Option ε :=
  events.foldl (fun view e => Function.update view (key e) (if live e then some e else none))
    fun _ => none

variable {key live}

theorem last_nil (k : α) : last key [] k = none := rfl

theorem last_concat (events : List ε) (e : ε) (k : α) :
    last key (events ++ [e]) k = if key e = k then some e else last key events k := by
  rw [last, List.reverse_append, List.reverse_singleton, List.singleton_append, List.find?_cons]
  by_cases h : key e = k
  · simp [h]
  · simp [h, last]

theorem replay_concat (events : List ε) (e : ε) :
    replay key live (events ++ [e]) =
      Function.update (replay key live events) (key e) (if live e then some e else none) := by
  rw [replay, List.foldl_append]
  rfl

/-- The last event that concerns a key stands there, if it is live. -/
theorem replay_eq (events : List ε) (k : α) :
    replay key live events k = (last key events k).filter live := by
  induction events using List.reverseRecOn with
  | nil => rfl
  | append_singleton events e ih =>
    rw [replay_concat, last_concat]
    by_cases h : key e = k
    · subst h
      rw [Function.update_self, if_pos rfl]
      by_cases hlive : live e = true
      · simp [hlive, Option.filter]
      · simp [hlive, Option.filter]
    · rw [Function.update_of_ne (Ne.symm h), if_neg h, ih]

theorem last_eq_none_iff {events : List ε} {k : α} :
    last key events k = none ↔ ∀ e ∈ events, key e ≠ k := by
  simp [last]

end

/-! ### Ranks -/

/-- Of the events that concern a key, one with the greatest rank. -/
structure Greatest [LE β] (key : ε → α) (rank : ε → β) (events : List ε) (k : α) (e : ε) :
    Prop where
  mem : e ∈ events
  concerns : key e = k
  le : ∀ e' ∈ events, key e' = k → rank e' ≤ rank e

variable {key : ε → α} {k : α} {e : ε} {events : List ε}

theorem Greatest.of_mem_iff [LE β] {rank : ε → β} {events' : List ε}
    (h : Greatest key rank events k e) (hmem : ∀ e, e ∈ events ↔ e ∈ events') :
    Greatest key rank events' k e where
  mem := (hmem e).1 h.mem
  concerns := h.concerns
  le e' he' := h.le e' ((hmem e').2 he')

/-- Two ranks that compare the events alike have the same greatest event. -/
theorem Greatest.of_rank [LE β] [LE γ] {rank : ε → β} {rank' : ε → γ}
    (h : Greatest key rank events k e)
    (hrank : ∀ a ∈ events, ∀ b ∈ events, rank a ≤ rank b → rank' a ≤ rank' b) :
    Greatest key rank' events k e where
  mem := h.mem
  concerns := h.concerns
  le e' he' hkey := hrank e' he' e h.mem (h.le e' he' hkey)

/-- Of events in the order of their rank, the last one has the greatest. -/
theorem last_eq_some_iff [DecidableEq α] [PartialOrder β] {rank : ε → β}
    (h : events.Pairwise fun a b => rank a < rank b) :
    last key events k = some e ↔ Greatest key rank events k e := by
  induction events using List.reverseRecOn with
  | nil =>
    rw [last_nil]
    constructor
    · rintro ⟨⟩
    · intro hgreatest
      cases hgreatest.mem
  | append_singleton events a ih =>
    obtain ⟨hevents, -, hlt⟩ := List.pairwise_append.1 h
    have hlast : ∀ e ∈ events, rank e < rank a := fun e he => hlt e he a (by simp)
    rw [last_concat]
    by_cases ha : key a = k
    · rw [if_pos ha]
      constructor
      · rintro ⟨⟩
        refine ⟨by simp, ha, fun e' he' _ => ?_⟩
        rcases List.mem_append.1 he' with he' | he'
        · exact (hlast e' he').le
        · rw [List.mem_singleton.1 he']
      · intro hgreatest
        rcases List.mem_append.1 hgreatest.mem with he | he
        · exact absurd (hgreatest.le a (by simp) ha) (hlast e he).not_ge
        · rw [List.mem_singleton.1 he]
    · rw [if_neg ha, ih hevents]
      constructor
      · intro hgreatest
        refine ⟨by simp [hgreatest.mem], hgreatest.concerns, fun e' he' hkey => ?_⟩
        rcases List.mem_append.1 he' with he' | he'
        · exact hgreatest.le e' he' hkey
        · exact absurd (List.mem_singleton.1 he' ▸ hkey) ha
      · intro hgreatest
        refine ⟨?_, hgreatest.concerns, fun e' he' => hgreatest.le e' (by simp [he'])⟩
        rcases List.mem_append.1 hgreatest.mem with he | he
        · exact he
        · exact absurd (List.mem_singleton.1 he ▸ hgreatest.concerns) ha

/-! ### Sorting -/

/-- The order of a rank. -/
def RankLe [LE β] (rank : ε → β) (a b : ε) : Prop := rank a ≤ rank b

instance [LE β] [DecidableLE β] (rank : ε → β) : DecidableRel (RankLe rank) :=
  fun a b => inferInstanceAs (Decidable (rank a ≤ rank b))

variable [LinearOrder β] {rank : ε → β}

instance : Std.Total (RankLe rank) := ⟨fun a b => le_total (rank a) (rank b)⟩

instance : IsTrans ε (RankLe rank) := ⟨fun _ _ _ hab hbc => le_trans hab hbc⟩

/-- Sorting puts events that differ in rank in a strict order. -/
theorem pairwise_sort (h : (events.map rank).Nodup) :
    (events.insertionSort (RankLe rank)).Pairwise fun a b => rank a < rank b := by
  have hle := List.pairwise_insertionSort (RankLe rank) events
  have hne : (events.insertionSort (RankLe rank)).Pairwise fun a b => rank a ≠ rank b := by
    rw [← List.pairwise_map]
    exact ((List.perm_insertionSort (RankLe rank) events).map rank).nodup_iff.2 h
  exact (hle.and hne).imp fun hab => lt_of_le_of_ne hab.1 hab.2

theorem last_sort_eq_some_iff [DecidableEq α] (h : (events.map rank).Nodup) :
    last key (events.insertionSort (RankLe rank)) k = some e ↔ Greatest key rank events k e := by
  have hmem : ∀ e, e ∈ events.insertionSort (RankLe rank) ↔ e ∈ events := fun e =>
    (List.perm_insertionSort (RankLe rank) events).mem_iff
  rw [last_eq_some_iff (pairwise_sort h)]
  constructor
  · intro hgreatest
    exact hgreatest.of_mem_iff hmem
  · intro hgreatest
    exact hgreatest.of_mem_iff fun e => (hmem e).symm

end Replay
