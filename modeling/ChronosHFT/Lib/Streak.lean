import Mathlib

/-!
# Streaks

How often the last value of a sequence has come in a row.  `Streak.next` is the counter that a
sampler keeps: it goes up while the value stays and starts again at one when the value changes.

The counter is at least `k` exactly when the last `k` values are the same
(`Streak.le_count_iff`). -/

namespace ChronosHFT

open List

variable {α : Type} [DecidableEq α]

/-- The last value, and how often it has come in a row. -/
structure Streak (α : Type) where
  previous : Option α := none
  count : ℕ := 0
deriving DecidableEq

namespace Streak

/-- One more value. -/
def next (s : Streak α) (x : α) : Streak α :=
  if s.previous = some x then { s with count := s.count + 1 } else ⟨some x, 1⟩

/-- The counter after a sequence. -/
def of (xs : List α) : Streak α := xs.foldl next {}

@[simp] theorem of_nil : of ([] : List α) = {} := rfl

theorem of_concat (xs : List α) (x : α) : of (xs ++ [x]) = (of xs).next x := by
  unfold of
  rw [foldl_append]
  rfl

@[simp] theorem previous_next (s : Streak α) (x : α) : (s.next x).previous = some x := by
  unfold next
  split
  · next h => exact h
  · rfl

theorem previous_of_concat (xs : List α) (x : α) : (of (xs ++ [x])).previous = some x := by
  rw [of_concat, previous_next]

/-- **What the counter means**: it is at least `k` exactly when the sequence ends with `k` times
its last value. -/
theorem le_count_iff (xs : List α) (x : α) {k : ℕ} (hk : 0 < k) :
    k ≤ (of (xs ++ [x])).count ↔ List.replicate k x <:+ xs ++ [x] := by
  obtain ⟨k, rfl⟩ := Nat.exists_eq_succ_of_ne_zero hk.ne'
  rw [of_concat, replicate_succ', suffix_append_self_iff]
  induction xs using List.reverseRecOn generalizing x k with
  | nil =>
    have hcount : ((of []).next x).count = 1 := rfl
    rw [hcount]
    cases k with
    | zero => exact ⟨fun _ => suffix_refl _, fun _ => le_rfl⟩
    | succ k => exact ⟨fun h => by omega, fun h => absurd h.length_le (by simp)⟩
  | append_singleton xs y ih =>
    cases k with
    | zero =>
      refine ⟨fun _ => nil_suffix, fun _ => ?_⟩
      unfold next
      split
      · exact Nat.succ_le_succ (Nat.zero_le _)
      · exact le_rfl
    | succ k =>
      unfold next
      rw [previous_of_concat, replicate_succ']
      by_cases hsame : y = x
      · subst hsame
        rw [if_pos rfl, suffix_append_self_iff, ← ih y k (Nat.succ_pos k), of_concat]
        exact Nat.succ_le_succ_iff
      · rw [if_neg fun h => hsame (Option.some.inj h)]
        refine ⟨fun h => absurd h (by simp), fun h => absurd ?_ hsame⟩
        obtain ⟨before, heq⟩ := h
        rw [← append_assoc] at heq
        exact (singleton_inj.mp (append_inj' heq rfl).2).symm

/-- After a value the counter is at least one. -/
theorem count_pos (xs : List α) (x : α) : 1 ≤ (of (xs ++ [x])).count := by
  refine (le_count_iff xs x Nat.one_pos).mpr ?_
  rw [replicate_one]
  exact suffix_append xs [x]

/-- The counter is at most the number of values. -/
theorem count_le (xs : List α) : (of xs).count ≤ xs.length := by
  induction xs using List.reverseRecOn with
  | nil => exact le_rfl
  | append_singleton xs x ih =>
    rw [of_concat, length_append, length_singleton]
    unfold next
    split
    · exact Nat.succ_le_succ ih
    · exact Nat.le_add_left 1 _

/-- **The last values**: when the counter is at least `k`, each of the last `k` values is the
last one. -/
theorem getElem?_of_le_count {xs : List α} {x : α} {k : ℕ} (h : k ≤ (of (xs ++ [x])).count)
    {i : ℕ}
    (hi : i < k) : (xs ++ [x])[xs.length - i]? = some x := by
  obtain ⟨before, heq⟩ := (le_count_iff xs x (Nat.zero_lt_of_lt hi)).mp h
  have hlength : before.length + k = xs.length + 1 := by
    have := congrArg List.length heq
    simpa using this
  rw [← heq, List.getElem?_append_right (by omega), List.getElem?_replicate, if_pos (by omega)]

end Streak

/-! ## How long a sequence has been of one kind -/

/-- The number of values at the end of a sequence that are `x`. -/
def trailing (x : α) (xs : List α) : ℕ := (xs.reverse.takeWhile fun y => decide (y = x)).length

@[simp] theorem trailing_nil (x : α) : trailing x [] = 0 := rfl

theorem trailing_concat (x : α) (xs : List α) (y : α) :
    trailing x (xs ++ [y]) = if y = x then trailing x xs + 1 else 0 := by
  unfold trailing
  rw [reverse_concat, takeWhile_cons]
  by_cases h : y = x
  · rw [if_pos h, if_pos (decide_eq_true h), length_cons]
  · rw [if_neg h, if_neg (by simpa using h), length_nil]

/-- **What the number means**: it is at least `k` exactly when the sequence ends with `k` times
`x`. -/
theorem le_trailing_iff (x : α) (xs : List α) (k : ℕ) :
    k ≤ trailing x xs ↔ List.replicate k x <:+ xs := by
  induction xs using List.reverseRecOn generalizing k with
  | nil =>
    rw [trailing_nil, suffix_nil, replicate_eq_nil_iff]
    exact Nat.le_zero
  | append_singleton xs y ih =>
    rw [trailing_concat]
    cases k with
    | zero => exact ⟨fun _ => nil_suffix, fun _ => Nat.zero_le _⟩
    | succ k =>
      by_cases h : y = x
      · subst h
        rw [if_pos rfl, replicate_succ', suffix_append_self_iff, ← ih]
        exact Nat.succ_le_succ_iff
      · rw [if_neg h, replicate_succ']
        refine ⟨fun hle => absurd hle (by omega), fun hsuffix => absurd ?_ h⟩
        obtain ⟨before, heq⟩ := hsuffix
        rw [← append_assoc] at heq
        exact (singleton_inj.mp (append_inj' heq rfl).2).symm

end ChronosHFT
