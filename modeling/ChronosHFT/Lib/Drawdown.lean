import Mathlib

/-!
# The largest drop of a series

The running peak of a series and its largest drop so far are kept one value at a time
(`Drawdown.add`).  After the values `E 1`, …, `E n` they are the greatest value and the greatest
difference of an earlier value and a later one (`isGreatest_peak`, `isGreatest_drop`). -/

namespace ChronosHFT

/-- The peak so far, and the largest drop from a peak. -/
structure Drawdown (α : Type*) where
  peak : α
  drop : α
  deriving DecidableEq, Repr

namespace Drawdown

variable {α : Type*} [AddCommGroup α] [LinearOrder α]

/-- A series that starts with a value. -/
def start (value : α) : Drawdown α := ⟨value, 0⟩

/-- The next value. -/
def add (d : Drawdown α) (value : α) : Drawdown α :=
  ⟨max d.peak value, max d.drop (max d.peak value - value)⟩

/-- The values `E 0`, …, `E n`, one after the other. -/
def along (E : ℕ → α) (n : ℕ) : Drawdown α :=
  ((List.range n).map fun k => E (k + 1)).foldl add (start (E 0))

@[simp] theorem along_zero (E : ℕ → α) : along E 0 = start (E 0) := rfl

theorem along_succ (E : ℕ → α) (n : ℕ) : along E (n + 1) = (along E n).add (E (n + 1)) := by
  unfold along
  rw [List.range_succ, List.map_append, List.foldl_append]
  rfl

/-- A series that goes on in another way later is the same so far. -/
theorem along_congr {E E' : ℕ → α} {n : ℕ} (h : ∀ k ≤ n, E k = E' k) :
    along E n = along E' n := by
  induction n with
  | zero => rw [along_zero, along_zero, h 0 le_rfl]
  | succ n ih => rw [along_succ, along_succ, ih fun k hk => h k (hk.trans (Nat.le_succ n)),
    h (n + 1) le_rfl]

theorem isGreatest_peak (E : ℕ → α) (n : ℕ) :
    IsGreatest {x | ∃ i ≤ n, x = E i} (along E n).peak := by
  induction n with
  | zero =>
    refine ⟨⟨0, le_rfl, rfl⟩, ?_⟩
    rintro x ⟨i, hi, rfl⟩
    rw [Nat.le_zero.mp hi]
    exact le_rfl
  | succ n ih =>
    rw [along_succ]
    constructor
    · obtain ⟨i, hi, hpeak⟩ := ih.1
      obtain hle | hlt := le_or_gt (E (n + 1)) (along E n).peak
      · exact ⟨i, hi.trans (Nat.le_succ n), (max_eq_left hle).trans hpeak⟩
      · exact ⟨n + 1, le_rfl, max_eq_right hlt.le⟩
    · rintro x ⟨i, hi, rfl⟩
      obtain hlt | rfl := Nat.lt_or_eq_of_le hi
      · exact (ih.2 ⟨i, Nat.lt_succ_iff.mp hlt, rfl⟩).trans (le_max_left _ _)
      · exact le_max_right _ _

variable [IsOrderedAddMonoid α]

/-- **The largest drop** is the greatest difference of an earlier value and a later one. -/
theorem isGreatest_drop (E : ℕ → α) (n : ℕ) :
    IsGreatest {x | ∃ i j, i ≤ j ∧ j ≤ n ∧ x = E i - E j} (along E n).drop := by
  induction n with
  | zero =>
    refine ⟨⟨0, 0, le_rfl, le_rfl, (sub_self _).symm⟩, ?_⟩
    rintro x ⟨i, j, hij, hj, rfl⟩
    rw [Nat.le_zero.mp hj] at hij ⊢
    rw [Nat.le_zero.mp hij, sub_self]
    exact le_rfl
  | succ n ih =>
    have hpeak := isGreatest_peak E (n + 1)
    rw [along_succ] at hpeak ⊢
    constructor
    · obtain ⟨i, j, hij, hj, hdrop⟩ := ih.1
      obtain hle | hlt := le_or_gt (max (along E n).peak (E (n + 1)) -
        E (n + 1)) (along E n).drop
      · exact ⟨i, j, hij, hj.trans (Nat.le_succ n), (max_eq_left hle).trans hdrop⟩
      obtain ⟨i, hi, hmax⟩ := hpeak.1
      refine ⟨i, n + 1, hi, le_rfl, (max_eq_right hlt.le).trans ?_⟩
      rw [← hmax]
      rfl
    · rintro x ⟨i, j, hij, hj, rfl⟩
      obtain hlt | rfl := Nat.lt_or_eq_of_le hj
      · exact (ih.2 ⟨i, j, hij, Nat.lt_succ_iff.mp hlt, rfl⟩).trans (le_max_left _ _)
      · exact (sub_le_sub_right (hpeak.2 ⟨i, hij, rfl⟩) _).trans (le_max_right _ _)

end Drawdown

end ChronosHFT
