import Mathlib

/-!
# Sliding windows

Entries carry a stamp, and a window of length `w` holds the entries of the last `w`:
`upTo t` are those stamped in `(t - w, t]`, `since t` those in `[t, t + w)`.

`Bounded p n` says that no window ever holds more than `n` entries that meet `p`.  A log that
is only extended at its end needs one check per entry: that the window ending at the new entry
still has room (`Bounded.append`).  Taking entries out keeps the bound (`Bounded.sublist`), and
windows may be read from either end (`Bounded.since`).
-/

namespace ChronosHFT.Window

open List

section Chronological

variable {α T : Type*} [LinearOrder T] (stamp : α → T)

/-- The stamps never go back. -/
def Chronological (xs : List α) : Prop := xs.Pairwise fun x y => stamp x ≤ stamp y

variable {stamp} {xs : List α}

theorem Chronological.append {a : α} (hxs : Chronological stamp xs)
    (hlast : ∀ x ∈ xs, stamp x ≤ stamp a) : Chronological stamp (xs ++ [a]) :=
  pairwise_append.mpr ⟨hxs, pairwise_singleton _ _, fun x hx b hb => by
    rw [mem_singleton.mp hb]
    exact hlast x hx⟩

/-- Dropping the old entries from the front drops all of them. -/
theorem Chronological.dropWhile_eq_filter (hxs : Chronological stamp xs) (cutoff : T) :
    (xs.dropWhile fun x => decide (stamp x ≤ cutoff)) =
      xs.filter fun x => decide (cutoff < stamp x) := by
  induction xs with
  | nil => rfl
  | cons a rest ih =>
    obtain ⟨hhead, hrest⟩ := pairwise_cons.mp hxs
    by_cases ha : stamp a ≤ cutoff
    · rw [dropWhile_cons_of_pos (by simpa using ha),
        filter_cons_of_neg (by simpa using ha)]
      exact ih hrest
    · rw [dropWhile_cons_of_neg (by simpa using ha), eq_comm, filter_eq_self]
      intro x hx
      rw [decide_eq_true_eq]
      obtain rfl | hmem := mem_cons.mp hx
      · exact lt_of_not_ge ha
      · exact (lt_of_not_ge ha).trans_le (hhead x hmem)

end Chronological

section Bounded

variable {α T : Type*} [AddCommGroup T] [LinearOrder T] (stamp : α → T) (w : T)

/-- The entries stamped in `(t - w, t]`. -/
def upTo (t : T) (xs : List α) : List α :=
  xs.filter fun x => decide (t - w < stamp x ∧ stamp x ≤ t)

/-- The entries stamped in `[t, t + w)`. -/
def since (t : T) (xs : List α) : List α :=
  xs.filter fun x => decide (t ≤ stamp x ∧ stamp x < t + w)

/-- No window holds more than `n` entries that meet `p`. -/
def Bounded (p : α → Bool) (n : ℕ) (xs : List α) : Prop := ∀ t, (upTo stamp w t xs).countP p ≤ n

variable {stamp w} {p : α → Bool} {n : ℕ} {xs : List α}

/-- When nothing is stamped after `t`, the window ending at `t` is what is recent enough. -/
theorem upTo_eq_filter {t : T} (hlast : ∀ x ∈ xs, stamp x ≤ t) :
    upTo stamp w t xs = xs.filter fun x => decide (t - w < stamp x) := by
  unfold upTo
  refine filter_congr fun x hx => ?_
  simp only [hlast x hx, and_true]

@[simp] theorem Bounded.nil : Bounded stamp w p n [] := fun _ => Nat.zero_le n

theorem Bounded.sublist {ys : List α} (hxs : Bounded stamp w p n xs) (hsub : ys.Sublist xs) :
    Bounded stamp w p n ys :=
  fun t => ((hsub.filter _).countP_le).trans (hxs t)

variable [IsOrderedAddMonoid T]

/-- **Admission.**  An entry added at the end keeps the bound when the window that ends at
it has room. -/
theorem Bounded.append {a : α} (hxs : Bounded stamp w p n xs)
    (hlast : ∀ x ∈ xs, stamp x ≤ stamp a)
    (hroom : p a = true → (upTo stamp w (stamp a) xs).countP p < n) :
    Bounded stamp w p n (xs ++ [a]) := by
  intro t
  have hbefore := hxs t
  unfold upTo at hbefore ⊢
  rw [filter_append, countP_append]
  by_cases hin : t - w < stamp a ∧ stamp a ≤ t
  · rw [filter_cons_of_pos (by simpa using hin), filter_nil, countP_singleton]
    by_cases hpa : p a = true
    · rw [if_pos hpa]
      -- what this window held before is all in the window that ends at the new entry
      refine lt_of_le_of_lt (List.Sublist.countP_le ?_) (hroom hpa)
      rw [upTo_eq_filter hlast]
      refine monotone_filter_right _ fun x hx => ?_
      rw [decide_eq_true_eq] at hx ⊢
      exact (sub_le_sub_right hin.2 w).trans_lt hx.1
    · rw [if_neg hpa, Nat.add_zero]
      exact hbefore
  · rw [filter_cons_of_neg (by simpa using hin), filter_nil, countP_nil]
    exact hbefore

/-- A window read from its first moment is part of the window that ends at its last entry. -/
theorem Bounded.since (hxs : Bounded stamp w p n xs) (hsorted : Chronological stamp xs) (t : T) :
    (since stamp w t xs).countP p ≤ n := by
  obtain hnil | ⟨rest, last, hlast⟩ := eq_nil_or_concat (Window.since stamp w t xs)
  · rw [hnil]
    exact Nat.zero_le n
  rw [concat_eq_append] at hlast
  have hin : last ∈ Window.since stamp w t xs := by
    rw [hlast]
    exact mem_append_right _ mem_cons_self
  have hend := of_decide_eq_true (mem_filter.mp hin).2
  have hordered : Chronological stamp (Window.since stamp w t xs) := hsorted.filter _
  refine le_trans ?_ (hxs (stamp last))
  have hself : upTo stamp w (stamp last) (Window.since stamp w t xs) =
      Window.since stamp w t xs := by
    refine filter_eq_self.mpr fun x hx => ?_
    have hstart := of_decide_eq_true (mem_filter.mp hx).2
    rw [decide_eq_true_eq]
    refine ⟨sub_lt_iff_lt_add.mpr (hend.2.trans_le (add_le_add_left hstart.1 w)), ?_⟩
    rw [hlast] at hx hordered
    obtain hx | hx := mem_append.mp hx
    · exact (pairwise_append.mp hordered).2.2 x hx last mem_cons_self
    · rw [mem_singleton.mp hx]
  rw [← hself]
  exact (filter_sublist.filter _).countP_le

end Bounded

end ChronosHFT.Window
