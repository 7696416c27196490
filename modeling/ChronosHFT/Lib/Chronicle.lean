import ChronosHFT.Lib.Window

/-!
# Lists in the order of their stamps

In a list whose stamps never go back, what stands before a moment is what is stamped before it
(`Chronological.takeWhile_lt`, `Chronological.takeWhile_le`), and the entry a binary search finds
is the first one stamped at the moment or later (`getElem?_bisect`). -/

namespace ChronosHFT.Window

open List

variable {α T : Type*} [LinearOrder T] {stamp : α → T} {xs : List α}

/-- In a list in order, what meets a condition that later entries hand down to earlier ones comes
first. -/
theorem Chronological.takeWhile_eq_filter (hxs : Chronological stamp xs) {p : α → Bool}
    (hdown : ∀ x y, stamp x ≤ stamp y → p y = true → p x = true) :
    xs.takeWhile p = xs.filter p := by
  induction xs with
  | nil => rfl
  | cons a rest ih =>
    obtain ⟨hhead, hrest⟩ := pairwise_cons.mp hxs
    cases ha : p a with
    | true => rw [takeWhile_cons_of_pos ha, filter_cons_of_pos ha, ih hrest]
    | false =>
      rw [takeWhile_cons_of_neg (ne_true_of_eq_false ha), eq_comm, filter_eq_nil_iff]
      intro x hx hpx
      obtain rfl | hmem := mem_cons.mp hx
      · exact absurd hpx (ne_true_of_eq_false ha)
      · exact absurd (hdown a x (hhead x hmem) hpx) (ne_true_of_eq_false ha)

theorem Chronological.takeWhile_lt (hxs : Chronological stamp xs) (t : T) :
    (xs.takeWhile fun x => decide (stamp x < t)) = xs.filter fun x => decide (stamp x < t) := by
  refine hxs.takeWhile_eq_filter fun x y hxy hy => ?_
  rw [decide_eq_true_eq] at hy ⊢
  exact lt_of_le_of_lt hxy hy

theorem Chronological.takeWhile_le (hxs : Chronological stamp xs) (t : T) :
    (xs.takeWhile fun x => decide (stamp x ≤ t)) = xs.filter fun x => decide (stamp x ≤ t) := by
  refine hxs.takeWhile_eq_filter fun x y hxy hy => ?_
  rw [decide_eq_true_eq] at hy ⊢
  exact hxy.trans hy

/-- **A binary search** finds the first entry stamped at a moment or later. -/
theorem getElem?_bisect (xs : List α) (t : T) :
    xs[((xs.map stamp).takeWhile fun s => decide (s < t)).length]? = xs.find? fun x =>
      decide (t ≤ stamp x) := by
  induction xs with
  | nil => rfl
  | cons a rest ih =>
    rw [map_cons]
    by_cases ha : stamp a < t
    · rw [takeWhile_cons_of_pos (by simpa using ha), List.find?_cons_of_neg (by simpa using ha)]
      exact ih
    · rw [takeWhile_cons_of_neg (by simpa using ha),
        List.find?_cons_of_pos (by simpa using le_of_not_gt ha)]
      rfl

/-- Leaving out entries that are stamped too late, or too early, does not change the first entry
that is found among those that stay. -/
theorem Chronological.find?_filter (hxs : Chronological stamp xs) {p q : α → Bool} {a : α}
    (h : (xs.filter p).find? q = some a)
    (hkept : ∀ x, stamp x ≤ stamp a → q x = true → p x = true) : xs.find? q = some a := by
  induction xs with
  | nil => cases h
  | cons b rest ih =>
    obtain ⟨hhead, hrest⟩ := pairwise_cons.mp hxs
    have hmem : a ∈ b :: rest := mem_of_mem_filter (List.mem_of_find?_eq_some h)
    cases hq : q b with
    | true =>
      have hle : stamp b ≤ stamp a := by
        obtain rfl | hmem := mem_cons.mp hmem
        · exact le_rfl
        · exact hhead a hmem
      rw [filter_cons_of_pos (hkept b hle hq), List.find?_cons_of_pos hq] at h
      rw [List.find?_cons_of_pos hq]
      exact h
    | false =>
      rw [List.find?_cons_of_neg (ne_true_of_eq_false hq)]
      refine ih hrest ?_
      cases hp : p b with
      | true =>
        rw [filter_cons_of_pos hp, List.find?_cons_of_neg (ne_true_of_eq_false hq)] at h
        exact h
      | false =>
        rw [filter_cons_of_neg (ne_true_of_eq_false hp)] at h
        exact h

section StampedBefore

variable {R : Type*} [LinearOrder R] (stamp : α → T) (rank : α → R)

/-- By the stamp, and by a rank among those with the same stamp. -/
def StampedBefore (a b : α) : Prop := stamp a < stamp b ∨ (stamp a = stamp b ∧ rank a ≤ rank b)

instance : DecidableRel (StampedBefore stamp rank) :=
  fun _ _ => inferInstanceAs (Decidable (_ ∨ _))

instance stampedBefore_total : Std.Total (StampedBefore stamp rank) := ⟨fun a b => by
  unfold StampedBefore
  obtain hlt | heq | hgt := lt_trichotomy (stamp a) (stamp b)
  · exact Or.inl (Or.inl hlt)
  · obtain hle | hle := le_total (rank a) (rank b)
    · exact Or.inl (Or.inr ⟨heq, hle⟩)
    · exact Or.inr (Or.inr ⟨heq.symm, hle⟩)
  · exact Or.inr (Or.inl hgt)⟩

instance stampedBefore_trans : IsTrans α (StampedBefore stamp rank) := ⟨fun a b c hab hbc => by
  unfold StampedBefore at *
  obtain hab | ⟨hab, hrank⟩ := hab
  · obtain hbc | ⟨hbc, -⟩ := hbc
    · exact Or.inl (hab.trans hbc)
    · exact Or.inl (hab.trans_eq hbc)
  · obtain hbc | ⟨hbc, hrank'⟩ := hbc
    · exact Or.inl (hab.trans_lt hbc)
    · exact Or.inr ⟨hab.trans hbc, hrank.trans hrank'⟩⟩

variable {stamp rank}

theorem StampedBefore.le {a b : α} (h : StampedBefore stamp rank a b) : stamp a ≤ stamp b := by
  obtain hlt | ⟨heq, -⟩ := h
  · exact hlt.le
  · exact heq.le

end StampedBefore

end ChronosHFT.Window
