import ChronosHFT.Lib.Dict

/-!
# The first entries of a map

`IsTop r n d top`: `top` is what a strict order `r` of the keys puts first in `d`, at most `n`
entries of it, in that order and with nothing before the last of them left out.

There is one such list (`IsTop.unique`), and sorting finds it (`isTop_take`).  A change behind a
full list leaves it what it is (`IsTop.set_behind`, `IsTop.erase_behind`), so that it may be kept
while the map changes. -/

namespace ChronosHFT

variable {κ α : Type} {r : κ → κ → Prop} {n : ℕ}

/-- The first `n` entries of a map. -/
structure IsTop (r : κ → κ → Prop) (n : ℕ) (d : Dict κ α) (top : List (κ × α)) : Prop where
  ordered : top.Pairwise fun a b => r a.1 b.1
  subset : ∀ a ∈ top, a ∈ d.items
  length : top.length = min n d.items.length
  behind : ∀ a ∈ d.items, a ∉ top → ∀ b ∈ top, r b.1 a.1

namespace IsTop

variable {d : Dict κ α} {top : List (κ × α)}

theorem nodup [Std.Irrefl r] (h : IsTop r n d top) : top.Nodup := by
  refine List.Pairwise.imp ?_ h.ordered
  rintro a b hab rfl
  exact irrefl_of r a.1 hab

/-- **There is one list** of the first entries. -/
theorem unique [Std.Irrefl r] [Std.Asymm r] {other : List (κ × α)} (h : IsTop r n d top)
    (hother : IsTop r n d other) : top = other := by
  have hlength : top.length = other.length := h.length.trans hother.length.symm
  -- an entry of one that is not in the other is before and behind an entry of the other
  have hsubset : top ⊆ other := by
    intro a ha
    by_contra hmissing
    have hmore : ¬other ⊆ top := by
      intro hall
      have hperm := (hother.nodup.subperm hall).perm_of_length_le hlength.le
      exact hmissing (hperm.mem_iff.mpr ha)
    obtain ⟨b, hb, hbtop⟩ : ∃ b ∈ other, b ∉ top := by
      by_contra hnone
      exact hmore fun b hb => by_contra fun hbtop => hnone ⟨b, hb, hbtop⟩
    exact asymm_of r (hother.behind a (h.subset a ha) hmissing b hb)
      (h.behind b (hother.subset b hb) hbtop a ha)
  have hperm := (h.nodup.subperm hsubset).perm_of_length_le hlength.ge
  exact hperm.eq_of_pairwise (fun a b _ _ hab hba => (asymm_of r hab hba).elim) h.ordered
    hother.ordered

/-- A longer map than the list is long: the list is full. -/
theorem length_eq (h : IsTop r n d top) (hfull : n ≤ top.length) : top.length = n := by
  have := h.length
  omega

/-- The list of another map that holds it, when it is full. -/
theorem of_subset [Std.Irrefl r] {d' : Dict κ α} (h : IsTop r n d top) (hfull : n ≤ top.length)
    (hsubset : ∀ a ∈ top, a ∈ d'.items)
    (hbehind : ∀ a ∈ d'.items, a ∉ top → ∀ b ∈ top, r b.1 a.1) : IsTop r n d' top := by
  refine ⟨h.ordered, hsubset, ?_, hbehind⟩
  have hlength := (h.nodup.subperm hsubset).length_le
  have := h.length_eq hfull
  omega

variable [DecidableEq κ]

/-- **A new entry behind a full list**, or another value there. -/
theorem set_behind [Std.Irrefl r] (h : IsTop r n d top) (hfull : n ≤ top.length) {k : κ} (a : α)
    (hk : ∀ b ∈ top, r b.1 k) : IsTop r n (d.set k a) top := by
  have hne : ∀ b ∈ top, b.1 ≠ k := fun b hb heq => irrefl_of r k (heq ▸ hk b hb)
  refine h.of_subset hfull (fun b hb => ?_) (fun b hb hout c hc => ?_)
  · rw [← Dict.get?_eq_some_iff, Dict.get?_set_of_ne d a (hne b hb)]
    exact Dict.get?_eq_some_iff.mpr (h.subset b hb)
  · rcases Dict.mem_items_set hb with rfl | hold
    · exact hk c hc
    · exact h.behind b hold hout c hc

/-- **An entry behind a full list is removed.** -/
theorem erase_behind [Std.Irrefl r] (h : IsTop r n d top) (hfull : n ≤ top.length) {k : κ}
    (hk : ∀ b ∈ top, r b.1 k) : IsTop r n (d.erase k) top := by
  have hne : ∀ b ∈ top, b.1 ≠ k := fun b hb heq => irrefl_of r k (heq ▸ hk b hb)
  refine h.of_subset hfull (fun b hb => ?_) (fun b hb hout c hc => ?_)
  · rw [← Dict.get?_eq_some_iff, Dict.get?_erase_of_ne d (hne b hb)]
    exact Dict.get?_eq_some_iff.mpr (h.subset b hb)
  · have hold := Dict.get?_of_erase (Dict.get?_eq_some_iff.mpr hb)
    exact h.behind b (Dict.get?_eq_some_iff.mp hold.2) hout c hc

end IsTop

/-- **Sorting finds the first entries.** -/
theorem isTop_take {d : Dict κ α} {le : κ × α → κ × α → Bool}
    (htotal : ∀ a b, (le a b || le b a) = true)
    (htrans : ∀ a b c, le a b = true → le b c = true → le a c = true)
    (hstrict : ∀ a b, le a b = true → a.1 ≠ b.1 → r a.1 b.1) :
    IsTop r n d ((d.items.mergeSort le).take n) := by
  have hperm := d.items.mergeSort_perm le
  have hkeys : ((d.items.mergeSort le).map Prod.fst).Nodup :=
    (hperm.map Prod.fst).nodup_iff.mpr d.nodup
  have hordered : (d.items.mergeSort le).Pairwise fun a b => r a.1 b.1 := by
    have hne : (d.items.mergeSort le).Pairwise fun a b => a.1 ≠ b.1 := List.pairwise_map.mp hkeys
    exact ((List.pairwise_mergeSort htrans htotal d.items).and hne).imp fun h =>
      hstrict _ _ h.1 h.2
  refine ⟨hordered.sublist (List.take_sublist _ _), fun a ha => ?_, ?_, fun a ha hout b hb => ?_⟩
  · exact hperm.mem_iff.mp (List.mem_of_mem_take ha)
  · rw [List.length_take, List.length_mergeSort]
  -- what is not taken is dropped, and all that is dropped is behind all that is taken
  have hdropped : a ∈ (d.items.mergeSort le).drop n := by
    have hmem := hperm.mem_iff.mpr ha
    rw [← List.take_append_drop n (d.items.mergeSort le), List.mem_append] at hmem
    exact hmem.resolve_left hout
  have hsplit := hordered
  rw [← List.take_append_drop n (d.items.mergeSort le), List.pairwise_append] at hsplit
  exact hsplit.2.2 b hb a hdropped

end ChronosHFT
