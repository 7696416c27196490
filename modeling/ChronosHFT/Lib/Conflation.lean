import Mathlib

/-!
# Conflated values

A slot that keeps the latest value: a value that is submitted replaces the one that is pending,
and taking the value empties the slot.  Nobody sees every value; what the reader is promised is
`Conflated`.  The values that were taken are some of those that were submitted, in their order,
and the last of them all is the last that was submitted, unless it is pending. -/

namespace ChronosHFT.Conflation

variable {α : Type*} {submitted taken : List α} {pending : Option α}

/-- **The latest value is not lost**, and no value comes after a later one. -/
structure Conflated (submitted taken : List α) (pending : Option α) : Prop where
  sublist : (taken ++ pending.toList).Sublist submitted
  last : (taken ++ pending.toList).getLast? = submitted.getLast?

namespace Conflated

/-- An empty slot to which nothing was submitted. -/
theorem empty : Conflated ([] : List α) [] none := ⟨List.Sublist.refl _, rfl⟩

/-- **A value is submitted**, whatever was pending. -/
theorem submit (h : Conflated submitted taken pending) (a : α) :
    Conflated (submitted ++ [a]) taken (some a) := by
  have htaken : taken.Sublist submitted := (List.sublist_append_left _ _).trans h.sublist
  refine ⟨htaken.append (List.Sublist.refl [a]), ?_⟩
  rw [Option.toList_some, List.getLast?_concat, List.getLast?_concat]

/-- **The pending value is taken.** -/
theorem take {a : α} (h : Conflated submitted taken (some a)) :
    Conflated submitted (taken ++ [a]) none := by
  refine ⟨?_, ?_⟩
  · rw [Option.toList_none, List.append_nil]
    exact h.sublist
  · rw [Option.toList_none, List.append_nil]
    exact h.last

end Conflated

end ChronosHFT.Conflation
