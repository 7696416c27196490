import Mathlib

/-!
# Text

The string operations the modelled code uses, on the character lists that
evaluate.  A text that has been upper-cased and trimmed is canonical: doing either
again changes nothing.

Upper-casing is `String.toUpper`, which maps the ASCII letters only; the texts
it is applied to are venue symbols and status words, which are ASCII.
-/

namespace ChronosHFT.Text

open List

/-- The characters `str.strip()` removes. -/
def isSpace (c : Char) : Bool :=
  let n := c.toNat
  (decide (9 ≤ n) && decide (n ≤ 13)) || (decide (28 ≤ n) && decide (n ≤ 32)) ||
    decide (n ∈ [0x85, 0xA0, 0x1680, 0x2028, 0x2029, 0x202F, 0x205F, 0x3000]) ||
    (decide (0x2000 ≤ n) && decide (n ≤ 0x200A))

/-- Drop the white space at both ends of a character list. -/
def stripChars (chars : List Char) : List Char :=
  ((chars.dropWhile isSpace).reverse.dropWhile isSpace).reverse

/-- `text.strip()`. -/
def strip (text : String) : String := String.ofList (stripChars text.toList)

/-- `text.split(sep)` for a one-character separator. -/
def split (sep : Char) (text : String) : List String :=
  (text.toList.splitOn sep).map String.ofList

/-- The two sides of the first separator, as `text.split(sep, 1)` and `text.partition(sep)`
give them; `none` when there is no separator. -/
def partition (sep : Char) (text : String) : Option (String × String) :=
  match text.toList.dropWhile (fun c => decide (c ≠ sep)) with
  | [] => none
  | _ :: rest =>
    some (String.ofList (text.toList.takeWhile (fun c => decide (c ≠ sep))), String.ofList rest)

/-! ## Canonical texts -/

theorem toUpper_toUpper (text : String) : text.toUpper.toUpper = text.toUpper := by
  apply String.toList_inj.mp
  unfold String.toUpper
  rw [String.toList_map, String.toList_map, map_map]
  exact map_congr_left fun c _ => Char.toUpper_toUpper_eq_toUpper c

theorem stripChars_eq (chars : List Char) :
    stripChars chars = (chars.dropWhile isSpace).rdropWhile isSpace := rfl

theorem stripChars_subset (chars : List Char) : stripChars chars ⊆ chars := by
  rw [stripChars_eq]
  intro c hc
  have hdropped := (List.rdropWhile_prefix isSpace _).subset hc
  exact (dropWhile_sublist _).subset hdropped

theorem stripChars_stripChars (chars : List Char) :
    stripChars (stripChars chars) = stripChars chars := by
  have hfront : (stripChars chars).dropWhile isSpace = stripChars chars := by
    rw [dropWhile_eq_self_iff]
    intro hlength hspace
    -- The first character is the first one the front trim left.
    obtain ⟨tail, htail⟩ := List.rdropWhile_prefix isSpace (chars.dropWhile isSpace)
    rw [← stripChars_eq] at htail
    have hidem := dropWhile_idempotent isSpace chars
    rw [dropWhile_eq_self_iff] at hidem
    have hlength' : 0 < (chars.dropWhile isSpace).length := by
      rw [← htail, length_append]
      omega
    refine hidem hlength' ?_
    have hfirst : (chars.dropWhile isSpace)[0] = (stripChars chars)[0] := by
      simp only [← htail, getElem_append_left hlength]
    rw [hfirst]
    exact hspace
  rw [stripChars_eq (stripChars chars), hfront]
  exact rdropWhile_idempotent isSpace _

@[simp] theorem strip_strip (text : String) : strip (strip text) = strip text := by
  unfold strip
  rw [String.toList_ofList, stripChars_stripChars]

/-- Trimming an upper-case text leaves an upper-case text. -/
theorem toUpper_strip_toUpper (text : String) :
    (strip text.toUpper).toUpper = strip text.toUpper := by
  apply String.toList_inj.mp
  unfold strip String.toUpper
  rw [String.toList_map, String.toList_ofList, String.toList_map]
  refine (map_congr_left ?_).trans (map_id _)
  intro c hc
  obtain ⟨c', -, rfl⟩ := mem_map.mp (stripChars_subset _ hc)
  exact Char.toUpper_toUpper_eq_toUpper c'

/-! ## Two texts in one -/

/-- A pair written with a separator is read back when the first text does not hold it. -/
theorem partition_append {sep : Char} {left : String} (h : sep ∉ left.toList) (right : String) :
    partition sep (left ++ String.singleton sep ++ right) = some (left, right) := by
  have hchars : (left ++ String.singleton sep ++ right).toList =
      left.toList ++ sep :: right.toList := by
    simp [String.toList_append]
  have hall : ∀ c ∈ left.toList, decide (c ≠ sep) = true := by
    intro c hc
    exact decide_eq_true (ne_of_mem_of_not_mem hc h)
  have hdrop : (left.toList ++ sep :: right.toList).dropWhile (fun c => decide (c ≠ sep)) =
      sep :: right.toList := by
    rw [dropWhile_append_of_pos hall]
    simp
  have htake : (left.toList ++ sep :: right.toList).takeWhile (fun c => decide (c ≠ sep)) =
      left.toList := by
    rw [takeWhile_append_of_pos hall]
    simp
  unfold partition
  rw [hchars, hdrop, htake]
  simp only [String.ofList_toList]

/-- The first text of a pair never holds the separator. -/
theorem not_mem_of_partition {sep : Char} {text left right : String}
    (h : partition sep text = some (left, right)) : sep ∉ left.toList := by
  unfold partition at h
  split at h
  · cases h
  cases h
  rw [String.toList_ofList]
  intro hmem
  exact absurd (mem_takeWhile_imp hmem) (by simp)

end ChronosHFT.Text
