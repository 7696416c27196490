import Mathlib

/-!
# Exponential weights and the Poisson rate

Positive weights `T i` at depths `d i`, discounted at a rate `k`: `total` is the sum of `T i *
exp (-k * d i)` and `mean` the depth averaged with these weights.  The total lies above its
tangents (`tangent_le_total`, strictly where two depths differ), so the mean falls strictly as
the rate grows (`strictAnti_mean`).

Counts `n i` that are Poisson with mean `T i * A * exp (-k * d i)` have their likelihood at its
greatest where `A` is the count over the total (`likelihood_le_of_scale`) and, of all rates, at
the one where the mean depth is that of the counts (`likelihood_le_of_root`).  At any other rate
what is missing is bounded by the distance to that one (`likelihood_le_near_root`).  All three
are one comparison (`likelihood_le`).

Everything is a sum over a list, so the same observations may occur several times.
-/

noncomputable section

namespace ChronosHFT.ExponentialWeights

open List

variable {ι : Type*} (T d : ι → ℝ)

/-- What is left of a weight at a rate. -/
def weight (k : ℝ) (i : ι) : ℝ := T i * Real.exp (-k * d i)

/-- The sum of the discounted weights. -/
def total (k : ℝ) (l : List ι) : ℝ := (l.map (weight T d k)).sum

/-- The sum of the depths under the discounted weights. -/
def moment (k : ℝ) (l : List ι) : ℝ := (l.map fun i => weight T d k i * d i).sum

/-- The mean depth under the discounted weights. -/
def mean (k : ℝ) (l : List ι) : ℝ := moment T d k l / total T d k l

variable {T d} {l : List ι} {a b k : ℝ}

theorem weight_pos {i : ι} (hT : 0 < T i) : 0 < weight T d k i := mul_pos hT (Real.exp_pos _)

theorem total_pos (hT : ∀ i ∈ l, 0 < T i) (hl : l ≠ []) : 0 < total T d k l := by
  refine sum_pos _ ?_ (by simpa using hl)
  intro x hx
  obtain ⟨i, hi, rfl⟩ := mem_map.mp hx
  exact weight_pos (hT i hi)

theorem mean_mul_total (hT : ∀ i ∈ l, 0 < T i) (hl : l ≠ []) :
    mean T d k l * total T d k l = moment T d k l :=
  div_mul_cancel₀ _ (total_pos hT hl).ne'

/-- The depths measured from the mean cancel under the weights. -/
theorem sum_centered (hT : ∀ i ∈ l, 0 < T i) (hl : l ≠ []) :
    (l.map fun i => weight T d k i * (d i - mean T d k l)).sum = 0 := by
  have hsplit : ∀ c : ℝ, (l.map fun i => weight T d k i * (d i - c)).sum =
      moment T d k l - total T d k l * c := by
    intro c
    unfold moment total
    induction l with
    | nil => simp
    | cons i l ih =>
      by_cases hnil : l = []
      · subst hnil
        simp only [map_cons, map_nil, sum_cons, sum_nil]
        ring
      · have hrest := ih (fun j hj => hT j (mem_cons_of_mem _ hj)) hnil
        simp only [map_cons, sum_cons, hrest]
        ring
  rw [hsplit, ← mean_mul_total hT hl]
  ring

/-- A weight at one rate, from the weight at another. -/
theorem weight_mul_exp (i : ι) (c : ℝ) :
    weight T d a i * Real.exp ((a - b) * c) = weight T d b i *
      Real.exp (-(a - b) * (d i - c)) := by
  unfold weight
  rw [mul_assoc, mul_assoc, ← Real.exp_add, ← Real.exp_add]
  ring_nf

theorem total_mul_exp (c : ℝ) :
    total T d a l * Real.exp ((a - b) * c)
      = (l.map fun i => weight T d b i * Real.exp (-(a - b) * (d i - c))).sum := by
  unfold total
  rw [← sum_map_mul_right]
  exact congrArg List.sum (map_congr_left fun i _ => weight_mul_exp i c)

/-- The total, as the sum of what a tangent of the exponential gives at every depth. -/
theorem total_eq_sum_tangent (hT : ∀ i ∈ l, 0 < T i) (hl : l ≠ []) :
    total T d b l = (l.map fun i =>
      weight T d b i * (-(a - b) * (d i - mean T d b l) + 1)).sum := by
  have hexpand : (l.map fun i => weight T d b i * (-(a - b) * (d i - mean T d b l) + 1))
      = l.map fun i => -(a - b) * (weight T d b i * (d i - mean T d b l)) + weight T d b i :=
    map_congr_left fun i _ => by ring
  rw [hexpand, sum_map_add, sum_map_mul_left, sum_centered hT hl, mul_zero, zero_add]
  rfl

/-- **The total lies above its tangent** in the logarithm, at every other rate. -/
theorem tangent_le_total (hT : ∀ i ∈ l, 0 < T i) (hl : l ≠ []) :
    total T d b l ≤ total T d a l * Real.exp ((a - b) * mean T d b l) := by
  rw [total_mul_exp, total_eq_sum_tangent (a := a) hT hl]
  refine sum_le_sum fun i hi => ?_
  exact mul_le_mul_of_nonneg_left (Real.add_one_le_exp _) (weight_pos (hT i hi)).le

/-- Where two depths differ, it lies strictly above. -/
theorem tangent_lt_total (hT : ∀ i ∈ l, 0 < T i) (hab : a ≠ b) {i j : ι} (hi : i ∈ l)
    (hj : j ∈ l)
    (hdepths : d i ≠ d j) : total T d b l < total T d a l *
      Real.exp ((a - b) * mean T d b l) := by
  -- one of the two depths is not the mean
  obtain ⟨m, hm, hcm⟩ : ∃ m ∈ l, d m ≠ mean T d b l := by
    by_contra hall
    push Not at hall
    exact hdepths ((hall i hi).trans (hall j hj).symm)
  have hoff : -(a - b) * (d m - mean T d b l) ≠ 0 :=
    mul_ne_zero (neg_ne_zero.mpr (sub_ne_zero.mpr hab)) (sub_ne_zero.mpr hcm)
  rw [total_mul_exp, total_eq_sum_tangent (a := a) hT (ne_nil_of_mem hi)]
  refine sum_lt_sum _ _ (fun i hi => ?_) ⟨m, hm, ?_⟩
  · exact mul_le_mul_of_nonneg_left (Real.add_one_le_exp _) (weight_pos (hT i hi)).le
  · exact mul_lt_mul_of_pos_left (Real.add_one_lt_exp hoff) (weight_pos (hT m hm))

/-- **The mean depth falls strictly as the rate grows.** -/
theorem strictAnti_mean (hT : ∀ i ∈ l, 0 < T i) {i j : ι} (hi : i ∈ l) (hj : j ∈ l)
    (hdepths : d i ≠ d j) :
    StrictAnti fun k => mean T d k l := by
  intro a b hab
  have hl : l ≠ [] := ne_nil_of_mem hi
  have hpos : 0 < total T d b l := total_pos hT hl
  -- each total lies above the tangent at the other rate
  have hfirst := tangent_lt_total (a := a) (b := b) hT hab.ne hi hj hdepths
  have hsecond := tangent_lt_total (a := b) (b := a) hT hab.ne' hi hj hdepths
  have hchain : total T d b l
      < total T d b l * (Real.exp ((b - a) * mean T d a l) *
          Real.exp ((a - b) * mean T d b l)) := by
    calc total T d b l
        < total T d a l * Real.exp ((a - b) * mean T d b l) := hfirst
      _ < total T d b l * Real.exp ((b - a) * mean T d a l) *
        Real.exp ((a - b) * mean T d b l) :=
          mul_lt_mul_of_pos_right hsecond (Real.exp_pos _)
      _ = total T d b l * (Real.exp ((b - a) * mean T d a l) *
        Real.exp ((a - b) * mean T d b l)) :=
        mul_assoc _ _ _
  have hone := (lt_mul_iff_one_lt_right hpos).mp hchain
  rw [← Real.exp_add, Real.one_lt_exp_iff] at hone
  have hfactor : 0 < (b - a) * (mean T d a l - mean T d b l) := by linarith
  have hdiff := (mul_pos_iff_of_pos_left (sub_pos.mpr hab)).mp hfactor
  exact sub_pos.mp hdiff

theorem continuous_mean (hT : ∀ i ∈ l, 0 < T i) (hl : l ≠ []) :
    Continuous fun k => mean T d k l := by
  have hweight : ∀ i, Continuous fun k => weight T d k i := fun i => by
    unfold weight
    fun_prop
  unfold mean
  refine Continuous.div ?_ ?_ fun k => (total_pos hT hl).ne'
  · exact continuous_list_sum _ fun i _ => (hweight i).mul continuous_const
  · exact continuous_list_sum _ fun i _ => hweight i

variable {A' highest k' lowest : ℝ}

/-- The mean lies among the depths. -/
theorem mean_mem_Icc (hT : ∀ i ∈ l, 0 < T i) (hl : l ≠ [])
    (hdepths : ∀ i ∈ l, d i ∈ Set.Icc lowest highest) :
    mean T d k l ∈ Set.Icc lowest highest := by
  have hpos := total_pos (d := d) (k := k) hT hl
  unfold mean
  rw [Set.mem_Icc, le_div_iff₀ hpos, div_le_iff₀ hpos]
  unfold total moment
  rw [← sum_map_mul_left, ← sum_map_mul_left]
  constructor
  · refine sum_le_sum fun i hi => ?_
    rw [mul_comm lowest]
    exact mul_le_mul_of_nonneg_left (hdepths i hi).1 (weight_pos (hT i hi)).le
  · refine sum_le_sum fun i hi => ?_
    rw [mul_comm highest]
    exact mul_le_mul_of_nonneg_left (hdepths i hi).2 (weight_pos (hT i hi)).le

/-! ## Poisson counts -/

variable {n : ι → ℕ} {A : ℝ}

/-- How likely the counts are when each is Poisson with mean `A * weight`. -/
def likelihood (T d : ι → ℝ) (n : ι → ℕ) (A k : ℝ) (l : List ι) : ℝ :=
  (l.map fun i => Real.exp (-(A * weight T d k i)) * (A * weight T d k i) ^ n i /
    (n i).factorial).prod

/-- The counts together. -/
def count (n : ι → ℕ) (l : List ι) : ℕ := (l.map n).sum

/-- The depths of all that was counted, added up. -/
def countedDepth (d : ι → ℝ) (n : ι → ℕ) (l : List ι) : ℝ := (l.map fun i => n i * d i).sum

/-- The mean depth of what was counted. -/
def countMean (d : ι → ℝ) (n : ι → ℕ) (l : List ι) : ℝ := countedDepth d n l / count n l

/-- What the likelihood owes to the counts and the weights alone. -/
def countPart (T : ι → ℝ) (n : ι → ℕ) (l : List ι) : ℝ :=
  (l.map fun i => n i * Real.log (T i) - Real.log (n i).factorial).sum

/-- The logarithm of the likelihood, with what depends on the scale and the rate apart. -/
theorem likelihood_eq_exp (hT : ∀ i ∈ l, 0 < T i) (hA : 0 < A) :
    likelihood T d n A k l
      = Real.exp (count n l * Real.log A - k * countedDepth d n l - A * total T d k l +
          countPart T n l) := by
  induction l with
  | nil => simp [likelihood, count, countedDepth, total, countPart]
  | cons i l ih =>
    have hi : 0 < T i := hT i mem_cons_self
    have hrest := ih fun j hj => hT j (mem_cons_of_mem _ hj)
    have hmean : 0 < A * weight T d k i := mul_pos hA (weight_pos hi)
    have hlog : Real.log (A * weight T d k i) = Real.log A + Real.log (T i) - k * d i := by
      unfold weight
      rw [Real.log_mul hA.ne' (mul_pos hi (Real.exp_pos _)).ne',
        Real.log_mul hi.ne' (Real.exp_pos _).ne',
        Real.log_exp]
      ring
    have hfactorial : (0 : ℝ) < (n i).factorial := Nat.cast_pos.mpr (Nat.factorial_pos _)
    have hpower : (A * weight T d k i) ^ n i =
        Real.exp (n i * (Real.log A + Real.log (T i) - k * d i)) := by
      rw [← hlog, mul_comm (n i : ℝ), Real.exp_mul, Real.exp_log hmean, Real.rpow_natCast]
    have hhead : Real.exp (-(A * weight T d k i)) * (A * weight T d k i) ^ n i / (n i).factorial
        = Real.exp (-(A * weight T d k i) + n i * (Real.log A + Real.log (T i) - k * d i)
            - Real.log (n i).factorial) := by
      rw [hpower, ← Real.exp_add, Real.exp_sub, Real.exp_log hfactorial]
    unfold likelihood at hrest ⊢
    rw [map_cons, prod_cons, hhead, hrest, ← Real.exp_add]
    congr 1
    simp only [count, countedDepth, total, countPart, map_cons, sum_cons, Nat.cast_add]
    ring

/-- For one rate the scale is best where the means add up to the counts. -/
theorem scale_le {S F : ℝ} (hS : 0 < S) (hF : 0 < F) (hA : 0 < A) :
    F * Real.log A - A * S ≤ F * Real.log (F / S) - F := by
  have hratio : 0 < A * S / F := div_pos (mul_pos hA hS) hF
  have hlog := Real.log_le_sub_one_of_pos hratio
  have hsplit : Real.log (A * S / F) = Real.log A - Real.log (F / S) := by
    rw [Real.log_div (mul_pos hA hS).ne' hF.ne', Real.log_mul hA.ne' hS.ne',
      Real.log_div hF.ne' hS.ne']
    ring
  rw [hsplit] at hlog
  have hscaled := mul_le_mul_of_nonneg_left hlog hF.le
  have hcancel : F * (A * S / F - 1) = A * S - F := by field_simp
  rw [hcancel] at hscaled
  linarith

/-- **The comparison of any scale and rate with the best scale at a rate.** -/
theorem likelihood_le (hT : ∀ i ∈ l, 0 < T i) (hcount : 0 < count n l) (hA' : 0 < A') :
    likelihood T d n A' k' l ≤ likelihood T d n (count n l / total T d k l) k l
      * Real.exp (count n l * ((k' - k) * (mean T d k l - countMean d n l))) := by
  have hl : l ≠ [] := by
    rintro rfl
    exact absurd hcount (lt_irrefl _)
  have hS : 0 < total T d k l := total_pos hT hl
  have hS' : 0 < total T d k' l := total_pos hT hl
  have hF : (0 : ℝ) < count n l := Nat.cast_pos.mpr hcount
  have htangent := tangent_le_total (d := d) (a := k') (b := k) hT hl
  have hlog : Real.log (total T d k l) - Real.log (total T d k' l) ≤
      (k' - k) * mean T d k l := by
    have := Real.log_le_log hS htangent
    rw [Real.log_mul hS'.ne' (Real.exp_pos _).ne', Real.log_exp] at this
    linarith
  have hscale := scale_le (A := A') hS' hF hA'
  rw [Real.log_div hF.ne' hS'.ne'] at hscale
  have hmean : (count n l : ℝ) * countMean d n l = countedDepth d n l := mul_div_cancel₀ _ hF.ne'
  have hbest : (count n l : ℝ) / total T d k l * total T d k l = count n l :=
    div_mul_cancel₀ _ hS.ne'
  have hrates := mul_le_mul_of_nonneg_left hlog hF.le
  rw [likelihood_eq_exp hT hA', likelihood_eq_exp hT (div_pos hF hS), ← Real.exp_add,
    Real.exp_le_exp, hbest,
    Real.log_div hF.ne' hS.ne']
  calc (count n l : ℝ) * Real.log A' - k' * countedDepth d n l - A' * total T d k' l +
    countPart T n l
      ≤ count n l * (Real.log (count n l) - Real.log (total T d k' l)) - count n l
          - k' * countedDepth d n l + countPart T n l := by linarith
    _ ≤ count n l * (Real.log (count n l) - Real.log (total T d k l)) - k * countedDepth d n l
          - count n l + countPart T n l + count n l *
            ((k' - k) * (mean T d k l - countMean d n l)) := by
        have hspread : (count n l : ℝ) * ((k' - k) * (mean T d k l - countMean d n l))
            = count n l * ((k' - k) * mean T d k l) - (k' - k) * countedDepth d n l := by
          rw [← hmean]
          ring
        rw [hspread]
        linarith

/-- **At one rate the count over the total is the most likely scale.** -/
theorem likelihood_le_of_scale (hT : ∀ i ∈ l, 0 < T i) (hcount : 0 < count n l) (hA' : 0 < A') :
    likelihood T d n A' k l ≤ likelihood T d n (count n l / total T d k l) k l := by
  have hle := @likelihood_le ι T d l k A' k n hT hcount hA'
  rwa [sub_self, zero_mul, mul_zero, Real.exp_zero, mul_one] at hle

/-- **The most likely rate of all** has the counts at the mean depth. -/
theorem likelihood_le_of_root (hT : ∀ i ∈ l, 0 < T i) (hcount : 0 < count n l) (hA' : 0 < A')
    (hroot : mean T d k l = countMean d n l) :
    likelihood T d n A' k' l ≤ likelihood T d n (count n l / total T d k l) k l := by
  have hle := @likelihood_le ι T d l k A' k' n hT hcount hA'
  rwa [hroot, sub_self, mul_zero, mul_zero, Real.exp_zero, mul_one] at hle

/-- The mean of what was counted lies among the depths. -/
theorem countMean_mem_Icc (hcount : 0 < count n l)
    (hdepths : ∀ i ∈ l, d i ∈ Set.Icc lowest highest) :
    countMean d n l ∈ Set.Icc lowest highest := by
  have hF : (0 : ℝ) < count n l := Nat.cast_pos.mpr hcount
  have hsum : ((l.map fun i => (n i : ℝ)).sum) = count n l := by
    rw [count, Nat.cast_list_sum, map_map]
    rfl
  unfold countMean
  rw [Set.mem_Icc, le_div_iff₀ hF, div_le_iff₀ hF, ← hsum]
  unfold countedDepth
  rw [← sum_map_mul_left, ← sum_map_mul_left]
  constructor
  · refine sum_le_sum fun i hi => ?_
    rw [mul_comm lowest]
    exact mul_le_mul_of_nonneg_left (hdepths i hi).1 (Nat.cast_nonneg _)
  · refine sum_le_sum fun i hi => ?_
    rw [mul_comm highest]
    exact mul_le_mul_of_nonneg_left (hdepths i hi).2 (Nat.cast_nonneg _)

/-- **Near the most likely rate little is missing.** -/
theorem likelihood_le_near_root {root : ℝ} (hT : ∀ i ∈ l, 0 < T i)
    (hcount : 0 < count n l) (hdepths : ∀ i ∈ l, d i ∈ Set.Icc lowest highest) (hA' : 0 < A')
    (hroot : mean T d root l = countMean d n l) :
    likelihood T d n A' k' l ≤ likelihood T d n (count n l / total T d k l) k l
      * Real.exp (count n l * (|root - k| * (highest - lowest))) := by
  have hl : l ≠ [] := by
    rintro rfl
    exact absurd hcount (lt_irrefl _)
  have hF : (0 : ℝ) < count n l := Nat.cast_pos.mpr hcount
  have hbest : 0 < count n l / total T d root l := div_pos hF (total_pos hT hl)
  have hmean := mean_mem_Icc (k := k) hT hl hdepths
  have hcounted := countMean_mem_Icc (n := n) hcount hdepths
  have hgap : |mean T d k l - countMean d n l| ≤ highest - lowest := by
    rw [abs_le]
    constructor <;> linarith [hmean.1, hmean.2, hcounted.1, hcounted.2]
  calc likelihood T d n A' k' l
      ≤ likelihood T d n (count n l / total T d root l) root l :=
        likelihood_le_of_root hT hcount hA' hroot
    _ ≤ likelihood T d n (count n l / total T d k l) k l
          * Real.exp (count n l * ((root - k) * (mean T d k l - countMean d n l))) :=
        likelihood_le hT hcount hbest
    _ ≤ _ := by
        have hpos : 0 ≤ likelihood T d n (count n l / total T d k l) k l := by
          rw [likelihood_eq_exp hT (div_pos hF (total_pos hT hl))]
          exact (Real.exp_pos _).le
        refine mul_le_mul_of_nonneg_left (Real.exp_le_exp.mpr ?_) hpos
        refine mul_le_mul_of_nonneg_left ?_ hF.le
        calc (root - k) * (mean T d k l - countMean d n l)
            ≤ |(root - k) * (mean T d k l - countMean d n l)| := le_abs_self _
          _ = |root - k| * |mean T d k l - countMean d n l| := abs_mul _ _
          _ ≤ |root - k| * (highest - lowest) := mul_le_mul_of_nonneg_left hgap (abs_nonneg _)

end ChronosHFT.ExponentialWeights

end
