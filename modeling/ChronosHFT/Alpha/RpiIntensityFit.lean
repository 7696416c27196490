import ChronosHFT.Alpha.RpiIntensity

/-!
# The fit is the maximum likelihood estimate

The depth averaged with the discounted exposure is the mean of the library
(`exposureWeightedDepth_eq`), whatever is taken out of the exponents before; so the profile score
falls strictly, and the two tests at the ends of the range put exactly one root between them.
The bisection keeps that root in its bracket (`bisect_brackets`).

An estimate reads of its bins what each depth adds up to and what was rejected
(`estimate_of_sameSamples`).  When it is ready, its parameters are the maximum likelihood
estimate for the bins it was given, up to the width the bisection stops at
(`ready_is_maximum_likelihood`). -/

noncomputable section

namespace ChronosHFT.Alpha.Intensity

open List ExponentialWeights

/-! ## Bins -/

section Bins

variable {source : List RawBin} {valid valid' : List ExposureBin} {depth : ℝ}

theorem normalizeBin_ok {raw : RawBin} {item : ExposureBin} (hok : normalizeBin raw = .ok item) :
    0 < item.exposureSeconds := by
  unfold normalizeBin at hok
  split at hok
  · cases hok
  split at hok
  · cases hok
  split at hok
  · cases hok
  split at hok
  · cases hok
  split at hok
  · cases hok
  rename_i hexposure
  split at hok
  · cases hok
  split at hok
  · cases hok
  split at hok
  · cases hok
  split at hok
  · cases hok
  · cases hok
    exact not_le.mp hexposure

/-- An accepted bin has some exposure. -/
theorem exposure_pos : ∀ item ∈ validBins source, 0 < item.exposureSeconds := by
  intro item hitem
  obtain ⟨raw, _, hraw⟩ := mem_filterMap.mp hitem
  cases hnormal : normalizeBin raw with
  | error reason =>
    rw [hnormal] at hraw
    cases hraw
  | ok accepted =>
    rw [hnormal] at hraw
    cases hraw
    exact normalizeBin_ok hnormal

theorem mem_depths : depth ∈ depths valid ↔ ∃ item ∈ valid, item.depthBps = depth := by
  unfold depths
  rw [Finset.mem_sort, mem_toFinset, mem_map]

/-- A depth occurs exactly where there is some exposure. -/
theorem mem_depths_iff (hpos : ∀ item ∈ valid, 0 < item.exposureSeconds) :
    depth ∈ depths valid ↔ 0 < (depthTotal valid depth).exposureSeconds := by
  rw [mem_depths]
  have hpart : ∀ item ∈ depthBins valid depth, 0 < item.exposureSeconds :=
    fun item hitem => hpos item (mem_filter.mp hitem).1
  constructor
  · rintro ⟨item, hitem, hdepth⟩
    have hmem : item ∈ depthBins valid depth := mem_filter.mpr ⟨hitem, decide_eq_true hdepth⟩
    refine sum_pos _ ?_ ?_
    · intro x hx
      obtain ⟨other, hother, rfl⟩ := mem_map.mp hx
      exact hpart other hother
    · exact ne_nil_of_mem (mem_map_of_mem hmem)
  · intro hsum
    cases hbins : depthBins valid depth with
    | nil =>
      rw [depthTotal, hbins] at hsum
      exact absurd hsum (lt_irrefl _)
    | cons item rest =>
      have hmem : item ∈ depthBins valid depth := hbins ▸ mem_cons_self
      obtain ⟨hitem, hdepth⟩ := mem_filter.mp hmem
      exact ⟨item, hitem, of_decide_eq_true hdepth⟩

/-- **No depth is lost** when accepted bins are aggregated. -/
theorem aggregateBins_eq (hpos : ∀ item ∈ valid, 0 < item.exposureSeconds) :
    aggregateBins valid = (depths valid).map (depthTotal valid) := by
  refine filter_eq_self.mpr fun item hitem => ?_
  obtain ⟨depth, hdepth, rfl⟩ := mem_map.mp hitem
  exact decide_eq_true ((mem_depths_iff hpos).mp hdepth)

theorem unusableBins_eq (hpos : ∀ item ∈ valid, 0 < item.exposureSeconds) :
    unusableBins valid = [] := by
  refine filter_eq_nil_iff.mpr fun item hitem => ?_
  obtain ⟨depth, hdepth, rfl⟩ := mem_map.mp hitem
  simpa using (mem_depths_iff hpos).mp hdepth

theorem map_depthBps_aggregateBins (hpos : ∀ item ∈ valid, 0 < item.exposureSeconds) :
    (aggregateBins valid).map (·.depthBps) = depths valid := by
  rw [aggregateBins_eq hpos, map_map]
  exact map_id _

theorem aggregate_exposure_pos :
    ∀ item ∈ aggregateBins valid, 0 < item.exposureSeconds := by
  intro item hitem
  exact of_decide_eq_true (mem_filter.mp hitem).2

/-- **Aggregation keeps every sum over the bins** that looks at the depth alone: exposures, fills
and samples. -/
theorem sum_aggregate (amount : ExposureBin → ℝ) (φ : ℝ → ℝ)
    (htotal : ∀ depth, amount (depthTotal valid depth) =
      ((depthBins valid depth).map amount).sum)
    (hpos : ∀ item ∈ valid, 0 < item.exposureSeconds) :
    ((aggregateBins valid).map fun item => amount item * φ item.depthBps).sum
      = (valid.map fun item => amount item * φ item.depthBps).sum := by
  have hspread : ∀ (levels : Finset ℝ) (items : List ExposureBin),
      (∀ item ∈ items, item.depthBps ∈ levels) →
      ∑ depth ∈ levels, ((depthBins items depth).map amount).sum * φ depth
        = (items.map fun item => amount item * φ item.depthBps).sum := by
    intro levels items hitems
    induction items with
    | nil => simp [depthBins]
    | cons item items ih =>
      have hrest := ih fun other hother => hitems other (mem_cons_of_mem _ hother)
      have hcons : ∀ depth, ((depthBins (item :: items) depth).map amount).sum * φ depth
          = (if item.depthBps = depth then amount item * φ depth else 0)
            + ((depthBins items depth).map amount).sum * φ depth := by
        intro depth
        unfold depthBins
        by_cases hdepth : item.depthBps = depth
        · rw [filter_cons, if_pos (by simpa using hdepth), if_pos hdepth, map_cons, sum_cons]
          ring
        · rw [filter_cons, if_neg (by simpa using hdepth), if_neg hdepth]
          ring
      rw [Finset.sum_congr rfl fun depth _ => hcons depth, Finset.sum_add_distrib, hrest,
        Finset.sum_ite_eq, if_pos (hitems item mem_cons_self), map_cons, sum_cons]
  have hall := hspread (valid.map (·.depthBps)).toFinset valid fun item hitem =>
    mem_toFinset.mpr (mem_map_of_mem hitem)
  rw [← hall, aggregateBins_eq hpos, map_map]
  simp only [Function.comp_def, htotal]
  have hsort : (((depths valid : List ℝ) : Multiset ℝ)) =
      (valid.map (·.depthBps)).toFinset.val :=
    Finset.sort_eq _ _
  rw [Finset.sum, ← hsort, Multiset.map_coe, Multiset.sum_coe]
  rfl

end Bins

/-! ## What the fit computes -/

section Fit

variable {bins : List ExposureBin} {k : ℝ}

/-- A weight as the code computes it: the greatest logarithm is taken out first. -/
theorem exp_logWeight {item : ExposureBin} (hpos : 0 < item.exposureSeconds) (c : ℝ) :
    Real.exp (Real.log item.exposureSeconds - k * item.depthBps - c)
      = Real.exp (-c) * weight (·.exposureSeconds) (·.depthBps) k item := by
  unfold weight
  rw [sub_sub, Real.exp_sub, Real.exp_log hpos, Real.exp_add, Real.exp_neg, neg_mul,
    Real.exp_neg]
  field_simp

theorem weights_eq (hpos : ∀ item ∈ bins, 0 < item.exposureSeconds) (c : ℝ) :
    (logWeights bins k).map (fun value => Real.exp (value - c))
      = bins.map fun item => Real.exp (-c) * weight (·.exposureSeconds) (·.depthBps) k item := by
  unfold logWeights
  rw [map_map]
  exact map_congr_left fun item hitem => exp_logWeight (hpos item hitem) c

theorem zipWith_map_self {β γ : Type*} (f : β → ExposureBin → γ) (g : ExposureBin → β)
    (l : List ExposureBin) :
    List.zipWith f (l.map g) l = l.map fun item => f (g item) item := by
  induction l with
  | nil => rfl
  | cons item l ih => rw [map_cons, zipWith_cons_cons, ih, map_cons]

/-- **`_exposure_weighted_depth` is the mean depth** under the discounted exposure. -/
theorem exposureWeightedDepth_eq (hpos : ∀ item ∈ bins, 0 < item.exposureSeconds)
    (hbins : bins ≠ []) :
    exposureWeightedDepth bins k = mean (·.exposureSeconds) (·.depthBps) k bins := by
  have htotal : 0 < total (·.exposureSeconds) (·.depthBps) k bins := total_pos hpos hbins
  have hexp : 0 < Real.exp (-anchor bins k) := Real.exp_pos _
  have hoffset : (bins.map fun item => Real.exp (-anchor bins k)
        * weight (·.exposureSeconds) (·.depthBps) k item *
          (item.depthBps - referenceDepth bins)).sum
      = Real.exp (-anchor bins k) * (moment (·.exposureSeconds) (·.depthBps) k bins
          - referenceDepth bins * total (·.exposureSeconds) (·.depthBps) k bins) := by
    unfold moment total
    generalize referenceDepth bins = reference
    generalize Real.exp (-anchor bins k) = c
    induction bins with
    | nil => simp
    | cons item bins ih =>
      by_cases hnil : bins = []
      · subst hnil
        simp only [map_cons, map_nil, sum_cons, sum_nil]
        ring
      · have hrest := ih (fun other hother => hpos other (mem_cons_of_mem _ hother)) hnil
          (total_pos (fun other hother => hpos other (mem_cons_of_mem _ hother)) hnil)
          (Real.exp_pos _)
        simp only [map_cons, sum_cons, hrest]
        ring
  unfold exposureWeightedDepth
  simp only [weights_eq hpos, zipWith_map_self, hoffset, sum_map_mul_left]
  change referenceDepth bins + _ / (_ * total (·.exposureSeconds) (·.depthBps) k bins) =
    moment _ _ k bins / _
  rw [mul_div_mul_left _ _ hexp.ne', sub_div, mul_div_cancel_right₀ _ htotal.ne']
  ring

/-- **`_log_exposure_sum`** is the logarithm of the discounted exposure. -/
theorem logExposureSum_eq (hpos : ∀ item ∈ bins, 0 < item.exposureSeconds) (hbins : bins ≠ []) :
    logExposureSum bins k = Real.log (total (·.exposureSeconds) (·.depthBps) k bins) := by
  have htotal : 0 < total (·.exposureSeconds) (·.depthBps) k bins := total_pos hpos hbins
  unfold logExposureSum
  rw [weights_eq hpos, sum_map_mul_left]
  change _ + Real.log (_ * total (·.exposureSeconds) (·.depthBps) k bins) = _
  rw [Real.log_mul (Real.exp_pos _).ne' htotal.ne', Real.log_exp]
  ring

/-- The mean depth of the fills, wherever it is measured from. -/
theorem eventDepthMean_eq (hfills : 0 < totalFills bins) :
    eventDepthMean bins = countMean (·.depthBps) (·.fillCount) bins := by
  have hF : (0 : ℝ) < totalFills bins := Nat.cast_pos.mpr hfills
  have hsum : ∀ (items : List ExposureBin) (F reference : ℝ),
      ((items.filter fun item => decide (item.fillCount ≠ 0)).map fun item =>
        (item.fillCount / F : ℝ) * (item.depthBps - reference)).sum
      = countedDepth (·.depthBps) (·.fillCount) items / F - reference *
        (totalFills items / F) := by
    intro items F reference
    induction items with
    | nil => simp [countedDepth, totalFills]
    | cons item items ih =>
      have hcons : countedDepth (·.depthBps) (·.fillCount) (item :: items)
          = item.fillCount * item.depthBps + countedDepth (·.depthBps) (·.fillCount) items := by
        simp [countedDepth]
      have hcount : (totalFills (item :: items) : ℝ) = item.fillCount + totalFills items := by
        simp [totalFills]
      rw [hcons, hcount]
      by_cases hzero : item.fillCount = 0
      · rw [filter_cons, if_neg (by simpa using hzero), ih, hzero]
        simp
      · rw [filter_cons, if_pos (by simpa using hzero), map_cons, sum_cons, ih]
        ring
  unfold eventDepthMean
  rw [hsum, div_self hF.ne', mul_one]
  unfold countMean
  rw [show count (·.fillCount) bins = totalFills bins from rfl]
  ring

/-- **The profile score falls strictly**, where two depths differ. -/
theorem strictAnti_profileScore (hpos : ∀ item ∈ bins, 0 < item.exposureSeconds)
    {first last : ExposureBin}
    (hfirst : first ∈ bins) (hlast : last ∈ bins) (hdepths : first.depthBps ≠ last.depthBps) :
    StrictAnti (profileScore bins) := by
  intro a b hab
  have hbins : bins ≠ [] := ne_nil_of_mem hfirst
  unfold profileScore
  rw [exposureWeightedDepth_eq hpos hbins, exposureWeightedDepth_eq hpos hbins]
  exact sub_lt_sub_right (strictAnti_mean hpos hfirst hlast hdepths hab) _

theorem continuous_profileScore (hpos : ∀ item ∈ bins, 0 < item.exposureSeconds)
    (hbins : bins ≠ []) :
    Continuous (profileScore bins) := by
  have heq : profileScore bins = fun k =>
      mean (·.exposureSeconds) (·.depthBps) k bins - eventDepthMean bins := by
    funext k
    rw [profileScore, exposureWeightedDepth_eq hpos hbins]
  rw [heq]
  exact (continuous_mean hpos hbins).sub continuous_const

end Fit

/-! ## The bisection -/

section Bisection

variable (weightedDepth : ℝ → ℝ) (target : ℝ) {root : ℝ} {b : Bracket}

/-- The root lies in the bracket. -/
def Brackets (root : ℝ) (b : Bracket) : Prop := b.lower ≤ root ∧ root ≤ b.upper

variable {weightedDepth target} in
/-- **Halving keeps the root bracketed**, and halves the bracket. -/
theorem brackets_halve (hanti : StrictAnti weightedDepth) (hroot : weightedDepth root = target)
    (hb : Brackets root b) : Brackets root (halve weightedDepth target b) := by
  unfold halve
  simp only
  split
  · rename_i habove
    rw [← hroot] at habove
    exact ⟨(hanti.lt_iff_gt.mp habove).le, hb.2⟩
  · rename_i hbelow
    rw [← hroot, not_lt] at hbelow
    exact ⟨hb.1, hanti.le_iff_ge.mp hbelow⟩

theorem halve_width :
    (halve weightedDepth target b).upper - (halve weightedDepth target b).lower =
      (b.upper - b.lower) / 2 := by
  unfold halve
  simp only
  split
  · simp only
    ring
  · simp only
    ring

theorem halve_inside (hb : b.lower ≤ b.upper) :
    b.lower ≤ (halve weightedDepth target b).lower ∧
    (halve weightedDepth target b).upper ≤ b.upper
      ∧ (b.lower + b.upper) / 2 ≤ (halve weightedDepth target b).upper := by
  unfold halve
  simp only
  split
  · refine ⟨?_, le_refl _, ?_⟩ <;> simp only <;> linarith
  · refine ⟨le_refl _, ?_, le_refl _⟩
    simp only
    linarith

variable {weightedDepth target} in
/-- **The bisection keeps the root bracketed**, however often it halves. -/
theorem bisect_brackets (hanti : StrictAnti weightedDepth) (hroot : weightedDepth root = target)
    (n : ℕ)
    (hb : Brackets root b) : Brackets root (bisect weightedDepth target n b) := by
  induction n generalizing b with
  | zero => exact hb
  | succ n ih =>
    unfold bisect
    simp only
    split
    · exact brackets_halve hanti hroot hb
    · exact ih (brackets_halve hanti hroot hb)

/-- Where the bisection stops: in the bracket it began with, narrow enough or halved as often as
it may be. -/
theorem bisect_width (n : ℕ) (hb : b.lower ≤ b.upper) :
    let last := bisect weightedDepth target n b
    b.lower ≤ last.lower ∧ last.upper ≤ b.upper ∧ last.lower ≤ last.upper
      ∧ (last.upper - last.lower ≤ 1 / 10 ^ 13 * max 1 last.upper
        ∨ last.upper - last.lower = (b.upper - b.lower) / 2 ^ n) := by
  induction n generalizing b with
  | zero => exact ⟨le_refl _, le_refl _, hb, Or.inr (by simp [bisect])⟩
  | succ n ih =>
    have hwidth := halve_width weightedDepth target (b := b)
    obtain ⟨hlower, hupper, hmid⟩ := halve_inside weightedDepth target hb
    have hnext : (halve weightedDepth target b).lower ≤
        (halve weightedDepth target b).upper := by linarith
    unfold bisect
    simp only
    split
    · rename_i hnarrow
      refine ⟨hlower, hupper, hnext, Or.inl (hnarrow.trans ?_)⟩
      exact mul_le_mul_of_nonneg_left (max_le_max (le_refl _) hmid) (by norm_num)
    · obtain ⟨hlow, hhigh, hle, hlast⟩ := ih hnext
      refine ⟨hlower.trans hlow, hhigh.trans hupper, hle, hlast.imp_right fun heq => ?_⟩
      rw [heq, hwidth, pow_succ']
      ring

variable {weightedDepth target} in
/-- **The rate is within the tolerance of the root.** -/
theorem bisect_tolerance {limit : ℝ} (hanti : StrictAnti weightedDepth)
    (hroot : weightedDepth root = target)
    (hlimit : 0 ≤ root ∧ root ≤ limit) :
    let last := bisect weightedDepth target 160 { lower := 0, upper := limit }
    0 ≤ (last.lower + last.upper) / 2 ∧ (last.lower + last.upper) / 2 ≤ limit
      ∧ |(last.lower + last.upper) / 2 - root| ≤
        bisectionTolerance limit ((last.lower + last.upper) / 2) := by
  have hrange : (0 : ℝ) ≤ limit := hlimit.1.trans hlimit.2
  have hin := bisect_brackets (b := { lower := 0, upper := limit }) hanti hroot 160 hlimit
  obtain ⟨hlow, hhigh, hle, hwidth⟩ :=
    bisect_width weightedDepth target (b := { lower := 0, upper := limit }) 160
    hrange
  simp only at hlow hhigh hwidth ⊢
  generalize bisect weightedDepth target 160 { lower := 0, upper := limit } = last at *
  obtain ⟨hleft, hright⟩ := hin
  refine ⟨by linarith, by linarith, ?_⟩
  have hdistance : |(last.lower + last.upper) / 2 - root| ≤ (last.upper - last.lower) / 2 := by
    rw [abs_le]
    constructor <;> linarith
  refine hdistance.trans ?_
  unfold bisectionTolerance
  rcases hwidth with hnarrow | hhalved
  · refine le_max_of_le_left ?_
    rcases le_total last.upper 1 with hsmall | hlarge
    · rw [max_eq_left hsmall] at hnarrow
      have hone := le_max_left 1 ((last.lower + last.upper) / 2)
      linarith
    · rw [max_eq_right hlarge] at hnarrow
      have hmid := le_max_right 1 ((last.lower + last.upper) / 2)
      linarith
  · refine le_max_of_le_right ?_
    rw [hhalved, sub_zero]
    have hpart : 0 ≤ limit / 2 ^ 160 := by positivity
    linarith

end Bisection

/-! ## What an estimate reads of its bins -/

section Samples

variable {source other : List RawBin} {valid valid' : List ExposureBin}

/-- **The same samples**, however they were split into bins and in whatever order: every depth
adds up to the same, and what was rejected is the same. -/
structure SameSamples (source other : List RawBin) : Prop where
  totals : ∀ depth, depthTotal (validBins source) depth = depthTotal (validBins other) depth
  rejected : ((rejections source).map Prod.fst).sum = ((rejections other).map Prod.fst).sum
  labels : ∀ label, label ∈ (rejections source).map Prod.snd ↔
    label ∈ (rejections other).map Prod.snd

/-- Another order of the bins. -/
theorem SameSamples.of_perm (hperm : source.Perm other) : SameSamples source other := by
  have hvalid : (validBins source).Perm (validBins other) := hperm.filterMap _
  have hrejected : (rejections source).Perm (rejections other) := hperm.filterMap _
  refine ⟨fun depth => ?_, (hrejected.map _).sum_eq, fun label => (hrejected.map _).mem_iff⟩
  have hpart : (depthBins (validBins source) depth).Perm (depthBins (validBins other) depth) :=
    hvalid.filter _
  unfold depthTotal
  rw [(hpart.map _).sum_eq, (hpart.map fun item : ExposureBin => item.fillCount).sum_eq,
    (hpart.map fun item : ExposureBin => item.sampleCount).sum_eq]

theorem aggregateBins_congr (hpos : ∀ item ∈ valid, 0 < item.exposureSeconds)
    (hpos' : ∀ item ∈ valid', 0 < item.exposureSeconds)
    (htotals : ∀ depth, depthTotal valid depth = depthTotal valid' depth) :
    aggregateBins valid = aggregateBins valid' := by
  have hdepths : depths valid = depths valid' := by
    unfold depths
    congr 1
    ext depth
    have hiff : depth ∈ depths valid ↔ depth ∈ depths valid' := by
      rw [mem_depths_iff hpos, mem_depths_iff hpos', htotals]
    simpa only [depths, Finset.mem_sort] using hiff
  rw [aggregateBins_eq hpos, aggregateBins_eq hpos', hdepths]
  exact map_congr_left fun depth _ => htotals depth

theorem invalidSamplesReason_congr {labels labels' : List String} (rejected : ℕ)
    (hlabels : ∀ label, label ∈ labels ↔ label ∈ labels') :
    invalidSamplesReason rejected labels = invalidSamplesReason rejected labels' := by
  have hempty : labels = [] ↔ labels' = [] := by
    rw [eq_nil_iff_forall_not_mem, eq_nil_iff_forall_not_mem]
    exact forall_congr' fun label => not_congr (hlabels label)
  have hsorted : sortedLabels labels = sortedLabels labels' := by
    unfold sortedLabels
    congr 1
    ext label
    rw [mem_toFinset, mem_toFinset, hlabels]
  unfold invalidSamplesReason
  rw [hsorted]
  exact if_congr hempty rfl rfl

theorem estimateRpiIntensity_some (format : ℝ → String) (source : List RawBin)
    (requirements : IntensityRequirements) (invalidSampleCount : Option ℤ)
    (invalidReasons : List String) :
    estimateRpiIntensity format (some source) requirements invalidSampleCount invalidReasons
      = estimateAggregated format requirements (aggregateBins (validBins source))
          (nonnegativeIntOrZero invalidSampleCount + ((rejections source).map Prod.fst).sum)
          (invalidReasons ++ (rejections source).map Prod.snd) := by
  unfold estimateRpiIntensity
  simp only [Option.getD_some, Option.isSome_some, if_true, unusableBins_eq exposure_pos,
    map_nil,
    append_nil, nil_append]

/-- **An estimate depends on the samples alone.** -/
theorem estimate_of_sameSamples (format : ℝ → String) (requirements : IntensityRequirements)
    (invalidSampleCount : Option ℤ) (invalidReasons : List String)
    (hsame : SameSamples source other) :
    estimateRpiIntensity format (some source) requirements invalidSampleCount invalidReasons
      = estimateRpiIntensity format (some other) requirements invalidSampleCount
          invalidReasons := by
  rw [estimateRpiIntensity_some, estimateRpiIntensity_some, hsame.rejected,
    aggregateBins_congr exposure_pos exposure_pos hsame.totals]
  have hlabels : ∀ label, label ∈ invalidReasons ++ (rejections source).map Prod.snd
      ↔ label ∈ invalidReasons ++ (rejections other).map Prod.snd := by
    intro label
    rw [mem_append, mem_append, hsame.labels]
  unfold estimateAggregated
  rw [invalidSamplesReason_congr _ hlabels]

/-- Where nothing was rejected, every bin was accepted. -/
theorem all_accepted (hnone : ((rejections source).map Prod.fst).sum = 0) :
    ∀ raw ∈ source, ∃ item, normalizeBin raw = .ok item := by
  intro raw hraw
  cases hnormal : normalizeBin raw with
  | ok item => exact ⟨item, rfl⟩
  | error reason =>
    have hweight : 0 < invalidBinWeight raw := by
      unfold invalidBinWeight
      split
      · split <;> omega
      · exact one_pos
    have hmem : (invalidBinWeight raw, reason) ∈ rejections source :=
      mem_filterMap.mpr ⟨raw, hraw, by rw [hnormal]⟩
    have hle := single_le_sum (fun _ _ => Nat.zero_le _) _ (mem_map_of_mem (f := Prod.fst) hmem)
    omega

end Samples

/-! ## An estimate that is ready -/

section Ready

variable {bins : List ExposureBin} {format : ℝ → String} {requirements : IntensityRequirements}

/-- **Evidence enough**: what an estimate was checked for before the fit. -/
theorem of_shortfalls_eq_nil (hnone : shortfalls format requirements bins = []) :
    requirements.minDepthLevelCount ≤ bins.length ∧ requirements.minFillCount ≤ totalFills bins
      ∧ requirements.minDepthSpanBps ≤ depthSpan bins := by
  unfold shortfalls at hnone
  simp only [append_eq_nil_iff, ite_eq_right_iff, cons_ne_nil, imp_false, not_lt] at hnone
  exact ⟨hnone.1.1.1.2, hnone.1.2, hnone.2⟩

/-- **What a fit that went through says**: the score changes its sign on the range, the rate is
the middle of the last bracket, and the scale belongs to it. -/
theorem fitProfilePoisson_ok {limit : ℝ} {fitted : Fit}
    (hok : fitProfilePoisson format bins limit = .ok fitted) :
    0 < profileScore bins 0 ∧ profileScore bins limit < 0
      ∧ (let last := bisect (exposureWeightedDepth bins) (eventDepthMean bins) 160
          { lower := 0, upper := limit }
        fitted.kPerBps = (last.lower + last.upper) / 2)
      ∧ fitted.APerS = Real.exp (Real.log (totalFills bins) -
          logExposureSum bins fitted.kPerBps) := by
  have htolerance : 0 < 1 / 10 ^ 12 * max 1 (deepestDepth bins - referenceDepth bins) := by
    have := le_max_left 1 (deepestDepth bins - referenceDepth bins)
    linarith
  unfold fitProfilePoisson at hok
  simp only at hok
  split at hok
  · cases hok
  rename_i hzero
  split at hok
  · cases hok
  rename_i hlimit
  split at hok
  · cases hok
  split at hok
  · cases hok
  cases hok
  refine ⟨?_, ?_, rfl, rfl⟩
  · unfold profileScore
    linarith [not_le.mp hzero]
  · unfold profileScore
    linarith [not_le.mp hlimit]

/-- The depths of a list in ascending order lie between its first and its last. -/
theorem depth_mem_Icc (hsorted : (bins.map (·.depthBps)).Pairwise (· ≤ ·)) :
    ∀ item ∈ bins, item.depthBps ∈ Set.Icc (referenceDepth bins) (deepestDepth bins) := by
  intro item hitem
  have hmem : item.depthBps ∈ bins.map (·.depthBps) := mem_map_of_mem hitem
  unfold referenceDepth deepestDepth
  generalize bins.map (·.depthBps) = levels at hsorted hmem
  constructor
  · cases levels with
    | nil => exact absurd hmem not_mem_nil
    | cons first rest =>
      rw [List.head?_cons, Option.getD_some]
      rcases mem_cons.mp hmem with heq | hrest
      · exact heq.ge
      · exact (pairwise_cons.mp hsorted).1 _ hrest
  · induction levels using List.reverseRecOn with
    | nil => exact absurd hmem not_mem_nil
    | append_singleton rest last _ =>
      rw [List.getLast?_concat, Option.getD_some]
      rcases mem_append.mp hmem with hrest | hlast
      · exact (pairwise_append.mp hsorted).2.2 _ hrest _ mem_cons_self
      · exact (mem_singleton.mp hlast).le

/-- Two depths differ where the depths have a span. -/
theorem exists_depths_ne (hspan : 0 < depthSpan bins) :
    ∃ first ∈ bins, ∃ last ∈ bins, first.depthBps ≠ last.depthBps := by
  unfold depthSpan at hspan
  split at hspan
  · rename_i hlength
    have hbins : bins.map (·.depthBps) ≠ [] := by
      intro hnil
      rw [map_eq_nil_iff] at hnil
      rw [hnil] at hlength
      exact absurd hlength (by decide)
    obtain ⟨first, hfirst, hfirstEq⟩ := mem_map.mp (head_mem hbins)
    obtain ⟨last, hlast, hlastEq⟩ := mem_map.mp (getLast_mem hbins)
    refine ⟨first, hfirst, last, hlast, fun heq => ?_⟩
    have hends : referenceDepth bins = deepestDepth bins := by
      unfold referenceDepth deepestDepth
      rw [List.head?_eq_some_head hbins, List.getLast?_eq_some_getLast hbins, Option.getD_some,
        Option.getD_some,
        ← hfirstEq, ← hlastEq, heq]
    linarith
  · exact absurd hspan (lt_irrefl _)

/-- **What an estimate that is ready has passed.** -/
theorem estimateAggregated_ready {rejected : ℕ} {labels : List String}
    (hready : (estimateAggregated format requirements bins rejected labels).ready = true) :
    rejected = 0 ∧ shortfalls format requirements bins = []
      ∧ ∃ fitted, fitProfilePoisson format bins requirements.maxKPerBps = .ok fitted
        ∧ requirements.minKPerBps ≤ fitted.kPerBps
        ∧ (estimateAggregated format requirements bins rejected labels).APerS = some fitted.APerS
        ∧ (estimateAggregated format requirements bins rejected labels).kPerBps =
          some fitted.kPerBps
        ∧ (estimateAggregated format requirements bins rejected labels).bins = bins := by
  unfold estimateAggregated at hready ⊢
  by_cases hreasons : (if rejected = 0 then [] else [invalidSamplesReason rejected labels])
      ++ shortfalls format requirements bins = []
  · obtain ⟨hrejected, hshort⟩ := append_eq_nil_iff.mp hreasons
    simp only [hreasons, ne_eq, not_true, if_false] at hready ⊢
    cases hfit : fitProfilePoisson format bins requirements.maxKPerBps with
    | error reason =>
      rw [hfit] at hready
      cases hready
    | ok fitted =>
      simp only [hfit] at hready ⊢
      by_cases hlow : fitted.kPerBps < requirements.minKPerBps
      · rw [if_pos hlow] at hready
        cases hready
      simp only [if_neg hlow]
      refine ⟨?_, hshort, fitted, rfl, not_lt.mp hlow, rfl, rfl, rfl⟩
      by_contra hne
      rw [if_neg hne] at hrejected
      cases hrejected
  · simp only [ne_eq, hreasons, not_false_eq_true, if_true] at hready
    cases hready

end Ready

/-! ## The estimate is the maximum likelihood estimate -/

section Likelihood

variable {valid : List ExposureBin} {k : ℝ}

/-- **The parameters are the most likely ones for the bins**, up to the width the bisection stops
at.  The score of the aggregated bins is that of the bins themselves; its one root stays
bracketed, and the rate is near it. -/
structure MaximumLikelihood (requirements : IntensityRequirements)
    (items bins : List ExposureBin) (A k : ℝ) :
    Prop where
  range : requirements.minKPerBps ≤ k ∧ k ≤ requirements.maxKPerBps
  score : ∀ rate, profileScore bins rate = mean (·.exposureSeconds) (·.depthBps) rate items
    - countMean (·.depthBps) (·.fillCount) items
  decreasing : StrictAnti (profileScore bins)
  root : ∃ root, profileScore bins root = 0 ∧ (∀ rate, profileScore bins rate = 0 → rate = root)
    ∧ (∀ n, Brackets root (bisect (exposureWeightedDepth bins) (eventDepthMean bins) n
        { lower := 0, upper := requirements.maxKPerBps }))
    ∧ |k - root| ≤ bisectionTolerance requirements.maxKPerBps k
    ∧ ∀ A' k', 0 < A' → likelihood (·.exposureSeconds) (·.depthBps) (·.fillCount) A' k' items
        ≤ likelihood (·.exposureSeconds) (·.depthBps) (·.fillCount)
            (count (·.fillCount) items / total (·.exposureSeconds) (·.depthBps) root items) root
            items
  scale : A = count (·.fillCount) items / total (·.exposureSeconds) (·.depthBps) k items
  bestScale : ∀ A', 0 < A' → likelihood (·.exposureSeconds) (·.depthBps) (·.fillCount) A' k items
    ≤ likelihood (·.exposureSeconds) (·.depthBps) (·.fillCount) A k items
  nearlyBest : ∀ A' k', 0 < A' →
    likelihood (·.exposureSeconds) (·.depthBps) (·.fillCount) A' k' items
    ≤ likelihood (·.exposureSeconds) (·.depthBps) (·.fillCount) A k items
      * Real.exp (count (·.fillCount) items * (bisectionTolerance requirements.maxKPerBps k
          * (deepestDepth bins - referenceDepth bins)))

/-! What the fit reads of the aggregated bins it would read of the bins themselves. -/

theorem total_aggregate (hpos : ∀ item ∈ valid, 0 < item.exposureSeconds) :
    total (·.exposureSeconds) (·.depthBps) k (aggregateBins valid)
      = total (·.exposureSeconds) (·.depthBps) k valid :=
  sum_aggregate (·.exposureSeconds) (fun depth => Real.exp (-k * depth)) (fun _ => rfl) hpos

theorem mean_aggregate (hpos : ∀ item ∈ valid, 0 < item.exposureSeconds) :
    mean (·.exposureSeconds) (·.depthBps) k (aggregateBins valid)
      = mean (·.exposureSeconds) (·.depthBps) k valid := by
  have hmoment := sum_aggregate (·.exposureSeconds) (fun depth => Real.exp (-k * depth) * depth)
    (fun _ => rfl) hpos
  simp only [← mul_assoc] at hmoment
  unfold mean
  rw [total_aggregate hpos]
  exact congrArg (· / _) hmoment

theorem fills_depthTotal (valid : List ExposureBin) (depth : ℝ) :
    ((depthTotal valid depth).fillCount : ℝ) =
      ((depthBins valid depth).map fun item => (item.fillCount : ℝ)).sum := by
  rw [depthTotal, Nat.cast_list_sum, map_map]
  rfl

theorem totalFills_aggregate (hpos : ∀ item ∈ valid, 0 < item.exposureSeconds) :
    totalFills (aggregateBins valid) = count (·.fillCount) valid := by
  have hfills := sum_aggregate (fun item => (item.fillCount : ℝ)) (fun _ => 1)
    (fills_depthTotal valid) hpos
  have hcast : ∀ items : List ExposureBin,
      (items.map fun item => (item.fillCount : ℝ)).sum = totalFills items := by
    intro items
    rw [totalFills, Nat.cast_list_sum, map_map]
    rfl
  simp only [mul_one, hcast] at hfills
  exact Nat.cast_injective hfills

theorem countMean_aggregate (hpos : ∀ item ∈ valid, 0 < item.exposureSeconds) :
    countMean (·.depthBps) (·.fillCount) (aggregateBins valid) =
      countMean (·.depthBps) (·.fillCount) valid := by
  have hdepth := sum_aggregate (fun item => (item.fillCount : ℝ)) (fun depth => depth)
    (fills_depthTotal valid) hpos
  have hcount : count (·.fillCount) (aggregateBins valid) = count (·.fillCount) valid :=
    totalFills_aggregate hpos
  unfold countMean
  rw [hcount]
  exact congrArg (· / _) hdepth

/-- **The root lies in the range**: the score changes its sign there. -/
theorem exists_root {f : ℝ → ℝ} {limit : ℝ} (hcontinuous : Continuous f) (hlimit : 0 ≤ limit)
    (hzero : 0 < f 0)
    (hend : f limit < 0) : ∃ root, (0 ≤ root ∧ root ≤ limit) ∧ f root = 0 := by
  obtain ⟨root, hroot, heq⟩ :=
    intermediate_value_Icc' hlimit hcontinuous.continuousOn ⟨hend.le, hzero.le⟩
  exact ⟨root, hroot, heq⟩

/-- **A fit of accepted bins with evidence enough** is the maximum likelihood estimate. -/
theorem maximumLikelihood_of_fit {format : ℝ → String} {requirements : IntensityRequirements}
    {fitted : Fit}
    (hpos : ∀ item ∈ valid, 0 < item.exposureSeconds)
    (hshort : shortfalls format requirements (aggregateBins valid) = [])
    (hfit : fitProfilePoisson format (aggregateBins valid) requirements.maxKPerBps = .ok fitted)
    (hlow : requirements.minKPerBps ≤ fitted.kPerBps) :
    MaximumLikelihood requirements valid (aggregateBins valid) fitted.APerS fitted.kPerBps := by
  obtain ⟨_, hfills, hspan⟩ := of_shortfalls_eq_nil hshort
  obtain ⟨hzero, hend, hk, hA⟩ := fitProfilePoisson_ok hfit
  have hposAggregate : ∀ item ∈ aggregateBins valid, 0 < item.exposureSeconds :=
    aggregate_exposure_pos
  obtain ⟨first, hfirst, last, hlast, hdepths⟩ :=
    exists_depths_ne (lt_of_lt_of_le requirements.minDepthSpanBps_pos hspan)
  have hbins : aggregateBins valid ≠ [] := ne_nil_of_mem hfirst
  have hfillsPos : 0 < totalFills (aggregateBins valid) :=
    lt_of_lt_of_le requirements.minFillCount_pos hfills
  have hcount : 0 < count (·.fillCount) valid := totalFills_aggregate hpos ▸ hfillsPos
  have hvalid : valid ≠ [] := by
    rintro rfl
    exact absurd hcount (lt_irrefl _)
  have hlimit : 0 ≤ requirements.maxKPerBps :=
    requirements.minKPerBps_nonneg.trans requirements.minKPerBps_lt.le
  have hscore : ∀ rate, profileScore (aggregateBins valid) rate =
      mean (·.exposureSeconds) (·.depthBps) rate valid
      - countMean (·.depthBps) (·.fillCount) valid := by
    intro rate
    rw [profileScore, exposureWeightedDepth_eq hposAggregate hbins, eventDepthMean_eq hfillsPos,
      mean_aggregate hpos, countMean_aggregate hpos]
  have hanti := strictAnti_profileScore hposAggregate hfirst hlast hdepths
  have hantiDepth : StrictAnti (exposureWeightedDepth (aggregateBins valid)) := fun a b hab =>
    sub_lt_sub_iff_right _ |>.mp (hanti hab)
  obtain ⟨root, hrange, hroot⟩ :=
    exists_root (continuous_profileScore hposAggregate hbins) hlimit hzero hend
  have hrootDepth : exposureWeightedDepth (aggregateBins valid) root =
      eventDepthMean (aggregateBins valid) :=
    sub_eq_zero.mp hroot
  have hrootMean : mean (·.exposureSeconds) (·.depthBps) root valid
      = countMean (·.depthBps) (·.fillCount) valid :=
        sub_eq_zero.mp ((hscore root).symm.trans hroot)
  obtain ⟨_, hhigh, htolerance⟩ := bisect_tolerance hantiDepth hrootDepth hrange
  simp only at hk
  rw [← hk] at hhigh htolerance
  have hscale : fitted.APerS
      = count (·.fillCount) valid /
        total (·.exposureSeconds) (·.depthBps) fitted.kPerBps valid := by
    have hF : (0 : ℝ) < count (·.fillCount) valid := Nat.cast_pos.mpr hcount
    have hS : 0 < total (·.exposureSeconds) (·.depthBps) fitted.kPerBps valid :=
      total_pos hpos hvalid
    rw [hA, logExposureSum_eq hposAggregate hbins, total_aggregate hpos,
      totalFills_aggregate hpos,
      Real.exp_sub, Real.exp_log hF, Real.exp_log hS]
  -- the bins lie at the depths of the aggregated ones
  have hsorted : ((aggregateBins valid).map (·.depthBps)).Pairwise (· ≤ ·) := by
    rw [map_depthBps_aggregateBins hpos]
    exact Finset.pairwise_sort _ _
  have hinside : ∀ item ∈ valid, item.depthBps
      ∈ Set.Icc (referenceDepth (aggregateBins valid)) (deepestDepth (aggregateBins valid)) := by
    intro item hitem
    have hmem : item.depthBps ∈ (aggregateBins valid).map (·.depthBps) := by
      rw [map_depthBps_aggregateBins hpos]
      exact mem_depths.mpr ⟨item, hitem, rfl⟩
    obtain ⟨level, hlevel, heq⟩ := mem_map.mp hmem
    exact heq ▸ depth_mem_Icc hsorted level hlevel
  refine ⟨⟨hlow, hhigh⟩, hscore, hanti,
    ⟨root, hroot, fun rate hrate => ?_, fun n => ?_, htolerance, ?_⟩, hscale,
    fun A' hA' => ?_, fun A' k' hA' => ?_⟩
  · exact hanti.injective (hrate.trans hroot.symm)
  · exact bisect_brackets hantiDepth hrootDepth n hrange
  · exact fun A' k' hA' => likelihood_le_of_root hpos hcount hA' hrootMean
  · rw [hscale]
    exact likelihood_le_of_scale hpos hcount hA'
  rw [hscale]
  refine (likelihood_le_near_root (k := fitted.kPerBps) hpos hcount hinside hA' hrootMean).trans
    ?_
  have hspanNonneg : 0 ≤ deepestDepth (aggregateBins valid) -
      referenceDepth (aggregateBins valid) := by
    have := depth_mem_Icc hsorted first hfirst
    linarith [this.1, this.2]
  have hnonneg : 0 ≤ likelihood (·.exposureSeconds) (·.depthBps) (·.fillCount)
      (count (·.fillCount) valid / total (·.exposureSeconds) (·.depthBps) fitted.kPerBps valid)
      fitted.kPerBps valid := by
    rw [likelihood_eq_exp hpos (div_pos (Nat.cast_pos.mpr hcount) (total_pos hpos hvalid))]
    exact (Real.exp_pos _).le
  refine mul_le_mul_of_nonneg_left (Real.exp_le_exp.mpr ?_) hnonneg
  refine mul_le_mul_of_nonneg_left ?_ (Nat.cast_nonneg _)
  rw [abs_sub_comm]
  exact mul_le_mul_of_nonneg_right htolerance hspanNonneg

/-- **The estimate is the maximum likelihood estimate.**  Where it is ready, every bin was
accepted and the parameters are the most likely ones for them; and neither the order of the bins
nor how the samples of a depth were split into bins makes a difference to it. -/
theorem estimate_is_maximum_likelihood (format : ℝ → String)
    (requirements : IntensityRequirements)
    (invalidSampleCount : Option ℤ) (invalidReasons : List String) (source : List RawBin) :
    ((estimateRpiIntensity format (some source) requirements invalidSampleCount
      invalidReasons).ready = true →
        (∀ raw ∈ source, ∃ item, normalizeBin raw = .ok item) ∧ ∃ A k,
          (estimateRpiIntensity format (some source) requirements invalidSampleCount
            invalidReasons).APerS = some A
          ∧ (estimateRpiIntensity format (some source) requirements invalidSampleCount
              invalidReasons).kPerBps
            = some k
          ∧ MaximumLikelihood requirements (validBins source)
            (estimateRpiIntensity format (some source) requirements invalidSampleCount
              invalidReasons).bins A k)
      ∧ (∀ other, source.Perm other →
          estimateRpiIntensity format (some other) requirements invalidSampleCount invalidReasons
            = estimateRpiIntensity format (some source) requirements invalidSampleCount
                invalidReasons)
      ∧ ∀ other, SameSamples source other →
          estimateRpiIntensity format (some other) requirements invalidSampleCount invalidReasons
            = estimateRpiIntensity format (some source) requirements invalidSampleCount
                invalidReasons := by
  refine ⟨fun hready => ?_, fun other hperm => ?_, fun other hsame => ?_⟩
  · rw [estimateRpiIntensity_some] at hready ⊢
    obtain ⟨hrejected, hshort, fitted, hfit, hlow, hA, hk, hbins⟩ :=
      estimateAggregated_ready hready
    refine ⟨all_accepted (Nat.add_eq_zero_iff.mp hrejected).2, fitted.APerS, fitted.kPerBps, hA,
      hk, ?_⟩
    rw [hbins]
    exact maximumLikelihood_of_fit exposure_pos hshort hfit hlow
  · exact (estimate_of_sameSamples format requirements invalidSampleCount invalidReasons
      (SameSamples.of_perm hperm)).symm
  · exact (estimate_of_sameSamples format requirements invalidSampleCount invalidReasons
      hsame).symm

/-! Two depths, quoted for a minute each: at the touch twenty fills, one basis point away ten.
Half as many fills one basis point away is a rate of `log 2`. -/

def twoDepths : List RawBin :=
  [.bin (some 0) (some 60) (some 20) (some 20), .bin (some 1) (some 60) (some 10) (some 20)]

def twoDepthsEnough : IntensityRequirements :=
  { minDepthLevelCount := 2, minDepthSpanBps := 1, minKPerBps := 0 }

theorem validBins_twoDepths : validBins twoDepths = [⟨0, 60, 20, 20⟩, ⟨1, 60, 10, 20⟩] := by
  norm_num [validBins, twoDepths, normalizeBin, Except.toOption, filterMap_cons]
  exact ⟨rfl, rfl, rfl⟩

theorem aggregateBins_twoDepths :
    aggregateBins (validBins twoDepths) = [⟨0, 60, 20, 20⟩, ⟨1, 60, 10, 20⟩] := by
  have hdepths : depths (validBins twoDepths) = [0, 1] := by
    rw [validBins_twoDepths]
    exact (toFinset_sort _ (by norm_num)).mpr (by norm_num)
  rw [aggregateBins_eq exposure_pos, hdepths, validBins_twoDepths]
  norm_num [depthTotal, depthBins]

theorem total_twoDepths (rate : ℝ) :
    total (·.exposureSeconds) (·.depthBps) rate (validBins twoDepths) =
      60 + 60 * Real.exp (-rate) := by
  norm_num [validBins_twoDepths, total, weight]

theorem score_twoDepths (rate : ℝ) :
    mean (·.exposureSeconds) (·.depthBps) rate (validBins twoDepths)
        - countMean (·.depthBps) (·.fillCount) (validBins twoDepths)
      = Real.exp (-rate) / (1 + Real.exp (-rate)) - 1 / 3 := by
  norm_num [validBins_twoDepths, mean, moment, total, weight, countMean, countedDepth,
    ExponentialWeights.count]
  rw [← mul_one_add, mul_div_mul_left _ _ (by norm_num)]

theorem aggregateBins_twoDepths_ne_nil : aggregateBins (validBins twoDepths) ≠ [] := by
  rw [aggregateBins_twoDepths]
  exact cons_ne_nil _ _

theorem totalFills_twoDepths : totalFills (aggregateBins (validBins twoDepths)) = 30 := by
  rw [aggregateBins_twoDepths]
  rfl

theorem profileScore_twoDepths (rate : ℝ) :
    profileScore (aggregateBins (validBins twoDepths)) rate =
      Real.exp (-rate) / (1 + Real.exp (-rate)) - 1 / 3 := by
  rw [profileScore, exposureWeightedDepth_eq aggregate_exposure_pos aggregateBins_twoDepths_ne_nil,
    eventDepthMean_eq (totalFills_twoDepths ▸ by norm_num), mean_aggregate exposure_pos,
    countMean_aggregate exposure_pos, score_twoDepths]

/-- At the end of the range the score is far below zero. -/
theorem profileScore_twoDepths_last :
    profileScore (aggregateBins (validBins twoDepths)) 100 < -(1 / 10 ^ 12) := by
  have hexp : Real.exp (-100) * 101 < 1 := by
    rw [Real.exp_neg, inv_mul_lt_one₀ (Real.exp_pos _)]
    linarith [Real.add_one_lt_exp (x := 100) (by norm_num)]
  rw [profileScore_twoDepths, sub_lt_iff_lt_add, div_lt_iff₀ (by positivity)]
  linarith

/-- The scale is at most a half, whatever the rate. -/
theorem logScale_twoDepths (rate : ℝ) :
    Real.log (totalFills (aggregateBins (validBins twoDepths)))
        - logExposureSum (aggregateBins (validBins twoDepths)) rate
      ≤ Real.log 30 - Real.log 60 := by
  rw [logExposureSum_eq aggregate_exposure_pos aggregateBins_twoDepths_ne_nil,
    total_aggregate exposure_pos, total_twoDepths, totalFills_twoDepths]
  refine sub_le_sub_left (Real.log_le_log (by norm_num) ?_) _
  linarith [Real.exp_pos (-rate)]

theorem fit_twoDepths (format : ℝ → String) :
    ∃ fitted, fitProfilePoisson format (aggregateBins (validBins twoDepths)) 100 = .ok fitted
      ∧ 0 ≤ fitted.kPerBps := by
  have hlarge : (30 : ℝ) ≤ floatMax := by
    calc (30 : ℝ) ≤ (2 - 1 / 2 ^ 52) * 2 ^ 5 := by norm_num
      _ ≤ floatMax := mul_le_mul_of_nonneg_left (pow_le_pow_right₀ (by norm_num) (by norm_num))
        (by norm_num)
  have hstart : profileScore (aggregateBins (validBins twoDepths)) 0 = 1 / 6 := by
    norm_num [profileScore_twoDepths]
  have hend := profileScore_twoDepths_last
  have hscales := logScale_twoDepths
  set bins := aggregateBins (validBins twoDepths) with hbins
  have hspan : deepestDepth bins - referenceDepth bins = 1 := by
    norm_num [hbins, aggregateBins_twoDepths, deepestDepth, referenceDepth]
  obtain ⟨hlow, _, hle, _⟩ := bisect_width (exposureWeightedDepth bins) (eventDepthMean bins) 160
    (b := { lower := 0, upper := 100 }) (by norm_num)
  unfold profileScore at hstart hend
  unfold fitProfilePoisson
  simp only [hspan]
  generalize bisect (exposureWeightedDepth bins) (eventDepthMean bins) 160
    { lower := 0, upper := 100 } = last at *
  have hk : 0 ≤ (last.lower + last.upper) / 2 := by
    simp only at hlow
    linarith
  generalize (last.lower + last.upper) / 2 = k at hk
  have hlog : Real.log 30 ≤ Real.log floatMax := Real.log_le_log (by norm_num) hlarge
  have hsixty : 0 ≤ Real.log 60 := Real.log_nonneg (by norm_num)
  have hscale := hscales k
  generalize Real.log (totalFills bins) - logExposureSum bins k = logA at hscale
  rw [if_neg (by rw [hstart]; norm_num), if_neg (by rw [max_self, mul_one]; linarith),
    if_neg (by linarith), if_neg]
  · exact ⟨_, rfl, hk⟩
  · norm_num [hbins, aggregateBins_twoDepths, logMean]
    constructor <;> linarith

/-- There is evidence enough, the fit goes through, and no rate is too low. -/
theorem ready_twoDepths (format : ℝ → String) :
    (estimateRpiIntensity format (some twoDepths) twoDepthsEnough (some 0) []).ready = true := by
  have hrejected : rejections twoDepths = [] := by
    norm_num [rejections, twoDepths, normalizeBin, filterMap_cons]
  have hshort : shortfalls format twoDepthsEnough (aggregateBins (validBins twoDepths)) =
      [] := by
    norm_num [shortfalls, twoDepthsEnough, aggregateBins_twoDepths, totalSamples, totalExposure,
      totalFills, depthSpan, deepestDepth, referenceDepth]
  obtain ⟨fitted, hfit, hk⟩ := fit_twoDepths format
  rw [estimateRpiIntensity_some, hrejected]
  unfold estimateAggregated
  have hmax : twoDepthsEnough.maxKPerBps = 100 := rfl
  have hmin : twoDepthsEnough.minKPerBps = 0 := rfl
  norm_num [nonnegativeIntOrZero, hshort, hmax, hmin, hfit, not_lt.mpr hk]

/-- **An estimate that is ready**: its rate is `log 2`, up to the width the bisection stops at.
-/
theorem estimate_is_maximum_likelihood_ready :
    ∃ A k, (estimateRpiIntensity (fun _ => "") (some twoDepths) twoDepthsEnough (some 0)
      []).APerS = some A
      ∧ (estimateRpiIntensity (fun _ => "") (some twoDepths) twoDepthsEnough (some 0)
          []).kPerBps = some k
      ∧ |k - Real.log 2| ≤ bisectionTolerance 100 k ∧ A = 30 / (60 + 60 * Real.exp (-k)) := by
  obtain ⟨_, A, k, hA, hk, hbest⟩ :=
    (estimate_is_maximum_likelihood (fun _ => "") twoDepthsEnough (some 0) [] twoDepths).1
      (ready_twoDepths _)
  refine ⟨A, k, hA, hk, ?_, ?_⟩
  · obtain ⟨root, _, hunique, _, htolerance, _⟩ := hbest.root
    have hroot : Real.log 2 = root := by
      refine hunique _ ?_
      rw [hbest.score, score_twoDepths, Real.exp_neg, Real.exp_log two_pos]
      norm_num
    rw [hroot]
    exact htolerance
  · rw [hbest.scale, total_twoDepths]
    norm_num [validBins_twoDepths, ExponentialWeights.count]

end Likelihood

end ChronosHFT.Alpha.Intensity

end
