import ChronosHFT.Lib.ExponentialWeights

/-!
# The intensity of RPI fills

How often a quote is filled is taken to fall off with its depth as `A * exp (-k * depth)`.  The
estimate gathers the exposure bins by depth, refuses to fit on too little evidence, and otherwise
finds `k` by bisection, where the depth averaged with the discounted exposure meets the mean
depth of the fills; `A` follows.

The arithmetic is over the reals, where no intermediate value is infinite or not a number: those
branches of the code are gone, its two guards against an overflow of the result are kept.  What a
bin was before it was checked is a `RawBin`; a field that does not parse as a finite number, or
as an integer, is `none`. -/

noncomputable section

namespace ChronosHFT.Alpha.Intensity

/-- `RPIExposureBin`, after `_normalize_bin` has accepted it. -/
structure ExposureBin where
  depthBps : ℝ
  exposureSeconds : ℝ
  fillCount : ℕ
  sampleCount : ℕ

/-- What is offered as a bin: another object altogether, or the four fields as far as they parse.
-/
inductive RawBin where
  | other
  | bin (depthBps exposureSeconds : Option ℝ) (fillCount sampleCount : Option ℤ)

/-- `RPIIntensityRequirements`, with what `__post_init__` insists on. -/
structure IntensityRequirements where
  minSampleCount : ℕ := 30
  minDepthLevelCount : ℕ := 3
  minTotalExposureSeconds : ℝ := 60
  minFillCount : ℕ := 10
  minDepthSpanBps : ℝ := 1 / 2
  minKPerBps : ℝ := 1 / 10 ^ 6
  maxKPerBps : ℝ := 100
  minSampleCount_pos : 0 < minSampleCount := by norm_num
  minDepthLevelCount_pos : 0 < minDepthLevelCount := by norm_num
  minTotalExposureSeconds_pos : 0 < minTotalExposureSeconds := by norm_num
  minFillCount_pos : 0 < minFillCount := by norm_num
  minDepthSpanBps_pos : 0 < minDepthSpanBps := by norm_num
  minKPerBps_nonneg : 0 ≤ minKPerBps := by norm_num
  minKPerBps_lt : minKPerBps < maxKPerBps := by norm_num

/-- The states of an estimate. -/
inductive EstimateState where
  | ready
  | warmingUp
  | invalidData
  | fitFailed
deriving DecidableEq, Repr

/-- `RPIIntensityEstimate`. -/
structure IntensityEstimate where
  ready : Bool
  state : EstimateState
  APerS : Option ℝ
  kPerBps : Option ℝ
  sampleCount : ℕ
  depthLevelCount : ℕ
  totalExposureSeconds : ℝ
  fillCount : ℕ
  zeroFillDepthLevelCount : ℕ
  zeroFillExposureSeconds : ℝ
  invalidSampleCount : ℕ
  logLikelihood : Option ℝ
  reasons : List String
  bins : List ExposureBin

/-! ## Bins -/

/-- `_normalize_bin`: a bin that is accepted, or why it is not. -/
def normalizeBin : RawBin → Except String ExposureBin
  | .other => .error "invalid_bin_type"
  | .bin depth exposure fills samples =>
    match depth with
    | none => .error "invalid_depth_bps"
    | some depth =>
      if depth < 0 then .error "invalid_depth_bps"
      else
        match exposure with
        | none => .error "invalid_exposure_seconds"
        | some exposure =>
          if exposure ≤ 0 then .error "invalid_exposure_seconds"
          else
            match fills with
            | none => .error "invalid_fill_count"
            | some fills =>
              if fills < 0 then .error "invalid_fill_count"
              else
                match samples with
                | none => .error "invalid_sample_count"
                | some samples =>
                  if samples ≤ 0 then .error "invalid_sample_count"
                  else .ok { depthBps := depth, exposureSeconds := exposure,
                             fillCount := fills.toNat, sampleCount := samples.toNat }

/-- `_invalid_bin_weight`: as many samples as the bin says it has, or one. -/
def invalidBinWeight : RawBin → ℕ
  | .bin _ _ _ (some samples) => if 0 < samples then samples.toNat else 1
  | _ => 1

/-- The bins that were accepted. -/
def validBins (source : List RawBin) : List ExposureBin :=
  source.filterMap fun raw => (normalizeBin raw).toOption

/-- The others, each with the samples that are lost and the reason. -/
def rejections (source : List RawBin) : List (ℕ × String) :=
  source.filterMap fun raw =>
    match normalizeBin raw with
    | .ok _ => none
    | .error reason => some (invalidBinWeight raw, reason)

/-- The depths that occur, in ascending order. -/
def depths (valid : List ExposureBin) : List ℝ := (valid.map (·.depthBps)).toFinset.sort (· ≤ ·)

/-- The bins of one depth. -/
def depthBins (valid : List ExposureBin) (depth : ℝ) : List ExposureBin :=
  valid.filter fun item => decide (item.depthBps = depth)

/-- What the bins of one depth add up to. -/
def depthTotal (valid : List ExposureBin) (depth : ℝ) : ExposureBin :=
  { depthBps := depth
    exposureSeconds := ((depthBins valid depth).map (·.exposureSeconds)).sum
    fillCount := ((depthBins valid depth).map (·.fillCount)).sum
    sampleCount := ((depthBins valid depth).map (·.sampleCount)).sum }

/-- One bin for each depth, by depth; `aggregate_bins`. -/
def aggregateBins (valid : List ExposureBin) : List ExposureBin :=
  ((depths valid).map (depthTotal valid)).filter fun item => decide (0 < item.exposureSeconds)

/-- What cannot be aggregated is lost. -/
def unusableBins (valid : List ExposureBin) : List ExposureBin :=
  ((depths valid).map (depthTotal valid)).filter fun item => decide (item.exposureSeconds ≤ 0)

def totalFills (bins : List ExposureBin) : ℕ := (bins.map (·.fillCount)).sum

def totalSamples (bins : List ExposureBin) : ℕ := (bins.map (·.sampleCount)).sum

def totalExposure (bins : List ExposureBin) : ℝ := (bins.map (·.exposureSeconds)).sum

/-! ## The fit -/

/-- `bins[0].depth_bps`. -/
def referenceDepth (bins : List ExposureBin) : ℝ := ((bins.map (·.depthBps)).head?).getD 0

/-- `bins[-1].depth_bps`. -/
def deepestDepth (bins : List ExposureBin) : ℝ := ((bins.map (·.depthBps)).getLast?).getD 0

/-- The mean depth of the fills, measured from the first depth. -/
def eventDepthMean (bins : List ExposureBin) : ℝ :=
  referenceDepth bins
    + ((bins.filter fun item => decide (item.fillCount ≠ 0)).map fun item =>
        (item.fillCount / totalFills bins : ℝ) * (item.depthBps - referenceDepth bins)).sum

/-- `log_weights`. -/
def logWeights (bins : List ExposureBin) (k : ℝ) : List ℝ :=
  bins.map fun item => Real.log item.exposureSeconds - k * item.depthBps

/-- The greatest logarithm, taken out before anything is exponentiated. -/
def anchor (bins : List ExposureBin) (k : ℝ) : ℝ := ((logWeights bins k).max?).getD 0

/-- `_exposure_weighted_depth`. -/
def exposureWeightedDepth (bins : List ExposureBin) (k : ℝ) : ℝ :=
  let weights := (logWeights bins k).map fun value => Real.exp (value - anchor bins k)
  let denominator := weights.sum
  let offset := (List.zipWith (fun weight item =>
    weight * (item.depthBps - referenceDepth bins)) weights bins).sum
  referenceDepth bins + offset / denominator

/-- `_log_exposure_sum`. -/
def logExposureSum (bins : List ExposureBin) (k : ℝ) : ℝ :=
  anchor bins k + Real.log ((logWeights bins k).map fun value =>
    Real.exp (value - anchor bins k)).sum

/-- **The profile score**, whose root is the rate that is looked for. -/
def profileScore (bins : List ExposureBin) (k : ℝ) : ℝ :=
  exposureWeightedDepth bins k - eventDepthMean bins

/-- Where the rate is known to lie. -/
structure Bracket where
  lower : ℝ
  upper : ℝ

/-- One halving of the bracket. -/
def halve (weightedDepth : ℝ → ℝ) (eventDepthMean : ℝ) (b : Bracket) : Bracket :=
  let midpoint := (b.lower + b.upper) / 2
  if eventDepthMean < weightedDepth midpoint then { b with lower := midpoint }
    else { b with upper := midpoint }

/-- **The bisection**: halve until the bracket is narrow, but not more often than the first
argument says. -/
def bisect (weightedDepth : ℝ → ℝ) (eventDepthMean : ℝ) : ℕ → Bracket → Bracket
  | 0, b => b
  | n + 1, b =>
    let midpoint := (b.lower + b.upper) / 2
    let next := halve weightedDepth eventDepthMean b
    if next.upper - next.lower ≤ 1 / 10 ^ 13 * max 1 midpoint then next
    else bisect weightedDepth eventDepthMean n next

/-- How far the middle of the last bracket can be from the root: what the loop stops at, or what
160 halvings leave of the range. -/
def bisectionTolerance (maxKPerBps k : ℝ) : ℝ :=
  max (1 / 10 ^ 13 * max 1 k) (maxKPerBps / 2 ^ 160)

/-- `sys.float_info.max`. -/
def floatMax : ℝ := (2 - 1 / 2 ^ 52) * 2 ^ 1023

/-- The mean a bin has under the fit, as a logarithm. -/
def logMean (logA k : ℝ) (item : ExposureBin) : ℝ :=
  Real.log item.exposureSeconds + logA - k * item.depthBps

/-- What a bin adds to the log-likelihood; a mean that underflows counts as zero. -/
def likelihoodTerm (logA k : ℝ) (item : ExposureBin) : ℝ :=
  let mean := if logMean logA k item < -745 then 0 else Real.exp (logMean logA k item)
  item.fillCount * logMean logA k item - mean - Real.log (Real.Gamma (item.fillCount + 1))

/-- The parameters of a fit and its log-likelihood. -/
structure Fit where
  APerS : ℝ
  kPerBps : ℝ
  logLikelihood : ℝ

/-- `_fit_profile_poisson`; `format` is Python's `:g`. -/
def fitProfilePoisson (format : ℝ → String) (bins : List ExposureBin) (maxKPerBps : ℝ) :
    Except String Fit :=
  let scoreTolerance := 1 / 10 ^ 12 * max 1 (deepestDepth bins - referenceDepth bins)
  if exposureWeightedDepth bins 0 - eventDepthMean bins ≤ scoreTolerance then
    .error "intensity_slope:not_strictly_decaying"
  else if exposureWeightedDepth bins maxKPerBps - eventDepthMean bins ≥ -scoreTolerance then
    .error ("k_per_bps:unbounded_or_above_" ++ format maxKPerBps)
  else
    let b := bisect (exposureWeightedDepth bins) (eventDepthMean bins) 160
      { lower := 0, upper := maxKPerBps }
    let k := (b.lower + b.upper) / 2
    let logA := Real.log (totalFills bins) - logExposureSum bins k
    if logA > Real.log floatMax then .error "A_per_s:overflow"
    else if bins.any fun item => decide (logMean logA k item > Real.log floatMax) then
      .error "poisson_mean:not_finite"
    else .ok { APerS := Real.exp logA, kPerBps := k,
               logLikelihood := (bins.map (likelihoodTerm logA k)).sum }

/-! ## The estimate -/

/-- `_nonnegative_int_or_zero`, which is one for what is no count. -/
def nonnegativeIntOrZero : Option ℤ → ℕ
  | some value => if value < 0 then 1 else value.toNat
  | none => 1

/-- The labels of a `Counter`, sorted. -/
def sortedLabels (labels : List String) : List String := labels.toFinset.sort (· ≤ ·)

/-- The reason for samples that were rejected. -/
def invalidSamplesReason (rejected : ℕ) (labels : List String) : String :=
  if labels = [] then "invalid_samples:" ++ toString rejected
  else "invalid_samples:" ++ toString rejected ++ "[" ++
    String.intercalate "," (sortedLabels labels) ++ "]"

/-- The span of the depths; a single depth has none. -/
def depthSpan (bins : List ExposureBin) : ℝ :=
  if 2 ≤ bins.length then deepestDepth bins - referenceDepth bins else 0

/-- Why there is too little evidence for a fit. -/
def shortfalls (format : ℝ → String) (requirements : IntensityRequirements)
    (bins : List ExposureBin) :
    List String :=
  (if totalSamples bins < requirements.minSampleCount then
    ["sample_count:" ++ toString (totalSamples bins) ++ "<" ++
      toString requirements.minSampleCount]
      else [])
  ++ (if bins.length < requirements.minDepthLevelCount then
    ["depth_level_count:" ++ toString bins.length ++ "<" ++
      toString requirements.minDepthLevelCount] else [])
  ++ (if totalExposure bins < requirements.minTotalExposureSeconds then
    ["total_exposure_seconds:" ++ format (totalExposure bins) ++ "<"
      ++ format requirements.minTotalExposureSeconds] else [])
  ++ (if totalFills bins < requirements.minFillCount then
    ["fill_count:" ++ toString (totalFills bins) ++ "<" ++ toString requirements.minFillCount]
      else [])
  ++ (if depthSpan bins < requirements.minDepthSpanBps then
    ["depth_span_bps:" ++ format (depthSpan bins) ++ "<" ++ format requirements.minDepthSpanBps]
      else [])

/-- `_result`: an estimate that is not ready. -/
def notReady (state : EstimateState) (bins : List ExposureBin) (rejected : ℕ)
    (reasons : List String) :
    IntensityEstimate :=
  let zeroFillBins := bins.filter fun item => decide (item.fillCount = 0)
  { ready := false, state := state, APerS := none, kPerBps := none,
    sampleCount := totalSamples bins,
    depthLevelCount := bins.length, totalExposureSeconds := totalExposure bins, fillCount :=
    totalFills bins,
    zeroFillDepthLevelCount := zeroFillBins.length, zeroFillExposureSeconds :=
    totalExposure zeroFillBins,
    invalidSampleCount := rejected, logLikelihood := none, reasons := reasons, bins := bins }

/-- The estimate, once the bins are aggregated and the rejected samples counted. -/
def estimateAggregated (format : ℝ → String) (requirements : IntensityRequirements)
    (bins : List ExposureBin)
    (rejected : ℕ) (labels : List String) : IntensityEstimate :=
  let reasons := (if rejected = 0 then [] else [invalidSamplesReason rejected labels])
    ++ shortfalls format requirements bins
  if reasons ≠ [] then notReady (if rejected ≠ 0 then .invalidData
    else .warmingUp) bins rejected reasons
  else
    match fitProfilePoisson format bins requirements.maxKPerBps with
    | .error reason => notReady .fitFailed bins rejected [reason]
    | .ok fitted =>
      if fitted.kPerBps < requirements.minKPerBps then
        notReady .fitFailed bins rejected
          ["k_per_bps:" ++ format fitted.kPerBps ++ "<" ++ format requirements.minKPerBps]
      else
        { notReady .ready bins 0 [] with
          ready := true, APerS := some fitted.APerS, kPerBps := some fitted.kPerBps,
          logLikelihood := some fitted.logLikelihood }

/-- **`estimate_rpi_intensity`**; a source that is no iterable of bins is one rejected sample. -/
def estimateRpiIntensity (format : ℝ → String) (source : Option (List RawBin))
    (requirements : IntensityRequirements) (invalidSampleCount : Option ℤ)
    (invalidReasons : List String) :
    IntensityEstimate :=
  let sourceBins := source.getD []
  let valid := validBins sourceBins
  let rejected := (if source.isSome then [] else [(1, "invalid_bins_iterable")]) ++
    rejections sourceBins
    ++ (unusableBins valid).map fun item => (item.sampleCount, "non_finite_aggregate_exposure")
  estimateAggregated format requirements (aggregateBins valid)
    (nonnegativeIntOrZero invalidSampleCount + (rejected.map Prod.fst).sum) (invalidReasons ++
      rejected.map Prod.snd)

end ChronosHFT.Alpha.Intensity

end
