import ChronosHFT.Lib.Run
import ChronosHFT.Oms.Exposure

/-!
# The observed loss of a calibration

The loss observation of `oms/rpi_calibration_runtime.py`.  The equity of the account and the
money that came in from outside are turned into whole micro-USDT before they are subtracted, each
with a rounding direction of its own:

    start equity    ⌊S⌋ + 1        cash flow at the start   ⌊C₀⌋
    equity now      ⌊E⌋            cash flow now            ⌈C⌉

Every one of the four makes the loss larger, so that the observed loss is never below the exact
one, and each costs at most one micro-USDT (`microLoss_bounds`).

The accounts and the market are read as they are at the observation.  `firstTruth` says, without
regard to the state, what the exact equity and cash flow were when the baseline was taken; the
state agrees with it in every run (`Calibration.Baselined`). -/

namespace ChronosHFT.Oms.CalibrationLoss

/-! ## What is read -/

/-- The account, as far as the observation reads it; `none` is a number that is not finite. -/
structure Account where
  exchangeBalanceSynced : Bool
  cashFlowSnapshotSynced : Bool
  cashFlowSnapshotMonotonic : ℚ
  balance : Option ℚ
  externalCashFlowTotal : Option ℚ
deriving DecidableEq

/-- `data_cache.get_risk_snapshot`. -/
structure RiskSnapshot where
  markPrice : ℚ
  markAgeMs : Option ℚ
  bidPrice : ℚ
  askPrice : ℚ
  bookAgeMs : Option ℚ
deriving DecidableEq

/-- The settings of the runtime. -/
structure Policy where
  externalCashFlowTruthEnabled : Bool
  externalCashFlowMaxAgeSec : ℚ
  maxMarkAgeMs : ℚ
  maxBookAgeMs : ℚ
deriving DecidableEq

/-- Everything one observation reads. -/
structure Observation where
  account : Account
  exposure : Exposure
  market : String → RiskSnapshot
  /-- `time.perf_counter()`. -/
  now : ℚ
  initializeBaseline : Bool

/-- `USDT_MICRO_SCALE`. -/
def usdtMicroScale : ℚ := 1000000

/-- `ROUND_FLOOR` and `ROUND_CEILING`. -/
inductive Rounding where
  | floor
  | ceiling
deriving DecidableEq, Repr

/-- `_signed_usdt_to_microu` of a number. -/
def signedUsdtToMicrou (value : ℚ) : Rounding → ℤ
  | .floor => ⌊value * usdtMicroScale⌋
  | .ceiling => ⌈value * usdtMicroScale⌉

/-- `_finite_decimal`. -/
def finiteDecimal (value : Option ℚ) (context : String) : Except String ℚ :=
  match value with
  | some value => .ok value
  | none => .error ("calibration_loss_truth_invalid:" ++ context ++ " must be finite")

/-- `_positive_decimal`. -/
def positiveDecimal (value : ℚ) (context : String) : Except String ℚ :=
  if value ≤ 0 then
    .error ("calibration_loss_truth_invalid:" ++ context ++ " must be finite and positive")
  else .ok value

/-- The price a position is valued at: a fresh mark, or else the middle of a fresh book. -/
def valuationPrice (policy : Policy) (symbol : String) (market : RiskSnapshot) :
    Except String ℚ :=
  if 0 < market.markPrice ∧ ∃ age ∈ market.markAgeMs, age ≤ policy.maxMarkAgeMs then
    .ok market.markPrice
  else if market.bidPrice ≤ 0 ∨ market.askPrice ≤ market.bidPrice ∨
      ¬∃ age ∈ market.bookAgeMs, age ≤ policy.maxBookAgeMs then
    .error ("market_valuation_truth_unavailable:" ++ symbol)
  else .ok ((market.bidPrice + market.askPrice) / 2)

/-- The loop over the positions. -/
def unrealizedPnl (policy : Policy) (o : Observation) : List (String × ℚ) → Except String ℚ
  | [] => .ok 0
  | (symbol, position) :: rest =>
    if |position| ≤ 1 / 1000000000000 then unrealizedPnl policy o rest
    else do
      let averagePrice ← positiveDecimal (o.exposure.avgPrices.getD symbol 0)
        ("RPI calibration average price " ++ symbol)
      let price ← valuationPrice policy symbol (o.market symbol)
      let others ← unrealizedPnl policy o rest
      return (price - averagePrice) * position + others

/-- Why the truth of an account cannot be used at all. -/
def accountTruthReason (policy : Policy) (account : Account) (now : ℚ) : Option String :=
  if account.exchangeBalanceSynced = false then some "account_equity_not_exchange_synced"
  else if policy.externalCashFlowTruthEnabled = false ∨
    account.cashFlowSnapshotSynced = false then
    some "external_cash_flow_truth_unavailable"
  else if account.cashFlowSnapshotMonotonic ≤ 0 then
    some "external_cash_flow_truth_timestamp_missing"
  else if 0 < policy.externalCashFlowMaxAgeSec ∧
      policy.externalCashFlowMaxAgeSec < max 0 (now - account.cashFlowSnapshotMonotonic) then
    some "external_cash_flow_truth_stale"
  else none

/-- The exact equity and the exact cash flow behind `_rpi_calibration_equity_truth_locked`,
before they are turned into micro-USDT. -/
def exactTruth (policy : Policy) (o : Observation) : Except String (ℚ × ℚ) :=
  match accountTruthReason policy o.account o.now with
  | some reason => .error reason
  | none => do
      let balance ← finiteDecimal o.account.balance "RPI calibration account balance"
      let externalCashFlow ←
        finiteDecimal o.account.externalCashFlowTotal "RPI calibration external cash flow"
      let unrealized ← unrealizedPnl policy o o.exposure.netPositions.items
      if balance + unrealized ≤ 0 then .error "account_equity_non_positive"
      else .ok (balance + unrealized, externalCashFlow)

/-- `_rpi_calibration_equity_truth_locked`: equity and cash flow in micro-USDT. -/
def equityTruth (policy : Policy) (o : Observation) : Except String (ℤ × ℤ) := do
  let (equity, externalCashFlow) ← exactTruth policy o
  return (signedUsdtToMicrou equity .floor, signedUsdtToMicrou externalCashFlow .ceiling)

/-! ## The observation -/

/-- The attributes of the runtime that an observation writes. -/
structure Calibration where
  startEquityMicrou : ℤ := 0
  startExternalCashFlowMicrou : ℤ := 0
  peakObservedLossMicrou : ℤ := 0
deriving DecidableEq

namespace Calibration

/-- The baseline an observation takes when there is none. -/
def initialized (c : Calibration) (equityMicrou : ℤ) (externalCashFlowTotal : ℚ) : Calibration :=
  if c.startEquityMicrou ≤ 0 then
    { c with
      startEquityMicrou := equityMicrou + 1
      startExternalCashFlowMicrou := signedUsdtToMicrou externalCashFlowTotal .floor }
  else c

/-- `observed_loss_microu`. -/
def microLoss (c : Calibration) (equityMicrou externalCashFlowMicrou : ℤ) : ℤ :=
  let cashFlowDelta := externalCashFlowMicrou - c.startExternalCashFlowMicrou
  let adjustedEquity := equityMicrou - cashFlowDelta
  max 0 (c.startEquityMicrou - adjustedEquity)

/-- `_observe_rpi_calibration_loss_locked`: the runtime after the observation, and the observed
loss or the reason there is none. -/
def observe (policy : Policy) (c : Calibration) (o : Observation) :
    Calibration × Except String ℤ :=
  match equityTruth policy o with
  | .error reason => (c, .error reason)
  | .ok (equityMicrou, externalCashFlowMicrou) =>
    if c.startEquityMicrou ≤ 0 ∧ o.initializeBaseline = false then
      (c, .error "calibration_loss_baseline_missing")
    else
      let c := c.initialized equityMicrou (o.account.externalCashFlowTotal.getD 0)
      let observedLoss := c.microLoss equityMicrou externalCashFlowMicrou
      ({ c with peakObservedLossMicrou := max c.peakObservedLossMicrou observedLoss },
        .ok observedLoss)

/-- The observations one after the other. -/
def run (policy : Policy) (observations : List Observation) : Calibration :=
  observations.foldl (fun c o => (c.observe policy o).1) {}

end Calibration

/-! ## The exact loss -/

/-- The exact equity and cash flow of the first observation that could take a baseline. -/
def firstTruth (policy : Policy) (observations : List Observation) : Option (ℚ × ℚ) :=
  observations.findSome? fun o =>
    if o.initializeBaseline then (exactTruth policy o).toOption else none

/-- Start equity minus the equity that the cash flow from outside is taken out of, floored at
zero. -/
def exactLoss (start now : ℚ × ℚ) : ℚ := max 0 (start.1 - (now.1 - (now.2 - start.2)))

/-- **The directions add up.**  Whatever the signs, the micro-USDT loss is at least the exact one
and less than four micro-USDT above it. -/
theorem microLoss_bounds (start now : ℚ × ℚ) {c : Calibration}
    (hstart : c.startEquityMicrou = signedUsdtToMicrou start.1 .floor + 1)
    (hcash : c.startExternalCashFlowMicrou = signedUsdtToMicrou start.2 .floor) :
    exactLoss start now * usdtMicroScale ≤
        c.microLoss (signedUsdtToMicrou now.1 .floor) (signedUsdtToMicrou now.2 .ceiling) ∧
      (c.microLoss (signedUsdtToMicrou now.1 .floor) (signedUsdtToMicrou now.2 .ceiling) : ℚ) <
        exactLoss start now * usdtMicroScale + 4 := by
  have hscale : (0 : ℚ) ≤ usdtMicroScale := by norm_num [usdtMicroScale]
  have hS := Int.lt_floor_add_one (start.1 * usdtMicroScale)
  have hS' := Int.floor_le (start.1 * usdtMicroScale)
  have hC₀ := Int.lt_floor_add_one (start.2 * usdtMicroScale)
  have hC₀' := Int.floor_le (start.2 * usdtMicroScale)
  have hE := Int.lt_floor_add_one (now.1 * usdtMicroScale)
  have hE' := Int.floor_le (now.1 * usdtMicroScale)
  have hC := Int.le_ceil (now.2 * usdtMicroScale)
  have hC' := Int.ceil_lt_add_one (now.2 * usdtMicroScale)
  unfold exactLoss Calibration.microLoss
  rw [hstart, hcash]
  unfold signedUsdtToMicrou
  push_cast
  rw [max_mul_of_nonneg _ _ hscale, zero_mul]
  constructor
  · refine max_le_max le_rfl ?_
    linarith
  rw [max_lt_iff]
  constructor
  · linarith [le_max_left (0 : ℚ) ((start.1 - (now.1 - (now.2 - start.2))) * usdtMicroScale)]
  · refine lt_of_lt_of_le ?_ (add_le_add_left (le_max_right _ _) 4)
    linarith

/-- A truth that can be used has a positive equity and the account's own cash flow. -/
theorem exactTruth_spec {policy : Policy} {o : Observation} {now : ℚ × ℚ}
    (h : exactTruth policy o = .ok now) :
    0 < now.1 ∧ o.account.externalCashFlowTotal = some now.2 := by
  unfold exactTruth at h
  cases hreason : accountTruthReason policy o.account o.now with
  | some reason =>
    rw [hreason] at h
    cases h
  | none =>
    rw [hreason] at h
    obtain ⟨balance, -, h⟩ := Run.except_bind_eq_ok.mp h
    obtain ⟨cash, hcash, h⟩ := Run.except_bind_eq_ok.mp h
    obtain ⟨unrealized, -, h⟩ := Run.except_bind_eq_ok.mp h
    by_cases hpos : balance + unrealized ≤ 0
    · rw [if_pos hpos] at h
      cases h
    rw [if_neg hpos] at h
    cases h
    refine ⟨not_le.mp hpos, ?_⟩
    cases hvalue : o.account.externalCashFlowTotal with
    | none =>
      rw [hvalue] at hcash
      cases hcash
    | some value =>
      rw [hvalue] at hcash
      cases hcash
      rfl

/-! ## Runs -/

namespace Calibration

variable {policy : Policy} {c : Calibration} {observations : List Observation}

/-- The state holds the baseline that was taken, if one was. -/
def Baselined (policy : Policy) (observations : List Observation) (c : Calibration) : Prop :=
  match firstTruth policy observations with
  | none => c.startEquityMicrou = 0
  | some start =>
    0 < start.1 ∧ c.startEquityMicrou = signedUsdtToMicrou start.1 .floor + 1 ∧
      c.startExternalCashFlowMicrou = signedUsdtToMicrou start.2 .floor

theorem floor_pos {equity : ℚ} (h : 0 < equity) : 0 < signedUsdtToMicrou equity .floor + 1 := by
  have hfloor : (0 : ℤ) ≤ ⌊equity * usdtMicroScale⌋ :=
    Int.floor_nonneg.mpr (mul_nonneg h.le (by norm_num [usdtMicroScale]))
  exact Int.lt_add_one_of_le hfloor

theorem firstTruth_append (observations : List Observation) (o : Observation) :
    firstTruth policy (observations ++ [o]) =
      (firstTruth policy observations).or
        (if o.initializeBaseline then (exactTruth policy o).toOption else none) := by
  unfold firstTruth
  rw [List.findSome?_append, List.findSome?_singleton]

theorem observe_of_error {o : Observation} {reason : String}
    (h : exactTruth policy o = .error reason) : c.observe policy o = (c, .error reason) := by
  unfold observe equityTruth
  rw [h]
  rfl

/-- The observation, once the baseline it is made against is in place. -/
theorem observe_against {o : Observation} {start now : ℚ × ℚ} {c' : Calibration}
    (hexact : exactTruth policy o = .ok now)
    (hready : ¬(c.startEquityMicrou ≤ 0 ∧ o.initializeBaseline = false))
    (hinit : c.initialized (signedUsdtToMicrou now.1 .floor) now.2 = c')
    (hpeak : c'.peakObservedLossMicrou = c.peakObservedLossMicrou)
    (hstart : c'.startEquityMicrou = signedUsdtToMicrou start.1 .floor + 1)
    (hcash : c'.startExternalCashFlowMicrou = signedUsdtToMicrou start.2 .floor) :
    ∃ loss : ℤ, (c.observe policy o).2 = .ok loss ∧
      exactLoss start now * usdtMicroScale ≤ loss ∧
      (loss : ℚ) < exactLoss start now * usdtMicroScale + 4 ∧
      (c.observe policy o).1 =
        { c' with peakObservedLossMicrou := max c.peakObservedLossMicrou loss } := by
  obtain ⟨hlow, hhigh⟩ := microLoss_bounds start now hstart hcash
  have htruth : equityTruth policy o =
      .ok (signedUsdtToMicrou now.1 .floor, signedUsdtToMicrou now.2 .ceiling) := by
    unfold equityTruth
    rw [hexact]
    rfl
  have hobserve : c.observe policy o =
      ({ c' with
          peakObservedLossMicrou := max c'.peakObservedLossMicrou
            (c'.microLoss (signedUsdtToMicrou now.1 .floor) (signedUsdtToMicrou now.2 .ceiling))
            },
        .ok (c'.microLoss (signedUsdtToMicrou now.1 .floor)
          (signedUsdtToMicrou now.2 .ceiling))) := by
    unfold observe
    rw [htruth]
    dsimp only
    rw [if_neg hready, (exactTruth_spec hexact).2, Option.getD_some, hinit]
  rw [hobserve]
  exact ⟨_, rfl, hlow, hhigh, by rw [hpeak]⟩

/-- **The step.**  When the truth is available and a baseline is in place or taken now, the loss
is observed against that baseline; in every other case the state stays as it is. -/
theorem Baselined.observe (hc : Baselined policy observations c) (o : Observation) :
    Baselined policy (observations ++ [o]) (c.observe policy o).1 ∧
      ((∃ start now loss, firstTruth policy (observations ++ [o]) = some start ∧
          exactTruth policy o = .ok now ∧ (c.observe policy o).2 = .ok loss ∧
          exactLoss start now * usdtMicroScale ≤ loss ∧
          (loss : ℚ) < exactLoss start now * usdtMicroScale + 4 ∧
          (c.observe policy o).1.peakObservedLossMicrou = max c.peakObservedLossMicrou loss) ∨
        ((c.observe policy o).1 = c ∧ (∀ loss, (c.observe policy o).2 ≠ .ok loss) ∧
          ∀ now, exactTruth policy o = .ok now →
            firstTruth policy (observations ++ [o]) = none)) := by
  have hfirst : firstTruth policy (observations ++ [o]) = (firstTruth policy observations).or
      (if o.initializeBaseline then (exactTruth policy o).toOption else none) :=
    firstTruth_append observations o
  unfold Baselined at hc ⊢
  cases hexact : exactTruth policy o with
  | error reason =>
    -- nothing is observed, and nothing can become the baseline
    have hsame : firstTruth policy (observations ++ [o]) = firstTruth policy observations := by
      rw [hfirst, hexact]
      cases firstTruth policy observations <;> cases o.initializeBaseline <;> rfl
    rw [observe_of_error hexact, hsame]
    exact ⟨hc, .inr ⟨rfl, nofun, nofun⟩⟩
  | ok now =>
    cases hbefore : firstTruth policy observations with
    | some start =>
      rw [hbefore] at hc hfirst
      obtain ⟨hpos, hstart, hcash⟩ := hc
      have hin : ¬c.startEquityMicrou ≤ 0 := not_le.mpr (hstart ▸ floor_pos hpos)
      obtain ⟨loss, hloss, hlow, hhigh, hstate⟩ := observe_against hexact
        (fun h => hin h.1) (if_neg hin) rfl hstart hcash
      rw [hfirst, hstate]
      exact ⟨⟨hpos, hstart, hcash⟩, .inl ⟨start, now, loss, rfl, rfl, hloss, hlow, hhigh, rfl⟩⟩
    | none =>
      rw [hbefore] at hc hfirst
      cases hflag : o.initializeBaseline with
      | true =>
        -- the baseline is taken at this observation
        rw [hflag, if_pos rfl, hexact] at hfirst
        obtain ⟨loss, hloss, hlow, hhigh, hstate⟩ := @observe_against policy c o now now _ hexact
          (fun h => absurd (hflag.symm.trans h.2) nofun) (if_pos hc.le) rfl rfl rfl
        rw [hfirst, hstate]
        exact ⟨⟨(exactTruth_spec hexact).1, rfl, rfl⟩,
          .inl ⟨now, now, loss, rfl, rfl, hloss, hlow, hhigh, rfl⟩⟩
      | false =>
        rw [hflag, if_neg nofun] at hfirst
        have hmissing :
            c.observe policy o = (c, .error "calibration_loss_baseline_missing") := by
          unfold Calibration.observe equityTruth
          rw [hexact]
          exact if_pos ⟨hc.le, hflag⟩
        rw [hmissing, hfirst]
        exact ⟨hc, .inr ⟨rfl, nofun, fun _ _ => rfl⟩⟩

theorem run_append_singleton (observations : List Observation) (o : Observation) :
    run policy (observations ++ [o]) = ((run policy observations).observe policy o).1 := by
  unfold run
  rw [List.foldl_append, List.foldl_cons, List.foldl_nil]

theorem Baselined.run (policy : Policy) (observations : List Observation) :
    Baselined policy observations (run policy observations) := by
  induction observations using List.reverseRecOn with
  | nil => exact rfl
  | append_singleton observations o ih =>
    rw [run_append_singleton]
    exact (ih.observe o).1

/-- The peak never goes down. -/
theorem peak_le_observe (policy : Policy) (observations : List Observation) (o : Observation) :
    (Calibration.run policy observations).peakObservedLossMicrou ≤
      ((Calibration.run policy observations).observe policy o).1.peakObservedLossMicrou := by
  obtain ⟨-, ⟨-, -, loss, -, -, -, -, -, hpeak⟩ | ⟨hsame, -⟩⟩ :=
    (Baselined.run policy observations).observe o
  · rw [hpeak]
    exact le_max_left _ _
  · rw [hsame]

theorem peak_le_run (policy : Policy) (earlier later : List Observation) :
    (Calibration.run policy earlier).peakObservedLossMicrou ≤
      (Calibration.run policy (earlier ++ later)).peakObservedLossMicrou := by
  induction later using List.reverseRecOn with
  | nil => rw [List.append_nil]
  | append_singleton later o ih =>
    rw [← List.append_assoc, run_append_singleton]
    exact ih.trans (peak_le_observe policy (earlier ++ later) o)

/-- **The loss is never understated.**  Over any observations of any equities and cash flows: a
loss is observed as soon as the truth is available and there is a baseline, it is then at least
the exact loss since the baseline and less than four micro-USDT above it, and the recorded peak
covers it and never goes down. -/
theorem loss_never_understated (policy : Policy) (observations : List Observation)
    (o : Observation) :
    (∀ loss, ((run policy observations).observe policy o).2 = .ok loss →
      ∃ start now, firstTruth policy (observations ++ [o]) = some start ∧
        exactTruth policy o = .ok now ∧
        exactLoss start now * usdtMicroScale ≤ loss ∧
        (loss : ℚ) < exactLoss start now * usdtMicroScale + 4 ∧
        loss ≤ ((run policy observations).observe policy o).1.peakObservedLossMicrou) ∧
    (∀ start now, firstTruth policy (observations ++ [o]) = some start →
      exactTruth policy o = .ok now →
        ∃ loss, ((run policy observations).observe policy o).2 = .ok loss) ∧
    (run policy observations).peakObservedLossMicrou ≤
      ((run policy observations).observe policy o).1.peakObservedLossMicrou ∧
    ∀ earlier later, observations = earlier ++ later →
      (run policy earlier).peakObservedLossMicrou ≤
        (run policy observations).peakObservedLossMicrou := by
  have hstep := ((Baselined.run policy observations).observe o).2
  refine ⟨?_, ?_, peak_le_observe policy observations o, ?_⟩
  · intro loss hloss
    obtain ⟨start, now, loss', hstart, hnow, hloss', hlow, hhigh, hpeak⟩ | ⟨-, hnone, -⟩ := hstep
    · cases hloss.symm.trans hloss'
      refine ⟨start, now, hstart, hnow, hlow, hhigh, ?_⟩
      rw [hpeak]
      exact le_max_right _ _
    · exact absurd hloss (hnone loss)
  · intro start now hstart hnow
    obtain ⟨-, -, loss, -, -, hloss, -⟩ | ⟨-, -, hmissing⟩ := hstep
    · exact ⟨loss, hloss⟩
    · cases (hmissing now hnow).symm.trans hstart
  · rintro earlier later rfl
    exact peak_le_run policy earlier later

/-- A flat account with the given balance and cash flow. -/
def flatAccount (balance externalCashFlow : ℚ) : Observation where
  account :=
    { exchangeBalanceSynced := true
      cashFlowSnapshotSynced := true
      cashFlowSnapshotMonotonic := 5
      balance := some balance
      externalCashFlowTotal := some externalCashFlow }
  exposure := {}
  market := fun _ => ⟨0, none, 0, 0, none⟩
  now := 6
  initializeBaseline := true

def strictPolicy : Policy := ⟨true, 30, 3000, 1000⟩

/-- A deposit of some hundred hides a loss of ten: what is observed is two micro-USDT more. -/
theorem loss_never_understated_deposit :
    ((run strictPolicy [flatAccount (1000 + 4 / 10000000) (3 / 10000000)]).observe strictPolicy
        (flatAccount 1090 (100 + 1 / 10000000))).2 = .ok 10000002 ∧
      exactLoss (1000 + 4 / 10000000, 3 / 10000000) (1090, 100 + 1 / 10000000) *
        usdtMicroScale ≤ (10000002 : ℤ) := by
  have hloss : ((run strictPolicy [flatAccount (1000 + 4 / 10000000) (3 / 10000000)]).observe
      strictPolicy (flatAccount 1090 (100 + 1 / 10000000))).2 = .ok 10000002 := by
    decide +kernel
  obtain ⟨start, now, hstart, hnow, hlow, -⟩ :=
    (loss_never_understated strictPolicy [flatAccount (1000 + 4 / 10000000) (3 / 10000000)]
      (flatAccount 1090 (100 + 1 / 10000000))).1 10000002 hloss
  have hfirst : firstTruth strictPolicy ([flatAccount (1000 + 4 / 10000000) (3 / 10000000)] ++
      [flatAccount 1090 (100 + 1 / 10000000)]) = some (1000 + 4 / 10000000, 3 / 10000000) := by
    decide +kernel
  have hlast : exactTruth strictPolicy (flatAccount 1090 (100 + 1 / 10000000)) =
      .ok (1090, 100 + 1 / 10000000) := by
    decide +kernel
  cases hfirst.symm.trans hstart
  cases hlast.symm.trans hnow
  exact ⟨hloss, hlow⟩

end Calibration

end ChronosHFT.Oms.CalibrationLoss
