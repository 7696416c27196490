import ChronosHFT.Lib.Text
import Mathlib

/-!
# The funding guard

`evaluate_funding_guard` of `risk/funding_guard.py`: from the policy of one symbol, the newest
funding observation and the state of the last evaluation it computes whether risk may be opened,
and the state that is carried on.

An evaluation has two halves.  `readObservation` takes an observation that is complete, fresh and
within the horizon, and does not look at the state.  The second half compares what was read with
the schedule and with the hold of the state; `evaluate_cases` says what the two can do together.

Numbers are what `_finite_float` makes of them, `none` where it gives none.
-/

namespace ChronosHFT.Funding

/-! ## Data -/

/-- A time of the exchange, positive. -/
abbrev Epoch := {time : ℚ // 0 < time}

/-- A time of the monotonic clock, not negative. -/
abbrev Monotonic := {time : ℚ // 0 ≤ time}

inductive Action
  | allow
  | reduceOnly
  deriving DecidableEq

/-- `FundingGuardPolicy`; its limits are checked when it is built. -/
structure FundingGuardPolicy where
  enabled : Bool := true
  requireSnapshot : Bool := true
  maxSnapshotAgeMs : ℚ := 3000
  preFundingReduceOnlySec : ℚ := 600
  postFundingHoldSec : ℚ := 120
  maxAbsFundingRate : ℚ := 5 / 10000
  maxNextFundingHorizonSec : ℚ := 32400
  recoveryUpdates : ℕ+ := 5
  age_pos : 0 < maxSnapshotAgeMs := by norm_num
  pre_pos : 0 < preFundingReduceOnlySec := by norm_num
  post_pos : 0 < postFundingHoldSec := by norm_num
  rate_pos : 0 < maxAbsFundingRate := by norm_num
  pre_lt_horizon : preFundingReduceOnlySec < maxNextFundingHorizonSec := by norm_num

structure FundingObservation where
  observationId : String
  fundingRate : Option ℚ
  nextFundingEpoch : Option ℚ
  correctedReceivedEpoch : Option ℚ
  receivedMonotonic : Option ℚ
  clockHealthy : Bool := true

/-- The id without blanks around it. -/
def FundingObservation.id (observation : FundingObservation) : String :=
  Text.strip observation.observationId

/-- `FundingGuardState`. -/
structure FundingGuardState where
  blocked : Bool := true
  reason : String := "funding_guard:snapshot_unavailable"
  lastObservationId : String := ""
  lastNextFundingEpoch : Option Epoch := none
  postHoldUntilMonotonic : Monotonic := ⟨0, le_refl 0⟩
  consecutiveHealthyUpdates : ℕ := 0
  deriving DecidableEq

/-- What a decision shows of the observation it was made on. -/
structure Diagnostics where
  snapshotAgeMs : Option ℚ := none
  exchangeNowEpoch : Option ℚ := none
  secondsToFunding : Option ℚ := none
  fundingRate : Option ℚ := none
  nowMonotonic : Option ℚ := none

/-- `FundingGuardDecision`. -/
structure FundingGuardDecision where
  action : Action
  reason : String
  observationValid : Bool
  currentObservationSafe : Bool
  observationAdvanced : Bool
  snapshotAgeMs : Option ℚ
  exchangeNowEpoch : Option ℚ
  secondsToFunding : Option ℚ
  fundingRate : Option ℚ
  postHoldRemainingSec : ℚ
  consecutiveHealthyUpdates : ℕ
  requiredRecoveryUpdates : ℕ

/-- `_SCHEDULE_EPSILON_SEC`. -/
def scheduleEpsilonSec : ℚ := 1 / 1000

/-! ## The observation -/

/-- A positive number. -/
def positive? (value : Option ℚ) : Option Epoch :=
  value.bind fun time => if h : 0 < time then some ⟨time, h⟩ else none

/-- A number that is not negative. -/
def nonnegative? (value : Option ℚ) : Option Monotonic :=
  value.bind fun time => if h : 0 ≤ time then some ⟨time, h⟩ else none

/-- What is read of an observation. -/
structure Reading where
  snapshotAgeMs : ℚ
  exchangeNowEpoch : ℚ
  fundingRate : ℚ
  nextFundingEpoch : Epoch

/-- The time that is left until funding. -/
def Reading.secondsToFunding (reading : Reading) : ℚ :=
  reading.nextFundingEpoch - reading.exchangeNowEpoch

/-- What a decision shows of a reading. -/
def Reading.diagnostics (reading : Reading) (now : Monotonic) : Diagnostics where
  snapshotAgeMs := some reading.snapshotAgeMs
  exchangeNowEpoch := some reading.exchangeNowEpoch
  secondsToFunding := some reading.secondsToFunding
  fundingRate := some reading.fundingRate
  nowMonotonic := some now.1

/-- Why an observation cannot be used, with what was known by then. -/
structure Refusal where
  reason : String
  diagnostics : Diagnostics

/-- A reading within the horizon. -/
def checkHorizon (policy : FundingGuardPolicy) (now : Monotonic) (reading : Reading) :
    Except Refusal Reading :=
  if reading.secondsToFunding < 0 then
    .error ⟨"funding_guard:next_funding_time_elapsed", reading.diagnostics now⟩
  else if policy.maxNextFundingHorizonSec < reading.secondsToFunding then
    .error ⟨"funding_guard:next_funding_horizon_exceeded", reading.diagnostics now⟩
  else .ok reading

/-- The rate and the next funding time, at a known exchange time. -/
def readFunding (policy : FundingGuardPolicy) (now : Monotonic)
    (observation : FundingObservation)
    (snapshotAgeMs exchangeNow : ℚ) : Except Refusal Reading :=
  match observation.fundingRate with
  | none =>
    .error ⟨"funding_guard:funding_rate_invalid", {
      snapshotAgeMs := some snapshotAgeMs
      exchangeNowEpoch := some exchangeNow
      nowMonotonic := some now.1 }⟩
  | some rate =>
    match positive? observation.nextFundingEpoch with
    | none =>
      .error ⟨"funding_guard:next_funding_time_invalid", {
        snapshotAgeMs := some snapshotAgeMs
        exchangeNowEpoch := some exchangeNow
        fundingRate := some rate
        nowMonotonic := some now.1 }⟩
    | some next => checkHorizon policy now ⟨snapshotAgeMs, exchangeNow, rate, next⟩

/-- The exchange time, from the anchor of the observation and its age in seconds. -/
def readAnchor (policy : FundingGuardPolicy) (now : Monotonic) (observation : FundingObservation)
    (ageSec : ℚ) : Except Refusal Reading :=
  if policy.maxSnapshotAgeMs < ageSec * 1000 then
    .error ⟨"funding_guard:snapshot_stale", {
      snapshotAgeMs := some (ageSec * 1000)
      nowMonotonic := some now.1 }⟩
  else
    match positive? observation.correctedReceivedEpoch with
    | none =>
      .error ⟨"funding_guard:exchange_time_anchor_invalid", {
        snapshotAgeMs := some (ageSec * 1000)
        nowMonotonic := some now.1 }⟩
    | some anchor => readFunding policy now observation (ageSec * 1000) (anchor + ageSec)

/-- The checks of an observation that do not depend on the state. -/
def readObservation (policy : FundingGuardPolicy) (now : Monotonic)
    (observation : FundingObservation) : Except Refusal Reading :=
  if observation.id = "" then
    .error ⟨"funding_guard:observation_id_missing", { nowMonotonic := some now.1 }⟩
  else if observation.clockHealthy = false then
    .error ⟨"funding_guard:exchange_clock_unhealthy", { nowMonotonic := some now.1 }⟩
  else
    match nonnegative? observation.receivedMonotonic with
    | none => .error ⟨"funding_guard:received_monotonic_invalid", { nowMonotonic := some now.1 }⟩
    | some received =>
      if (now : ℚ) - received < 0 then
        .error ⟨"funding_guard:observation_from_future", { nowMonotonic := some now.1 }⟩
      else readAnchor policy now observation (now - received)

/-! ## Decisions -/

/-- `_decision`. -/
def decision (state : FundingGuardState) (policy : FundingGuardPolicy)
    (observationValid currentObservationSafe observationAdvanced : Bool) (shown : Diagnostics) :
    FundingGuardDecision where
  action := if state.blocked then .reduceOnly else .allow
  reason := state.reason
  observationValid := observationValid
  currentObservationSafe := currentObservationSafe
  observationAdvanced := observationAdvanced
  snapshotAgeMs := shown.snapshotAgeMs
  exchangeNowEpoch := shown.exchangeNowEpoch
  secondsToFunding := shown.secondsToFunding
  fundingRate := shown.fundingRate
  postHoldRemainingSec :=
    (shown.nowMonotonic.map fun now => max 0 ((state.postHoldUntilMonotonic : ℚ) - now)).getD 0
  consecutiveHealthyUpdates := state.consecutiveHealthyUpdates
  requiredRecoveryUpdates := policy.recoveryUpdates

/-- `_blocked_transition`, with the schedule and the hold that the next state has. -/
def blockedTransition (previous : FundingGuardState) (policy : FundingGuardPolicy)
    (reason observationId : String) (observationValid observationAdvanced : Bool)
    (lastNextFundingEpoch : Option Epoch) (postHoldUntilMonotonic : Monotonic)
    (shown : Diagnostics) : FundingGuardDecision × FundingGuardState :=
  let state : FundingGuardState := {
    blocked := true
    reason := reason
    lastObservationId := if observationId = "" then previous.lastObservationId else observationId
    lastNextFundingEpoch := lastNextFundingEpoch
    postHoldUntilMonotonic := postHoldUntilMonotonic
    consecutiveHealthyUpdates := 0 }
  (decision state policy observationValid false observationAdvanced shown, state)

/-- A refused observation: the schedule and the hold stay. -/
def refused (previous : FundingGuardState) (policy : FundingGuardPolicy)
    (observationId : String) (observationAdvanced : Bool) (refusal : Refusal) :
    FundingGuardDecision × FundingGuardState :=
  blockedTransition previous policy refusal.reason observationId false observationAdvanced
    previous.lastNextFundingEpoch previous.postHoldUntilMonotonic refusal.diagnostics

/-- Does the schedule go back? -/
def regressed (previous : FundingGuardState) (next : Epoch) : Bool :=
  previous.lastNextFundingEpoch.any fun last =>
    decide ((next : ℚ) - last < -scheduleEpsilonSec)

/-- The hold after a reading: where the schedule moves on from a funding that was due, it starts
anew. -/
def postHoldUntil (policy : FundingGuardPolicy) (previous : FundingGuardState) (now : Monotonic)
    (reading : Reading) : Monotonic :=
  match previous.lastNextFundingEpoch with
  | none => previous.postHoldUntilMonotonic
  | some last =>
    if scheduleEpsilonSec < (reading.nextFundingEpoch : ℚ) - last ∧
        (last : ℚ) - reading.exchangeNowEpoch ≤ policy.preFundingReduceOnlySec then
      ⟨max previous.postHoldUntilMonotonic (now + policy.postFundingHoldSec),
        le_max_of_le_left previous.postHoldUntilMonotonic.2⟩
    else previous.postHoldUntilMonotonic

/-- Why a valid observation blocks. -/
def unsafeReason? (policy : FundingGuardPolicy) (now hold : Monotonic) (reading : Reading) :
    Option String :=
  if policy.maxAbsFundingRate ≤ |reading.fundingRate|
    then some "funding_guard:funding_rate_limit"
  else if reading.secondsToFunding ≤ policy.preFundingReduceOnlySec then
    some "funding_guard:pre_funding_window"
  else if now < hold then some "funding_guard:post_funding_hold"
  else none

/-- The number of healthy updates with one more observation. -/
def healthyUpdates (previous : FundingGuardState) (observationAdvanced : Bool) : ℕ :=
  if previous.blocked && observationAdvanced then previous.consecutiveHealthyUpdates + 1
  else previous.consecutiveHealthyUpdates

/-- The state after a healthy observation. -/
def recover (policy : FundingGuardPolicy) (previous : FundingGuardState) (observationId : String)
    (observationAdvanced : Bool) (next : Epoch) (hold : Monotonic) : FundingGuardState :=
  let updates := healthyUpdates previous observationAdvanced
  if previous.blocked = false ∨ (policy.recoveryUpdates : ℕ) ≤ updates then {
    blocked := false
    reason := ""
    lastObservationId := observationId
    lastNextFundingEpoch := some next
    postHoldUntilMonotonic := hold
    consecutiveHealthyUpdates := 0 }
  else {
    blocked := true
    reason := "funding_guard:recovery_pending:" ++ toString updates ++ "/" ++
      toString (policy.recoveryUpdates : ℕ)
    lastObservationId := observationId
    lastNextFundingEpoch := some next
    postHoldUntilMonotonic := hold
    consecutiveHealthyUpdates := updates }

/-- The second half: a reading against the state. -/
def judge (policy : FundingGuardPolicy) (previous : FundingGuardState) (now : Monotonic)
    (observationId : String) (observationAdvanced : Bool) (reading : Reading) :
    FundingGuardDecision × FundingGuardState :=
  let next := reading.nextFundingEpoch
  if regressed previous next then
    refused previous policy observationId observationAdvanced
      ⟨"funding_guard:next_funding_time_regressed", reading.diagnostics now⟩
  else
    let hold := postHoldUntil policy previous now reading
    match unsafeReason? policy now hold reading with
    | some reason =>
      blockedTransition previous policy reason observationId true observationAdvanced (some next)
        hold (reading.diagnostics now)
    | none =>
      let state := recover policy previous observationId observationAdvanced next hold
      (decision state policy true true observationAdvanced (reading.diagnostics now), state)

/-- Does the observation have an id that differs from the last one? -/
def observationAdvanced (previous : FundingGuardState) (observation : FundingObservation) :
    Bool :=
  observation.id ≠ "" ∧ observation.id ≠ previous.lastObservationId

/-- `evaluate_funding_guard`. -/
def evaluateFundingGuard (policy : FundingGuardPolicy) (observation : Option FundingObservation)
    (previous : FundingGuardState) (nowMonotonic : Option ℚ) :
    FundingGuardDecision × FundingGuardState :=
  if policy.enabled = false then
    let state : FundingGuardState := {
      blocked := false
      reason := ""
      lastObservationId := previous.lastObservationId
      lastNextFundingEpoch := previous.lastNextFundingEpoch }
    (decision state policy true true false { nowMonotonic := nowMonotonic }, state)
  else
    match nonnegative? nowMonotonic, observation with
    | none, _ => refused previous policy "" false ⟨"funding_guard:monotonic_clock_invalid", {}⟩
    | some now, none =>
      let shown : Diagnostics := { nowMonotonic := some now.1 }
      if policy.requireSnapshot then
        refused previous policy "" false ⟨"funding_guard:snapshot_unavailable", shown⟩
      else
        let state : FundingGuardState := {
          blocked := false
          reason := ""
          lastObservationId := previous.lastObservationId
          lastNextFundingEpoch := previous.lastNextFundingEpoch
          postHoldUntilMonotonic := previous.postHoldUntilMonotonic }
        (decision state policy true true false shown, state)
    | some now, some observation =>
      let advanced := observationAdvanced previous observation
      match readObservation policy now observation with
      | .error refusal => refused previous policy observation.id advanced refusal
      | .ok reading => judge policy previous now observation.id advanced reading

/-! ## What an evaluation does -/

section Spec

variable {policy : FundingGuardPolicy} {now : Monotonic} {observation : FundingObservation}
  {reading : Reading}

theorem positive?_eq_some {value : Option ℚ} {time : Epoch} :
    positive? value = some time ↔ value = some time.1 := by
  cases value with
  | none => exact ⟨(nomatch ·), (nomatch ·)⟩
  | some q =>
    simp only [positive?, Option.bind_some, Option.some.injEq]
    constructor
    · intro h
      split at h
      · cases h
        rfl
      · cases h
    · intro h
      subst h
      exact dif_pos time.2

theorem nonnegative?_eq_some {value : Option ℚ} {time : Monotonic} :
    nonnegative? value = some time ↔ value = some time.1 := by
  cases value with
  | none => exact ⟨(nomatch ·), (nomatch ·)⟩
  | some q =>
    simp only [nonnegative?, Option.bind_some, Option.some.injEq]
    constructor
    · intro h
      split at h
      · cases h
        rfl
      · cases h
    · intro h
      subst h
      exact dif_pos time.2

/-- **What an accepted observation says**, in terms of its fields. -/
structure Reads (policy : FundingGuardPolicy) (now : Monotonic)
    (observation : FundingObservation)
    (reading : Reading) : Prop where
  id_ne : observation.id ≠ ""
  clock : observation.clockHealthy = true
  times : ∃ received anchor : ℚ, observation.receivedMonotonic = some received ∧
    observation.correctedReceivedEpoch = some anchor ∧ received ≤ now ∧
    reading.snapshotAgeMs = (now - received) * 1000 ∧
    reading.exchangeNowEpoch = anchor + (now - received)
  fresh : reading.snapshotAgeMs ≤ policy.maxSnapshotAgeMs
  rate : observation.fundingRate = some reading.fundingRate
  next : observation.nextFundingEpoch = some reading.nextFundingEpoch.1
  due : 0 ≤ reading.secondsToFunding
  horizon : reading.secondsToFunding ≤ policy.maxNextFundingHorizonSec

theorem checkHorizon_eq_ok {given : Reading} (h : checkHorizon policy now given = .ok reading) :
    reading = given ∧ 0 ≤ reading.secondsToFunding ∧
      reading.secondsToFunding ≤ policy.maxNextFundingHorizonSec := by
  unfold checkHorizon at h
  split at h
  · cases h
  rename_i hdue
  split at h
  · cases h
  · rename_i hhorizon
    cases h
    exact ⟨rfl, not_lt.mp hdue, not_lt.mp hhorizon⟩

theorem readFunding_eq_ok {ageMs exchangeNow : ℚ}
    (h : readFunding policy now observation ageMs exchangeNow = .ok reading) :
    ∃ rate next, observation.fundingRate = some rate ∧
      positive? observation.nextFundingEpoch = some next ∧
      checkHorizon policy now ⟨ageMs, exchangeNow, rate, next⟩ = .ok reading := by
  unfold readFunding at h
  cases hrate : observation.fundingRate with
  | none =>
    rw [hrate] at h
    cases h
  | some rate =>
    cases hnext : positive? observation.nextFundingEpoch with
    | none =>
      rw [hrate, hnext] at h
      cases h
    | some next =>
      rw [hrate, hnext] at h
      exact ⟨rate, next, rfl, rfl, h⟩

theorem readAnchor_eq_ok {ageSec : ℚ}
    (h : readAnchor policy now observation ageSec = .ok reading) :
    ageSec * 1000 ≤ policy.maxSnapshotAgeMs ∧
      ∃ anchor, positive? observation.correctedReceivedEpoch = some anchor ∧
        readFunding policy now observation (ageSec * 1000) (anchor + ageSec) = .ok reading := by
  unfold readAnchor at h
  split at h
  · cases h
  rename_i hfresh
  cases hanchor : positive? observation.correctedReceivedEpoch with
  | none =>
    rw [hanchor] at h
    cases h
  | some anchor =>
    rw [hanchor] at h
    exact ⟨not_lt.mp hfresh, anchor, rfl, h⟩

theorem readObservation_reads (h : readObservation policy now observation = .ok reading) :
    Reads policy now observation reading := by
  unfold readObservation at h
  split at h
  · cases h
  rename_i hid
  split at h
  · cases h
  rename_i hclock
  cases hreceived : nonnegative? observation.receivedMonotonic with
  | none =>
    rw [hreceived] at h
    cases h
  | some received =>
    simp only [hreceived] at h
    split at h
    · cases h
    rename_i hage
    obtain ⟨hfresh, anchor, hanchor, hfunding⟩ := readAnchor_eq_ok h
    obtain ⟨rate, next, hrate, hnext, hhorizon⟩ := readFunding_eq_ok hfunding
    obtain ⟨rfl, hdue, hwithin⟩ := checkHorizon_eq_ok hhorizon
    exact {
      id_ne := hid
      clock := (Bool.not_eq_false _).mp hclock
      times := ⟨received, anchor, nonnegative?_eq_some.mp hreceived,
        positive?_eq_some.mp hanchor, sub_nonneg.mp (not_lt.mp hage), rfl, rfl⟩
      fresh := hfresh
      rate := hrate
      next := positive?_eq_some.mp hnext
      due := hdue
      horizon := hwithin }

theorem unsafeReason?_eq_none {hold : Monotonic}
    (h : unsafeReason? policy now hold reading = none) :
    |reading.fundingRate| < policy.maxAbsFundingRate ∧
      policy.preFundingReduceOnlySec < reading.secondsToFunding ∧ hold ≤ now := by
  unfold unsafeReason? at h
  split at h
  · cases h
  rename_i hrate
  split at h
  · cases h
  rename_i hpre
  split at h
  · cases h
  · rename_i hhold
    exact ⟨not_le.mp hrate, not_le.mp hpre, not_lt.mp hhold⟩

/-- The hold never gets shorter. -/
theorem le_postHoldUntil (previous : FundingGuardState) :
    previous.postHoldUntilMonotonic ≤ postHoldUntil policy previous now reading := by
  unfold postHoldUntil
  split
  · exact le_refl _
  · split
    · exact le_max_left (previous.postHoldUntilMonotonic : ℚ) _
    · exact le_refl _

/-- A schedule that moves on from a funding that was due starts a hold. -/
theorem now_add_le_postHoldUntil (now : Monotonic) {previous : FundingGuardState} {last : Epoch}
    (hlast : previous.lastNextFundingEpoch = some last)
    (hmoves : scheduleEpsilonSec < (reading.nextFundingEpoch : ℚ) - last)
    (hdue : (last : ℚ) - reading.exchangeNowEpoch ≤ policy.preFundingReduceOnlySec) :
    (now : ℚ) + policy.postFundingHoldSec ≤ (postHoldUntil policy previous now reading : ℚ) := by
  unfold postHoldUntil
  rw [hlast]
  simp only
  rw [if_pos ⟨hmoves, hdue⟩]
  exact le_max_right _ _

variable {observation? : Option FundingObservation} {previous : FundingGuardState}
  {nowMonotonic : Option ℚ}

/-- **What an evaluation does** where the guard is enabled and needs a snapshot: it refuses, it
blocks on a valid observation, or it takes a healthy one. -/
theorem evaluate_cases (henabled : policy.enabled = true)
    (hrequires : policy.requireSnapshot = true) :
    (∃ id advanced refusal, evaluateFundingGuard policy observation? previous nowMonotonic =
        refused previous policy id advanced refusal) ∨
      ∃ now observation reading, nowMonotonic = some now.1 ∧ observation? = some observation ∧
        Reads policy now observation reading ∧
        ((∃ reason, evaluateFundingGuard policy observation? previous nowMonotonic =
            blockedTransition previous policy reason observation.id true
              (observationAdvanced previous observation) (some reading.nextFundingEpoch)
              (postHoldUntil policy previous now reading) (reading.diagnostics now)) ∨
          (unsafeReason? policy now (postHoldUntil policy previous now reading) reading = none ∧
            evaluateFundingGuard policy observation? previous nowMonotonic =
              (decision (recover policy previous observation.id
                  (observationAdvanced previous observation) reading.nextFundingEpoch
                  (postHoldUntil policy previous now reading)) policy true true
                (observationAdvanced previous observation) (reading.diagnostics now),
              recover policy previous observation.id
                (observationAdvanced previous observation) reading.nextFundingEpoch
                (postHoldUntil policy previous now reading)))) := by
  unfold evaluateFundingGuard
  rw [if_neg (by rw [henabled]; decide)]
  cases hnow : nonnegative? nowMonotonic with
  | none => exact .inl ⟨_, _, _, rfl⟩
  | some now =>
    have hmonotonic : nowMonotonic = some now.1 := nonnegative?_eq_some.mp hnow
    cases observation? with
    | none =>
      simp only [hrequires, if_true]
      exact .inl ⟨_, _, _, rfl⟩
    | some observation =>
      simp only
      cases hread : readObservation policy now observation with
      | error refusal => exact .inl ⟨_, _, _, rfl⟩
      | ok reading =>
        have hreads := readObservation_reads hread
        simp only [judge]
        split
        · exact .inl ⟨_, _, _, rfl⟩
        refine .inr ⟨now, observation, reading, hmonotonic, rfl, hreads, ?_⟩
        cases hunsafe : unsafeReason? policy now
            (postHoldUntil policy previous now reading) reading with
        | some reason => exact .inl ⟨reason, rfl⟩
        | none => exact .inr ⟨rfl, rfl⟩

end Spec

end ChronosHFT.Funding
