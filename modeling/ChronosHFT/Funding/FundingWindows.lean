import ChronosHFT.Funding.FundingGuard
import ChronosHFT.Lib.Run

/-!
# Funding windows are blocked

The evaluations of one guard in their order.  The funding times of the exchange are a set `S`,
the exchange time is the monotonic time plus a constant, and an observation announces the first
funding time after it was received.

**Why a window is closed** (`Covered`).  A funding time that was announced either lies in the
hold, or the schedule the guard remembers has not moved past it: it is then at most the later of
that funding time and of the last evaluation.  An observation received before the funding time
announces nothing later; the first one received after it moves the schedule on, and starts the
hold.

**What a recovery counts** (`allow_guarded`).  The guard counts an observation whose id differs
from the last one.  As long as no id comes back in a recovery these are different observations;
two that alternate are counted again and again (`alternating_observations`).

The schedule is compared up to a millisecond.  Two funding times that are closer are one to it,
which a `pre_funding_reduce_only_sec` of at least a millisecond makes up for. -/

namespace ChronosHFT.Funding

open List

/-! ## Evaluations in their order -/

/-- What one evaluation is given. -/
structure FundingEvaluation where
  observation : Option FundingObservation
  nowMonotonic : Option ℚ

/-- A guard over its evaluations: the time of the last one, the funding times announced by valid
observations, and the ids of the healthy observations since the last unhealthy evaluation. -/
structure FundingWatch where
  state : FundingGuardState := {}
  lastNow : Option ℚ := none
  announced : List ℚ := []
  healthySince : List String := []

namespace FundingWatch

variable (policy : FundingGuardPolicy)

def evaluate (w : FundingWatch) (e : FundingEvaluation) :
    FundingGuardDecision × FundingGuardState :=
  evaluateFundingGuard policy e.observation w.state e.nowMonotonic

/-- The watch after an evaluation. -/
def next (w : FundingWatch) (e : FundingEvaluation) : FundingWatch where
  state := (w.evaluate policy e).2
  lastNow := e.nowMonotonic.orElse fun _ => w.lastNow
  announced :=
    if (w.evaluate policy e).1.observationValid then
      (e.observation.bind FundingObservation.nextFundingEpoch).toList ++ w.announced
    else w.announced
  healthySince :=
    if (w.evaluate policy e).1.currentObservationSafe then
      (e.observation.map FundingObservation.id).toList ++ w.healthySince
    else []

def step (w : FundingWatch) (e : FundingEvaluation) : Option FundingWatch :=
  some (w.next policy e)

/-- The clock does not go back. -/
def Nondecreasing (w : FundingWatch) (e : FundingEvaluation) : Prop :=
  ∀ last ∈ w.lastNow, ∀ now ∈ e.nowMonotonic, last ≤ now

/-- **No id comes back**: an observation that a recovery would count is none of those healthy
since the last unhealthy evaluation. -/
def NewId (w : FundingWatch) (e : FundingEvaluation) : Prop :=
  ∀ observation ∈ e.observation, w.state.blocked = true →
    observation.id ≠ w.state.lastObservationId → observation.id ∉ w.healthySince

/-- The observation is fresh and its rate is below the limit. -/
def FreshBelowLimit (now : ℚ) (observation : FundingObservation) : Prop :=
  (∃ received ∈ observation.receivedMonotonic, received ≤ now ∧
      (now - received) * 1000 ≤ policy.maxSnapshotAgeMs) ∧
    ∃ rate ∈ observation.fundingRate, |rate| < policy.maxAbsFundingRate

/-- **A guarded evaluation**: risk may be opened only outside the windows of the funding times
that were announced, with a fresh observation below the limit, and after enough different healthy
observations.  The exchange is `offset` ahead of the monotonic clock. -/
def Guarded (offset : ℚ) (w : FundingWatch) (e : FundingEvaluation) : Prop :=
  (w.evaluate policy e).1.action = .allow →
    ∃ now ∈ e.nowMonotonic, ∃ observation ∈ e.observation,
      (∀ funding ∈ (w.next policy e).announced,
        ¬(funding - policy.preFundingReduceOnlySec ≤ now + offset ∧
          now + offset < funding + policy.postFundingHoldSec)) ∧
      FreshBelowLimit policy now observation ∧
      ∃ ids : List String, ids.Nodup ∧ (policy.recoveryUpdates : ℕ) ≤ ids.length ∧
        ∀ id ∈ ids, id ∈ (w.next policy e).healthySince

end FundingWatch

/-- A true observation: the exchange is `offset` ahead, and the next funding time is the first
one after the observation. -/
def Truthful (S : Set ℚ) (offset : ℚ) (observation : FundingObservation) : Prop :=
  ∀ received ∈ observation.receivedMonotonic, ∀ anchor ∈ observation.correctedReceivedEpoch,
    ∀ next ∈ observation.nextFundingEpoch,
      anchor = received + offset ∧ IsLeast {funding ∈ S | received + offset < funding} next

/-- All observations given are true. -/
def TruthfulEvaluation (S : Set ℚ) (offset : ℚ) (_w : FundingWatch) (e : FundingEvaluation) :
    Prop :=
  ∀ observation ∈ e.observation, Truthful S offset observation

/-- The funding times are told apart, or the window before funding hides the difference. -/
def ToldApart (policy : FundingGuardPolicy) (S : Set ℚ) : Prop :=
  scheduleEpsilonSec ≤ policy.preFundingReduceOnlySec ∨
    ∀ first ∈ S, ∀ second ∈ S, first < second → scheduleEpsilonSec < second - first

/-- A guard before its first evaluation. -/
structure Starting (state : FundingGuardState) : Prop where
  blocked : state.blocked = true
  updates : state.consecutiveHealthyUpdates = 0

/-! ## The schedule -/

section Windows

variable {policy : FundingGuardPolicy} {S : Set ℚ} {offset : ℚ}

/-- How far the remembered schedule may be past a time. -/
def slack (policy : FundingGuardPolicy) : ℚ :=
  if scheduleEpsilonSec ≤ policy.preFundingReduceOnlySec then scheduleEpsilonSec else 0

theorem slack_nonneg (policy : FundingGuardPolicy) : 0 ≤ slack policy := by
  unfold slack
  split
  · norm_num [scheduleEpsilonSec]
  · exact le_refl 0

theorem slack_le_pre (policy : FundingGuardPolicy) :
    slack policy ≤ policy.preFundingReduceOnlySec := by
  unfold slack
  split
  · assumption
  · exact policy.pre_pos.le

/-- **A funding time is covered** at an exchange time: it lies in the hold, or the remembered
schedule is not past it. -/
def Covered (policy : FundingGuardPolicy) (S : Set ℚ) (offset : ℚ) (state : FundingGuardState)
    (time funding : ℚ) : Prop :=
  funding + policy.postFundingHoldSec ≤ state.postHoldUntilMonotonic + offset ∨
    ∃ last, state.lastNextFundingEpoch = some last ∧ last.1 ∈ S ∧
      last ≤ max funding time + slack policy

variable {previous state : FundingGuardState} {funding time : ℚ} {now : Monotonic}
  {observation : FundingObservation} {reading : Reading}

theorem Covered.later {time' : ℚ} (htime : time ≤ time')
    (h : Covered policy S offset state time funding) :
    Covered policy S offset state time' funding := by
  rcases h with hhold | ⟨last, hlast, hmem, hle⟩
  · exact .inl hhold
  · refine .inr ⟨last, hlast, hmem, hle.trans ?_⟩
    exact add_le_add_left (max_le_max_left funding htime) _

/-- **What the first funding time after an observation tells** about one that was received at or
after an announced funding time: it is within the slack of the exchange time, or the schedule has
moved on from a funding that was due. -/
theorem close_or_moved (hS : ToldApart policy S) {last next received : ℚ}
    (hlast : last ∈ S) (hle : last ≤ max funding time + slack policy)
    (hnext : IsLeast {f ∈ S | received < f} next) (hreceived : received ≤ time)
    (hfunding : funding ≤ received) : next ≤ time + slack policy ∨
      scheduleEpsilonSec < next - last ∧ last - time ≤ policy.preFundingReduceOnlySec := by
  have hdue : last ≤ time + slack policy := by
    rwa [max_eq_right (hfunding.trans hreceived)] at hle
  by_cases hmoves : scheduleEpsilonSec < next - last
  · refine .inr ⟨hmoves, ?_⟩
    linarith [slack_le_pre policy]
  refine .inl ?_
  rcases lt_or_ge received last with hlater | hearlier
  · exact (hnext.2 ⟨hlast, hlater⟩).trans hdue
  -- both are funding times within a millisecond
  have hpair : last < next := hearlier.trans_lt hnext.1.2
  have hslack : slack policy = scheduleEpsilonSec := by
    rcases hS with hpre | hapart
    · exact if_pos hpre
    · exact absurd (hapart last hlast next hnext.1.1 hpair) hmoves
  rw [hslack]
  linarith

/-- What a true reading says about the exchange. -/
theorem reads_truthful
    (hreads : Reads policy now observation reading) (htrue : Truthful S offset observation) :
    ∃ received : ℚ, observation.receivedMonotonic = some received ∧ received ≤ now ∧
      (now - received) * 1000 ≤ policy.maxSnapshotAgeMs ∧
      reading.exchangeNowEpoch = now + offset ∧
      IsLeast {funding ∈ S | received + offset < funding} reading.nextFundingEpoch.1 := by
  obtain ⟨received, anchor, hreceived, hanchor, hle, hage, hexchange⟩ := hreads.times
  obtain ⟨rfl, hleast⟩ := htrue received hreceived anchor hanchor _ hreads.next
  refine ⟨received, hreceived, hle, ?_, ?_, hleast⟩
  · rw [← hage]
    exact hreads.fresh
  · rw [hexchange]
    ring

/-- **A valid observation keeps a funding time covered**: one received before it announces
nothing later, one received after it starts the hold or is not past the present. -/
theorem covered_reading (hS : ToldApart policy S)
    (hreads : Reads policy now observation reading) (htrue : Truthful S offset observation)
    (hnext : state.lastNextFundingEpoch = some reading.nextFundingEpoch)
    (hhold : state.postHoldUntilMonotonic = postHoldUntil policy previous now reading)
    (htime : time ≤ now + offset) (hfunding : funding ∈ S)
    (h : Covered policy S offset previous time funding) :
    Covered policy S offset state (now + offset) funding := by
  obtain ⟨received, -, hreceived, -, hexchange, hleast⟩ := reads_truthful hreads htrue
  rcases h.later htime with hheld | ⟨last, hlast, hmem, hle⟩
  · refine .inl (hheld.trans ?_)
    rw [hhold]
    exact add_le_add_left (Subtype.coe_le_coe.mpr (le_postHoldUntil previous)) offset
  · rcases lt_or_ge (received + offset) funding with hbefore | hafter
    · refine .inr ⟨_, hnext, hleast.1.1, (hleast.2 ⟨hfunding, hbefore⟩).trans ?_⟩
      exact (le_max_left _ _).trans (le_add_of_nonneg_right (slack_nonneg policy))
    have hreceivedNow : received + offset ≤ now + offset := add_le_add_left hreceived offset
    rcases close_or_moved hS hmem hle hleast hreceivedNow hafter with hclose | ⟨hmoves, hdue⟩
    · exact .inr ⟨_, hnext, hleast.1.1, hclose.trans (add_le_add_left (le_max_right _ _) _)⟩
    refine .inl ?_
    rw [← hexchange] at hdue
    have hstarts := now_add_le_postHoldUntil now hlast hmoves hdue
    rw [hhold]
    linarith [hafter.trans hreceivedNow]

/-- **A healthy observation lies in no window** of a covered funding time. -/
theorem outside_window (hS : ToldApart policy S)
    (hreads : Reads policy now observation reading) (htrue : Truthful S offset observation)
    (hsafe : unsafeReason? policy now (postHoldUntil policy previous now reading) reading = none)
    (htime : time ≤ now + offset) (hfunding : funding ∈ S)
    (h : Covered policy S offset previous time funding) :
    ¬(funding - policy.preFundingReduceOnlySec ≤ now + offset ∧
      now + offset < funding + policy.postFundingHoldSec) := by
  rintro ⟨hpre, hpost⟩
  obtain ⟨received, -, hreceived, -, hexchange, hleast⟩ := reads_truthful hreads htrue
  obtain ⟨-, haway, hheld⟩ := unsafeReason?_eq_none hsafe
  have hheldNow : (postHoldUntil policy previous now reading : ℚ) ≤ now := hheld
  have hpost_pos := policy.post_pos
  -- the next funding time is more than the window away
  rw [Reading.secondsToFunding, hexchange] at haway
  rcases h.later htime with hhold | ⟨last, hlast, hmem, hle⟩
  · have hgrows : (previous.postHoldUntilMonotonic : ℚ) ≤
        postHoldUntil policy previous now reading :=
      le_postHoldUntil previous
    linarith
  · rcases lt_or_ge (received + offset) funding with hbefore | hafter
    · have hnext := hleast.2 ⟨hfunding, hbefore⟩
      linarith
    have hreceivedNow : received + offset ≤ now + offset := add_le_add_left hreceived offset
    rcases close_or_moved hS hmem hle hleast hreceivedNow hafter with hclose | ⟨hmoves, hdue⟩
    · linarith [slack_le_pre policy]
    · rw [← hexchange] at hdue
      have hstarts := now_add_le_postHoldUntil now hlast hmoves hdue
      linarith

end Windows

/-! ## The recovery -/

section Recovery

variable {policy : FundingGuardPolicy}

/-- **The progress of a recovery** is made of different healthy observations. -/
structure Counting (policy : FundingGuardPolicy) (state : FundingGuardState)
    (healthySince : List String) : Prop where
  pending : state.blocked = true → ∃ ids : List String, ids.Nodup ∧
    ids.length = state.consecutiveHealthyUpdates ∧ ids ⊆ healthySince
  recovered : state.blocked = false → ∃ ids : List String, ids.Nodup ∧
    (policy.recoveryUpdates : ℕ) ≤ ids.length ∧ ids ⊆ healthySince

variable {healthySince : List String} {previous : FundingGuardState}
  {observation : FundingObservation}

/-- Nothing is counted yet. -/
theorem counting_start {state : FundingGuardState}
    (hblocked : state.blocked = true) (hupdates : state.consecutiveHealthyUpdates = 0) :
    Counting policy state healthySince where
  pending := fun _ => ⟨[], nodup_nil, hupdates.symm, nil_subset _⟩
  recovered := fun h => by
    rw [hblocked] at h
    cases h

/-- The ids that are counted with one more healthy observation. -/
theorem counted_healthyUpdates (hblocked : previous.blocked = true)
    (hnew : observation.id ≠ previous.lastObservationId → observation.id ∉ healthySince)
    (h : Counting policy previous healthySince) : ∃ ids : List String, ids.Nodup ∧
      ids.length = healthyUpdates previous (observationAdvanced previous observation) ∧
      ids ⊆ observation.id :: healthySince := by
  obtain ⟨ids, hnodup, hlength, hsubset⟩ := h.pending hblocked
  unfold healthyUpdates
  rw [hblocked, Bool.true_and]
  by_cases hadvanced : observationAdvanced previous observation = true
  · rw [if_pos hadvanced]
    have hdiffers : observation.id ≠ previous.lastObservationId :=
      (of_decide_eq_true hadvanced).2
    refine ⟨observation.id :: ids, ?_, congrArg (· + 1) hlength, cons_subset_cons _ hsubset⟩
    exact nodup_cons.mpr ⟨fun hmem => hnew hdiffers (hsubset hmem), hnodup⟩
  · rw [if_neg hadvanced]
    exact ⟨ids, hnodup, hlength, subset_cons_of_subset _ hsubset⟩

/-- **A healthy observation keeps the progress honest.** -/
theorem counting_recover {next : Epoch} {hold : Monotonic}
    (hnew : previous.blocked = true → observation.id ≠ previous.lastObservationId →
      observation.id ∉ healthySince) (h : Counting policy previous healthySince) :
    Counting policy (recover policy previous observation.id
      (observationAdvanced previous observation) next hold) (observation.id ::
        healthySince) := by
  simp only [recover]
  cases hblocked : previous.blocked with
  | false =>
    rw [if_pos (.inl rfl)]
    obtain ⟨ids, hnodup, henough, hsubset⟩ := h.recovered hblocked
    exact ⟨(nomatch ·),
      fun _ => ⟨ids, hnodup, henough, subset_cons_of_subset observation.id hsubset⟩⟩
  | true =>
    obtain ⟨ids, hnodup, hlength, hsubset⟩ := counted_healthyUpdates hblocked (hnew hblocked) h
    split
    · rename_i hrecovered
      have henough := hrecovered.resolve_left (by decide)
      exact ⟨(nomatch ·), fun _ => ⟨ids, hnodup, henough.trans hlength.ge, hsubset⟩⟩
    · exact ⟨fun _ => ⟨ids, hnodup, hlength, hsubset⟩, (nomatch ·)⟩

theorem recover_schedule (previous : FundingGuardState) (id : String) (advanced : Bool)
    (next : Epoch) (hold : Monotonic) :
    (recover policy previous id advanced next hold).lastNextFundingEpoch = some next ∧
      (recover policy previous id advanced next hold).postHoldUntilMonotonic = hold := by
  simp only [recover]
  split
  · exact ⟨rfl, rfl⟩
  · exact ⟨rfl, rfl⟩

end Recovery

/-! ## Runs -/

section Runs

variable {policy : FundingGuardPolicy} {S : Set ℚ} {offset : ℚ}

/-- The invariant: announced funding times are covered, and the progress is honest. -/
structure Guarding (policy : FundingGuardPolicy) (S : Set ℚ) (offset : ℚ) (w : FundingWatch) :
    Prop where
  covered : ∀ funding ∈ w.announced, funding ∈ S ∧
    ∃ last ∈ w.lastNow, Covered policy S offset w.state (last + offset) funding
  counting : Counting policy w.state w.healthySince

/-- What an evaluation is given meets the conditions. -/
def Given (S : Set ℚ) (offset : ℚ) (w : FundingWatch) (e : FundingEvaluation) : Prop :=
  (TruthfulEvaluation S offset w e ∧ w.Nondecreasing e) ∧ w.NewId e

variable {w : FundingWatch} {e : FundingEvaluation}

/-- A refused evaluation moves nothing but the time. -/
theorem guarding_refused {id : String} {advanced : Bool}
    {refusal : Refusal} (h : Guarding policy S offset w) (htime : w.Nondecreasing e)
    (heval : evaluateFundingGuard policy e.observation w.state e.nowMonotonic =
      refused w.state policy id advanced refusal) : Guarding policy S offset
        (w.next policy e) := by
  have hnext : (w.next policy e).state = (refused w.state policy id advanced refusal).2 ∧
      (w.next policy e).announced = w.announced := by
    unfold FundingWatch.next FundingWatch.evaluate
    rw [heval]
    exact ⟨rfl, rfl⟩
  constructor
  · rw [hnext.1, hnext.2]
    intro funding hfunding
    obtain ⟨hmem, last, hlast, hcovered⟩ := h.covered funding hfunding
    refine ⟨hmem, ?_⟩
    cases hnow : e.nowMonotonic with
    | none => exact ⟨last, by simpa [FundingWatch.next, hnow] using hlast, hcovered⟩
    | some now =>
      have hle : last ≤ now := htime last hlast now hnow
      refine ⟨now, by simp [FundingWatch.next, hnow], ?_⟩
      exact Covered.later (add_le_add_left hle offset) hcovered
  · rw [hnext.1]
    exact counting_start rfl rfl

section Next

variable {w : FundingWatch} {e : FundingEvaluation} {observation : FundingObservation}
  {made : FundingGuardDecision} {state : FundingGuardState}

/-- A valid observation announces its funding time. -/
theorem announced_next {next : ℚ} (heval : w.evaluate policy e = (made, state))
    (hobservation : e.observation = some observation) (hvalid : made.observationValid = true)
    (hnext : observation.nextFundingEpoch = some next) :
    (w.next policy e).announced = next :: w.announced := by
  unfold FundingWatch.next
  rw [heval]
  simp only [hvalid, if_true, hobservation, Option.bind_some, hnext, Option.toList_some,
    singleton_append]

/-- A healthy one is remembered. -/
theorem healthySince_next (heval : w.evaluate policy e = (made, state))
    (hobservation : e.observation = some observation)
    (hsafe : made.currentObservationSafe = true) :
    (w.next policy e).healthySince = observation.id :: w.healthySince := by
  unfold FundingWatch.next
  rw [heval]
  simp only [hsafe, if_true, hobservation, Option.map_some, Option.toList_some,
    singleton_append]

end Next

/-- **A valid observation keeps all that was announced covered**, and the time it announces. -/
theorem guarding_valid (hS : ToldApart policy S)
    {now : Monotonic} {observation : FundingObservation} {reading : Reading}
    {made : FundingGuardDecision} {state : FundingGuardState} (h : Guarding policy S offset w)
    (hgiven : TruthfulEvaluation S offset w e ∧ w.Nondecreasing e)
    (hnow : e.nowMonotonic = some now.1) (hobservation : e.observation = some observation)
    (hreads : Reads policy now observation reading) (heval : w.evaluate policy e = (made, state))
    (hvalid : made.observationValid = true)
    (hnext : state.lastNextFundingEpoch = some reading.nextFundingEpoch)
    (hhold : state.postHoldUntilMonotonic = postHoldUntil policy w.state now reading)
    (hcounting : Counting policy state (w.next policy e).healthySince) :
    Guarding policy S offset (w.next policy e) := by
  obtain ⟨htrue, htime⟩ := hgiven
  have hstate : (w.next policy e).state = state := congrArg Prod.snd heval
  have hlast : (w.next policy e).lastNow = some now.1 := by
    simp [FundingWatch.next, hnow]
  constructor
  · rw [announced_next heval hobservation hvalid hreads.next, hlast, hstate]
    intro funding hfunding
    rcases mem_cons.mp hfunding with rfl | hold
    · obtain ⟨received, -, -, -, -, hleast⟩ := reads_truthful hreads (htrue _ hobservation)
      refine ⟨hleast.1.1, now.1, rfl, .inr ⟨_, hnext, hleast.1.1, ?_⟩⟩
      exact (le_max_left _ _).trans (le_add_of_nonneg_right (slack_nonneg policy))
    · obtain ⟨hmem, last, hlastNow, hcovered⟩ := h.covered funding hold
      have hle : last + offset ≤ now.1 + offset :=
        add_le_add_left (htime last hlastNow now.1 hnow) offset
      exact ⟨hmem, now.1, rfl,
        covered_reading hS hreads (htrue _ hobservation) hnext hhold hle hmem hcovered⟩
  · rw [hstate]
    exact hcounting

variable (henabled : policy.enabled = true) (hrequires : policy.requireSnapshot = true)
  (hS : ToldApart policy S)

include henabled hrequires hS

/-- An evaluation keeps the invariant. -/
theorem guarding_next (h : Guarding policy S offset w)
    (hgiven : Given S offset w e) : Guarding policy S offset (w.next policy e) := by
  obtain ⟨hgiven, hnew⟩ := hgiven
  rcases @evaluate_cases policy e.observation w.state e.nowMonotonic henabled hrequires with
    ⟨id, advanced, refusal, heval⟩ |
    ⟨now, observation, reading, hnow, hobservation, hreads, hcase⟩
  · exact guarding_refused h hgiven.2 heval
  rcases hcase with ⟨reason, heval⟩ | ⟨-, heval⟩
  · refine guarding_valid hS h hgiven hnow hobservation hreads heval rfl rfl rfl ?_
    exact counting_start rfl rfl
  obtain ⟨hnext, hhold⟩ := @recover_schedule policy w.state observation.id
    (observationAdvanced w.state observation) reading.nextFundingEpoch
    (postHoldUntil policy w.state now reading)
  refine guarding_valid hS h hgiven hnow hobservation hreads heval rfl hnext hhold ?_
  rw [healthySince_next heval hobservation rfl]
  exact counting_recover (hnew observation hobservation) h.counting

/-- An evaluation that allows to open risk is guarded. -/
theorem guarded_of_guarding (h : Guarding policy S offset w) (hgiven : Given S offset w e) :
    w.Guarded policy offset e := by
  intro hallow
  have hafter := guarding_next henabled hrequires hS h hgiven
  obtain ⟨⟨htrue, htime⟩, -⟩ := hgiven
  rcases @evaluate_cases policy e.observation w.state e.nowMonotonic henabled hrequires with
    ⟨id, advanced, refusal, heval⟩ |
    ⟨now, observation, reading, hnow, hobservation, hreads, hcase⟩
  · rw [FundingWatch.evaluate, heval] at hallow
    cases hallow
  rcases hcase with ⟨reason, heval⟩ | ⟨hsafe, heval⟩
  · rw [FundingWatch.evaluate, heval] at hallow
    cases hallow
  obtain ⟨received, hreceived, hle, hfresh, hexchange, hleast⟩ :=
    reads_truthful hreads (htrue _ hobservation)
  obtain ⟨hrate, haway, -⟩ := unsafeReason?_eq_none hsafe
  refine ⟨now.1, hnow, observation, hobservation, ?_, ?_, ?_⟩
  · rw [announced_next heval hobservation rfl hreads.next]
    intro funding hfunding
    rcases mem_cons.mp hfunding with rfl | hold
    · rintro ⟨hpre, -⟩
      rw [Reading.secondsToFunding, hexchange] at haway
      linarith
    · obtain ⟨hmem, last, hlast, hcovered⟩ := h.covered funding hold
      have hlater : last + offset ≤ now.1 + offset :=
        add_le_add_left (htime last hlast now.1 hnow) offset
      exact outside_window hS hreads (htrue _ hobservation) hsafe hlater hmem hcovered
  · exact ⟨⟨received, hreceived, hle, hfresh⟩, _, hreads.rate, hrate⟩
  · have hunblocked : (w.next policy e).state.blocked = false := by
      rw [FundingWatch.evaluate, heval] at hallow
      have hstate : (w.next policy e).state = (w.evaluate policy e).2 := rfl
      rw [hstate, FundingWatch.evaluate, heval]
      revert hallow
      unfold decision
      split
      · exact (nomatch ·)
      · rename_i hblocked
        exact fun _ => (Bool.not_eq_true _).mp hblocked
    exact hafter.counting.recovered hunblocked

/-- **Risk is opened only outside the funding windows, on a fresh observation and after a
recovery**, in every run with a clock that does not go back and true observations of which no id
comes back in a recovery. -/
theorem allow_guarded {start : FundingGuardState} (hstart : Starting start)
    {evaluations : List FundingEvaluation}
    (hgiven : Run.Along (FundingWatch.step policy)
      (fun w e => TruthfulEvaluation S offset w e ∧ w.Nondecreasing e)
      { state := start } evaluations)
    (hnew : Run.Along (FundingWatch.step policy) FundingWatch.NewId { state := start }
      evaluations) :
    Run.Along (FundingWatch.step policy) (FundingWatch.Guarded policy offset) { state := start }
      evaluations := by
  have hguarded : ∀ (w : FundingWatch) (e : FundingEvaluation), Guarding policy S offset w →
      Given S offset w e → w.Guarded policy offset e :=
    fun w e h hgiven => guarded_of_guarding henabled hrequires hS h hgiven
  have hguarding : Guarding policy S offset { state := start } :=
    ⟨fun _ h => absurd h not_mem_nil, counting_start hstart.blocked hstart.updates⟩
  refine Run.along_of_invariant hguarded ?_ hguarding (Run.along_and hgiven hnew)
  rintro w e _ h hgiven ⟨⟩
  exact guarding_next henabled hrequires hS h hgiven

end Runs

/-! ## Two observations that alternate -/

/-- Two fundings, eight hours apart. -/
def fundings : Set ℚ := {28800, 57600}

/-- An observation received at a monotonic time, with the exchange 10000 seconds ahead. -/
def sighting (id : String) (received next : ℚ) : FundingObservation where
  observationId := id
  fundingRate := some (1 / 10000)
  nextFundingEpoch := some next
  correctedReceivedEpoch := some (received + 10000)
  receivedMonotonic := some received

/-- An observation that is evaluated at a time. -/
def sightingAt (now : ℚ) (id : String) (received next : ℚ) : FundingEvaluation where
  observation := some (sighting id received next)
  nowMonotonic := some now

/-- The next funding that an observation may announce. -/
def NextFunding (received next : ℚ) : Prop :=
  next = 28800 ∧ received < 18800 ∨ next = 57600 ∧ 18800 ≤ received ∧ received < 47600

theorem truthful_sighting {id : String} {received next : ℚ} (h : NextFunding received next) :
    Truthful fundings 10000 (sighting id received next) := by
  rintro _ ⟨⟩ _ ⟨⟩ _ ⟨⟩
  refine ⟨rfl, ?_⟩
  rcases h with ⟨rfl, hbefore⟩ | ⟨rfl, hafter, hbefore⟩
  · refine ⟨⟨.inl rfl, by linarith⟩, ?_⟩
    rintro _ ⟨rfl | rfl, -⟩
    · exact le_refl _
    · norm_num
  · refine ⟨⟨.inr rfl, by linarith⟩, ?_⟩
    rintro _ ⟨rfl | rfl, hlater⟩
    · linarith
    · exact le_refl _

instance (w : FundingWatch) (e : FundingEvaluation) : Decidable (w.Nondecreasing e) :=
  inferInstanceAs (Decidable (∀ last ∈ w.lastNow, ∀ now ∈ e.nowMonotonic, last ≤ now))

instance (w : FundingWatch) (e : FundingEvaluation) : Decidable (w.NewId e) :=
  inferInstanceAs (Decidable (∀ observation ∈ e.observation, w.state.blocked = true →
    observation.id ≠ w.state.lastObservationId → observation.id ∉ w.healthySince))

/-- True observations along a run. -/
theorem along_truthful {policy : FundingGuardPolicy} {S : Set ℚ} {offset : ℚ}
    {evaluations : List FundingEvaluation}
    (h : ∀ e ∈ evaluations, ∀ observation ∈ e.observation, Truthful S offset observation)
    (w : FundingWatch) :
    Run.Along (FundingWatch.step policy) (TruthfulEvaluation S offset) w evaluations := by
  induction evaluations generalizing w with
  | nil => trivial
  | cons e rest ih =>
    refine ⟨h e mem_cons_self, fun w' _ => ih ?_ w'⟩
    exact fun e' he' => h e' (mem_cons_of_mem e he')

/-- A guard that recovers after two observations. -/
def twoUpdates : FundingGuardPolicy where
  recoveryUpdates := 2

/-- Two healthy observations before a funding, one in its window, one at its end, and two after
the hold. -/
def aroundFunding : List FundingEvaluation :=
  [sightingAt 10 "A" 10 28800, sightingAt 11 "B" 11 28800, sightingAt 18790 "C" 18790 28800,
    sightingAt 18801 "D" 18801 57600, sightingAt 18950 "E" 18950 57600,
    sightingAt 18951 "F" 18951 57600]

/-- The actions of a run, one after the other. -/
def actions (policy : FundingGuardPolicy) : FundingWatch → List FundingEvaluation → List Action
  | _, [] => []
  | w, e :: rest => (w.evaluate policy e).1.action :: actions policy (w.next policy e) rest

theorem allow_guarded_aroundFunding :
    Run.Along (FundingWatch.step twoUpdates) (FundingWatch.Guarded twoUpdates 10000) {}
        aroundFunding ∧
      actions twoUpdates {} aroundFunding =
        [.reduceOnly, .allow, .reduceOnly, .reduceOnly, .reduceOnly, .allow] := by
  have hapart : ToldApart twoUpdates fundings := .inl (by decide +kernel)
  refine ⟨allow_guarded rfl rfl hapart ⟨rfl, rfl⟩ (Run.along_and (along_truthful ?_ _) ?_) ?_,
    ?_⟩
  · simp only [aroundFunding, forall_mem_cons]
    refine ⟨?_, ?_, ?_, ?_, ?_, ?_, fun _ h => absurd h not_mem_nil⟩
    all_goals
      rintro _ ⟨⟩
      exact truthful_sighting (by norm_num [NextFunding])
  · decide +kernel
  · decide +kernel
  · decide +kernel

/-- Two healthy observations that take turns. -/
def takingTurns : List FundingEvaluation :=
  [sightingAt 10 "A" 10 28800, sightingAt 11 "B" 11 28800, sightingAt 11 "A" 10 28800,
    sightingAt 11 "B" 11 28800, sightingAt 11 "A" 10 28800]

/-- **Two observations that alternate are counted as five**, and risk may be opened after them.
-/
theorem alternating_observations :
    ¬∀ (policy : FundingGuardPolicy) (S : Set ℚ) (offset : ℚ)
    (evaluations : List FundingEvaluation),
      policy.enabled = true → policy.requireSnapshot = true →
      Run.Along (FundingWatch.step policy)
        (fun w e => TruthfulEvaluation S offset w e ∧ w.Nondecreasing e) {} evaluations →
      Run.Along (FundingWatch.step policy) (FundingWatch.Guarded policy offset) {}
        evaluations := by
  intro hall
  have htrue : Run.Along (FundingWatch.step {}) (TruthfulEvaluation fundings 10000) {}
      takingTurns := by
    refine along_truthful ?_ _
    simp only [takingTurns, forall_mem_cons]
    refine ⟨?_, ?_, ?_, ?_, ?_, fun _ h => absurd h not_mem_nil⟩
    all_goals
      rintro _ ⟨⟩
      exact truthful_sighting (by norm_num [NextFunding])
  have hgiven := Run.along_and htrue (show Run.Along (FundingWatch.step {})
    FundingWatch.Nondecreasing {} takingTurns by decide +kernel)
  let last := sightingAt 11 "A" 10 28800
  obtain ⟨w, hw, hguarded⟩ : ∃ w,
      Run.exec (FundingWatch.step {}) {} (takingTurns.take 4) = some w ∧
      w.Guarded {} 10000 last :=
    ⟨_, rfl, (hall {} fundings 10000 takingTurns rfl rfl hgiven).2 _ rfl |>.2 _ rfl |>.2 _ rfl
      |>.2 _ rfl |>.1⟩
  have hends : ((Run.exec (FundingWatch.step {}) {} (takingTurns.take 4)).map fun w =>
      ((w.evaluate {} last).1.action, (w.next {} last).healthySince)) =
        some (.allow, ["A", "B", "A", "B", "A"]) := by
    decide +kernel
  rw [hw] at hends
  simp only [Option.map_some, Option.some.injEq, Prod.mk.injEq] at hends
  obtain ⟨hallow, hsince⟩ := hends
  obtain ⟨-, -, -, -, -, -, ids, hnodup, henough, hsubset⟩ := hguarded hallow
  rw [hsince] at hsubset
  -- five different ids out of two
  have htwo : ids ⊆ ["A", "B"] := fun id hid => by
    simpa [or_comm, or_left_comm] using hsubset id hid
  have hlength : ids.length ≤ 2 := (subperm_of_subset hnodup htwo).length_le
  exact absurd (henough.trans hlength) (by decide)

end ChronosHFT.Funding
