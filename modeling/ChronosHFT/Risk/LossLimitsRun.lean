import ChronosHFT.Risk.LossLimits
import ChronosHFT.Lib.Run

/-!
# The loss limits over a day and over restarts

Account updates, restarts of the process and changes of the latch by others, in any order, on one
journal.  A restart is to find the last record there; a record that is refused halts the OMS.

**What is measured** (`Measures`).  The baselines in memory and in the journal are those of the
first update of the day, and of the deployment, that was measured, and the peak is the highest
adjusted equity of the day since.  An update is measured where the latch is open and the external
cash flows are known.

**A limit that is reached triggers the kill switch** in the same update (`limits_enforced`),
where the cash flows are known.  Without them nothing is measured (`unknown_cash_flow`): a loss
cannot be told from money that was withdrawn. -/

namespace ChronosHFT.Risk

open List

open Sidecar (RawFloat)

/-! ## Updates in their order -/

/-- Updates of a day, the newest first, and the first one of the deployment. -/
structure EquityTrack where
  today : List EquityUpdate := []
  first : Option EquityUpdate := none

namespace EquityTrack

/-- One more update; another day starts with it. -/
def add (t : EquityTrack) (s : EquityUpdate) : EquityTrack where
  today := if t.today.head?.map EquityUpdate.day = some s.day then s :: t.today else [s]
  first := some (t.first.getD s)

/-- The first update of the day. -/
def dayFirst (t : EquityTrack) : Option EquityUpdate := t.today.getLast?

end EquityTrack

/-- The equity of an update without what came in or went out since another one. -/
def adjustedSince (start s : EquityUpdate) : ℚ :=
  s.equity - (s.externalCashFlowTotal - start.externalCashFlowTotal)

/-- The highest adjusted equity of some updates since the first of them. -/
def peakSince (start : EquityUpdate) (updates : List EquityUpdate) : ℚ :=
  (updates.map (adjustedSince start)).foldr max start.equity

/-- What happens to the controller.  `taken` tells whether the journal takes the records of it.
-/
inductive RiskEvent
  | update (update : AccountUpdate) (taken : Bool)
  | restart
  /-- The latch of the kill switch is set or released elsewhere. -/
  | latch (triggered taken : Bool)

/-- The controller with its journal: whether the last record was taken, the updates that met an
open latch, and those that were measured. -/
structure RiskWatch where
  risk : AccountRisk
  journal : Option RiskDurableState := none
  saved : Bool := true
  shown : EquityTrack := {}
  measured : EquityTrack := {}

/-- Are the external cash flows known, with no constraint for them? -/
def cashFlowsKnown (cfg : AccountRiskConfig) (u : AccountUpdate) : Bool :=
  cfg.cashFlowTruthEnabled = false ∨
    (u.cashFlowConstraint = false ∧
      (cfg.cashFlowTruthRequireSnapshot = false ∨
        (u.account.cashFlowSnapshotSynced = true ∧
          ∃ time ∈ snapshotTime? u.account.cashFlowSnapshotTime,
            tooOld cfg.cashFlowSnapshotMaxAgeSec (snapshotAgeSec u.cashFlowNow time) = false)))

/-- Is the capital that may be deployed within the limit, where there is one? -/
def capitalAccepted (cfg : AccountRiskConfig) (equity : ℚ) : Bool :=
  cfg.maxDeployedCapital ≤ 0 ∨ capitalWithinLimit cfg equity = true

/-- A fresh margin ratio reaches the kill ratio. -/
def MarginBreached (cfg : AccountRiskConfig) (u : AccountUpdate) : Prop :=
  cfg.marginHealthEnabled = true ∧ u.account.marginSnapshotSynced = true ∧
    ∃ time ∈ snapshotTime? u.account.marginSnapshotTime,
      tooOld cfg.marginSnapshotMaxAgeSec (snapshotAgeSec u.marginNow time) = false ∧
      ∃ ratio, u.account.maintenanceMarginRatio = .is ratio ∧ cfg.marginKillRatio ≤ ratio

namespace RiskWatch

variable (cfg : AccountRiskConfig)

/-- A new deployment. -/
def start : RiskWatch where
  risk := { durable := .fresh cfg }

/-- What an update shows that meets an open latch. -/
def shows (w : RiskWatch) (u : AccountUpdate) : Option EquityUpdate :=
  if (w.risk.refresh u).1.durable.killSwitchTriggered ∨ cfg.active = false then none
  else (readAccount u.day u.account).toOption

/-- What is measured of it. -/
def measures (w : RiskWatch) (u : AccountUpdate) : Option EquityUpdate :=
  (w.shows cfg u).filter fun s => cashFlowsKnown cfg u && capitalAccepted cfg s.equity

/-- The journal after a step. -/
def record (w : RiskWatch) (risk : AccountRisk) (persists taken : Bool) : RiskWatch :=
  { w with
    risk := risk
    journal := if persists && taken then some risk.durable else w.journal
    saved := if persists then taken else w.saved }

/-- One step. -/
def next (w : RiskWatch) : RiskEvent → RiskWatch
  | .update u taken =>
    let (risk, effects) := w.risk.onAccountUpdate cfg u
    { w.record risk (effects.contains .persist) taken with
      shown := (w.shows cfg u).elim w.shown w.shown.add
      measured := (w.measures cfg u).elim w.measured w.measured.add }
  | .restart => { w with risk := { durable := restore cfg w.journal } }
  | .latch triggered taken =>
    w.record { w.risk with
      durable := { w.risk.durable with killSwitchTriggered := triggered } } true taken

def step (w : RiskWatch) (e : RiskEvent) : Option RiskWatch := some (w.next cfg e)

/-- A limit is reached by an update, the last one of a track. -/
def Breaches (t : EquityTrack) (u : AccountUpdate) (s : EquityUpdate) : Prop :=
  (0 < cfg.maxDailyLoss ∧ ∃ first ∈ t.dayFirst,
      cfg.maxDailyLoss < first.equity - adjustedSince first s) ∨
    (0 < cfg.maxDrawdownPct ∧ ∃ first ∈ t.dayFirst,
      cfg.maxDrawdownPct <
        (peakSince first t.today - adjustedSince first s) / peakSince first t.today) ∨
    (0 < cfg.maxDeploymentLoss ∧ ∃ first ∈ t.first,
      cfg.maxDeploymentLoss ≤ first.equity - adjustedSince first s) ∨
    MarginBreached cfg u

/-- **The limits, as one would have them**: an update that meets an open latch and reaches one
since the first update of the day, or of the deployment, triggers the kill switch. -/
def Limited (w : RiskWatch) (e : RiskEvent) : Prop :=
  ∀ u taken, e = .update u taken → ∀ s ∈ w.shows cfg u, Breaches cfg (w.shown.add s) u s →
    (w.next cfg e).risk.durable.killSwitchTriggered = true

/-- **The limits where the cash flows are known**, since the first update that was measured. -/
def Enforced (w : RiskWatch) (e : RiskEvent) : Prop :=
  ∀ u taken, e = .update u taken → ∀ s ∈ w.shows cfg u, cashFlowsKnown cfg u = true →
    Breaches cfg (w.measured.add s) u s →
      (w.next cfg e).risk.durable.killSwitchTriggered = true

/-- **Nothing resets within a day**: neither the start of the day nor the peak. -/
def NeverReset (w : RiskWatch) (e : RiskEvent) : Prop :=
  let before := w.risk.durable.baselines
  let after := (w.next cfg e).risk.durable.baselines
  before.riskDay ≠ "" → after.riskDay = before.riskDay →
    after.initialEquity = before.initialEquity ∧
      after.initialExternalCashFlowTotal = before.initialExternalCashFlowTotal ∧
      before.peakEquity ≤ after.peakEquity

/-- A restart finds the last record. -/
def FindsLast (w : RiskWatch) (e : RiskEvent) : Prop := e = .restart → w.saved = true

end RiskWatch

/-! ## Baselines -/

section Baselines

variable {cfg : AccountRiskConfig}

/-- **Baselines of a track**: those of the first update of the day and of the deployment. -/
structure Measures (cfg : AccountRiskConfig) (b : RiskBaselines) (t : EquityTrack) : Prop where
  noDay : t.today = [] → b.riskDay = ""
  day : ∀ first ∈ t.dayFirst, b.riskDay = first.day.1 ∧ b.initialEquity = first.equity ∧
    b.initialExternalCashFlowTotal = first.externalCashFlowTotal ∧
    b.peakEquity = peakSince first t.today ∧ 0 < first.equity
  sameDay : ∀ first ∈ t.dayFirst, ∀ s ∈ t.today, s.day = first.day
  noDeployment : t.first = none → b.deploymentStartEquity ≤ 0
  deployment : 0 < cfg.maxDeploymentLoss → ∀ first ∈ t.first,
    b.deploymentStartEquity = first.equity ∧
      b.deploymentStartExternalCashFlowTotal = first.externalCashFlowTotal ∧ 0 < first.equity

theorem trackDeployment_day (cfg : AccountRiskConfig) (b : RiskBaselines) (s : EquityUpdate) :
    (b.trackDeployment cfg s).riskDay = b.riskDay ∧
      (b.trackDeployment cfg s).initialEquity = b.initialEquity ∧
      (b.trackDeployment cfg s).initialExternalCashFlowTotal = b.initialExternalCashFlowTotal ∧
      (b.trackDeployment cfg s).peakEquity = b.peakEquity := by
  unfold RiskBaselines.trackDeployment
  split
  · exact ⟨rfl, rfl, rfl, rfl⟩
  · exact ⟨rfl, rfl, rfl, rfl⟩

/-- The peak follows the adjusted equity up, and nothing else. -/
theorem trackPeak_eq (b : RiskBaselines) (s : EquityUpdate) :
    b.trackPeak s = { b with peakEquity := max b.peakEquity (b.adjustedEquity s) } := by
  unfold RiskBaselines.trackPeak
  split
  · rename_i hup
    rw [max_eq_right hup.le]
  · rename_i hdown
    rw [max_eq_left (not_lt.mp hdown)]

/-- The day of the baselines after an update, and its peak. -/
theorem track_day (cfg : AccountRiskConfig) (b : RiskBaselines) (s : EquityUpdate) :
    (b.track cfg s).riskDay = (b.startDay s).riskDay ∧
      (b.track cfg s).initialEquity = (b.startDay s).initialEquity ∧
      (b.track cfg s).initialExternalCashFlowTotal =
        (b.startDay s).initialExternalCashFlowTotal ∧
      (b.track cfg s).peakEquity =
        max (b.startDay s).peakEquity ((b.startDay s).adjustedEquity s) := by
  obtain ⟨hday, hequity, hcash, hpeak⟩ := trackDeployment_day cfg (b.startDay s) s
  unfold RiskBaselines.track
  rw [trackPeak_eq]
  refine ⟨hday, hequity, hcash, ?_⟩
  unfold RiskBaselines.adjustedEquity
  rw [hpeak, hcash]

theorem startDay_deployment (b : RiskBaselines) (s : EquityUpdate) :
    (b.startDay s).deploymentStartEquity = b.deploymentStartEquity ∧
      (b.startDay s).deploymentStartExternalCashFlowTotal =
        b.deploymentStartExternalCashFlowTotal := by
  unfold RiskBaselines.startDay
  split
  · exact ⟨rfl, rfl⟩
  · exact ⟨rfl, rfl⟩

/-- The deployment of the baselines after an update is what the update makes of it. -/
theorem track_deployment (cfg : AccountRiskConfig) (b : RiskBaselines) (s : EquityUpdate) :
    (b.track cfg s).deploymentStartEquity =
        (if 0 < cfg.maxDeploymentLoss ∧ b.deploymentStartEquity ≤ 0 then s.equity
          else b.deploymentStartEquity) ∧
      (b.track cfg s).deploymentStartExternalCashFlowTotal =
        (if 0 < cfg.maxDeploymentLoss ∧ b.deploymentStartEquity ≤ 0 then s.externalCashFlowTotal
          else b.deploymentStartExternalCashFlowTotal) := by
  obtain ⟨hstart, hcash⟩ := startDay_deployment b s
  unfold RiskBaselines.track
  rw [trackPeak_eq]
  unfold RiskBaselines.trackDeployment Sidecar.updateDeploymentLoss
  rw [hstart, hcash]
  by_cases hlimit : 0 < cfg.maxDeploymentLoss
  · by_cases hmissing : b.deploymentStartEquity ≤ 0
    · simp [hlimit, hmissing]
    · simp [hlimit, hmissing]
  · simp [hlimit, hstart, hcash]

/-- The loss of the deployment after an update. -/
theorem track_deploymentLoss (b : RiskBaselines) (s : EquityUpdate)
    (hlimit : 0 < cfg.maxDeploymentLoss) :
    (b.track cfg s).deploymentLoss = max 0 ((b.track cfg s).deploymentStartEquity -
      (s.equity - (s.externalCashFlowTotal -
        (b.track cfg s).deploymentStartExternalCashFlowTotal))) := by
  unfold RiskBaselines.track
  rw [trackPeak_eq]
  unfold RiskBaselines.trackDeployment Sidecar.updateDeploymentLoss
  rw [if_pos hlimit]

theorem peakSince_cons (start s : EquityUpdate) (updates : List EquityUpdate) :
    peakSince start (s :: updates) = max (adjustedSince start s) (peakSince start updates) := rfl

variable {b b' : RiskBaselines} {s : EquityUpdate}

/-- **An update that begins a day** sets its baselines. -/
theorem measures_begin (cfg : AccountRiskConfig) (hbegins : b.begins s = true) :
    (b.track cfg s).riskDay = s.day.1 ∧ (b.track cfg s).initialEquity = s.equity ∧
      (b.track cfg s).initialExternalCashFlowTotal = s.externalCashFlowTotal ∧
      (b.track cfg s).peakEquity = peakSince s [s] := by
  obtain ⟨hday, hequity, hcash, hpeak⟩ := track_day cfg b s
  rw [hday, hequity, hcash, hpeak]
  have hstart : b.startDay s = { b with
      riskDay := s.day.1
      initialEquity := s.equity
      initialExternalCashFlowTotal := s.externalCashFlowTotal
      peakEquity := s.equity } := if_pos hbegins
  rw [hstart]
  refine ⟨rfl, rfl, rfl, ?_⟩
  rw [peakSince_cons, max_comm]
  rfl

/-- **An update of the same day** keeps its start; the peak may rise. -/
theorem measures_same (cfg : AccountRiskConfig) (hbegins : b.begins s = false) :
    (b.track cfg s).riskDay = b.riskDay ∧ (b.track cfg s).initialEquity = b.initialEquity ∧
      (b.track cfg s).initialExternalCashFlowTotal = b.initialExternalCashFlowTotal ∧
      (b.track cfg s).peakEquity = max b.peakEquity (b.adjustedEquity s) := by
  have hstart : b.startDay s = b := if_neg (by rw [hbegins]; decide)
  have hday := track_day cfg b s
  rwa [hstart] at hday

/-- The baselines go on with the track. -/
theorem Measures.track {t : EquityTrack} (h : Measures cfg b t) (s : EquityUpdate)
    (hpositive : 0 < s.equity) : Measures cfg (b.track cfg s) (t.add s) := by
  obtain ⟨hstart, hcash⟩ := track_deployment cfg b s
  have hdeployment : 0 < cfg.maxDeploymentLoss → ∀ first ∈ (t.add s).first,
      (b.track cfg s).deploymentStartEquity = first.equity ∧
        (b.track cfg s).deploymentStartExternalCashFlowTotal = first.externalCashFlowTotal ∧
        0 < first.equity := by
    intro hlimit first hfirst
    rw [hstart, hcash]
    cases hnone : t.first with
    | none =>
      have hsame : s = first := by simpa [EquityTrack.add, hnone] using hfirst
      rw [if_pos ⟨hlimit, h.noDeployment hnone⟩, if_pos ⟨hlimit, h.noDeployment hnone⟩, ← hsame]
      exact ⟨rfl, rfl, hpositive⟩
    | some known =>
      have hsame : known = first := by simpa [EquityTrack.add, hnone] using hfirst
      obtain ⟨hequity, hflow, hknown⟩ := h.deployment hlimit known hnone
      have hgoes : ¬(0 < cfg.maxDeploymentLoss ∧ b.deploymentStartEquity ≤ 0) := fun hmissing =>
        absurd hmissing.2 (not_le.mpr (hequity ▸ hknown))
      rw [if_neg hgoes, if_neg hgoes, ← hsame]
      exact ⟨hequity, hflow, hknown⟩
  by_cases hsame : t.today.head?.map EquityUpdate.day = some s.day
  · -- the day goes on
    have htoday : (t.add s).today = s :: t.today := if_pos hsame
    obtain ⟨last, hlast, hlastDay⟩ := Option.map_eq_some_iff.mp hsame
    obtain ⟨rest, hrest⟩ := List.head?_eq_some_iff.mp hlast
    obtain ⟨first, hfirst⟩ : ∃ first, t.dayFirst = some first := by
      rw [EquityTrack.dayFirst, hrest]
      exact ⟨_, List.getLast?_cons⟩
    obtain ⟨hday, hequity, hflow, hpeak, hknown⟩ := h.day first hfirst
    have hfirstDay : first.day = s.day := by
      rw [← hlastDay]
      exact (h.sameDay first hfirst last (hrest ▸ mem_cons_self)).symm
    have hbegins : b.begins s = false := by
      refine decide_eq_false ?_
      rintro (hother | hzero)
      · exact hother (hday.trans (congrArg Subtype.val hfirstDay))
      · exact absurd (hequity.symm.trans hzero) hknown.ne'
    obtain ⟨hday', hequity', hflow', hpeak'⟩ := measures_same cfg hbegins
    have hadded : (t.add s).dayFirst = some first := by
      rw [EquityTrack.dayFirst, htoday, List.getLast?_cons, ← EquityTrack.dayFirst, hfirst]
      rfl
    refine ⟨fun hnone => ?_, fun other hother => ?_, fun other hother => ?_, nofun, hdeployment⟩
    · rw [htoday] at hnone
      cases hnone
    · obtain rfl : first = other := Option.some.inj (hadded.symm.trans hother)
      refine ⟨hday'.trans hday, hequity'.trans hequity, hflow'.trans hflow, ?_, hknown⟩
      rw [hpeak', htoday, peakSince_cons, hpeak, max_comm, RiskBaselines.adjustedEquity, hflow]
      rfl
    · obtain rfl : first = other := Option.some.inj (hadded.symm.trans hother)
      rw [htoday]
      exact forall_mem_cons.mpr ⟨hfirstDay.symm, h.sameDay first hfirst⟩
  · -- a day begins
    have htoday : (t.add s).today = [s] := if_neg hsame
    have hbegins : b.begins s = true := by
      refine decide_eq_true (.inl fun hday => hsame ?_)
      cases hdays : t.today with
      | nil => exact absurd ((h.noDay hdays).symm.trans hday) s.day.2.symm
      | cons last rest =>
        obtain ⟨first, hfirst⟩ : ∃ first, t.dayFirst = some first := by
          rw [EquityTrack.dayFirst, hdays]
          exact ⟨_, List.getLast?_cons⟩
        have hlastDay : last.day = first.day :=
          h.sameDay first hfirst last (hdays ▸ mem_cons_self)
        have hfirstDay : first.day = s.day :=
          Subtype.ext ((h.day first hfirst).1.symm.trans hday)
        exact congrArg some (hlastDay.trans hfirstDay)
    have hadded : (t.add s).dayFirst = some s := by
      rw [EquityTrack.dayFirst, htoday]
      rfl
    obtain ⟨hday', hequity', hflow', hpeak'⟩ := measures_begin cfg hbegins
    refine ⟨fun hnone => ?_, fun other hother => ?_, fun other hother => ?_, nofun, hdeployment⟩
    · rw [htoday] at hnone
      cases hnone
    · obtain rfl : s = other := Option.some.inj (hadded.symm.trans hother)
      rw [htoday]
      exact ⟨hday', hequity', hflow', hpeak', hpositive⟩
    · obtain rfl : s = other := Option.some.inj (hadded.symm.trans hother)
      rw [htoday]
      exact forall_mem_singleton.mpr rfl

/-! ### The same baselines -/

/-- Two records measure from the same baselines. -/
structure SameBaselines (b b' : RiskBaselines) : Prop where
  riskDay : b'.riskDay = b.riskDay
  initialEquity : b'.initialEquity = b.initialEquity
  initialCashFlow : b'.initialExternalCashFlowTotal = b.initialExternalCashFlowTotal
  peakEquity : b'.peakEquity = b.peakEquity
  deploymentStart : b'.deploymentStartEquity = b.deploymentStartEquity
  deploymentCashFlow :
    b'.deploymentStartExternalCashFlowTotal = b.deploymentStartExternalCashFlowTotal

theorem SameBaselines.refl (b : RiskBaselines) : SameBaselines b b :=
  ⟨rfl, rfl, rfl, rfl, rfl, rfl⟩

theorem SameBaselines.symm (h : SameBaselines b b') : SameBaselines b' b :=
  ⟨h.riskDay.symm, h.initialEquity.symm, h.initialCashFlow.symm, h.peakEquity.symm,
    h.deploymentStart.symm, h.deploymentCashFlow.symm⟩

theorem SameBaselines.trans {b'' : RiskBaselines} (h : SameBaselines b b')
    (h' : SameBaselines b' b'') : SameBaselines b b'' :=
  ⟨h'.riskDay.trans h.riskDay, h'.initialEquity.trans h.initialEquity,
    h'.initialCashFlow.trans h.initialCashFlow, h'.peakEquity.trans h.peakEquity,
    h'.deploymentStart.trans h.deploymentStart, h'.deploymentCashFlow.trans h.deploymentCashFlow⟩

/-- The same baselines measure the same. -/
theorem Measures.same {t : EquityTrack} (h : Measures cfg b t)
    (hsame : SameBaselines b b') : Measures cfg b' t where
  noDay := fun hnone => hsame.riskDay.trans (h.noDay hnone)
  day := by
    intro first hfirst
    rw [hsame.riskDay, hsame.initialEquity, hsame.initialCashFlow, hsame.peakEquity]
    exact h.day first hfirst
  sameDay := h.sameDay
  noDeployment := fun hnone => hsame.deploymentStart.le.trans (h.noDeployment hnone)
  deployment := by
    intro hlimit first hfirst
    rw [hsame.deploymentStart, hsame.deploymentCashFlow]
    exact h.deployment hlimit first hfirst

/-- **What is not journalled did not change.** -/
theorem same_of_unchanged (h : b.changed cfg s = false) : SameBaselines b (b.track cfg s) := by
  have hchanged := of_decide_eq_false h
  simp only [not_or] at hchanged
  obtain ⟨hbegins, hdeployment, hpeak⟩ := hchanged
  replace hbegins := (Bool.not_eq_true _).mp hbegins
  have hstart : b.startDay s = b := if_neg (by rw [hbegins]; decide)
  rw [hstart] at hpeak
  obtain ⟨hday, hequity, hcash, hpeak'⟩ := measures_same cfg hbegins
  obtain ⟨hdeploymentStart, hdeploymentCash⟩ := track_deployment cfg b s
  rw [if_neg hdeployment] at hdeploymentStart hdeploymentCash
  exact ⟨hday, hequity, hcash, hpeak'.trans (max_eq_left (not_lt.mp hpeak)), hdeploymentStart,
    hdeploymentCash⟩

end Baselines

/-! ## An update -/

section Update

variable {cfg : AccountRiskConfig} {k : AccountRisk} {u : AccountUpdate}

/-- **What a check does to the durable state**: nothing, or it sets the latch and journals. -/
structure Settles (k : AccountRisk) (result : AccountRisk × List RiskEffect) : Prop where
  baselines : result.1.durable.baselines = k.durable.baselines
  identity : result.1.durable.deploymentId = k.durable.deploymentId ∧
    result.1.durable.deploymentPolicyFingerprint = k.durable.deploymentPolicyFingerprint
  outcome : (result.1.durable = k.durable ∧ RiskEffect.persist ∉ result.2) ∨
    (result.1.durable.killSwitchTriggered = true ∧ RiskEffect.persist ∈ result.2)

theorem settles_triggerKill (k : AccountRisk) (reason : KillReason) :
    Settles k (k.triggerKill reason) :=
  ⟨rfl, ⟨rfl, rfl⟩, .inr ⟨rfl, mem_cons_of_mem _ mem_cons_self⟩⟩

/-- A check that leaves the durable state alone. -/
theorem settles_same {k k' : AccountRisk} {effects : List RiskEffect}
    (hsame : k'.durable = k.durable)
    (hnone : RiskEffect.persist ∉ effects) : Settles k (k', effects) :=
  ⟨congrArg _ hsame, ⟨congrArg _ hsame, congrArg _ hsame⟩, .inl ⟨hsame, hnone⟩⟩

variable {result : AccountRisk × List RiskEffect} {s : EquityUpdate}

/-- A check with something else before it. -/
theorem Settles.cons (h : Settles k result) {effect : RiskEffect} (hother : effect ≠ .persist) :
    Settles k (result.1, effect :: result.2) := by
  refine ⟨h.baselines, h.identity, h.outcome.imp ?_ ?_⟩
  · rintro ⟨hsame, hnone⟩
    exact ⟨hsame, fun hmem => (mem_cons.mp hmem).elim (fun heq => hother heq.symm) hnone⟩
  · rintro ⟨hkilled, hmem⟩
    exact ⟨hkilled, mem_cons_of_mem _ hmem⟩

/-- A check that only constrains the OMS. -/
theorem settles_effect {k k' : AccountRisk} {effect : RiskEffect}
    (hsame : k'.durable = k.durable)
    (hother : effect ≠ .persist) : Settles k (k', [effect]) :=
  (settles_same hsame not_mem_nil).cons hother

/-- A check after one that leaves the durable state alone. -/
theorem Settles.after {known : AccountRisk}
    {effects : List RiskEffect} (h : Settles known result) (hdurable : known.durable = k.durable)
    (hnone : RiskEffect.persist ∉ effects) : Settles k (result.1, effects ++ result.2) := by
  obtain ⟨hbaselines, hidentity, houtcome⟩ := h
  rw [hdurable] at hbaselines hidentity houtcome
  refine ⟨hbaselines, hidentity, houtcome.imp ?_ ?_⟩
  · rintro ⟨hsame, hnot⟩
    exact ⟨hsame, fun hmem => (mem_append.mp hmem).elim hnone hnot⟩
  · rintro ⟨hkilled, hmem⟩
    exact ⟨hkilled, mem_append_right _ hmem⟩

theorem settles_checkDay (s : EquityUpdate) : Settles k (k.checkDay cfg s) := by
  unfold AccountRisk.checkDay
  dsimp only
  split
  · exact settles_triggerKill k _
  · split
    · exact settles_triggerKill k _
    · exact settles_same rfl not_mem_nil

theorem settles_checkLosses (s : EquityUpdate) : Settles k (k.checkLosses cfg s) := by
  unfold AccountRisk.checkLosses
  dsimp only
  split
  · exact settles_triggerKill k _
  · exact (settles_checkDay s).cons nofun
  · exact (settles_checkDay s).cons nofun

/-- The constraints of the margin. -/
theorem settles_marginConstraint (ratio : ℚ) : Settles k (k.marginConstraint cfg u ratio) := by
  unfold AccountRisk.marginConstraint
  split
  · exact settles_effect rfl nofun
  split
  · exact settles_effect rfl nofun
  split
  · exact settles_same rfl not_mem_nil
  · split
    · exact settles_effect rfl nofun
    · exact settles_same rfl not_mem_nil

/-- **The check of the margin**: it stops the update when it triggers the kill switch, and a
fresh ratio at the kill ratio does. -/
theorem checkMarginHealth_spec :
    Settles k ((k.checkMarginHealth cfg u).1, (k.checkMarginHealth cfg u).2.1) ∧
      ((k.checkMarginHealth cfg u).2.2 = true →
        (k.checkMarginHealth cfg u).1.durable.killSwitchTriggered = true) ∧
      (MarginBreached cfg u → (k.checkMarginHealth cfg u).2.2 = true) := by
  unfold AccountRisk.checkMarginHealth
  split
  · rename_i hskips
    refine ⟨settles_same rfl not_mem_nil, nofun, fun hbreached => ?_⟩
    rcases hskips with hdisabled | hunsynced
    · exact absurd (hdisabled.symm.trans hbreached.1) nofun
    · exact absurd (hunsynced.symm.trans hbreached.2.1) nofun
  · split
    · rename_i hinvalid
      refine ⟨settles_effect rfl nofun, nofun, fun hbreached => ?_⟩
      obtain ⟨-, -, time, htime, -⟩ := hbreached
      exact absurd (hinvalid.symm.trans htime) nofun
    · rename_i time htime
      dsimp only
      split
      · rename_i hold
        refine ⟨settles_effect rfl nofun, nofun, fun hbreached => ?_⟩
        obtain ⟨-, -, time', htime', hfresh, -⟩ := hbreached
        cases htime.symm.trans htime'
        exact absurd (hold.symm.trans hfresh) nofun
      · split
        · exact ⟨settles_triggerKill k _, fun _ => rfl, fun _ => rfl⟩
        · exact ⟨settles_triggerKill k _, fun _ => rfl, fun _ => rfl⟩
        rename_i ratio hratio
        split
        · exact ⟨settles_triggerKill k _, fun _ => rfl, fun _ => rfl⟩
        split
        · exact ⟨settles_triggerKill k _, fun _ => rfl, fun _ => rfl⟩
        rename_i hbelow
        refine ⟨settles_marginConstraint ratio, nofun, fun hbreached => ?_⟩
        obtain ⟨-, -, -, -, -, ratio', hratio', hreached⟩ := hbreached
        cases hratio.symm.trans hratio'
        exact absurd hreached hbelow

/-- **The check of the cash flows** leaves the durable state alone; it lets an update pass
exactly where they are known. -/
theorem checkCashFlowTruth_spec :
    (k.checkCashFlowTruth cfg u).1.durable = k.durable ∧
      RiskEffect.persist ∉ (k.checkCashFlowTruth cfg u).2.1 ∧
      (k.checkCashFlowTruth cfg u).2.2 = !cashFlowsKnown cfg u := by
  unfold AccountRisk.checkCashFlowTruth
  split
  · rename_i hdisabled
    exact ⟨rfl, not_mem_nil, by simp [cashFlowsKnown, hdisabled]⟩
  rename_i henabled
  dsimp only
  split
  · rename_i hunknown
    refine ⟨rfl, fun hmem => absurd (mem_singleton.mp hmem) nofun, ?_⟩
    obtain ⟨hrequires, hstale⟩ := Bool.and_eq_true_iff.mp hunknown
    unfold cashFlowsKnown
    cases htime : snapshotTime? u.account.cashFlowSnapshotTime with
    | none => simp [henabled, hrequires]
    | some time =>
      rw [htime] at hstale
      simp only [Option.isSome_some, Bool.and_true, Option.getD_some, Bool.or_eq_true,
        Bool.not_eq_true'] at hstale
      rcases hstale with hunsynced | hold
      · simp [henabled, hrequires, hunsynced]
      · simp [henabled, hrequires, hold]
  · rename_i hknown
    split
    · rename_i hfree
      refine ⟨rfl, not_mem_nil, ?_⟩
      unfold cashFlowsKnown
      cases hrequires : cfg.cashFlowTruthRequireSnapshot with
      | false => simp [hfree]
      | true =>
        rw [hrequires, Bool.true_and] at hknown
        cases htime : snapshotTime? u.account.cashFlowSnapshotTime with
        | none => simp [htime] at hknown
        | some time =>
          rw [htime] at hknown
          simp only [Option.isSome_some, Bool.and_true, Option.getD_some, Bool.or_eq_true,
            Bool.not_eq_true', not_or, Bool.not_eq_false, Bool.not_eq_true] at hknown
          simp [hfree, hknown.1, hknown.2]
    · rename_i hconstrained
      have hheld : cashFlowsKnown cfg u = false := by
        simp [cashFlowsKnown, henabled, hconstrained]
      rw [hheld]
      split
      · exact ⟨rfl, not_mem_nil, rfl⟩
      · exact ⟨rfl, fun hmem => absurd (mem_singleton.mp hmem) nofun, rfl⟩

/-- A daily loss or a drawdown over its limit. -/
theorem kills_checkDay (h : (0 < cfg.maxDailyLoss ∧
        cfg.maxDailyLoss < AccountRisk.dailyLoss k.durable.baselines s) ∨
      (0 < cfg.maxDrawdownPct ∧ 0 < k.durable.baselines.peakEquity ∧
        cfg.maxDrawdownPct < AccountRisk.drawdownFraction k.durable.baselines s)) :
    (k.checkDay cfg s).1.durable.killSwitchTriggered = true := by
  unfold AccountRisk.checkDay
  dsimp only
  split
  · rfl
  · rename_i hdaily
    rw [if_pos (h.resolve_left hdaily)]
    rfl

/-- A loss of the deployment at its limit, or one of the day over it. -/
theorem kills_checkLosses (h : (0 < cfg.maxDeploymentLoss ∧
        cfg.maxDeploymentLoss ≤ k.durable.baselines.deploymentLoss) ∨
      (k.checkDay cfg s).1.durable.killSwitchTriggered = true) :
    (k.checkLosses cfg s).1.durable.killSwitchTriggered = true := by
  unfold AccountRisk.checkLosses
  dsimp only
  split
  · rfl
  · rename_i haction
    refine h.resolve_left ?_
    rintro ⟨hlimit, hreached⟩
    unfold Sidecar.deploymentLossAction at haction
    rw [if_neg (not_le.mpr hlimit), if_pos hreached] at haction
    cases haction
  · rename_i haction
    refine h.resolve_left ?_
    rintro ⟨hlimit, hreached⟩
    unfold Sidecar.deploymentLossAction at haction
    rw [if_neg (not_le.mpr hlimit), if_pos hreached] at haction
    cases haction

/-- What the end of an update does, in its three parts. -/
theorem measure_eq (s : EquityUpdate) :
    k.measure cfg u s =
      let journalled := if k.durable.baselines.changed cfg s then [RiskEffect.persist] else []
      let margin := (k.tracked cfg s).checkMarginHealth cfg u
      if margin.2.2 then (margin.1, journalled ++ margin.2.1)
      else
        ((margin.1.checkLosses cfg s).1,
          journalled ++ margin.2.1 ++ (margin.1.checkLosses cfg s).2) := by
  unfold AccountRisk.measure
  rcases (k.tracked cfg s).checkMarginHealth cfg u with ⟨kMargin, effects, _ | _⟩
  · rfl
  · rfl

/-- **The end of an update** moves the baselines, and what it does not journal did not change. -/
theorem measure_spec (s : EquityUpdate) :
    (k.measure cfg u s).1.durable.baselines = k.durable.baselines.track cfg s ∧
      ((k.measure cfg u s).1.durable.deploymentId = k.durable.deploymentId ∧
        (k.measure cfg u s).1.durable.deploymentPolicyFingerprint =
          k.durable.deploymentPolicyFingerprint) ∧
      (RiskEffect.persist ∉ (k.measure cfg u s).2 →
        k.durable.baselines.changed cfg s = false) := by
  obtain ⟨hmargin, -, -⟩ := @checkMarginHealth_spec cfg (k.tracked cfg s) u
  have hlosses := @settles_checkLosses cfg ((k.tracked cfg s).checkMarginHealth cfg u).1 s
  have hjournalled : ∀ effects : List RiskEffect,
      RiskEffect.persist ∉
        (if k.durable.baselines.changed cfg s then [RiskEffect.persist] else []) ++ effects →
      k.durable.baselines.changed cfg s = false := by
    intro effects hnone
    cases hchanged : k.durable.baselines.changed cfg s with
    | false => rfl
    | true =>
      rw [if_pos hchanged] at hnone
      exact absurd mem_cons_self hnone
  rw [measure_eq]
  dsimp only
  split
  · exact ⟨hmargin.baselines, hmargin.identity, hjournalled _⟩
  refine ⟨hlosses.baselines.trans hmargin.baselines,
    ⟨hlosses.identity.1.trans hmargin.identity.1, hlosses.identity.2.trans hmargin.identity.2⟩,
    ?_⟩
  rw [append_assoc]
  exact hjournalled _

/-- **What an update comes to** that shows an account to an open latch. -/
theorem assess_cases (hopen : ¬(k.durable.killSwitchTriggered = true ∨ cfg.active = false))
    (hread : readAccount u.day u.account = .ok s) :
    (cashFlowsKnown cfg u = false ∧ Settles k (k.assess cfg u)) ∨
      (capitalAccepted cfg s.equity = false ∧ Settles k (k.assess cfg u) ∧
        (k.assess cfg u).1.durable.killSwitchTriggered = true) ∨
      (cashFlowsKnown cfg u = true ∧ capitalAccepted cfg s.equity = true ∧
        ∃ known : AccountRisk, ∃ effects, known.durable = k.durable ∧
          RiskEffect.persist ∉ effects ∧
          k.assess cfg u = ((known.measure cfg u s).1,
            effects ++ (known.measure cfg u s).2)) := by
  obtain ⟨hdurable, hnone, hstops⟩ := @checkCashFlowTruth_spec cfg k u
  unfold AccountRisk.assess
  rw [if_neg hopen, hread]
  dsimp only
  rcases htruth : k.checkCashFlowTruth cfg u with ⟨known, effects, stops⟩
  rw [htruth] at hdurable hnone hstops
  dsimp only at hdurable hnone hstops
  cases stops with
  | true => exact .inl ⟨(Bool.not_eq_true' _).mp hstops.symm, settles_same hdurable hnone⟩
  | false =>
    refine .inr ?_
    dsimp only
    split
    · rename_i hcapital
      refine .inl ⟨?_, (settles_triggerKill known .deployedCapital).after hdurable hnone, rfl⟩
      simp [capitalAccepted, hcapital.1, hcapital.2]
    · rename_i hcapital
      refine .inr ⟨(Bool.not_eq_false' _).mp hstops.symm, ?_, known, effects, hdurable, hnone,
        rfl⟩
      refine decide_eq_true ?_
      rcases le_or_gt cfg.maxDeployedCapital 0 with hoff | hon
      · exact .inl hoff
      · exact .inr ((Bool.not_eq_false _).mp fun hwithin => hcapital ⟨hon, hwithin⟩)

/-- An update that meets a closed latch, or cannot be read, moves no baseline. -/
theorem settles_assess
    (h : (k.durable.killSwitchTriggered = true ∨ cfg.active = false) ∨
      ∃ reason, readAccount u.day u.account = .error reason) : Settles k (k.assess cfg u) := by
  unfold AccountRisk.assess
  split
  · exact settles_same rfl not_mem_nil
  rename_i hopen
  obtain ⟨reason, hread⟩ := h.resolve_left hopen
  rw [hread]
  exact settles_triggerKill k reason

theorem readAccount_eq_ok {day : RiskDay} {a : AccountData}
    (h : readAccount day a = .ok s) : s.day = day ∧ 0 < s.equity := by
  unfold readAccount at h
  split at h
  · cases h
  split at h
  · cases h
  split at h
  · split at h
    · cases h
    · rename_i hbounds
      cases h
      exact ⟨rfl, not_le.mp (not_or.mp hbounds).1⟩
  · cases h

end Update

/-! ## Runs -/

section Runs

variable {cfg : AccountRiskConfig} {w : RiskWatch} {u : AccountUpdate}

theorem next_update (w : RiskWatch) (u : AccountUpdate) (taken : Bool) :
    w.next cfg (.update u taken) =
      { w.record ((w.risk.refresh u).1.assess cfg u).1
          (((w.risk.refresh u).2 ++ ((w.risk.refresh u).1.assess cfg u).2).contains .persist)
          taken with
        shown := (w.shows cfg u).elim w.shown w.shown.add
        measured := (w.measures cfg u).elim w.measured w.measured.add } := rfl

/-- A refresh touches nothing but the latch. -/
theorem refresh_durable (k : AccountRisk) :
    (k.refresh u).1.durable.baselines = k.durable.baselines ∧
      (k.refresh u).1.durable.deploymentId = k.durable.deploymentId ∧
      (k.refresh u).1.durable.deploymentPolicyFingerprint =
        k.durable.deploymentPolicyFingerprint := by
  unfold AccountRisk.refresh
  split
  · exact ⟨rfl, rfl, rfl⟩
  · exact ⟨rfl, rfl, rfl⟩

/-- What is shown was read where the latch was open. -/
theorem shows_eq_some {s : EquityUpdate} (h : w.shows cfg u = some s) :
    ¬((w.risk.refresh u).1.durable.killSwitchTriggered = true ∨ cfg.active = false) ∧
      readAccount u.day u.account = .ok s := by
  unfold RiskWatch.shows at h
  split at h
  · cases h
  rename_i hopen
  refine ⟨hopen, ?_⟩
  cases hread : readAccount u.day u.account with
  | error reason =>
    rw [hread] at h
    cases h
  | ok read =>
    rw [hread] at h
    cases h
    rfl

theorem shows_eq_none (h : w.shows cfg u = none) :
    ((w.risk.refresh u).1.durable.killSwitchTriggered = true ∨ cfg.active = false) ∨
      ∃ reason, readAccount u.day u.account = .error reason := by
  unfold RiskWatch.shows at h
  split at h
  · rename_i hclosed
    exact .inl hclosed
  cases hread : readAccount u.day u.account with
  | error reason => exact .inr ⟨reason, rfl⟩
  | ok read =>
    rw [hread] at h
    cases h

/-- **What an update does to the baselines**: it leaves them, or they follow what is measured. -/
theorem assess_baselines :
    let k := (w.risk.refresh u).1
    (w.measures cfg u = none ∧ Settles k (k.assess cfg u)) ∨
      ∃ s, w.measures cfg u = some s ∧ 0 < s.equity ∧ s.day = u.day ∧
        (k.assess cfg u).1.durable.baselines = k.durable.baselines.track cfg s ∧
        ((k.assess cfg u).1.durable.deploymentId = k.durable.deploymentId ∧
          (k.assess cfg u).1.durable.deploymentPolicyFingerprint =
            k.durable.deploymentPolicyFingerprint) ∧
        (RiskEffect.persist ∉ (k.assess cfg u).2 →
          k.durable.baselines.changed cfg s = false) := by
  intro k
  cases hshows : w.shows cfg u with
  | none =>
    refine .inl ⟨?_, settles_assess (shows_eq_none hshows)⟩
    rw [RiskWatch.measures, hshows]
    rfl
  | some s =>
    obtain ⟨hopen, hread⟩ := shows_eq_some hshows
    have hmeasures : w.measures cfg u =
        if cashFlowsKnown cfg u && capitalAccepted cfg s.equity then some s else none := by
      rw [RiskWatch.measures, hshows]
      rfl
    rcases assess_cases hopen hread with ⟨hunknown, hsettles⟩ | ⟨hrefused, hsettles, -⟩ |
      ⟨hknown, haccepted, known, effects, hdurable, hnone, hassess⟩
    · refine .inl ⟨?_, hsettles⟩
      rw [hmeasures, hunknown]
      rfl
    · refine .inl ⟨?_, hsettles⟩
      rw [hmeasures, hrefused, Bool.and_false]
      rfl
    · obtain ⟨hequityDay, hpositive⟩ := readAccount_eq_ok hread
      obtain ⟨htrack, hidentity, hjournal⟩ := @measure_spec cfg known u s
      rw [hdurable] at htrack hidentity hjournal
      refine .inr ⟨s, ?_, hpositive, hequityDay, ?_, ?_, ?_⟩
      · rw [hmeasures, hknown, haccepted]
        rfl
      · rw [hassess]
        exact htrack
      · rw [hassess]
        exact hidentity
      · rw [hassess]
        exact fun hnot => hjournal fun hmem => hnot (mem_append_right _ hmem)

/-- **The invariant**: the baselines are those of what was measured, and those in the journal are
the same once the last record was taken. -/
structure Journalled (cfg : AccountRiskConfig) (w : RiskWatch) : Prop where
  measures : Measures cfg w.risk.durable.baselines w.measured
  identity : w.risk.durable.deploymentId = cfg.deploymentId ∧
    w.risk.durable.deploymentPolicyFingerprint = cfg.deploymentPolicyFingerprint
  recorded : ∀ record ∈ w.journal, record.deploymentId = cfg.deploymentId ∧
    record.deploymentPolicyFingerprint = cfg.deploymentPolicyFingerprint
  saved : w.saved = true →
    SameBaselines w.risk.durable.baselines (restore cfg w.journal).baselines

/-- A record of the deployment is restored as it is. -/
theorem decode_baselines {record : RiskDurableState}
    (h : record.deploymentId = cfg.deploymentId ∧
      record.deploymentPolicyFingerprint = cfg.deploymentPolicyFingerprint) :
    (decode cfg record).baselines = record.baselines ∧
      (decode cfg record).deploymentId = cfg.deploymentId ∧
      (decode cfg record).deploymentPolicyFingerprint = cfg.deploymentPolicyFingerprint := by
  have hholds : ∀ name : String, identityHolds name name = true :=
    fun _ => decide_eq_true (.inr rfl)
  unfold decode
  rw [h.1, h.2, hholds, hholds]
  simp only [Bool.true_eq_false, or_self, if_false, ite_self, and_self]

/-- What a process restores is of the deployment. -/
theorem restore_identity {journal : Option RiskDurableState}
    (h : ∀ record ∈ journal, record.deploymentId = cfg.deploymentId ∧
      record.deploymentPolicyFingerprint = cfg.deploymentPolicyFingerprint) :
    (restore cfg journal).deploymentId = cfg.deploymentId ∧
      (restore cfg journal).deploymentPolicyFingerprint = cfg.deploymentPolicyFingerprint := by
  cases journal with
  | none => exact ⟨rfl, rfl⟩
  | some record => exact (decode_baselines (h record rfl)).2

/-- A step that moves the baselines as it journals them keeps the invariant. -/
theorem journalled_record {risk : AccountRisk} {persists taken : Bool}
    {shown measured : EquityTrack}
    (h : Journalled cfg w)
    (hmeasures : Measures cfg risk.durable.baselines measured)
    (hidentity : risk.durable.deploymentId = cfg.deploymentId ∧
      risk.durable.deploymentPolicyFingerprint = cfg.deploymentPolicyFingerprint)
    (hsame : persists = false → SameBaselines w.risk.durable.baselines risk.durable.baselines) :
    Journalled cfg { w.record risk persists taken with
      shown := shown, measured := measured } := by
  constructor
  · exact hmeasures
  · exact hidentity
  · intro record hrecord
    cases persists with
    | false => exact h.recorded record hrecord
    | true =>
      cases taken with
      | false => exact h.recorded record hrecord
      | true =>
        cases hrecord
        exact hidentity
  · intro hsaved
    cases persists with
    | false => exact (hsame rfl).symm.trans (h.saved hsaved)
    | true =>
      cases taken with
      | false => cases hsaved
      | true =>
        have hrestored := (decode_baselines hidentity).1
        show SameBaselines _ (decode cfg risk.durable).baselines
        rw [hrestored]
        exact SameBaselines.refl _

/-- **Every step** keeps the invariant. -/
theorem journalled_next {e : RiskEvent} (h : Journalled cfg w) (hfinds : w.FindsLast e) :
    Journalled cfg (w.next cfg e) := by
  cases e with
  | update u taken =>
    obtain ⟨hbaselines, hid, hfingerprint⟩ := @refresh_durable u w.risk
    have hpersists : ∀ {effects : List RiskEffect},
        ((w.risk.refresh u).2 ++ effects).contains .persist = false →
          RiskEffect.persist ∉ effects := by
      intro effects hnone hmem
      have hin := contains_iff_mem.mpr (mem_append_right (w.risk.refresh u).2 hmem)
      exact absurd (hnone.symm.trans hin) nofun
    rw [next_update]
    rcases @assess_baselines cfg w u with ⟨hnone, hsettles⟩ |
      ⟨s, hsome, hpositive, -, htrack, hidentity, hjournal⟩
    · rw [hnone]
      refine journalled_record h ?_ ?_ fun _ => ?_
      · rw [hsettles.baselines, hbaselines]
        exact h.measures
      · rw [hsettles.identity.1, hsettles.identity.2, hid, hfingerprint]
        exact h.identity
      · rw [hsettles.baselines, hbaselines]
        exact SameBaselines.refl _
    · rw [hsome]
      rw [hbaselines] at htrack hjournal
      refine journalled_record h ?_ ?_ fun hnone => ?_
      · rw [htrack]
        exact h.measures.track s hpositive
      · rw [hidentity.1, hidentity.2, hid, hfingerprint]
        exact h.identity
      · rw [htrack]
        exact same_of_unchanged (hjournal (hpersists hnone))
  | restart =>
    have hsame := h.saved (hfinds rfl)
    exact ⟨h.measures.same hsame, restore_identity h.recorded, h.recorded,
      fun _ => SameBaselines.refl _⟩
  | latch triggered taken => exact journalled_record h h.measures h.identity nofun

theorem le_peakSince (start : EquityUpdate) (updates : List EquityUpdate) :
    start.equity ≤ peakSince start updates := by
  unfold peakSince
  induction updates with
  | nil => exact le_refl _
  | cons s rest ih => exact ih.trans (le_max_right _ _)

/-- **A limit that is reached** triggers the kill switch when the update is measured. -/
theorem kills_measure {k : AccountRisk} {t : EquityTrack} {s : EquityUpdate}
    (h : Measures cfg (k.durable.baselines.track cfg s) t)
    (hbreach : RiskWatch.Breaches cfg t u s) :
    (k.measure cfg u s).1.durable.killSwitchTriggered = true := by
  obtain ⟨hsettles, hstops, hmargin⟩ := @checkMarginHealth_spec cfg (k.tracked cfg s) u
  rw [measure_eq]
  dsimp only
  split
  · rename_i hstopped
    exact hstops hstopped
  rename_i hgoes
  have hbaselines : ((k.tracked cfg s).checkMarginHealth cfg u).1.durable.baselines =
      k.durable.baselines.track cfg s := hsettles.baselines
  refine kills_checkLosses ?_
  rcases hbreach with ⟨hlimit, first, hfirst, hloss⟩ | ⟨hlimit, first, hfirst, hdrawdown⟩ |
    ⟨hlimit, first, hfirst, hloss⟩ | hbreached
  · obtain ⟨-, hequity, hflow, -⟩ := h.day first hfirst
    refine .inr (kills_checkDay (.inl ⟨hlimit, ?_⟩))
    rw [hbaselines, AccountRisk.dailyLoss, hequity, hflow]
    unfold adjustedSince at hloss
    linarith
  · obtain ⟨-, hequity, hflow, hpeak, hpositive⟩ := h.day first hfirst
    refine .inr (kills_checkDay (.inr ⟨hlimit, ?_, ?_⟩))
    · rw [hbaselines, hpeak]
      exact hpositive.trans_le (le_peakSince first t.today)
    · rw [hbaselines, AccountRisk.drawdownFraction, hpeak, RiskBaselines.adjustedEquity, hflow]
      exact hdrawdown.trans_le (le_max_right _ _)
  · obtain ⟨hstart, hflow, -⟩ := h.deployment hlimit first hfirst
    refine .inl ⟨hlimit, ?_⟩
    rw [hbaselines, track_deploymentLoss _ _ hlimit, hstart, hflow]
    exact hloss.trans (le_max_right _ _)
  · exact absurd (hmargin hbreached) hgoes

/-- The limits are enforced where the invariant holds. -/
theorem enforced_of_journalled {e : RiskEvent} (h : Journalled cfg w) : w.Enforced cfg e := by
  rintro u taken rfl s hs hknown hbreach
  rw [next_update]
  show ((w.risk.refresh u).1.assess cfg u).1.durable.killSwitchTriggered = true
  obtain ⟨hopen, hread⟩ := shows_eq_some hs
  rcases assess_cases hopen hread with ⟨hunknown, -⟩ | ⟨-, -, hkilled⟩ |
    ⟨-, -, known, effects, hdurable, -, hassess⟩
  · exact absurd (hunknown.symm.trans hknown) nofun
  · exact hkilled
  rw [hassess]
  refine kills_measure ?_ hbreach
  rw [hdurable, (@refresh_durable u w.risk).1]
  exact h.measures.track s (readAccount_eq_ok hread).2

/-- Nothing resets within a day where the invariant holds. -/
theorem neverReset_of_journalled {e : RiskEvent} (h : Journalled cfg w)
    (hfinds : w.FindsLast e) :
    w.NeverReset cfg e := by
  intro hbegan hday
  let before := w.risk.durable.baselines
  let after := (w.next cfg e).risk.durable.baselines
  have hsame : SameBaselines before after → after.initialEquity = before.initialEquity ∧
      after.initialExternalCashFlowTotal = before.initialExternalCashFlowTotal ∧
      before.peakEquity ≤ after.peakEquity := fun hsame =>
    ⟨hsame.initialEquity, hsame.initialCashFlow, hsame.peakEquity.ge⟩
  cases e with
  | update u taken =>
    have hafter : after = ((w.risk.refresh u).1.assess cfg u).1.durable.baselines := rfl
    have hbefore : (w.risk.refresh u).1.durable.baselines = before :=
      (@refresh_durable u w.risk).1
    rcases @assess_baselines cfg w u with ⟨-, hsettles⟩ | ⟨s, -, -, -, htrack, -⟩
    · refine hsame ?_
      rw [hafter, hsettles.baselines, hbefore]
      exact SameBaselines.refl _
    · change after.riskDay = before.riskDay at hday
      show after.initialEquity = before.initialEquity ∧
        after.initialExternalCashFlowTotal = before.initialExternalCashFlowTotal ∧
        before.peakEquity ≤ after.peakEquity
      rw [hafter, htrack, hbefore] at hday ⊢
      -- the day had begun, so its start is positive
      have hbegins : before.begins s = false := by
        by_contra hbegins
        replace hbegins := (Bool.not_eq_false _).mp hbegins
        have hsday := (measures_begin cfg hbegins).1
        rcases of_decide_eq_true hbegins with hother | hzero
        · exact hother (hday.symm.trans hsday)
        cases hfirst : w.measured.dayFirst with
        | none =>
          exact hbegan (h.measures.noDay (List.getLast?_eq_none_iff.mp hfirst))
        | some first =>
          obtain ⟨-, hequity, -, -, hpositive⟩ := h.measures.day first hfirst
          exact absurd (hequity.symm.trans hzero) hpositive.ne'
      obtain ⟨-, hequity, hflow, hpeak⟩ := measures_same cfg hbegins
      exact ⟨hequity, hflow, hpeak ▸ le_max_left _ _⟩
  | restart => exact hsame (h.saved (hfinds rfl))
  | latch triggered taken => exact hsame (SameBaselines.refl _)

/-- **The limits hold over days and restarts**: in every run of a deployment whose restarts find
the last record, an update with known cash flows that reaches a limit triggers the kill switch,
and neither the start of a day nor its peak resets within the day. -/
theorem limits_enforced {events : List RiskEvent}
    (hfinds : Run.Along (RiskWatch.step cfg) RiskWatch.FindsLast (.start cfg) events) :
    Run.Along (RiskWatch.step cfg) (fun w e => w.Enforced cfg e ∧
      w.NeverReset cfg e) (.start cfg)
      events := by
  have hstart : Journalled cfg (.start cfg) := by
    refine ⟨⟨fun _ => rfl, nofun, nofun, fun _ => le_refl 0, fun _ => nofun⟩, ⟨rfl, rfl⟩, nofun,
      ?_⟩
    exact fun _ => SameBaselines.refl _
  have hholds : ∀ (w : RiskWatch) (e : RiskEvent), Journalled cfg w → w.FindsLast e →
      w.Enforced cfg e ∧ w.NeverReset cfg e :=
    fun w e h hfinds => ⟨enforced_of_journalled h, neverReset_of_journalled h hfinds⟩
  refine Run.along_of_invariant hholds ?_ hstart hfinds
  rintro w e _ h hfinds ⟨⟩
  exact journalled_next h hfinds

end Runs

/-! ## A loss while the cash flows are not known -/

/-- A deployment that may lose 50 a day and must know its cash flows. -/
def dailyFifty : AccountRiskConfig where
  maxDailyLoss := 50
  cashFlowTruthEnabled := true
  cashFlowRecoveryChecks := ⟨2, Nat.two_pos⟩

/-- An update at time 100 with an equity; the cash flows are known where they are synced. -/
def equityUpdate (equity : ℚ) (synced : Bool) : AccountUpdate where
  account := {
    equity := .is equity
    cashFlowSnapshotSynced := synced
    cashFlowSnapshotTime := .is 100 }
  day := ⟨"2026-07-20", by decide⟩
  cashFlowNow := 100
  marginNow := 100

/-- A loss of 60 over a restart. -/
def overRestart : List RiskEvent :=
  [.update (equityUpdate 1000 true) true, .restart, .update (equityUpdate 940 true) true]

theorem limits_enforced_overRestart :
    Run.Along (RiskWatch.step dailyFifty)
        (fun w e => w.Enforced dailyFifty e ∧ w.NeverReset dailyFifty e) (.start dailyFifty)
        overRestart ∧
      ((Run.exec (RiskWatch.step dailyFifty) (.start dailyFifty) overRestart).map fun w =>
        w.risk.durable.killSwitchTriggered) = some true := by
  refine ⟨limits_enforced ⟨nofun, ?_⟩, by decide +kernel⟩
  rintro _ ⟨⟩
  refine ⟨fun _ => by decide +kernel, ?_⟩
  rintro _ ⟨⟩
  exact ⟨nofun, fun _ _ => trivial⟩

/-- A loss of 100 that is shown without cash flows. -/
def withoutCashFlows : List RiskEvent :=
  [.update (equityUpdate 1000 true) true, .update (equityUpdate 900 false) true]

/-- **A loss is not measured** while the external cash flows are not known. -/
theorem unknown_cash_flow :
    ¬∀ (cfg : AccountRiskConfig) (events : List RiskEvent),
      Run.Along (RiskWatch.step cfg) RiskWatch.FindsLast (.start cfg) events →
      Run.Along (RiskWatch.step cfg) (fun w e => w.Limited cfg e ∧
        w.NeverReset cfg e) (.start cfg)
        events := by
  intro hall
  let u := equityUpdate 900 false
  have hfinds : Run.Along (RiskWatch.step dailyFifty) RiskWatch.FindsLast (.start dailyFifty)
      withoutCashFlows := ⟨nofun, fun _ _ => ⟨nofun, fun _ _ => trivial⟩⟩
  obtain ⟨w, hw, hlimited⟩ : ∃ w, Run.exec (RiskWatch.step dailyFifty) (.start dailyFifty)
      (withoutCashFlows.take 1) = some w ∧ w.Limited dailyFifty (.update u true) :=
    ⟨_, rfl, ((hall dailyFifty withoutCashFlows hfinds).2 _ rfl).1.1⟩
  have hends : ((Run.exec (RiskWatch.step dailyFifty) (.start dailyFifty)
      (withoutCashFlows.take 1)).map fun w =>
        (w.shows dailyFifty u, (w.shown.add ⟨u.day, 900, 0⟩).dayFirst,
          (w.next dailyFifty (.update u true)).risk.durable.killSwitchTriggered)) =
        some (some ⟨u.day, 900, 0⟩, some ⟨u.day, 1000, 0⟩, false) := by
    decide +kernel
  rw [hw] at hends
  simp only [Option.map_some, Option.some.injEq, Prod.mk.injEq] at hends
  obtain ⟨hshows, hfirst, hopen⟩ := hends
  have hbreach : RiskWatch.Breaches dailyFifty (w.shown.add ⟨u.day, 900, 0⟩) u ⟨u.day, 900, 0⟩ :=
    .inl ⟨by norm_num [dailyFifty], _, hfirst, by norm_num [dailyFifty, adjustedSince]⟩
  have hkilled := hlimited u true rfl _ hshows hbreach
  exact absurd (hopen.symm.trans hkilled) nofun

end ChronosHFT.Risk
