import ChronosHFT.Sidecar.AccountRisk
import ChronosHFT.Sidecar.CashFlow

/-!
# Cash flow totals over days and restarts

A monitor polls the cash flows of a deployment; the process may start again at any time, and then
nothing of the memory is left.  Every report is remembered with the times its totals go up to: a
total that is repeated from memory goes up to the query that it repeats.

**When totals are exact** (`totals_exact`).  A query is covered when both of its clock readings
are on one day and nothing was missed: with a configured start of the deployment, that start is
not ahead; without one, nothing flowed between the last query of a day and the next day, and
after a restart nothing had flowed on earlier days.  Where every query is covered, the difference
of two totals of the deployment is what flowed between them, and every total of a day is what
flowed on the day of its label.

**A flow around midnight** is lost otherwise (`lateDeposit_lost`): the total that is carried over
stops at the last query of the day.
-/

namespace ChronosHFT.Sidecar

open List Calendar

/-! ## The monitor -/

/-- A report, with the last milliseconds its totals go up to. -/
structure CashFlowReport where
  truth : CashFlowTruth
  dailyThrough : ℤ
  deploymentThrough : ℤ

/-- The exchange of a deployment, over its processes. -/
structure CashFlowMonitor where
  cache : CashFlowCache
  /-- The latest corrected time that was read. -/
  clock : ℚ := 0
  /-- The first millisecond of the day of the first query. -/
  origin : Option ℤ := none
  /-- What the totals of the last query go up to. -/
  dailyThrough : ℤ := 0
  deploymentThrough : ℤ := 0
  reports : List CashFlowReport := []

inductive CashFlowEvent
  | poll (p : CashFlowPoll)
  | restart

section Monitor

variable (o : CashFlowSettings) (history : IncomeHistory)

/-- The monitor before the first poll. -/
def CashFlowMonitor.started : CashFlowMonitor := { cache := CashFlowCache.fresh o }

/-- The latest time a poll reads. -/
def CashFlowPoll.clock (p : CashFlowPoll) (before : ℚ) : ℚ :=
  match p.first with
  | none => before
  | some first => (p.second.map ClockReading.epoch).getD first.epoch

/-- The last millisecond of the total of the day. -/
def CashFlowPoll.dailyThrough (p : CashFlowPoll) : ℤ :=
  (p.second.map fun second => roundedMs second.epoch).getD 0

/-- The last millisecond of the total of the deployment. -/
def CashFlowPoll.deploymentThrough (p : CashFlowPoll) : ℤ :=
  if 0 < o.deploymentStartMs then (p.first.map fun first => ⌊first.epoch * 1000⌋).getD 0
  else p.dailyThrough

/-- The first millisecond of the day that is asked for. -/
def CashFlowPoll.dayStart (p : CashFlowPoll) : ℤ :=
  (p.second.map fun second => dayStartMs second.epoch).getD 0

/-- The state after a poll; a query that succeeded has a new number. -/
def CashFlowMonitor.poll (s : CashFlowMonitor) (p : CashFlowPoll) : CashFlowMonitor :=
  let (cache, result) := getCachedExternalCashFlowTruth o s.cache p
  let polled : CashFlowMonitor :=
    if cache.generation = s.cache.generation then
      { s with
        cache := cache
        clock := p.clock s.clock }
    else
      { s with
        cache := cache
        clock := p.clock s.clock
        origin := some (s.origin.getD p.dayStart)
        dailyThrough := p.dailyThrough
        deploymentThrough := p.deploymentThrough o }
  let reported := result.toOption.map fun truth =>
    CashFlowReport.mk truth polled.dailyThrough polled.deploymentThrough
  { polled with reports := polled.reports ++ reported.toList }

/-- The run of a deployment. -/
def CashFlowMonitor.step (s : CashFlowMonitor) : CashFlowEvent → Option CashFlowMonitor
  | .restart => some { s with cache := CashFlowCache.fresh o }
  | .poll p => some (s.poll o p)

/-- The corrected time does not go back, and the venue lists its incomes. -/
def CashFlowMonitor.Regular (s : CashFlowMonitor) : CashFlowEvent → Prop
  | .restart => True
  | .poll p =>
    (∀ first ∈ p.first, s.clock ≤ first.epoch ∧ ∀ second ∈ p.second,
      first.epoch ≤ second.epoch) ∧
      p.dailyVenue.Lists history ∧ p.deploymentVenue.Lists history

/-- **A poll that covers its day and the deployment**, if it asks the venue: the clock is read
twice on one day, and no flow falls into a gap. -/
def CashFlowMonitor.Covered (s : CashFlowMonitor) : CashFlowEvent → Prop
  | .restart => True
  | .poll p =>
    ∀ first ∈ p.first, ∀ second ∈ p.second, ∀ riskDay, utcDate first.epoch = some riskDay →
      s.cache.current o riskDay first.monotonic = false →
      utcDate second.epoch = some riskDay ∧
        if 0 < o.deploymentStartMs then
          flowsBetween o history ⌊first.epoch * 1000⌋ (o.deploymentStartMs - 1) = 0
        else
          ∀ origin ∈ s.origin,
            if s.cache.initialized then
              -- the day goes on, or the rest of the last one was quiet
              s.cache.day = riskDay ∨
                flowsBetween o history s.dailyThrough (dayStartMs second.epoch - 1) = 0
            else flowsBetween o history (origin - 1) (dayStartMs second.epoch - 1) = 0

/-- **Exact totals**: the difference of two totals of the deployment is what flowed between them,
and a total of a day is what flowed on the day of its label. -/
structure CashFlowMonitor.Exact (s : CashFlowMonitor) : Prop where
  deployment : s.reports.Pairwise fun earlier later =>
    later.truth.deploymentExternalCashFlowTotal - earlier.truth.deploymentExternalCashFlowTotal =
      flowsBetween o history earlier.deploymentThrough later.deploymentThrough
  daily : ∀ report ∈ s.reports, report.truth.dailyExternalCashFlowTotal =
    flowsOfDay o history report.truth.riskDay report.dailyThrough

end Monitor

/-! ## What one poll does -/

section Poll

variable {o : CashFlowSettings} {history : IncomeHistory}

theorem checked_eq_ok {truth truth' : CashFlowTruth} (h : truth.checked = .ok truth') :
    truth' = truth := by
  unfold CashFlowTruth.checked at h
  split at h
  · cases h
  · cases h
    rfl

/-- **A poll** fails, repeats the kept totals, or keeps the totals of a query. -/
theorem poll_cases (c : CashFlowCache) (p : CashFlowPoll) :
    (∃ err, getCachedExternalCashFlowTruth o c p = (c, .error err)) ∨
      (∃ now riskDay, p.first = some now ∧ utcDate now.epoch = some riskDay ∧
        c.current o riskDay now.monotonic = true ∧ getCachedExternalCashFlowTruth o c p =
          (c, (c.truth riskDay ⌊now.epoch * 1000⌋ now.monotonic).checked)) ∨
      ∃ now second riskDay dailyTotal deploymentTotal, p.first = some now ∧
        p.second = some second ∧ utcDate now.epoch = some riskDay ∧
        c.current o riskDay now.monotonic = false ∧
        getExternalCashFlowTotal o p.dailyVenue (dayStartMs second.epoch)
          (roundedMs second.epoch) =
          .ok dailyTotal ∧
        deploymentCashFlowTotal o c p.deploymentVenue riskDay ⌊now.epoch * 1000⌋ dailyTotal =
          .ok deploymentTotal ∧
        getCachedExternalCashFlowTruth o c p =
          (c.keep now riskDay dailyTotal deploymentTotal,
            ((c.keep now riskDay dailyTotal deploymentTotal).truth riskDay ⌊now.epoch * 1000⌋
              now.monotonic).checked) := by
  unfold getCachedExternalCashFlowTruth
  cases hfirst : p.first with
  | none => exact .inl ⟨_, rfl⟩
  | some now =>
    simp only
    cases hdate : utcDate now.epoch with
    | none => exact .inl ⟨_, rfl⟩
    | some riskDay =>
      simp only
      cases hcurrent : c.current o riskDay now.monotonic with
      | true => exact .inr (.inl ⟨now, riskDay, rfl, hdate, hcurrent, if_pos rfl⟩)
      | false =>
        rw [if_neg Bool.false_ne_true]
        cases hdaily : getDailyExternalCashFlow o p.dailyVenue p.second with
        | error err => exact .inl ⟨err, rfl⟩
        | ok dailyTotal =>
          simp only
          cases hdeployment : deploymentCashFlowTotal o c p.deploymentVenue riskDay
              ⌊now.epoch * 1000⌋ dailyTotal with
          | error err => exact .inl ⟨err, rfl⟩
          | ok deploymentTotal =>
            unfold getDailyExternalCashFlow at hdaily
            split at hdaily
            · cases hdaily
            next second hsecond =>
              split at hdaily
              · cases hdaily
              · exact .inr (.inr ⟨now, second, riskDay, dailyTotal, deploymentTotal, rfl,
                  hsecond, hdate, hcurrent, hdaily, hdeployment, rfl⟩)

variable {result : Except CashFlowError CashFlowTruth}

/-- A poll that asks nothing, or in vain. -/
theorem poll_of_kept {s : CashFlowMonitor} {p : CashFlowPoll}
    (h : getCachedExternalCashFlowTruth o s.cache p = (s.cache, result)) : s.poll o p =
      { s with
        clock := p.clock s.clock
        reports := s.reports ++ (result.toOption.map fun truth =>
          CashFlowReport.mk truth s.dailyThrough s.deploymentThrough).toList } := by
  unfold CashFlowMonitor.poll
  rw [h]
  simp only [if_true]

/-- A poll whose query succeeded. -/
theorem poll_of_asked {s : CashFlowMonitor} {p : CashFlowPoll} {cache : CashFlowCache}
    (hgeneration : cache.generation ≠ s.cache.generation)
    (h : getCachedExternalCashFlowTruth o s.cache p = (cache, result)) : s.poll o p =
      { cache := cache
        clock := p.clock s.clock
        origin := some (s.origin.getD p.dayStart)
        dailyThrough := p.dailyThrough
        deploymentThrough := p.deploymentThrough o
        reports := s.reports ++ (result.toOption.map fun truth =>
          CashFlowReport.mk truth p.dailyThrough (p.deploymentThrough o)).toList } := by
  unfold CashFlowMonitor.poll
  rw [h]
  simp only [if_neg hgeneration]

end Poll

/-! ## Totals -/

section Totals

variable (o : CashFlowSettings) (history : IncomeHistory)

/-- Where the total of the deployment begins. -/
def CashFlowSettings.begins (origin : ℤ) : ℤ :=
  if 0 < o.deploymentStartMs then o.deploymentStartMs else origin

/-- What the total of the deployment begins with. -/
def CashFlowSettings.base : ℚ := if 0 < o.deploymentStartMs then 0
    else o.seedDeploymentCashFlowTotal

/-- Two totals, with their label and the times they go up to. -/
structure Totals (origin : ℤ) (riskDay : String) (dailyTotal deploymentTotal : ℚ)
    (dailyThrough deploymentThrough : ℤ) : Prop where
  daily : dailyTotal = flowsOfDay o history riskDay dailyThrough
  deployment : deploymentTotal =
    o.base + flowsBetween o history (o.begins origin - 1) deploymentThrough
  quiet : flowsBetween o history deploymentThrough (o.begins origin - 1) = 0

variable {o history}

/-- The difference of two totals that begin together. -/
theorem flowsBetween_sub {start earlier later : ℤ} (hle : earlier ≤ later)
    (hearlier : flowsBetween o history earlier start = 0)
    (hlater : flowsBetween o history later start = 0) :
    flowsBetween o history start later - flowsBetween o history start earlier =
      flowsBetween o history earlier later := by
  rcases le_total start earlier with hstart | hbefore
  · rw [← flowsBetween_add hstart hle]
    ring
  have hnone : flowsBetween o history start earlier = 0 := flowsBetween_empty hbefore
  rcases le_total start later with hstart | hlast
  · rw [hnone, ← flowsBetween_add hbefore hstart, hearlier]
    ring
  -- the total has not begun: nothing flows before its start
  have hsplit := @flowsBetween_add o history _ _ _ hle hlast
  rw [hlater, hearlier, add_zero] at hsplit
  rw [hnone, hsplit, flowsBetween_empty hlast]
  ring

theorem Totals.sub {origin : ℤ} {day day' : String} {daily daily' deployment deployment' : ℚ}
    {through through' last last' : ℤ}
    (h : Totals o history origin day daily deployment through last)
    (h' : Totals o history origin day' daily' deployment' through' last') (hle : last ≤ last') :
    deployment' - deployment = flowsBetween o history last last' := by
  rw [h.deployment, h'.deployment, ← flowsBetween_sub hle h.quiet h'.quiet]
  ring

/-- The end of a total of the deployment, of the instant it is asked at. -/
def endOfTotal (o : CashFlowSettings) (instant : ℚ) : ℤ :=
  if 0 < o.deploymentStartMs then ⌊instant * 1000⌋ else roundedMs instant

theorem endOfTotal_mono : Monotone (endOfTotal o) := by
  intro first second h
  unfold endOfTotal
  split
  · exact Int.floor_le_floor (mul_le_mul_of_nonneg_right h (by norm_num))
  · exact roundedMs_mono h

end Totals

/-! ## The invariant -/

section Invariant

variable (o : CashFlowSettings) (history : IncomeHistory)

/-- The kept and the reported totals are exact, and what is carried over is what flowed before
the day of the last query. -/
structure CashFlowMonitor.Metered (s : CashFlowMonitor) : Prop where
  unstarted : s.origin = none → s.reports = [] ∧ s.cache.initialized = false
  fresh : s.cache.initialized = false → s.cache.carry = o.seedDeploymentCashFlowTotal
  begun : ∀ origin ∈ s.origin, origin ≤ dayStartMs s.clock
  ended : s.origin ≠ none → ∃ instant ≤ s.clock, s.deploymentThrough = endOfTotal o instant
  kept : s.cache.initialized = true → ∀ origin ∈ s.origin,
    Totals o history origin s.cache.day s.cache.dailyTotal s.cache.deploymentTotal s.dailyThrough
      s.deploymentThrough
  carried : s.cache.initialized = true → ∀ origin ∈ s.origin, o.deploymentStartMs = 0 →
    ∃ instant ≤ s.clock, utcDate instant = some s.cache.day ∧
    s.dailyThrough = roundedMs instant ∧
      origin ≤ dayStartMs instant ∧ s.cache.carry = o.seedDeploymentCashFlowTotal +
        flowsBetween o history (origin - 1) (dayStartMs instant - 1)
  reported : ∀ origin ∈ s.origin, ∀ report ∈ s.reports,
    Totals o history origin report.truth.riskDay report.truth.dailyExternalCashFlowTotal
      report.truth.deploymentExternalCashFlowTotal report.dailyThrough report.deploymentThrough
  behind : ∀ report ∈ s.reports, report.deploymentThrough ≤ s.deploymentThrough
  sorted : s.reports.Pairwise fun earlier later =>
    earlier.deploymentThrough ≤ later.deploymentThrough

variable {o history}

/-- **Metered totals are exact.** -/
theorem CashFlowMonitor.Metered.exact {s : CashFlowMonitor} (h : s.Metered o history) :
    s.Exact o history := by
  cases horigin : s.origin with
  | none =>
    have hnone : s.reports = [] := (h.unstarted horigin).1
    constructor
    · rw [hnone]
      exact List.Pairwise.nil
    · rw [hnone]
      exact fun _ hreport => by cases hreport
  | some origin =>
    constructor
    · refine h.sorted.imp_of_mem fun hearlier hlater hle => ?_
      exact (h.reported origin horigin _ hearlier).sub (h.reported origin horigin _ hlater) hle
    · exact fun report hreport => (h.reported origin horigin report hreport).daily

theorem metered_started : (CashFlowMonitor.started o).Metered o history where
  unstarted := fun _ => ⟨rfl, rfl⟩
  fresh := fun _ => rfl
  begun := fun _ h => by cases h
  ended := fun h => absurd rfl h
  kept := fun h => by cases h
  carried := fun h => by cases h
  reported := fun _ h => by cases h
  behind := fun _ h => by cases h
  sorted := List.Pairwise.nil

/-- Time passes. -/
theorem CashFlowMonitor.Metered.later {s : CashFlowMonitor} (h : s.Metered o history) {clock : ℚ}
    (hle : s.clock ≤ clock) : { s with clock := clock }.Metered o history where
  unstarted := h.unstarted
  fresh := h.fresh
  begun := fun origin horigin => (h.begun origin horigin).trans (dayStartMs_mono hle)
  ended := fun horigin => by
    obtain ⟨instant, hinstant, heq⟩ := h.ended horigin
    exact ⟨instant, hinstant.trans hle, heq⟩
  kept := h.kept
  carried := fun hinitialized origin horigin hstart => by
    obtain ⟨instant, hinstant, hrest⟩ := h.carried hinitialized origin horigin hstart
    exact ⟨instant, hinstant.trans hle, hrest⟩
  reported := h.reported
  behind := h.behind
  sorted := h.sorted

/-- The kept totals are reported. -/
theorem CashFlowMonitor.Metered.report {s : CashFlowMonitor} (h : s.Metered o history)
    {truth : CashFlowTruth} (hinitialized : s.cache.initialized = true)
    (hday : truth.riskDay = s.cache.day)
    (hdaily : truth.dailyExternalCashFlowTotal = s.cache.dailyTotal)
    (hdeployment : truth.deploymentExternalCashFlowTotal = s.cache.deploymentTotal) :
    { s with
      reports := s.reports ++
        [CashFlowReport.mk truth s.dailyThrough s.deploymentThrough] }.Metered o history where
  unstarted := fun horigin => by
    have hfresh := (h.unstarted horigin).2
    rw [hinitialized] at hfresh
    cases hfresh
  fresh := h.fresh
  begun := h.begun
  ended := h.ended
  kept := h.kept
  carried := h.carried
  reported := fun origin horigin report hreport => by
    rcases mem_append.mp hreport with hold | hnew
    · exact h.reported origin horigin report hold
    · cases mem_singleton.mp hnew
      rw [hday, hdaily, hdeployment]
      exact h.kept hinitialized origin horigin
  behind := fun report hreport => by
    rcases mem_append.mp hreport with hold | hnew
    · exact h.behind report hold
    · cases mem_singleton.mp hnew
      exact le_refl _
  sorted := by
    refine pairwise_append.mpr ⟨h.sorted, pairwise_singleton _ _, ?_⟩
    intro earlier hearlier later hlater
    cases mem_singleton.mp hlater
    exact h.behind earlier hearlier

/-- The kept totals are reported, unless the truth is refused. -/
theorem CashFlowMonitor.Metered.report_checked {s : CashFlowMonitor} (h : s.Metered o history)
    {riskDay : String} {endTimeMs : ℤ} {nowMonotonic : ℚ}
    (hinitialized : s.cache.initialized = true)
    (hday : riskDay = s.cache.day) :
    { s with
      reports := s.reports ++ (((s.cache.truth riskDay endTimeMs
        nowMonotonic).checked).toOption.map
        fun truth => CashFlowReport.mk truth s.dailyThrough s.deploymentThrough).toList }.Metered
      o history := by
  cases hchecked : (s.cache.truth riskDay endTimeMs nowMonotonic).checked with
  | error err =>
    simp only [Except.toOption, Option.map_none, Option.toList_none, append_nil]
    exact h
  | ok truth =>
    simp only [Except.toOption, Option.map_some, Option.toList_some]
    have htruth := checked_eq_ok hchecked
    refine h.report hinitialized ?_ ?_ ?_
    · rw [htruth]
      exact hday
    · rw [htruth]
      rfl
    · rw [htruth]
      rfl

/-- What is carried over to the day of a query. -/
theorem carried_eq {s : CashFlowMonitor} (h : s.Metered o history)
    (hstart : o.deploymentStartMs = 0)
    {second : ClockReading} {riskDay : String} (hclock : s.clock ≤ second.epoch)
    (hsecond : utcDate second.epoch = some riskDay)
    (hcovered : ∀ origin ∈ s.origin,
      if s.cache.initialized then
        s.cache.day = riskDay ∨
          flowsBetween o history s.dailyThrough (dayStartMs second.epoch - 1) = 0
      else flowsBetween o history (origin - 1) (dayStartMs second.epoch - 1) = 0) :
    s.cache.carried riskDay = o.seedDeploymentCashFlowTotal +
      flowsBetween o history (s.origin.getD (dayStartMs second.epoch) - 1)
        (dayStartMs second.epoch - 1) := by
  cases horigin : s.origin with
  | none =>
    have hfresh := (h.unstarted horigin).2
    unfold CashFlowCache.carried
    rw [if_neg (by simp [hfresh]), h.fresh hfresh, Option.getD_none,
      flowsBetween_empty (le_refl _),
      add_zero]
  | some origin =>
    have hcase := hcovered origin horigin
    cases hinitialized : s.cache.initialized with
    | false =>
      rw [hinitialized, if_neg Bool.false_ne_true] at hcase
      unfold CashFlowCache.carried
      rw [if_neg (by simp [hinitialized]), h.fresh hinitialized, Option.getD_some, hcase,
        add_zero]
    | true =>
      rw [hinitialized, if_pos rfl] at hcase
      obtain ⟨instant, hinstant, hdate, hthrough, hbegun, hcarry⟩ :=
        h.carried hinitialized origin horigin hstart
      unfold CashFlowCache.carried
      by_cases hday : s.cache.day = riskDay
      · -- the day goes on
        have hsame : dayStartMs instant = dayStartMs second.epoch := by
          unfold dayStartMs
          rw [utcDay_of_utcDate (hday ▸ hdate) hsecond]
        rw [if_neg (fun hnot => hnot.2.2 hday), hcarry, Option.getD_some, hsame]
      · have hquiet := hcase.resolve_left hday
        have hnonempty : s.cache.day ≠ "" :=
          fun hempty => utcDate_ne_empty instant (hempty ▸ hdate)
        have hlater : utcDay instant < utcDay second.epoch := by
          refine lt_of_le_of_ne (utcDay_mono (hinstant.trans hclock)) fun hsame => hday ?_
          have hdates := utcDate_of_utcDay hsame
          rw [hdate, hsecond] at hdates
          exact Option.some.inj hdates
        have hends := utcDay_roundedMs instant
        have hdaily : s.cache.dailyTotal =
            flowsBetween o history (dayStartMs instant - 1) s.dailyThrough := by
          rw [(h.kept hinitialized origin horigin).daily, hthrough, flowsOfDay_eq hdate]
        have hmiddle : dayStartMs instant - 1 ≤ s.dailyThrough := by
          unfold dayStartMs
          omega
        have hlast : s.dailyThrough ≤ dayStartMs second.epoch - 1 := by
          unfold dayStartMs
          omega
        rw [if_pos ⟨hinitialized, hnonempty, hday⟩, hcarry, hdaily, Option.getD_some, add_assoc,
          flowsBetween_add (by omega) hmiddle,
          ← flowsBetween_add (show origin - 1 ≤ s.dailyThrough by omega) hlast, hquiet, add_zero]

section Readings

variable {p : CashFlowPoll} {now second : ClockReading}

theorem CashFlowPoll.clock_eq (hfirst : p.first = some now) (hsecond : p.second = some second)
    (before : ℚ) : p.clock before = second.epoch := by
  unfold CashFlowPoll.clock
  rw [hfirst, hsecond]
  rfl

theorem CashFlowPoll.dailyThrough_eq (hsecond : p.second = some second) :
    p.dailyThrough = roundedMs second.epoch := by
  unfold CashFlowPoll.dailyThrough
  rw [hsecond]
  rfl

theorem CashFlowPoll.dayStart_eq (hsecond : p.second = some second) :
    p.dayStart = dayStartMs second.epoch := by
  unfold CashFlowPoll.dayStart
  rw [hsecond]
  rfl

/-- The total of the deployment goes up to one of the readings. -/
theorem CashFlowPoll.deploymentThrough_eq (hfirst : p.first = some now)
    (hsecond : p.second = some second) :
    p.deploymentThrough o =
      endOfTotal o (if 0 < o.deploymentStartMs then now.epoch else second.epoch) := by
  unfold CashFlowPoll.deploymentThrough endOfTotal
  split
  · rw [hfirst]
    rfl
  · exact CashFlowPoll.dailyThrough_eq hsecond

/-- The clock does not go back in a poll. -/
theorem CashFlowPoll.le_clock {before : ℚ} (h : ∀ first ∈ p.first, before ≤ first.epoch ∧
    ∀ second ∈ p.second, first.epoch ≤ second.epoch) : before ≤ p.clock before := by
  unfold CashFlowPoll.clock
  cases hfirst : p.first with
  | none => exact le_refl _
  | some first =>
    obtain ⟨hle, hnext⟩ := h first hfirst
    cases hsecond : p.second with
    | none => exact hle
    | some second => exact hle.trans (hnext second hsecond)

end Readings

/-- A day has begun when its total ends. -/
theorem dayStartMs_le_roundedMs (instant : ℚ) : dayStartMs instant - 1 ≤ roundedMs instant := by
  have hends := utcDay_roundedMs instant
  unfold dayStartMs
  omega

/-- **The totals of a query** that is covered. -/
theorem asked_totals {s : CashFlowMonitor} (h : s.Metered o history) {p : CashFlowPoll}
    {now second : ClockReading} {riskDay : String} {dailyTotal deploymentTotal : ℚ}
    (hregular : s.Regular history (.poll p)) (hcovered : s.Covered o history (.poll p))
    (hfirst : p.first = some now) (hsecond : p.second = some second)
    (hdate : utcDate now.epoch = some riskDay)
    (hstale : s.cache.current o riskDay now.monotonic = false)
    (hdaily : getExternalCashFlowTotal o p.dailyVenue (dayStartMs second.epoch)
      (roundedMs second.epoch) = .ok dailyTotal)
    (hdeployment : deploymentCashFlowTotal o s.cache p.deploymentVenue riskDay ⌊now.epoch * 1000⌋
      dailyTotal = .ok deploymentTotal) :
    Totals o history (s.origin.getD p.dayStart) riskDay dailyTotal deploymentTotal p.dailyThrough
      (p.deploymentThrough o) := by
  obtain ⟨hclock, hdailyVenue, hdeploymentVenue⟩ := hregular
  have hreached : s.clock ≤ second.epoch :=
    (hclock now hfirst).1.trans ((hclock now hfirst).2 second hsecond)
  obtain ⟨hsameDay, hgap⟩ := hcovered now hfirst second hsecond riskDay hdate hstale
  have hdailyExact := getExternalCashFlowTotal_eq hdailyVenue hdaily
  rw [CashFlowPoll.deploymentThrough_eq hfirst hsecond, CashFlowPoll.dailyThrough_eq hsecond,
    CashFlowPoll.dayStart_eq hsecond]
  have hbegun : s.origin.getD (dayStartMs second.epoch) ≤ dayStartMs second.epoch := by
    cases horigin : s.origin with
    | none => exact le_refl _
    | some origin => exact (h.begun origin horigin).trans (dayStartMs_mono hreached)
  have hinDay := dayStartMs_le_roundedMs second.epoch
  constructor
  · rw [flowsOfDay_eq hsameDay]
    exact hdailyExact
  all_goals
    unfold deploymentCashFlowTotal at hdeployment
    unfold endOfTotal CashFlowSettings.begins
    by_cases hconfigured : 0 < o.deploymentStartMs
  · -- the deployment has a start of its own
    rw [if_pos hconfigured] at hdeployment
    rw [if_pos hconfigured, if_pos hconfigured, if_pos hconfigured, CashFlowSettings.base,
      if_pos hconfigured, zero_add]
    exact getExternalCashFlowTotal_eq hdeploymentVenue hdeployment
  · -- what was carried over, and the day
    rw [if_neg hconfigured] at hdeployment hgap
    have hcarried := carried_eq h (Nat.eq_zero_of_not_pos hconfigured) hreached hsameDay hgap
    cases hdeployment
    rw [if_neg hconfigured, if_neg hconfigured, if_neg hconfigured, CashFlowSettings.base,
      if_neg hconfigured, hcarried, hdailyExact, add_assoc, flowsBetween_add (by omega) hinDay]
  · rw [if_pos hconfigured] at hgap
    rw [if_pos hconfigured, if_pos hconfigured, if_pos hconfigured]
    exact hgap
  · rw [if_neg hconfigured, if_neg hconfigured, if_neg hconfigured]
    exact flowsBetween_empty (by omega)

/-- **One poll** that is covered keeps the invariant. -/
theorem poll_metered {s : CashFlowMonitor} (h : s.Metered o history) {p : CashFlowPoll}
    (hregular : s.Regular history (.poll p)) (hcovered : s.Covered o history (.poll p)) :
    (s.poll o p).Metered o history := by
  have hlater : s.clock ≤ p.clock s.clock := CashFlowPoll.le_clock hregular.1
  rcases @poll_cases o s.cache p with ⟨err, hfailed⟩ |
    ⟨now, riskDay, hfirst, hdate, hcurrent, hrepeated⟩ |
    ⟨now, second, riskDay, dailyTotal, deploymentTotal, hfirst, hsecond, hdate, hstale, hdaily,
      hdeployment, hasked⟩
  · rw [poll_of_kept hfailed]
    simp only [Except.toOption, Option.map_none, Option.toList_none, append_nil]
    exact h.later hlater
  · obtain ⟨hinitialized, hday, -⟩ := of_decide_eq_true hcurrent
    rw [poll_of_kept hrepeated]
    exact (h.later hlater).report_checked hinitialized hday.symm
  · have htotals := asked_totals h hregular hcovered hfirst hsecond hdate hstale hdaily
      hdeployment
    obtain ⟨hsameDay, hgap⟩ := hcovered now hfirst second hsecond riskDay hdate hstale
    have hnow : now.epoch ≤ second.epoch := (hregular.1 now hfirst).2 second hsecond
    have hbefore : s.clock ≤ now.epoch := (hregular.1 now hfirst).1
    have hend : p.clock s.clock = second.epoch := CashFlowPoll.clock_eq hfirst hsecond _
    have hbegun : s.origin.getD p.dayStart ≤ dayStartMs second.epoch := by
      cases horigin : s.origin with
      | none => exact (CashFlowPoll.dayStart_eq hsecond).le
      | some origin =>
        exact (h.begun origin horigin).trans (dayStartMs_mono (hbefore.trans hnow))
    let polled : CashFlowMonitor :=
      { cache := s.cache.keep now riskDay dailyTotal deploymentTotal
        clock := p.clock s.clock
        origin := some (s.origin.getD p.dayStart)
        dailyThrough := p.dailyThrough
        deploymentThrough := p.deploymentThrough o
        reports := s.reports }
    have hpolled : polled.Metered o history := by
      constructor
      case unstarted => exact fun hnone => by cases hnone
      case fresh => exact fun hfalse => by cases hfalse
      case begun =>
        rintro origin ⟨⟩
        show _ ≤ dayStartMs (p.clock s.clock)
        rw [hend]
        exact hbegun
      case ended =>
        refine fun _ => ⟨_, ?_, CashFlowPoll.deploymentThrough_eq hfirst hsecond⟩
        show _ ≤ p.clock s.clock
        rw [hend]
        split
        · exact hnow
        · exact le_refl _
      case kept =>
        rintro _ origin ⟨⟩
        exact htotals
      case carried =>
        rintro _ origin ⟨⟩ hstart
        refine ⟨second.epoch, hend.ge, hsameDay, CashFlowPoll.dailyThrough_eq hsecond, hbegun,
          ?_⟩
        rw [if_neg (by omega)] at hgap
        rw [CashFlowPoll.dayStart_eq hsecond]
        exact carried_eq h hstart (hbefore.trans hnow) hsameDay hgap
      case reported =>
        rintro origin ⟨⟩ report hreport
        cases horigin : s.origin with
        | none =>
          rw [(h.unstarted horigin).1] at hreport
          cases hreport
        | some origin => exact h.reported origin horigin report hreport
      case behind =>
        intro report hreport
        refine (h.behind report hreport).trans ?_
        have hstarted : s.origin ≠ none := fun hnone => by
          rw [(h.unstarted hnone).1] at hreport
          cases hreport
        obtain ⟨instant, hinstant, hthrough⟩ := h.ended hstarted
        rw [hthrough]
        show _ ≤ p.deploymentThrough o
        rw [CashFlowPoll.deploymentThrough_eq hfirst hsecond]
        apply endOfTotal_mono
        split
        · exact hinstant.trans hbefore
        · exact hinstant.trans (hbefore.trans hnow)
      case sorted => exact h.sorted
    rw [poll_of_asked (Nat.succ_ne_self _) hasked]
    exact hpolled.report_checked rfl rfl

/-- A restart loses the memory, not the reports. -/
theorem restart_metered {s : CashFlowMonitor} (h : s.Metered o history) :
    { s with cache := CashFlowCache.fresh o }.Metered o history where
  unstarted := fun horigin => ⟨(h.unstarted horigin).1, rfl⟩
  fresh := fun _ => rfl
  begun := h.begun
  ended := h.ended
  kept := fun hfalse => by cases hfalse
  carried := fun hfalse => by cases hfalse
  reported := h.reported
  behind := h.behind
  sorted := h.sorted

/-- **The meter reads in every run** whose queries are covered. -/
theorem metered_of_run {events : List CashFlowEvent} {s : CashFlowMonitor}
    (hregular : Run.Along (CashFlowMonitor.step o) (CashFlowMonitor.Regular history)
      (CashFlowMonitor.started o) events)
    (hcovered : Run.Along (CashFlowMonitor.step o) (CashFlowMonitor.Covered o history)
      (CashFlowMonitor.started o) events)
    (hrun : Run.exec (CashFlowMonitor.step o) (CashFlowMonitor.started o) events = some s) :
    s.Metered o history := by
  refine Run.exec_invariant ?_ metered_started (Run.along_and hregular hcovered) hrun
  rintro s event s' h ⟨hregular, hcovered⟩ hstep
  cases event with
  | restart =>
    cases hstep
    exact restart_metered h
  | poll p =>
    cases hstep
    exact poll_metered h hregular hcovered

/-- **Totals are exact** in every run whose queries are covered. -/
theorem totals_exact {events : List CashFlowEvent} {s : CashFlowMonitor}
    (hregular : Run.Along (CashFlowMonitor.step o) (CashFlowMonitor.Regular history)
      (CashFlowMonitor.started o) events)
    (hcovered : Run.Along (CashFlowMonitor.step o) (CashFlowMonitor.Covered o history)
      (CashFlowMonitor.started o) events)
    (hrun : Run.exec (CashFlowMonitor.step o) (CashFlowMonitor.started o) events = some s) :
    s.Exact o history :=
  (metered_of_run hregular hcovered hrun).exact

end Invariant

/-! ## A deposit -/

/-- A deposit of 100 at a time. -/
def depositAt (time : ℤ) : IncomeRow where
  incomeType := "TRANSFER"
  tranId := "101"
  time := time
  asset := "USDT"
  incomeText := "100"
  income := .is 100
  symbol := ""
  info := ""

/-- The history of one deposit. -/
def oneDeposit (time : ℤ) : IncomeHistory where
  rows := [depositAt time]
  unique := nodup_singleton _

/-- A poll at one instant, of a venue that lists its history. -/
def pollAt (history : IncomeHistory) (monotonic epoch : ℚ) (positive : 0 < epoch) :
    CashFlowPoll where
  first := some ⟨monotonic, epoch, positive⟩
  second := some ⟨monotonic, epoch, positive⟩
  dailyVenue := Venue.ofHistory history
  deploymentVenue := Venue.ofHistory history

theorem regular_pollAt {history : IncomeHistory} {monotonic epoch : ℚ} {positive : 0 < epoch}
    {s : CashFlowMonitor} (h : s.clock ≤ epoch) :
    s.Regular history (.poll (pollAt history monotonic epoch positive)) := by
  refine ⟨?_, lists_ofHistory history, lists_ofHistory history⟩
  rintro first ⟨⟩
  refine ⟨h, ?_⟩
  rintro second ⟨⟩
  exact le_refl _

/-- A poll at noon, a restart, and a poll one minute later. -/
def aroundNoon : List CashFlowEvent :=
  [.poll (pollAt (oneDeposit 43230000) 10 43200 (by norm_num)), .restart,
    .poll (pollAt (oneDeposit 43230000) 5 43260 (by norm_num))]

/-- The first poll of a process is covered when nothing had flowed on earlier days. -/
theorem covered_pollAt {history : IncomeHistory} {monotonic epoch : ℚ} {positive : 0 < epoch}
    {s : CashFlowMonitor} (hfresh : s.cache.initialized = false)
    (hquiet : ∀ origin ∈ s.origin,
      flowsBetween {} history (origin - 1) (dayStartMs epoch - 1) = 0) :
    s.Covered {} history (.poll (pollAt history monotonic epoch positive)) := by
  rintro first ⟨⟩ second ⟨⟩ riskDay hdate -
  refine ⟨hdate, ?_⟩
  rw [if_neg (by decide)]
  intro origin horigin
  rw [hfresh, if_neg Bool.false_ne_true]
  exact hquiet origin horigin

theorem regular_aroundNoon : Run.Along (CashFlowMonitor.step {})
    (CashFlowMonitor.Regular (oneDeposit 43230000)) (CashFlowMonitor.started {}) aroundNoon := by
  refine ⟨regular_pollAt (by decide +kernel), ?_⟩
  rintro _ ⟨⟩
  refine ⟨trivial, ?_⟩
  rintro _ ⟨⟩
  exact ⟨regular_pollAt (by decide +kernel), fun _ _ => trivial⟩

theorem covered_aroundNoon : Run.Along (CashFlowMonitor.step {})
    (CashFlowMonitor.Covered {} (oneDeposit 43230000)) (CashFlowMonitor.started {})
      aroundNoon := by
  refine ⟨covered_pollAt rfl (fun _ h => by cases h), ?_⟩
  rintro _ ⟨⟩
  refine ⟨trivial, ?_⟩
  rintro _ ⟨⟩
  refine ⟨covered_pollAt rfl fun origin horigin => ?_, fun _ _ => trivial⟩
  -- both polls are on the first day
  have hfirst : some origin = some (0 : ℤ) := horigin.symm.trans (by decide +kernel)
  cases hfirst
  exact flowsBetween_empty (by decide +kernel)

theorem reports_aroundNoon : (Run.exec (CashFlowMonitor.step {}) (CashFlowMonitor.started {})
    aroundNoon).map (fun s => s.reports.map fun report =>
      report.truth.deploymentExternalCashFlowTotal) = some [0, 100] := by
  decide +kernel

theorem totals_exact_aroundNoon :
    ∃ s, Run.exec (CashFlowMonitor.step {}) (CashFlowMonitor.started {}) aroundNoon = some s ∧
      (s.reports.map fun report => report.truth.deploymentExternalCashFlowTotal) = [0, 100] ∧
      s.Exact {} (oneDeposit 43230000) := by
  obtain ⟨s, hrun, hreports⟩ := Option.map_eq_some_iff.mp reports_aroundNoon
  exact ⟨s, hrun, hreports, totals_exact regular_aroundNoon covered_aroundNoon hrun⟩

/-- **The loss of a deployment.**  In every run whose queries are covered, the equity is
corrected by what flowed since the report of the baseline. -/
theorem deploymentLoss_exact {o : CashFlowSettings} {history : IncomeHistory}
    {events : List CashFlowEvent} {s : CashFlowMonitor}
    (hregular : Run.Along (CashFlowMonitor.step o) (CashFlowMonitor.Regular history)
      (CashFlowMonitor.started o) events)
    (hcovered : Run.Along (CashFlowMonitor.step o) (CashFlowMonitor.Covered o history)
      (CashFlowMonitor.started o) events)
    (hrun : Run.exec (CashFlowMonitor.step o) (CashFlowMonitor.started o) events = some s)
    {earlier later : CashFlowReport} (hreports : [earlier, later].Sublist s.reports)
    {equity startEquity : ℚ} (hstart : 0 < startEquity) :
    updateDeploymentLoss equity later.truth.deploymentExternalCashFlowTotal startEquity
        earlier.truth.deploymentExternalCashFlowTotal =
      let adjusted :=
        equity - flowsBetween o history earlier.deploymentThrough later.deploymentThrough
      (startEquity, earlier.truth.deploymentExternalCashFlowTotal, adjusted,
        max 0 (startEquity - adjusted)) := by
  have hpair := (metered_of_run hregular hcovered hrun).exact.deployment.sublist hreports
  simp only [pairwise_cons, mem_singleton, forall_eq] at hpair
  unfold updateDeploymentLoss
  rw [if_neg (not_le.mpr hstart), ← hpair.1]

theorem deploymentLoss_exact_aroundNoon :
    ∃ earlier later : CashFlowReport, later.truth.deploymentExternalCashFlowTotal = 100 ∧
      (updateDeploymentLoss 900 later.truth.deploymentExternalCashFlowTotal 1000
          earlier.truth.deploymentExternalCashFlowTotal).2.2.1 =
        900 - flowsBetween {} (oneDeposit 43230000) earlier.deploymentThrough
          later.deploymentThrough := by
  obtain ⟨s, hrun, htotals⟩ := Option.map_eq_some_iff.mp reports_aroundNoon
  obtain ⟨earlier, rest, hs, -, hrest⟩ := map_eq_cons_iff.mp htotals
  obtain ⟨later, last, rfl, hlater, hlast⟩ := map_eq_cons_iff.mp hrest
  have hsub : [earlier, later].Sublist s.reports := by
    rw [hs, map_eq_nil_iff.mp hlast]
  refine ⟨earlier, later, hlater, ?_⟩
  rw [deploymentLoss_exact regular_aroundNoon covered_aroundNoon hrun hsub (by norm_num)]

/-- A poll before midnight and one after it. -/
def aroundMidnight : List CashFlowEvent :=
  [.poll (pollAt (oneDeposit 86370000) 10 86340 (by norm_num)),
    .poll (pollAt (oneDeposit 86370000) 100 86430 (by norm_num))]

/-- **A deposit before midnight** is lost: it comes after the last poll of its day, and what is
carried over is the total of that poll. -/
theorem lateDeposit_lost :
    ¬∀ (o : CashFlowSettings) (history : IncomeHistory) (events : List CashFlowEvent)
      (s : CashFlowMonitor),
      Run.Along (CashFlowMonitor.step o) (CashFlowMonitor.Regular history)
        (CashFlowMonitor.started o) events →
      Run.exec (CashFlowMonitor.step o) (CashFlowMonitor.started o) events = some s →
      s.Exact o history := by
  intro hall
  obtain ⟨s, hrun⟩ := Option.isSome_iff_exists.mp
    (show (Run.exec (CashFlowMonitor.step {}) (CashFlowMonitor.started {})
      aroundMidnight).isSome = true from rfl)
  have hregular : Run.Along (CashFlowMonitor.step {})
      (CashFlowMonitor.Regular (oneDeposit 86370000)) (CashFlowMonitor.started {})
      aroundMidnight := by
    refine ⟨regular_pollAt (by decide +kernel), ?_⟩
    rintro _ ⟨⟩
    exact ⟨regular_pollAt (by decide +kernel), fun _ _ => trivial⟩
  have hreports : ((Run.exec (CashFlowMonitor.step {}) (CashFlowMonitor.started {})
      aroundMidnight).map fun s => s.reports.map fun report =>
        (report.truth.deploymentExternalCashFlowTotal, report.deploymentThrough)) =
      some [(0, 86340000), (0, 86430000)] := by
    decide +kernel
  rw [hrun] at hreports
  have hexact : (s.reports.map fun report =>
      (report.truth.deploymentExternalCashFlowTotal, report.deploymentThrough)).Pairwise
        fun earlier later => later.1 - earlier.1 =
          flowsBetween {} (oneDeposit 86370000) earlier.2 later.2 :=
    pairwise_map.mpr (hall _ _ _ s hregular hrun).deployment
  have hlist : (s.reports.map fun report => (report.truth.deploymentExternalCashFlowTotal,
      report.deploymentThrough)) = [(0, 86340000), (0, 86430000)] := Option.some.inj hreports
  rw [hlist] at hexact
  revert hexact
  decide +kernel

end ChronosHFT.Sidecar
