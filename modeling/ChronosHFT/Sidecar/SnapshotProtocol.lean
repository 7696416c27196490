import ChronosHFT.Sidecar.SnapshotWorker

/-!
# One request, one result

At most one request is on its way between the control loop and the worker, whatever they do in
whatever order (`Protocol`).  So each result is the one that is waited for, it is taken once
(`Taken`), and what the observation says of the exchange is what the latest outcome was (`Told`).

A result is refused for its time stamps although they are in order when the worker has finished
after the control loop has read the clock and before the call takes the result: `service_worker`
compares with the earlier reading. -/

namespace ChronosHFT.Sidecar

open List

/-! ## What a call leaves alone -/

namespace Observation

variable {policy : ObservationPolicy} {o : Observation} {now : ℚ}

/-- The numbers of requests and results. -/
def numbers (o : Observation) : ℕ × ℕ × ℕ :=
  (o.lastSnapshotResultSequence, o.snapshotRequestSequence, o.snapshotRequestInflightSequence)

/-- The latest success and the number of evaluated snapshots. -/
def successes (o : Observation) : ℚ × ℕ := (o.lastExchangeSuccessAt, o.riskSnapshotSequence)

@[simp] theorem numbers_markUnhealthy (reason : String) :
    (o.markUnhealthy reason).numbers = o.numbers := by
  unfold markUnhealthy
  dsimp only
  split <;> rfl

@[simp] theorem successes_markUnhealthy (reason : String) :
    (o.markUnhealthy reason).successes = o.successes := by
  unfold markUnhealthy
  dsimp only
  split <;> rfl

@[simp] theorem exchangeHealthy_markUnhealthy (reason : String) :
    (o.markUnhealthy reason).exchangeHealthy = false := by
  unfold markUnhealthy
  dsimp only
  split <;> rfl

/-- What `mark_unhealthy` leaves alone, many calls of it do. -/
theorem foldl_markUnhealthy {β : Type*} {f : Observation → β}
    (hf : ∀ o reason, f (markUnhealthy o reason) = f o)
    (reasons : List String) (o : Observation) : f (reasons.foldl markUnhealthy o) = f o := by
  induction reasons generalizing o with
  | nil => rfl
  | cons reason reasons ih => rw [foldl_cons, ih, hf]

theorem numbers_applyResult (reading : Reading) (completed : ℚ) :
    (o.applyResult reading completed).numbers = o.numbers := by
  cases reading with
  | unhealthy reason => exact numbers_markUnhealthy _
  | channel => rfl
  | malformed => exact numbers_markUnhealthy _
  | raised reason equity => exact numbers_markUnhealthy _
  | assessed a equity capturedAt => rfl

/-- The numbers after a result has come. -/
theorem numbers_takeResult (result : WorkerResult)
    (hnew : o.lastSnapshotResultSequence < result.sequence) :
    (o.takeResult policy now result).numbers = (o.received result).numbers := by
  rw [takeResult_eq]
  cases h : o.handling policy now result with
  | ignored =>
    unfold handling at h
    rw [if_neg (not_le.mpr hnew)] at h
    split_ifs at h
  | refused reason => exact numbers_markUnhealthy _
  | applied => exact numbers_applyResult _ _

@[simp] theorem numbers_watchWorker (input : ServiceInput) :
    (o.watchWorker policy now input).numbers = o.numbers := by
  rw [watchWorker_eq]
  exact foldl_markUnhealthy (fun _ _ => numbers_markUnhealthy _) _ _

@[simp] theorem numbers_checkOutput : (o.checkOutput policy now).numbers = o.numbers := by
  rw [checkOutput_eq]
  exact foldl_markUnhealthy (fun _ _ => numbers_markUnhealthy _) _ _

variable {force : Bool} {input : ServiceInput}

/-- A call that hands out no request changes nothing. -/
theorem submitRequest_of_not (h : o.requests policy now force = false) :
    o.submitRequest policy now force input = o := by
  have hnot : ¬(o.snapshotRequestInflightSequence = 0 ∧
      (force ∨ (decide (o.lastExchangePollAt ≤ 0 ∨
        policy.exchangePollIntervalSec ≤ now - o.lastExchangePollAt) : Bool))) := by
    simpa [requests] using h
  unfold submitRequest
  exact if_neg hnot

/-- A call that hands out a request, which the queue takes or does not. -/
theorem submitRequest_of_requests (h : o.requests policy now force = true) :
    o.submitRequest policy now force input =
      if input.submitted then
        { o with
          snapshotRequestSequence := o.snapshotRequestSequence + 1
          lastExchangePollAt := now
          snapshotRequestInflightSequence := o.snapshotRequestSequence + 1
          snapshotRequestInflightSince := now }
      else ({ o with snapshotRequestSequence := o.snapshotRequestSequence +
                       1 } : Observation).markUnhealthy
        "exchange_snapshot_worker_queue_full" := by
  have hyes : o.snapshotRequestInflightSequence = 0 ∧
      (force ∨ (decide (o.lastExchangePollAt ≤ 0 ∨
        policy.exchangePollIntervalSec ≤ now - o.lastExchangePollAt) : Bool)) := by
    simpa [requests] using h
  unfold submitRequest
  exact if_pos hyes

end Observation

namespace SnapshotWorker

/-! ## One request is on its way -/

/-- The request of a result. -/
def request (result : WorkerResult) : Request := ⟨result.sequence, result.requestedMonotonic⟩

/-- The request the worker has in hand. -/
def WorkerPhase.requests : WorkerPhase → List Request
  | .querying request => [request]
  | _ => []

/-- The result the worker has in hand. -/
def WorkerPhase.results : WorkerPhase → List WorkerResult
  | .putting result => [result]
  | .discarding result => [result]
  | .puttingAgain result => [result]
  | _ => []

/-- The result the control loop has in hand. -/
def ControlPhase.results : ControlPhase → List WorkerResult
  | .taking _ latest => latest.toList
  | _ => []

namespace World

variable {policy : ObservationPolicy} {fullSnapshot : Bool} {w w' : World}

/-- All results that are not yet used. -/
def results (w : World) : List WorkerResult :=
  w.worker.results ++ w.resultQueue.toList ++ w.control.results

/-- All requests that are not yet answered, and those of the results. -/
def inflight (w : World) : List Request :=
  w.requestQueue.toList ++ w.worker.requests ++ w.results.map request

/-- **The one request.** -/
structure Protocol (fullSnapshot : Bool) (w : World) : Prop where
  clock : w.now ≤ w.clock
  single : w.inflight.length ≤ 1
  held : ∀ request ∈ w.inflight, 0 < request.sequence ∧
    request.sequence = w.observation.snapshotRequestInflightSequence ∧
    request.requestedMonotonic ≤ w.clock
  fresh : w.observation.snapshotRequestInflightSequence = 0 ∨
    w.observation.lastSnapshotResultSequence < w.observation.snapshotRequestInflightSequence
  issued : w.observation.lastSnapshotResultSequence ≤ w.observation.snapshotRequestSequence
  waited : w.observation.snapshotRequestInflightSequence ≤ w.observation.snapshotRequestSequence
  results : ∀ result ∈ w.results, result.requestedMonotonic ≤ result.completedMonotonic ∧
    answers fullSnapshot result.reading = true

theorem protocol_start (equity : EquityState) (clock : ℚ) :
    (start equity clock).Protocol fullSnapshot := by
  have hresults : (start equity clock).results = [] := rfl
  have hinflight : (start equity clock).inflight = [] := rfl
  refine ⟨le_rfl, hinflight ▸ Nat.zero_le 1, ?_, .inl rfl, le_rfl, le_rfl, ?_⟩
  · rw [hinflight]
    exact fun request hrequest => absurd hrequest not_mem_nil
  · rw [hresults]
    exact fun result hresult => absurd hresult not_mem_nil

/-- The protocol is kept while nothing new is on its way. -/
theorem Protocol.moved (h : w.Protocol fullSnapshot)
    (hobservation : w'.observation = w.observation)
    (hclock : w.clock ≤ w'.clock) (hnow : w'.now ≤ w'.clock)
    (hinflight : w'.inflight.Sublist w.inflight)
    (hresults : ∀ result ∈ w'.results, result ∈ w.results ∨
      (result.requestedMonotonic ≤ result.completedMonotonic ∧
        answers fullSnapshot result.reading = true)) :
    w'.Protocol fullSnapshot where
  clock := hnow
  single := hinflight.length_le.trans h.single
  held request hrequest := by
    obtain ⟨hpos, hsequence, hrequested⟩ := h.held request (hinflight.subset hrequest)
    exact ⟨hpos, hobservation ▸ hsequence, hrequested.trans hclock⟩
  fresh := hobservation ▸ h.fresh
  issued := hobservation ▸ h.issued
  waited := hobservation ▸ h.waited
  results result hresult := (hresults result hresult).elim (h.results result) id

/-- Passing requests and results on, or losing them, keeps the protocol. -/
theorem Protocol.passed (h : w.Protocol fullSnapshot)
    (hobservation : w'.observation = w.observation)
    (hclock : w.clock ≤ w'.clock) (hnow : w'.now ≤ w'.clock)
    (hrequests : (w'.requestQueue.toList ++ w'.worker.requests).Sublist
      (w.requestQueue.toList ++ w.worker.requests))
    (hresults : w'.results.Sublist w.results) : w'.Protocol fullSnapshot :=
  h.moved hobservation hclock hnow (hrequests.append (hresults.map request))
    fun _ hresult => .inl (hresults.subset hresult)

/-- The result a call has taken is the one that is waited for, and nothing else is on its way. -/
theorem Protocol.latest (h : w.Protocol fullSnapshot) {force : Bool} {result : WorkerResult}
    (hcontrol : w.control = .taking force (some result)) :
    w.requestQueue = none ∧ w.worker.requests = [] ∧ w.worker.results = [] ∧
    w.resultQueue = none ∧
      0 < result.sequence ∧ result.sequence = w.observation.snapshotRequestInflightSequence ∧
      w.observation.lastSnapshotResultSequence < result.sequence := by
  have hsingle := h.single
  have hheld := h.held (request result) (by
    simp [inflight, World.results, hcontrol, ControlPhase.results])
  simp only [inflight, World.results, hcontrol, ControlPhase.results, Option.toList_some,
    map_append,
    length_append, length_map, length_singleton] at hsingle
  have hsequence : result.sequence = w.observation.snapshotRequestInflightSequence := hheld.2.1
  have hpos : 0 < result.sequence := hheld.1
  have hfresh := h.fresh
  refine ⟨?_, eq_nil_of_length_eq_zero (by omega), eq_nil_of_length_eq_zero (by omega), ?_, hpos,
    hsequence, by omega⟩
  · exact Option.toList_eq_nil_iff.mp (eq_nil_of_length_eq_zero (by omega))
  · exact Option.toList_eq_nil_iff.mp (eq_nil_of_length_eq_zero (by omega))

/-- Nothing is on its way while nothing is waited for. -/
theorem Protocol.inflight_eq_nil (h : w.Protocol fullSnapshot)
    (hnone : w.observation.snapshotRequestInflightSequence = 0) : w.inflight = [] := by
  cases hinflight : w.inflight with
  | nil => rfl
  | cons request rest =>
    obtain ⟨hpos, hsequence, -⟩ := h.held request (hinflight ▸ mem_cons_self)
    omega

/-- The end of the first half of a call keeps the protocol. -/
theorem Protocol.served (h : w.Protocol fullSnapshot) {force : Bool}
    {latest : Option WorkerResult}
    (hcontrol : w.control = .taking force latest) :
    (w.served policy force latest).Protocol fullSnapshot := by
  cases latest with
  | none =>
    have hnumbers : (w.served policy force none).observation.numbers = w.observation.numbers :=
      Observation.numbers_watchWorker _
    simp only [Observation.numbers, Prod.mk.injEq] at hnumbers
    obtain ⟨hlast, hissued, hwaited⟩ := hnumbers
    have hresults : (w.served policy force none).results = w.results := by
      simp [World.results, World.served, hcontrol, ControlPhase.results]
    have hinflight : (w.served policy force none).inflight = w.inflight := by
      unfold inflight
      rw [hresults]
      rfl
    refine ⟨h.clock, hinflight ▸ h.single, ?_, ?_, ?_, ?_, hresults ▸ h.results⟩
    · rw [hinflight, hwaited]
      exact h.held
    · rw [hwaited, hlast]
      exact h.fresh
    · rw [hlast, hissued]
      exact h.issued
    · rw [hwaited, hissued]
      exact h.waited
  | some result =>
    obtain ⟨hqueue, hrequests, hresults, hresult, -, hexpected, hnew⟩ := h.latest hcontrol
    have hnumbers : (w.served policy force (some result)).observation.numbers =
        (w.observation.received result).numbers :=
      (Observation.numbers_watchWorker _).trans (Observation.numbers_takeResult result hnew)
    simp only [Observation.numbers, Observation.received, if_pos hexpected, Prod.mk.injEq]
      at hnumbers
    obtain ⟨hlast, hissued, hwaited⟩ := hnumbers
    have hresults' : (w.served policy force (some result)).results = [] := by
      simp [World.results, World.served, hresults, hresult, ControlPhase.results]
    have hinflight : (w.served policy force (some result)).inflight = [] := by
      unfold inflight
      rw [hresults']
      simp [World.served, hqueue, hrequests]
    refine ⟨h.clock, hinflight ▸ Nat.zero_le 1, ?_, .inl hwaited, ?_, ?_, ?_⟩
    · rw [hinflight]
      exact fun request hrequest => absurd hrequest not_mem_nil
    · rw [hlast, hissued, hexpected]
      exact h.waited
    · rw [hwaited]
      exact Nat.zero_le _
    · rw [hresults']
      exact fun result hresult => absurd hresult not_mem_nil

/-- The second half of a call keeps the protocol. -/
theorem Protocol.requested (h : w.Protocol fullSnapshot) {force : Bool}
    (hcontrol : w.control = .requesting force) :
    (w.requested policy force).Protocol fullSnapshot := by
  have hresults : (w.requested policy force).results = w.results := by
    simp [World.results, World.requested, hcontrol, ControlPhase.results]
  by_cases hrequests : w.observation.requests policy w.now force = true
  · have hnone : w.observation.snapshotRequestInflightSequence = 0 := by
      simp only [Observation.requests, decide_eq_true_eq] at hrequests
      exact hrequests.1
    have hempty := h.inflight_eq_nil hnone
    have hqueue : w.requestQueue = none := by
      simp only [inflight, append_eq_nil_iff, Option.toList_eq_nil_iff] at hempty
      exact hempty.1.1
    have hnumbers : (w.requested policy force).observation.numbers =
        (w.observation.lastSnapshotResultSequence,
        w.observation.snapshotRequestSequence + 1,
        w.observation.snapshotRequestSequence + 1) := by
      simp only [World.requested]
      rw [Observation.numbers_checkOutput, Observation.submitRequest_of_requests hrequests,
        hqueue]
      rfl
    simp only [Observation.numbers, Prod.mk.injEq] at hnumbers
    obtain ⟨hlast, hissued, hwaited⟩ := hnumbers
    have hinflight : (w.requested policy force).inflight =
        [⟨w.observation.snapshotRequestSequence + 1, w.now⟩] := by
      have hrest : w.worker.requests ++ w.results.map request = [] := by
        simp only [inflight, append_assoc, append_eq_nil_iff] at hempty
        simpa using hempty.2
      unfold inflight
      rw [hresults, append_assoc]
      have hworker : (w.requested policy force).worker = w.worker := rfl
      rw [hworker, hrest]
      simp [World.requested, hrequests, hqueue, Observation.submitRequest_of_requests]
    refine ⟨h.clock, hinflight ▸ le_rfl, ?_, ?_, ?_, ?_, hresults ▸ h.results⟩
    · rw [hinflight, hwaited]
      intro request hrequest
      rw [mem_singleton.mp hrequest]
      exact ⟨Nat.succ_pos _, rfl, h.clock⟩
    · rw [hwaited, hlast]
      exact .inr (Nat.lt_succ_of_le h.issued)
    · rw [hlast, hissued]
      exact h.issued.trans (Nat.le_succ _)
    · rw [hwaited, hissued]
  · have hrequests : w.observation.requests policy w.now force = false := by
      simpa using hrequests
    have hnumbers : (w.requested policy force).observation.numbers = w.observation.numbers := by
      simp only [World.requested]
      rw [Observation.numbers_checkOutput, Observation.submitRequest_of_not hrequests]
    simp only [Observation.numbers, Prod.mk.injEq] at hnumbers
    obtain ⟨hlast, hissued, hwaited⟩ := hnumbers
    have hinflight : (w.requested policy force).inflight = w.inflight := by
      unfold inflight
      rw [hresults]
      simp [World.requested, hrequests]
    refine ⟨h.clock, hinflight ▸ h.single, ?_, ?_, ?_, ?_, hresults ▸ h.results⟩
    · rw [hinflight, hwaited]
      exact h.held
    · rw [hwaited, hlast]
      exact h.fresh
    · rw [hlast, hissued]
      exact h.issued
    · rw [hwaited, hissued]
      exact h.waited

/-- **Every access keeps the protocol.** -/
theorem Protocol.step (h : w.Protocol fullSnapshot) {action : Action}
    (hstep : w.step policy fullSnapshot action = some w') : w'.Protocol fullSnapshot := by
  cases action with
  | tick lapse =>
    simp only [World.step, Option.ite_none_right_eq_some, Option.some.injEq] at hstep
    obtain ⟨hlapse, rfl⟩ := hstep
    have hclock : w.clock ≤ w.clock + lapse := le_add_of_nonneg_right hlapse
    exact h.passed rfl hclock (h.clock.trans hclock) (List.Sublist.refl _) (List.Sublist.refl _)
  | workerGets =>
    simp only [World.step] at hstep
    split at hstep
    case h_1 request hworker hqueue =>
      cases hstep
      refine h.passed rfl le_rfl h.clock ?_ ?_
      · simp [hworker, hqueue, WorkerPhase.requests]
      · simp [World.results, hworker, WorkerPhase.results]
    case h_2 => cases hstep
  | workerReads reading =>
    simp only [World.step] at hstep
    split at hstep
    case h_1 asked hworker =>
      simp only [Option.ite_none_right_eq_some, Option.some.injEq] at hstep
      obtain ⟨hreading, rfl⟩ := hstep
      have hrequested := (h.held asked (by simp [inflight, hworker, WorkerPhase.requests])).2.2
      refine h.moved rfl le_rfl h.clock ?_ ?_
      · simp [inflight, World.results, hworker, WorkerPhase.requests, WorkerPhase.results,
          request]
      intro result hresult
      simp only [World.results, WorkerPhase.results, cons_append, nil_append, mem_cons]
        at hresult
      cases hresult with
      | inl heq => exact .inr (heq ▸ ⟨hrequested, hreading⟩)
      | inr hrest => exact .inl (by
        simpa [World.results, hworker, WorkerPhase.results] using hrest)
    case h_2 => cases hstep
  | workerPuts =>
    simp only [World.step] at hstep
    split at hstep
    case h_1 result hworker =>
      split at hstep
      case h_1 hqueue =>
        cases hstep
        refine h.passed rfl le_rfl h.clock ?_ ?_
        · simp [hworker, WorkerPhase.requests]
        · simp [World.results, hworker, hqueue, WorkerPhase.results]
      case h_2 other hqueue =>
        cases hstep
        refine h.passed rfl le_rfl h.clock ?_ ?_
        · simp [hworker, WorkerPhase.requests]
        · simp [World.results, hworker, WorkerPhase.results]
    case h_2 result hworker =>
      cases hstep
      refine h.passed rfl le_rfl h.clock ?_ ?_
      · simp [hworker, WorkerPhase.requests]
      · simp [World.results, hworker, WorkerPhase.results]
    case h_3 result hworker =>
      cases hstep
      refine h.passed rfl le_rfl h.clock ?_ ?_
      · simp [hworker, WorkerPhase.requests]
      · cases hqueue : w.resultQueue with
        | none => simp [World.results, hworker, hqueue, WorkerPhase.results]
        | some other => simp [World.results, hworker, hqueue, WorkerPhase.results]
    case h_4 => cases hstep
  | workerStops =>
    cases hstep
    refine h.passed rfl le_rfl h.clock ?_ ?_
    · exact (List.Sublist.refl _).append (nil_sublist _)
    · exact ((nil_sublist _).append (List.Sublist.refl _)).append (List.Sublist.refl _)
  | call now force =>
    simp only [World.step, Option.ite_none_right_eq_some, Option.some.injEq] at hstep
    obtain ⟨⟨hidle, -, hnow⟩, rfl⟩ := hstep
    refine h.passed rfl le_rfl hnow (List.Sublist.refl _) ?_
    simp [World.results, hidle, ControlPhase.results]
  | takes =>
    simp only [World.step] at hstep
    split at hstep
    case h_1 force latest hcontrol =>
      split at hstep
      case h_1 result hqueue =>
        cases hstep
        refine h.passed rfl le_rfl h.clock (List.Sublist.refl _) ?_
        simp [World.results, hcontrol, hqueue, ControlPhase.results]
      case h_2 hqueue =>
        cases hstep
        exact h.served hcontrol
    case h_2 => cases hstep
  | requests =>
    simp only [World.step] at hstep
    split at hstep
    case h_1 force hcontrol =>
      cases hstep
      exact h.requested hcontrol
    case h_2 => cases hstep

end World

/-! ## Each result is taken once -/

/-- The time stamps are in order for the call that has taken the result. -/
def Take.InOrder (take : Take) : Prop :=
  0 < take.result.requestedMonotonic ∧ take.result.completedMonotonic ≤ take.now

/-- The result was completed within the timeout of its request, and is taken before it is stale.
-/
def Take.InTime (policy : ObservationPolicy) (take : Take) : Prop :=
  take.result.completedMonotonic - take.result.requestedMonotonic ≤
    policy.snapshotWorkerTimeoutSec ∧
    take.now - take.result.completedMonotonic ≤ policy.exchangeMaxAgeSec

namespace World

variable {policy : ObservationPolicy} {fullSnapshot : Bool} {w w' : World}

/-- A step is one of the two halves of a call, or leaves what is known alone. -/
theorem step_cases {action : Action} (hstep : w.step policy fullSnapshot action = some w') :
    (w'.observation = w.observation ∧ w'.takes = w.takes ∧ w'.outcomes = w.outcomes) ∨
      (∃ force latest, w.control = .taking force latest ∧ w' = w.served policy force latest) ∨
      ∃ force, w.control = .requesting force ∧ w' = w.requested policy force := by
  cases action with
  | takes =>
    simp only [World.step] at hstep
    split at hstep
    case h_1 force latest hcontrol =>
      split at hstep
      case h_1 => exact .inl (by cases hstep; exact ⟨rfl, rfl, rfl⟩)
      case h_2 => exact .inr (.inl ⟨force, latest, hcontrol, (Option.some.inj hstep).symm⟩)
    case h_2 => cases hstep
  | requests =>
    simp only [World.step] at hstep
    split at hstep
    case h_1 force hcontrol => exact .inr (.inr ⟨force, hcontrol, (Option.some.inj hstep).symm⟩)
    case h_2 => cases hstep
  | workerStops => exact .inl (by cases hstep; exact ⟨rfl, rfl, rfl⟩)
  | _ =>
    refine .inl ?_
    simp only [World.step] at hstep
    repeat' split at hstep
    all_goals first
      | cases hstep; exact ⟨rfl, rfl, rfl⟩
      | cases hstep

/-- **The results that were taken.** -/
structure Taken (policy : ObservationPolicy) (w : World) : Prop where
  ordered : w.takes.Pairwise fun later earlier => earlier.result.sequence < later.result.sequence
  bounded : ∀ take ∈ w.takes, take.result.sequence ≤ w.observation.lastSnapshotResultSequence
  expected : ∀ take ∈ w.takes, take.result.sequence = take.expected
  handled : ∀ take ∈ w.takes, take.handling = .applied ↔ take.InOrder ∧ take.InTime policy
  reported : ∀ take ∈ w.takes, ∀ outcome ∈ take.outcomes, outcome ∈ w.outcomes

/-- The result that is waited for is applied when its time stamps are in order and in time. -/
theorem Protocol.handling_eq_applied_iff (h : w.Protocol fullSnapshot) {force : Bool}
    {result : WorkerResult}
    (hcontrol : w.control = .taking force (some result)) {expected : ℕ} {handling : Handling} :
    w.observation.handling policy w.now result = .applied ↔
      (Take.mk w.now expected result handling).InOrder ∧
      (Take.mk w.now expected result handling).InTime policy := by
  obtain ⟨-, -, -, -, hpos, hexpected, hnew⟩ := h.latest hcontrol
  have hcompleted := (h.results result (by
    simp [World.results, hcontrol, ControlPhase.results])).1
  rw [Observation.handling_eq_applied_iff]
  unfold Take.InOrder Take.InTime
  constructor
  · rintro ⟨-, ⟨-, -, hrequested, -, hbefore⟩, htimeout, hage⟩
    rw [min_eq_right hbefore] at hage
    exact ⟨⟨hrequested, hbefore⟩, htimeout, hage⟩
  · rintro ⟨⟨hrequested, hbefore⟩, htimeout, hage⟩
    refine ⟨hnew, ⟨hpos, hexpected, hrequested, hcompleted, hbefore⟩, htimeout, ?_⟩
    rw [min_eq_right hbefore]
    exact hage

/-- Every access keeps what is known of the results that were taken. -/
theorem Taken.step (h : w.Taken policy) (hprotocol : w.Protocol fullSnapshot) {action : Action}
    (hstep : w.step policy fullSnapshot action = some w') : w'.Taken policy := by
  have hsame : ∀ {w' : World}, w'.takes = w.takes →
      w'.observation.lastSnapshotResultSequence = w.observation.lastSnapshotResultSequence →
      (∀ outcome ∈ w.outcomes, outcome ∈ w'.outcomes) → w'.Taken policy := by
    intro w' htakes hlast houtcomes
    refine ⟨htakes ▸ h.ordered, ?_, htakes ▸ h.expected, htakes ▸ h.handled, ?_⟩
    · rw [htakes, hlast]
      exact h.bounded
    · rw [htakes]
      exact fun take htake outcome houtcome =>
        houtcomes outcome (h.reported take htake outcome houtcome)
  obtain ⟨hobservation, htakes, houtcomes⟩ | ⟨force, latest, hcontrol, rfl⟩ |
    ⟨force, hcontrol, rfl⟩ :=
    step_cases hstep
  · exact hsame htakes (hobservation ▸ rfl) fun _ houtcome => houtcomes ▸ houtcome
  · cases latest with
    | none =>
      have hnumbers : (w.served policy force none).observation.numbers = w.observation.numbers :=
        Observation.numbers_watchWorker _
      refine hsame rfl (congrArg Prod.fst hnumbers) fun _ houtcome => ?_
      exact mem_append_right _ (mem_append_right _ houtcome)
    | some result =>
      obtain ⟨-, -, -, -, -, hexpected, hnew⟩ := hprotocol.latest hcontrol
      have hnumbers : (w.served policy force (some result)).observation.numbers =
          (w.observation.received result).numbers :=
        (Observation.numbers_watchWorker _).trans (Observation.numbers_takeResult result hnew)
      have hlast : (w.served policy force (some result)).observation.lastSnapshotResultSequence =
          result.sequence := congrArg Prod.fst hnumbers
      have hbefore : ∀ take ∈ w.takes, take.result.sequence < result.sequence :=
        fun take htake => (h.bounded take htake).trans_lt hnew
      refine ⟨pairwise_cons.mpr ⟨hbefore, h.ordered⟩, ?_, ?_, ?_, ?_⟩
      · rw [hlast]
        exact forall_mem_cons.mpr ⟨le_rfl, fun take htake => (hbefore take htake).le⟩
      · exact forall_mem_cons.mpr ⟨hexpected, h.expected⟩
      · exact forall_mem_cons.mpr ⟨hprotocol.handling_eq_applied_iff hcontrol, h.handled⟩
      refine forall_mem_cons.mpr ⟨fun outcome houtcome => ?_,
        fun take htake outcome houtcome => ?_⟩
      · refine mem_append_right _ (mem_append_left _ ?_)
        exact mem_flatMap.mpr ⟨_, mem_singleton_self _, houtcome⟩
      · exact mem_append_right _ (mem_append_right _ (h.reported take htake outcome houtcome))
  · refine hsame rfl ?_ fun _ houtcome => mem_append_right _ houtcome
    have hnumbers : (w.requested policy force).observation.numbers =
        (w.observation.submitRequest policy w.now force
          { submitted := w.requestQueue.isNone }).numbers :=
      Observation.numbers_checkOutput
    rw [show (w.requested policy force).observation.lastSnapshotResultSequence = _
      from congrArg Prod.fst hnumbers]
    cases hrequests : w.observation.requests policy w.now force with
    | false =>
      rw [Observation.submitRequest_of_not hrequests]
      rfl
    | true =>
      rw [Observation.submitRequest_of_requests hrequests]
      split
      · rfl
      · exact congrArg Prod.fst (Observation.numbers_markUnhealthy _)

end World

/-! ## What the observation says is the latest outcome -/

/-- **What is known of the exchange**, from the outcomes. -/
structure Told (fullSnapshot : Bool) (o : Observation) (takes : List Take)
    (outcomes : List Outcome) : Prop where
  healthy : o.exchangeHealthy = true → ∃ take rest,
    outcomes = .checked take :: rest ∨ outcomes = .evaluated take :: rest
  success : ∀ take rest, outcomes = .evaluated take :: rest →
    o.lastExchangeSuccessAt = take.result.completedMonotonic
  counted : o.riskSnapshotSequence = outcomes.countP Outcome.isEvaluated
  checked : ∀ take, .checked take ∈ outcomes → fullSnapshot = false
  evaluated : ∀ take, .evaluated take ∈ outcomes →
    fullSnapshot = true ∧ take ∈ takes ∧ take.handling = .applied

namespace Told

variable {policy : ObservationPolicy} {fullSnapshot : Bool} {o o' : Observation}
  {takes : List Take}
  {outcomes : List Outcome}

theorem start (equity : EquityState) : Told fullSnapshot { equity := equity } takes [] where
  healthy hhealthy := by cases hhealthy
  success take rest houtcomes := by cases houtcomes
  counted := rfl
  checked take htake := absurd htake not_mem_nil
  evaluated take htake := absurd htake not_mem_nil

theorem congr (h : Told fullSnapshot o takes outcomes)
    (hhealthy : o'.exchangeHealthy = o.exchangeHealthy)
    (hsuccesses : o'.successes = o.successes) : Told fullSnapshot o' takes outcomes where
  healthy := hhealthy ▸ h.healthy
  success take rest houtcomes :=
    (congrArg Prod.fst hsuccesses).trans (h.success take rest houtcomes)
  counted := (congrArg Prod.snd hsuccesses).trans h.counted
  checked := h.checked
  evaluated := h.evaluated

theorem took (h : Told fullSnapshot o takes outcomes) (take : Take) :
    Told fullSnapshot o (take :: takes) outcomes where
  healthy := h.healthy
  success := h.success
  counted := h.counted
  checked := h.checked
  evaluated other hother :=
    ⟨(h.evaluated other hother).1, mem_cons_of_mem _ (h.evaluated other hother).2.1,
      (h.evaluated other hother).2.2⟩

/-- After a call of `mark_unhealthy`. -/
theorem unhealthy (h : Told fullSnapshot o takes outcomes) (reason text : String) :
    Told fullSnapshot (o.markUnhealthy reason) takes (.unhealthy text :: outcomes) where
  healthy hhealthy := by simp at hhealthy
  success take rest houtcomes := by cases houtcomes
  counted := by
    rw [countP_cons_of_neg (by simp [Outcome.isEvaluated]), ← h.counted]
    exact congrArg Prod.snd (Observation.successes_markUnhealthy reason)
  checked take htake := h.checked take (by simpa using htake)
  evaluated take htake := h.evaluated take (by simpa using htake)

/-- After many of them. -/
theorem complaints (h : Told fullSnapshot o takes outcomes) (reasons : List String) :
    Told fullSnapshot (reasons.foldl Observation.markUnhealthy o) takes
      ((reasons.map Outcome.unhealthy).reverse ++ outcomes) := by
  induction reasons generalizing o outcomes with
  | nil => exact h
  | cons reason reasons ih =>
    rw [map_cons, reverse_cons, append_assoc]
    exact ih (h.unhealthy reason reason)

/-- After a result was applied. -/
theorem applied (h : Told fullSnapshot o takes outcomes) {take : Take} (htake : take ∈ takes)
    (hhandling : take.handling = .applied)
    (hreading : answers fullSnapshot take.result.reading = true) :
    Told fullSnapshot (o.applyResult take.result.reading take.result.completedMonotonic) takes
      (take.outcomes ++ outcomes) := by
  unfold Take.outcomes
  rw [hhandling]
  cases hread : take.result.reading with
  | unhealthy reason => exact h.unhealthy _ _
  | malformed => exact h.unhealthy _ _
  | raised reason equity =>
    have hequity : Told fullSnapshot { o with equity := equity } takes outcomes :=
      h.congr rfl rfl
    exact hequity.unhealthy _ _
  | channel =>
    rw [hread] at hreading
    have hfull : fullSnapshot = false := by simpa [answers] using hreading
    refine ⟨fun _ => ⟨take, outcomes, .inl rfl⟩, fun other rest houtcomes => ?_, ?_,
      fun _ _ => hfull,
      fun other hother => ?_⟩
    · cases houtcomes
    · exact h.counted.trans (countP_cons_of_neg (by simp [Outcome.isEvaluated])).symm
    · exact h.evaluated other (by simpa using hother)
  | assessed a equity capturedAt =>
    rw [hread] at hreading
    have hfull : fullSnapshot = true := by simpa [answers] using hreading
    refine ⟨fun _ => ⟨take, outcomes, .inr rfl⟩, ?_, ?_, fun other hother => ?_,
      fun other hother => ?_⟩
    · rintro other rest houtcomes
      cases houtcomes
      rfl
    · rw [singleton_append, countP_cons_of_pos rfl, ← h.counted]
      rfl
    · exact h.checked other (by simpa using hother)
    · obtain heq | hmem := mem_cons.mp hother
      · cases heq
        exact ⟨hfull, htake, hhandling⟩
      · exact h.evaluated other hmem

end Told

namespace World

variable {policy : ObservationPolicy} {fullSnapshot : Bool} {w w' : World}

/-- The worker, the results and what is told of them. -/
structure Sound (policy : ObservationPolicy) (fullSnapshot : Bool) (w : World) : Prop where
  protocol : w.Protocol fullSnapshot
  taken : w.Taken policy
  told : Told fullSnapshot w.observation w.takes w.outcomes

theorem sound_start (equity : EquityState) (clock : ℚ) :
    (start equity clock).Sound policy fullSnapshot := by
  have htakes : (start equity clock).takes = [] := rfl
  refine ⟨protocol_start equity clock, ⟨List.Pairwise.nil, ?_, ?_, ?_, ?_⟩, Told.start equity⟩
  all_goals
    rw [htakes]
    exact fun take htake => absurd htake not_mem_nil

/-- What is told after the first half of a call. -/
theorem Sound.told_served (h : w.Sound policy fullSnapshot) {force : Bool}
    {latest : Option WorkerResult}
    (hcontrol : w.control = .taking force latest) :
    Told fullSnapshot (w.served policy force latest).observation
      (w.served policy force latest).takes
      (w.served policy force latest).outcomes := by
  simp only [World.served, Observation.watchWorker_eq]
  cases latest with
  | none => exact h.told.complaints _
  | some result =>
    refine Told.complaints ?_ _
    simp only [Option.toList_some, map_cons, map_nil, flatMap_cons, flatMap_nil,
      append_nil, singleton_append]
    obtain ⟨-, -, -, -, -, hexpected, hnew⟩ := h.protocol.latest hcontrol
    have hreceived : Told fullSnapshot (w.observation.received result) w.takes w.outcomes :=
      h.told.congr rfl rfl
    rw [Observation.takeResult_eq]
    cases hhandling : w.observation.handling policy w.now result with
    | ignored =>
      unfold Observation.handling at hhandling
      rw [if_neg (not_le.mpr hnew)] at hhandling
      split_ifs at hhandling
    | refused reason => exact (hreceived.took _).unhealthy _ _
    | applied =>
      have hbefore : result.completedMonotonic ≤ w.now :=
        ((Observation.handling_eq_applied_iff policy _ _ _).mp hhandling).2.1.2.2.2.2
      have hreading := (h.protocol.results result (by
        simp [World.results, hcontrol, ControlPhase.results])).2
      dsimp only
      rw [min_eq_right hbefore]
      exact (hreceived.took ⟨w.now, w.observation.snapshotRequestInflightSequence, result,
        .applied⟩).applied
        mem_cons_self rfl hreading

/-- What is told after the second half of a call. -/
theorem Sound.told_requested (h : w.Sound policy fullSnapshot) (force : Bool) :
    Told fullSnapshot (w.requested policy force).observation (w.requested policy force).takes
      (w.requested policy force).outcomes := by
  simp only [World.requested, Observation.checkOutput_eq, map_append, reverse_append,
    append_assoc]
  refine Told.complaints ?_ _
  cases hrequests : w.observation.requests policy w.now force with
  | false =>
    rw [Observation.submitRequest_of_not hrequests]
    exact h.told
  | true =>
    rw [Observation.submitRequest_of_requests hrequests]
    cases hqueue : w.requestQueue with
    | none => exact h.told.congr rfl rfl
    | some request =>
      have hnext : Told fullSnapshot { w.observation with
          snapshotRequestSequence :=
          w.observation.snapshotRequestSequence + 1 } w.takes w.outcomes :=
        h.told.congr rfl rfl
      exact hnext.unhealthy _ _

/-- **Every access keeps all of it.** -/
theorem Sound.step (h : w.Sound policy fullSnapshot) {action : Action}
    (hstep : w.step policy fullSnapshot action = some w') : w'.Sound policy fullSnapshot := by
  refine ⟨h.protocol.step hstep, h.taken.step h.protocol hstep, ?_⟩
  obtain ⟨hobservation, htakes, houtcomes⟩ | ⟨force, latest, hcontrol, rfl⟩ |
    ⟨force, hcontrol, rfl⟩ :=
    step_cases hstep
  · rw [hobservation, htakes, houtcomes]
    exact h.told
  · exact h.told_served hcontrol
  · exact h.told_requested force

/-- A valid snapshot is what the latest outcome was. -/
theorem Sound.latest_evaluated (h : w.Sound policy fullSnapshot) {now : ℚ}
    (hvalid : w.observation.snapshotValid policy now = true) :
    ∃ take rest, w.outcomes = .evaluated take :: rest ∧ take.result.completedMonotonic ≤ now ∧
      now - take.result.completedMonotonic ≤ policy.exchangeMaxAgeSec ∧
      take.result.completedMonotonic - take.result.requestedMonotonic ≤
        policy.snapshotWorkerTimeoutSec := by
  simp only [Observation.snapshotValid, decide_eq_true_eq] at hvalid
  obtain ⟨hhealthy, hcount, ⟨-, hbefore⟩, -, -, hage, -⟩ := hvalid
  rw [h.told.counted, countP_pos_iff] at hcount
  obtain ⟨outcome, hmem, hevaluated⟩ := hcount
  have hfull : fullSnapshot = true := by
    cases outcome with
    | evaluated take => exact (h.told.evaluated take hmem).1
    | unhealthy reason => cases hevaluated
    | checked take => cases hevaluated
  obtain ⟨take, rest, hhead | hhead⟩ := h.told.healthy hhealthy
  · have hnot := h.told.checked take (hhead ▸ mem_cons_self)
    rw [hfull] at hnot
    cases hnot
  · obtain ⟨-, htake, happlied⟩ := h.told.evaluated take (hhead ▸ mem_cons_self)
    have htime := ((h.taken.handled take htake).mp happlied).2
    rw [h.told.success take rest hhead] at hbefore hage
    exact ⟨take, rest, hhead, hbefore, hage, htime.1⟩

/-- **One request, one result, and no result too much.**  Wherever the accesses of the two
threads have led, the results that were taken have increasing numbers, and those applied the
number that was waited for; the snapshot sequence counts the evaluations; a snapshot is valid
only by the latest outcome; and of the results that were in time those were applied, and with
them evaluated, whose time stamps were positive and not after the clock reading of the call. -/
theorem snapshots_follow_requests (policy : ObservationPolicy) (fullSnapshot : Bool)
    (equity : EquityState)
    (clock : ℚ) (actions : List Action) (w : World)
    (hrun : Run.exec (step policy fullSnapshot) (start equity clock) actions = some w) :
    ((w.takes.Pairwise fun later earlier => earlier.result.sequence < later.result.sequence) ∧
        ∀ take ∈ w.takes, take.handling = .applied → take.result.sequence = take.expected) ∧
      w.observation.riskSnapshotSequence = w.outcomes.countP Outcome.isEvaluated ∧
      (∀ now, w.observation.snapshotValid policy now = true →
        ∃ take rest, w.outcomes = .evaluated take :: rest ∧
        take.result.completedMonotonic ≤ now ∧
        now - take.result.completedMonotonic ≤ policy.exchangeMaxAgeSec ∧
        take.result.completedMonotonic - take.result.requestedMonotonic ≤
          policy.snapshotWorkerTimeoutSec) ∧
      ∀ take ∈ w.takes, take.InTime policy →
        ((take.handling = .applied ↔ take.InOrder) ∧
          ∀ a equityAfter capturedAt, take.result.reading = .assessed a equityAfter capturedAt →
            (.evaluated take ∈ w.outcomes ↔ take.InOrder)) := by
  have h : w.Sound policy fullSnapshot :=
    Run.exec_preserves (fun _ _ _ hsound hstep =>
      hsound.step hstep) (sound_start equity clock) hrun
  refine ⟨⟨h.taken.ordered, fun take htake _ => h.taken.expected take htake⟩, h.told.counted,
    fun now => h.latest_evaluated, fun take htake htime => ?_⟩
  have happlied : take.handling = .applied ↔ take.InOrder := by
    rw [h.taken.handled take htake]
    exact and_iff_left htime
  refine ⟨happlied, fun a equityAfter capturedAt hreading => ?_⟩
  constructor
  · exact fun hevaluated => happlied.mp (h.told.evaluated take hevaluated).2.2
  intro horder
  refine h.taken.reported take htake _ ?_
  unfold Take.outcomes
  rw [happlied.mpr horder, hreading]
  exact mem_singleton_self _

/-- The settings of the two runs below: a poll each second, a timeout of 3 and an age of 5
seconds. -/
def secondPolicy : ObservationPolicy := ⟨true, 1, 5, 3⟩

/-- A full snapshot without positions. -/
def flatSnapshot : Reading := .assessed ⟨.none, "", 0, 0⟩ {} 11

/-- The worker is asked at 10, has finished at 11, and its result is taken at 12. -/
def punctual : List Action :=
  [.call 10 false, .takes, .requests, .workerGets, .tick 1, .workerReads flatSnapshot,
    .workerPuts, .tick 1,
    .call 12 false, .takes, .takes]

/-- The clock is read at 11; the worker finishes and its result is taken a tenth of a second
later. -/
def overtaken : List Action :=
  [.call 10 false, .takes, .requests, .workerGets, .tick 1, .call 11 false, .tick (1 / 10),
    .workerReads flatSnapshot, .workerPuts, .takes, .takes]

theorem snapshots_follow_requests_punctual :
    ∃ w, Run.exec (step secondPolicy true) (start {} 10) punctual = some w ∧ w.takes.length = 1 ∧
      w.observation.riskSnapshotSequence = w.outcomes.countP Outcome.isEvaluated := by
  have hany : (Run.exec (step secondPolicy true) (start {} 10) punctual).any
      (fun w => decide (w.takes.length = 1)) = true := by decide +kernel
  obtain ⟨w, hrun, htakes⟩ := (Option.any_eq_true _ _).mp hany
  exact ⟨w, hrun, of_decide_eq_true htakes,
    (snapshots_follow_requests secondPolicy true {} 10 punctual w hrun).2.1⟩

/-- **Refused for the order of two clock readings.**  The full snapshot of a healthy exchange was
completed within the timeout and taken when it was not a second old, but the clock had been read
before it was completed: it is not evaluated, and the exchange is marked unhealthy. -/
theorem overtaken_result_is_refused :
    let take : Take := ⟨11, 1, ⟨1, 10, 111 / 10, flatSnapshot⟩,
      .refused "exchange_snapshot_worker_timestamp_invalid"⟩
    take.InTime secondPolicy ∧
      ∃ w, Run.exec (step secondPolicy true) (start {} 10) overtaken = some w ∧
      w.takes = [take] ∧
        .evaluated take ∉ w.outcomes ∧
        w.outcomes.head? = some (.unhealthy "exchange_snapshot_worker_timestamp_invalid") ∧
        w.observation.exchangeHealthy = false := by
  intro take
  have hany : (Run.exec (step secondPolicy true) (start {} 10) overtaken).any (fun w =>
      decide (w.takes = [take] ∧ .evaluated take ∉ w.outcomes ∧
        w.outcomes.head? = some (.unhealthy "exchange_snapshot_worker_timestamp_invalid") ∧
        w.observation.exchangeHealthy = false)) = true := by decide +kernel
  obtain ⟨w, hrun, hfacts⟩ := (Option.any_eq_true _ _).mp hany
  refine ⟨?_, w, hrun, of_decide_eq_true hfacts⟩
  unfold Take.InTime secondPolicy
  norm_num [take]

end World

end SnapshotWorker

end ChronosHFT.Sidecar
