import ChronosHFT.Lib.Run
import ChronosHFT.Sidecar.Observation

/-!
# The snapshot worker of the sidecar

`risk/sidecar_snapshot_worker.py` beside `service_worker` of `risk/sidecar_observation.py`.  The
control loop reads the clock and calls `service_worker`, which takes what the worker has put into
the one-slot result queue and may put a request into the one-slot request queue.  The worker
takes the request, queries the exchange, stamps the result with the same clock and puts it back.

A step of the `World` is one access to what the two threads share: a `get_nowait`, a
`put_nowait`, `is_alive`, or a reading of the clock.  What a call does with its own state in
between belongs to the access before it. -/

namespace ChronosHFT.Sidecar

/-! ## What a call does, and what it says about it -/

/-- What `service_worker` does with a result it has taken. -/
inductive Handling
  | ignored
  | refused (reason : String)
  | applied
  deriving DecidableEq, Repr

namespace Observation

variable (policy : ObservationPolicy)

/-- The result has come: it is no longer waited for. -/
def received (o : Observation) (result : WorkerResult) : Observation :=
  { o with
    lastSnapshotResultSequence := result.sequence
    snapshotRequestInflightSequence :=
      if result.sequence = o.snapshotRequestInflightSequence then 0
        else o.snapshotRequestInflightSequence
    snapshotRequestInflightSince :=
      if result.sequence = o.snapshotRequestInflightSequence then 0
        else o.snapshotRequestInflightSince }

/-- The checks `service_worker` makes before it calls `apply_result`. -/
def handling (o : Observation) (now : ℚ) (result : WorkerResult) : Handling :=
  if result.sequence ≤ o.lastSnapshotResultSequence then .ignored
  else if ¬(0 < result.sequence ∧ result.sequence = o.snapshotRequestInflightSequence ∧
      0 < result.requestedMonotonic ∧ result.requestedMonotonic ≤ result.completedMonotonic ∧
      result.completedMonotonic ≤ now) then .refused "exchange_snapshot_worker_timestamp_invalid"
  else if policy.snapshotWorkerTimeoutSec < result.completedMonotonic - result.requestedMonotonic
    then
    .refused "exchange_snapshot_worker_deadline_exceeded"
  else if policy.exchangeMaxAgeSec < now - min now result.completedMonotonic then
    .refused "exchange_snapshot_worker_result_stale"
  else .applied

/-- The call does as it has checked. -/
theorem takeResult_eq (o : Observation) (now : ℚ) (result : WorkerResult) :
    o.takeResult policy now result =
      match o.handling policy now result with
      | .ignored => o
      | .refused reason => (o.received result).markUnhealthy reason
      | .applied => (o.received result).applyResult result.reading (min now
        result.completedMonotonic) := by
  unfold takeResult handling
  by_cases hold : result.sequence ≤ o.lastSnapshotResultSequence
  · rw [if_pos hold, if_pos hold]
  rw [if_neg hold, if_neg hold]
  have hreceived : (if result.sequence = o.snapshotRequestInflightSequence then
        { { o with lastSnapshotResultSequence := result.sequence } with
          snapshotRequestInflightSequence := 0
          snapshotRequestInflightSince := 0 }
      else { o with lastSnapshotResultSequence := result.sequence }) = o.received result := by
    unfold received
    by_cases hexpected : result.sequence = o.snapshotRequestInflightSequence
    · rw [if_pos hexpected, if_pos hexpected, if_pos hexpected]
    · rw [if_neg hexpected, if_neg hexpected, if_neg hexpected]
  dsimp only
  rw [hreceived]
  split_ifs <;> rfl

theorem handling_eq_applied_iff (o : Observation) (now : ℚ) (result : WorkerResult) :
    o.handling policy now result = .applied ↔
      o.lastSnapshotResultSequence < result.sequence ∧
        (0 < result.sequence ∧ result.sequence = o.snapshotRequestInflightSequence ∧
          0 < result.requestedMonotonic ∧ result.requestedMonotonic ≤ result.completedMonotonic ∧
          result.completedMonotonic ≤ now) ∧
        result.completedMonotonic - result.requestedMonotonic ≤ policy.snapshotWorkerTimeoutSec ∧
        now - min now result.completedMonotonic ≤ policy.exchangeMaxAgeSec := by
  unfold handling
  constructor
  · intro happlied
    split_ifs at happlied with hold htiming hdeadline hstale
    exact ⟨not_le.mp hold, htiming, not_lt.mp hdeadline, not_lt.mp hstale⟩
  · rintro ⟨hlast, htiming, hdeadline, hstale⟩
    rw [if_neg (not_le.mpr hlast), if_neg (not_not.mpr htiming), if_neg (not_lt.mpr hdeadline),
      if_neg (not_lt.mpr hstale)]

/-- The reasons for which watching the worker marks the exchange unhealthy. -/
def watchComplaints (o : Observation) (now : ℚ) (alive : Bool) : List String :=
  (if 0 < o.snapshotRequestInflightSince ∧
      policy.snapshotWorkerTimeoutSec < max 0 (now - o.snapshotRequestInflightSince) then
    ["exchange_snapshot_worker_timeout"] else []) ++
  (if alive then [] else ["exchange_snapshot_worker_down"])

theorem watchWorker_eq (o : Observation) (now : ℚ) (input : ServiceInput) :
    o.watchWorker policy now input =
      (o.watchComplaints policy now input.alive).foldl markUnhealthy o := by
  unfold watchWorker watchComplaints
  rw [List.foldl_append]
  dsimp only
  split_ifs <;> rfl

/-- The call hands out a request. -/
def requests (o : Observation) (now : ℚ) (force : Bool) : Bool :=
  o.snapshotRequestInflightSequence = 0 ∧
    (force ∨ (o.lastExchangePollAt ≤ 0 ∨
      policy.exchangePollIntervalSec ≤ now - o.lastExchangePollAt))

/-- The reasons for which the end of the call marks the exchange unhealthy. -/
def outputComplaints (o : Observation) (now : ℚ) : List String :=
  if o.lastExchangeSuccessAt ≤ 0 then
    if o.exchangeReason = "" ∨ o.exchangeReason = "exchange_check_missing" then
      ["exchange_snapshot_worker_pending"]
    else []
  else if policy.exchangeMaxAgeSec < now - o.lastExchangeSuccessAt then
    ["exchange_snapshot_worker_output_stale"]
  else []

theorem checkOutput_eq (o : Observation) (now : ℚ) :
    o.checkOutput policy now = (o.outputComplaints policy now).foldl markUnhealthy o := by
  unfold checkOutput outputComplaints
  split_ifs <;> rfl

end Observation

/-! ## The two threads -/

namespace SnapshotWorker

/-- An item of the request queue. -/
structure Request where
  sequence : ℕ
  requestedMonotonic : ℚ
  deriving DecidableEq, Repr

/-- Where `_run` stands; `put_latest` is three accesses to the result queue at most. -/
inductive WorkerPhase
  | waiting
  | querying (request : Request)
  | putting (result : WorkerResult)
  | discarding (result : WorkerResult)
  | puttingAgain (result : WorkerResult)
  | stopped
  deriving DecidableEq, Repr

/-- Where the control loop stands in `service_worker`. -/
inductive ControlPhase
  | idle
  | taking (force : Bool) (latest : Option WorkerResult)
  | requesting (force : Bool)
  deriving DecidableEq, Repr

/-- A result a call has taken, as the call met it. -/
structure Take where
  now : ℚ
  expected : ℕ
  result : WorkerResult
  handling : Handling
  deriving DecidableEq, Repr

/-- What becomes known of the exchange: a call of `mark_unhealthy`, a channel check that passed,
or a full snapshot that was evaluated. -/
inductive Outcome
  | unhealthy (reason : String)
  | checked (take : Take)
  | evaluated (take : Take)
  deriving DecidableEq, Repr

namespace Outcome

/-- A full snapshot was evaluated without exception. -/
def isEvaluated : Outcome → Bool
  | .evaluated _ => true
  | _ => false

end Outcome

/-- What a take makes known. -/
def Take.outcomes (take : Take) : List Outcome :=
  match take.handling with
  | .ignored => []
  | .refused reason => [.unhealthy reason]
  | .applied =>
    match take.result.reading with
    | .unhealthy reason => [.unhealthy (orText reason "exchange_snapshot_failed")]
    | .channel => [.checked take]
    | .malformed => [.unhealthy "exchange_snapshot_payload_invalid"]
    | .raised reason _ => [.unhealthy s!"snapshot_evaluation_exception:{reason}"]
    | .assessed _ _ _ => [.evaluated take]

/-- A reading an exchange can give that does, or does not, have `get_risk_snapshot`. -/
def answers (fullSnapshot : Bool) : Reading → Bool
  | .unhealthy _ => true
  | .channel => !fullSnapshot
  | .malformed => fullSnapshot
  | .raised _ _ => fullSnapshot
  | .assessed _ _ _ => fullSnapshot

/-- The control loop, the worker and the two queues between them.  `now` is the clock reading of
the latest call. `takes` and `outcomes` say what happened so far, the newest first. -/
structure World where
  clock : ℚ
  now : ℚ
  requestQueue : Option Request := none
  resultQueue : Option WorkerResult := none
  worker : WorkerPhase := .waiting
  control : ControlPhase := .idle
  observation : Observation
  takes : List Take := []
  outcomes : List Outcome := []
  deriving DecidableEq, Repr

/-- Time that passes, the accesses of the worker, and those of the control loop. -/
inductive Action
  | tick (lapse : ℚ)
  | workerGets
  | workerReads (reading : Reading)
  | workerPuts
  | workerStops
  | call (now : ℚ) (force : Bool)
  | takes
  | requests
  deriving DecidableEq, Repr

namespace World

/-- The sidecar as it starts. -/
def start (equity : EquityState) (clock : ℚ) : World where
  clock := clock
  now := clock
  observation := { equity := equity }

variable (policy : ObservationPolicy)

/-- The call has found the result queue empty: what it does up to `is_alive`. -/
def served (w : World) (force : Bool) (latest : Option WorkerResult) : World :=
  let o := match latest with
    | none => w.observation
    | some result => w.observation.takeResult policy w.now result
  let takes := latest.toList.map fun result =>
    ⟨w.now, w.observation.snapshotRequestInflightSequence, result,
      w.observation.handling policy w.now result⟩
  let alive : Bool := w.worker ≠ .stopped
  { w with
    control := .requesting force
    observation := o.watchWorker policy w.now { result := latest, alive := alive }
    takes := takes ++ w.takes
    outcomes := ((o.watchComplaints policy w.now alive).map Outcome.unhealthy).reverse ++
      (takes.flatMap Take.outcomes ++ w.outcomes) }

/-- The rest of the call, with its `submit`. -/
def requested (w : World) (force : Bool) : World :=
  let submitted := w.requestQueue.isNone
  let o := w.observation.submitRequest policy w.now force { submitted := submitted }
  let full := if w.observation.requests policy w.now force ∧ ¬submitted then
    ["exchange_snapshot_worker_queue_full"] else []
  { w with
    control := .idle
    requestQueue :=
      if w.observation.requests policy w.now force ∧
        submitted then some ⟨o.snapshotRequestSequence, w.now⟩
      else w.requestQueue
    observation := o.checkOutput policy w.now
    outcomes := ((full ++ o.outputComplaints policy w.now).map Outcome.unhealthy).reverse ++
      w.outcomes }

/-- One access of one thread. -/
def step (fullSnapshot : Bool) (w : World) : Action → Option World
  | .tick lapse => if 0 ≤ lapse then some { w with clock := w.clock + lapse } else none
  | .workerGets =>
    match w.worker, w.requestQueue with
    | .waiting, some request => some { w with worker := .querying request, requestQueue := none }
    | _, _ => none
  | .workerReads reading =>
    match w.worker with
    | .querying request =>
      if answers fullSnapshot reading then
        some { w with worker := .putting ⟨request.sequence, request.requestedMonotonic, w.clock,
          reading⟩ }
      else none
    | _ => none
  | .workerPuts =>
    match w.worker with
    | .putting result =>
      match w.resultQueue with
      | none => some { w with resultQueue := some result, worker := .waiting }
      | some _ => some { w with worker := .discarding result }
    | .discarding result => some { w with resultQueue := none, worker := .puttingAgain result }
    | .puttingAgain result =>
      some { w with resultQueue := some (w.resultQueue.getD result), worker := .waiting }
    | _ => none
  | .workerStops => some { w with worker := .stopped }
  | .call now force =>
    if w.control = .idle ∧ w.now ≤ now ∧ now ≤ w.clock then
      some { w with now := now, control := .taking force none }
    else none
  | .takes =>
    match w.control with
    | .taking force latest =>
      match w.resultQueue with
      | some result => some { w with resultQueue := none,
                                     control := .taking force (some result) }
      | none => some (w.served policy force latest)
    | _ => none
  | .requests =>
    match w.control with
    | .requesting force => some (w.requested policy force)
    | _ => none

end World

end SnapshotWorker

end ChronosHFT.Sidecar
