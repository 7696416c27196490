import ChronosHFT.Lib.Run
import ChronosHFT.Lib.Text

/-!
# The shared request-weight budget

The coordinator of `infrastructure/binance_rate_limit_budget.py`: every process asks it before a
request and tells it the headers of the response, and SQLite serialises the transactions on the
rows that they share.  A process reads its clock before its transaction begins, so that the
transactions come with any times in any order.  `log` records the attempts that were admitted and
the used weights that were reported, in the order of the transactions. -/

namespace ChronosHFT.RateLimit

/-! ## The settings of a process -/

/-- What the constructor accepts of an enabled coordinator. -/
structure Budget where
  requestWeightLimit : ℕ
  emergencyReserve : ℕ
  tradingReserve : ℕ
  enabled : Bool := true
  limit_le : requestWeightLimit ≤ 2400
  reserves_lt : emergencyReserve + tradingReserve < requestWeightLimit
  reserves_pos : enabled = true → 0 < emergencyReserve ∧ 0 < tradingReserve

/-- `__init__`, up to the path and the tables: the budget, or the text of the `ValueError`. -/
def construct (requestWeightLimit emergencyReserve tradingReserve : ℤ) (enabled : Bool) :
    Except String Budget :=
  if hpositive : requestWeightLimit ≤ 0 then .error "request_weight_limit must be positive"
  else if hlimit : 2400 < requestWeightLimit then
    .error ("request_weight_limit cannot exceed Binance's published " ++
      "2400 weight/minute limit")
  else if hemergency : ¬(0 ≤ emergencyReserve ∧ emergencyReserve < requestWeightLimit) then
    .error ("emergency_reserve must be non-negative and below " ++ "request_weight_limit")
  else if htrading : tradingReserve < 0 ∨
      requestWeightLimit ≤ tradingReserve + emergencyReserve then
    .error ("trading_reserve must be non-negative and leave positive " ++
      "background request capacity")
  else if henabled : enabled = true ∧ (tradingReserve ≤ 0 ∨ emergencyReserve ≤ 0) then
    .error ("enabled coordination requires positive trading and " ++ "emergency reserves")
  else .ok {
    requestWeightLimit := requestWeightLimit.toNat
    emergencyReserve := emergencyReserve.toNat
    tradingReserve := tradingReserve.toNat
    enabled := enabled
    limit_le := by omega
    reserves_lt := by omega
    reserves_pos := fun h => by
      rw [not_and, not_or] at henabled
      have := henabled h
      omega }

/-- The classes of requests. -/
inductive Priority
  | emergency
  | trading
  | background
  deriving DecidableEq, Repr

/-- The class of a `priority` text. -/
def priorityOf (text : String) : Priority :=
  let priority := (Text.strip (if text = "" then "normal" else text)).toLower
  if priority ∈ ["emergency", "safety", "reduce_only"] then .emergency
  else if priority ∈ ["trading", "order"] then .trading
  else .background

namespace Budget

variable (b : Budget)

def backgroundLimit : ℕ := b.requestWeightLimit - b.emergencyReserve - b.tradingReserve

def tradingLimit : ℕ := b.requestWeightLimit - b.emergencyReserve

/-- The limit of a class. -/
def limit : Priority → ℕ
  | .emergency => b.requestWeightLimit
  | .trading => b.tradingLimit
  | .background => b.backgroundLimit

end Budget

/-! ## The rows -/

/-- A row of `attempts`. -/
structure Attempt where
  minuteBucket : ℤ
  weight : ℕ
  priority : Priority
  deriving DecidableEq, Repr

inductive Entry
  | admitted (bucket : ℤ) (weight : ℕ)
  | reported (bucket : ℤ) (used : ℕ)
  deriving DecidableEq, Repr

/-- The table `attempts`, the row of `state`, and the record. -/
structure Coordinator where
  attempts : List Attempt := []
  remoteBucket : ℤ := -1
  remoteUsed : ℕ := 0
  blockedUntil : ℚ := 0
  retryReason : String := ""
  log : List Entry := []
  deriving DecidableEq, Repr

/-- `RateLimitDecision`. -/
structure Decision where
  allowed : Bool
  reason : String := ""
  retryAfterSec : ℚ := 0
  emergencyBypass : Bool := false
  deriving DecidableEq, Repr

/-- The minute of a time. -/
def bucketOf (now : ℚ) : ℤ := ⌊now / 60⌋

/-- `value or -1`. -/
def orMinusOne (bucket : ℤ) : ℤ := if bucket = 0 then -1 else bucket

namespace Coordinator

variable (s : Coordinator)

/-- The weight of the attempts of a minute. -/
def localUsed (bucket : ℤ) : ℕ :=
  ((s.attempts.filter fun a => a.minuteBucket = bucket).map Attempt.weight).sum

/-- The reported weight of a minute. -/
def observedUsed (bucket : ℤ) : ℕ :=
  if orMinusOne s.remoteBucket = bucket then s.remoteUsed else 0

/-- `DELETE FROM attempts WHERE minute_bucket < ?`. -/
def prune (bucket : ℤ) : Coordinator :=
  { s with attempts := s.attempts.filter fun a => bucket - 1 ≤ a.minuteBucket }

def refusalReason : Priority → String
  | .emergency => "exchange_request_weight_limit_exhausted"
  | .trading => "emergency_request_weight_reserve_protected"
  | .background => "trading_request_weight_reserve_protected"

/-- The transaction of `acquire`. -/
def acquireTransaction (b : Budget) (weight : ℕ) (priority : Priority) (now : ℚ) :
    Coordinator × Decision :=
  let bucket := bucketOf now
  let s := s.prune bucket
  if now < s.blockedUntil then
    (s, ⟨false, if s.retryReason = "" then "exchange_retry_after" else s.retryReason,
      s.blockedUntil - now, false⟩)
  else if b.limit priority < max (s.localUsed bucket) (s.observedUsed bucket) + weight then
    (s, ⟨false, refusalReason priority, max (1 / 20) ((bucket + 1) * 60 - now), false⟩)
  else
    ({ s with
        attempts := s.attempts ++ [⟨bucket, weight, priority⟩]
        log := s.log ++ [.admitted bucket weight] },
      ⟨true, "", 0, false⟩)

/-- **`acquire`**; `failure` is the exception that the transaction raises, if it does, and `none`
answers the `ValueError` of a time that is not positive. -/
def acquire (b : Budget) (weight : ℤ) (priority : String) (now : ℚ) (failure : Option String) :
    Option (Coordinator × Decision) :=
  let weight := weight.toNat
  let priority := priorityOf priority
  if b.enabled = false ∨ weight = 0 then some (s, ⟨true, "", 0, false⟩)
  else if b.requestWeightLimit < weight then
    some (s, ⟨false, "request_weight_exceeds_exchange_limit", 60, false⟩)
  else if now ≤ 0 then none
  else
    match failure with
    | none => some (s.acquireTransaction b weight priority now)
    | some error =>
      let reason := "coordinator_unavailable:" ++ error
      if priority = .emergency then some (s, ⟨true, reason, 0, true⟩)
      else some (s, ⟨false, reason, max (1 / 20) ((bucketOf now + 1) * 60 - now), false⟩)

/-- What `record_response` reads of a response: the header of the used weight, when it is there
and a number, the status, and the header `retry-after`, in seconds from now. -/
structure Response where
  usedWeight : Option ℕ := none
  statusCode : ℤ := 200
  retryAfter : ℚ := 0
  retryAfter_nonneg : 0 ≤ retryAfter := by norm_num
  deriving DecidableEq, Repr

/-- The seconds to wait after a response. -/
def Response.wait (r : Response) (now : ℚ) : ℚ :=
  if r.statusCode ∈ [418, 429] ∧ r.retryAfter ≤ 0 then
    if r.statusCode = 418 then 120 else max (1 / 20) ((bucketOf now + 1) * 60 - now)
  else r.retryAfter

/-- The used weight of a response is written down. -/
def report (bucket : ℤ) : Option ℕ → Coordinator
  | none => { s with remoteBucket := orMinusOne s.remoteBucket }
  | some used =>
    let s :=
      if orMinusOne s.remoteBucket = bucket then
        { s with
          remoteBucket := orMinusOne s.remoteBucket
          remoteUsed := max s.remoteUsed used }
      else { s with remoteBucket := orMinusOne bucket, remoteUsed := used }
    { s with log := s.log ++ [.reported bucket used] }

/-- The time to wait until is written down. -/
def block (status : ℤ) (now wait : ℚ) : Coordinator :=
  if 0 < wait then
    { s with
      blockedUntil := max s.blockedUntil (now + wait)
      retryReason := "exchange_retry_after_status_" ++ toString status }
  else s

/-- **`record_response`**; `none` where it raises. -/
def recordResponse (b : Budget) (r : Response) (now : ℚ) (available : Bool) :
    Option Coordinator :=
  if b.enabled = false then some s
  else if now ≤ 0 then none
  else if r.usedWeight = none ∧ r.wait now ≤ 0 then some s
  else if available then
    some ((s.report (bucketOf now) r.usedWeight).block r.statusCode now (r.wait now))
  else none

end Coordinator

/-! ## Steps -/

/-- A call of any process, with what its clock has read. -/
inductive Action
  | acquire (b : Budget) (weight : ℤ) (priority : String) (now : ℚ) (failure : Option String)
  | recordResponse (b : Budget) (response : Coordinator.Response) (now : ℚ) (available : Bool)

/-- The step of a call; a call that raises changes nothing. -/
def Coordinator.step (s : Coordinator) : Action → Option Coordinator
  | .acquire b weight priority now failure =>
    some (((s.acquire b weight priority now failure).map Prod.fst).getD s)
  | .recordResponse b response now available =>
    some ((s.recordResponse b response now available).getD s)

end ChronosHFT.RateLimit
