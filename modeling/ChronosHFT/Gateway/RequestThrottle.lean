import ChronosHFT.Lib.Dict
import ChronosHFT.Lib.FifoLock
import ChronosHFT.Lib.Text

/-!
# The throttle of the REST client

`BinanceRestApi._throttle`: before it is sent a request takes the request lock, sleeps until its
minimum intervals and its endpoint's cooldown are over, and lets go.  It sleeps with the lock
held, so whoever comes meanwhile waits too.

The lock is served in order and sleeps are exact (`serve`).  The cooldown of an endpoint is set
by failures and cleared by answers, which happen at any time, with or without somebody holding
the lock (`CooldownEvent`). -/

namespace ChronosHFT.Gateway.Rest

/-! ## Endpoints -/

def epDepthSnapshot : String := "/fapi/v1/depth"
def epRpiDepth : String := "/fapi/v1/rpiDepth"
def epOrder : String := "/fapi/v1/order"
def epListenKey : String := "/fapi/v1/listenKey"
def epLeverage : String := "/fapi/v1/leverage"
def epMarginType : String := "/fapi/v1/marginType"
def epPositionMode : String := "/fapi/v1/positionSide/dual"
def epAccount : String := "/fapi/v2/account"
def epPositionRisk : String := "/fapi/v2/positionRisk"
def epOpenOrders : String := "/fapi/v1/openOrders"
def epAllOpenOrders : String := "/fapi/v1/allOpenOrders"
def epAllOrders : String := "/fapi/v1/allOrders"
def epUserTrades : String := "/fapi/v1/userTrades"
def epIncome : String := "/fapi/v1/income"
def epCountdownCancelAll : String := "/fapi/v1/countdownCancelAll"
def epCommissionRate : String := "/fapi/v1/commissionRate"

/-! ## Settings -/

def minSignedIntervalSec : ℚ := 1 / 5
def minPublicIntervalSec : ℚ := 1 / 20

def endpointIntervals : Dict String ℚ :=
  Dict.ofList
    [(epRpiDepth, 1), (epCommissionRate, 1), (epAccount, 1), (epPositionRisk, 3 / 2),
      (epOpenOrders, 1),
      (epAllOrders, 1), (epUserTrades, 1 / 2), (epIncome, 2), (epCountdownCancelAll, 1),
      (epOrder, 1 / 10),
      (epAllOpenOrders, 3 / 10), (epLeverage, 3 / 10), (epMarginType, 3 / 10),
      (epPositionMode, 3 / 10),
      (epListenKey, 3 / 10)]

def retryBackoffSec : ℚ := 1 / 2
def failureBackoffMultiplier : ℚ := 2
def maxEndpointCooldownSec : ℚ := 10

/-! ## Requests -/

/-- A request that comes to the throttle; `symbol` and `reduceOnly` are the texts of its
parameters, empty when they are missing. -/
structure Request where
  arrival : ℚ
  method : String
  endpoint : String
  signed : Bool := true
  symbol : String := ""
  reduceOnly : String := ""
  rateLimitPriority : String := ""
  deriving DecidableEq, Repr

/-- `_request_priority`. -/
def requestPriority (method endpoint reduceOnly : String) : String :=
  let method := method.toUpper
  if endpoint = epOrder ∧ method = "POST" ∧ reduceOnly.toLower = "true" then "emergency"
  else if endpoint = epAllOpenOrders ∨ endpoint = epCountdownCancelAll then "emergency"
  else if endpoint = epOrder ∧ method = "DELETE" then "emergency"
  else if endpoint = epListenKey then "safety"
  else if endpoint = epOrder ∧ method = "POST" then "trading"
  else if (endpoint = epOrder ∧ method = "GET") ∨ endpoint = epAllOrders ∨
    endpoint = epUserTrades then "trading"
  else if (endpoint = epLeverage ∨ endpoint = epMarginType ∨ endpoint = epPositionMode) ∧
    method = "POST" then
    "trading"
  else "background"

namespace Request

variable (r : Request)

/-- `resolved_priority`. -/
def resolvedPriority : String :=
  if r.rateLimitPriority = "" then requestPriority r.method r.endpoint r.reduceOnly
    else r.rateLimitPriority

/-- `emergency`. -/
def emergency : Bool := decide (r.resolvedPriority.toLower ∈
    ["emergency", "safety", "reduce_only"])

/-- `min_interval`. -/
def minInterval : ℚ := if r.signed then minSignedIntervalSec else minPublicIntervalSec

/-- `endpoint_interval`. -/
def endpointInterval : ℚ := max r.minInterval (endpointIntervals.getD r.endpoint r.minInterval)

/-- `throttle_key`. -/
def throttleKey : String :=
  if r.endpoint = epOpenOrders ∧ r.symbol ≠ "" then
    r.endpoint ++ ":" ++ (Text.strip r.symbol).toUpper
  else r.endpoint

end Request

/-! ## Cooldowns -/

/-- A failure that marks the cooldown of an endpoint, or an answer that clears it. -/
inductive CooldownEvent
  | failed (time : ℚ) (endpoint : String) (attempt : ℕ)
  | answered (time : ℚ) (endpoint : String)
  deriving DecidableEq, Repr

def CooldownEvent.time : CooldownEvent → ℚ
  | failed time _ _ => time
  | answered time _ => time

/-- `cooldown_sec` of `_mark_failure_cooldown`. -/
def cooldownSec (endpoint : String) (attempt : ℕ) : ℚ :=
  min maxEndpointCooldownSec
    (max (retryBackoffSec * attempt) (endpointIntervals.getD endpoint minSignedIntervalSec *
      failureBackoffMultiplier))

/-- What an event leaves in `endpoint_cooldown_until`. -/
def CooldownEvent.apply (endpoint : String) (until' : ℚ) : CooldownEvent → ℚ
  | failed time failedEndpoint attempt =>
    if failedEndpoint = endpoint then time + cooldownSec endpoint attempt else until'
  | answered _ answeredEndpoint => if answeredEndpoint = endpoint then 0 else until'

/-- `endpoint_cooldown_until.get(endpoint, 0.0)` at this time. -/
def cooldownUntil (events : List CooldownEvent) (now : ℚ) (endpoint : String) : ℚ :=
  (events.filter fun event => event.time ≤ now).foldl (CooldownEvent.apply endpoint) 0

/-! ## The throttle -/

/-- What the throttle remembers of the requests it has released. -/
structure Throttle where
  lastRequestTs : ℚ := 0
  endpointLastRequestTs : Dict String ℚ := ∅

/-- A request that was released: what the throttle remembered when it took the lock, and the
waits of the three kinds. -/
structure Passage where
  request : Request
  before : Throttle
  taken : ℚ
  globalWait : ℚ
  endpointWait : ℚ
  cooldownWait : ℚ
  released : ℚ

/-- The wait for the minimum intervals alone. -/
def Passage.intervalWait (p : Passage) : ℚ := max p.globalWait p.endpointWait

/-- `_throttle`, entered at `now` with the lock. -/
def throttle (events : List CooldownEvent) (now : ℚ) (r : Request) (t : Throttle) :
    Passage × Throttle :=
  let globalWait := max 0 (r.minInterval - (now - t.lastRequestTs))
  let endpointWait := max 0 (r.endpointInterval -
    (now - t.endpointLastRequestTs.getD r.throttleKey 0))
  let cooldownWait := if r.emergency then 0 else
    max 0 (cooldownUntil events now r.endpoint - now)
  let waitTime := max (max globalWait endpointWait) cooldownWait
  let stamp := now + waitTime
  ({ request := r, before := t, taken := now, globalWait := globalWait,
     endpointWait := endpointWait,
     cooldownWait := cooldownWait, released := stamp },
    { lastRequestTs := stamp,
      endpointLastRequestTs := t.endpointLastRequestTs.set r.throttleKey stamp })

/-- The client between two requests: since when the lock is free, and what the throttle
remembers. -/
structure Client where
  free : ℚ
  throttle : Throttle := {}

/-- The next request takes the lock when it comes, or when the lock gets free. -/
def pass (events : List CooldownEvent) (client : Client) (r : Request) : Passage × Client :=
  let result := throttle events (max r.arrival client.free) r client.throttle
  (result.1, { free := result.1.released, throttle := result.2 })

/-- The requests, in the order in which they come. -/
def serve (events : List CooldownEvent) : Client → List Request → List Passage
  | _, [] => []
  | client, r :: rest =>
    let result := pass events client r
    result.1 :: serve events result.2 rest

end ChronosHFT.Gateway.Rest
