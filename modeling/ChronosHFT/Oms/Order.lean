import ChronosHFT.Lib.Dict

/-!
# Orders

The stateful order of `oms/order.py`: its status machine, its fill accounting
and its journal record.

Two conventions run through the whole development.  Python floats are read as
exact rationals, so every tolerance of the source (`1e-6`, `1e-8`, `1e-9`) is
the rational it spells; a value that may be non-finite is a separate type at
the place where it enters.  And a method that can raise returns the order *it
leaves behind* next to its result, because several of them change the order
before they raise: `Order.addFill` is the case that matters.

The wall clock is an argument (`now`), and an absent `update_time` is `0`, which
the source treats alike (`if update_time:`).  The monotonic clock fields of the
source order are read by no modelled function and are left out.
-/

namespace ChronosHFT.Oms

/-- `1e-6`: how far a fill may exceed the remaining volume. -/
def fillEps : ℚ := 1 / 1000000

/-- `1e-8`: an order this close to its volume is complete. -/
def doneEps : ℚ := 1 / 100000000

/-- `1e-9`: quantities this small are zero. -/
def qtyEps : ℚ := 1 / 1000000000

theorem fillEps_pos : 0 < fillEps := by
  unfold fillEps
  norm_num

theorem doneEps_pos : 0 < doneEps := by
  unfold doneEps
  norm_num

theorem qtyEps_pos : 0 < qtyEps := by
  unfold qtyEps
  norm_num

/-- `Side`. -/
inductive Side where
  | buy
  | sell
deriving DecidableEq, Repr

namespace Side

/-- The journal spelling of a side. -/
def value : Side → String
  | buy => "BUY"
  | sell => "SELL"

/-- `Side(text)`; an unknown spelling is the source's `ValueError`. -/
def ofValue? (text : String) : Option Side :=
  if text = "BUY" then some buy else if text = "SELL" then some sell else none

@[simp] theorem ofValue?_value (side : Side) : ofValue? side.value = some side := by
  cases side <;> decide

/-- `qty if side == Side.BUY else -qty`. -/
def signed (side : Side) (qty : ℚ) : ℚ :=
  match side with
  | buy => qty
  | sell => -qty

end Side

/-- `ExecutionPolicy`. -/
inductive ExecutionPolicy where
  | aggressive
  | passive
deriving DecidableEq, Repr

namespace ExecutionPolicy

/-- The journal spelling of a policy. -/
def value : ExecutionPolicy → String
  | aggressive => "AGGRESSIVE"
  | passive => "PASSIVE"

/-- `ExecutionPolicy(text)`. -/
def ofValue? (text : String) : Option ExecutionPolicy :=
  if text = "AGGRESSIVE" then some aggressive
  else if text = "PASSIVE" then some passive
  else none

@[simp] theorem ofValue?_value (policy : ExecutionPolicy) :
    ofValue? policy.value = some policy := by
  cases policy <;> decide

end ExecutionPolicy

/-- `OrderStatus`. -/
inductive OrderStatus where
  | created
  | rejectedLocally
  | submitting
  | submitUnknown
  | pendingAck
  | new
  | partiallyFilled
  | filled
  | cancelling
  | cancelUnknown
  | cancelled
  | rejected
  | expired
deriving DecidableEq, Repr

namespace OrderStatus

/-- The journal spelling of a status. -/
def value : OrderStatus → String
  | created => "CREATED"
  | rejectedLocally => "REJECTED_LOCALLY"
  | submitting => "SUBMITTING"
  | submitUnknown => "SUBMIT_UNKNOWN"
  | pendingAck => "PENDING_ACK"
  | new => "NEW"
  | partiallyFilled => "PARTIALLY_FILLED"
  | filled => "FILLED"
  | cancelling => "CANCELLING"
  | cancelUnknown => "CANCEL_UNKNOWN"
  | cancelled => "CANCELLED"
  | rejected => "REJECTED"
  | expired => "EXPIRED"

/-- Every status, in the order of the source enumeration. -/
def all : List OrderStatus :=
  [created, rejectedLocally, submitting, submitUnknown, pendingAck, new,
    partiallyFilled, filled, cancelling, cancelUnknown, cancelled, rejected, expired]

/-- `OrderStatus(text)`. -/
def ofValue? (text : String) : Option OrderStatus :=
  all.find? (fun status => decide (status.value = text))

@[simp] theorem ofValue?_value (status : OrderStatus) :
    ofValue? status.value = some status := by
  cases status <;> decide

/-- `TERMINAL_STATUSES`. -/
def terminalStatuses : List OrderStatus :=
  [filled, cancelled, rejected, rejectedLocally, expired]

/-- The statuses `Order.is_active` accepts. -/
def activeStatuses : List OrderStatus :=
  [submitting, submitUnknown, pendingAck, new, partiallyFilled, cancelling, cancelUnknown]

/-- `_ALLOWED_TRANSITIONS`. -/
def allowedTransitions : OrderStatus → List OrderStatus
  | created => [submitting, rejectedLocally]
  | submitting =>
    [submitUnknown, pendingAck, new, partiallyFilled, filled, cancelling,
      cancelled, rejected, expired, rejectedLocally]
  | submitUnknown =>
    [pendingAck, new, partiallyFilled, filled, cancelling, cancelUnknown,
      cancelled, rejected, expired, rejectedLocally]
  | pendingAck =>
    [new, partiallyFilled, filled, cancelling, cancelUnknown, cancelled,
      rejected, expired, rejectedLocally]
  | new =>
    [partiallyFilled, filled, cancelling, cancelUnknown, cancelled, rejected,
      expired]
  | partiallyFilled =>
    [partiallyFilled, filled, cancelling, cancelUnknown, cancelled, expired]
  | cancelling =>
    [new, partiallyFilled, filled, cancelUnknown, cancelled, expired]
  | cancelUnknown =>
    [new, partiallyFilled, filled, cancelling, cancelled, rejected, expired]
  | filled => []
  -- A terminal update can overtake an earlier fill, so recovery may reopen a
  -- cancelled or expired order to book it.
  | cancelled => [partiallyFilled, filled]
  | rejected => []
  | rejectedLocally => []
  | expired => [partiallyFilled, filled]

end OrderStatus

/-- `OrderIntent`. -/
structure OrderIntent where
  strategyId : String
  symbol : String
  side : Side
  price : ℚ
  volume : ℚ
  orderType : String := "LIMIT"
  timeInForce : String := "GTC"
  isPostOnly : Bool := false
  reduceOnly : Bool := false
  policy : ExecutionPolicy := .passive
  tag : String := ""
  calibrationPermitId : String := ""
  calibrationDepthBps : Option ℚ := none
  calibrationReferenceMid : Option ℚ := none
deriving DecidableEq, Repr

namespace OrderIntent

/-- `str(text or fallback).upper()`. -/
def upperOr (text fallback : String) : String :=
  (if text = "" then fallback else text).toUpper

/-- `OrderIntent.__post_init__`: order type and time in force are normalised,
and a legacy post-only limit order is written as `GTX`. -/
def postInit (intent : OrderIntent) : OrderIntent :=
  let orderType := upperOr intent.orderType "LIMIT"
  let timeInForce := upperOr intent.timeInForce "GTC"
  if timeInForce = "GTX" ∨ timeInForce = "RPI" then
    { intent with orderType := orderType, timeInForce := timeInForce, isPostOnly := true }
  else if intent.isPostOnly ∧ orderType = "LIMIT" ∧ timeInForce = "GTC" then
    { intent with orderType := orderType, timeInForce := "GTX" }
  else
    { intent with orderType := orderType, timeInForce := timeInForce }

end OrderIntent

/-- The `ValueError`s raised by `Order`, with what their messages print. -/
inductive OrderError where
  /-- `Invalid order transition {from} -> {to} for {oid}` -/
  | invalidTransition (current next : OrderStatus) (clientOid : String)
  /-- `Fill price must be finite and positive for {oid}` -/
  | fillPrice (clientOid : String)
  /-- `Order fill state is invalid for {oid}` -/
  | fillState (clientOid : String)
  /-- `Fill exceeds remaining volume for {oid}: {qty} > {remaining}` -/
  | fillExceedsRemaining (clientOid : String) (qty remaining : ℚ)
  /-- `Cannot mark FILLED before volume completes for {oid}` -/
  | notComplete (clientOid : String)
deriving DecidableEq, Repr

/-- What an exchange message tells an order besides a status: the arguments of
`note_exchange_update`. -/
structure ExchangeNote where
  exchangeStatus : String := ""
  updateTime : ℚ := 0
  seq : ℤ := 0
  exchangeOid : String := ""
deriving DecidableEq, Repr

/-- `Order`. -/
structure Order where
  clientOid : String
  intent : OrderIntent
  exchangeOid : String := ""
  status : OrderStatus := .created
  filledVolume : ℚ := 0
  avgPrice : ℚ := 0
  cumulativeCost : ℚ := 0
  createdAt : ℚ := 0
  updatedAt : ℚ := 0
  recoveredFromJournal : Bool := false
  errorMsg : String := ""
  lastUpdateSeq : ℤ := 0
  lastExchangeStatus : String := ""
  lastExchangeUpdateTime : ℚ := 0
deriving DecidableEq, Repr

namespace Order

/-- `Order.__init__`. -/
def init (clientOid : String) (intent : OrderIntent) (now : ℚ) : Order :=
  { clientOid := clientOid, intent := intent, createdAt := now, updatedAt := now }

/-- `Order.is_active`. -/
def isActive (order : Order) : Bool := decide (order.status ∈ OrderStatus.activeStatuses)

/-- `Order.is_terminal`. -/
def isTerminal (order : Order) : Bool := decide (order.status ∈ OrderStatus.terminalStatuses)

/-- The volume that `update_open_orders` counts as still open. -/
def openVolume (order : Order) : ℚ := order.intent.volume - order.filledVolume

/-- `note_exchange_update`. -/
def noteExchangeUpdate (order : Order) (now : ℚ) (note : ExchangeNote) : Order :=
  { order with
    exchangeOid := if note.exchangeOid ≠ "" then note.exchangeOid else order.exchangeOid
    lastExchangeStatus :=
      if note.exchangeStatus ≠ "" then note.exchangeStatus else order.lastExchangeStatus
    lastExchangeUpdateTime :=
      if note.exchangeStatus ≠ "" ∧ note.updateTime ≠ 0 then
        max order.lastExchangeUpdateTime note.updateTime
      else order.lastExchangeUpdateTime
    lastUpdateSeq :=
      if note.seq ≠ 0 then max order.lastUpdateSeq note.seq else order.lastUpdateSeq
    updatedAt := if note.updateTime ≠ 0 then note.updateTime else now }

/-- `if reason: self.error_msg = reason`. -/
def noteReason (order : Order) (reason : String) : Order :=
  if reason ≠ "" then { order with errorMsg := reason } else order

/-- `_transition`: the order after the call, and `True` when the status moved. -/
def transition (order : Order) (now : ℚ) (next : OrderStatus) (reason : String)
    (note : ExchangeNote) : Order × Except OrderError Bool :=
  if next = order.status then
    ((order.noteExchangeUpdate now note).noteReason reason, .ok false)
  else if next ∈ order.status.allowedTransitions then
    ((({ order with status := next }).noteReason reason).noteExchangeUpdate now note, .ok true)
  else
    (order, .error (.invalidTransition order.status next order.clientOid))

/-- `mark_submitting`. -/
def markSubmitting (order : Order) (now : ℚ) : Order × Except OrderError Bool :=
  order.transition now .submitting "" {}

/-- `mark_pending_ack`. -/
def markPendingAck (order : Order) (now : ℚ) (exchangeOid : String) :
    Order × Except OrderError Bool :=
  order.transition now .pendingAck "" { exchangeOid := exchangeOid }

/-- `mark_submit_unknown`. -/
def markSubmitUnknown (order : Order) (now : ℚ) (reason : String) :
    Order × Except OrderError Bool :=
  order.transition now .submitUnknown reason {}

/-- `mark_new`. -/
def markNew (order : Order) (now : ℚ) (exchangeOid : String) (updateTime : ℚ) (seq : ℤ) :
    Order × Except OrderError Bool :=
  order.transition now .new ""
    { exchangeStatus := "NEW", updateTime := updateTime, seq := seq, exchangeOid := exchangeOid }

/-- `mark_cancelling`. -/
def markCancelling (order : Order) (now : ℚ) : Order × Except OrderError Bool :=
  order.transition now .cancelling "" {}

/-- `mark_cancel_unknown`. -/
def markCancelUnknown (order : Order) (now : ℚ) (reason : String) :
    Order × Except OrderError Bool :=
  order.transition now .cancelUnknown reason {}

/-- `mark_cancelled`. -/
def markCancelled (order : Order) (now updateTime : ℚ) (seq : ℤ) (exchangeStatus : String) :
    Order × Except OrderError Bool :=
  order.transition now .cancelled ""
    { exchangeStatus := exchangeStatus, updateTime := updateTime, seq := seq }

/-- `mark_expired`. -/
def markExpired (order : Order) (now updateTime : ℚ) (seq : ℤ) :
    Order × Except OrderError Bool :=
  order.transition now .expired ""
    { exchangeStatus := "EXPIRED", updateTime := updateTime, seq := seq }

/-- `mark_rejected`. -/
def markRejected (order : Order) (now : ℚ) (reason : String) (updateTime : ℚ) (seq : ℤ)
    (exchangeStatus : String) : Order × Except OrderError Bool :=
  order.transition now .rejected reason
    { exchangeStatus := exchangeStatus, updateTime := updateTime, seq := seq }

/-- `mark_rejected_locally`. -/
def markRejectedLocally (order : Order) (now : ℚ) (reason : String) :
    Order × Except OrderError Bool :=
  order.transition now .rejectedLocally reason {}

/-- `max(0.0, intent.volume - filled_volume)`, the volume a fill may still use. -/
def remaining (order : Order) : ℚ := max 0 (order.intent.volume - order.filledVolume)

/-- The accounting half of `add_fill`: cost, volume and average price move, the
status does not. -/
def bookFill (order : Order) (fillQty fillPrice : ℚ) : Order :=
  let applied := min fillQty order.remaining
  let cost := order.cumulativeCost + applied * fillPrice
  let filled := order.filledVolume + applied
  { order with
    cumulativeCost := cost
    filledVolume := filled
    avgPrice := if 0 < filled then cost / filled else order.avgPrice }

/-- The status `add_fill` moves to once the fill is accounted. -/
def fillStatus (order : Order) : OrderStatus :=
  if order.intent.volume - doneEps ≤ order.filledVolume then .filled else .partiallyFilled

/-- The checks of `add_fill`, made before anything is changed. -/
def fillCheck (order : Order) (fillQty fillPrice : ℚ) : Option OrderError :=
  if fillPrice ≤ 0 then
    some (.fillPrice order.clientOid)
  else if order.intent.volume ≤ 0 ∨ order.filledVolume < 0 ∨ order.cumulativeCost < 0 then
    some (.fillState order.clientOid)
  else if order.remaining + fillEps < fillQty then
    some (.fillExceedsRemaining order.clientOid fillQty order.remaining)
  else
    none

/-- `add_fill`.  The accounting is done **before** the transition that may
raise, so an error of the transition leaves the fill in the order. -/
def addFill (order : Order) (now fillQty fillPrice : ℚ) (note : ExchangeNote) :
    Order × Except OrderError Bool :=
  if fillQty ≤ 0 then
    (order, .ok false)
  else
    match order.fillCheck fillQty fillPrice with
    | some err => (order, .error err)
    | none =>
      let booked := order.bookFill fillQty fillPrice
      match booked.transition now booked.fillStatus "" note with
      | (after, .ok _) => (after, .ok true)
      | (after, .error err) => (after, .error err)

/-- `mark_filled`. -/
def markFilled (order : Order) (now updateTime : ℚ) (seq : ℤ) :
    Order × Except OrderError Bool :=
  if order.filledVolume < order.intent.volume - doneEps then
    (order, .error (.notComplete order.clientOid))
  else
    order.transition now .filled ""
      { exchangeStatus := "FILLED", updateTime := updateTime, seq := seq }

/-! ## Frames

Neither a note nor a transition touches the accounting or the identity of an
order, and a fill touches only the accounting; everything else about the order
methods is read off these. -/

/-- The part of an order that only `add_fill` changes. -/
structure SameBooks (a b : Order) : Prop where
  clientOid : a.clientOid = b.clientOid
  intent : a.intent = b.intent
  filledVolume : a.filledVolume = b.filledVolume
  avgPrice : a.avgPrice = b.avgPrice
  cumulativeCost : a.cumulativeCost = b.cumulativeCost
  createdAt : a.createdAt = b.createdAt

namespace SameBooks

variable {a b c : Order}

protected theorem refl (a : Order) : SameBooks a a := ⟨rfl, rfl, rfl, rfl, rfl, rfl⟩

protected theorem trans (h₁ : SameBooks a b) (h₂ : SameBooks b c) : SameBooks a c :=
  ⟨h₁.clientOid.trans h₂.clientOid, h₁.intent.trans h₂.intent,
    h₁.filledVolume.trans h₂.filledVolume, h₁.avgPrice.trans h₂.avgPrice,
    h₁.cumulativeCost.trans h₂.cumulativeCost, h₁.createdAt.trans h₂.createdAt⟩

end SameBooks

theorem noteExchangeUpdate_sameBooks (order : Order) (now : ℚ) (note : ExchangeNote) :
    SameBooks (order.noteExchangeUpdate now note) order := ⟨rfl, rfl, rfl, rfl, rfl, rfl⟩

@[simp] theorem noteExchangeUpdate_status (order : Order) (now : ℚ) (note : ExchangeNote) :
    (order.noteExchangeUpdate now note).status = order.status := rfl

theorem noteReason_sameBooks (order : Order) (reason : String) :
    SameBooks (order.noteReason reason) order := by
  unfold noteReason
  split
  · exact ⟨rfl, rfl, rfl, rfl, rfl, rfl⟩
  · exact SameBooks.refl order

@[simp] theorem noteReason_status (order : Order) (reason : String) :
    (order.noteReason reason).status = order.status := by
  unfold noteReason
  split <;> rfl

theorem transition_sameBooks (order : Order) (now : ℚ) (next : OrderStatus)
    (reason : String) (note : ExchangeNote) :
    SameBooks (order.transition now next reason note).1 order := by
  unfold transition
  split
  · exact (noteReason_sameBooks _ reason).trans (noteExchangeUpdate_sameBooks order now note)
  split
  · refine (noteExchangeUpdate_sameBooks _ now note).trans ?_
    refine (noteReason_sameBooks _ reason).trans ?_
    exact ⟨rfl, rfl, rfl, rfl, rfl, rfl⟩
  · exact SameBooks.refl order

variable {order : Order} {now : ℚ} {next : OrderStatus} {reason : String} {note : ExchangeNote}

/-- A transition succeeds exactly when the status stays or the table allows the
move. -/
theorem transition_isOk_iff : (∃ moved, (order.transition now next reason note).2 = .ok moved) ↔
      next = order.status ∨ next ∈ order.status.allowedTransitions := by
  unfold transition
  by_cases hsame : next = order.status
  · simp [hsame]
  · by_cases hallowed : next ∈ order.status.allowedTransitions
    · simp [hsame, hallowed]
    · simp [hsame, hallowed]

/-- After a successful transition the order has the requested status. -/
theorem transition_status {moved : Bool}
    (h : (order.transition now next reason note).2 = .ok moved) :
    (order.transition now next reason note).1.status = next := by
  unfold transition at h ⊢
  by_cases hsame : next = order.status
  · rw [if_pos hsame]
    simp [hsame]
  rw [if_neg hsame] at h ⊢
  by_cases hallowed : next ∈ order.status.allowedTransitions
  · rw [if_pos hallowed]
    simp
  · rw [if_neg hallowed] at h
    cases h

/-- A failed transition leaves the order untouched. -/
theorem transition_error {err : OrderError}
    (h : (order.transition now next reason note).2 = .error err) :
    (order.transition now next reason note).1 = order := by
  unfold transition at h ⊢
  by_cases hsame : next = order.status
  · rw [if_pos hsame] at h
    cases h
  rw [if_neg hsame] at h ⊢
  by_cases hallowed : next ∈ order.status.allowedTransitions
  · rw [if_pos hallowed] at h
    cases h
  · rw [if_neg hallowed]

@[simp] theorem bookFill_status (order : Order) (fillQty fillPrice : ℚ) :
    (order.bookFill fillQty fillPrice).status = order.status := rfl

@[simp] theorem bookFill_intent (order : Order) (fillQty fillPrice : ℚ) :
    (order.bookFill fillQty fillPrice).intent = order.intent := rfl

theorem bookFill_filledVolume (order : Order) (fillQty fillPrice : ℚ) :
    (order.bookFill fillQty fillPrice).filledVolume =
      order.filledVolume + min fillQty order.remaining := rfl

/-- **A booked fill.**  When `add_fill` succeeds on a positive quantity, the
checks passed and the order is the booked one after its transition. -/
theorem addFill_ok {after : Order} {qty price : ℚ}
    {changed : Bool} (h : order.addFill now qty price note = (after, .ok changed))
    (hqty : 0 < qty) : order.fillCheck qty price = none ∧
      SameBooks after (order.bookFill qty price) ∧
      after.status = (order.bookFill qty price).fillStatus := by
  unfold addFill at h
  rw [if_neg (not_le.mpr hqty)] at h
  cases hcheck : order.fillCheck qty price with
  | some err =>
    rw [hcheck] at h
    cases h
  | none =>
    simp only [hcheck] at h
    cases hmove : (order.bookFill qty price).transition now
        (order.bookFill qty price).fillStatus "" note with
    | mk moved result =>
      cases result with
      | error err =>
        simp only [hmove] at h
        cases h
      | ok b =>
        simp only [hmove] at h
        cases h
        have hbooks := transition_sameBooks (order.bookFill qty price) now
          (order.bookFill qty price).fillStatus "" note
        have hstatus := @transition_status (order.bookFill qty price) now
          (order.bookFill qty price).fillStatus "" note b (by rw [hmove])
        rw [hmove] at hbooks hstatus
        exact ⟨rfl, hbooks, hstatus⟩

end Order

end ChronosHFT.Oms
