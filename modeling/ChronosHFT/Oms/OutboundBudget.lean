import ChronosHFT.Lib.Window

/-!
# The outbound message budget

`oms/outbound_budget.py` bounds what the engine sends to the venue.  Three kinds of message share
one sliding window; each has a limit of its own, and the total is shared in two nested steps: a
new order must leave what is kept for risk messages, a reducing order what is kept for cancels.

The limits are read from the configuration by `Limits.read` and checked by `Limits.create`, so
that a `ValidLimits` carries what the constructor of the source enforces.  `uuid4` is an
argument: the identifiers of the reservations are drawn from it one after the other.  `Traffic`
adds to a budget what has passed through it: the messages that were reserved and not rolled back,
also those the window has left behind. -/

namespace ChronosHFT.Oms.OutboundBudget

/-! ## The limits -/

/-- `MESSAGE_KINDS`. -/
inductive MessageKind where
  | newOrder
  | reduceOrder
  | cancel
deriving DecidableEq, Repr

namespace MessageKind

def text : MessageKind → String
  | newOrder => "NEW_ORDER"
  | reduceOrder => "REDUCE_ORDER"
  | cancel => "CANCEL"

/-- `message_kind.lower()`. -/
def lower : MessageKind → String
  | newOrder => "new_order"
  | reduceOrder => "reduce_order"
  | cancel => "cancel"

/-- `message_kind in self.MESSAGE_KINDS`. -/
def parse (messageKind : String) : Option MessageKind :=
  [newOrder, reduceOrder, cancel].find? fun kind => decide (kind.text = messageKind)

end MessageKind

/-- The `outbound_message_budget` section; `none` is a key that is not there. -/
structure Config where
  enabled : Bool := false
  windowSec : Option ℚ := none
  maxTotalMessagesPerWindow : Option ℤ := none
  maxNewOrdersPerWindow : Option ℤ := none
  maxReduceOrdersPerWindow : Option ℤ := none
  maxCancelMessagesPerWindow : Option ℤ := none
  reservedRiskMessagesPerWindow : Option ℤ := none
  reservedCancelMessagesPerWindow : Option ℤ := none
deriving DecidableEq

/-- The `ValueError`s. -/
inductive BudgetError where
  /-- `enabled outbound message budget requires a positive max_total_messages_per_window` -/
  | maxTotalRequired
  /-- `enabled outbound message budget must reserve at least one cancel message per window` -/
  | cancelReserveRequired
  /-- `enabled outbound message budget requires a positive max_cancel_messages_per_window` -/
  | maxCancelsRequired
  /-- `max_cancel_messages_per_window must cover reserved_cancel_messages_per_window` -/
  | maxCancelsBelowReserve
  /-- `unsupported_outbound_message_kind:{message_kind}` -/
  | unsupportedKind (messageKind : String)
  /-- `outbound message budget time moved backwards` -/
  | movedBackwards
deriving DecidableEq, Repr

structure Limits where
  enabled : Bool
  windowSec : ℚ
  maxTotal : ℕ
  maxNewOrders : ℕ
  maxReduceOrders : ℕ
  maxCancels : ℕ
  reservedRiskMessages : ℕ
  reservedCancelMessages : ℕ
deriving DecidableEq

namespace Limits

/-- `max(0, int(config.get(key, default) or 0))`. -/
def count (value : Option ℤ) (default : ℤ) : ℕ := (value.getD default).toNat

/-- `float(config.get("window_sec", 1.0) or 1.0)`. -/
def windowOf (value : Option ℚ) : ℚ := if value.getD 1 = 0 then 1 else value.getD 1

/-- The attributes the constructor computes, before it checks them. -/
def read (config : Config) : Limits :=
  let maxTotal := count config.maxTotalMessagesPerWindow 20
  let configuredReserved := count config.reservedRiskMessagesPerWindow 5
  let reservedRiskMessages :=
    if 0 < maxTotal then min configuredReserved maxTotal else configuredReserved
  let defaultCancelReserved :=
    if 0 < maxTotal ∧ 0 < configuredReserved then min configuredReserved (max 1 (maxTotal / 4))
    else configuredReserved
  let configuredCancelReserved :=
    count config.reservedCancelMessagesPerWindow defaultCancelReserved
  { enabled := config.enabled
    windowSec := max (1 / 20) (windowOf config.windowSec)
    maxTotal := maxTotal
    maxNewOrders := count config.maxNewOrdersPerWindow 10
    maxReduceOrders := count config.maxReduceOrdersPerWindow 10
    maxCancels := count config.maxCancelMessagesPerWindow 20
    reservedRiskMessages := reservedRiskMessages
    reservedCancelMessages :=
      if 0 < maxTotal then min configuredCancelReserved reservedRiskMessages
      else configuredCancelReserved }

/-- The limit of a kind; `0` stands for no limit. -/
def classLimit (limits : Limits) : MessageKind → ℕ
  | .newOrder => limits.maxNewOrders
  | .reduceOrder => limits.maxReduceOrders
  | .cancel => limits.maxCancels

/-- `max(0, self.max_total - self.reserved_risk_messages)`. -/
def openingRiskCeiling (limits : Limits) : ℕ := limits.maxTotal - limits.reservedRiskMessages

/-- `max(0, self.max_total - self.reserved_cancel_messages)`. -/
def reduceOrderCeiling (limits : Limits) : ℕ := limits.maxTotal - limits.reservedCancelMessages

/-- What an enabled budget can rely on. -/
structure Usable (limits : Limits) : Prop where
  maxTotal_pos : 0 < limits.maxTotal
  reservedCancel_pos : 0 < limits.reservedCancelMessages
  reservedCancel_le : limits.reservedCancelMessages ≤ limits.reservedRiskMessages
  reservedRisk_le : limits.reservedRiskMessages ≤ limits.maxTotal
  covered : limits.reservedCancelMessages ≤ limits.maxCancels

theorem reserved_le_of_read {config : Config} (hpos : 0 < (read config).maxTotal) :
    (read config).reservedCancelMessages ≤ (read config).reservedRiskMessages ∧
      (read config).reservedRiskMessages ≤ (read config).maxTotal := by
  unfold read at hpos ⊢
  dsimp only at hpos ⊢
  rw [if_pos hpos, if_pos hpos]
  exact ⟨min_le_right _ _, min_le_right _ _⟩

end Limits

theorem Limits.windowSec_pos_of_read (config : Config) : 0 < (Limits.read config).windowSec :=
  lt_of_lt_of_le (by norm_num) (le_max_left (1 / 20 : ℚ) _)

/-- The limits of a budget that was built. -/
structure ValidLimits extends Limits where
  windowSec_pos : 0 < windowSec
  usable : enabled = true → toLimits.Usable

/-- `__init__`. -/
def ValidLimits.create (config : Config) : Except BudgetError ValidLimits :=
  let limits := Limits.read config
  if henabled : limits.enabled = true then
    if htotal : limits.maxTotal = 0 then .error .maxTotalRequired
    else if hreserve : limits.reservedCancelMessages = 0 then .error .cancelReserveRequired
    else if limits.maxCancels = 0 then .error .maxCancelsRequired
    else if hcover : limits.maxCancels < limits.reservedCancelMessages then
      .error .maxCancelsBelowReserve
    else
      .ok
        { limits with
          windowSec_pos := Limits.windowSec_pos_of_read config
          usable := fun _ =>
            { maxTotal_pos := Nat.pos_of_ne_zero htotal
              reservedCancel_pos := Nat.pos_of_ne_zero hreserve
              reservedCancel_le := (Limits.reserved_le_of_read (Nat.pos_of_ne_zero htotal)).1
              reservedRisk_le := (Limits.reserved_le_of_read (Nat.pos_of_ne_zero htotal)).2
              covered := Nat.le_of_not_lt hcover } }
  else
    .ok
      { limits with
        windowSec_pos := Limits.windowSec_pos_of_read config
        usable := fun h => absurd h henabled }

/-! ## The budget -/

/-- `OutboundMessageReservation`, and the entry of `history` that stands for it. -/
structure Reservation (ι : Type) where
  reservationId : ι
  messageKind : MessageKind
  reservedAt : ℚ
deriving DecidableEq

/-- `OutboundMessageBudget`, less its limits. -/
structure Budget (ι : Type) where
  history : List (Reservation ι) := []
  lastObservedAt : ℚ := 0
deriving DecidableEq

/-- Why a message is refused, with the values the text prints. -/
inductive Rejection where
  | classLimit (kind : MessageKind) (count limit : ℕ)
  | riskCapacityReserved (total ceiling : ℕ)
  | cancelCapacityReserved (total ceiling : ℕ)
  | totalLimit (total limit : ℕ)
deriving DecidableEq, Repr

def Rejection.text : Rejection → String
  | .classLimit kind count limit =>
    "outbound_message_budget:" ++ kind.lower ++ s!"_limit:{count}>={limit}"
  | .riskCapacityReserved total ceiling =>
    s!"outbound_message_budget:risk_capacity_reserved:{total}>={ceiling}"
  | .cancelCapacityReserved total ceiling =>
    s!"outbound_message_budget:cancel_capacity_reserved:{total}>={ceiling}"
  | .totalLimit total limit => s!"outbound_message_budget:total_limit:{total}>={limit}"

/-- What `snapshot` reports: the counts by kind, their total and the ceilings. -/
structure Snapshot where
  counts : MessageKind → ℕ
  total : ℕ
  limits : Limits
  openingRiskCeiling : Option ℕ
  reduceOrderCeiling : Option ℕ

namespace Budget

variable {ι : Type} [DecidableEq ι]

/-- `_normalize_now_locked`. -/
def normalizeNow (b : Budget ι) (now : ℚ) : Except BudgetError (Budget ι) :=
  if now < b.lastObservedAt then .error .movedBackwards
  else .ok { b with lastObservedAt := now }

/-- `_prune_locked`. -/
def prune (limits : Limits) (b : Budget ι) (now : ℚ) : Budget ι :=
  { b with
    history := b.history.dropWhile fun m => decide (m.reservedAt ≤ now - limits.windowSec) }

/-- `_counts_locked`, for one kind. -/
def count (b : Budget ι) (kind : MessageKind) : ℕ :=
  b.history.countP fun m => decide (m.messageKind = kind)

/-- The check of the kind's own limit. -/
def classRejection (limits : Limits) (b : Budget ι) (kind : MessageKind) : Option Rejection :=
  if 0 < limits.classLimit kind ∧ limits.classLimit kind ≤ b.count kind then
    some (.classLimit kind (b.count kind) (limits.classLimit kind))
  else none

/-- The check of the shared total. -/
def capacityRejection (limits : Limits) (b : Budget ι) (kind : MessageKind) : Option Rejection :=
  if limits.maxTotal = 0 then none
  else
    match kind with
    | .newOrder =>
      if limits.openingRiskCeiling ≤ b.history.length then
        some (.riskCapacityReserved b.history.length limits.openingRiskCeiling)
      else none
    | .reduceOrder =>
      if limits.reduceOrderCeiling ≤ b.history.length then
        some (.cancelCapacityReserved b.history.length limits.reduceOrderCeiling)
      else none
    | .cancel =>
      if limits.maxTotal ≤ b.history.length then
        some (.totalLimit b.history.length limits.maxTotal)
      else none

/-- `reserve_token`: the budget after the call, the reservation and the rejection.  `uuid` is
the identifier `uuid4()` would answer. -/
def reserveToken (limits : Limits) (b : Budget ι) (messageKind : String) (now : ℚ) (uuid : ι) :
    Except BudgetError (Budget ι × Option (Reservation ι) × Option Rejection) :=
  if limits.enabled = false then .ok (b, none, none)
  else
    match MessageKind.parse messageKind with
    | none => .error (.unsupportedKind messageKind)
    | some kind => do
        let observed ← b.normalizeNow now
        let pruned := observed.prune limits now
        match (pruned.classRejection limits kind).or (pruned.capacityRejection limits kind) with
        | some rejection => return (pruned, none, some rejection)
        | none =>
          let reservation := ⟨uuid, kind, now⟩
          return ({ pruned with history := pruned.history ++ [reservation] },
            some reservation, none)

/-- Delete the last entry with the identifier. -/
def deleteLast (history : List (Reservation ι)) (reservationId : ι) : List (Reservation ι) :=
  (history.reverse.eraseP fun m => decide (m.reservationId = reservationId)).reverse

/-- `rollback`. -/
def rollback (limits : Limits) (b : Budget ι) (reservation : Option (Reservation ι)) :
    Budget ι × Bool :=
  match reservation with
  | none => (b, false)
  | some reservation =>
    if limits.enabled = false then (b, false)
    else if b.history.any fun m => decide (m.reservationId = reservation.reservationId) then
      ({ b with history := deleteLast b.history reservation.reservationId }, true)
    else (b, false)

/-- `snapshot`. -/
def snapshot (limits : Limits) (b : Budget ι) (now : ℚ) :
    Except BudgetError (Budget ι × Snapshot) := do
  let observed ← b.normalizeNow now
  let pruned := observed.prune limits now
  return (pruned,
    { counts := pruned.count
      total := pruned.history.length
      limits := limits
      openingRiskCeiling := if 0 < limits.maxTotal then some limits.openingRiskCeiling else none
      reduceOrderCeiling := if 0 < limits.maxTotal then some limits.reduceOrderCeiling
        else none })

end Budget

end ChronosHFT.Oms.OutboundBudget
