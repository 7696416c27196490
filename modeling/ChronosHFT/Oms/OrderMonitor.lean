import ChronosHFT.Lib.FirstDue
import ChronosHFT.Lib.Run
import ChronosHFT.Oms.Order

/-!
# The order truth monitor

`OrderManager` of `oms/order_manager.py`: what every order is known to be, since when, and
whether its silence has been reported.  Orders come in by direct calls before they are sent
(`trackPreparedOrder`), by recovery, and by a queued event (`onOrderSubmitted`) that may be
delivered at any time; updates change them and a terminal one takes them out.  A check reports
the first order that has been silent for too long.

Every method holds the lock for all it does, so calls that interleave are a list of actions.
What an order's callers have said about it is its `Standing`; the monitor knows it as long as
nobody starts an order that has finished (`monitored_iff_live`).  An order waits to be reported
for those ahead of it and for nothing else (`reported_within`). -/

namespace ChronosHFT.Oms

namespace OrderMonitor

/-- What is known of a monitored order. -/
structure Info where
  symbol : String
  submitTime : ℚ
  lastAckTime : ℚ
  status : OrderStatus
  ackTimeoutReported : Bool
  lastTimeoutReportedAt : ℚ
  deriving DecidableEq, Repr

/-- The timeouts; the interval between checks is the callers'. -/
structure Timeouts where
  ackTimeout : ℚ := 5
  ackTimeoutRecheck : ℚ := 60
  unknownRecheck : ℚ := 1
  cancelTimeout : ℚ := 5
  activeOrderAuditInterval : ℚ := 30
  deriving DecidableEq, Repr

/-- `OrderSubmitted`. -/
structure OrderSubmitted where
  symbol : String
  orderId : String
  timestamp : ℚ
  status : OrderStatus := .pendingAck
  monotonicTimestamp : ℚ := 0
  deriving DecidableEq, Repr

/-- `monitored_orders`. -/
abbrev Monitor := Dict String Info

/-! ## What callers say -/

/-- `on_order_submitted`. -/
def onOrderSubmitted (monitoredOrders : Monitor) (data : OrderSubmitted) : Monitor :=
  if data.status ∈ OrderStatus.terminalStatuses then monitoredOrders.erase data.orderId
  else
    let submittedMonotonic := if data.monotonicTimestamp ≠ 0 then data.monotonicTimestamp
      else data.timestamp
    if monitoredOrders.contains data.orderId then monitoredOrders
    else monitoredOrders.set data.orderId
      { symbol := data.symbol, submitTime := submittedMonotonic, lastAckTime := 0,
        status := data.status,
        ackTimeoutReported := false, lastTimeoutReportedAt := 0 }

/-- `track_prepared_order`. -/
def trackPreparedOrder (monitoredOrders : Monitor) (order : Order) (submittedAt : ℚ) : Monitor :=
  monitoredOrders.set order.clientOid
    { symbol := order.intent.symbol, submitTime := submittedAt, lastAckTime := 0,
      status := order.status,
      ackTimeoutReported := false, lastTimeoutReportedAt := 0 }

/-- `recover_order`. -/
def recoverOrder (monitoredOrders : Monitor) (order : Order) (recoveredAt : ℚ) : Monitor :=
  monitoredOrders.set order.clientOid
    { symbol := order.intent.symbol, submitTime := recoveredAt, lastAckTime := recoveredAt,
      status := order.status,
      ackTimeoutReported := false, lastTimeoutReportedAt := 0 }

/-- The statuses that acknowledge an order, or leave it open what became of it. -/
def acknowledged : List OrderStatus :=
  [.new, .partiallyFilled, .cancelling, .submitUnknown, .cancelUnknown]

/-- `on_order_update`, with the clock it reads. -/
def onOrderUpdate (monitoredOrders : Monitor) (orderId : String) (status : OrderStatus)
    (now : ℚ) : Monitor :=
  match monitoredOrders.get? orderId with
  | none => monitoredOrders
  | some info =>
    if status ∈ OrderStatus.terminalStatuses then monitoredOrders.erase orderId
    else if status ∈ acknowledged then
      monitoredOrders.set orderId
        { info with status := status, lastAckTime := now, ackTimeoutReported := false,
                    lastTimeoutReportedAt := 0 }
    else monitoredOrders.set orderId { info with status := status }

/-! ## Checks -/

/-- The timeout of a status, and what its silence is called. -/
def timeoutOf (timeouts : Timeouts) : OrderStatus → Option (ℚ × String)
  | .submitUnknown => some (timeouts.unknownRecheck, "Order submit outcome unknown")
  | .cancelUnknown => some (timeouts.unknownRecheck, "Order cancel outcome unknown")
  | .cancelling => some (timeouts.cancelTimeout, "Order cancel outcome unknown")
  | .submitting => some (timeouts.ackTimeout, "Order ACK Timeout")
  | .pendingAck => some (timeouts.ackTimeout, "Order ACK Timeout")
  | .new => some (timeouts.activeOrderAuditInterval, "Active order truth audit")
  | .partiallyFilled => some (timeouts.activeOrderAuditInterval, "Active order truth audit")
  | _ => none

/-- After how long an order in this status is reported again. -/
def recheckOf (timeouts : Timeouts) (status : OrderStatus) : ℚ :=
  if status = .submitUnknown ∨ status = .cancelUnknown then timeouts.unknownRecheck
    else timeouts.ackTimeoutRecheck

/-- The order has been silent for too long. -/
def Overdue (timeouts : Timeouts) (now : ℚ) (info : Info) : Prop :=
  ∃ rule ∈ timeoutOf timeouts info.status,
    rule.1 < now - if info.lastAckTime ≠ 0 then info.lastAckTime else info.submitTime

instance (timeouts : Timeouts) (now : ℚ) (info : Info) : Decidable (Overdue timeouts now info) :=
  inferInstanceAs (Decidable (∃ rule, rule ∈ timeoutOf timeouts info.status ∧ _))

/-- A check reports it: it is overdue, and was not reported or is to be reported again. -/
def due (timeouts : Timeouts) (now : ℚ) (info : Info) : Bool :=
  decide (Overdue timeouts now info)
    && !(info.ackTimeoutReported && decide (now - info.lastTimeoutReportedAt <
      recheckOf timeouts info.status))

def reported (now : ℚ) (info : Info) : Info :=
  { info with ackTimeoutReported := true, lastTimeoutReportedAt := now }

/-- What is reported of an order: the reason, and which order it is. -/
def reportOf (timeouts : Timeouts) (entry : String × Info) : String × String :=
  (((timeoutOf timeouts entry.2.status).map Prod.snd).getD "", entry.1)

/-- `_check_once`: the report, if there is one, and what is known afterwards. -/
def checkOnce (timeouts : Timeouts) (monitoredOrders : Monitor) (now : ℚ) :
    Option (String × String) × Monitor :=
  let scan := monitoredOrders.serveFirst (due timeouts) reported now
  (scan.1.map (reportOf timeouts), scan.2)

/-- The reports of checks at these times. -/
def checks (timeouts : Timeouts) : Monitor → List ℚ → List (String × String)
  | _, [] => []
  | monitoredOrders, now :: times =>
    let check := checkOnce timeouts monitoredOrders now
    check.1.toList ++ checks timeouts check.2 times

theorem checks_eq (timeouts : Timeouts) (monitoredOrders : Monitor) (times : List ℚ) :
    checks timeouts monitoredOrders times
      = (Dict.served (due timeouts) reported monitoredOrders times).map (reportOf timeouts) := by
  induction times generalizing monitoredOrders with
  | nil => rfl
  | cons now times ih =>
    simp only [checks, Dict.served, checkOnce, List.map_append, ih]
    cases (monitoredOrders.serveFirst (due timeouts) reported now).1 with
    | none => rfl
    | some entry => rfl

/-! ## Who is monitored -/

/-- A call of the monitor. -/
inductive Action
  | orderSubmitted (data : OrderSubmitted)
  | trackPrepared (order : Order) (submittedAt : ℚ)
  | recover (order : Order) (recoveredAt : ℚ)
  | orderUpdate (orderId : String) (status : OrderStatus) (now : ℚ)
  | check (now : ℚ)
  deriving DecidableEq, Repr

def step (timeouts : Timeouts) (monitoredOrders : Monitor) : Action → Monitor
  | .orderSubmitted data => onOrderSubmitted monitoredOrders data
  | .trackPrepared order submittedAt => trackPreparedOrder monitoredOrders order submittedAt
  | .recover order recoveredAt => recoverOrder monitoredOrders order recoveredAt
  | .orderUpdate orderId status now => onOrderUpdate monitoredOrders orderId status now
  | .check now => (checkOnce timeouts monitoredOrders now).2

/-- The monitor after these calls. -/
def run (timeouts : Timeouts) (actions : List Action) : Monitor :=
  actions.foldl (step timeouts) ∅

/-- What the calls so far have said about an order. -/
inductive Standing
  | unknown
  | live (status : OrderStatus)
  | finished
  deriving DecidableEq, Repr

/-- What a call says about an order that is not finished. -/
def Standing.hears (orderId : String) (standing : Standing) : Action → Standing
  | .orderSubmitted data =>
    if data.orderId ≠ orderId then standing
    else if data.status ∈ OrderStatus.terminalStatuses then finished
    else match standing with
      | live status => live status
      | _ => live data.status
  | .trackPrepared order _ => if order.clientOid = orderId then live order.status else standing
  | .recover order _ => if order.clientOid = orderId then live order.status else standing
  | .orderUpdate id status _ =>
    if id ≠ orderId then standing
    else if status ∈ OrderStatus.terminalStatuses then finished
    else match standing with
      | live _ => live status
      | other => other
  | .check _ => standing

/-- A finished order stays finished. -/
def Standing.after (orderId : String) (standing : Standing) (action : Action) : Standing :=
  if standing = finished then finished else standing.hears orderId action

def standing (orderId : String) (actions : List Action) : Standing :=
  actions.foldl (Standing.after orderId) .unknown

/-- The call brings the order in. -/
def Action.Starts (orderId : String) : Action → Prop
  | orderSubmitted data => data.orderId = orderId ∧ data.status ∉ OrderStatus.terminalStatuses
  | trackPrepared order _ => order.clientOid = orderId
  | recover order _ => order.clientOid = orderId
  | _ => False

/-- The order a call brings in is not at its end. -/
def Action.Active : Action → Prop
  | trackPrepared order _ => order.status ∉ OrderStatus.terminalStatuses
  | recover order _ => order.status ∉ OrderStatus.terminalStatuses
  | _ => True

instance (orderId : String) : DecidablePred (Action.Starts orderId) := fun action =>
  match action with
  | .orderSubmitted data => inferInstanceAs (Decidable (data.orderId = orderId ∧ _))
  | .trackPrepared order _ => inferInstanceAs (Decidable (order.clientOid = orderId))
  | .recover order _ => inferInstanceAs (Decidable (order.clientOid = orderId))
  | .orderUpdate _ _ _ => inferInstanceAs (Decidable False)
  | .check _ => inferInstanceAs (Decidable False)

instance : DecidablePred Action.Active := fun action =>
  match action with
  | .trackPrepared order _ => inferInstanceAs (Decidable (order.status ∉ _))
  | .recover order _ => inferInstanceAs (Decidable (order.status ∉ _))
  | .orderSubmitted _ => inferInstanceAs (Decidable True)
  | .orderUpdate _ _ _ => inferInstanceAs (Decidable True)
  | .check _ => inferInstanceAs (Decidable True)

/-- Only an order that is not finished is brought in, and only while it is active. -/
def Standing.Admits (orderId : String) (said : Standing) (action : Action) : Prop :=
  action.Starts orderId → said ≠ finished ∧ action.Active

instance (orderId : String) (said : Standing) (action : Action) :
    Decidable (said.Admits orderId action) :=
  inferInstanceAs (Decidable (action.Starts orderId → said ≠ .finished ∧ action.Active))

/-- **An order is brought in before it finishes**, and not by an event that was queued until
after its end. -/
def Timely (orderId : String) (actions : List Action) : Prop :=
  Run.Along (fun (said : Standing) action =>
    some (said.after orderId action)) (Standing.Admits orderId) .unknown
    actions

instance (orderId : String) (actions : List Action) : Decidable (Timely orderId actions) :=
  inferInstanceAs (Decidable (Run.Along _ _ _ _))

/-- What the monitor knows of an order is its standing. -/
def Agrees (standing : Standing) (known : Option Info) : Prop :=
  match standing with
  | .live status =>
    ∃ info, known = some info ∧ info.status = status ∧ status ∉ OrderStatus.terminalStatuses
  | _ => known = none

section Agreement

variable {timeouts : Timeouts} {orderId : String} {said : Standing} {monitoredOrders : Monitor}

/-- A check changes what was reported, not what is known of an order. -/
theorem get?_checkOnce (timeouts : Timeouts) (now : ℚ) :
    (checkOnce timeouts monitoredOrders now).2.get? orderId = monitoredOrders.get? orderId
      ∨ ∃ info, monitoredOrders.get? orderId = some info
        ∧ (checkOnce timeouts monitoredOrders now).2.get? orderId =
          some (reported now info) := by
  unfold checkOnce Dict.serveFirst
  cases hdue : monitoredOrders.firstDue (due timeouts now) with
  | none => exact .inl rfl
  | some entry =>
    obtain ⟨id, info⟩ := entry
    simp only
    by_cases hid : orderId = id
    · subst hid
      refine .inr ⟨info, Dict.get?_eq_some_iff.mpr (List.mem_of_find?_eq_some hdue), ?_⟩
      rw [Dict.get?_set_self]
    · exact .inl (Dict.get?_set_of_ne _ _ hid)

/-- What is not monitored stays so until a call brings it in. -/
theorem step_unmonitored {action : Action} (h : monitoredOrders.get? orderId = none)
    (hstarts : ¬action.Starts orderId) :
    (step timeouts monitoredOrders action).get? orderId = none := by
  cases action with
  | orderSubmitted data =>
    simp only [step, onOrderSubmitted]
    split
    · by_cases hid : orderId = data.orderId
      · rw [hid, Dict.get?_erase_self]
      · rw [Dict.get?_erase_of_ne _ hid]
        exact h
    · rename_i hstatus
      have hid : orderId ≠ data.orderId := fun hid => hstarts ⟨hid.symm, hstatus⟩
      split
      · exact h
      · rw [Dict.get?_set_of_ne _ _ hid]
        exact h
  | trackPrepared order submittedAt =>
    have hid : orderId ≠ order.clientOid := fun hid => hstarts hid.symm
    exact (Dict.get?_set_of_ne _ _ hid).trans h
  | recover order recoveredAt =>
    have hid : orderId ≠ order.clientOid := fun hid => hstarts hid.symm
    exact (Dict.get?_set_of_ne _ _ hid).trans h
  | orderUpdate id status now =>
    simp only [step, onOrderUpdate]
    cases hget : monitoredOrders.get? id with
    | none => exact h
    | some info =>
      have hid : orderId ≠ id := by
        rintro rfl
        rw [h] at hget
        cases hget
      simp only
      split
      · exact (Dict.get?_erase_of_ne _ hid).trans h
      · split
        · exact (Dict.get?_set_of_ne _ _ hid).trans h
        · exact (Dict.get?_set_of_ne _ _ hid).trans h
  | check now =>
    rcases get?_checkOnce timeouts now with hsame | ⟨info, hinfo, _⟩
    · exact hsame.trans h
    · rw [h] at hinfo
      cases hinfo

/-- An order that is brought in is live. -/
theorem agrees_set {id : String} {info : Info} {status : OrderStatus}
    (h : Agrees said (monitoredOrders.get? orderId))
    (hstatus : info.status = status)
    (hactive : id = orderId → status ∉ OrderStatus.terminalStatuses) :
    Agrees (if id = orderId then .live status else
      said) ((monitoredOrders.set id info).get? orderId) := by
  by_cases hid : id = orderId
  · subst hid
    rw [if_pos rfl, Dict.get?_set_self]
    exact ⟨info, rfl, hstatus, hactive rfl⟩
  · rw [if_neg hid, Dict.get?_set_of_ne _ _ (Ne.symm hid)]
    exact h

/-- **What a call says is what is known afterwards**, of an order that is not finished. -/
theorem step_agrees {action : Action} (h : Agrees said (monitoredOrders.get? orderId))
    (hopen : said ≠ .finished)
    (hactive : action.Starts orderId → action.Active) :
    Agrees (said.hears orderId action)
      ((step timeouts monitoredOrders action).get? orderId) := by
  cases action with
  | orderSubmitted data =>
    simp only [Standing.hears, step, onOrderSubmitted]
    by_cases hid : data.orderId = orderId
    · subst hid
      rw [if_neg (not_not.mpr rfl)]
      by_cases hstatus : data.status ∈ OrderStatus.terminalStatuses
      · rw [if_pos hstatus, if_pos hstatus]
        exact Dict.get?_erase_self _ _
      rw [if_neg hstatus, if_neg hstatus]
      cases said with
      | finished => exact absurd rfl hopen
      | unknown =>
        have hnone : monitoredOrders.get? data.orderId = none := h
        rw [if_neg (by unfold Dict.contains; rw [hnone]; exact Bool.false_ne_true),
          Dict.get?_set_self]
        exact ⟨_, rfl, rfl, hstatus⟩
      | live status =>
        obtain ⟨info, hinfo, hlive⟩ := h
        rw [if_pos (by unfold Dict.contains; rw [hinfo]; rfl)]
        exact ⟨info, hinfo, hlive⟩
    · rw [if_pos hid]
      split
      · rw [Dict.get?_erase_of_ne _ (Ne.symm hid)]
        exact h
      split
      · exact h
      · rw [Dict.get?_set_of_ne _ _ (Ne.symm hid)]
        exact h
  | trackPrepared order submittedAt =>
    simp only [Standing.hears, step, trackPreparedOrder]
    exact agrees_set h rfl hactive
  | recover order recoveredAt =>
    simp only [Standing.hears, step, recoverOrder]
    exact agrees_set h rfl hactive
  | orderUpdate id status now =>
    simp only [Standing.hears, step, onOrderUpdate]
    by_cases hid : id = orderId
    · subst hid
      rw [if_neg (not_not.mpr rfl)]
      cases said with
      | finished => exact absurd rfl hopen
      | unknown =>
        have hnone : monitoredOrders.get? id = none := h
        rw [hnone]
        split
        · exact hnone
        · exact hnone
      | live before =>
        obtain ⟨info, hinfo, _⟩ := h
        rw [hinfo]
        simp only
        by_cases hstatus : status ∈ OrderStatus.terminalStatuses
        · rw [if_pos hstatus, if_pos hstatus]
          exact Dict.get?_erase_self _ _
        rw [if_neg hstatus, if_neg hstatus]
        split
        · exact ⟨_, Dict.get?_set_self _ _ _, rfl, hstatus⟩
        · exact ⟨_, Dict.get?_set_self _ _ _, rfl, hstatus⟩
    · rw [if_pos hid]
      cases hget : monitoredOrders.get? id with
      | none => exact h
      | some info =>
        simp only
        split
        · rw [Dict.get?_erase_of_ne _ (Ne.symm hid)]
          exact h
        split
        · rw [Dict.get?_set_of_ne _ _ (Ne.symm hid)]
          exact h
        · rw [Dict.get?_set_of_ne _ _ (Ne.symm hid)]
          exact h
  | check now =>
    simp only [Standing.hears, step]
    rcases get?_checkOnce timeouts now with hsame | ⟨info, hinfo, hreported⟩
    · rw [hsame]
      exact h
    rw [hinfo] at h
    rw [hreported]
    cases said with
    | live status =>
      obtain ⟨_, hsome, hstatus, hlive⟩ := h
      cases hsome
      exact ⟨_, rfl, hstatus, hlive⟩
    | unknown => cases h
    | finished => cases h

/-- **The run lemma**: the monitor knows of every order what its callers have said. -/
theorem run_agrees {actions : List Action} (h : Agrees said (monitoredOrders.get? orderId))
    (htimely : Run.Along (fun (said : Standing) action => some (said.after orderId action))
      (Standing.Admits orderId) said actions) :
    Agrees (actions.foldl (Standing.after orderId) said)
      ((actions.foldl (step timeouts) monitoredOrders).get? orderId) := by
  induction actions generalizing said monitoredOrders with
  | nil => exact h
  | cons action actions ih =>
    obtain ⟨hstarts, hrest⟩ := htimely
    refine ih ?_ (hrest _ rfl)
    unfold Standing.after
    by_cases hfinished : said = .finished
    · rw [if_pos hfinished]
      rw [hfinished] at h
      exact step_unmonitored h fun hstart => (hstarts hstart).1 hfinished
    · rw [if_neg hfinished]
      exact step_agrees h hfinished fun hstart => (hstarts hstart).2

theorem standing_append_of_finished {front : List Action} (back : List Action)
    (h : standing orderId front = .finished) : standing orderId (front ++ back) = .finished := by
  have hstays : back.foldl (Standing.after orderId) .finished = .finished := by
    induction back with
    | nil => rfl
    | cons action back ih => exact ih
  unfold standing at h ⊢
  rw [List.foldl_append, h, hstays]

end Agreement

/-! ## Who is reported -/

section Reports

variable {timeouts : Timeouts} {now later : ℚ} {info : Info}

/-- Being overdue does not pass. -/
theorem due_mono (hle : now ≤ later) (h : due timeouts now info = true) :
    due timeouts later info = true := by
  unfold due at h ⊢
  rw [Bool.and_eq_true, decide_eq_true_eq, Bool.not_eq_true', Bool.and_eq_false_iff,
    decide_eq_false_iff_not] at h ⊢
  obtain ⟨⟨rule, hrule, helapsed⟩, hreported⟩ := h
  refine ⟨⟨rule, hrule, helapsed.trans_le (sub_le_sub_right hle _)⟩,
    hreported.imp id fun hrecheck hlt => ?_⟩
  exact hrecheck ((sub_le_sub_right hle _).trans_lt hlt)

/-- An order that was reported is not due again before its recheck. -/
theorem due_reported (h : later - now < recheckOf timeouts info.status) :
    due timeouts later (reported now info) = false := by
  unfold due reported
  rw [Bool.and_eq_false_iff]
  right
  simp only [Bool.true_and, decide_eq_true h, Bool.not_true]

/-- **Nobody starves behind orders that stay silent**: of a series of checks, one reports an
order that is due, as long as there are fewer orders ahead of it that are due by the last of them
than checks, and none of those is to be reported a second time within the series. -/
theorem reported_within {monitoredOrders : Monitor} {ahead behind : List (String × Info)}
    {orderId : String}
    {first last : ℚ} {times : List ℚ}
    (hitems : monitoredOrders.items = ahead ++ (orderId, info) :: behind)
    (hdue : due timeouts first info = true) (htimes : ∀ t ∈ times, first ≤ t ∧ t ≤ last)
    (hcount : (ahead.filter fun entry => due timeouts last entry.2).length < times.length)
    (hrecheck : ∀ entry ∈ ahead, due timeouts last entry.2 = true →
      last - first < recheckOf timeouts entry.2.status) :
    reportOf timeouts (orderId, info) ∈ checks timeouts monitoredOrders times := by
  rw [checks_eq]
  refine List.mem_map_of_mem (Dict.served_within hitems (fun t ht =>
    due_mono (htimes t ht).1 hdue)
    (fun t ht a => due_mono (htimes t ht).2) (fun t ht entry hentry hnow =>
      due_reported ?_) hcount)
  have hlast := hrecheck entry hentry (due_mono (htimes t ht).2 hnow)
  linarith [(htimes t ht).1]

end Reports

/-- **No ghosts, and no order that waits for ever**: an order whose terminal status has been
processed is not monitored again and a live one is, with what was said of it last; and an order
that is due is reported within as many checks as there are orders ahead of it that are due by
then, and one more. -/
theorem monitors_live_orders (timeouts : Timeouts) (actions : List Action) :
    (∀ orderId, Timely orderId actions →
      (∀ front back, actions = front ++ back → standing orderId front = .finished →
        (run timeouts actions).get? orderId = none)
      ∧ ∀ status, standing orderId actions = .live status →
        ∃ info, (run timeouts actions).get? orderId = some info ∧ info.status = status)
    ∧ ∀ (orderId : String) (info : Info) (ahead behind : List (String × Info)) (first last : ℚ)
      (times : List ℚ),
      (run timeouts actions).items = ahead ++ (orderId, info) :: behind →
      due timeouts first info = true →
      (∀ t ∈ times, first ≤ t ∧ t ≤ last) →
      (ahead.filter fun entry => due timeouts last entry.2).length < times.length →
      (∀ entry ∈ ahead, due timeouts last entry.2 = true →
        last - first < recheckOf timeouts entry.2.status) →
      reportOf timeouts (orderId, info) ∈ checks timeouts (run timeouts actions) times := by
  refine ⟨fun orderId htimely => ?_,
    fun orderId info ahead behind first last times hitems hdue htimes hcount hrecheck =>
    reported_within hitems hdue htimes hcount hrecheck⟩
  have hempty : Agrees .unknown ((∅ : Monitor).get? orderId) := rfl
  have hagrees : Agrees (standing orderId actions) ((run timeouts actions).get? orderId) :=
    run_agrees hempty htimely
  constructor
  · intro front back hactions hfinished
    rw [hactions] at hagrees ⊢
    rw [standing_append_of_finished back hfinished] at hagrees
    exact hagrees
  · intro status hlive
    rw [hlive] at hagrees
    obtain ⟨info, hinfo, hstatus, _⟩ := hagrees
    exact ⟨info, hinfo, hstatus⟩

section Orders

/-- An order in this status. -/
def orderOf (clientOid : String) (status : OrderStatus) : Order :=
  { clientOid := clientOid, status := status,
    intent := { strategyId := "s", symbol := "BTCUSDT", side := .buy, price := 1, volume := 1 } }

/-- Two orders without an answer, and one that is filled. -/
def threeOrders : List Action :=
  [.trackPrepared (orderOf "a" .submitting) 1, .trackPrepared (orderOf "b" .submitting) 1,
    .trackPrepared (orderOf "c" .submitting) 1, .orderUpdate "c" .filled 2]

/-- What is known of the other two. -/
def silent : Info :=
  { symbol := "BTCUSDT", submitTime := 1, lastAckTime := 0, status := .submitting,
    ackTimeoutReported := false,
    lastTimeoutReportedAt := 0 }

/-- The filled one is gone, and the second is reported by the second check. -/
theorem monitors_live_orders_three :
    (run {} threeOrders).get? "c" = none
      ∧ (∃ info, (run {} threeOrders).get? "b" = some info ∧ info.status = .submitting)
      ∧ ("Order ACK Timeout", "b") ∈ checks {} (run {} threeOrders) [10, 11] := by
  obtain ⟨horders, hreports⟩ := monitors_live_orders {} threeOrders
  obtain ⟨hgone, _⟩ := horders "c" (by decide)
  obtain ⟨_, hlive⟩ := horders "b" (by decide)
  refine ⟨hgone threeOrders [] (List.append_nil _).symm (by decide),
    hlive .submitting (by decide), ?_⟩
  exact hreports "b" silent [("a", silent)] [] 10 11 [10, 11] (by decide +kernel)
    (by decide +kernel)
    (by decide +kernel) (by decide +kernel) (by decide +kernel)

/-- **A ghost, and an order that starves**: an event that is delivered after the order was filled
brings it back; an order whose outcome stays unknown is reported by every check, and one behind
it by none; and an order that was reported is not reported again before its recheck, however long
it is overdue. -/
theorem late_event_revives_and_unknown_hides :
    ((run {} [.trackPrepared (orderOf "a" .submitting) 1, .orderUpdate "a" .filled 2,
        .orderSubmitted { symbol := "BTCUSDT", orderId := "a", timestamp := 1 }]).get?
          "a").isSome = true
      ∧ checks {} (run {} [.trackPrepared (orderOf "a" .submitting) 1,
          .orderUpdate "a" .submitUnknown 2,
          .trackPrepared (orderOf "b" .submitting) 1]) [10, 11, 12, 13]
        = List.replicate 4 ("Order submit outcome unknown", "a")
      ∧ checks {} (run {} [.trackPrepared (orderOf "a" .submitting) 1]) [10, 11, 12]
        = [("Order ACK Timeout", "a")] := by
  decide +kernel

end Orders

end OrderMonitor

end ChronosHFT.Oms
