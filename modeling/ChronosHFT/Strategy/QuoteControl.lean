import ChronosHFT.Lib.Run
import ChronosHFT.Strategy.Quotes

/-!
# Control of the quotes

What holds of a strategy's quotes over every run of the system.

`Shadow` is the agreement of the strategy's structures: a quote slot names an order exactly when
the order is active and belongs there, so there is at most one active order for each symbol and
side; the orders marked as cancelling are active; and an order is active from its accepted submit
until a terminal snapshot of it is delivered.  No step breaks it.

`Firm` says that a mark stands for a cancel that is outstanding, so that it never hides a
decision to withdraw an order.  It is lost exactly when the OMS gives a marked order back as
live: the mark is taken off by a refusal, by an exception and by a terminal snapshot, and by
nothing else. -/

namespace ChronosHFT.Strategy

open List Oms

namespace Desk

/-! ## Slots -/

theorem quote_setQuote (d : Desk) (symbol : String) (side : Side) (quote : Quote)
    (symbol' : String) (side' : Side) :
    (d.setQuote symbol side quote).quote symbol' side' =
      if symbol' = symbol ∧ side' = side then quote else d.quote symbol' side' := by
  unfold setQuote Desk.quote
  by_cases hsymbol : symbol' = symbol
  · subst hsymbol
    cases side <;> cases side' <;> simp
  · cases side <;> cases side' <;> simp [Dict.getD_set, hsymbol]

/-! ## What a cancel leaves alone -/

/-- Only marks, cancels and records differ. -/
structure Quiet (d d' : Desk) : Prop where
  quotes : d'.quotes = d.quotes
  activeOrders : d'.activeOrders = d.activeOrders
  orders : d'.oms.orders = d.oms.orders
  nextOid : d'.oms.nextOid = d.oms.nextOid
  snapshots : d'.oms.snapshots = d.oms.snapshots
  delivered : d'.delivered = d.delivered
  submits : ∀ intent oid, .submit intent (some oid) ∈ d'.calls ↔
    .submit intent (some oid) ∈ d.calls

theorem cancelOrder_quiet (env : Env) (d : Desk) (oid : ℕ) :
    Quiet d (d.cancelOrder env oid).1 := by
  unfold cancelOrder callCancel
  dsimp only
  split
  · exact ⟨rfl, rfl, rfl, rfl, rfl, rfl, fun _ _ => Iff.rfl⟩
  · cases env.answers d.calls.length <;>
      exact ⟨rfl, rfl, rfl, rfl, rfl, rfl, fun _ _ => by simp⟩

/-- A cancel marks its own order only, and only when the order is active. -/
theorem cancelOrder_marks (env : Env) (d : Desk) (oid other : ℕ)
    (h : other ∈ (d.cancelOrder env oid).1.ordersCancelling) :
    other ∈ d.ordersCancelling ∨ (other = oid ∧ d.activeOrders.contains oid = true) := by
  unfold cancelOrder callCancel at h
  dsimp only at h
  split at h
  · exact Or.inl h
  next hgo =>
  have hactive : d.activeOrders.contains oid = true := by
    cases hcontains : d.activeOrders.contains oid with
    | true => rfl
    | false =>
      rw [hcontains] at hgo
      exact absurd rfl hgo
  cases hanswer : env.answers d.calls.length <;> rw [hanswer] at h
  · rcases Finset.mem_insert.mp h with heq | hold
    · exact Or.inr ⟨heq, hactive⟩
    · exact Or.inl hold
  all_goals
    obtain ⟨hne, hmem⟩ := Finset.mem_erase.mp h
    rcases Finset.mem_insert.mp hmem with heq | hold
    · exact absurd heq hne
    · exact Or.inl hold

/-! ## Marks stand for outstanding cancels -/

/-- Every mark stands for an outstanding cancel, and so far every decision to withdraw an active
order whose cancel was not outstanding has called the execution. -/
structure Firm (d : Desk) : Prop where
  held : ∀ oid ∈ d.ordersCancelling, oid ∈ d.oms.outstanding
  carried : ∀ removal ∈ d.removals,
    removal.active = true → removal.outstanding = false → removal.called = true

theorem cancelOrder_firm (env : Env) {d : Desk} (h : d.Firm) (oid : ℕ) :
    (d.cancelOrder env oid).1.Firm := by
  have hrecord : ∀ suppressed : Bool,
      suppressed = (!d.activeOrders.contains oid || decide (oid ∈ d.ordersCancelling)) →
      ∀ removal ∈ d.removals ++ [⟨oid, d.activeOrders.contains oid,
        decide (oid ∈ d.oms.outstanding), !suppressed⟩],
      removal.active = true → removal.outstanding = false → removal.called = true := by
    intro suppressed hsuppressed removal hmem hactive hout
    rcases mem_append.mp hmem with hold | hnew
    · exact h.carried removal hold hactive hout
    obtain rfl := mem_singleton.mp hnew
    dsimp only at hactive hout ⊢
    have hfree : oid ∉ d.ordersCancelling :=
      fun hmark => of_decide_eq_false hout (h.held oid hmark)
    rw [hsuppressed, hactive, decide_eq_false hfree]
    rfl
  unfold cancelOrder callCancel
  dsimp only
  split
  · next hgo =>
    refine ⟨h.held, ?_⟩
    have := hrecord _ rfl
    exact this
  next hgo =>
  have hrecorded := hrecord _ rfl
  cases env.answers d.calls.length with
  | accepted =>
    refine ⟨?_, hrecorded⟩
    intro other hmem
    rcases Finset.mem_insert.mp hmem with heq | hold
    · exact heq ▸ Finset.mem_insert_self _ _
    · exact Finset.mem_insert_of_mem (h.held other hold)
  | refused | raised =>
    refine ⟨?_, hrecorded⟩
    intro other hmem
    obtain ⟨hne, hmem⟩ := Finset.mem_erase.mp hmem
    exact h.held other ((Finset.mem_insert.mp hmem).resolve_left hne)

/-! ## What a callback does -/

/-- An accepted submit: a fresh order of the OMS that the strategy has as active. -/
def acceptOrder (d : Desk) (intent : OrderIntent) : Desk :=
  { d with
    oms := { d.oms with
      orders := d.oms.orders.set d.oms.nextOid { intent := intent }, nextOid :=
      d.oms.nextOid + 1 }
    calls := d.calls ++ [.submit intent (some d.oms.nextOid)]
    activeOrders := d.activeOrders.set d.oms.nextOid intent }

/-- A submit that came to nothing. -/
def failSubmit (d : Desk) (intent : OrderIntent) : Desk :=
  { d with calls := d.calls ++ [.submit intent none] }

theorem postInit_same (intent : OrderIntent) :
    intent.postInit.symbol = intent.symbol ∧ intent.postInit.side = intent.side := by
  unfold OrderIntent.postInit
  dsimp only
  split_ifs <;> exact ⟨rfl, rfl⟩

theorem adaptIntent_same {mode : TradingMode} {intent adapted : OrderIntent}
    (h : adaptIntent mode intent = some adapted) :
    adapted.symbol = intent.symbol ∧ adapted.side = intent.side := by
  unfold adaptIntent at h
  have hkeep : ∀ {i : OrderIntent}, some intent = some i →
      i.symbol = intent.symbol ∧ i.side = intent.side := by
    intro i heq
    cases heq
    exact ⟨rfl, rfl⟩
  split at h
  · split at h
    · exact hkeep h
    · cases h
  · split at h
    · exact hkeep h
    · cases h
  · split at h
    · cases h
      exact postInit_same _
    · exact hkeep h
  · exact hkeep h

/-- What `send_intent` comes to. -/
theorem sendIntent_cases (env : Env) (mode : TradingMode) (d : Desk) (intent : OrderIntent) :
    d.sendIntent env mode intent = (d, some none) ∨
      (∃ tried answer, d.sendIntent env mode intent = (d.failSubmit tried, answer) ∧
        (answer = some none ∨ answer = none)) ∨
      ∃ adapted, adapted.symbol = intent.symbol ∧ adapted.side = intent.side ∧
        d.sendIntent env mode intent = (d.acceptOrder adapted, some (some d.oms.nextOid)) := by
  unfold sendIntent
  dsimp only
  split
  · exact Or.inl rfl
  next adapted hadapted =>
  obtain ⟨hsymbol, hside⟩ := adaptIntent_same hadapted
  split
  · exact Or.inl rfl
  unfold submit
  cases env.answers d.calls.length with
  | accepted => exact Or.inr (Or.inr ⟨adapted, hsymbol, hside, rfl⟩)
  | refused => exact Or.inr (Or.inl ⟨adapted, _, rfl, Or.inl rfl⟩)
  | raised => exact Or.inr (Or.inl ⟨adapted, _, rfl, Or.inr rfl⟩)

/-- The quotes of a symbol were brought up to date. -/
def stamp (d : Desk) (symbol : String) (now : ℚ) : Desk :=
  { d with quotes := d.quotes.set symbol { d.quotes.getD symbol {} with
    lastUpdate := some now } }

/-- What an invariant of the callbacks has to survive: a cancel, a slot without an order that is
written without one, a submit that fails, one that is accepted and takes its slot, and two
fields that no invariant reads. -/
structure CallbackRules (env : Env) (I : Desk → Prop) : Prop where
  cancel : ∀ {d} oid, I d → I (d.cancelOrder env oid).1
  clear : ∀ {d symbol side quote}, (d.quote symbol side).oid = none → quote.oid = none → I d →
    I (d.setQuote symbol side quote)
  fail : ∀ {d} intent, I d → I (d.failSubmit intent)
  accept : ∀ {d : Desk} {intent : OrderIntent} {quote : Quote}, quote.oid = some d.oms.nextOid →
    ((d.quote intent.symbol intent.side).oid = none ∨ d.activeOf intent.symbol = []) → I d →
    I ((d.acceptOrder intent).setQuote intent.symbol intent.side quote)
  stamp : ∀ {d} symbol now, I d → I (d.stamp symbol now)
  expiry : ∀ {d : Desk}, I d → I { d with calibrationExpiryHandled := true }

namespace CallbackRules

variable {env : Env} {I : Desk → Prop}

variable {d : Desk}

theorem cancelEach (h : CallbackRules env I) (oids : List ℕ) (hI : I d) :
    I (d.cancelEach env oids).1 := by
  induction oids generalizing d with
  | nil => exact hI
  | cons oid rest ih =>
    have hcancelled := h.cancel oid hI
    rw [Desk.cancelEach]
    generalize d.cancelOrder env oid = outcome at hcancelled ⊢
    obtain ⟨cancelled, answer⟩ := outcome
    cases answer with
    | none => exact hcancelled
    | some _ => exact ih hcancelled

/-- A submit and the slot it takes. -/
theorem send (h : CallbackRules env I) (mode : TradingMode) (intent : OrderIntent)
    (quote : ℕ → Quote) (hquote : ∀ oid, (quote oid).oid = some oid)
    (hfree : (d.quote intent.symbol intent.side).oid = none ∨ d.activeOf intent.symbol = [])
    (hI : I d) : I (match d.sendIntent env mode intent with
      | (sent, some (some oid)) => (sent.setQuote intent.symbol intent.side (quote oid), true)
      | (sent, some none) => (sent, true)
      | (sent, none) => (sent, false)).1 := by
  rcases sendIntent_cases env mode d intent with
    heq | ⟨tried, answer, heq, rfl | rfl⟩ | ⟨adapted, hsymbol, hside, heq⟩ <;> rw [heq]
  · exact hI
  · exact h.fail tried hI
  · exact h.fail tried hI
  · dsimp only
    rw [← hsymbol, ← hside] at hfree ⊢
    exact h.accept (hquote _) hfree hI

theorem updateSide (h : CallbackRules env I) (mode : TradingMode) (info : ContractInfo)
    (symbol : String) (side : Side) (target : Target) (timeInForce : String) (hI : I d) :
    I (d.updateSide env mode info symbol side target timeInForce).1 := by
  unfold Desk.updateSide
  dsimp only
  split
  · split
    · exact h.cancelEach _ hI
    · next hnone => exact h.clear hnone hnone hI
  split
  · split
    · exact h.cancelEach _ hI
    next hnone =>
      obtain ⟨hsymbol, hside⟩ := postInit_same
        { strategyId := env.strategyName, symbol := symbol, side := side, price := target.price
          volume := target.volume, timeInForce := timeInForce, isPostOnly := true }
      have hsent := h.send mode (OrderIntent.postInit
        { strategyId := env.strategyName, symbol := symbol, side := side, price := target.price
          volume := target.volume, timeInForce := timeInForce, isPostOnly := true })
        (fun oid => { oid := some oid, price := some target.price,
                      volume := some target.volume })
        (fun _ => rfl) (Or.inl (by rw [hsymbol, hside]; exact hnone)) hI
      rw [hsymbol, hside] at hsent
      exact hsent
  · exact hI

theorem updateQuotes (h : CallbackRules env I) (symbol : String) (update : QuoteUpdate)
    (hI : I d) : I (d.updateQuotes env symbol update).1 := by
  unfold Desk.updateQuotes
  split
  · exact hI
  split
  · exact hI
  next info hinfo =>
  dsimp only
  split
  · exact hI
  have hbid := h.updateSide update.mode info symbol .buy
    { update.bid with volume := max 0 update.bid.volume } update.timeInForce hI
  generalize d.updateSide env update.mode info symbol .buy
    { update.bid with volume := max 0 update.bid.volume } update.timeInForce = first at hbid ⊢
  obtain ⟨d₁, ok₁⟩ := first
  cases ok₁ with
  | false => exact hbid
  | true =>
    have hask := h.updateSide update.mode info symbol .sell
      { update.ask with volume := max 0 update.ask.volume } update.timeInForce hbid
    dsimp only at hask ⊢
    generalize d₁.updateSide env update.mode info symbol .sell
      { update.ask with volume := max 0 update.ask.volume } update.timeInForce = second at hask ⊢
    obtain ⟨d₂, ok₂⟩ := second
    cases ok₂ with
    | false => exact hask
    | true => exact h.stamp symbol update.now hask

theorem expireCalibration (h : CallbackRules env I) (symbol : String)
    (transition : Bool) (hI : I d) : I (d.expireCalibration env symbol transition).1 := by
  unfold Desk.expireCalibration
  split
  · exact h.cancelEach _ hI
  dsimp only
  split
  · exact h.expiry hI
  · exact h.cancelEach _ (h.expiry hI)

theorem runCalibrationCycle (h : CallbackRules env I) (symbol : String)
    (cycle : CalibrationCycle) (hI : I d) : I (d.runCalibrationCycle env symbol cycle).1 := by
  unfold Desk.runCalibrationCycle
  dsimp only
  split
  · exact h.expireCalibration symbol cycle.transition hI
  split
  · exact h.cancelEach _ hI
  next hnone =>
  have hempty : d.activeOf symbol = [] := by
    rw [Nat.pos_iff_ne_zero, not_not, Nat.max_eq_zero_iff] at hnone
    exact length_eq_zero_iff.mp hnone.1
  split
  · exact hI
  next order horder =>
  obtain ⟨hsymbol, hside⟩ := postInit_same
    { strategyId := env.strategyName, symbol := symbol, side := order.side
      price := order.price, volume := order.volume, timeInForce := "RPI", isPostOnly := true
      reduceOnly := order.reduceOnly, tag := "rpi_calibration_canary"
      calibrationPermitId := order.permitId, calibrationDepthBps := some order.depthBps
      calibrationReferenceMid := some order.referenceMid }
  have hsent := h.send cycle.mode (OrderIntent.postInit
    { strategyId := env.strategyName, symbol := symbol, side := order.side
      price := order.price, volume := order.volume, timeInForce := "RPI", isPostOnly := true
      reduceOnly := order.reduceOnly, tag := "rpi_calibration_canary"
      calibrationPermitId := order.permitId, calibrationDepthBps := some order.depthBps
      calibrationReferenceMid := some order.referenceMid })
    (fun oid => { oid := some oid, price := some order.price, volume := some order.volume })
    (fun _ => rfl) (Or.inr (by rw [hsymbol]; exact hempty)) hI
  rw [hsymbol, hside] at hsent
  exact hsent

/-- **An invariant that survives what a callback is made of survives the callback**, also when a
call of the execution raises half-way. -/
theorem orderbook (h : CallbackRules env I) (symbol : String) (mid : ℚ) (plan : Plan)
    (hI : I d) : I (d.onOrderbook env symbol mid plan) := by
  have hguarded : I (d.guardStaleQuotes env symbol mid).1 := by
    unfold guardStaleQuotes
    split
    · exact hI
    · exact h.cancelEach _ hI
  unfold onOrderbook
  generalize d.guardStaleQuotes env symbol mid = outcome at hguarded ⊢
  obtain ⟨guarded, ok⟩ := outcome
  cases ok with
  | false => exact hguarded
  | true =>
    cases plan with
    | idle => exact hguarded
    | warmUp => exact h.cancelEach _ hguarded
    | quote update => exact h.updateQuotes symbol update hguarded
    | expire transition => exact h.expireCalibration symbol transition hguarded
    | calibrate cycle => exact h.runCalibrationCycle symbol cycle hguarded

end CallbackRules

theorem firm_callbackRules (env : Env) : CallbackRules env Firm where
  cancel := fun oid h => cancelOrder_firm env h oid
  clear := fun _ _ h => ⟨h.held, h.carried⟩
  fail := fun _ h => ⟨h.held, h.carried⟩
  accept := fun _ _ h => ⟨h.held, h.carried⟩
  stamp := fun _ _ h => ⟨h.held, h.carried⟩
  expiry := fun h => ⟨h.held, h.carried⟩

end Desk

/-- The intent an order of the OMS was filed with. -/
def OmsView.intentOf (oms : OmsView) (oid : ℕ) : Option OrderIntent :=
  (oms.orders.get? oid).map OmsOrder.intent

namespace Desk

/-! ## The shadow of the orders -/

/-- **The structures of the strategy agree** with each other and with what has been answered and
delivered. -/
structure Shadow (d : Desk) : Prop where
  /-- A slot holds an order exactly when the order is active and belongs there. -/
  slots : ∀ symbol side oid, (d.quote symbol side).oid = some oid ↔
    ∃ intent, d.activeOrders.get? oid = some intent ∧ intent.symbol = symbol ∧ intent.side = side
  marks : ∀ oid ∈ d.ordersCancelling, ∃ intent, d.activeOrders.get? oid = some intent
  /-- An order is active from its accepted submit until its terminal snapshot. -/
  accepted : ∀ oid intent, d.activeOrders.get? oid = some intent ↔
    .submit intent (some oid) ∈ d.calls ∧
      ∀ snapshot ∈ d.delivered, snapshot.clientOid = oid →
        snapshot.status ∉ OrderStatus.terminalStatuses
  filed : ∀ oid intent, d.activeOrders.get? oid = some intent → d.oms.intentOf oid = some intent
  numbered : ∀ oid intent, d.oms.intentOf oid = some intent → oid < d.oms.nextOid
  named : ∀ snapshot ∈ d.oms.snapshots, ∃ intent,
    d.oms.intentOf snapshot.clientOid = some intent ∧ intent.symbol = snapshot.symbol
  submitted : ∀ intent oid, .submit intent (some oid) ∈ d.calls → oid < d.oms.nextOid
  known : ∀ snapshot ∈ d.delivered, snapshot.clientOid < d.oms.nextOid

namespace Shadow

variable {d d' : Desk}

theorem of_quiet (h : d.Shadow) (hquiet : Quiet d d')
    (hmarks : ∀ oid ∈ d'.ordersCancelling, ∃ intent, d.activeOrders.get? oid = some intent) :
    d'.Shadow := by
  have hquote : ∀ symbol side, d'.quote symbol side = d.quote symbol side := by
    intro symbol side
    cases side <;> simp only [Desk.quote, hquiet.quotes]
  have hintent : d'.oms.intentOf = d.oms.intentOf := by
    funext oid
    rw [OmsView.intentOf, OmsView.intentOf, hquiet.orders]
  refine ⟨?_, ?_, ?_, ?_, ?_, ?_, ?_, ?_⟩
  · simpa only [hquote, hquiet.activeOrders] using h.slots
  · simpa only [hquiet.activeOrders] using hmarks
  · simpa only [hquiet.activeOrders, hquiet.submits, hquiet.delivered] using h.accepted
  · simpa only [hquiet.activeOrders, hintent] using h.filed
  · simpa only [hintent, hquiet.nextOid] using h.numbered
  · simpa only [hquiet.snapshots, hintent] using h.named
  · simpa only [hquiet.submits, hquiet.nextOid] using h.submitted
  · simpa only [hquiet.delivered, hquiet.nextOid] using h.known

/-- Slots that hold the same orders are as good. -/
theorem of_slots (h : d.Shadow) (hquotes : ∀ symbol side,
    (d'.quote symbol side).oid = (d.quote symbol side).oid)
    (hrest : d' = { d with quotes := d'.quotes,
                           calibrationExpiryHandled := d'.calibrationExpiryHandled }) :
    d'.Shadow := by
  rw [hrest] at hquotes ⊢
  refine ⟨?_, h.marks, h.accepted, h.filed, h.numbered, h.named, h.submitted, h.known⟩
  intro symbol side oid
  rw [hquotes symbol side]
  exact h.slots symbol side oid

/-- An accepted submit takes a slot that was free. -/
theorem accept (h : d.Shadow) {intent : OrderIntent} {quote : Quote}
    (hquote : quote.oid = some d.oms.nextOid)
    (hfree : (d.quote intent.symbol intent.side).oid = none) :
    ((d.acceptOrder intent).setQuote intent.symbol intent.side quote).Shadow := by
  have hfresh : d.activeOrders.get? d.oms.nextOid = none := by
    cases hget : d.activeOrders.get? d.oms.nextOid with
    | none => rfl
    | some i => exact absurd (h.numbered _ i (h.filed _ i hget)) (lt_irrefl _)
  have hintent : ∀ oid, ((d.acceptOrder intent).setQuote intent.symbol intent.side
      quote).oms.intentOf oid = if oid = d.oms.nextOid then some intent
        else d.oms.intentOf oid := by
    intro oid
    show ((d.oms.orders.set d.oms.nextOid { intent := intent }).get? oid).map OmsOrder.intent = _
    rw [Dict.get?_set]
    split <;> rfl
  have hactive : ∀ oid, ((d.acceptOrder intent).setQuote intent.symbol intent.side
      quote).activeOrders.get? oid =
        if oid = d.oms.nextOid then some intent else d.activeOrders.get? oid :=
    fun oid => Dict.get?_set _ _ _ _
  refine ⟨?_, ?_, ?_, ?_, ?_, ?_, ?_, ?_⟩
  · intro symbol side oid
    rw [quote_setQuote, hactive]
    by_cases hslot : symbol = intent.symbol ∧ side = intent.side
    · rw [if_pos hslot, hquote, hslot.1, hslot.2]
      constructor
      · intro heq
        obtain rfl := Option.some.inj heq
        rw [if_pos rfl]
        exact ⟨intent, rfl, rfl, rfl⟩
      · rintro ⟨i, hget, hsymbol, hside⟩
        by_cases hoid : oid = d.oms.nextOid
        · rw [hoid]
        rw [if_neg hoid] at hget
        have hheld := (h.slots _ _ oid).mpr ⟨i, hget, hsymbol, hside⟩
        rw [hfree] at hheld
        cases hheld
    · rw [if_neg hslot]
      refine (h.slots symbol side oid).trans ?_
      by_cases hoid : oid = d.oms.nextOid
      · rw [if_pos hoid, hoid, hfresh]
        constructor
        · rintro ⟨i, hget, -⟩
          cases hget
        · rintro ⟨i, hget, hsymbol, hside⟩
          obtain rfl := Option.some.inj hget
          exact absurd ⟨hsymbol.symm, hside.symm⟩ hslot
      · rw [if_neg hoid]
  · intro oid hmem
    rw [hactive]
    split
    · exact ⟨intent, rfl⟩
    · exact h.marks oid hmem
  · intro oid i
    rw [hactive]
    show _ ↔ .submit i (some oid) ∈ d.calls ++ [.submit intent (some d.oms.nextOid)] ∧ _
    rw [mem_append, mem_singleton]
    by_cases hoid : oid = d.oms.nextOid
    · subst hoid
      rw [if_pos rfl]
      constructor
      · intro heq
        obtain rfl := Option.some.inj heq
        refine ⟨Or.inr rfl, fun snapshot hmem heq => ?_⟩
        exact absurd (h.known snapshot hmem) (by rw [heq]; exact lt_irrefl _)
      · rintro ⟨hold | hnew, -⟩
        · exact absurd (h.submitted i _ hold) (lt_irrefl _)
        · cases hnew
          rfl
    · rw [if_neg hoid]
      refine (h.accepted oid i).trans (and_congr_left' ?_)
      constructor
      · exact Or.inl
      rintro (hold | hnew)
      · exact hold
      · cases hnew
        exact absurd rfl hoid
  · intro oid i
    rw [hactive, hintent]
    split
    · exact id
    · exact h.filed oid i
  · intro oid i
    rw [hintent]
    split
    · next heq =>
      intro _
      rw [heq]
      exact Nat.lt_succ_self _
    · intro hget
      exact (h.numbered oid i hget).trans (Nat.lt_succ_self _)
  · intro snapshot hmem
    obtain ⟨i, hget, hsymbol⟩ := h.named snapshot hmem
    refine ⟨i, ?_, hsymbol⟩
    rw [hintent, if_neg (h.numbered _ i hget).ne]
    exact hget
  · intro i oid hmem
    rcases mem_append.mp hmem with hold | hnew
    · exact (h.submitted i oid hold).trans (Nat.lt_succ_self _)
    · cases mem_singleton.mp hnew
      exact Nat.lt_succ_self _
  · intro snapshot hmem
    exact (h.known snapshot hmem).trans (Nat.lt_succ_self _)

end Shadow

variable {d d' : Desk} {snapshot : Snapshot} {env : Env} {action : DeskAction}

theorem mem_activeOf {symbol : String} {oid : ℕ} : oid ∈ d.activeOf symbol ↔
      ∃ intent, d.activeOrders.get? oid = some intent ∧ intent.symbol = symbol := by
  unfold activeOf
  rw [mem_map]
  constructor
  · rintro ⟨⟨key, intent⟩, hmem, rfl⟩
    obtain ⟨hitem, hsymbol⟩ := mem_filter.mp hmem
    exact ⟨intent, Dict.get?_eq_some_iff.mpr hitem, of_decide_eq_true hsymbol⟩
  · rintro ⟨intent, hget, hsymbol⟩
    exact ⟨(oid, intent), mem_filter.mpr
      ⟨Dict.get?_eq_some_iff.mp hget, decide_eq_true hsymbol⟩, rfl⟩

/-- A slot is free when its symbol has no active order. -/
theorem Shadow.free_of_activeOf (h : d.Shadow) {symbol : String} {side : Side}
    (hempty : (d.quote symbol side).oid = none ∨ d.activeOf symbol = []) :
    (d.quote symbol side).oid = none := by
  rcases hempty with hfree | hnone
  · exact hfree
  cases hslot : (d.quote symbol side).oid with
  | none => rfl
  | some oid =>
    obtain ⟨intent, hget, hsymbol, -⟩ := (h.slots symbol side oid).mp hslot
    have hmem := mem_activeOf.mpr ⟨intent, hget, hsymbol⟩
    rw [hnone] at hmem
    exact absurd hmem not_mem_nil

theorem shadow_callbackRules (env : Env) : CallbackRules env Shadow where
  cancel := by
    intro d oid h
    refine h.of_quiet (cancelOrder_quiet env d oid) ?_
    intro other hmem
    rcases cancelOrder_marks env d oid other hmem with hold | ⟨rfl, hactive⟩
    · exact h.marks other hold
    · exact Option.isSome_iff_exists.mp hactive
  clear := by
    intro d symbol side quote hnone hquote h
    refine h.of_slots ?_ rfl
    intro symbol' side'
    rw [quote_setQuote]
    split
    · next heq => rw [heq.1, heq.2, hnone, hquote]
    · rfl
  fail := by
    intro d intent h
    exact h.of_quiet ⟨rfl, rfl, rfl, rfl, rfl, rfl, fun i oid => by simp [failSubmit]⟩ h.marks
  accept := fun hquote hfree h => h.accept hquote (h.free_of_activeOf hfree)
  stamp := by
    intro d symbol now h
    refine h.of_slots ?_ rfl
    intro symbol' side
    unfold Desk.stamp Desk.quote
    by_cases hsymbol : symbol' = symbol
    · subst hsymbol
      cases side <;> simp
    · cases side <;> simp [Dict.getD_set, hsymbol]
  expiry := fun h => h.of_slots (fun _ _ => rfl) rfl

/-! ## Snapshots -/

theorem clearSlot_quote (d : Desk) (snapshot : Snapshot) (side : Side) (symbol : String)
    (side' : Side) :
    (d.clearSlot snapshot side).quote symbol side' =
      if side' = side ∧ symbol = snapshot.symbol ∧
        (d.quote symbol side').oid = some snapshot.clientOid then {}
      else d.quote symbol side' := by
  unfold clearSlot
  by_cases hheld : (d.quote snapshot.symbol side).oid = some snapshot.clientOid
  · rw [if_pos hheld, quote_setQuote]
    by_cases hslot : symbol = snapshot.symbol ∧ side' = side
    · obtain ⟨rfl, rfl⟩ := hslot
      rw [if_pos ⟨rfl, rfl⟩, if_pos ⟨rfl, rfl, hheld⟩]
    · rw [if_neg hslot, if_neg fun h => hslot ⟨h.2.1, h.1⟩]
  · rw [if_neg hheld, if_neg]
    rintro ⟨rfl, rfl, h⟩
    exact hheld h

/-- A terminal snapshot clears the slots of its order. -/
theorem onOrder_quote (d : Desk)
    (hterminal : snapshot.status ∈ OrderStatus.terminalStatuses) (symbol : String)
    (side : Side) :
    (d.onOrder snapshot).quote symbol side =
      if symbol = snapshot.symbol ∧ (d.quote symbol side).oid = some snapshot.clientOid then {}
      else d.quote symbol side := by
  unfold onOrder
  rw [if_neg (not_not.mpr hterminal)]
  have hforgotten : ({ d with
      activeOrders := d.activeOrders.erase snapshot.clientOid
      ordersCancelling := d.ordersCancelling.erase snapshot.clientOid } : Desk).quote symbol
        side =
        d.quote symbol side := by
    cases side <;> rfl
  rw [clearSlot_quote, clearSlot_quote, hforgotten]
  cases side <;> simp

theorem onOrder_fields (d : Desk) (hterminal : snapshot.status ∈ OrderStatus.terminalStatuses) :
    (d.onOrder snapshot).activeOrders = d.activeOrders.erase snapshot.clientOid ∧
      (d.onOrder snapshot).ordersCancelling = d.ordersCancelling.erase snapshot.clientOid ∧
      (d.onOrder snapshot).oms = d.oms ∧ (d.onOrder snapshot).calls = d.calls ∧
      (d.onOrder snapshot).delivered = d.delivered ∧
      (d.onOrder snapshot).removals = d.removals := by
  unfold onOrder clearSlot
  rw [if_neg (not_not.mpr hterminal)]
  dsimp only
  split_ifs <;> exact ⟨rfl, rfl, rfl, rfl, rfl, rfl⟩

/-- A snapshot that ends nothing is only recorded. -/
theorem onOrder_of_not_terminal (d : Desk)
    (hlive : snapshot.status ∉ OrderStatus.terminalStatuses) : d.onOrder snapshot = d :=
  if_pos hlive

/-- The next snapshot has been handed over. -/
def handOver (d : Desk) (snapshot : Snapshot) (rest : List Snapshot) : Desk :=
  { d with oms := { d.oms with snapshots := rest }, delivered := d.delivered ++ [snapshot] }

namespace Shadow

variable {d : Desk}

/-- **A delivery** keeps the structures in agreement: a terminal snapshot takes its order out of
all of them. -/
theorem deliver (h : d.Shadow) {snapshot : Snapshot} {rest : List Snapshot}
    (hnext : d.oms.snapshots = snapshot :: rest) :
    ((d.handOver snapshot rest).onOrder snapshot).Shadow := by
  obtain ⟨intent, hintent, hsymbol⟩ := h.named snapshot (by rw [hnext]; exact mem_cons_self)
  have hnamed : ∀ other ∈ rest, ∃ i, d.oms.intentOf other.clientOid = some i ∧
      i.symbol = other.symbol :=
    fun other hmem => h.named other (by rw [hnext]; exact mem_cons_of_mem _ hmem)
  have hknown : ∀ other ∈ d.delivered ++ [snapshot], other.clientOid < d.oms.nextOid := by
    intro other hmem
    rcases mem_append.mp hmem with hold | hnew
    · exact h.known other hold
    · rw [mem_singleton.mp hnew]
      exact h.numbered _ intent hintent
  by_cases hterminal : snapshot.status ∈ OrderStatus.terminalStatuses
  · obtain ⟨hactive, hmarks, homs, hcalls, hdelivered, -⟩ :=
      onOrder_fields (d.handOver snapshot rest) hterminal
    refine ⟨?_, ?_, ?_, ?_, ?_, ?_, ?_, ?_⟩
    · intro symbol side oid
      rw [onOrder_quote _ hterminal, hactive]
      show (if symbol = snapshot.symbol ∧ (d.quote symbol side).oid = some snapshot.clientOid
        then
        ({} : Quote) else d.quote symbol side).oid = some oid ↔ ∃ i,
          (d.activeOrders.erase snapshot.clientOid).get? oid = some i ∧ i.symbol = symbol ∧
            i.side = side
      rw [Dict.get?_erase]
      by_cases hoid : oid = snapshot.clientOid
      · -- the slot that held the order was one of the snapshot's symbol
        subst hoid
        rw [if_pos rfl]
        constructor
        · intro hheld
          split at hheld
          · cases hheld
          next hne =>
            obtain ⟨i, hget, hi, -⟩ := (h.slots symbol side _).mp hheld
            rw [h.filed _ i hget] at hintent
            cases hintent
            exact absurd ⟨hi.symm.trans hsymbol, hheld⟩ hne
        · rintro ⟨i, hget, -⟩
          cases hget
      · rw [if_neg hoid]
        refine Iff.trans ?_ (h.slots symbol side oid)
        split
        · next hheld =>
          rw [hheld.2]
          constructor
          · intro heq
            cases heq
          · intro heq
            exact absurd (Option.some.inj heq).symm hoid
        · exact Iff.rfl
    · intro oid hmem
      rw [hmarks] at hmem
      obtain ⟨hne, hmem⟩ := Finset.mem_erase.mp hmem
      rw [hactive]
      obtain ⟨i, hget⟩ := h.marks oid hmem
      exact ⟨i, (Dict.get?_erase_of_ne _ hne).trans hget⟩
    · intro oid i
      rw [hactive, hcalls, hdelivered]
      show (d.activeOrders.erase snapshot.clientOid).get? oid = some i ↔
        .submit i (some oid) ∈ d.calls ∧ ∀ other ∈ d.delivered ++ [snapshot], _
      rw [Dict.get?_erase, forall_mem_append, forall_mem_singleton]
      by_cases hoid : oid = snapshot.clientOid
      · rw [if_pos hoid]
        constructor
        · intro heq
          cases heq
        · rintro ⟨-, -, hlive⟩
          exact absurd hterminal (hlive hoid.symm)
      · rw [if_neg hoid]
        refine (h.accepted oid i).trans (and_congr_right' ?_)
        exact (and_iff_left fun heq => absurd heq.symm hoid).symm
    · intro oid i
      rw [hactive, homs]
      show (d.activeOrders.erase snapshot.clientOid).get? oid = some i → _
      rw [Dict.get?_erase]
      split
      · intro heq
        cases heq
      · exact h.filed oid i
    · rw [homs]
      exact h.numbered
    · rw [homs]
      exact hnamed
    · rw [homs, hcalls]
      exact h.submitted
    · rw [homs, hdelivered]
      exact hknown
  · rw [onOrder_of_not_terminal _ hterminal]
    refine ⟨h.slots, h.marks, ?_, h.filed, h.numbered, hnamed, h.submitted, hknown⟩
    intro oid i
    refine (h.accepted oid i).trans (and_congr_right' ?_)
    show _ ↔ ∀ other ∈ d.delivered ++ [snapshot], _
    rw [forall_mem_append, forall_mem_singleton]
    exact (and_iff_left fun _ => hterminal).symm

/-- A step of the OMS that keeps its orders' intents, and whose snapshots are of its orders. -/
theorem of_oms (h : d.Shadow) {oms : OmsView}
    (hintent : ∀ oid intent, d.oms.intentOf oid = some intent → oms.intentOf oid = some intent)
    (hnumbered : ∀ oid intent, oms.intentOf oid = some intent → oid < oms.nextOid)
    (hnext : d.oms.nextOid ≤ oms.nextOid)
    (hnamed : ∀ snapshot ∈ oms.snapshots, snapshot ∈ d.oms.snapshots ∨
      ∃ intent, oms.intentOf snapshot.clientOid = some intent ∧
      intent.symbol = snapshot.symbol) :
    ({ d with oms := oms } : Desk).Shadow := by
  refine ⟨h.slots, h.marks, h.accepted, ?_, hnumbered, ?_, ?_, ?_⟩
  · intro oid intent hget
    exact hintent oid intent (h.filed oid intent hget)
  · intro snapshot hmem
    rcases hnamed snapshot hmem with hold | hnew
    · obtain ⟨intent, hget, hsymbol⟩ := h.named snapshot hold
      exact ⟨intent, hintent _ _ hget, hsymbol⟩
    · exact hnew
  · intro intent oid hmem
    exact (h.submitted intent oid hmem).trans_le hnext
  · intro snapshot hmem
    exact (h.known snapshot hmem).trans_le hnext

end Shadow

/-- An order that moves keeps its intent. -/
theorem move_intentOf {oms oms' : OmsView} {oid : ℕ} {next : OrderStatus}
    (h : oms.move oid next = some oms') :
    ∃ order, oms.orders.get? oid = some order ∧ oms'.intentOf = oms.intentOf ∧
      oms'.nextOid = oms.nextOid ∧
      oms'.snapshots = oms.snapshots ++ [⟨oid, order.intent.symbol, next⟩] ∧
      oms'.outstanding =
        if GivesBack order.status next then oms.outstanding.erase oid else oms.outstanding := by
  unfold OmsView.move at h
  cases hget : oms.orders.get? oid with
  | none =>
    rw [hget] at h
    cases h
  | some order =>
    rw [hget] at h
    dsimp only at h
    split at h
    · cases h
      refine ⟨order, rfl, ?_, rfl, rfl, rfl⟩
      funext other
      unfold OmsView.intentOf
      dsimp only
      rw [Dict.get?_set]
      split
      · next heq => rw [heq, hget]; rfl
      · rfl
    · cases h

/-- **Every step** keeps the structures in agreement. -/
theorem step_shadow (h : d.Shadow) (hstep : step env d action = some d') : d'.Shadow := by
  cases action with
  | orderbook symbol mid plan =>
    cases hstep
    exact (shadow_callbackRules env).orderbook symbol mid plan h
  | cancelAll symbol =>
    cases hstep
    refine h.of_quiet ⟨rfl, rfl, rfl, rfl, rfl, rfl, fun _ _ => by simp [cancelAll]⟩ ?_
    intro oid hmem
    unfold cancelAll at hmem
    dsimp only at hmem
    split at hmem
    · rcases Finset.mem_union.mp hmem with hold | hnew
      · exact h.marks oid hold
      · obtain ⟨intent, hget, -⟩ :=
          mem_activeOf.mp (mem_toFinset.mp (Finset.mem_sdiff.mp hnew).1)
        exact ⟨intent, hget⟩
    · exact h.marks oid hmem
  | deliver =>
    unfold step at hstep
    cases hnext : d.oms.snapshots with
    | nil =>
      rw [hnext] at hstep
      cases hstep
    | cons snapshot rest =>
      rw [hnext] at hstep
      cases hstep
      exact h.deliver hnext
  | move oid next =>
    obtain ⟨oms, hmove, rfl⟩ := Option.map_eq_some_iff.mp hstep
    obtain ⟨order, hget, hintent, hnext, hsnapshots, -⟩ := move_intentOf hmove
    refine h.of_oms (fun _ _ hi => by rw [hintent]; exact hi) ?_ hnext.ge ?_
    · rw [hintent, hnext]
      exact h.numbered
    intro snapshot hmem
    rw [hsnapshots] at hmem
    rcases mem_append.mp hmem with hold | hnew
    · exact Or.inl hold
    obtain rfl := mem_singleton.mp hnew
    refine Or.inr ⟨order.intent, ?_, rfl⟩
    rw [hintent, OmsView.intentOf, hget]
    rfl
  | emit oid =>
    obtain ⟨oms, hemit, rfl⟩ := Option.map_eq_some_iff.mp hstep
    obtain ⟨order, hget, rfl⟩ := Option.map_eq_some_iff.mp hemit
    refine h.of_oms (fun _ _ hi => hi) h.numbered le_rfl ?_
    intro snapshot hmem
    rcases mem_append.mp hmem with hold | hnew
    · exact Or.inl hold
    · obtain rfl := mem_singleton.mp hnew
      exact Or.inr ⟨order.intent, by rw [OmsView.intentOf]; exact congrArg _ hget, rfl⟩
  | giveUp oid =>
    cases hstep
    exact h.of_oms (fun _ _ hi => hi) h.numbered le_rfl fun _ hmem => Or.inl hmem
  | foreign intent =>
    cases hstep
    have hintent : ∀ oid, (d.oms.fileForeign intent).intentOf oid =
        if oid = d.oms.nextOid then some intent else d.oms.intentOf oid := by
      intro oid
      show ((d.oms.orders.set d.oms.nextOid { intent := intent }).get? oid).map OmsOrder.intent =
        _
      rw [Dict.get?_set]
      split <;> rfl
    refine h.of_oms ?_ ?_ (Nat.le_succ _) fun _ hmem => Or.inl hmem
    · intro oid i hi
      rw [hintent, if_neg (h.numbered oid i hi).ne]
      exact hi
    · intro oid i
      rw [hintent]
      split
      · next heq =>
        intro _
        rw [heq]
        exact Nat.lt_succ_self _
      · intro hi
        exact (h.numbered oid i hi).trans (Nat.lt_succ_self _)

/-! ## Decisions are carried out -/

/-- The OMS does not give a marked order back as live, and does not drop its cancel. -/
def Kept (d : Desk) : DeskAction → Prop
  | .move oid next => oid ∈ d.ordersCancelling →
      ∀ order ∈ d.oms.orders.get? oid, ¬GivesBack order.status next
  | .giveUp oid => oid ∉ d.ordersCancelling
  | _ => True

instance (d : Desk) : (action : DeskAction) → Decidable (d.Kept action)
  | .move oid next => inferInstanceAs (Decidable (oid ∈ d.ordersCancelling →
      ∀ order ∈ d.oms.orders.get? oid, ¬GivesBack order.status next))
  | .giveUp oid => inferInstanceAs (Decidable (oid ∉ d.ordersCancelling))
  | .orderbook _ _ _ | .cancelAll _ | .deliver | .emit _ | .foreign _ => isTrue trivial

/-- A decision to withdraw the order calls `execution.cancel`. -/
def Withdraws (env : Env) (d : Desk) (oid : ℕ) : Prop :=
  (d.cancelOrder env oid).1.calls = d.calls ++ [.cancel oid (env.answers d.calls.length)]

/-- The strategy can withdraw every active order that no cancel is outstanding for. -/
def InControl (env : Env) (d : Desk) : Prop :=
  ∀ oid intent, d.activeOrders.get? oid = some intent → oid ∉ d.oms.outstanding →
    d.Withdraws env oid

theorem withdraws_iff {oid : ℕ} {intent : OrderIntent}
    (hactive : d.activeOrders.get? oid = some intent) :
    d.Withdraws env oid ↔ oid ∉ d.ordersCancelling := by
  have hcontains : d.activeOrders.contains oid = true := by
    rw [Dict.contains, hactive]
    rfl
  unfold Withdraws cancelOrder callCancel
  by_cases hmark : oid ∈ d.ordersCancelling
  · simp [hcontains, hmark]
  · simp only [hcontains, hmark, decide_false, Bool.not_true, Bool.or_self, Bool.false_eq_true,
      if_false, not_false_eq_true, iff_true]
    cases env.answers d.calls.length <;> rfl

/-- Marks that stand for outstanding cancels hide nothing. -/
theorem Firm.inControl (h : d.Firm) (env : Env) : d.InControl env :=
  fun oid _ hactive hout => (withdraws_iff hactive).mpr fun hmark => hout (h.held oid hmark)

/-- **Every step but a cancel that fails** leaves the marks standing for outstanding cancels. -/
theorem step_firm (h : d.Firm)
    (hkept : d.Kept action) (hstep : step env d action = some d') : d'.Firm := by
  cases action with
  | orderbook symbol mid plan =>
    cases hstep
    exact (firm_callbackRules env).orderbook symbol mid plan h
  | cancelAll symbol =>
    cases hstep
    refine ⟨?_, h.carried⟩
    unfold cancelAll
    dsimp only
    split
    · intro oid hmem
      rcases Finset.mem_union.mp hmem with hold | hnew
      · exact Finset.mem_union_left _ (h.held oid hold)
      · exact Finset.mem_union_right _ (Finset.mem_sdiff.mp hnew).1
    · exact h.held
  | deliver =>
    unfold step at hstep
    cases hnext : d.oms.snapshots with
    | nil =>
      rw [hnext] at hstep
      cases hstep
    | cons snapshot rest =>
      rw [hnext] at hstep
      cases hstep
      show ((d.handOver snapshot rest).onOrder snapshot).Firm
      by_cases hterminal : snapshot.status ∈ OrderStatus.terminalStatuses
      · obtain ⟨-, hmarks, homs, -, -, hremovals⟩ :=
          onOrder_fields (d.handOver snapshot rest) hterminal
        refine ⟨?_, by rw [hremovals]; exact h.carried⟩
        intro oid hmem
        rw [hmarks] at hmem
        rw [homs]
        exact h.held oid (Finset.mem_of_mem_erase hmem)
      · rw [onOrder_of_not_terminal _ hterminal]
        exact ⟨h.held, h.carried⟩
  | move oid next =>
    obtain ⟨oms, hmove, rfl⟩ := Option.map_eq_some_iff.mp hstep
    obtain ⟨order, hget, -, -, -, hout⟩ := move_intentOf hmove
    refine ⟨?_, h.carried⟩
    intro other hmem
    show other ∈ oms.outstanding
    rw [hout]
    split
    · next hback =>
      refine Finset.mem_erase.mpr ⟨?_, h.held other hmem⟩
      rintro rfl
      exact hkept hmem order hget hback
    · exact h.held other hmem
  | emit oid =>
    obtain ⟨oms, hemit, rfl⟩ := Option.map_eq_some_iff.mp hstep
    obtain ⟨order, -, rfl⟩ := Option.map_eq_some_iff.mp hemit
    exact ⟨h.held, h.carried⟩
  | giveUp oid =>
    cases hstep
    refine ⟨?_, h.carried⟩
    intro other hmem
    refine Finset.mem_erase.mpr ⟨?_, h.held other hmem⟩
    rintro rfl
    exact hkept hmem
  | foreign intent =>
    cases hstep
    exact ⟨h.held, h.carried⟩

/-- A cancel that fails leaves a mark that hides the next decision. -/
theorem not_inControl_of_not_kept (h : d.Shadow)
    (hfails : ¬d.Kept action) (hstep : step env d action = some d') : ¬d'.InControl env := by
  cases action with
  | move oid next =>
    unfold Kept at hfails
    push Not at hfails
    obtain ⟨hmark, order, hget, hback⟩ := hfails
    obtain ⟨oms, hmove, rfl⟩ := Option.map_eq_some_iff.mp hstep
    obtain ⟨order', hget', -, -, -, hout⟩ := move_intentOf hmove
    obtain rfl := Option.some.inj (hget'.symm.trans hget)
    obtain ⟨intent, hactive⟩ := h.marks oid hmark
    intro hcontrol
    rw [if_pos hback] at hout
    refine (withdraws_iff (d := { d with oms := oms }) hactive).mp
      (hcontrol oid intent hactive ?_) hmark
    show oid ∉ oms.outstanding
    rw [hout]
    exact Finset.notMem_erase _ _
  | giveUp oid =>
    have hmark : oid ∈ d.ordersCancelling := not_not.mp hfails
    obtain ⟨intent, hactive⟩ := h.marks oid hmark
    cases hstep
    intro hcontrol
    exact (withdraws_iff (d := { d with oms := d.oms.giveUp oid }) hactive).mp
      (hcontrol oid intent hactive (Finset.notMem_erase _ _)) hmark
  | orderbook _ _ _ | cancelAll _ | deliver | emit _ | foreign _ => exact absurd trivial hfails

theorem initial_shadow : ({} : Desk).Shadow := by
  refine ⟨?_, nofun, ?_, nofun, nofun, nofun, nofun, nofun⟩
  · intro symbol side oid
    constructor
    · cases side <;> exact nofun
    · rintro ⟨_, h, -⟩
      cases h
  · intro oid intent
    constructor
    · exact nofun
    · rintro ⟨h, -⟩
      exact absurd h not_mem_nil

theorem initial_firm : ({} : Desk).Firm := ⟨nofun, nofun⟩

/-- **Control of the quotes, over every run.**  The slots, the active orders and the delivered
snapshots agree in every state; an order of a slot is the only active order of its symbol and
side. As long as no cancel of a marked order fails, every decision to withdraw an active order
that no cancel is outstanding for calls the execution, and the strategy is in control in every
state exactly when that condition is met at every step. -/
theorem quotes_controlled_iff {env : Env} {actions : List DeskAction} {d : Desk}
    (hrun : Run.exec (step env) {} actions = some d) :
    d.Shadow ∧
      (∀ oid oid' intent intent', d.activeOrders.get? oid = some intent →
        d.activeOrders.get? oid' = some intent' → intent.symbol = intent'.symbol →
        intent.side = intent'.side → oid = oid') ∧
      (Run.Along (step env) Kept {} actions → ∀ removal ∈ d.removals,
        removal.active = true → removal.outstanding = false → removal.called = true) ∧
      ((∀ before d₁, before <+: actions → Run.exec (step env) {} before = some d₁ →
          d₁.InControl env) ↔
        Run.Along (step env) Kept {} actions) := by
  have hshadow : ∀ {before d₁}, Run.exec (step env) {} before = some d₁ → d₁.Shadow :=
    Run.exec_preserves (fun _ _ _ h => step_shadow h) initial_shadow
  have hfirm : ∀ {before d₁}, Run.Along (step env) Kept {} before →
      Run.exec (step env) {} before = some d₁ → d₁.Firm :=
    Run.exec_invariant (fun _ _ _ h => step_firm h) initial_firm
  refine ⟨hshadow hrun, ?_, fun halong => (hfirm halong hrun).carried, ?_, ?_⟩
  · intro oid oid' intent intent' hget hget' hsymbol hside
    have hslot := ((hshadow hrun).slots _ _ oid).mpr ⟨intent, hget, rfl, rfl⟩
    have hslot' := ((hshadow hrun).slots _ _ oid').mpr ⟨intent', hget', rfl, rfl⟩
    rw [hsymbol, hside, hslot'] at hslot
    exact (Option.some.inj hslot).symm
  · intro hcontrol
    refine Run.along_of_forall fun first action rest d₁ heq hfirst => ?_
    by_contra hfails
    subst heq
    obtain ⟨d₁', hfirst', hrest⟩ := Run.exec_append_eq_some.mp hrun
    obtain rfl := Option.some.inj (hfirst.symm.trans hfirst')
    obtain ⟨d₂, hstep, -⟩ := Run.exec_cons_eq_some.mp hrest
    refine not_inControl_of_not_kept (hshadow hfirst) hfails hstep
      (hcontrol (first ++ [action]) d₂ ⟨rest, by simp⟩ ?_)
    exact Run.exec_append_eq_some.mpr
      ⟨d₁, hfirst, Run.exec_cons_eq_some.mpr ⟨d₂, hstep, rfl⟩⟩
  · rintro halong before d₁ ⟨rest, rfl⟩ hbefore
    exact (hfirm (Run.along_append.mp halong).1 hbefore).inControl env

section Runs

/-- Every call is accepted, and the stale-quote guard is off. -/
def sampleEnv : Env :=
  { getInfo := fun _ => some { tickSize := 1 / 10, stepSize := 1 / 1000, minNotional := 5 }
    answers := fun _ => .accepted
    staleQuoteGuardEnabled := false
    logBps := fun _ _ => 0 }

/-- One unit on both sides, the bid at the given price. -/
def sampleUpdate (now bid : ℚ) : QuoteUpdate :=
  { now := now, bid := { price := bid, volume := 1 }, ask := { price := 101, volume := 1 } }

/-- A bid is acknowledged, moved to another price, and its cancel is lost. -/
def lostCancel : List DeskAction :=
  [.orderbook "BTCUSDT" 100 (.quote (sampleUpdate 1 99)),
    .move 0 .submitting, .move 0 .pendingAck, .move 0 .new, .deliver, .deliver, .deliver,
    .orderbook "BTCUSDT" 100 (.quote (sampleUpdate 2 98)),
    .move 0 .cancelling, .move 0 .cancelUnknown, .deliver, .deliver]

theorem quotes_controlled_iff_lost_cancel :
    ∃ d, Run.exec (step sampleEnv) {} lostCancel = some d ∧
      Run.Along (step sampleEnv) Kept {} lostCancel ∧ d.InControl sampleEnv := by
  have hsome : (Run.exec (step sampleEnv) {} lostCancel).isSome = true := by
    decide +kernel
  obtain ⟨d, hrun⟩ := Option.isSome_iff_exists.mp hsome
  have halong : Run.Along (step sampleEnv) Kept {} lostCancel := by
    decide +kernel
  exact ⟨d, hrun, halong,
    (quotes_controlled_iff hrun).2.2.2.mpr halong lostCancel d prefix_rfl hrun⟩

/-- Truth resolution gives the bid back as `NEW`.  The strategy has been told so and no cancel is
outstanding, but neither a new price nor warm-up reaches the order any more: warm-up withdraws
the ask only. -/
theorem failed_cancel_hides_quote :
    ∃ d, Run.exec (step sampleEnv) {} (lostCancel ++ [.move 0 .new, .deliver]) = some d ∧
      d.delivered.getLast? = some ⟨0, "BTCUSDT", .new⟩ ∧
      (d.quote "BTCUSDT" .buy).oid = some 0 ∧ 0 ∉ d.oms.outstanding ∧
      (d.updateQuotes sampleEnv "BTCUSDT" (sampleUpdate 3 97)).1.calls = d.calls ∧
      (d.cancelSymbolQuotes sampleEnv "BTCUSDT").1.calls = d.calls ++ [.cancel 1 .accepted] := by
  have hrun : ((Run.exec (step sampleEnv) {} (lostCancel ++ [.move 0 .new, .deliver])).any
      fun d => decide (d.delivered.getLast? = some ⟨0, "BTCUSDT", .new⟩ ∧
        (d.quote "BTCUSDT" .buy).oid = some 0 ∧ 0 ∉ d.oms.outstanding ∧
        (d.updateQuotes sampleEnv "BTCUSDT" (sampleUpdate 3 97)).1.calls = d.calls ∧
        (d.cancelSymbolQuotes sampleEnv "BTCUSDT").1.calls =
          d.calls ++ [.cancel 1 .accepted])) = true := by
    decide +kernel
  obtain ⟨d, hexec, hd⟩ := (Option.any_eq_true _ _).mp hrun
  exact ⟨d, hexec, of_decide_eq_true hd⟩

end Runs

end Desk

end ChronosHFT.Strategy
