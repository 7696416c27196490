import ChronosHFT.Lib.Run
import ChronosHFT.Oms.EventSpec
import ChronosHFT.Oms.Submission

/-!
# What one command does

The specification of the command path, stated once.  A command either is
bookkeeping, or it journals an order that is never filed, or it files a new order,
or it moves an existing one; in no case does it book a fill, touch a position,
remember an execution or move a cursor.

`CommandEffect` lists the four outcomes with the state each leaves, and there is one
theorem per command.  Proofs about runs use these and do not look at the commands
again.
-/

namespace ChronosHFT.Oms

namespace Order

/-- An order after a status change that is not a fill: the books are the same, and
every clock field keeps its value or is set from `now`. -/
structure Moved (now : ℚ) (before after : Order) : Prop where
  books : SameBooks after before
  filled : after.status = .filled → before.status = .filled
  updatedAt : after.updatedAt = before.updatedAt ∨ after.updatedAt = now
  lastExchangeUpdateTime : after.lastExchangeUpdateTime = before.lastExchangeUpdateTime ∨
    after.lastExchangeUpdateTime = max before.lastExchangeUpdateTime now
  lastUpdateSeq : after.lastUpdateSeq = before.lastUpdateSeq

protected theorem Moved.refl (now : ℚ) (order : Order) : Moved now order order :=
  ⟨SameBooks.refl order, id, Or.inl rfl, Or.inl rfl, rfl⟩

/-- A note without an exchange message. -/
theorem noteExchangeUpdate_moved (order : Order) (now : ℚ) (oid : String) :
    Moved now order (order.noteExchangeUpdate now { exchangeOid := oid }) := by
  refine ⟨noteExchangeUpdate_sameBooks order now _, id, Or.inr ?_, Or.inl ?_, ?_⟩
  · simp [noteExchangeUpdate]
  · simp [noteExchangeUpdate]
  · simp [noteExchangeUpdate]

theorem noteReason_moved (order : Order) (now : ℚ) (reason : String) :
    Moved now order (order.noteReason reason) := by
  refine ⟨noteReason_sameBooks order reason, by simp, ?_, ?_, ?_⟩ <;>
    (unfold noteReason; split <;> simp)

protected theorem Moved.trans {now : ℚ} {a b c : Order} (h₁ : Moved now a b)
    (h₂ : Moved now b c) : Moved now a c := by
  refine ⟨h₂.books.trans h₁.books, fun h => h₁.filled (h₂.filled h), ?_, ?_,
    h₂.lastUpdateSeq.trans h₁.lastUpdateSeq⟩
  · rcases h₂.updatedAt with h | h
    · rw [h]
      exact h₁.updatedAt
    · exact Or.inr h
  · rcases h₂.lastExchangeUpdateTime with h | h
    · rw [h]
      exact h₁.lastExchangeUpdateTime
    rcases h₁.lastExchangeUpdateTime with h' | h'
    · rw [h, h']
      exact Or.inr rfl
    · rw [h, h', max_assoc, max_self]
      exact Or.inr rfl

/-- A transition of the command path, to any status but `FILLED`. -/
theorem transition_moved (order : Order) (now : ℚ) (next : OrderStatus) (hnext : next ≠ .filled)
    (reason oid : String) :
    Moved now order (order.transition now next reason { exchangeOid := oid }).1 := by
  unfold transition
  split
  · exact (noteExchangeUpdate_moved order now oid).trans (noteReason_moved _ now reason)
  split
  · have hstatus : Moved now order { order with status := next } :=
      ⟨⟨rfl, rfl, rfl, rfl, rfl, rfl⟩, fun h => absurd h hnext, Or.inl rfl, Or.inl rfl, rfl⟩
    exact (hstatus.trans (noteReason_moved _ now reason)).trans
      (noteExchangeUpdate_moved _ now oid)
  · exact Moved.refl now order

end Order

/-! ## Admission -/

/-- A symbol as the venue spells it. -/
def Spelled (symbol : String) : Prop := symbol ≠ "" ∧ symbol.toUpper = symbol

/-- What the checks have established about an intent that becomes an order: a plain
order needs a mark price, a reduce-only one a position. -/
structure Fileable (e : Exposure) (intent : OrderIntent) : Prop where
  price : 0 < intent.price
  volume : 0 < intent.volume
  symbol : Spelled intent.symbol ∨ e.netPositions.getD intent.symbol 0 ≠ 0

variable {intent : OrderIntent} {e : Exposure} {symbol : String}

theorem validateSize_ok {v : ValidatorEnv} {info : Option ContractInfo}
    (h : validateSize v intent info = .ok ()) : 0 < intent.price ∧ 0 < intent.volume := by
  unfold validateSize at h
  simp only at h
  split at h
  · cases h
  · next hpos =>
    push Not at hpos
    exact hpos

theorem checkReduceOnly_ok {side : Side} {volume : ℚ}
    (h : e.checkReduceOnly symbol side volume = .ok ()) : e.netPositions.getD symbol 0 ≠ 0 := by
  intro hzero
  unfold Exposure.checkReduceOnly at h
  rw [hzero] at h
  simp only [abs_zero] at h
  rw [if_pos (by decide +kernel)] at h
  cases h

theorem checkRisk_ok {market : MarketData} {limits : Exposure.RiskLimits} {side : Side}
    {volume price : ℚ}
    (h : e.checkRisk market limits symbol side volume price = .ok ()) :
    0 < market.markPrice symbol := by
  by_contra hmark
  unfold Exposure.checkRisk at h
  simp only at h
  rw [if_pos (not_lt.mp hmark)] at h
  cases h

theorem checkExposure_ok {env : SubmitEnv} (h : checkExposure env e intent = .ok ()) :
    Spelled intent.symbol ∨ e.netPositions.getD intent.symbol 0 ≠ 0 := by
  unfold checkExposure at h
  split at h
  · cases hcheck : e.checkReduceOnly intent.symbol intent.side intent.volume with
    | error reason =>
      rw [hcheck] at h
      cases h
    | ok u => exact Or.inr (checkReduceOnly_ok hcheck)
  split at h
  · cases h
  cases hcheck : e.checkRisk env.market.toMarketData env.limits intent.symbol intent.side
      intent.volume intent.price with
  | error reason =>
    rw [hcheck] at h
    cases h
  | ok u => exact Or.inl (env.market.canonical _ (checkRisk_ok hcheck))

/-- **What admission establishes.** -/
theorem admission_ok {env : SubmitEnv} {admitted : OrderIntent}
    (h : admission env e intent = .ok admitted) : Fileable e admitted := by
  unfold admission at h
  split at h
  · cases h
  split at h
  · cases h
  next adapted _ =>
  split at h
  · cases h
  next hchecked =>
  cases h
  unfold checkAdapted at hchecked
  obtain ⟨_, hparams, hrest⟩ := Run.except_bind_eq_ok.mp hchecked
  obtain ⟨_, -, hrest⟩ := Run.except_bind_eq_ok.mp hrest
  obtain ⟨_, hexposure, -⟩ := Run.except_bind_eq_ok.mp hrest
  unfold validateParams at hparams
  obtain ⟨_, -, hparams⟩ := Run.except_bind_eq_ok.mp hparams
  obtain ⟨_, hsize, -⟩ := Run.except_bind_eq_ok.mp hparams
  obtain ⟨hprice, hvolume⟩ := validateSize_ok hsize
  exact ⟨hprice, hvolume, checkExposure_ok hexposure⟩

theorem estimateEmergencyPrice_pos (s : OmsState) (market : MarketData)
    (lastTradePrice : String → ℚ) (symbol : String) (side : Side) :
    0 < s.estimateEmergencyPrice market lastTradePrice symbol side := by
  unfold OmsState.estimateEmergencyPrice
  simp only
  split
  · next h => exact h.2
  split
  · next h => exact h.2
  split
  · next h => exact h
  split
  · next h => exact h
  split
  · next h => exact h
  · exact one_pos

theorem toUpper_ne_empty (h : symbol ≠ "") : symbol.toUpper ≠ "" := by
  intro hupper
  apply h
  have hlist : symbol.toUpper.toList = [] := by
    rw [hupper]
    rfl
  unfold String.toUpper at hlist
  rw [String.toList_map, List.map_eq_nil_iff] at hlist
  exact String.toList_inj.mp hlist

/-- An emergency order is always fileable. -/
theorem emergencyIntent_fileable (s : OmsState) (market : MarketData)
    (lastTradePrice : String → ℚ) (volume : ℚ) {qty : ℚ} (reason : String)
    (hsymbol : symbol ≠ "") (hqty : 0 < qty) :
    Fileable s.exposure (s.emergencyIntent market lastTradePrice symbol volume qty reason) := by
  unfold OmsState.emergencyIntent
  refine ⟨?_, ?_, Or.inl ?_⟩
  · rw [Order.postInit_price]
    exact estimateEmergencyPrice_pos s market lastTradePrice _ _
  · rw [Order.postInit_volume]
    exact hqty
  · rw [Order.postInit_symbol]
    exact ⟨toUpper_ne_empty hsymbol, Text.toUpper_toUpper symbol⟩

namespace OmsState

variable {s t : OmsState} {key oid : String} {order : Order}

theorem Recorded.refreshOpenOrders {orders : Dict String Order}
    {ids : Dict String String} {records : List JournalRecord}
    (h : Recorded s t orders ids records) : Recorded s t.refreshOpenOrders orders ids records :=
  ⟨h.venue, h.tradeCursors, h.executionIds,
    h.positions.trans (Exposure.updateOpenOrders_samePositions t.exposure t.orders), h.orders,
    h.exchangeIdMap, h.records⟩

/-- What a command does; `Refused` holds of the intents it may reject. -/
inductive CommandEffect (now : ℚ) (Refused : OrderIntent → Prop) (s s' : OmsState) : Prop where
  /-- Nothing but bookkeeping. -/
  | quiet (same : SameLedgers s s')
  /-- A rejected intent is journaled as an order that is never filed. -/
  | rejected (clientOid : String) (intent : OrderIntent) (reason : String)
      (refused : Refused intent)
      (recorded : Recorded s s' s.orders s.exchangeIdMap
        [.orderSnapshot
          ((Order.init clientOid intent now).markRejectedLocally now reason).1.toRecord
          "intent_rejected"])
  /-- A new order is filed. -/
  | filed (clientOid : String) (intent : OrderIntent) (source : String)
      (fileable : Fileable s.exposure intent)
      (recorded : Recorded s s'
        (s.orders.set clientOid ((Order.init clientOid intent now).markSubmitting now).1)
        s.exchangeIdMap
        [.orderSnapshot ((Order.init clientOid intent now).markSubmitting now).1.toRecord
          source])
  /-- An order moves, and its snapshot follows the result of the command. -/
  | moved (key : String) (before after : Order) (orders : Dict String Order)
      (ids : Dict String String) (results : List CommandResult) (source : String)
      (found : s.orders.get? key = some before)
      (own : ∀ result ∈ results, result.clientOid = before.clientOid)
      (move : Order.Moved now before after)
      (table : orders = s.orders.set key after ∨ orders = (s.orders.set key after).erase key ∨
        (after = before ∧ orders = s.orders))
      (mapped : ids = s.exchangeIdMap ∨
        (after.exchangeOid ≠ "" ∧ ids = s.exchangeIdMap.set after.exchangeOid key))
      (recorded : Recorded s s' orders ids
        (results.map .commandResult ++ [.orderSnapshot after.toRecord source]))
  /-- The result of a cancel that changes nothing yet. -/
  | noted (key : String) (before : Order) (result : CommandResult)
      (found : s.orders.get? key = some before)
      (own : result.clientOid = before.clientOid) (cancel : result.commandType = .cancel)
      (recorded : Recorded s s' s.orders s.exchangeIdMap [.commandResult result])

/-! ## Submission -/

/-- A rejected intent is a rejected order. -/
theorem rejectedIntent_status (clientOid : String) (intent : OrderIntent) (now : ℚ)
    (reason : String) :
    ((Order.init clientOid intent now).markRejectedLocally now reason).1.status =
      .rejectedLocally := by
  have hallowed : OrderStatus.rejectedLocally ∈
      (Order.init clientOid intent now).status.allowedTransitions := by
    show OrderStatus.rejectedLocally ∈ OrderStatus.created.allowedTransitions
    decide
  obtain ⟨moved, hmoved⟩ := Order.transition_isOk_iff.mpr (Or.inr hallowed)
  exact Order.transition_status hmoved

variable {Refused : OrderIntent → Prop}

theorem rejectIntentLocally_effect (s : OmsState) (now : ℚ) (clientOid : String)
    {intent : OrderIntent} (hrefused : Refused intent) (reason : String) :
    CommandEffect now Refused s (s.rejectIntentLocally now clientOid intent reason) := by
  refine .rejected clientOid intent reason hrefused ?_
  unfold rejectIntentLocally
  exact (((Recorded.refl s).log rfl).then_sameLedgers
    (writeTombstone_sameLedgers _ _)).then_sameLedgers (audit_sameLedgers _ _)

theorem prepareSubmit_effect (s : OmsState) (now : ℚ) (clientOid : String)
    {intent : OrderIntent} (hfileable : Fileable s.exposure intent) (source : String) :
    CommandEffect now Refused s (s.prepareSubmit now clientOid intent source) := by
  refine .filed clientOid intent source hfileable ?_
  unfold prepareSubmit
  exact ((((Recorded.refl s).putOrder clientOid _).refreshOpenOrders).log rfl).then_sameLedgers
    (log_sameLedgers rfl)

theorem submitOrder_effect (env : SubmitEnv) (s : OmsState) (clientOid : String)
    (intent : OrderIntent) (reasonText : SubmitRejection → String) :
    CommandEffect env.now
      (fun refused => ∃ reason, admission env s.exposure intent = .error (refused, reason)) s
      (s.submitOrder env clientOid intent reasonText) := by
  unfold submitOrder
  cases hadmitted : admission env s.exposure intent with
  | error rejection =>
    obtain ⟨refused, reason⟩ := rejection
    exact rejectIntentLocally_effect s env.now clientOid ⟨reason, rfl⟩ _
  | ok admitted => exact prepareSubmit_effect s env.now clientOid (admission_ok hadmitted) _

theorem emergencyFlatten_effect (s : OmsState) (now : ℚ) (market : MarketData)
    (lastTradePrice : String → ℚ) (clientOid symbol : String) (volume qty : ℚ)
    (reason : String) :
    CommandEffect now Refused s
      (s.emergencyFlatten now market lastTradePrice clientOid symbol volume qty reason) := by
  unfold emergencyFlatten
  split
  · exact .quiet (SameLedgers.refl s)
  next hflat =>
    push Not at hflat
    exact prepareSubmit_effect s now clientOid
      (emergencyIntent_fileable s market lastTradePrice volume reason hflat.1 hflat.2.2) _

/-! ## Settlement -/

theorem own_nil : ∀ result ∈ ([] : List CommandResult), result.clientOid = oid := by
  intro result hmem
  cases hmem

theorem own_singleton {result : CommandResult} (h : result.clientOid = oid) :
    ∀ r ∈ [result], r.clientOid = oid := by
  intro r hmem
  rw [List.mem_singleton.mp hmem]
  exact h

/-- The order after an acknowledgement named it. -/
theorem bindExchangeOid_spec (s : OmsState) (now : ℚ) (key : String) (order : Order)
    (exchangeOid : String) :
    Order.Moved now order (s.bindExchangeOid key order exchangeOid).2 ∧
      ∃ ids, (ids = s.exchangeIdMap ∨
          ((s.bindExchangeOid key order exchangeOid).2.exchangeOid ≠ "" ∧
            ids = s.exchangeIdMap.set (s.bindExchangeOid key order exchangeOid).2.exchangeOid
              key)) ∧
        Recorded s (s.bindExchangeOid key order exchangeOid).1 s.orders ids [] := by
  unfold bindExchangeOid
  split
  · exact ⟨Order.Moved.refl now order, _, Or.inl rfl, Recorded.refl s⟩
  next hoid =>
  split
  · exact ⟨Order.Moved.refl now order, _, Or.inl rfl,
      (Recorded.refl s).then_sameLedgers (audit_sameLedgers s _)⟩
  split
  · exact ⟨Order.Moved.refl now order, _, Or.inl rfl,
      (Recorded.refl s).then_sameLedgers (audit_sameLedgers s _)⟩
  · refine ⟨⟨⟨rfl, rfl, rfl, rfl, rfl, rfl⟩, id, Or.inl rfl, Or.inl rfl, rfl⟩, _,
      Or.inr ⟨hoid, rfl⟩, ?_⟩
    exact ⟨rfl, rfl, rfl, ⟨rfl, rfl, rfl, rfl⟩, rfl, rfl, (List.append_nil _).symm⟩

/-- A pending acknowledgement keeps the exchange id. -/
theorem markPendingAck_exchangeOid (order : Order) (now : ℚ) :
    (order.markPendingAck now order.exchangeOid).1.exchangeOid = order.exchangeOid := by
  unfold Order.markPendingAck Order.transition
  split
  · unfold Order.noteReason Order.noteExchangeUpdate
    split <;> simp
  split
  · unfold Order.noteReason Order.noteExchangeUpdate
    split <;> simp
  · rfl

theorem settleAck_effect {now : ℚ}
    (result : CommandResult) (hown : result.clientOid = order.clientOid)
    (hfound : s.orders.get? key = some order)
    (ht : Recorded s t s.orders s.exchangeIdMap [.commandResult result]) (reply : CommandReply) :
    CommandEffect now Refused s (t.settleAck now key order reply) := by
  obtain ⟨hnamed, ids, hids, hbound⟩ := bindExchangeOid_spec t now key order reply.exchangeOid
  unfold settleAck
  cases hbind : t.bindExchangeOid key order reply.exchangeOid with
  | mk bound named =>
    rw [hbind] at hnamed hids hbound
    simp only
    have hmove : Order.Moved now order
        (if awaitsSubmit order then (named.markPendingAck now named.exchangeOid).1
          else named) := by
      split
      · exact hnamed.trans (Order.transition_moved named now .pendingAck (by decide) "" _)
      · exact hnamed
    have hoid : (if awaitsSubmit order then (named.markPendingAck now named.exchangeOid).1
        else named).exchangeOid = named.exchangeOid := by
      split
      · exact markPendingAck_exchangeOid named now
      · rfl
    have hchain : Recorded s bound s.orders ids [.commandResult result] :=
      ⟨hbound.venue.trans ht.venue, hbound.tradeCursors.trans ht.tradeCursors,
        hbound.executionIds.trans ht.executionIds, ht.positions.trans hbound.positions,
        hbound.orders.trans ht.orders, hbound.exchangeIdMap,
        by rw [hbound.records, ht.records, List.append_nil]⟩
    refine .moved key order _ _ ids [result] _ hfound (own_singleton hown) hmove (Or.inl rfl) ?_
      ((hchain.putOrder key _).log rfl)
    rw [hoid, ← ht.exchangeIdMap]
    exact hids

theorem settleUnknown_effect {now : ℚ}
    (result : CommandResult) (hown : result.clientOid = order.clientOid)
    (hfound : s.orders.get? key = some order)
    (ht : Recorded s t s.orders s.exchangeIdMap [.commandResult result]) (reply : CommandReply) :
    CommandEffect now Refused s (t.settleUnknown now key order reply) := by
  unfold settleUnknown
  refine .moved key order _ _ s.exchangeIdMap [result] _ hfound (own_singleton hown) ?_
    (Or.inl rfl)
    (Or.inl rfl)
    ((ht.putOrder key _).log rfl)
  split
  · exact Order.transition_moved order now .submitUnknown (by decide) _ ""
  · exact Order.Moved.refl now order

theorem settleRejected_effect {now : ℚ}
    (result : CommandResult) (hown : result.clientOid = order.clientOid)
    (hfound : s.orders.get? key = some order)
    (ht : Recorded s t s.orders s.exchangeIdMap [.commandResult result]) (reply : CommandReply) :
    CommandEffect now Refused s (t.settleRejected now key order reply) := by
  unfold settleRejected
  simp only
  split
  · refine .moved key order _ _ s.exchangeIdMap [result] "send_failed" hfound
      (own_singleton hown)
      (Order.transition_moved order now .rejectedLocally (by decide)
        (reply.message "gateway_send_rejected") "") (Or.inr (Or.inl rfl)) (Or.inl rfl) ?_
    refine Recorded.then_sameLedgers (Recorded.refreshOpenOrders (Recorded.eraseOrder
      (Recorded.log (Recorded.putOrder ht key _) ?_) key)) (writeTombstone_sameLedgers _ _)
    rfl
  · exact .moved key order order _ s.exchangeIdMap [result] _ hfound (own_singleton hown)
      (Order.Moved.refl now order)
      (Or.inr (Or.inr ⟨rfl, rfl⟩)) (Or.inl rfl) (ht.log rfl)

/-- The result of a submit. -/
theorem settleSubmit_effect (s : OmsState) (now : ℚ) (clientOid : String)
    (reply : CommandReply) : CommandEffect now Refused s
      (s.settleSubmit now clientOid reply) := by
  unfold settleSubmit
  cases hfound : s.orders.get? clientOid with
  | none => exact .quiet (SameLedgers.refl s)
  | some order =>
    have hlogged : Recorded s (s.log (.commandResult (commandResult .submit order reply)))
        s.orders s.exchangeIdMap [.commandResult (commandResult .submit order reply)] :=
      (Recorded.refl s).log rfl
    simp only
    cases reply.outcome with
    | acknowledged => exact settleAck_effect _ rfl hfound hlogged reply
    | rejected => exact settleRejected_effect _ rfl hfound hlogged reply
    | unknown => exact settleUnknown_effect _ rfl hfound hlogged reply

/-- An order the venue does not have. -/
theorem confirmAbsent_effect (s : OmsState) (now : ℚ) (clientOid : String) :
    CommandEffect now Refused s (s.confirmAbsent now clientOid) := by
  unfold confirmAbsent
  cases hfound : s.orders.get? clientOid with
  | none => exact .quiet (SameLedgers.refl s)
  | some order =>
    simp only
    split
    · refine .moved clientOid order _ _ s.exchangeIdMap [] "submit_unknown_absent" hfound own_nil
        (Order.transition_moved order now .rejectedLocally (by decide)
          "exchange_confirmed_order_absent" "") (Or.inl rfl) (Or.inl rfl) ?_
      exact (((((Recorded.refl s).putOrder clientOid _).log rfl).then_sameLedgers
        (writeTombstone_sameLedgers _ _)).refreshOpenOrders)
    · exact .quiet (SameLedgers.refl s)

/-! ## Cancellation -/

theorem cancelOrder_effect (s : OmsState) (now : ℚ) (clientOid : String) :
    CommandEffect now Refused s (s.cancelOrder now clientOid) := by
  unfold cancelOrder
  cases hfound : s.orders.get? clientOid with
  | none => exact .quiet (SameLedgers.refl s)
  | some order =>
    simp only
    split
    · exact .quiet (SameLedgers.refl s)
    have hmove := Order.transition_moved order now .cancelling (by decide) "" ""
    cases hmark : order.markCancelling now with
    | mk after result =>
      have hafter : (order.transition now .cancelling "" { exchangeOid := "" }).1 = after :=
        congrArg Prod.fst hmark
      rw [hafter] at hmove
      cases result with
      | error err => exact .quiet (SameLedgers.refl s)
      | ok moved =>
        exact .moved clientOid order after _ s.exchangeIdMap [] _ hfound own_nil hmove
          (Or.inl rfl) (Or.inl rfl)
          ((((Recorded.refl s).putOrder clientOid after).log rfl).then_sameLedgers
            (log_sameLedgers rfl))

/-- The note a failed cancel leaves on an order that cannot become unknown. -/
theorem cancelNote_moved (order : Order) (now : ℚ) :
    Order.Moved now order
      (order.noteExchangeUpdate now { exchangeStatus := "CANCEL_UNKNOWN",
                                      updateTime := now }) := by
  refine ⟨Order.noteExchangeUpdate_sameBooks order now _, id, Or.inr ?_, ?_, ?_⟩
  · simp only [Order.noteExchangeUpdate]
    split <;> rfl
  · simp only [Order.noteExchangeUpdate]
    split
    · exact Or.inr rfl
    · exact Or.inl rfl
  · simp [Order.noteExchangeUpdate]

/-- The result of a cancel. -/
theorem settleCancel_effect (s : OmsState) (now : ℚ) (clientOid : String)
    (reply : CommandReply) : CommandEffect now Refused s
      (s.settleCancel now clientOid reply) := by
  unfold settleCancel
  cases hfound : s.orders.get? clientOid with
  | none => exact .quiet (SameLedgers.refl s)
  | some order =>
    have hlogged : Recorded s (s.log (.commandResult (commandResult .cancel order reply)))
        s.orders s.exchangeIdMap [.commandResult (commandResult .cancel order reply)] :=
      (Recorded.refl s).log rfl
    simp only
    split
    · exact .noted clientOid order _ hfound rfl rfl
        (hlogged.then_sameLedgers (audit_sameLedgers _ _))
    split
    · exact .noted clientOid order _ hfound rfl rfl
        (hlogged.then_sameLedgers (audit_sameLedgers _ _))
    refine .moved clientOid order _ _ s.exchangeIdMap
      [commandResult .cancel order reply] _ hfound (own_singleton rfl) ?_ (Or.inl rfl)
      (Or.inl rfl)
      (((hlogged.putOrder clientOid _).log rfl).then_sameLedgers (audit_sameLedgers _ _))
    split
    · next after moved hmark =>
      have hmove := Order.transition_moved order now .cancelUnknown (by decide)
        (reply.message "cancel_outcome_unknown") ""
      rw [show (order.transition now .cancelUnknown _ { exchangeOid := "" }).1 = after from
        congrArg Prod.fst hmark] at hmove
      exact hmove
    · exact cancelNote_moved order now

end OmsState

end ChronosHFT.Oms
