import ChronosHFT.Oms.EventSpec
import ChronosHFT.Oms.OrderReplay

/-!
# Facts about replay

What is used of `rebuild_from_log` by everything that reasons about restarts.  The
pass over the records can be cut anywhere (`replay_append`), it does not see the
quiet records (`replay_ledgerRecords`), and an order that is filed again comes from a
snapshot in the journal (`rebuild_orders`).
-/

namespace ChronosHFT.Oms

open List

namespace OrderReplay

/-! ## The pass over the records -/

theorem step_of_isQuiet {record : JournalRecord} (h : record.isQuiet = true) (limit : ℕ)
    (r : OrderReplay) : r.step limit record = .ok r := by
  cases record with
  | commandPrepared command => rfl
  | lifecycle state reason => rfl
  | other kind => rfl
  | orderSnapshot order source => cases h
  | commandResult result => cases h
  | execution execution => cases h
  | tradeCursorAdvanced symbol tradeId source => cases h

theorem replay_append (limit : ℕ) (r : OrderReplay) (first second : List JournalRecord) :
    replay limit r (first ++ second) =
      match replay limit r first with
      | .error err => .error err
      | .ok next => replay limit next second := by
  induction first generalizing r with
  | nil => rfl
  | cons record rest ih =>
    rw [cons_append, replay, replay]
    cases r.step limit record with
    | error err => rfl
    | ok next => exact ih next

/-- Quiet records are not seen. -/
theorem replay_ledgerRecords (limit : ℕ) (r : OrderReplay) (journal : List JournalRecord) :
    replay limit r (ledgerRecords journal) = replay limit r journal := by
  induction journal generalizing r with
  | nil => rfl
  | cons record rest ih =>
    by_cases hquiet : record.isQuiet = true
    · have hskip : ledgerRecords (record :: rest) = ledgerRecords rest := by
        unfold ledgerRecords
        rw [filter_cons_of_neg (by simp [hquiet])]
      rw [hskip, replay, step_of_isQuiet hquiet]
      exact ih r
    · have hkeep : ledgerRecords (record :: rest) = record :: ledgerRecords rest := by
        unfold ledgerRecords
        rw [filter_cons_of_pos (by simpa using hquiet)]
      rw [hkeep, replay, replay]
      cases r.step limit record with
      | error err => rfl
      | ok next => exact ih next

/-! ## Where the latest snapshots come from -/

variable {latest record : OrderRecord} {limit : ℕ} {next r : OrderReplay} {key oid : String}
  {journal : List JournalRecord} {filed : Dict String Order × Dict String String} {order : Order}
  {orders : List Order}

/-- A snapshot makes what was behind the one before it obsolete; remembering too many
terminal orders only removes entries, from all three maps alike. -/
theorem onSnapshot_maps
    (h : r.onSnapshot limit record = .ok next) (hne : record.clientOid ≠ "")
    (hget : next.latestOrderRecords.get? oid = some latest) :
    (r.latestOrderRecords.set record.clientOid record).get? oid = some latest ∧
      next.latestCommandResults.get? oid =
        (r.latestCommandResults.erase record.clientOid).get? oid ∧
      next.executionsByClientOid.get? oid =
        (r.executionsByClientOid.erase record.clientOid).get? oid := by
  unfold onSnapshot at h
  rw [if_neg hne] at h
  split at h
  · cases h
  simp only at h
  split at h
  · cases h
    obtain ⟨hkept, hlatest⟩ := Dict.get?_of_foldl_erase hget
    exact ⟨hlatest, (Dict.get?_foldl_erase _ _ oid).trans (if_neg hkept),
      (Dict.get?_foldl_erase _ _ oid).trans (if_neg hkept)⟩
  · cases h
    exact ⟨hget, rfl, rfl⟩

theorem onSnapshot_of_empty (h : record.clientOid = "") : r.onSnapshot limit record = .ok r := by
  unfold onSnapshot
  rw [if_pos h]

theorem onSnapshot_latest (h : r.onSnapshot limit record = .ok next)
    (hget : next.latestOrderRecords.get? oid = some latest) :
    ((record.clientOid = "" ∨ oid ≠ record.clientOid) ∧
        r.latestOrderRecords.get? oid = some latest) ∨
      (record.clientOid ≠ "" ∧ oid = record.clientOid ∧ latest = record) := by
  by_cases hempty : record.clientOid = ""
  · rw [onSnapshot_of_empty hempty] at h
    cases h
    exact Or.inl ⟨Or.inl hempty, hget⟩
  · obtain ⟨hset, -⟩ := onSnapshot_maps h hempty hget
    rw [Dict.get?_set] at hset
    split at hset
    · next heq =>
      cases hset
      exact Or.inr ⟨hempty, heq, rfl⟩
    · next hne => exact Or.inl ⟨Or.inr hne, hset⟩

theorem onExecution_latest {execution : ExecutionRecord}
    (h : r.onExecution execution = .ok next) :
    next.latestOrderRecords = r.latestOrderRecords := by
  unfold onExecution at h
  split at h
  · cases h
  simp only at h
  split at h
  · cases h
    rfl
  split at h
  · cases h
  · cases h
    rfl
  · cases h
    rfl

/-- The snapshots of one order, oldest first. -/
def snapshotsOf (oid : String) (journal : List JournalRecord) : List OrderRecord :=
  journal.filterMap fun
    | .orderSnapshot record _ => if record.clientOid = oid then some record else none
    | _ => none

/-- The last snapshot of an order in a journal. -/
def lastSnapshot (oid : String) (journal : List JournalRecord) : Option OrderRecord :=
  (snapshotsOf oid journal).getLast?

theorem lastSnapshot_append_of_nil {record : JournalRecord} (h : snapshotsOf oid [record] = []) :
    lastSnapshot oid (journal ++ [record]) = lastSnapshot oid journal := by
  unfold lastSnapshot snapshotsOf at *
  rw [filterMap_append, h, append_nil]

theorem lastSnapshot_append_self (journal : List JournalRecord) (record : OrderRecord)
    (source : String) :
    lastSnapshot record.clientOid (journal ++ [.orderSnapshot record source]) = some record := by
  unfold lastSnapshot snapshotsOf
  rw [filterMap_append]
  simp

/-- One record: only a snapshot changes the latest snapshots. -/
theorem step_latest {record : JournalRecord} (h : r.step limit record = .ok next)
    (hget : next.latestOrderRecords.get? oid = some latest) :
    (r.latestOrderRecords.get? oid = some latest ∧ (oid ≠ "" → snapshotsOf oid [record] = [])) ∨
      (oid ≠ "" ∧ oid = latest.clientOid ∧ ∃ source, record = .orderSnapshot latest source) := by
  cases record with
  | orderSnapshot order source =>
    rcases onSnapshot_latest h hget with ⟨hother, hold⟩ | ⟨hne, hoid, rfl⟩
    · refine Or.inl ⟨hold, fun hne => ?_⟩
      have hdiffers : order.clientOid ≠ oid := by
        rcases hother with hempty | hdiffers
        · rw [hempty]
          exact hne.symm
        · exact hdiffers.symm
      simp [snapshotsOf, hdiffers]
    · exact Or.inr ⟨by rw [hoid]; exact hne, hoid, source, rfl⟩
  | execution execution =>
    rw [onExecution_latest h] at hget
    exact Or.inl ⟨hget, fun _ => rfl⟩
  | commandResult result =>
    cases h
    unfold onCommandResult at hget
    split at hget <;> exact Or.inl ⟨hget, fun _ => rfl⟩
  | tradeCursorAdvanced symbol tradeId source =>
    cases h
    unfold onCursor at hget
    simp only at hget
    split at hget
    · exact Or.inl ⟨hget, fun _ => rfl⟩
    · split at hget <;> exact Or.inl ⟨hget, fun _ => rfl⟩
  | commandPrepared command =>
    cases h
    exact Or.inl ⟨hget, fun _ => rfl⟩
  | lifecycle state reason =>
    cases h
    exact Or.inl ⟨hget, fun _ => rfl⟩
  | other kind =>
    cases h
    exact Or.inl ⟨hget, fun _ => rfl⟩

/-- **The latest snapshot** the pass keeps of an order is the last one in the journal. -/
theorem replay_latest {final : OrderReplay} (h : replay limit {} journal = .ok final)
    (hget : final.latestOrderRecords.get? oid = some latest) :
    oid ≠ "" ∧ oid = latest.clientOid ∧ lastSnapshot oid journal = some latest := by
  induction journal using List.reverseRecOn generalizing final latest with
  | nil =>
    cases h
    cases hget
  | append_singleton journal record ih =>
    rw [replay_append] at h
    cases hbefore : replay limit {} journal with
    | error err =>
      rw [hbefore] at h
      cases h
    | ok r =>
      simp only [hbefore, replay] at h
      cases hstep : r.step limit record with
      | error err =>
        rw [hstep] at h
        cases h
      | ok next =>
        rw [hstep] at h
        cases h
        rcases step_latest hstep hget with ⟨hold, hnone⟩ | ⟨hne, hoid, source, rfl⟩
        · obtain ⟨hne, hoid, hlast⟩ := ih hbefore hold
          exact ⟨hne, hoid, (lastSnapshot_append_of_nil (hnone hne)).trans hlast⟩
        · refine ⟨hne, hoid, ?_⟩
          rw [hoid]
          exact lastSnapshot_append_self journal latest source

theorem mem_of_lastSnapshot
    (h : lastSnapshot oid journal = some record) :
    ∃ source, .orderSnapshot record source ∈ journal := by
  obtain ⟨entry, hentry, hsome⟩ := mem_filterMap.mp (mem_of_getLast? h)
  cases entry with
  | orderSnapshot found source =>
    simp only at hsome
    split at hsome
    · cases hsome
      exact ⟨source, hentry⟩
    · cases hsome
  | _ => cases hsome

/-! ## The orders that are filed -/

theorem fileOrder_orders {first : Order} (h : (fileOrder filed first).1.get? key = some order) :
    filed.1.get? key = some order ∨
      (order = first ∧ first.isActive = true ∧ first.clientOid = key) := by
  unfold fileOrder at h
  split at h
  · next hactive =>
    rw [Dict.get?_set] at h
    split at h
    · next heq =>
      cases h
      exact Or.inr ⟨rfl, hactive, heq.symm⟩
    · exact Or.inl h
  · exact Or.inl h

theorem foldl_fileOrder_orders (h : (orders.foldl fileOrder filed).1.get? key = some order) :
    filed.1.get? key = some order ∨
      (order ∈ orders ∧ order.isActive = true ∧ order.clientOid = key) := by
  induction orders generalizing filed with
  | nil => exact Or.inl h
  | cons first rest ih =>
    rcases ih h with hfiled | ⟨hmem, hactive, hkey⟩
    · rcases fileOrder_orders hfiled with hold | ⟨rfl, hactive, hkey⟩
      · exact Or.inl hold
      · exact Or.inr ⟨mem_cons_self, hactive, hkey⟩
    · exact Or.inr ⟨mem_cons_of_mem _ hmem, hactive, hkey⟩

/-- An order on file is one of the active ones, under its own client id. -/
theorem fileOrders_orders (h : (fileOrders orders).1.get? key = some order) :
    order ∈ orders ∧ order.isActive = true ∧ order.clientOid = key := by
  rcases foldl_fileOrder_orders h with habsurd | hfiled
  · cases habsurd
  · exact hfiled

theorem recoverOrders_mem {now : ℚ} {entries : List (String × OrderRecord)}
    (h : r.recoverOrders now entries = .ok orders)
    (hmem : order ∈ orders) :
    ∃ entry ∈ entries, r.recoverOrder now entry.1 entry.2 = .ok order := by
  induction entries generalizing orders with
  | nil =>
    cases h
    cases hmem
  | cons entry rest ih =>
    obtain ⟨oid, record⟩ := entry
    rw [recoverOrders] at h
    cases hfirst : r.recoverOrder now oid record with
    | error err =>
      rw [hfirst] at h
      cases h
    | ok first =>
      simp only [hfirst] at h
      cases hrest : r.recoverOrders now rest with
      | error err =>
        rw [hrest] at h
        cases h
      | ok others =>
        rw [hrest] at h
        cases h
        rcases mem_cons.mp hmem with rfl | hother
        · exact ⟨(oid, record), mem_cons_self, hfirst⟩
        · obtain ⟨entry, hentry, heq⟩ := ih hrest hother
          exact ⟨entry, mem_cons_of_mem _ hentry, heq⟩

/-- What `finish` leaves. -/
theorem finish_ok {now : ℚ} {recovered : Recovered} (h : r.finish limit now = .ok recovered) :
    ∃ orders, r.recoverOrders now r.latestOrderRecords.items = .ok orders ∧
      recovered.orders = (fileOrders orders).1 ∧
      recovered.exchangeIdMap = (fileOrders orders).2 ∧
      recovered.executionIds = retainCursorUncovered r.replayedExecutionIds r.tradeCursors ∧
      recovered.strategy = r.strategy ∧ recovered.tradeCursors = r.tradeCursors := by
  unfold finish at h
  split at h
  · cases h
  cases horders : r.recoverOrders now r.latestOrderRecords.items with
  | error err =>
    rw [horders] at h
    cases h
  | ok orders =>
    rw [horders] at h
    cases h
    exact ⟨orders, rfl, rfl, rfl, rfl, rfl, rfl⟩

/-- **A recovered order** is active and stands for a snapshot of the journal. -/
theorem rebuild_orders {now : ℚ}
    {recovered : Recovered} (h : rebuild limit now journal = .ok recovered)
    (hget : recovered.orders.get? key = some order) :
    ∃ (r : OrderReplay) (record : OrderRecord) (source : String),
      replay limit {} journal = .ok r ∧ .orderSnapshot record source ∈ journal ∧
      r.latestOrderRecords.get? record.clientOid = some record ∧
      r.recoverOrder now record.clientOid record = .ok order ∧ order.isActive = true ∧
      order.clientOid = key := by
  unfold rebuild at h
  cases hreplay : replay limit {} journal with
  | error err =>
    rw [hreplay] at h
    cases h
  | ok r =>
    simp only [hreplay] at h
    obtain ⟨orders, horders, hfiled, -⟩ := finish_ok h
    rw [hfiled] at hget
    obtain ⟨hmem, hactive, hkey⟩ := fileOrders_orders hget
    obtain ⟨⟨oid, record⟩, hentry, hrecover⟩ := recoverOrders_mem horders hmem
    have hlatest : r.latestOrderRecords.get? oid = some record :=
      Dict.get?_eq_some_iff.mpr hentry
    obtain ⟨-, rfl, hlast⟩ := replay_latest hreplay hlatest
    obtain ⟨source, hsource⟩ := mem_of_lastSnapshot hlast
    exact ⟨r, record, source, rfl, hsource, hlatest, hrecover, hactive, hkey⟩

end OrderReplay

/-! ## Replaying one order -/

namespace Order

theorem settleRecoveredSubmit_sameBooks (order : Order) (now : ℚ) (result : CommandResult) :
    SameBooks (order.settleRecoveredSubmit now result) order := by
  unfold settleRecoveredSubmit
  split
  · exact SameBooks.refl order
  split
  · exact transition_sameBooks order now _ _ _
  · exact transition_sameBooks order now _ _ _
  · exact transition_sameBooks order now _ _ _

theorem settleRecoveredCancel_sameBooks (order : Order) (now : ℚ) (result : CommandResult) :
    SameBooks (order.settleRecoveredCancel now result) order := by
  unfold settleRecoveredCancel
  split
  · exact transition_sameBooks order now _ _ _
  · exact SameBooks.refl order

/-- A command result moves the order and books nothing. -/
theorem applyRecoveredCommandResult_sameBooks (order : Order) (now : ℚ)
    (result : CommandResult) :
    SameBooks (order.applyRecoveredCommandResult now result) order := by
  unfold applyRecoveredCommandResult
  split
  · refine (settleRecoveredSubmit_sameBooks _ now result).trans ?_
    split
    · exact transition_sameBooks order now _ _ _
    · exact SameBooks.refl order
  split
  · refine (settleRecoveredCancel_sameBooks _ now result).trans ?_
    split
    · exact transition_sameBooks order now _ _ _
    · exact SameBooks.refl order
  · exact SameBooks.refl order

theorem markInflightUnknown_sameBooks (order : Order) (now : ℚ) :
    SameBooks (order.markInflightUnknown now) order := by
  unfold markInflightUnknown
  split
  · exact transition_sameBooks order now _ _ _
  split
  · exact transition_sameBooks order now _ _ _
  · exact SameBooks.refl order

theorem restoreReplayed_sameBooks (order : Order) (now : ℚ) (preStatus : OrderStatus)
    (time : ℚ) :
    SameBooks (order.restoreReplayed now preStatus time).1 order := by
  unfold restoreReplayed
  split
  · exact SameBooks.refl order
  split
  · exact transition_sameBooks order now _ _ _
  split
  · exact transition_sameBooks order now _ _ _
  · exact SameBooks.refl order

/-- The order an execution is replayed on, named by the venue. -/
def named (order : Order) (execution : ExecutionRecord) : Order :=
  if execution.exchangeOid = "" then order else
    { order with exchangeOid := execution.exchangeOid }

/-- The note an execution carries. -/
def replayNote (execution : ExecutionRecord) : ExchangeNote where
  exchangeStatus :=
    if execution.exchangeStatus = "" then "PARTIALLY_FILLED" else execution.exchangeStatus
  updateTime := execution.exchangeTime

theorem named_sameBooks (order : Order) (execution : ExecutionRecord) :
    SameBooks (order.named execution) order := by
  unfold named
  split <;> exact ⟨rfl, rfl, rfl, rfl, rfl, rfl⟩

@[simp] theorem named_status (order : Order) (execution : ExecutionRecord) :
    (order.named execution).status = order.status := by
  unfold named
  split <;> rfl

variable {after order : Order} {now : ℚ} {execution : ExecutionRecord}

/-- An execution with sound values is booked on the order as it names it. -/
theorem applyRecoveredExecution_eq (hid : execution.executionId ≠ "")
    (hvalues : ¬(execution.cumFilledQty ≤ 0 ∨ execution.fillPrice ≤ 0 ∨
      execution.exchangeTime < 0)) :
    order.applyRecoveredExecution now execution =
      if execution.cumFilledQty - (order.named execution).filledVolume ≤ qtyEps then
        .ok (order.named execution) else
        match (order.named execution).addFill now
            (execution.cumFilledQty - (order.named execution).filledVolume) execution.fillPrice
            (replayNote execution) with
        | (_, .error err) => .error (.execution err)
        | (filled, .ok _) =>
          match filled.restoreReplayed now (order.named execution).status
              execution.exchangeTime with
          | (_, .error err) => .error (.execution err)
          | (restored, .ok _) => .ok restored := by
  unfold applyRecoveredExecution
  rw [if_neg hid, if_neg hvalues]
  rfl

/-- **A replayed execution**: it is behind the order, or its fill is booked and a
terminal state put back. -/
theorem applyRecoveredExecution_ok
    (h : order.applyRecoveredExecution now execution = .ok after) :
    (execution.cumFilledQty - order.filledVolume ≤ qtyEps ∧ after = order.named execution) ∨
      (qtyEps < execution.cumFilledQty - order.filledVolume ∧
        ∃ filled changed restored,
          (order.named execution).addFill now (execution.cumFilledQty - order.filledVolume)
            execution.fillPrice (replayNote execution) = (filled, .ok changed) ∧
          filled.restoreReplayed now order.status execution.exchangeTime =
            (after, .ok restored)) := by
  have hvalid : execution.executionId ≠ "" ∧
      ¬(execution.cumFilledQty ≤ 0 ∨ execution.fillPrice ≤ 0 ∨ execution.exchangeTime < 0) := by
    unfold applyRecoveredExecution at h
    split at h
    · cases h
    next hid =>
    split at h
    · cases h
    next hvalues => exact ⟨hid, hvalues⟩
  rw [applyRecoveredExecution_eq hvalid.1 hvalid.2] at h
  rw [(named_sameBooks order execution).filledVolume, named_status] at h
  split at h
  · next hbehind =>
    cases h
    exact Or.inl ⟨hbehind, rfl⟩
  next hahead =>
  refine Or.inr ⟨not_le.mp hahead, ?_⟩
  split at h
  · cases h
  next filled changed hfill =>
  split at h
  · cases h
  next final restored hrestore =>
  cases h
  exact ⟨filled, changed, restored, hfill, hrestore⟩

theorem applyRecoveredExecution_identity
    (h : order.applyRecoveredExecution now execution = .ok after) :
    SameIdentity after order := by
  have hnamed := (named_sameBooks order execution).identity
  rcases applyRecoveredExecution_ok h with ⟨-, rfl⟩ |
    ⟨-, filled, changed, restored, hfill, hrestore⟩
  · exact hnamed
  have hfilled := addFill_identity (order.named execution) now
    (execution.cumFilledQty - order.filledVolume) execution.fillPrice (replayNote execution)
  rw [hfill] at hfilled
  have hrestored := (restoreReplayed_sameBooks filled now order.status
    execution.exchangeTime).identity
  rw [hrestore] at hrestored
  exact (hrestored.trans hfilled).trans hnamed

/-! ### Locally rejected orders -/

/-- A rejected order takes no fill. -/
theorem addFill_rejectedLocally (hstatus : order.status = .rejectedLocally)
    (now : ℚ) {qty : ℚ} (hqty : 0 < qty) (price : ℚ) (note : ExchangeNote) :
    ∃ after err, order.addFill now qty price note = (after, .error err) := by
  unfold addFill
  rw [if_neg (not_le.mpr hqty)]
  cases hcheck : order.fillCheck qty price with
  | some err => exact ⟨order, err, rfl⟩
  | none =>
    have hstuck : (order.bookFill qty price).transition now (order.bookFill qty price).fillStatus
        "" note = (order.bookFill qty price,
          .error (.invalidTransition .rejectedLocally (order.bookFill qty price).fillStatus
            order.clientOid)) := by
      unfold transition
      rw [bookFill_status, hstatus]
      have hfill : (order.bookFill qty price).fillStatus = .filled ∨
          (order.bookFill qty price).fillStatus = .partiallyFilled := by
        unfold fillStatus
        split
        · exact Or.inl rfl
        · exact Or.inr rfl
      rcases hfill with hfill | hfill
      · rw [hfill, if_neg (by decide), if_neg (by decide)]
        rfl
      · rw [hfill, if_neg (by decide), if_neg (by decide)]
        rfl
    simp only [hstuck]
    exact ⟨_, _, rfl⟩

theorem applyRecoveredCommandResult_rejectedLocally
    (hstatus : order.status = .rejectedLocally) (now : ℚ) (result : CommandResult) :
    order.applyRecoveredCommandResult now result = order := by
  have hactive : order.isActive = false := by
    unfold isActive
    rw [hstatus]
    decide
  unfold applyRecoveredCommandResult
  split
  · rw [if_neg (by rw [hstatus]; decide)]
    unfold settleRecoveredSubmit
    rw [if_pos (by rw [hstatus]; decide)]
  · rw [if_neg (by rw [hactive]; decide)]

theorem applyRecoveredExecution_rejectedLocally
    (h : order.applyRecoveredExecution now execution = .ok after)
    (hstatus : order.status = .rejectedLocally) : after.status = .rejectedLocally := by
  rcases applyRecoveredExecution_ok h with ⟨-, rfl⟩ |
    ⟨hahead, filled, changed, restored, hfill, -⟩
  · rw [named_status]
    exact hstatus
  have hqty : 0 < execution.cumFilledQty - order.filledVolume :=
    lt_trans (by decide +kernel) hahead
  obtain ⟨_, _, herror⟩ := addFill_rejectedLocally
    ((named_status order execution).trans hstatus) now hqty execution.fillPrice
    (replayNote execution)
  rw [herror] at hfill
  cases hfill

theorem markInflightUnknown_rejectedLocally
    (hstatus : order.status = .rejectedLocally) (now : ℚ) :
    order.markInflightUnknown now = order := by
  unfold markInflightUnknown
  rw [hstatus]
  rfl

/-- What a snapshot is read as. -/
theorem fromRecord_ok {record : OrderRecord} (h : fromRecord record = .ok order) :
    order.clientOid = record.clientOid ∧ order.intent.symbol = record.intent.symbol ∧
      order.intent.volume = record.intent.volume ∧ order.filledVolume = record.filledVolume ∧
      OrderStatus.ofValue? record.status = some order.status ∧ order.Recoverable := by
  unfold fromRecord at h
  split at h
  · cases h
  split at h
  · cases h
  split at h
  · cases h
  next status hstatus =>
  simp only at h
  split at h
  · cases h
  next hvalid =>
  cases h
  exact ⟨rfl, postInit_symbol _, postInit_volume _, rfl, hstatus, hvalid⟩

end Order

namespace OrderReplay

/-- A property kept by the three stages of a recovery holds of the recovered order. -/
theorem recoverOrder_induct {P : Order → Prop} {r : OrderReplay} {now : ℚ} {oid : String}
    {record : OrderRecord} {order : Order} (h : r.recoverOrder now oid record = .ok order)
    (hread : ∀ o, Order.fromRecord record = .ok o → P o)
    (hresult : ∀ o result, P o → P (o.applyRecoveredCommandResult now result))
    (hexecution : ∀ o o' execution, P o → o.applyRecoveredExecution now execution = .ok o' →
      P o')
    (hinflight : ∀ o, P o → P (o.markInflightUnknown now)) : P order := by
  unfold recoverOrder at h
  cases hfrom : Order.fromRecord record with
  | error err =>
    rw [hfrom] at h
    cases h
  | ok o =>
    simp only [hfrom] at h
    have hresolved : P (r.resolveOrder now oid o) := by
      unfold resolveOrder
      split
      · exact hread o hfrom
      · exact hresult o _ (hread o hfrom)
    have hloop : ∀ (executions : List ExecutionRecord) (o o' : Order), P o →
        applyExecutions now o executions = .ok o' → P o' := by
      intro executions
      induction executions with
      | nil =>
        intro o o' hP happly
        cases happly
        exact hP
      | cons execution rest ih =>
        intro o o' hP happly
        rw [applyExecutions] at happly
        cases hfirst : o.applyRecoveredExecution now execution with
        | error err =>
          rw [hfirst] at happly
          cases happly
        | ok next =>
          rw [hfirst] at happly
          exact ih next o' (hexecution o next execution hP hfirst) happly
    split at h
    · cases h
    next final happly =>
      cases h
      exact hinflight _ (hloop _ _ _ hresolved happly)

end OrderReplay

end ChronosHFT.Oms
