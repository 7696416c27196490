import ChronosHFT.Oms.AttributionRun
import ChronosHFT.Oms.WellFormed

/-!
# Can the journal be read back?

`rebuild_from_log` raises at the first record it does not accept, and then the OMS
does not start.  What it accepts is checked when it is read, not when it is written,
so whether a journal is readable is a property of the run that wrote it.

Three kinds of records go wrong.  A locally rejected intent is journaled as it was
submitted, with an empty symbol, price or volume.  An execution is journaled before
its order has accepted it; if the order never does, the execution stays behind the
last snapshot, and the rebuild replays it on that snapshot and raises like the order
did.  And the snapshot of a filled order whose volume is below the quantity tolerance
is taken for one with cost and no fills.

`Recordable` excludes exactly these, by looking at the state before the event.  The
invariant of a run that meets it has two halves: every order on file is well formed,
and the pass over the journal ends in a state from which every order can be resumed
(`OrderReplay.Sound`).
-/

namespace ChronosHFT.Oms

open List

/-- An execution record whose own numbers are accepted. -/
structure ExecutionRecord.Sound (execution : ExecutionRecord) : Prop where
  executionId : execution.executionId ≠ ""
  symbol : execution.symbol ≠ ""
  side : ∃ side : Side, execution.side = side.value
  fillQty : 0 < execution.fillQty
  fillPrice : 0 < execution.fillPrice
  cumFilledQty : 0 < execution.cumFilledQty
  exchangeTime : 0 ≤ execution.exchangeTime

/-! ## Resuming one order -/

namespace Order

/-- The statuses from which a fill is not refused. -/
def TakesFills (order : Order) : Prop :=
  order.status ∉ [OrderStatus.created, .rejected, .rejectedLocally]

variable {order after : Order} {now : ℚ}

/-- A fill may move such an order wherever it leads. -/
theorem fillStatus_moves (h : order.WellFormed) (htakes : order.TakesFills) {qty price : ℚ}
    (hqty : 0 < qty) :
    (order.bookFill qty price).fillStatus = order.status ∨
      (order.bookFill qty price).fillStatus ∈ order.status.allowedTransitions := by
  have hremaining : 0 ≤ order.remaining := le_max_left _ _
  -- A `FILLED` order is complete already, and more volume keeps it so.
  have hfilled : order.status = .filled → (order.bookFill qty price).fillStatus = .filled := by
    intro hstatus
    have hcomplete := h.complete hstatus
    have happlied : 0 ≤ min qty order.remaining := le_min hqty.le hremaining
    refine if_pos ?_
    show order.intent.volume - doneEps ≤ order.filledVolume + min qty order.remaining
    linarith
  have hcases : (order.bookFill qty price).fillStatus = .filled ∨
      (order.bookFill qty price).fillStatus = .partiallyFilled := by
    unfold fillStatus
    split
    · exact Or.inl rfl
    · exact Or.inr rfl
  unfold TakesFills at htakes
  generalize order.status = status at *
  generalize (order.bookFill qty price).fillStatus = next at *
  revert htakes hfilled
  rcases hcases with rfl | rfl <;> cases status <;> decide

/-- The checks of `add_fill` on a replayed fill. -/
theorem fillCheck_of_le (h : order.WellFormed) {qty price : ℚ} (hprice : 0 < price)
    (hqty : order.filledVolume + qty ≤ order.intent.volume + fillEps) :
    order.fillCheck qty price = none := by
  have hstate : ¬(order.intent.volume ≤ 0 ∨ order.filledVolume < 0 ∨
      order.cumulativeCost < 0) := by
    push Not
    exact ⟨h.volume, h.filledVolume_nonneg, h.cumulativeCost_nonneg⟩
  have hfits : ¬order.remaining + fillEps < qty := by
    rw [h.remaining_eq]
    linarith
  unfold fillCheck
  rw [if_neg (not_le.mpr hprice), if_neg hstate, if_neg hfits]

/-- A terminal state can always be put back. -/
theorem restoreReplayed_ok (h : order.WellFormed) (hnow : 0 ≤ now) {time : ℚ} (htime : 0 ≤ time)
    (hstatus : order.status = .filled ∨ order.status = .partiallyFilled) (pre : OrderStatus) :
    ∃ restored b, order.restoreReplayed now pre time = (restored, .ok b) ∧
      restored.WellFormed ∧ restored.TakesFills := by
  have hback : ∀ {next : OrderStatus} {text : String}, order.status = .partiallyFilled →
      next = .cancelled ∨ next = .expired →
      ∃ restored b, order.transition now next "" { exchangeStatus := text, updateTime := time } =
          (restored, .ok b) ∧ restored.WellFormed ∧ restored.TakesFills := by
    intro next text hpart hnext
    have hallowed : next = order.status ∨ next ∈ order.status.allowedTransitions := by
      rw [hpart]
      rcases hnext with rfl | rfl <;> decide
    obtain ⟨b, hok⟩ := (@transition_isOk_iff order now next ""
      { exchangeStatus := text, updateTime := time }).mpr hallowed
    have htimed : Timed { exchangeStatus := text, updateTime := time } := ⟨htime, le_refl 0⟩
    have hwell := h.transition hnow next (fun heq => by
      rcases hnext with rfl | rfl <;> cases heq) "" htimed
    refine ⟨_, b, Prod.ext rfl hok, hwell, ?_⟩
    unfold TakesFills
    rw [transition_status hok]
    rcases hnext with rfl | rfl <;> decide
  have hkept : order.TakesFills := by
    unfold TakesFills
    rcases hstatus with heq | heq <;> rw [heq] <;> decide
  unfold restoreReplayed
  split
  · exact ⟨order, false, rfl, h, hkept⟩
  next hnot =>
  have hpart : order.status = .partiallyFilled := by
    rcases hstatus with heq | heq
    · exact absurd heq hnot
    · exact heq
  split
  · exact hback hpart (Or.inl rfl)
  split
  · exact hback hpart (Or.inr rfl)
  · exact ⟨order, false, rfl, h, hkept⟩

theorem named_wellFormed (h : order.WellFormed) (execution : ExecutionRecord) :
    (order.named execution).WellFormed := by
  unfold named
  split
  · exact h
  · exact h.of_sameBooks ⟨rfl, rfl, rfl, rfl, rfl, rfl⟩ h.updatedAt h.lastExchangeUpdateTime
      h.lastUpdateSeq h.complete

/-- **A sound execution that fits the volume can be replayed**, again and again. -/
theorem applyRecoveredExecution_wellFormed (h : order.WellFormed) (htakes : order.TakesFills)
    (hvolume : qtyEps < order.intent.volume) (hnow : 0 ≤ now) {execution : ExecutionRecord}
    (hexecution : execution.Sound)
    (hfits : execution.cumFilledQty ≤ order.intent.volume + fillEps) :
    ∃ after, order.applyRecoveredExecution now execution = .ok after ∧ after.WellFormed ∧
      after.TakesFills ∧ after.intent = order.intent := by
  have hvalues : ¬(execution.cumFilledQty ≤ 0 ∨ execution.fillPrice ≤ 0 ∨
      execution.exchangeTime < 0) := by
    push Not
    exact ⟨hexecution.cumFilledQty, hexecution.fillPrice, hexecution.exchangeTime⟩
  have hbooks := named_sameBooks order execution
  have hnamed := named_wellFormed h execution
  have hnamedTakes : (order.named execution).TakesFills := by
    unfold TakesFills
    rw [named_status]
    exact htakes
  rw [applyRecoveredExecution_eq hexecution.executionId hvalues]
  split
  · exact ⟨_, rfl, hnamed, hnamedTakes, hbooks.intent⟩
  next hahead =>
  have hdelta := not_le.mp hahead
  have hqty := qtyEps_pos.trans hdelta
  have hcheck : (order.named execution).fillCheck
      (execution.cumFilledQty - (order.named execution).filledVolume) execution.fillPrice =
      none := by
    refine fillCheck_of_le hnamed hexecution.fillPrice ?_
    rw [hbooks.intent]
    linarith
  obtain ⟨filled, hfill⟩ := addFill_of_moves now (replayNote execution) hqty hcheck
    (fillStatus_moves hnamed hnamedTakes hqty)
  obtain ⟨-, hfilledBooks, hfilledStatus⟩ := addFill_ok hfill hqty
  have hfilledWell : filled.WellFormed := by
    have htimed : Timed (replayNote execution) := ⟨hexecution.exchangeTime, le_refl 0⟩
    have hkept := hnamed.addFill hnow (by rw [hbooks.intent]; exact hvolume) hdelta
      hexecution.fillPrice htimed
    rw [hfill] at hkept
    exact hkept
  have hstatus : filled.status = .filled ∨ filled.status = .partiallyFilled := by
    rw [hfilledStatus]
    unfold fillStatus
    split
    · exact Or.inl rfl
    · exact Or.inr rfl
  obtain ⟨restored, b, hrestore, hwell, hrestoredTakes⟩ :=
    restoreReplayed_ok hfilledWell hnow hexecution.exchangeTime hstatus
      (order.named execution).status
  have hintent := (restoreReplayed_sameBooks filled now (order.named execution).status
    execution.exchangeTime).intent
  rw [hrestore] at hintent
  refine ⟨restored, ?_, hwell, hrestoredTakes, ?_⟩
  · rw [hfill]
    simp only [hrestore]
  · exact hintent.trans (hfilledBooks.intent.trans hbooks.intent)

/-- The outcome of a cancel leaves a well-formed order that still takes fills if it
did before. -/
theorem applyRecoveredCancel_wellFormed (h : order.WellFormed) (hnow : 0 ≤ now)
    {result : CommandResult} (hcancel : result.commandType = .cancel) :
    (order.applyRecoveredCommandResult now result).WellFormed ∧
      (order.TakesFills → (order.applyRecoveredCommandResult now result).TakesFills) := by
  have hmove : ∀ {o : Order} {next : OrderStatus} (reason : String), next ≠ .filled →
      next ∉ [OrderStatus.created, .rejected, .rejectedLocally] → o.WellFormed →
      (o.transition now next reason {}).1.WellFormed ∧
        (o.TakesFills → (o.transition now next reason {}).1.TakesFills) := by
    intro o next reason hnext hopen ho
    refine ⟨ho.transition hnow next (fun heq => absurd heq hnext) reason ⟨le_refl 0, le_refl 0⟩,
      ?_⟩
    intro htakes
    unfold Order.transition
    split
    · unfold TakesFills
      rw [noteReason_status, noteExchangeUpdate_status]
      exact htakes
    · split
      · unfold TakesFills
        rw [noteExchangeUpdate_status, noteReason_status]
        exact hopen
      · exact htakes
  unfold applyRecoveredCommandResult
  rw [hcancel]
  simp only
  split
  · have hfirst : (if order.status ≠ .cancelling then (order.markCancelling now).1
        else order).WellFormed ∧
        (order.TakesFills → (if order.status ≠ .cancelling then (order.markCancelling now).1
          else order).TakesFills) := by
      split
      · exact hmove "" (by decide) (by decide) h
      · exact ⟨h, id⟩
    generalize (if order.status ≠ .cancelling then (order.markCancelling now).1 else order) =
      first at hfirst ⊢
    unfold settleRecoveredCancel
    split
    · obtain ⟨hwell, htakes⟩ := hmove (if result.outcome = .acknowledged then
        "recovered_cancel_ack_requires_truth" else recoveredMessage result)
        (show OrderStatus.cancelUnknown ≠ .filled by decide) (by decide) hfirst.1
      exact ⟨hwell, fun hbefore => htakes (hfirst.2 hbefore)⟩
    · exact hfirst
  · exact ⟨h, id⟩

theorem markInflightUnknown_wellFormed (h : order.WellFormed) (hnow : 0 ≤ now) :
    (order.markInflightUnknown now).WellFormed := by
  have htimed : Timed {} := ⟨le_refl 0, le_refl 0⟩
  unfold markInflightUnknown
  split
  · exact h.transition hnow .submitUnknown (fun heq => by cases heq) _ htimed
  split
  · exact h.transition hnow .cancelUnknown (fun heq => by cases heq) _ htimed
  · exact h

end Order

/-! ## Resuming from the pass over the records -/

namespace OrderReplay

/-- What the pass keeps of an order can be resumed: the snapshot is that of a
well-formed order, only cancels wait behind it, and the executions behind it fit. -/
structure Resumable (r : OrderReplay) (oid : String) (order : Order) : Prop where
  wellFormed : order.WellFormed
  cancels : ∀ result, r.latestCommandResults.get? oid = some result →
    result.commandType = .cancel
  executions : ∀ execution ∈ r.executionsByClientOid.getD oid [],
    execution.Sound ∧ order.TakesFills ∧ qtyEps < order.intent.volume ∧
      execution.cumFilledQty ≤ order.intent.volume + fillEps

/-- An order the pass knows of can be resumed. -/
def Resumes (r : OrderReplay) (oid : String) : Prop :=
  ∀ record, r.latestOrderRecords.get? oid = some record →
    ∃ order : Order, record = order.toRecord ∧ r.Resumable oid order

/-- Every order but one can be resumed, and no execution waits for an intent. -/
structure SoundBut (r : OrderReplay) (except : String) : Prop where
  deferred : r.deferred = ∅
  resumes : ∀ oid, oid ≠ "" → oid ≠ except → r.Resumes oid

/-- Every order can be resumed, and no execution waits for an intent. -/
structure Sound (r : OrderReplay) : Prop where
  deferred : r.deferred = ∅
  resumes : ∀ oid, oid ≠ "" → r.Resumes oid

variable {r r' : OrderReplay}

theorem Sound.but (h : r.Sound) (oid : String) : r.SoundBut oid :=
  ⟨h.deferred, fun other hne _ => h.resumes other hne⟩

/-- What is known of one order depends on what the pass keeps under its id. -/
theorem Resumes.congr {oid : String} (h : r.Resumes oid)
    (hlatest : ∀ record, r'.latestOrderRecords.get? oid = some record →
      r.latestOrderRecords.get? oid = some record ∧
      r'.latestCommandResults.get? oid = r.latestCommandResults.get? oid ∧
      r'.executionsByClientOid.get? oid = r.executionsByClientOid.get? oid) :
    r'.Resumes oid := by
  intro record hget
  obtain ⟨hold, hresults, hexecutions⟩ := hlatest record hget
  obtain ⟨order, hrecord, hresumable⟩ := h record hold
  refine ⟨order, hrecord, hresumable.wellFormed, ?_, ?_⟩
  · rw [hresults]
    exact hresumable.cancels
  · unfold Dict.getD
    rw [hexecutions]
    exact hresumable.executions

/-- Without executions that wait for an intent a snapshot is always accepted. -/
theorem onSnapshot_accepted (hdeferred : r.deferred = ∅) (limit : ℕ) (record : OrderRecord) :
    ∃ r', r.onSnapshot limit record = .ok r' ∧ r'.deferred = ∅ := by
  unfold onSnapshot
  split
  · exact ⟨r, rfl, hdeferred⟩
  rw [hdeferred, Dict.getD_empty]
  simp only [replayDeferred]
  split
  · exact ⟨_, rfl, rfl⟩
  · exact ⟨_, rfl, rfl⟩

variable {order : Order} {execution : ExecutionRecord} {now : ℚ} {journal : List JournalRecord}

/-- **A snapshot makes its order resumable** whatever was behind the one before. -/
theorem onSnapshot_sound (h : r.SoundBut order.clientOid) (hwell : order.WellFormed)
    (limit : ℕ) :
    ∃ r', r.onSnapshot limit order.toRecord = .ok r' ∧ r'.Sound := by
  obtain ⟨next, hok, hdeferred⟩ := onSnapshot_accepted h.deferred limit order.toRecord
  refine ⟨next, hok, hdeferred, fun oid hne => ?_⟩
  by_cases hempty : order.clientOid = ""
  · rw [onSnapshot_of_empty hempty] at hok
    cases hok
    exact h.resumes oid hne (fun heq => hne (heq.trans hempty))
  by_cases hoid : oid = order.clientOid
  · subst hoid
    intro record hget
    obtain ⟨hset, hresults, hexecutions⟩ := onSnapshot_maps hok hempty hget
    rw [Order.toRecord_clientOid] at hset hresults hexecutions
    rw [Dict.get?_set_self] at hset
    rw [Dict.get?_erase_self] at hresults hexecutions
    refine ⟨order, (Option.some.inj hset).symm, hwell, ?_, ?_⟩
    · intro result hresult
      rw [hresults] at hresult
      cases hresult
    · unfold Dict.getD
      rw [hexecutions]
      intro execution hmem
      cases hmem
  · refine (h.resumes oid hne hoid).congr ?_
    intro record hget
    obtain ⟨hset, hresults, hexecutions⟩ := onSnapshot_maps hok hempty hget
    rw [Order.toRecord_clientOid] at hset hresults hexecutions
    rw [Dict.get?_set_of_ne _ _ hoid] at hset
    rw [Dict.get?_erase_of_ne _ hoid] at hresults hexecutions
    exact ⟨hset, hresults, hexecutions⟩

/-- The strategy ledger takes every sound execution. -/
theorem replayStrategyExecution_ok (ledger : Ledger (String × String)) (h : execution.Sound)
    (intent : Option IntentRecord) :
    ∃ next, replayStrategyExecution ledger execution intent = .ok (some next) := by
  obtain ⟨side, hside⟩ := h.side
  have hsymbol : (orElse execution.symbol ((intent.map IntentRecord.symbol).getD "")).toUpper ≠
      "" := by
    unfold orElse
    rw [if_neg h.symbol]
    exact toUpper_ne_empty h.symbol
  have hsideText : orElse execution.side ((intent.map IntentRecord.side).getD "") =
      side.value := by
    unfold orElse
    rw [hside]
    cases side <;> rfl
  have hvalue : side.value ≠ "" := by
    cases side <;> decide
  unfold replayStrategyExecution
  simp only [hsideText, Side.ofValue?_value]
  rw [if_neg (by push Not; exact ⟨hsymbol, hvalue⟩)]
  unfold Ledger.applyFill
  rw [if_neg (by push Not; exact ⟨h.fillQty, h.fillPrice⟩)]
  exact ⟨_, rfl⟩

/-- A sound execution is noted behind its order's snapshot. -/
theorem onExecution_noted (hdeferred : r.deferred = ∅) (h : execution.Sound) :
    ∃ r', r.onExecution execution = .ok r' ∧ r'.deferred = ∅ ∧
      r'.latestOrderRecords = r.latestOrderRecords ∧
      r'.latestCommandResults = r.latestCommandResults ∧
      r'.executionsByClientOid =
        if execution.clientOid = "" then r.executionsByClientOid
        else r.executionsByClientOid.set execution.clientOid
          (r.executionsByClientOid.getD execution.clientOid [] ++ [execution]) := by
  unfold onExecution
  rw [if_neg h.executionId]
  simp only
  split
  · exact ⟨_, rfl, hdeferred, rfl, rfl, rfl⟩
  obtain ⟨next, hnext⟩ := replayStrategyExecution_ok r.strategy h
    ((r.latestOrderRecords.get? execution.clientOid).map OrderRecord.intent)
  rw [hnext]
  exact ⟨_, rfl, hdeferred, rfl, rfl, rfl⟩

/-- An execution concerns its own order only. -/
theorem onExecution_soundBut (h : r.SoundBut execution.clientOid)
    (hexecution : execution.Sound) :
    ∃ r', r.onExecution execution = .ok r' ∧ r'.SoundBut execution.clientOid := by
  obtain ⟨r', hok, hdeferred, hlatest, hresults, hexecutions⟩ :=
    onExecution_noted h.deferred hexecution
  refine ⟨r', hok, hdeferred, fun oid hne hother => (h.resumes oid hne hother).congr ?_⟩
  intro record hget
  rw [hlatest] at hget
  refine ⟨hget, by rw [hresults], ?_⟩
  rw [hexecutions]
  split
  · rfl
  · exact Dict.get?_set_of_ne _ _ hother

/-- An execution the last snapshot has room for may stay behind it. -/
theorem onExecution_sound (h : r.Sound) (hexecution : execution.Sound)
    (hroom : ∀ order : Order, r.latestOrderRecords.get? execution.clientOid =
      some order.toRecord →
      order.TakesFills ∧ qtyEps < order.intent.volume ∧
        execution.cumFilledQty ≤ order.intent.volume + fillEps) :
    ∃ r', r.onExecution execution = .ok r' ∧ r'.Sound := by
  obtain ⟨r', hok, hdeferred, hlatest, hresults, hexecutions⟩ :=
    onExecution_noted h.deferred hexecution
  refine ⟨r', hok, hdeferred, fun oid hne => ?_⟩
  by_cases hown : oid = execution.clientOid
  · subst hown
    intro record hget
    rw [hlatest] at hget
    obtain ⟨order, rfl, hresumable⟩ := h.resumes _ hne record hget
    refine ⟨order, rfl, hresumable.wellFormed, ?_, ?_⟩
    · rw [hresults]
      exact hresumable.cancels
    rw [hexecutions, if_neg hne, Dict.getD_set_self]
    intro other hmem
    rcases mem_append.mp hmem with hold | hnew
    · exact hresumable.executions other hold
    · rw [mem_singleton.mp hnew]
      exact ⟨hexecution, hroom order hget⟩
  · refine (h.resumes oid hne).congr ?_
    intro record hget
    rw [hlatest] at hget
    refine ⟨hget, by rw [hresults], ?_⟩
    rw [hexecutions]
    split
    · rfl
    · exact Dict.get?_set_of_ne _ _ hown

/-- A command result concerns its own order only. -/
theorem onCommandResult_soundBut {result : CommandResult} (h : r.SoundBut result.clientOid) :
    (r.onCommandResult result).SoundBut result.clientOid := by
  unfold onCommandResult
  split
  · exact h
  · refine ⟨h.deferred, fun oid hne hother => (h.resumes oid hne hother).congr ?_⟩
    intro record hget
    exact ⟨hget, Dict.get?_set_of_ne _ _ hother, rfl⟩

/-- The result of a cancel may stay behind a snapshot. -/
theorem onCommandResult_sound {result : CommandResult} (h : r.Sound)
    (hcancel : result.commandType = .cancel) : (r.onCommandResult result).Sound := by
  have hbut := onCommandResult_soundBut (h.but result.clientOid)
  refine ⟨hbut.deferred, fun oid hne => ?_⟩
  by_cases hown : oid = result.clientOid
  · subst hown
    unfold onCommandResult
    rw [if_neg hne]
    intro record hget
    obtain ⟨order, hrecord, hresumable⟩ := h.resumes _ hne record hget
    refine ⟨order, hrecord, hresumable.wellFormed, ?_, hresumable.executions⟩
    intro found hfound
    rw [Dict.get?_set_self] at hfound
    rw [← Option.some.inj hfound]
    exact hcancel
  · exact hbut.resumes oid hne hown

theorem onCursor_sound (h : r.Sound) (symbol : String) (tradeId : ℤ) (source : String) :
    (r.onCursor symbol tradeId source).Sound := by
  have hkept : ∀ r' : OrderReplay, r'.deferred = r.deferred →
      r'.latestOrderRecords = r.latestOrderRecords →
      r'.latestCommandResults = r.latestCommandResults →
      r'.executionsByClientOid = r.executionsByClientOid → r'.Sound := by
    intro r' hdeferred hlatest hresults hexecutions
    refine ⟨hdeferred.trans h.deferred, fun oid hne => (h.resumes oid hne).congr ?_⟩
    intro record hget
    rw [hlatest] at hget
    exact ⟨hget, by rw [hresults], by rw [hexecutions]⟩
  unfold onCursor
  simp only
  split
  · exact h
  split
  · exact hkept _ rfl rfl rfl rfl
  · exact hkept _ rfl rfl rfl rfl

/-! ### Several records -/

/-- Results of one order's commands, then its snapshot. -/
theorem replay_results_snapshot (hwell : order.WellFormed) (limit : ℕ)
    (source : String) {results : List CommandResult}
    (hown : ∀ result ∈ results, result.clientOid = order.clientOid)
    (h : r.SoundBut order.clientOid) : ∃ r', replay limit r (results.map .commandResult ++
      [.orderSnapshot order.toRecord source]) = .ok r' ∧ r'.Sound := by
  induction results generalizing r with
  | nil =>
    obtain ⟨r', hok, hsound⟩ := onSnapshot_sound h hwell limit
    refine ⟨r', ?_, hsound⟩
    simp only [map_nil, nil_append, replay, step, hok]
  | cons result rest ih =>
    have hfirst := hown result mem_cons_self
    rw [← hfirst] at h
    have hnext := onCommandResult_soundBut h
    rw [hfirst] at hnext
    exact ih (fun other hmem => hown other (mem_cons_of_mem _ hmem)) hnext

/-- Snapshots of well-formed orders. -/
theorem replay_snapshots (limit : ℕ) (source : String) {orders : List Order}
    (hwell : ∀ order ∈ orders, order.WellFormed) (h : r.Sound) :
    ∃ r', replay limit r (orders.map fun order => .orderSnapshot order.toRecord source) =
      .ok r' ∧
      r'.Sound := by
  induction orders generalizing r with
  | nil => exact ⟨r, rfl, h⟩
  | cons order rest ih =>
    obtain ⟨next, hok, hsound⟩ :=
      onSnapshot_sound (h.but order.clientOid) (hwell order mem_cons_self) limit
    obtain ⟨r', hrest, hsound'⟩ :=
      ih (fun other hmem => hwell other (mem_cons_of_mem _ hmem)) hsound
    refine ⟨r', ?_, hsound'⟩
    rw [map_cons, replay]
    simp only [step, hok]
    exact hrest

/-! ### The end of the pass -/

theorem applyExecutions_wellFormed (hnow : 0 ≤ now)
    {executions : List ExecutionRecord} (hwell : order.WellFormed)
    (hexecutions : ∀ execution ∈ executions,
      execution.Sound ∧ order.TakesFills ∧ qtyEps < order.intent.volume ∧
        execution.cumFilledQty ≤ order.intent.volume + fillEps) :
    ∃ after, applyExecutions now order executions = .ok after ∧ after.WellFormed := by
  induction executions generalizing order with
  | nil => exact ⟨order, rfl, hwell⟩
  | cons execution rest ih =>
    obtain ⟨hsound, htakes, hvolume, hfits⟩ := hexecutions execution mem_cons_self
    obtain ⟨next, hok, hnext, hnextTakes, hintent⟩ :=
      Order.applyRecoveredExecution_wellFormed hwell htakes hvolume hnow hsound hfits
    obtain ⟨after, hrest, hafter⟩ := ih hnext (by
      intro other hmem
      obtain ⟨hother, -, -, hotherFits⟩ := hexecutions other (mem_cons_of_mem _ hmem)
      rw [hintent]
      exact ⟨hother, hnextTakes, hvolume, hotherFits⟩)
    refine ⟨after, ?_, hafter⟩
    rw [applyExecutions, hok]
    exact hrest

theorem recovered_wellFormed (h : order.WellFormed) : order.recovered.WellFormed where
  symbol := by
    rw [show order.recovered.intent = order.intent.postInit from rfl, Order.postInit_symbol]
    exact h.symbol
  price := by
    rw [show order.recovered.intent = order.intent.postInit from rfl, Order.postInit_price]
    exact h.price
  volume := by
    rw [show order.recovered.intent = order.intent.postInit from rfl, Order.postInit_volume]
    exact h.volume
  books := by
    rw [show order.recovered.intent = order.intent.postInit from rfl, Order.postInit_volume]
    exact h.books
  createdAt := h.createdAt
  updatedAt := h.updatedAt
  lastExchangeUpdateTime := h.lastExchangeUpdateTime
  lastUpdateSeq := h.lastUpdateSeq
  complete := by
    rw [show order.recovered.intent = order.intent.postInit from rfl, Order.postInit_volume]
    exact h.complete

/-- **A resumable order is recovered**, and well formed. -/
theorem recoverOrder_wellFormed {oid : String} (hnow : 0 ≤ now)
    (hoid : order.clientOid ≠ "") (h : r.Resumable oid order) :
    ∃ after, r.recoverOrder now oid order.toRecord = .ok after ∧ after.WellFormed := by
  have hread : Order.fromRecord order.toRecord = .ok order.recovered := by
    have hvalid : order.validateRecoveredState = none := h.wellFormed.recoverable hoid
    rw [Order.fromRecord_toRecord, hvalid]
  have hintent : order.recovered.intent.volume = order.intent.volume := Order.postInit_volume _
  have hwell := recovered_wellFormed h.wellFormed
  have hresolved : (r.resolveOrder now oid order.recovered).WellFormed ∧
      (order.TakesFills → (r.resolveOrder now oid order.recovered).TakesFills) ∧
      (r.resolveOrder now oid order.recovered).intent = order.recovered.intent := by
    unfold resolveOrder
    cases hresult : r.latestCommandResults.get? oid with
    | none => exact ⟨hwell, id, rfl⟩
    | some result =>
      obtain ⟨hafter, htakes⟩ :=
        Order.applyRecoveredCancel_wellFormed hwell hnow (h.cancels result hresult)
      exact ⟨hafter, htakes,
        (Order.applyRecoveredCommandResult_sameBooks order.recovered now result).intent⟩
  obtain ⟨hresolvedWell, htakes, hresolvedIntent⟩ := hresolved
  obtain ⟨after, hok, hafter⟩ := applyExecutions_wellFormed hnow hresolvedWell (by
    intro execution hmem
    obtain ⟨hsound, hbefore, hvolume, hfits⟩ := h.executions execution hmem
    rw [hresolvedIntent, hintent]
    exact ⟨hsound, htakes hbefore, hvolume, hfits⟩)
  refine ⟨after.markInflightUnknown now, ?_, Order.markInflightUnknown_wellFormed hafter hnow⟩
  unfold recoverOrder
  simp only [hread, hok]

theorem recoverOrders_ok {entries : List (String × OrderRecord)}
    (h : ∀ entry ∈ entries, ∃ order, r.recoverOrder now entry.1 entry.2 = .ok order) :
    ∃ orders, r.recoverOrders now entries = .ok orders := by
  induction entries with
  | nil => exact ⟨[], rfl⟩
  | cons entry rest ih =>
    obtain ⟨oid, record⟩ := entry
    obtain ⟨order, horder⟩ := h (oid, record) mem_cons_self
    obtain ⟨orders, horders⟩ := ih fun other hmem => h other (mem_cons_of_mem _ hmem)
    refine ⟨order :: orders, ?_⟩
    rw [recoverOrders, horder]
    simp only [horders]

/-- Every order of a sound pass is recovered, and well formed. -/
theorem Sound.recoverOrder {limit : ℕ} (h : r.Sound)
    (hreplay : replay limit {} journal = .ok r) (hnow : 0 ≤ now) {oid : String}
    {record : OrderRecord} (hget : r.latestOrderRecords.get? oid = some record) :
    ∃ order, r.recoverOrder now oid record = .ok order ∧ order.WellFormed := by
  obtain ⟨hne, hoid, -⟩ := replay_latest hreplay hget
  obtain ⟨order, rfl, hresumable⟩ := h.resumes oid hne record hget
  exact recoverOrder_wellFormed hnow (by rw [hoid] at hne; exact hne) hresumable

/-- **A sound pass ends in a rebuild.** -/
theorem Sound.rebuild {limit : ℕ} (h : r.Sound)
    (hreplay : replay limit {} journal = .ok r) (hnow : 0 ≤ now) :
    ∃ recovered, OrderReplay.rebuild limit now journal = .ok recovered := by
  have hall : ∀ entry ∈ r.latestOrderRecords.items,
      ∃ order, r.recoverOrder now entry.1 entry.2 = .ok order := by
    intro entry hmem
    obtain ⟨order, hok, -⟩ := h.recoverOrder hreplay hnow (Dict.get?_eq_some_iff.mpr hmem)
    exact ⟨order, hok⟩
  obtain ⟨orders, horders⟩ := recoverOrders_ok hall
  unfold OrderReplay.rebuild
  simp only [hreplay, finish, h.deferred, Dict.values_empty, flatten_nil, horders]
  exact ⟨_, rfl⟩

end OrderReplay

end ChronosHFT.Oms
