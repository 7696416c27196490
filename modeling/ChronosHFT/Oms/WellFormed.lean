import ChronosHFT.Oms.CommandSpec
import ChronosHFT.Oms.FillAtomicity
import ChronosHFT.Oms.ReplaySpec
import ChronosHFT.Oms.TruthSpec

/-!
# Orders whose snapshot can be read

`from_record` refuses a snapshot whose numbers do not fit together, and the methods
of `Order` make no such check when they write.  `Order.WellFormed` is the invariant
that closes the gap: it implies that the snapshot is accepted
(`WellFormed.recoverable`), and every method of an order keeps it.

The method that has to be watched is `add_fill`.  It keeps the invariant when the
order's volume is above the quantity tolerance: an order smaller than that is filled
with a positive average price and a volume the reader takes for zero.
-/

namespace ChronosHFT.Oms

namespace Order

/-- An order that passes the checks of `from_record`, and does so for a reason that
survives every move: its cost is the product of volume and average price, its clocks
are not negative, and it is only `FILLED` when it is complete. -/
structure WellFormed (order : Order) : Prop where
  symbol : order.intent.symbol ≠ ""
  price : 0 < order.intent.price
  volume : 0 < order.intent.volume
  books : (order.filledVolume = 0 ∧ order.avgPrice = 0 ∧ order.cumulativeCost = 0) ∨
    (qtyEps < order.filledVolume ∧ order.filledVolume ≤ order.intent.volume ∧
      0 < order.avgPrice ∧ order.cumulativeCost = order.filledVolume * order.avgPrice)
  createdAt : 0 ≤ order.createdAt
  updatedAt : 0 ≤ order.updatedAt
  lastExchangeUpdateTime : 0 ≤ order.lastExchangeUpdateTime
  lastUpdateSeq : 0 ≤ order.lastUpdateSeq
  complete : order.status = .filled → order.intent.volume - doneEps ≤ order.filledVolume

/-- The times and numbers an exchange message reports. -/
structure Timed (note : ExchangeNote) : Prop where
  updateTime : 0 ≤ note.updateTime
  seq : 0 ≤ note.seq

namespace WellFormed

variable {order after : Order} {now : ℚ}

theorem filledVolume_nonneg (h : order.WellFormed) : 0 ≤ order.filledVolume := by
  rcases h.books with ⟨hzero, -, -⟩ | ⟨hfilled, -⟩
  · exact hzero.ge
  · exact (qtyEps_pos.trans hfilled).le

theorem filledVolume_le (h : order.WellFormed) : order.filledVolume ≤ order.intent.volume := by
  rcases h.books with ⟨hzero, -, -⟩ | ⟨-, hle, -⟩
  · rw [hzero]
    exact h.volume.le
  · exact hle

theorem cumulativeCost_nonneg (h : order.WellFormed) : 0 ≤ order.cumulativeCost := by
  rcases h.books with ⟨-, -, hzero⟩ | ⟨-, -, hprice, hcost⟩
  · exact hzero.ge
  · rw [hcost]
    exact mul_nonneg h.filledVolume_nonneg hprice.le

theorem avgPrice_nonneg (h : order.WellFormed) : 0 ≤ order.avgPrice := by
  rcases h.books with ⟨-, hzero, -⟩ | ⟨-, -, hprice, -⟩
  · exact hzero.ge
  · exact hprice.le

/-- **A well-formed order can be read back.** -/
theorem recoverable (h : order.WellFormed) (hoid : order.clientOid ≠ "") :
    order.Recoverable := by
  have hover : ¬order.intent.volume + fillEps < order.filledVolume := by
    have heps := fillEps_pos
    have hle := h.filledVolume_le
    linarith
  have hnegative : ¬(order.filledVolume < 0 ∨ order.avgPrice < 0 ∨ order.cumulativeCost < 0 ∨
      order.createdAt < 0 ∨ order.updatedAt < 0 ∨ order.lastExchangeUpdateTime < 0 ∨
      order.lastUpdateSeq < 0) := by
    push Not
    exact ⟨h.filledVolume_nonneg, h.avgPrice_nonneg, h.cumulativeCost_nonneg, h.createdAt,
      h.updatedAt, h.lastExchangeUpdateTime, h.lastUpdateSeq⟩
  have hintent : ¬(order.intent.price ≤ 0 ∨ order.intent.volume ≤ 0) := by
    push Not
    exact ⟨h.price, h.volume⟩
  unfold Recoverable validateRecoveredState
  rw [if_neg hoid, if_neg h.symbol, if_neg hintent, if_neg hnegative, if_neg hover]
  rcases h.books with ⟨hfilled, havg, hcost⟩ | ⟨hfilled, -, hprice, hcost⟩
  · have hnone : ¬(qtyEps < order.avgPrice ∨ qtyEps < order.cumulativeCost) := by
      rw [havg, hcost]
      push Not
      exact ⟨qtyEps_pos.le, qtyEps_pos.le⟩
    rw [if_neg (by rw [hfilled]; exact not_lt.mpr qtyEps_pos.le), if_neg hnone]
  · have hexact : ¬costTolerance (order.filledVolume * order.avgPrice) <
        |order.cumulativeCost - order.filledVolume * order.avgPrice| := by
      rw [hcost, sub_self, abs_zero, not_lt]
      unfold costTolerance
      exact le_max_of_le_left doneEps_pos.le
    rw [if_pos hfilled, if_neg (not_le.mpr hprice), if_neg hexact]

/-! ## Moves -/

/-- Whatever keeps the books and the clocks keeps the invariant. -/
theorem of_sameBooks (h : order.WellFormed) (hbooks : SameBooks after order)
    (hupdated : 0 ≤ after.updatedAt) (htime : 0 ≤ after.lastExchangeUpdateTime)
    (hseq : 0 ≤ after.lastUpdateSeq)
    (hcomplete : after.status = .filled →
      order.intent.volume - doneEps ≤ order.filledVolume) : after.WellFormed where
  symbol := by rw [hbooks.intent]; exact h.symbol
  price := by rw [hbooks.intent]; exact h.price
  volume := by rw [hbooks.intent]; exact h.volume
  books := by
    rw [hbooks.intent, hbooks.filledVolume, hbooks.avgPrice, hbooks.cumulativeCost]
    exact h.books
  createdAt := by rw [hbooks.createdAt]; exact h.createdAt
  updatedAt := hupdated
  lastExchangeUpdateTime := htime
  lastUpdateSeq := hseq
  complete := by
    rw [hbooks.intent, hbooks.filledVolume]
    exact hcomplete

variable {note : ExchangeNote}

theorem noteExchangeUpdate (h : order.WellFormed) (hnow : 0 ≤ now)
    (hnote : Timed note) : (order.noteExchangeUpdate now note).WellFormed := by
  refine h.of_sameBooks (noteExchangeUpdate_sameBooks order now note) ?_ ?_ ?_ h.complete
  · simp only [Order.noteExchangeUpdate]
    split
    · exact hnote.updateTime
    · exact hnow
  · simp only [Order.noteExchangeUpdate]
    split
    · exact le_max_of_le_left h.lastExchangeUpdateTime
    · exact h.lastExchangeUpdateTime
  · simp only [Order.noteExchangeUpdate]
    split
    · exact le_max_of_le_left h.lastUpdateSeq
    · exact h.lastUpdateSeq

theorem noteReason (h : order.WellFormed) (reason : String) :
    (order.noteReason reason).WellFormed := by
  unfold Order.noteReason
  split
  · exact h.of_sameBooks ⟨rfl, rfl, rfl, rfl, rfl, rfl⟩ h.updatedAt h.lastExchangeUpdateTime
      h.lastUpdateSeq h.complete
  · exact h

/-- **A transition keeps the invariant**, provided `FILLED` is only entered with the
volume complete. -/
theorem transition (h : order.WellFormed) (hnow : 0 ≤ now) (next : OrderStatus)
    (hnext : next = .filled → order.intent.volume - doneEps ≤ order.filledVolume)
    (reason : String) (hnote : Timed note) :
    (order.transition now next reason note).1.WellFormed := by
  unfold Order.transition
  split
  · exact (h.noteExchangeUpdate hnow hnote).noteReason reason
  split
  · have hmoved : ({ order with status := next } : Order).WellFormed :=
      h.of_sameBooks ⟨rfl, rfl, rfl, rfl, rfl, rfl⟩ h.updatedAt h.lastExchangeUpdateTime
        h.lastUpdateSeq hnext
    exact (hmoved.noteReason reason).noteExchangeUpdate hnow hnote
  · exact h

/-- A move of the command path. -/
theorem moved (h : order.WellFormed) (hnow : 0 ≤ now) (hmove : Moved now order after) :
    after.WellFormed := by
  refine h.of_sameBooks hmove.books ?_ ?_ ?_ (fun hfilled => h.complete (hmove.filled hfilled))
  · rcases hmove.updatedAt with heq | heq
    · rw [heq]
      exact h.updatedAt
    · rw [heq]
      exact hnow
  · rcases hmove.lastExchangeUpdateTime with heq | heq
    · rw [heq]
      exact h.lastExchangeUpdateTime
    · rw [heq]
      exact le_max_of_le_left h.lastExchangeUpdateTime
  · rw [hmove.lastUpdateSeq]
    exact h.lastUpdateSeq

/-- A terminal state put back after a late trade. -/
theorem restored (h : order.WellFormed) (hnow : 0 ≤ now) {time : ℚ} (htime : 0 ≤ time)
    (hrestored : OmsState.Restored now time order after) : after.WellFormed := by
  refine h.of_sameBooks hrestored.books ?_ ?_ ?_ ?_
  · rcases hrestored.updatedAt with heq | heq | heq
    · rw [heq]
      exact h.updatedAt
    · rw [heq]
      exact htime
    · rw [heq]
      exact hnow
  · rcases hrestored.lastExchangeUpdateTime with heq | heq
    · rw [heq]
      exact h.lastExchangeUpdateTime
    · rw [heq]
      exact le_max_of_le_left h.lastExchangeUpdateTime
  · rw [hrestored.lastUpdateSeq]
    exact h.lastUpdateSeq
  · intro hfilled
    rcases hrestored.status.2 with heq | heq
    · rw [heq] at hfilled
      cases hfilled
    · rw [heq] at hfilled
      cases hfilled

/-! ## Fills -/

theorem remaining_eq (h : order.WellFormed) :
    order.remaining = order.intent.volume - order.filledVolume :=
  max_eq_right (sub_nonneg.mpr h.filledVolume_le)

/-- A fill is counted, unless the order's volume is itself below the tolerance. -/
theorem bookFill (h : order.WellFormed) (hvolume : qtyEps < order.intent.volume) {qty price : ℚ}
    (hqty : qtyEps < qty) (hprice : 0 < price) : (order.bookFill qty price).WellFormed := by
  have hremaining : 0 ≤ order.remaining := le_max_left _ _
  have happlied : 0 ≤ min qty order.remaining := le_min (qtyEps_pos.trans hqty).le hremaining
  have hfilled : qtyEps < order.filledVolume + min qty order.remaining := by
    rcases h.books with ⟨hzero, -, -⟩ | ⟨hold, -⟩
    · rw [h.remaining_eq, hzero, sub_zero, zero_add]
      exact lt_min hqty hvolume
    · linarith
  have hle : order.filledVolume + min qty order.remaining ≤ order.intent.volume := by
    have hmin := min_le_right qty order.remaining
    rw [h.remaining_eq] at hmin ⊢
    linarith
  have hpositive : 0 < order.filledVolume + min qty order.remaining := qtyEps_pos.trans hfilled
  have hcost : 0 < order.cumulativeCost + min qty order.remaining * price := by
    rcases h.books with ⟨hzero, -, hcostZero⟩ | ⟨hold, -, havg, hcostOld⟩
    · rw [hcostZero, zero_add]
      rw [hzero, zero_add] at hpositive
      exact mul_pos hpositive hprice
    · rw [hcostOld]
      have holdCost := mul_pos (qtyEps_pos.trans hold) havg
      have hnewCost := mul_nonneg happlied hprice.le
      linarith
  refine ⟨h.symbol, h.price, h.volume, Or.inr ⟨hfilled, hle, ?_, ?_⟩, h.createdAt, h.updatedAt,
    h.lastExchangeUpdateTime, h.lastUpdateSeq, ?_⟩
  · simp only [Order.bookFill, if_pos hpositive]
    exact div_pos hcost hpositive
  · simp only [Order.bookFill, if_pos hpositive]
    rw [mul_div_cancel₀ _ hpositive.ne']
  intro hstatus
  have hbefore := h.complete hstatus
  show order.intent.volume - doneEps ≤ order.filledVolume + min qty order.remaining
  linarith

/-- **`add_fill` keeps the invariant** whether it raises or not. -/
theorem addFill (h : order.WellFormed) (hnow : 0 ≤ now) (hvolume : qtyEps < order.intent.volume)
    {qty price : ℚ} (hqty : qtyEps < qty) (hprice : 0 < price)
    (hnote : Timed note) : (order.addFill now qty price note).1.WellFormed := by
  unfold Order.addFill
  rw [if_neg (not_le.mpr (qtyEps_pos.trans hqty))]
  split
  · exact h
  have hbooked := h.bookFill hvolume hqty hprice
  have hmove := hbooked.transition hnow (order.bookFill qty price).fillStatus
    (fun hfilled => by
      by_contra hincomplete
      unfold fillStatus at hfilled
      rw [if_neg hincomplete] at hfilled
      cases hfilled) "" hnote
  simp only
  split
  · next heq =>
    rw [heq] at hmove
    exact hmove
  · next heq =>
    rw [heq] at hmove
    exact hmove

theorem markFilled (h : order.WellFormed) (hnow : 0 ≤ now) {updateTime : ℚ} {seq : ℤ}
    (htime : 0 ≤ updateTime) (hseq : 0 ≤ seq) :
    (order.markFilled now updateTime seq).1.WellFormed := by
  unfold Order.markFilled
  split
  · exact h
  · next hcomplete => exact h.transition hnow .filled (fun _ => not_lt.mp hcomplete) "" ⟨htime,
      hseq⟩

theorem completed (hnow : 0 ≤ now) {u : ExchangeOrderUpdate} (htime : 0 ≤ u.updateTime)
    (hseq : 0 ≤ u.seq) {filled : Order × Except OrderError Bool} (h : filled.1.WellFormed) :
    (Order.complete now u filled).1.WellFormed := by
  obtain ⟨booked, result⟩ := filled
  cases result with
  | error err => exact h
  | ok hadFill =>
    have hmark : (booked.markFilled now u.updateTime u.seq).1.WellFormed :=
      h.markFilled hnow htime hseq
    unfold Order.complete
    simp only
    split
    · next heq =>
      rw [heq] at hmark
      exact hmark
    · next heq =>
      rw [heq] at hmark
      exact hmark

/-- **An update keeps the invariant** whether it raises or not. -/
theorem applyUpdate (h : order.WellFormed) (hnow : 0 ≤ now) {u : ExchangeOrderUpdate}
    (htime : 0 ≤ u.updateTime) (hseq : 0 ≤ u.seq) (status : UpdateStatus)
    (hfill : qtyEps < incomingDelta order u →
      qtyEps < order.intent.volume ∧ 0 < u.filledPrice) :
    (order.applyUpdate now u status).1.WellFormed := by
  have hfilled : (order.applyFill now u).1.WellFormed := by
    unfold Order.applyFill
    split
    · next hdelta =>
      exact h.addFill hnow (hfill hdelta).1 hdelta (hfill hdelta).2 ⟨htime, hseq⟩
    · exact h.noteExchangeUpdate hnow ⟨htime, hseq⟩
  have hmove : ∀ {next : OrderStatus} (_ : next ≠ .filled) (reason : String) (text oid : String),
      (withoutFill (order.transition now next reason
        { exchangeStatus := text, updateTime := u.updateTime, seq := u.seq,
          exchangeOid := oid })).1.WellFormed := by
    intro next hnext reason text oid
    rw [withoutFill_fst]
    exact h.transition hnow next (fun heq => absurd heq hnext) reason ⟨htime, hseq⟩
  cases status with
  | new => exact hmove (by decide) "" _ _
  | canceled => exact hmove (by decide) "" _ _
  | expired => exact hmove (by decide) "" _ _
  | rejected => exact hmove (by decide) _ _ _
  | partiallyFilled => exact hfilled
  | filled => exact completed hnow htime hseq hfilled

end WellFormed

end Order

end ChronosHFT.Oms
