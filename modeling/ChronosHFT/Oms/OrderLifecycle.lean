import ChronosHFT.Lib.Run
import ChronosHFT.Lib.Text
import ChronosHFT.Oms.FillAtomicity

/-!
# An order over its whole life

Any caller may call any method of an `Order` at any time, with any arguments, and carry
on after it raised.  `OrderCall` lists the methods, `Order.call` runs one of them, and a
life of an order is a list of calls, each with the reading of the clock.

Four things are asked of such a life.  The numbers fit together in every state
(`Order.Consistent`): this holds whatever is called, raising calls included, because
`add_fill` checks before it books.  The other three are about single calls
(`Order.CallOk`): the exchange clocks only move forward, a final status is left only by a
late fill, and a call that raises changes nothing.  They hold of every call but two.

* A fill that passes the checks on an order that is `CREATED`, `REJECTED` or
  `REJECTED_LOCALLY` is counted first and refused afterwards.
* `mark_filled` on a cancelled or expired order whose volume is complete already reopens
  it without a fill.

`Order.Careful` excludes exactly these, and `Order.life_iff` says that nothing else has to
be excluded.

The second question is whether the snapshot of such an order can be read back.  `add_fill`
takes any positive quantity, the reader takes a filled volume up to `1e-9` for zero; so
the answer depends on what is filled at the moment of writing
(`Order.fromRecord_toRecord_iff_legible`).
-/

namespace ChronosHFT.Oms

/-- A call of a method of `Order` that may change the order. -/
inductive OrderCall where
  | noteExchangeUpdate (note : ExchangeNote)
  | markSubmitting
  | markPendingAck (exchangeOid : String)
  | markSubmitUnknown (reason : String)
  | markNew (exchangeOid : String) (updateTime : ℚ) (seq : ℤ)
  | markCancelling
  | markCancelUnknown (reason : String)
  | markCancelled (updateTime : ℚ) (seq : ℤ) (exchangeStatus : String)
  | markExpired (updateTime : ℚ) (seq : ℤ)
  | markRejected (reason : String) (updateTime : ℚ) (seq : ℤ) (exchangeStatus : String)
  | markRejectedLocally (reason : String)
  | addFill (fillQty fillPrice : RawNum) (updateTime : ℚ) (seq : ℤ) (exchangeStatus : String)
  | markFilled (updateTime : ℚ) (seq : ℤ)
deriving DecidableEq, Repr

/-- Everything a method of `Order` raises. -/
inductive CallError where
  /-- `Fill is not numeric for {oid}` -/
  | fillNotNumeric (clientOid : String)
  /-- `Fill quantity is not finite for {oid}` -/
  | fillQuantityNotFinite (clientOid : String)
  | order (err : OrderError)
deriving DecidableEq, Repr

namespace Order

/-- The error of a method as the error of a call. -/
def raised (result : Order × Except OrderError Bool) : Order × Except CallError Bool :=
  (result.1, result.2.mapError .order)

/-- `add_fill` with the arguments as they are passed: both are converted first, then the
quantity is looked at before the price. -/
def addFillRaw (order : Order) (now : ℚ) (note : ExchangeNote) :
    (fillQty fillPrice : RawNum) → Order × Except CallError Bool
  | .notNumeric, _ => (order, .error (.fillNotNumeric order.clientOid))
  | _, .notNumeric => (order, .error (.fillNotNumeric order.clientOid))
  | .notFinite, _ => (order, .error (.fillQuantityNotFinite order.clientOid))
  | .finite qty, .notFinite =>
    if qty ≤ 0 then (order, .ok false)
    else (order, .error (.order (.fillPrice order.clientOid)))
  | .finite qty, .finite price => raised (order.addFill now qty price note)

/-- One call: the order it leaves behind, and what it returned or raised. -/
def call (order : Order) (now : ℚ) : OrderCall → Order × Except CallError Bool
  | .noteExchangeUpdate note => (order.noteExchangeUpdate now note, .ok false)
  | .markSubmitting => raised (order.markSubmitting now)
  | .markPendingAck exchangeOid => raised (order.markPendingAck now exchangeOid)
  | .markSubmitUnknown reason => raised (order.markSubmitUnknown now reason)
  | .markNew exchangeOid updateTime seq =>
    raised (order.markNew now exchangeOid updateTime seq)
  | .markCancelling => raised (order.markCancelling now)
  | .markCancelUnknown reason => raised (order.markCancelUnknown now reason)
  | .markCancelled updateTime seq exchangeStatus =>
    raised (order.markCancelled now updateTime seq exchangeStatus)
  | .markExpired updateTime seq => raised (order.markExpired now updateTime seq)
  | .markRejected reason updateTime seq exchangeStatus =>
    raised (order.markRejected now reason updateTime seq exchangeStatus)
  | .markRejectedLocally reason => raised (order.markRejectedLocally now reason)
  | .addFill fillQty fillPrice updateTime seq exchangeStatus =>
    order.addFillRaw now
      { exchangeStatus := exchangeStatus, updateTime := updateTime, seq := seq }
      fillQty fillPrice
  | .markFilled updateTime seq => raised (order.markFilled now updateTime seq)

/-- A call at a reading of the clock, as a step that can always be taken. -/
def afterCall (order : Order) (timed : ℚ × OrderCall) : Option Order :=
  some (order.call timed.1 timed.2).1

/-! ## What a call can do -/

/-- The calls by what they do: a note, a move to a status that no fill is needed for, a
fill, or the completion. -/
inductive CallView (order : Order) (now : ℚ) : OrderCall → Order × Except CallError Bool → Prop
  | note (c : OrderCall) (note : ExchangeNote) :
      CallView order now c (order.noteExchangeUpdate now note, .ok false)
  | move (c : OrderCall) (next : OrderStatus) (reason : String) (note : ExchangeNote)
      (hnext : next ≠ .filled ∧ next ≠ .partiallyFilled) :
      CallView order now c (raised (order.transition now next reason note))
  | fill (qty price : RawNum) (updateTime : ℚ) (seq : ℤ) (exchangeStatus : String) :
      CallView order now (.addFill qty price updateTime seq exchangeStatus)
        (order.addFillRaw now
          { exchangeStatus := exchangeStatus, updateTime := updateTime, seq := seq } qty price)
  | complete (updateTime : ℚ) (seq : ℤ) :
      CallView order now (.markFilled updateTime seq)
        (raised (order.markFilled now updateTime seq))

theorem callView (order : Order) (now : ℚ) (c : OrderCall) :
    CallView order now c (order.call now c) := by
  cases c with
  | noteExchangeUpdate note => exact .note _ note
  | markSubmitting => exact .move _ .submitting "" _ (by decide)
  | markPendingAck exchangeOid => exact .move _ .pendingAck "" _ (by decide)
  | markSubmitUnknown reason => exact .move _ .submitUnknown reason _ (by decide)
  | markNew exchangeOid updateTime seq => exact .move _ .new "" _ (by decide)
  | markCancelling => exact .move _ .cancelling "" _ (by decide)
  | markCancelUnknown reason => exact .move _ .cancelUnknown reason _ (by decide)
  | markCancelled updateTime seq exchangeStatus => exact .move _ .cancelled "" _ (by decide)
  | markExpired updateTime seq => exact .move _ .expired "" _ (by decide)
  | markRejected reason updateTime seq exchangeStatus =>
    exact .move _ .rejected reason _ (by decide)
  | markRejectedLocally reason => exact .move _ .rejectedLocally reason _ (by decide)
  | addFill qty price updateTime seq exchangeStatus =>
    exact .fill qty price updateTime seq exchangeStatus
  | markFilled updateTime seq => exact .complete updateTime seq

/-- The statuses that refuse every fill. -/
def refusesFills : List OrderStatus := [.created, .rejected, .rejectedLocally]

/-- A fill that `add_fill` counts before the status refuses it. -/
structure StuckFill (order : Order) (qty price : ℚ) : Prop where
  positive : 0 < qty
  checks : order.fillCheck qty price = none
  counts : 0 < order.remaining
  status : order.status ∈ refusesFills

/-- `mark_filled` reopens an order that is over and complete already. -/
structure ReopensComplete (order : Order) : Prop where
  status : order.status = .cancelled ∨ order.status = .expired
  complete : order.intent.volume - doneEps ≤ order.filledVolume

/-- Neither of the two calls that go wrong. -/
def Careful (order : Order) : OrderCall → Prop
  | .addFill (.finite qty) (.finite price) _ _ _ => ¬StuckFill order qty price
  | .markFilled _ _ => ¬ReopensComplete order
  | _ => True

/-- The numbers of an order fit together. -/
structure Consistent (order : Order) : Prop where
  filled_nonneg : 0 ≤ order.filledVolume
  filled_le : order.filledVolume ≤ order.intent.volume + fillEps
  cost : order.cumulativeCost = order.filledVolume * order.avgPrice
  complete : order.status = .filled → order.intent.volume - doneEps ≤ order.filledVolume

/-- `add_fill`. -/
def isFill : OrderCall → Bool
  | .addFill .. => true
  | _ => false

/-- What is asked of a single call, `result` being what it left and returned. -/
structure CallOk (before : Order) (c : OrderCall) (result : Order × Except CallError Bool) :
    Prop where
  seq : before.lastUpdateSeq ≤ result.1.lastUpdateSeq
  time : before.lastExchangeUpdateTime ≤ result.1.lastExchangeUpdateTime
  terminal : before.isTerminal = true → result.1.status ≠ before.status →
    (before.status = .cancelled ∨ before.status = .expired) ∧ isFill c = true
  raised : ∀ err, result.2 = .error err → result.1 = before

/-! ## Clocks -/

/-- The exchange clocks of `b` are not behind those of `a`. -/
structure Forward (a b : Order) : Prop where
  seq : a.lastUpdateSeq ≤ b.lastUpdateSeq
  time : a.lastExchangeUpdateTime ≤ b.lastExchangeUpdateTime

namespace Forward

variable {a b c : Order}

protected theorem refl (a : Order) : Forward a a := ⟨le_refl _, le_refl _⟩

protected theorem trans (h₁ : Forward a b) (h₂ : Forward b c) : Forward a c :=
  ⟨h₁.seq.trans h₂.seq, h₁.time.trans h₂.time⟩

end Forward

theorem noteExchangeUpdate_forward (order : Order) (now : ℚ) (note : ExchangeNote) :
    Forward order (order.noteExchangeUpdate now note) := by
  constructor
  · show _ ≤ if note.seq ≠ 0 then max order.lastUpdateSeq note.seq else order.lastUpdateSeq
    split
    · exact le_max_left _ _
    · exact le_refl _
  · show _ ≤ if note.exchangeStatus ≠ "" ∧ note.updateTime ≠ 0 then
        max order.lastExchangeUpdateTime note.updateTime else order.lastExchangeUpdateTime
    split
    · exact le_max_left _ _
    · exact le_refl _

theorem noteReason_forward (order : Order) (reason : String) :
    Forward order (order.noteReason reason) := by
  unfold noteReason
  split
  · exact ⟨le_refl _, le_refl _⟩
  · exact Forward.refl order

theorem transition_forward (order : Order) (now : ℚ) (next : OrderStatus) (reason : String)
    (note : ExchangeNote) : Forward order (order.transition now next reason note).1 := by
  unfold transition
  split
  · exact (noteExchangeUpdate_forward order now note).trans (noteReason_forward _ reason)
  split
  · have hstatus : Forward order { order with status := next } := ⟨le_refl _, le_refl _⟩
    exact (hstatus.trans (noteReason_forward _ reason)).trans
      (noteExchangeUpdate_forward _ now note)
  · exact Forward.refl order

/-! ## Fills -/

/-- **What `add_fill` can do.**  Nothing; book the fill and move to the status it leads to;
or book the fill and raise. -/
inductive FillView (order : Order) (now : ℚ) (note : ExchangeNote) :
    RawNum → RawNum → Order × Except CallError Bool → Prop
  | untouched (qty price : RawNum) (result : Except CallError Bool)
      (hclean : ∀ q p, qty = .finite q → price = .finite p → ¬StuckFill order q p) :
      FillView order now note qty price (order, result)
  | booked (qty price : ℚ) (after : Order) (hqty : 0 < qty)
      (hcheck : order.fillCheck qty price = none)
      (hmoves : (order.bookFill qty price).fillStatus = order.status ∨
        (order.bookFill qty price).fillStatus ∈ order.status.allowedTransitions)
      (hafter : after = ((order.bookFill qty price).transition now
        (order.bookFill qty price).fillStatus "" note).1) :
      FillView order now note (.finite qty) (.finite price) (after, .ok true)
  | stuck (qty price : ℚ) (err : CallError) (hqty : 0 < qty)
      (hcheck : order.fillCheck qty price = none)
      (hstuck : ¬((order.bookFill qty price).fillStatus = order.status ∨
        (order.bookFill qty price).fillStatus ∈ order.status.allowedTransitions)) :
      FillView order now note (.finite qty) (.finite price)
        (order.bookFill qty price, .error err)

theorem fillView (order : Order) (now : ℚ) (note : ExchangeNote) (qty price : RawNum) :
    FillView order now note qty price (order.addFillRaw now note qty price) := by
  have hraw : ∀ {qty price : RawNum} (result : Except CallError Bool),
      (∀ q p, ¬(qty = .finite q ∧ price = .finite p)) →
      FillView order now note qty price (order, result) := by
    intro qty price result hnot
    exact .untouched qty price result fun q p hq hp => absurd ⟨hq, hp⟩ (hnot q p)
  cases qty with
  | notNumeric => exact hraw _ (by simp)
  | notFinite => cases price <;> exact hraw _ (by simp)
  | finite q =>
    cases price with
    | notNumeric => exact hraw _ (by simp)
    | notFinite =>
      show FillView order now note _ _
        (if q ≤ 0 then (order, .ok false)
          else (order, .error (.order (.fillPrice order.clientOid))))
      split
      · exact hraw _ (by simp)
      · exact hraw _ (by simp)
    | finite p =>
      show FillView order now note _ _ (raised (order.addFill now q p note))
      by_cases hqty : 0 < q
      · cases hcheck : order.fillCheck q p with
        | some err =>
          rw [addFill_of_check now note hqty hcheck]
          refine .untouched _ _ _ fun q' p' hq hp hstuck => ?_
          cases hq
          cases hp
          rw [hstuck.checks] at hcheck
          cases hcheck
        | none =>
          by_cases hmoves : (order.bookFill q p).fillStatus = order.status ∨
              (order.bookFill q p).fillStatus ∈ order.status.allowedTransitions
          · rw [addFill_eq_of_moves now note hqty hcheck hmoves]
            exact .booked q p _ hqty hcheck hmoves rfl
          · obtain ⟨err, heq⟩ := addFill_of_stuck now note hqty hcheck hmoves
            rw [heq]
            exact .stuck q p _ hqty hcheck hmoves
      · unfold addFill
        rw [if_pos (not_lt.mp hqty)]
        refine .untouched _ _ _ fun q' p' hq hp hstuck => ?_
        cases hq
        exact hqty hstuck.positive

variable {a b order : Order} {now price qty : ℚ}

theorem fillCheck_volume (h : order.fillCheck qty price = none) : 0 < order.intent.volume := by
  unfold fillCheck at h
  by_contra hvolume
  rw [if_pos (Or.inl (not_lt.mp hvolume) : order.intent.volume ≤ 0 ∨ _)] at h
  split at h
  · cases h
  · cases h

theorem fillStatus_cases (order : Order) :
    order.fillStatus = .filled ∨ order.fillStatus = .partiallyFilled := by
  unfold fillStatus
  split
  · exact Or.inl rfl
  · exact Or.inr rfl

theorem complete_of_fillStatus (h : order.fillStatus = .filled) :
    order.intent.volume - doneEps ≤ order.filledVolume := by
  unfold fillStatus at h
  by_contra hincomplete
  rw [if_neg hincomplete] at h
  cases h

/-- A fill never lowers the filled volume. -/
theorem le_bookFill_filledVolume (order : Order) (hqty : 0 < qty) (price : ℚ) :
    order.filledVolume ≤ (order.bookFill qty price).filledVolume := by
  have happlied : 0 ≤ min qty order.remaining := le_min hqty.le (le_max_left _ _)
  rw [bookFill_filledVolume]
  linarith

/-- **The rule for calls.**  What a note, a transition and a counted fill keep, every call
keeps; a transition to `FILLED` is only made by an order that is complete. -/
theorem call_rule {P : Order → Prop} (h : P order)
    (hnote : ∀ note, P (order.noteExchangeUpdate now note))
    (hmove : ∀ (moving : Order) (next : OrderStatus) (reason : String) (note : ExchangeNote),
      P moving → (next = .filled → moving.intent.volume - doneEps ≤ moving.filledVolume) →
      P (moving.transition now next reason note).1)
    (hbook : ∀ qty price, 0 < qty → order.fillCheck qty price = none →
      P (order.bookFill qty price)) (c : OrderCall) : P (order.call now c).1 := by
  have hview := callView order now c
  generalize order.call now c = result at hview ⊢
  cases hview with
  | note _ note => exact hnote note
  | move _ next reason note hnext =>
    exact hmove order next reason note h (fun hfilled => absurd hfilled hnext.1)
  | fill qty price updateTime seq exchangeStatus =>
    have hfill := fillView order now
      { exchangeStatus := exchangeStatus, updateTime := updateTime, seq := seq } qty price
    generalize order.addFillRaw now
      { exchangeStatus := exchangeStatus, updateTime := updateTime, seq := seq } qty price =
        result at hfill ⊢
    cases hfill with
    | untouched _ _ result hclean => exact h
    | booked qty price after hqty hcheck hmoves hafter =>
      rw [hafter]
      exact hmove _ _ _ _ (hbook qty price hqty hcheck) complete_of_fillStatus
    | stuck qty price err hqty hcheck hstuck => exact hbook qty price hqty hcheck
  | complete updateTime seq =>
    show P (order.markFilled now updateTime seq).1
    unfold markFilled
    split
    · exact h
    · next hcomplete => exact hmove order .filled _ _ h (fun _ => not_lt.mp hcomplete)

namespace Consistent

variable {order after : Order} {now : ℚ}

theorem of_sameBooks (h : order.Consistent) (hbooks : SameBooks after order)
    (hcomplete : after.status = .filled → order.intent.volume - doneEps ≤ order.filledVolume) :
    after.Consistent where
  filled_nonneg := by rw [hbooks.filledVolume]; exact h.filled_nonneg
  filled_le := by rw [hbooks.filledVolume, hbooks.intent]; exact h.filled_le
  cost := by
    rw [hbooks.cumulativeCost, hbooks.filledVolume, hbooks.avgPrice]
    exact h.cost
  complete := by
    rw [hbooks.intent, hbooks.filledVolume]
    exact hcomplete

/-- The status a transition leaves is the old one or the one asked for. -/
theorem transition (h : order.Consistent) (next : OrderStatus)
    (hnext : next = .filled → order.intent.volume - doneEps ≤ order.filledVolume)
    (reason : String) (note : ExchangeNote) :
    (order.transition now next reason note).1.Consistent := by
  refine h.of_sameBooks (transition_sameBooks order now next reason note) ?_
  cases hresult : (order.transition now next reason note).2 with
  | ok moved =>
    rw [transition_status hresult]
    exact hnext
  | error err =>
    rw [transition_error hresult]
    exact h.complete

/-- A counted fill: after it something is filled, and the average price is the quotient. -/
theorem bookFill (h : order.Consistent) {qty price : ℚ} (hqty : 0 < qty)
    (hcheck : order.fillCheck qty price = none) : (order.bookFill qty price).Consistent := by
  have hvolume := fillCheck_volume hcheck
  have hgrows := order.le_bookFill_filledVolume hqty price
  have hpositive : 0 < (order.bookFill qty price).filledVolume := by
    rcases h.filled_nonneg.eq_or_lt with hzero | hfilled
    · rw [bookFill_filledVolume, ← hzero, zero_add, remaining, ← hzero, sub_zero]
      exact lt_min hqty (lt_max_of_lt_right hvolume)
    · exact hfilled.trans_le hgrows
  refine ⟨hpositive.le, ?_, ?_, ?_⟩
  · rcases le_total order.intent.volume order.filledVolume with hover | hunder
    · have hnone : order.remaining = 0 := max_eq_left (sub_nonpos.mpr hover)
      rw [bookFill_filledVolume, hnone, min_eq_right hqty.le, add_zero]
      exact h.filled_le
    · have hsome : order.remaining = order.intent.volume - order.filledVolume :=
        max_eq_right (sub_nonneg.mpr hunder)
      have hmin := min_le_right qty order.remaining
      have heps := fillEps_pos
      rw [bookFill_filledVolume, bookFill_intent]
      rw [hsome] at hmin ⊢
      linarith
  · have havg : (order.bookFill qty price).avgPrice =
        (order.bookFill qty price).cumulativeCost / (order.bookFill qty price).filledVolume :=
      if_pos hpositive
    rw [havg, mul_div_cancel₀ _ hpositive.ne']
  · intro hstatus
    exact (h.complete hstatus).trans hgrows

/-- **Every call keeps the numbers consistent**, whether it raises or not. -/
theorem call (h : order.Consistent) (c : OrderCall) : (order.call now c).1.Consistent := by
  refine call_rule h ?_ ?_ ?_ c
  · intro note
    exact h.of_sameBooks (noteExchangeUpdate_sameBooks order now note) h.complete
  · intro moving next reason note hmoving hnext
    exact hmoving.transition next hnext reason note
  · intro qty price hqty hcheck
    exact h.bookFill hqty hcheck

end Consistent

/-! ## Single calls -/

/-- A final status leads nowhere but to a fill. -/
theorem terminal_allowed {status next : OrderStatus}
    (hterminal : status ∈ OrderStatus.terminalStatuses)
    (hnext : next ∈ status.allowedTransitions) :
    (status = .cancelled ∨ status = .expired) ∧ (next = .filled ∨ next = .partiallyFilled) := by
  revert hterminal hnext
  cases status <;> cases next <;> decide

/-- A status that admits neither outcome of a fill refuses them both. -/
theorem mem_refusesFills_iff {status next : OrderStatus} (hfilled : status ≠ .filled)
    (hnext : next = .filled ∨ next = .partiallyFilled) :
    status ∈ refusesFills ↔ ¬(next = status ∨ next ∈ status.allowedTransitions) := by
  rcases hnext with rfl | rfl
  · revert hfilled
    cases status <;> decide
  · revert hfilled
    cases status <;> decide

/-- A fill of a complete order counts nothing. -/
theorem Consistent.bookFill_eq (h : order.Consistent)
    (hqty : 0 < qty) (hcheck : order.fillCheck qty price = none) (hnone : order.remaining = 0) :
    order.bookFill qty price = order := by
  have hvolume := fillCheck_volume hcheck
  have hfull : order.intent.volume ≤ order.filledVolume := by
    have hle := le_max_right 0 (order.intent.volume - order.filledVolume)
    unfold remaining at hnone
    rw [hnone] at hle
    linarith
  have hpositive : 0 < order.filledVolume := hvolume.trans_le hfull
  have havg : order.cumulativeCost / order.filledVolume = order.avgPrice := by
    rw [h.cost, mul_div_cancel_left₀ _ hpositive.ne']
  unfold Order.bookFill
  simp only [hnone, min_eq_right hqty.le, zero_mul, add_zero, if_pos hpositive, havg]

section Single

variable {order : Order} {now : ℚ}

/-- A note is always in order. -/
theorem callOk_note (c : OrderCall) (note : ExchangeNote) :
    CallOk order c (order.noteExchangeUpdate now note, .ok false) where
  seq := (noteExchangeUpdate_forward order now note).seq
  time := (noteExchangeUpdate_forward order now note).time
  terminal := fun _ hmoved => absurd rfl hmoved
  raised := fun _ herr => by cases herr

/-- A call that changes nothing is always in order. -/
theorem callOk_untouched (c : OrderCall) (result : Except CallError Bool) :
    CallOk order c (order, result) where
  seq := le_refl _
  time := le_refl _
  terminal := fun _ hmoved => absurd rfl hmoved
  raised := fun _ _ => rfl

/-- A transition is in order when it does not reopen a final status. -/
theorem callOk_transition {c : OrderCall} {next : OrderStatus}
    (hnext : order.isTerminal = true → next ∈ order.status.allowedTransitions →
      (order.status = .cancelled ∨ order.status = .expired) ∧ isFill c = true)
    (reason : String) (note : ExchangeNote) :
    CallOk order c (raised (order.transition now next reason note)) := by
  have hforward := transition_forward order now next reason note
  cases hresult : (order.transition now next reason note).2 with
  | error err =>
    have hsame := transition_error hresult
    have heq : raised (order.transition now next reason note) = (order, .error (.order err)) :=
      Prod.ext hsame (by show Except.mapError _ _ = _; rw [hresult]; rfl)
    rw [heq]
    exact callOk_untouched c _
  | ok moved =>
    refine ⟨hforward.seq, hforward.time, ?_, ?_⟩
    · intro hterminal hmoved
      have hstatus : (raised (order.transition now next reason note)).1.status = next :=
        transition_status hresult
      rw [hstatus] at hmoved
      rcases transition_isOk_iff.mp ⟨moved, hresult⟩ with hsame | hallowed
      · exact absurd hsame hmoved
      · exact hnext hterminal hallowed
    · intro err herr
      have hok : (raised (order.transition now next reason note)).2 = .ok moved := by
        show Except.mapError _ _ = _
        rw [hresult]
        rfl
      rw [hok] at herr
      cases herr

/-- A fill is in order unless it gets stuck. -/
theorem callOk_addFillRaw_iff (h : order.Consistent) (qty price : RawNum) (updateTime : ℚ)
    (seq : ℤ) (exchangeStatus : String) :
    CallOk order (.addFill qty price updateTime seq exchangeStatus)
        (order.addFillRaw now
          { exchangeStatus := exchangeStatus, updateTime := updateTime, seq := seq } qty price) ↔
      Careful order (.addFill qty price updateTime seq exchangeStatus) := by
  have hview := fillView order now
    { exchangeStatus := exchangeStatus, updateTime := updateTime, seq := seq } qty price
  generalize order.addFillRaw now
    { exchangeStatus := exchangeStatus, updateTime := updateTime, seq := seq } qty price =
      result at hview ⊢
  cases hview with
  | untouched _ _ result hclean =>
    refine iff_of_true (callOk_untouched _ result) ?_
    cases qty with
    | notNumeric => trivial
    | notFinite => trivial
    | finite q =>
      cases price with
      | notNumeric => trivial
      | notFinite => trivial
      | finite p => exact hclean q p rfl rfl
  | booked qty price after hqty hcheck hmoves hafter =>
    have hfill := (order.bookFill qty price).fillStatus_cases
    have hforward := transition_forward (order.bookFill qty price) now
      (order.bookFill qty price).fillStatus ""
      { exchangeStatus := exchangeStatus, updateTime := updateTime, seq := seq }
    obtain ⟨moved, hmoved⟩ := (@transition_isOk_iff (order.bookFill qty price) now
      (order.bookFill qty price).fillStatus ""
      { exchangeStatus := exchangeStatus, updateTime := updateTime, seq := seq }).mpr hmoves
    have hstatus := transition_status hmoved
    rw [← hafter] at hforward hstatus
    refine iff_of_true ⟨hforward.seq, hforward.time, ?_, fun _ herr => by cases herr⟩ ?_
    · intro hterminal hchanged
      have hallowed := hmoves.resolve_left fun hsame => hchanged (hstatus.trans hsame)
      exact ⟨(terminal_allowed (of_decide_eq_true hterminal) hallowed).1, rfl⟩
    · intro hstuck
      have hnotFilled : order.status ≠ .filled := by
        intro hfilled
        have hmem := hstuck.status
        rw [hfilled] at hmem
        exact absurd hmem (by decide)
      exact (mem_refusesFills_iff hnotFilled hfill).mp hstuck.status hmoves
  | stuck qty price err hqty hcheck hstuck =>
    have hnotFilled : order.status ≠ .filled := by
      intro hfilled
      refine hstuck (Or.inl ?_)
      rw [hfilled]
      exact if_pos ((h.complete hfilled).trans (order.le_bookFill_filledVolume hqty price))
    have hrefuses : order.status ∈ refusesFills :=
      (mem_refusesFills_iff hnotFilled (order.bookFill qty price).fillStatus_cases).mpr hstuck
    rcases (le_max_left 0 (order.intent.volume - order.filledVolume)).eq_or_lt with
      hnone | hcounts
    · rw [h.bookFill_eq hqty hcheck hnone.symm]
      refine iff_of_true (callOk_untouched _ _) ?_
      intro hfill
      exact absurd hnone hfill.counts.ne
    · refine iff_of_false ?_ (not_not.mpr ⟨hqty, hcheck, hcounts, hrefuses⟩)
      -- The refused fill stays in the order, so the raising call has changed it.
      intro hok
      have hsame := congrArg Order.filledVolume (hok.raised err rfl)
      have happlied : 0 < min qty order.remaining := lt_min hqty hcounts
      rw [bookFill_filledVolume] at hsame
      linarith

/-- `mark_filled` is in order unless it reopens a complete order that is over. -/
theorem callOk_markFilled_iff (updateTime : ℚ) (seq : ℤ) :
    CallOk order (.markFilled updateTime seq) (raised (order.markFilled now updateTime seq)) ↔
      Careful order (.markFilled updateTime seq) := by
  unfold markFilled
  split
  · next hincomplete =>
    refine iff_of_true (callOk_untouched _ _) ?_
    intro hreopens
    exact absurd hreopens.complete (not_le.mpr hincomplete)
  · next hcomplete =>
    by_cases hover : order.status = .cancelled ∨ order.status = .expired
    · have hallowed : .filled ∈ order.status.allowedTransitions := by
        rcases hover with hstatus | hstatus
        · rw [hstatus]
          decide
        · rw [hstatus]
          decide
      refine iff_of_false ?_ (not_not.mpr ⟨hover, not_lt.mp hcomplete⟩)
      intro hok
      obtain ⟨moved, hmoved⟩ := (@transition_isOk_iff order now .filled ""
        { exchangeStatus := "FILLED", updateTime := updateTime, seq := seq }).mpr
          (Or.inr hallowed)
      have hterminal : order.isTerminal = true := by
        unfold isTerminal
        rcases hover with hstatus | hstatus
        · rw [hstatus]
          decide
        · rw [hstatus]
          decide
      have hchanged : (raised (order.transition now .filled ""
          { exchangeStatus := "FILLED", updateTime := updateTime, seq := seq })).1.status ≠
            order.status := by
        rw [show (raised (order.transition now .filled ""
          { exchangeStatus := "FILLED", updateTime := updateTime, seq := seq })).1.status =
            .filled from transition_status hmoved]
        rcases hover with hstatus | hstatus
        · rw [hstatus]
          decide
        · rw [hstatus]
          decide
      exact Bool.false_ne_true (hok.terminal hterminal hchanged).2
    · refine iff_of_true (callOk_transition ?_ _ _) ?_
      · intro hterminal hallowed
        exact absurd (terminal_allowed (of_decide_eq_true hterminal) hallowed).1 hover
      · intro hreopens
        exact hover hreopens.status

/-- **One call** of a consistent order is in order exactly when it is careful. -/
theorem callOk_iff_careful (h : order.Consistent) (c : OrderCall) :
    CallOk order c (order.call now c) ↔ Careful order c := by
  have hmove : ∀ (next : OrderStatus) (reason : String) (note : ExchangeNote),
      next ≠ .filled ∧ next ≠ .partiallyFilled →
      CallOk order c (raised (order.transition now next reason note)) := by
    intro next reason note hnext
    refine callOk_transition ?_ reason note
    intro hterminal hallowed
    rcases (terminal_allowed (of_decide_eq_true hterminal) hallowed).2 with hfill | hfill
    · exact absurd hfill hnext.1
    · exact absurd hfill hnext.2
  cases c with
  | addFill qty price updateTime seq exchangeStatus =>
    exact callOk_addFillRaw_iff h qty price updateTime seq exchangeStatus
  | markFilled updateTime seq => exact callOk_markFilled_iff updateTime seq
  | noteExchangeUpdate note => exact iff_of_true (callOk_note _ note) trivial
  | markSubmitting => exact iff_of_true (hmove .submitting _ _ (by decide)) trivial
  | markPendingAck exchangeOid => exact iff_of_true (hmove .pendingAck _ _ (by decide)) trivial
  | markSubmitUnknown reason => exact iff_of_true (hmove .submitUnknown _ _ (by decide)) trivial
  | markNew exchangeOid updateTime seq => exact iff_of_true (hmove .new _ _ (by decide)) trivial
  | markCancelling => exact iff_of_true (hmove .cancelling _ _ (by decide)) trivial
  | markCancelUnknown reason => exact iff_of_true (hmove .cancelUnknown _ _ (by decide)) trivial
  | markCancelled updateTime seq exchangeStatus =>
    exact iff_of_true (hmove .cancelled _ _ (by decide)) trivial
  | markExpired updateTime seq => exact iff_of_true (hmove .expired _ _ (by decide)) trivial
  | markRejected reason updateTime seq exchangeStatus =>
    exact iff_of_true (hmove .rejected _ _ (by decide)) trivial
  | markRejectedLocally reason =>
    exact iff_of_true (hmove .rejectedLocally _ _ (by decide)) trivial

end Single

/-! ## A whole life -/

/-- A new order is consistent unless its volume is below the tolerance. -/
theorem consistent_init_iff (clientOid : String) (intent : OrderIntent) (created : ℚ) :
    (init clientOid intent created).Consistent ↔ -fillEps ≤ intent.volume := by
  constructor
  · intro h
    have hle : (0 : ℚ) ≤ intent.volume + fillEps := h.filled_le
    linarith
  · intro hvolume
    refine ⟨le_refl _, ?_, ?_, fun hfilled => by cases hfilled⟩
    · show (0 : ℚ) ≤ intent.volume + fillEps
      linarith
    · show (0 : ℚ) = 0 * 0
      rw [zero_mul]

/-- What a call is asked to leave behind. -/
def StepOk (order : Order) (timed : ℚ × OrderCall) : Prop :=
  CallOk order timed.2 (order.call timed.1 timed.2) ∧ (order.call timed.1 timed.2).1.Consistent

/-- **An order over its life.**  Whatever is called, in whatever order, raising or not: the
numbers fit together in every state and every call is in order, exactly when the volume
is not negative beyond the tolerance and no call is one of the two that go wrong. -/
theorem life_iff (clientOid : String) (intent : OrderIntent) (created : ℚ)
    (calls : List (ℚ × OrderCall)) :
    ((init clientOid intent created).Consistent ∧
        Run.Along afterCall StepOk (init clientOid intent created) calls) ↔
      -fillEps ≤ intent.volume ∧
        Run.Along afterCall (fun order timed => order.Careful timed.2)
          (init clientOid intent created) calls := by
  rw [← consistent_init_iff clientOid intent created]
  refine and_congr_right fun hinit => ?_
  refine Run.along_iff (I := Consistent) ?_ ?_ hinit
  · intro order timed h
    exact (and_iff_left (h.call timed.2)).trans (callOk_iff_careful h timed.2)
  · intro order timed after h hok hafter
    cases hafter
    exact hok.2

/-- An intent to buy two contracts. -/
def buyTwo : OrderIntent where
  strategyId := "mm"
  symbol := "BTCUSDT"
  side := .buy
  price := 100
  volume := 2

/-- The claimed behaviour fails on a fill of a rejected order: refused, and counted all the
same. -/
theorem rejected_order_counts_fill :
    ¬((init "c1" buyTwo 1).Consistent ∧
      Run.Along afterCall StepOk (init "c1" buyTwo 1)
        [(1, .markSubmitting), (2, .markRejected "margin" 0 0 "REJECTED"),
          (3, .addFill (.finite 1) (.finite 100) 0 0 "PARTIALLY_FILLED")]) := by
  rintro ⟨-, halong⟩
  have hlast := ((halong.2 _ rfl).2 _ rfl).1.1.raised
    (.order (.invalidTransition .rejected .partiallyFilled "c1")) (by decide +kernel)
  exact absurd hlast (by decide +kernel)

/-! ## Reading the order back -/

/-- What holds of the numbers of an order whose intent is valid, at any point of its life:
nothing is filled, or something is at a positive price. -/
structure Accounted (order : Order) : Prop where
  books : (order.filledVolume = 0 ∧ order.avgPrice = 0 ∧ order.cumulativeCost = 0) ∨
    (0 < order.filledVolume ∧ order.filledVolume ≤ order.intent.volume ∧ 0 < order.avgPrice ∧
      order.cumulativeCost = order.filledVolume * order.avgPrice)
  lastUpdateSeq : 0 ≤ order.lastUpdateSeq
  lastExchangeUpdateTime : 0 ≤ order.lastExchangeUpdateTime

theorem fillCheck_price (h : order.fillCheck qty price = none) : 0 < price := by
  by_contra hprice
  unfold fillCheck at h
  rw [if_pos (not_lt.mp hprice)] at h
  cases h

namespace Accounted

variable {order after : Order} {now : ℚ}

theorem of_sameBooks (h : order.Accounted) (hbooks : SameBooks after order)
    (hforward : Forward order after) : after.Accounted where
  books := by
    rw [hbooks.filledVolume, hbooks.avgPrice, hbooks.cumulativeCost, hbooks.intent]
    exact h.books
  lastUpdateSeq := h.lastUpdateSeq.trans hforward.seq
  lastExchangeUpdateTime := h.lastExchangeUpdateTime.trans hforward.time

theorem filled_le (h : order.Accounted) (hvolume : 0 < order.intent.volume) :
    0 ≤ order.filledVolume ∧ order.filledVolume ≤ order.intent.volume := by
  rcases h.books with ⟨hzero, -, -⟩ | ⟨hpositive, hle, -⟩
  · rw [hzero]
    exact ⟨le_refl 0, hvolume.le⟩
  · exact ⟨hpositive.le, hle⟩

theorem bookFill (h : order.Accounted) {qty price : ℚ} (hqty : 0 < qty)
    (hcheck : order.fillCheck qty price = none) : (order.bookFill qty price).Accounted := by
  have hvolume := fillCheck_volume hcheck
  have hprice := fillCheck_price hcheck
  obtain ⟨hnonneg, hle⟩ := h.filled_le hvolume
  have hremaining : order.remaining = order.intent.volume - order.filledVolume :=
    max_eq_right (sub_nonneg.mpr hle)
  have happlied : 0 ≤ min qty order.remaining := le_min hqty.le (le_max_left _ _)
  have hfits : min qty order.remaining ≤ order.intent.volume - order.filledVolume :=
    hremaining ▸ min_le_right qty order.remaining
  -- Either something was filled before, or this fill is counted in full or up to the volume.
  have hboth : 0 < order.filledVolume + min qty order.remaining ∧
      0 < order.cumulativeCost + min qty order.remaining * price := by
    rcases h.books with ⟨hzero, -, hcost⟩ | ⟨hpositive, -, havg, hcost⟩
    · have hcounts : 0 < min qty order.remaining := by
        rw [hremaining, hzero, sub_zero]
        exact lt_min hqty hvolume
      rw [hzero, hcost, zero_add, zero_add]
      exact ⟨hcounts, mul_pos hcounts hprice⟩
    · have hold : 0 < order.cumulativeCost := by
        rw [hcost]
        exact mul_pos hpositive havg
      have hnew := mul_nonneg happlied hprice.le
      exact ⟨by linarith, by linarith⟩
  have hfilled : 0 < (order.bookFill qty price).filledVolume := hboth.1
  have havg : (order.bookFill qty price).avgPrice =
      (order.bookFill qty price).cumulativeCost / (order.bookFill qty price).filledVolume :=
    if_pos hfilled
  refine ⟨Or.inr ⟨hboth.1, ?_, ?_, ?_⟩, h.lastUpdateSeq, h.lastExchangeUpdateTime⟩
  · rw [bookFill_filledVolume, bookFill_intent]
    linarith
  · rw [havg]
    exact div_pos hboth.2 hfilled
  · rw [havg, mul_div_cancel₀ _ hfilled.ne']

theorem call (h : order.Accounted) (c : OrderCall) : (order.call now c).1.Accounted := by
  refine call_rule h ?_ ?_ ?_ c
  · intro note
    exact h.of_sameBooks (noteExchangeUpdate_sameBooks order now note)
      (noteExchangeUpdate_forward order now note)
  · intro moving next reason note hmoving _
    exact hmoving.of_sameBooks (transition_sameBooks moving now next reason note)
      (transition_forward moving now next reason note)
  · intro qty price hqty hcheck
    exact h.bookFill hqty hcheck

end Accounted

/-- What no call changes: the name, the intent and the time of creation. -/
structure SameTerms (a b : Order) : Prop where
  clientOid : a.clientOid = b.clientOid
  intent : a.intent = b.intent
  createdAt : a.createdAt = b.createdAt

theorem SameBooks.sameTerms (h : SameBooks a b) : SameTerms a b :=
  ⟨h.clientOid, h.intent, h.createdAt⟩

theorem SameTerms.trans {c : Order} (h₁ : SameTerms a b) (h₂ : SameTerms b c) : SameTerms a c :=
  ⟨h₁.clientOid.trans h₂.clientOid, h₁.intent.trans h₂.intent, h₁.createdAt.trans h₂.createdAt⟩

theorem SameTerms.call {start : Order} (h : SameTerms order start)
    (c : OrderCall) : SameTerms (order.call now c).1 start := by
  refine call_rule (P := fun moving => SameTerms moving start) h ?_ ?_ ?_ c
  · intro note
    exact (noteExchangeUpdate_sameBooks order now note).sameTerms.trans h
  · intro moving next reason note hmoving _
    exact (transition_sameBooks moving now next reason note).sameTerms.trans hmoving
  · intro qty price _ _
    exact ⟨h.clientOid, h.intent, h.createdAt⟩

/-- The order has a volume the reader takes for filled, none at all, or one so small and so
cheap that its price and cost pass for zero as well. -/
def Legible (order : Order) : Prop :=
  order.filledVolume = 0 ∨ qtyEps < order.filledVolume ∨
    (order.avgPrice ≤ qtyEps ∧ order.cumulativeCost ≤ qtyEps)

instance (order : Order) : Decidable order.Legible :=
  inferInstanceAs (Decidable (_ ∨ _ ∨ _))

/-- **What the reader accepts** of an accounted order: the two clocks it checks, and a filled
volume it can tell from zero. -/
theorem Accounted.recoverable_iff (h : order.Accounted)
    (hoid : order.clientOid ≠ "") (hsymbol : order.intent.symbol ≠ "")
    (hprice : 0 < order.intent.price) (hvolume : 0 < order.intent.volume) :
    order.Recoverable ↔ 0 ≤ order.createdAt ∧ 0 ≤ order.updatedAt ∧ order.Legible := by
  obtain ⟨hnonneg, hle⟩ := h.filled_le hvolume
  have hbooks : 0 ≤ order.avgPrice ∧
      order.cumulativeCost = order.filledVolume * order.avgPrice ∧
      (qtyEps < order.filledVolume → 0 < order.avgPrice) := by
    rcases h.books with ⟨hfilled, havg, hcost⟩ | ⟨-, -, havg, hcost⟩
    · rw [hfilled, havg, hcost]
      exact ⟨le_refl 0, (mul_zero 0).symm, fun hlt => absurd hlt (not_lt.mpr qtyEps_pos.le)⟩
    · exact ⟨havg.le, hcost, fun _ => havg⟩
  obtain ⟨havg, hcost, hpriced⟩ := hbooks
  have hcostNonneg : 0 ≤ order.cumulativeCost := hcost ▸ mul_nonneg hnonneg havg
  have hintent : ¬(order.intent.price ≤ 0 ∨ order.intent.volume ≤ 0) := by
    push Not
    exact ⟨hprice, hvolume⟩
  have hover : ¬order.intent.volume + fillEps < order.filledVolume := by
    have heps := fillEps_pos
    linarith
  have hexact : ¬costTolerance (order.filledVolume * order.avgPrice) <
      |order.cumulativeCost - order.filledVolume * order.avgPrice| := by
    rw [hcost, sub_self, abs_zero, not_lt]
    exact le_max_of_le_left doneEps_pos.le
  unfold Recoverable validateRecoveredState
  rw [if_neg hoid, if_neg hsymbol, if_neg hintent]
  by_cases hclocks : 0 ≤ order.createdAt ∧ 0 ≤ order.updatedAt
  · have hnegative : ¬(order.filledVolume < 0 ∨ order.avgPrice < 0 ∨ order.cumulativeCost < 0 ∨
        order.createdAt < 0 ∨ order.updatedAt < 0 ∨ order.lastExchangeUpdateTime < 0 ∨
        order.lastUpdateSeq < 0) := by
      push Not
      exact ⟨hnonneg, havg, hcostNonneg, hclocks.1, hclocks.2, h.lastExchangeUpdateTime,
        h.lastUpdateSeq⟩
    rw [if_neg hnegative, if_neg hover, and_iff_right hclocks.1, and_iff_right hclocks.2]
    by_cases hcounted : qtyEps < order.filledVolume
    · rw [if_pos hcounted, if_neg (not_le.mpr (hpriced hcounted)), if_neg hexact]
      exact iff_of_true rfl (Or.inr (Or.inl hcounted))
    rw [if_neg hcounted]
    by_cases hcheap : qtyEps < order.avgPrice ∨ qtyEps < order.cumulativeCost
    · rw [if_pos hcheap]
      refine iff_of_false (fun herr => by cases herr) ?_
      rintro (hzero | hlt | ⟨havgSmall, hcostSmall⟩)
      · rcases h.books with ⟨-, havgZero, hcostZero⟩ | ⟨hpositive, -⟩
        · rw [havgZero, hcostZero, or_self] at hcheap
          exact absurd hcheap (not_lt.mpr qtyEps_pos.le)
        · exact absurd hzero hpositive.ne'
      · exact hcounted hlt
      · rcases hcheap with hlarge | hlarge
        · exact absurd hlarge (not_lt.mpr havgSmall)
        · exact absurd hlarge (not_lt.mpr hcostSmall)
    · rw [if_neg hcheap]
      push Not at hcheap
      exact iff_of_true rfl (Or.inr (Or.inr hcheap))
  · have hnegative : order.filledVolume < 0 ∨ order.avgPrice < 0 ∨ order.cumulativeCost < 0 ∨
        order.createdAt < 0 ∨ order.updatedAt < 0 ∨ order.lastExchangeUpdateTime < 0 ∨
        order.lastUpdateSeq < 0 := by
      rcases not_and_or.mp hclocks with hcreated | hupdated
      · exact Or.inr (Or.inr (Or.inr (Or.inl (not_le.mp hcreated))))
      · exact Or.inr (Or.inr (Or.inr (Or.inr (Or.inl (not_le.mp hupdated)))))
    rw [if_pos hnegative]
    exact iff_of_false (fun herr => by cases herr) fun hall => hclocks ⟨hall.1, hall.2.1⟩

end Order

namespace OrderIntent

/-- An intent an order can be made from. -/
structure Valid (intent : OrderIntent) : Prop where
  symbol : intent.symbol ≠ ""
  price : 0 < intent.price
  volume : 0 < intent.volume

theorem upperOr_upperOr (text : String) {fallback : String} (h : fallback ≠ "") :
    upperOr (upperOr text fallback) fallback = upperOr text fallback := by
  have hnonempty : (if text = "" then fallback else text) ≠ "" := by
    split
    · exact h
    · next htext => exact htext
  unfold upperOr
  generalize (if text = "" then fallback else text) = word at hnonempty ⊢
  have hupper : word.toUpper ≠ "" := by
    intro hempty
    apply hnonempty
    rw [← String.toList_eq_nil_iff] at hempty ⊢
    simpa [String.toUpper] using hempty
  rw [if_neg hupper, Text.toUpper_toUpper]

/-- Building an intent from the fields of a built one changes nothing. -/
theorem postInit_postInit (intent : OrderIntent) :
    intent.postInit.postInit = intent.postInit := by
  have htype := upperOr_upperOr intent.orderType (show "LIMIT" ≠ "" by decide)
  have hforce := upperOr_upperOr intent.timeInForce (show "GTC" ≠ "" by decide)
  have hgtx : upperOr "GTX" "GTC" = "GTX" := by decide +kernel
  by_cases hpost : upperOr intent.timeInForce "GTC" = "GTX" ∨
      upperOr intent.timeInForce "GTC" = "RPI"
  · have honce : intent.postInit =
        { intent with
          orderType := upperOr intent.orderType "LIMIT"
          timeInForce := upperOr intent.timeInForce "GTC"
          isPostOnly := true } := if_pos hpost
    rw [honce]
    unfold postInit
    simp only [htype, hforce, if_pos hpost]
  · by_cases hlegacy : intent.isPostOnly ∧ upperOr intent.orderType "LIMIT" = "LIMIT" ∧
        upperOr intent.timeInForce "GTC" = "GTC"
    · have honce : intent.postInit =
          { intent with
            orderType := upperOr intent.orderType "LIMIT"
            timeInForce := "GTX" } := (if_neg hpost).trans (if_pos hlegacy)
      -- The second pass sees `GTX` and sets the flag that was set already.
      rw [honce]
      unfold postInit
      simp only [htype, hgtx, true_or, if_true, hlegacy.1]
    · have honce : intent.postInit =
          { intent with
            orderType := upperOr intent.orderType "LIMIT"
            timeInForce := upperOr intent.timeInForce "GTC" } :=
        (if_neg hpost).trans (if_neg hlegacy)
      rw [honce]
      unfold postInit
      simp only [htype, hforce, if_neg hpost, if_neg hlegacy]

end OrderIntent

namespace Order

/-- **Round trip.**  Whatever is called on an order made from a valid intent, reading its
snapshot gives the order back, marked as recovered, exactly when neither clock is negative
and the filled volume can be told from zero. -/
theorem fromRecord_toRecord_iff_legible {clientOid : String} {raw : OrderIntent} {created : ℚ}
    {calls : List (ℚ × OrderCall)} {order : Order} (hoid : clientOid ≠ "") (hvalid : raw.Valid)
    (hlife : Run.exec afterCall (init clientOid raw.postInit created) calls = some order) :
    fromRecord order.toRecord = .ok { order with recoveredFromJournal := true } ↔
      0 ≤ order.createdAt ∧ 0 ≤ order.updatedAt ∧ order.Legible := by
  have hstep : ∀ (moving : Order) (timed : ℚ × OrderCall) (after : Order),
      moving.Accounted ∧ SameTerms moving (init clientOid raw.postInit created) →
      afterCall moving timed = some after →
      after.Accounted ∧ SameTerms after (init clientOid raw.postInit created) := by
    rintro moving timed after ⟨haccounted, hterms⟩ hafter
    cases hafter
    exact ⟨haccounted.call timed.2, hterms.call timed.2⟩
  have hinit : (init clientOid raw.postInit created).Accounted :=
    ⟨Or.inl ⟨rfl, rfl, rfl⟩, le_refl _, le_refl _⟩
  obtain ⟨haccounted, hterms⟩ := Run.exec_preserves hstep ⟨hinit, rfl, rfl, rfl⟩ hlife
  have hintent : order.intent = raw.postInit := hterms.intent
  have hrecovered : order.recovered = { order with recoveredFromJournal := true } := by
    unfold recovered
    rw [hintent, OrderIntent.postInit_postInit, ← hintent]
  have hiff := haccounted.recoverable_iff (hterms.clientOid ▸ hoid)
    (by rw [hintent, postInit_symbol]; exact hvalid.symbol)
    (by rw [hintent, postInit_price]; exact hvalid.price)
    (by rw [hintent, postInit_volume]; exact hvalid.volume)
  rw [← hiff, fromRecord_toRecord, Recoverable, ← hrecovered]
  cases hvalidate : order.validateRecoveredState with
  | some err => exact iff_of_false (fun herr => by cases herr) (fun herr => by cases herr)
  | none => exact iff_of_true rfl rfl

/-- A submitted order with a tiny fill and an ordinary one, cancelled in the end. -/
def twoFills : List (ℚ × OrderCall) :=
  [(1, .markSubmitting),
    (2, .addFill (.finite (1 / 10000000000)) (.finite 100) 3 1 "PARTIALLY_FILLED"),
    (4, .addFill (.finite 1) (.finite 101) 5 2 "PARTIALLY_FILLED"),
    (6, .markCancelled 7 3 "CANCELED")]

/-- The cancelled order is read back. -/
theorem fromRecord_toRecord_iff_legible_twoFills :
    ∃ order, Run.exec afterCall (init "c1" buyTwo.postInit 1) twoFills = some order ∧
      fromRecord order.toRecord = .ok { order with recoveredFromJournal := true } := by
  refine ⟨_, rfl, ?_⟩
  have hvalid : buyTwo.Valid := ⟨by decide, by decide +kernel, by decide +kernel⟩
  refine (@fromRecord_toRecord_iff_legible "c1" buyTwo 1 twoFills _ (by decide) hvalid rfl).mpr
    ?_
  decide +kernel

/-- The call returned instead of raising. -/
def Succeeds (order : Order) (timed : ℚ × OrderCall) : Prop :=
  (order.call timed.1 timed.2).2.toBool = true

instance (order : Order) (timed : ℚ × OrderCall) : Decidable (order.Succeeds timed) :=
  inferInstanceAs (Decidable (_ = true))

/-- After its first, tiny fill the same order could not be read back, although every call
had succeeded. -/
theorem tiny_fill_refused :
    buyTwo.Valid ∧
      Run.Along afterCall Succeeds (init "c1" buyTwo.postInit 1) (twoFills.take 2) ∧
      ∃ order, Run.exec afterCall (init "c1" buyTwo.postInit 1) (twoFills.take 2) = some order ∧
        fromRecord order.toRecord = .error (.costWithoutFills "c1") := by
  refine ⟨⟨by decide, by decide +kernel, by decide +kernel⟩, by decide +kernel, _, rfl, ?_⟩
  rw [fromRecord_toRecord]
  decide +kernel

end Order

end ChronosHFT.Oms
