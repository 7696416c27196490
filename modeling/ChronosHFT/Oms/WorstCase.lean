import ChronosHFT.Lib.Run
import ChronosHFT.Oms.Exposure

/-!
# The worst case behind the admission checks

`submit_order` reserves exposure before an order is sent: a plain order passes
`checkRisk`, which projects the position over all plain open quantity, and a
reduce-only order passes `checkReduceOnly`, which keeps the reservations within
the position.  This module asks what the two checks promise *together*, over any
later sequence of partial fills.

The furthest a position can be driven in one direction is not the plain
projection alone.  Resting reduce-only orders can first use up the position they
reduce, and the plain orders then start from the smaller position:

    reach = signed position + min (what is left to reduce) (reserved) + plain

No fill of an active order, plain or reduce-only, ever increases a `reach`
(`reachFrom_plainFill`, `reachFrom_reduceFill`, `reachFrom_oppositeFill`), so a
bound on it at every admission bounds every outcome.  The checks of the source
bound `reach` without its middle term, and the gap is real.
-/

namespace ChronosHFT.Oms

/-! ## How far a position can be driven -/

/-- The furthest a position `x` (signed so that up is the direction of interest)
can be driven by `reserved` reduce-only and `plain` ordinary volume. -/
def reachFrom (x reserved plain : ℚ) : ℚ := x + min (max (-x) 0) reserved + plain

variable {plain qty reserved x : ℚ}

theorem le_reachFrom (hreserved : 0 ≤ reserved) (hplain : 0 ≤ plain) :
    x ≤ reachFrom x reserved plain := by
  unfold reachFrom
  have hmin : 0 ≤ min (max (-x) 0) reserved := le_min (le_max_right _ _) hreserved
  linarith

theorem reachFrom_mono {reserved' plain' : ℚ} (hreserved : reserved ≤ reserved')
    (hplain : plain ≤ plain') : reachFrom x reserved plain ≤ reachFrom x reserved' plain' := by
  unfold reachFrom
  have hmin : min (max (-x) 0) reserved ≤ min (max (-x) 0) reserved' :=
    min_le_min_left _ hreserved
  linarith

/-- With nothing open the position stays where it is. -/
theorem reachFrom_zero (x : ℚ) : reachFrom x 0 0 = x := by
  unfold reachFrom
  rw [min_eq_right (le_max_right _ _), add_zero, add_zero]

/-- A plain fill trades open quantity for position. -/
theorem reachFrom_plainFill (hqty : 0 ≤ qty) :
    reachFrom (x + qty) reserved (plain - qty) ≤ reachFrom x reserved plain := by
  unfold reachFrom
  have hmax : max (-(x + qty)) 0 ≤ max (-x) 0 := max_le_max_right 0 (by linarith)
  have hmin : min (max (-(x + qty)) 0) reserved ≤ min (max (-x) 0) reserved :=
    min_le_min_right _ hmax
  linarith

/-- A reduce-only fill uses up reservation and position alike. -/
theorem reachFrom_reduceFill (hqty : 0 < qty) (hposition : qty ≤ max (-x) 0) :
    reachFrom (x + qty) (reserved - qty) plain ≤ reachFrom x reserved plain := by
  unfold reachFrom
  have hx : qty ≤ -x := by
    rcases le_max_iff.mp hposition with h | h
    · exact h
    · exact absurd hqty (not_lt.mpr h)
  rw [max_eq_left (by linarith : (0 : ℚ) ≤ -(x + qty)), max_eq_left (by linarith : (0 : ℚ) ≤ -x)]
  have hmin : min (-(x + qty)) (reserved - qty) = min (-x) reserved - qty := by
    rw [← min_sub_sub_right]
    congr 1
    ring
  rw [hmin]
  linarith

/-- A fill in the other direction moves the position away. -/
theorem reachFrom_oppositeFill (hqty : 0 ≤ qty) :
    reachFrom (x - qty) reserved plain ≤ reachFrom x reserved plain := by
  unfold reachFrom
  have hmax : max (-(x - qty)) 0 ≤ max (-x) 0 + qty :=
    max_le (by linarith [le_max_left (-x) 0]) (by linarith [le_max_right (-x) 0])
  have hmin : min (max (-(x - qty)) 0) reserved ≤ min (max (-x) 0) reserved + qty := by
    rcases le_total (max (-x) 0) reserved with h | h
    · rw [min_eq_left h]
      exact (min_le_left _ _).trans hmax
    · rw [min_eq_right h]
      exact (min_le_right _ _).trans (by linarith)
  linarith

/-! ## Orders and exposure together -/

/-- The order table and the exposure computed from it. -/
structure Desk where
  orders : Dict String Order := ∅
  exposure : Exposure := {}
deriving DecidableEq

/-- What happens to a desk: an order is submitted, an active order is partly
filled, or an active order moves on without a fill (an acknowledgement, a cancel,
an expiry). -/
inductive DeskAction where
  | submit (clientOid : String) (intent : OrderIntent) (now : ℚ)
  | fill (clientOid : String) (qty price now : ℚ) (note : ExchangeNote)
  | advance (clientOid : String) (status : OrderStatus) (reason : String) (now : ℚ)
      (note : ExchangeNote)
deriving DecidableEq, Repr

namespace Desk

/-- `net_positions[symbol]`. -/
def position (desk : Desk) (symbol : String) : ℚ := desk.exposure.netPositions.getD symbol 0

/-- The position a reduce-only order of this side can still reduce. -/
def reducible (desk : Desk) (symbol : String) (side : Side) : ℚ :=
  max (-(side.signed (desk.position symbol))) 0

/-- Store an order and recompute the open quantities. -/
def store (desk : Desk) (clientOid : String) (order : Order) : Desk :=
  let orders := desk.orders.set clientOid order
  { orders := orders, exposure := desk.exposure.updateOpenOrders orders }

/-- The exposure test of `submit_order`: a reduce-only intent is checked against
the position, every other one against the limits. -/
def checkAdmission (desk : Desk) (market : MarketData) (limits : Exposure.RiskLimits)
    (intent : OrderIntent) : Except RiskRejection Unit :=
  if intent.reduceOnly then
    desk.exposure.checkReduceOnly intent.symbol intent.side intent.volume
  else
    desk.exposure.checkRisk market limits intent.symbol intent.side intent.volume intent.price

/-- `submit_order` up to the reservation.  `validate_params` has refused prices
and volumes that are not positive, and the client id is a fresh UUID. -/
def submit (desk : Desk) (market : MarketData) (limits : Exposure.RiskLimits)
    (clientOid : String) (intent : OrderIntent) (now : ℚ) : Option Desk :=
  if desk.orders.contains clientOid ∨ intent.price ≤ 0 ∨ intent.volume ≤ 0 then none
  else
    match desk.checkAdmission market limits intent with
    | .error _ => none
    | .ok () => some (desk.store clientOid
      ((Order.init clientOid intent now).markSubmitting now).1)

/-- A partial fill of an active order, booked into the order and the position.  A
reduce-only order fills only against the position it reduces. -/
def fill (desk : Desk) (clientOid : String) (qty price now : ℚ) (note : ExchangeNote) :
    Option Desk :=
  match desk.orders.get? clientOid with
  | none => none
  | some order =>
    if order.isActive = false ∨ qty ≤ 0 ∨ order.openVolume < qty ∨
        (order.intent.reduceOnly = true ∧
          desk.reducible order.intent.symbol order.intent.side < qty) then none
    else
      match order.addFill now qty price note,
          desk.exposure.onFill order.intent.symbol order.intent.side qty price with
      | (after, .ok _), .ok (exposure, _) =>
        some ({ desk with exposure := exposure }.store clientOid after)
      | _, _ => none

/-- An active order changes status without a fill. -/
def advance (desk : Desk) (clientOid : String) (status : OrderStatus) (reason : String)
    (now : ℚ) (note : ExchangeNote) : Option Desk :=
  match desk.orders.get? clientOid with
  | none => none
  | some order =>
    if order.isActive = false then none
    else
      match order.transition now status reason note with
      | (after, .ok _) => some (desk.store clientOid after)
      | (_, .error _) => none

/-- One step. -/
def step (market : MarketData) (limits : Exposure.RiskLimits) (desk : Desk) :
    DeskAction → Option Desk
  | .submit clientOid intent now => desk.submit market limits clientOid intent now
  | .fill clientOid qty price now note => desk.fill clientOid qty price now note
  | .advance clientOid status reason now note => desk.advance clientOid status reason now note

/-! ## The invariant -/

/-- The open quantities are those of the order table. -/
def Coherent (desk : Desk) : Prop := desk.exposure.OpenQtyOf desk.orders

/-- The furthest the position of a symbol can be driven in the direction of a
side, counting `extraReserved` and `extraPlain` on top of what is open. -/
def reach (desk : Desk) (symbol : String) (side : Side) (extraReserved extraPlain : ℚ) : ℚ :=
  reachFrom (side.signed (desk.position symbol))
    (desk.exposure.openQty symbol true side + extraReserved)
    (desk.exposure.openQty symbol false side + extraPlain)

/-- Both directions stay within the notional limit. -/
structure Bounded (market : MarketData) (limits : Exposure.RiskLimits) (symbol : String)
    (desk : Desk) : Prop where
  coherent : desk.Coherent
  reach_le : ∀ side, desk.reach symbol side 0 0 * market.markPrice symbol ≤ limits.maxPosNotional

/-- The volume an intent adds to one kind of open quantity. -/
def intentShare (intent : OrderIntent) (reduceOnly : Bool) (side : Side) : ℚ :=
  if intent.reduceOnly = reduceOnly ∧ intent.side = side then intent.volume else 0

/-- The condition under which the admission checks do bound every outcome: at a
submission the worst case in the order's own direction, **with the reduce-only
reservations counted**, is within the limit, and no fill leaves a position so
small that it is snapped to zero. -/
def Counted (market : MarketData) (limits : Exposure.RiskLimits) (desk : Desk) :
    DeskAction → Prop
  | .submit _ intent _ =>
    desk.reach intent.symbol intent.side (intentShare intent true intent.side)
      (intentShare intent false intent.side) * market.markPrice intent.symbol ≤
        limits.maxPosNotional
  | .fill clientOid qty _ _ _ =>
    ∀ order ∈ desk.orders.get? clientOid,
      desk.position order.intent.symbol + order.intent.side.signed qty = 0 ∨
        qtyEps ≤ |desk.position order.intent.symbol + order.intent.side.signed qty|
  | .advance .. => True

instance (market : MarketData) (limits : Exposure.RiskLimits) (desk : Desk) :
    DecidablePred (Counted market limits desk)
  | .submit _ intent _ =>
    inferInstanceAs (Decidable (desk.reach intent.symbol intent.side
      (intentShare intent true intent.side) (intentShare intent false intent.side) *
        market.markPrice intent.symbol ≤ limits.maxPosNotional))
  | .fill clientOid qty _ _ _ =>
    inferInstanceAs (Decidable (∀ order ∈ desk.orders.get? clientOid,
      desk.position order.intent.symbol + order.intent.side.signed qty = 0 ∨
        qtyEps ≤ |desk.position order.intent.symbol + order.intent.side.signed qty|))
  | .advance .. => inferInstanceAs (Decidable True)

/-! ## What a step does to the open quantities -/

@[simp] theorem store_position (desk : Desk) (clientOid : String) (order : Order)
    (symbol : String) : (desk.store clientOid order).position symbol = desk.position symbol := by
  unfold position store
  rw [(Exposure.updateOpenOrders_samePositions _ _).netPositions]

theorem store_coherent (desk : Desk) (clientOid : String) (order : Order) :
    (desk.store clientOid order).Coherent := fun symbol reduceOnly side =>
  Exposure.updateOpenOrders_openQty _ _ symbol reduceOnly side

variable {desk : Desk} {after order : Order} {symbol : String} {limits : Exposure.RiskLimits}

/-- Storing an order replaces the share of the order it displaces. -/
theorem store_openQty (hcoherent : desk.Coherent) (clientOid : String)
    (order : Order) (symbol : String) (reduceOnly : Bool) (side : Side) :
    (desk.store clientOid order).exposure.openQty symbol reduceOnly side =
      desk.exposure.openQty symbol reduceOnly side -
        desk.orders.contribution
          (fun _ order => Exposure.openShare symbol reduceOnly side order) clientOid +
        Exposure.openShare symbol reduceOnly side order := by
  rw [store_coherent desk clientOid order, hcoherent]
  exact Dict.sumBy_set _ _ _ _

theorem openQty_nonneg (hcoherent : desk.Coherent) (symbol : String)
    (reduceOnly : Bool) (side : Side) : 0 ≤ desk.exposure.openQty symbol reduceOnly side := by
  rw [hcoherent]
  refine List.sum_nonneg ?_
  intro share hshare
  obtain ⟨entry, -, rfl⟩ := List.mem_map.mp hshare
  exact Exposure.openShare_nonneg symbol reduceOnly side entry.2

/-- Replacing an order by one that has no more open leaves no more open. -/
theorem store_openQty_le (hcoherent : desk.Coherent) {clientOid : String}
    (hget : desk.orders.get? clientOid = some order)
    {reduceOnly : Bool} {side : Side} {used : ℚ}
    (hshare : Exposure.openShare symbol reduceOnly side after ≤
      Exposure.openShare symbol reduceOnly side order - used) :
    (desk.store clientOid after).exposure.openQty symbol reduceOnly side ≤
      desk.exposure.openQty symbol reduceOnly side - used := by
  rw [store_openQty hcoherent]
  have hold : desk.orders.contribution
      (fun _ order => Exposure.openShare symbol reduceOnly side order) clientOid =
      Exposure.openShare symbol reduceOnly side order := by
    unfold Dict.contribution
    rw [hget]
  rw [hold]
  linarith

/-- The four quantities are not a fill's business. -/
theorem onFill_openQty {e e' : Exposure} {side : Side} {qty price pnl : ℚ}
    (h : e.onFill symbol side qty price = .ok (e', pnl)) (s : String) (reduceOnly : Bool)
    (t : Side) : e'.openQty s reduceOnly t = e.openQty s reduceOnly t := by
  unfold Exposure.onFill Ledger.applyFill at h
  by_cases hpos : qty ≤ 0 ∨ price ≤ 0
  · rw [if_pos hpos] at h
    cases h
  · rw [if_neg hpos] at h
    cases h
    cases reduceOnly <;> cases t <;> rfl

/-- A freshly submitted order has its whole volume open. -/
theorem openShare_submitted (clientOid : String) {intent : OrderIntent}
    (hvolume : 0 < intent.volume) (now : ℚ) (symbol : String) (reduceOnly : Bool) (side : Side) :
    Exposure.openShare symbol reduceOnly side
        ((Order.init clientOid intent now).markSubmitting now).1 =
      if intent.symbol = symbol then intentShare intent reduceOnly side else 0 := by
  have horder : ((Order.init clientOid intent now).markSubmitting now).1 =
      { Order.init clientOid intent now with status := .submitting, updatedAt := now } := rfl
  rw [horder]
  have hactive : ({ Order.init clientOid intent now with
      status := .submitting, updatedAt := now } : Order).isActive = true := rfl
  have hopen : ({ Order.init clientOid intent now with
      status := .submitting, updatedAt := now } : Order).openVolume = intent.volume := sub_zero _
  unfold Exposure.openShare intentShare
  rw [hactive, hopen]
  by_cases hsymbol : intent.symbol = symbol
  · simp [Order.init, hsymbol, hvolume]
  · simp [Order.init, hsymbol]

/-- A status change of an active order leaves it no more open than before. -/
theorem openShare_of_sameBooks (hbooks : Order.SameBooks after order)
    (hactive : order.isActive = true) (symbol : String) (reduceOnly : Bool) (side : Side) :
    Exposure.openShare symbol reduceOnly side after ≤
      Exposure.openShare symbol reduceOnly side order := by
  cases hafter : after.isActive with
  | false =>
    rw [Exposure.openShare_of_not_active hafter]
    exact Exposure.openShare_nonneg symbol reduceOnly side order
  | true =>
    unfold Exposure.openShare Order.openVolume
    rw [hafter, hactive, hbooks.intent, hbooks.filledVolume]

/-- A fill uses up the share of the order's own kind and leaves the other kinds
alone. -/
theorem openShare_filled {now qty price : ℚ} {note : ExchangeNote}
    {changed : Bool} (h : order.addFill now qty price note = (after, .ok changed))
    (hactive : order.isActive = true) (hqty : 0 < qty) (hopen : qty ≤ order.openVolume)
    (symbol : String) (reduceOnly : Bool) (side : Side) :
    Exposure.openShare symbol reduceOnly side after ≤
      Exposure.openShare symbol reduceOnly side order -
        if order.intent.symbol = symbol then intentShare { order.intent with volume := qty }
          reduceOnly side else 0 := by
  obtain ⟨-, hbooks, -⟩ := Order.addFill_ok h hqty
  have hremaining : order.remaining = order.openVolume :=
    max_eq_right (hqty.le.trans hopen)
  have hvolume : after.openVolume = order.openVolume - qty := by
    unfold Order.openVolume
    rw [hbooks.intent, hbooks.filledVolume, Order.bookFill_intent, Order.bookFill_filledVolume,
      hremaining, min_eq_left hopen]
    ring
  have hintent : after.intent = order.intent := hbooks.intent
  have hopen' : 0 < order.openVolume := lt_of_lt_of_le hqty hopen
  unfold Exposure.openShare intentShare
  rw [hactive, hvolume, hintent]
  by_cases hsymbol : order.intent.symbol = symbol
  · by_cases hkind : order.intent.reduceOnly = reduceOnly ∧ order.intent.side = side
    · simp only [hsymbol, hkind.1, hkind.2, hopen', and_self, and_true, if_true]
      split
      · exact le_refl _
      · linarith
    · simp only [hkind, and_false, if_false, sub_zero, ite_self, le_refl]
  · simp only [hsymbol, false_and, and_false, if_false, sub_zero, le_refl]

/-! ## One step keeps the bound -/

section Steps

variable {market : MarketData} {limits : Exposure.RiskLimits} {symbol : String}

theorem signed_add_signed (s t : Side) (x qty : ℚ) :
    t.signed (x + s.signed qty) = if s = t then t.signed x + qty else t.signed x - qty := by
  cases s <;> cases t <;> simp [Side.signed] <;> ring

variable {desk' : Desk} {clientOid : String} {now : ℚ} {note : ExchangeNote}

theorem submit_bounded {desk : Desk} {intent : OrderIntent}
    (hbounded : Bounded market limits symbol desk)
    (hcounted : Counted market limits desk (.submit clientOid intent now))
    (hstep : desk.submit market limits clientOid intent now = some desk') :
    Bounded market limits symbol desk' := by
  unfold submit at hstep
  by_cases hrefused : desk.orders.contains clientOid ∨ intent.price ≤ 0 ∨ intent.volume ≤ 0
  · rw [if_pos hrefused] at hstep
    cases hstep
  rw [if_neg hrefused] at hstep
  push Not at hrefused
  obtain ⟨hfresh, -, hvolume⟩ := hrefused
  cases hcheck : desk.checkAdmission market limits intent with
  | error reason =>
    rw [hcheck] at hstep
    cases hstep
  | ok _ =>
    rw [hcheck] at hstep
    cases hstep
    refine ⟨store_coherent desk clientOid _, fun side => ?_⟩
    have habsent : ∀ reduceOnly, desk.orders.contribution
        (fun _ order => Exposure.openShare symbol reduceOnly side order) clientOid = 0 := by
      intro reduceOnly
      unfold Dict.contribution
      cases hget : desk.orders.get? clientOid with
      | none => rfl
      | some order =>
        unfold Dict.contains at hfresh
        rw [hget] at hfresh
        exact absurd rfl hfresh
    have hreach : (desk.store clientOid
        ((Order.init clientOid intent now).markSubmitting now).1).reach symbol side 0 0 =
        desk.reach symbol side
          (if intent.symbol = symbol then intentShare intent true side else 0)
          (if intent.symbol = symbol then intentShare intent false side else 0) := by
      unfold reach
      rw [store_position, store_openQty hbounded.coherent, store_openQty hbounded.coherent,
        habsent, habsent, openShare_submitted clientOid hvolume,
        openShare_submitted clientOid hvolume]
      simp only [sub_zero, add_zero]
    rw [hreach]
    by_cases hsymbol : intent.symbol = symbol
    · rw [if_pos hsymbol, if_pos hsymbol]
      by_cases hside : intent.side = side
      · rw [← hsymbol, ← hside]
        exact hcounted
      -- The order adds nothing in the other direction.
      have hnone : ∀ reduceOnly, intentShare intent reduceOnly side = 0 :=
        fun reduceOnly => if_neg (fun h => hside h.2)
      rw [hnone, hnone]
      exact hbounded.reach_le side
    · rw [if_neg hsymbol, if_neg hsymbol]
      exact hbounded.reach_le side

theorem advance_bounded {desk : Desk} {status : OrderStatus}
    {reason : String} (hmark : 0 ≤ market.markPrice symbol)
    (hbounded : Bounded market limits symbol desk)
    (hstep : desk.advance clientOid status reason now note = some desk') :
    Bounded market limits symbol desk' := by
  unfold advance at hstep
  cases hget : desk.orders.get? clientOid with
  | none =>
    rw [hget] at hstep
    cases hstep
  | some order =>
    simp only [hget] at hstep
    cases hactive : order.isActive with
    | false =>
      simp only [hactive, if_true] at hstep
      cases hstep
    | true =>
      simp only [hactive, Bool.true_eq_false, if_false] at hstep
      have hbooks := Order.transition_sameBooks order now status reason note
      cases hmove : order.transition now status reason note with
      | mk after result =>
        rw [hmove] at hstep hbooks
        cases result with
        | error err => cases hstep
        | ok moved =>
          cases hstep
          refine ⟨store_coherent desk clientOid after, fun side => ?_⟩
          refine le_trans (mul_le_mul_of_nonneg_right ?_ hmark) (hbounded.reach_le side)
          unfold reach
          rw [store_position]
          have hopen : ∀ reduceOnly,
              (desk.store clientOid after).exposure.openQty symbol reduceOnly side ≤
                desk.exposure.openQty symbol reduceOnly side - 0 := fun reduceOnly =>
            store_openQty_le hbounded.coherent hget
              (by simpa using openShare_of_sameBooks hbooks hactive symbol reduceOnly side)
          exact reachFrom_mono (by linarith [hopen true]) (by linarith [hopen false])

/-- What a successful `fill` did: an active order took a quantity it had open, and
the position of its symbol moved by it. -/
theorem fill_cases {desk : Desk} {qty price : ℚ}
    (hstep : desk.fill clientOid qty price now note = some desk') :
    ∃ order after changed exposure pnl,
      desk.orders.get? clientOid = some order ∧
      order.isActive = true ∧ 0 < qty ∧ qty ≤ order.openVolume ∧
      (order.intent.reduceOnly = true →
        qty ≤ desk.reducible order.intent.symbol order.intent.side) ∧
      order.addFill now qty price note = (after, .ok changed) ∧
      desk.exposure.onFill order.intent.symbol order.intent.side qty price =
        .ok (exposure, pnl) ∧
      desk' = { desk with exposure := exposure }.store clientOid after := by
  unfold fill at hstep
  cases hget : desk.orders.get? clientOid with
  | none =>
    rw [hget] at hstep
    cases hstep
  | some order =>
    simp only [hget] at hstep
    by_cases hrefused : order.isActive = false ∨ qty ≤ 0 ∨ order.openVolume < qty ∨
        (order.intent.reduceOnly = true ∧
          desk.reducible order.intent.symbol order.intent.side < qty)
    · rw [if_pos hrefused] at hstep
      cases hstep
    rw [if_neg hrefused] at hstep
    push Not at hrefused
    obtain ⟨hactive, hqty, hopen, hreduce⟩ := hrefused
    cases hadd : order.addFill now qty price note with
    | mk after result =>
      cases hfill : desk.exposure.onFill order.intent.symbol order.intent.side qty price with
      | error err =>
        rw [hadd, hfill] at hstep
        cases result <;> cases hstep
      | ok booked =>
        obtain ⟨exposure, pnl⟩ := booked
        rw [hadd, hfill] at hstep
        cases result with
        | error err => cases hstep
        | ok changed =>
          cases hstep
          exact ⟨order, after, changed, exposure, pnl, rfl, by simpa using hactive, hqty,
            hopen, hreduce, hadd, hfill, rfl⟩

/-- The position after a fill that is not snapped to zero. -/
theorem position_of_fill {desk : Desk} {exposure : Exposure} {intent : OrderIntent}
    {qty price pnl : ℚ}
    (hfill : desk.exposure.onFill intent.symbol intent.side qty price = .ok (exposure, pnl))
    (hdust : desk.position intent.symbol + intent.side.signed qty = 0 ∨
      qtyEps ≤ |desk.position intent.symbol + intent.side.signed qty|) (s : String) :
    ({ desk with exposure := exposure } : Desk).position s =
      desk.position s + if intent.symbol = s then intent.side.signed qty else 0 := by
  have hposition := Exposure.onFill_netPositions hfill s
  have hsnap : Ledger.snap (desk.position intent.symbol + intent.side.signed qty) =
      desk.position intent.symbol + intent.side.signed qty := by
    unfold Ledger.snap
    split
    · next hsmall =>
      rcases hdust with hzero | hlarge
      · exact hzero.symm
      · exact absurd hsmall (not_lt.mpr hlarge)
    · rfl
  unfold position at hsnap ⊢
  rw [hposition, hsnap]
  by_cases h : intent.symbol = s
  · rw [if_pos h.symm, if_pos h, h]
  · rw [if_neg (Ne.symm h), if_neg h, add_zero]

theorem fill_bounded {desk : Desk} {qty price : ℚ} (hmark : 0 ≤ market.markPrice symbol)
    (hbounded : Bounded market limits symbol desk)
    (hcounted : Counted market limits desk (.fill clientOid qty price now note))
    (hstep : desk.fill clientOid qty price now note = some desk') :
    Bounded market limits symbol desk' := by
  obtain ⟨order, after, changed, exposure, pnl, hget, hactive, hqty, hopen, hreduce, hadd, hfill,
    rfl⟩ := fill_cases hstep
  have hcoherent : ({ desk with exposure := exposure } : Desk).Coherent := by
    intro s reduceOnly side
    rw [onFill_openQty hfill]
    exact hbounded.coherent s reduceOnly side
  refine ⟨store_coherent _ clientOid after, fun side => ?_⟩
  refine le_trans (mul_le_mul_of_nonneg_right ?_ hmark) (hbounded.reach_le side)
  have hused : ∀ reduceOnly,
      (({ desk with exposure := exposure } : Desk).store clientOid after).exposure.openQty symbol
          reduceOnly side ≤
        desk.exposure.openQty symbol reduceOnly side -
          if order.intent.symbol = symbol then
            intentShare { order.intent with volume := qty } reduceOnly side else 0 := by
    intro reduceOnly
    rw [← onFill_openQty hfill symbol reduceOnly side]
    exact store_openQty_le hcoherent hget
      (openShare_filled hadd hactive hqty hopen symbol reduceOnly side)
  unfold reach
  rw [store_position, position_of_fill hfill (hcounted order hget), add_zero, add_zero, add_zero,
    add_zero]
  refine (reachFrom_mono (hused true) (hused false)).trans ?_
  by_cases hsymbol : order.intent.symbol = symbol
  · rw [if_pos hsymbol, if_pos hsymbol, if_pos hsymbol, signed_add_signed]
    by_cases hside : order.intent.side = side
    · rw [if_pos hside]
      -- A fill in the direction of interest: it is paid for by its own kind.
      cases hkind : order.intent.reduceOnly with
      | true =>
        have hleft := hreduce hkind
        unfold reducible at hleft
        rw [hsymbol, hside] at hleft
        have htrue : intentShare { order.intent with volume := qty } true side = qty :=
          if_pos ⟨hkind, hside⟩
        have hfalse : intentShare { order.intent with volume := qty } false side = 0 :=
          if_neg (by simp [hkind])
        rw [htrue, hfalse, sub_zero]
        exact reachFrom_reduceFill hqty hleft
      | false =>
        have htrue : intentShare { order.intent with volume := qty } true side = 0 :=
          if_neg (by simp [hkind])
        have hfalse : intentShare { order.intent with volume := qty } false side = qty :=
          if_pos ⟨hkind, hside⟩
        rw [htrue, hfalse, sub_zero]
        exact reachFrom_plainFill hqty.le
    · rw [if_neg hside]
      have hnone : ∀ reduceOnly,
          intentShare { order.intent with volume := qty } reduceOnly side = 0 :=
        fun reduceOnly => if_neg (fun h => hside h.2)
      rw [hnone, hnone, sub_zero, sub_zero]
      exact reachFrom_oppositeFill hqty.le
  · rw [if_neg hsymbol, if_neg hsymbol, if_neg hsymbol, add_zero, sub_zero, sub_zero]

theorem step_bounded (hmark : 0 ≤ market.markPrice symbol) (desk : Desk) (action : DeskAction)
    (desk' : Desk) (hbounded : Bounded market limits symbol desk)
    (hcounted : Counted market limits desk action)
    (hstep : desk.step market limits action = some desk') :
    Bounded market limits symbol desk' := by
  cases action with
  | submit clientOid intent now => exact submit_bounded hbounded hcounted hstep
  | fill clientOid qty price now note => exact fill_bounded hmark hbounded hcounted hstep
  | advance clientOid status reason now note => exact advance_bounded hmark hbounded hstep

end Steps

/-! ## The bound over a run -/

/-- No order is open, and the exposure says so. -/
structure Settled (desk : Desk) : Prop where
  coherent : desk.Coherent
  noneActive : ∀ order ∈ desk.orders.values, order.isActive = false

theorem Settled.openQty_eq_zero (hsettled : desk.Settled) (symbol : String)
    (reduceOnly : Bool) (side : Side) : desk.exposure.openQty symbol reduceOnly side = 0 := by
  rw [hsettled.coherent]
  refine List.sum_eq_zero ?_
  intro share hshare
  obtain ⟨entry, hentry, rfl⟩ := List.mem_map.mp hshare
  have hinactive : entry.2.isActive = false :=
    hsettled.noneActive entry.2 (List.mem_map_of_mem (f := Prod.snd) hentry)
  exact Exposure.openShare_of_not_active hinactive symbol reduceOnly side

/-- A position within the limit and nothing open: the bound holds to begin with. -/
theorem Settled.bounded {market : MarketData} (hsettled : desk.Settled)
    (hmark : 0 ≤ market.markPrice symbol)
    (hlimit : |desk.position symbol| * market.markPrice symbol ≤ limits.maxPosNotional) :
    Bounded market limits symbol desk := by
  refine ⟨hsettled.coherent, fun side => ?_⟩
  unfold reach
  rw [hsettled.openQty_eq_zero, hsettled.openQty_eq_zero, add_zero, reachFrom_zero]
  refine le_trans (mul_le_mul_of_nonneg_right ?_ hmark) hlimit
  cases side with
  | buy => exact le_abs_self _
  | sell => exact neg_le_abs _

/-- The bound on both directions is a bound on the position. -/
theorem Bounded.position_le {market : MarketData} (hbounded : Bounded market limits symbol desk)
    (hmark : 0 ≤ market.markPrice symbol) :
    |desk.position symbol| * market.markPrice symbol ≤ limits.maxPosNotional := by
  have hside : ∀ side : Side, side.signed (desk.position symbol) * market.markPrice symbol ≤
      limits.maxPosNotional := by
    intro side
    refine le_trans (mul_le_mul_of_nonneg_right ?_ hmark) (hbounded.reach_le side)
    unfold reach
    rw [add_zero, add_zero]
    exact le_reachFrom (openQty_nonneg hbounded.coherent symbol true side)
      (openQty_nonneg hbounded.coherent symbol false side)
  rcases abs_choice (desk.position symbol) with h | h
  · rw [h]
    exact hside .buy
  · rw [h]
    exact hside .sell

/-- **The position stays within its limit** over every run of submissions, fills
and status changes whose submissions are within the limit *with the reduce-only
reservations counted* and whose fills leave no dust. -/
theorem position_notional_le_limit {market : MarketData} {limits : Exposure.RiskLimits}
    {symbol : String} {start final : Desk} {actions : List DeskAction}
    (hmark : 0 ≤ market.markPrice symbol) (hsettled : start.Settled)
    (hlimit : |start.position symbol| * market.markPrice symbol ≤ limits.maxPosNotional)
    (hcounted : Run.Along (step market limits) (Counted market limits) start actions)
    (hexec : Run.exec (step market limits) start actions = some final) :
    |final.position symbol| * market.markPrice symbol ≤ limits.maxPosNotional :=
  (Run.exec_invariant (step_bounded hmark) (hsettled.bounded hmark hlimit) hcounted
    hexec).position_le hmark

/-- A market where everything costs one. -/
def unitMarket : MarketData := ⟨fun _ => 1, fun _ => (1, 1)⟩

/-- A position limit of ten. -/
def limitTen : Exposure.RiskLimits := { maxPosNotional := 10 }

/-- Ten contracts long, nothing open. -/
def longTen : Desk :=
  { exposure := { netPositions := Dict.ofList [("BTCUSDT", 10)] } }

theorem longTen_settled : longTen.Settled where
  coherent := by
    intro symbol reduceOnly side
    cases reduceOnly <;> cases side <;> rfl
  noneActive := by
    intro order horder
    cases horder

/-- A limit order of the strategy `mm`. -/
def sellIntent (volume : ℚ) (reduceOnly : Bool) : OrderIntent :=
  { strategyId := "mm", symbol := "BTCUSDT", side := .sell, price := 1, volume := volume,
    reduceOnly := reduceOnly }

theorem position_notional_le_limit_plainSell :
    ∃ final, Run.exec (step unitMarket limitTen) longTen
        [.submit "a" (sellIntent 20 false) 0, .fill "a" 20 1 0 {}] = some final ∧
      |final.position "BTCUSDT"| * unitMarket.markPrice "BTCUSDT" ≤ limitTen.maxPosNotional := by
  obtain ⟨final, hfinal⟩ := Option.isSome_iff_exists.mp
    (by decide +kernel : (Run.exec (step unitMarket limitTen) longTen
      [.submit "a" (sellIntent 20 false) 0, .fill "a" 20 1 0 {}]).isSome = true)
  exact ⟨final, hfinal, position_notional_le_limit (by decide +kernel) longTen_settled
    (by decide +kernel) (by decide +kernel) hfinal⟩

/-- A plain sell of twenty and a reduce-only sell of ten are both admitted against
a position of ten; the reduce-only order fills first and the plain one then takes
the position to minus twenty, twice the limit. -/
theorem reduceOnly_reservation_escapes_limit :
    ∃ final, longTen.Settled ∧
      |longTen.position "BTCUSDT"| * unitMarket.markPrice "BTCUSDT" ≤ limitTen.maxPosNotional ∧
      Run.exec (step unitMarket limitTen) longTen
        [.submit "a" (sellIntent 20 false) 0, .submit "b" (sellIntent 10 true) 0,
          .fill "b" 10 1 0 {}, .fill "a" 20 1 0 {}] = some final ∧
      limitTen.maxPosNotional < |final.position "BTCUSDT"| * unitMarket.markPrice "BTCUSDT" := by
  have hposition : (Run.exec (step unitMarket limitTen) longTen
      [.submit "a" (sellIntent 20 false) 0, .submit "b" (sellIntent 10 true) 0,
        .fill "b" 10 1 0 {}, .fill "a" 20 1 0 {}]).map (fun desk => desk.position "BTCUSDT") =
      some (-20) := by decide +kernel
  obtain ⟨final, hfinal, hminus⟩ := Option.map_eq_some_iff.mp hposition
  refine ⟨final, longTen_settled, by decide +kernel, hfinal, ?_⟩
  rw [hminus]
  decide +kernel

end Desk

end ChronosHFT.Oms
