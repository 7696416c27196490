import ChronosHFT.Oms.CommandSpec
import ChronosHFT.Oms.Engine
import ChronosHFT.Oms.ReplaySpec
import ChronosHFT.Oms.TruthSpec

/-!
# Every position is attributed

The net position of a symbol is kept in one ledger, the positions of the strategies
in another, and different branches write them.  What ties them together is
`reconcile_strategy_position`, which runs after every write and books the
difference to `exchange_recovery`.

A symbol is *accounted for* when the strategies' positions add up to the net
position, up to the `1e-9` at which the residual is snapped to zero.  Every
operation is `Settling`: whatever symbol it touches, it leaves accounted for.  This
relation is reflexive and transitive, so it passes from the single write to the
event and from the event to the run.

The exception is recovery.  `rebuild_from_log` gives the strategies their positions
back and leaves the net positions empty, because those are the venue's to state; and
a reset whose snapshot is refused half-way has cleared positions it does not
restore.  Until a completed reset covers the symbol, or a fill or a correction
touches it, both ledgers stay exactly as recovery left them.
-/

namespace ChronosHFT.Oms

namespace Exposure

/-- The sum over strategies of a symbol's positions. -/
def strategyTotal (e : Exposure) (symbol : String) : ℚ :=
  e.strategyNetPositions.sumBy fun key position => if key.2 = symbol then position else 0

/-- The strategies' positions add up to the net position. -/
def Accounted (e : Exposure) (symbol : String) : Prop :=
  |e.strategyTotal symbol - e.netPositions.getD symbol 0| < qtyEps

/-- Neither ledger changed for this symbol. -/
structure SameFor (symbol : String) (e e' : Exposure) : Prop where
  total : e'.strategyTotal symbol = e.strategyTotal symbol
  net : e'.netPositions.getD symbol 0 = e.netPositions.getD symbol 0

/-- Whatever symbol is touched is accounted for afterwards. -/
def Settling (e e' : Exposure) : Prop :=
  ∀ symbol, SameFor symbol e e' ∨ e'.Accounted symbol

variable {e e' e'' : Exposure} {symbol : String}

protected theorem SameFor.refl (symbol : String) (e : Exposure) : SameFor symbol e e :=
  ⟨rfl, rfl⟩

protected theorem SameFor.trans (h₁ : SameFor symbol e e') (h₂ : SameFor symbol e' e'') :
    SameFor symbol e e'' :=
  ⟨h₂.total.trans h₁.total, h₂.net.trans h₁.net⟩

theorem SameFor.accounted (h : SameFor symbol e e') (haccounted : e.Accounted symbol) :
    e'.Accounted symbol := by
  unfold Accounted
  rw [h.total, h.net]
  exact haccounted

protected theorem Settling.refl (e : Exposure) : Settling e e :=
  fun symbol => Or.inl (SameFor.refl symbol e)

protected theorem Settling.trans (h₁ : Settling e e') (h₂ : Settling e' e'') :
    Settling e e'' := by
  intro symbol
  rcases h₂ symbol with hsame | haccounted
  · rcases h₁ symbol with hsame' | haccounted'
    · exact Or.inl (hsame'.trans hsame)
    · exact Or.inr (hsame.accounted haccounted')
  · exact Or.inr haccounted

theorem SamePositions.sameFor (h : SamePositions e e') (symbol : String) :
    SameFor symbol e e' := by
  constructor
  · unfold strategyTotal
    rw [h.strategyNetPositions]
  · rw [h.netPositions]

theorem SamePositions.settling (h : SamePositions e e') : Settling e e' :=
  fun symbol => Or.inl (h.sameFor symbol)

/-! ## One write -/

/-- The positions booked to named strategies are all but one entry of the total. -/
theorem attributed_eq (e : Exposure) (symbol : String) :
    e.attributed symbol = e.strategyTotal symbol -
      e.strategyNetPositions.contribution
        (fun key position => if key.2 = symbol then position else 0)
        (exchangeRecovery, symbol) := by
  unfold strategyTotal
  rw [← Dict.sumBy_erase, Dict.sumBy_erase_eq_sumBy]
  unfold attributed
  congr 1
  funext key position
  obtain ⟨strategy, tracked⟩ := key
  simp only [Prod.mk.injEq]
  by_cases htracked : tracked = symbol
  · by_cases hstrategy : strategy = exchangeRecovery <;> simp [htracked, hstrategy]
  · simp [htracked]

/-- A write under another symbol does not move the total. -/
theorem strategyTotal_set_of_ne (positions : Dict (String × String) ℚ)
    {key : String × String} {symbol : String} (h : key.2 ≠ symbol) (position : ℚ) :
    ((positions.set key position).sumBy fun k p => if k.2 = symbol then p else 0) =
      positions.sumBy fun k p => if k.2 = symbol then p else 0 := by
  have hcontribution : positions.contribution
      (fun k p => if k.2 = symbol then p else 0) key = 0 := by
    unfold Dict.contribution
    split
    · rfl
    · exact if_neg h
  rw [Dict.sumBy_set, hcontribution, if_neg h, sub_zero, add_zero]

theorem abs_snap_sub_lt (x : ℚ) : |Ledger.snap x - x| < qtyEps := by
  unfold Ledger.snap
  split
  · next h =>
    rw [zero_sub, abs_neg]
    exact h
  · rw [sub_self, abs_zero]
    decide +kernel

theorem reconcileStrategyPosition_total (e : Exposure) (symbol : String)
    (accountPosition price : ℚ) :
    |(e.reconcileStrategyPosition symbol accountPosition price).strategyTotal symbol.toUpper -
      accountPosition| < qtyEps := by
  have htotal : (e.reconcileStrategyPosition symbol accountPosition price).strategyTotal
      symbol.toUpper = e.attributed symbol.toUpper +
        Ledger.snap (accountPosition - e.attributed symbol.toUpper) := by
    show (e.strategyNetPositions.set _ _).sumBy _ = _
    rw [Dict.sumBy_set, attributed_eq, if_pos rfl]
    rfl
  rw [htotal]
  have hsnap := abs_snap_sub_lt (accountPosition - e.attributed symbol.toUpper)
  have hshift : e.attributed symbol.toUpper +
      Ledger.snap (accountPosition - e.attributed symbol.toUpper) - accountPosition =
        Ledger.snap (accountPosition - e.attributed symbol.toUpper) -
          (accountPosition - e.attributed symbol.toUpper) := by ring
  rw [hshift]
  exact hsnap

variable {other strategyId : String} {side : Side} {pnl price qty volume : ℚ}
  {intent : OrderIntent}

theorem reconcileStrategyPosition_sameFor (e : Exposure) {symbol : String}
    (h : other ≠ symbol.toUpper) (accountPosition price : ℚ) :
    SameFor other e (e.reconcileStrategyPosition symbol accountPosition price) :=
  ⟨strategyTotal_set_of_ne e.strategyNetPositions (Ne.symm h) _, rfl⟩

/-- Booking the residual of a symbol's own position accounts for it. -/
theorem reconcile_accounted (e : Exposure) (hsymbol : symbol.toUpper = symbol)
    {accountPosition : ℚ} (hnet : e.netPositions.getD symbol 0 = accountPosition) (price : ℚ) :
    (e.reconcileStrategyPosition symbol accountPosition price).Accounted symbol := by
  have htotal := reconcileStrategyPosition_total e symbol accountPosition price
  rw [hsymbol] at htotal
  unfold Accounted
  rw [show (e.reconcileStrategyPosition symbol accountPosition price).netPositions =
    e.netPositions from rfl, hnet]
  exact htotal

/-- A write to one symbol that ends with its residual. -/
theorem settling_of_symbol (hsame : ∀ other, other ≠ symbol → SameFor other e e')
    (haccounted : e'.Accounted symbol) : Settling e e' := by
  intro other
  by_cases h : other = symbol
  · rw [h]
    exact Or.inr haccounted
  · exact Or.inl (hsame other h)

/-! ## Fills and corrections -/

theorem onStrategyFill_sameFor
    (h : e.onStrategyFill strategyId symbol side qty price = .ok (e', pnl))
    (hother : other ≠ symbol.toUpper) : SameFor other e e' := by
  unfold onStrategyFill Ledger.applyFill at h
  by_cases hpos : qty ≤ 0 ∨ price ≤ 0
  · rw [if_pos hpos] at h
    cases h
  · rw [if_neg hpos] at h
    cases h
    exact ⟨strategyTotal_set_of_ne e.strategyNetPositions (Ne.symm hother) _, rfl⟩

theorem onFill_sameFor (h : e.onFill symbol side qty price = .ok (e', pnl))
    (hother : other ≠ symbol) : SameFor other e e' := by
  refine ⟨?_, ?_⟩
  · unfold onFill Ledger.applyFill at h
    by_cases hpos : qty ≤ 0 ∨ price ≤ 0
    · rw [if_pos hpos] at h
      cases h
    · rw [if_neg hpos] at h
      cases h
      rfl
  · rw [onFill_netPositions h, if_neg hother]

/-- The ledgers of a fill before the residual is booked. -/
theorem fillLedgers_eq (e : Exposure)
    (hsymbol : intent.symbol.toUpper = intent.symbol) (qty price : ℚ) (synced : Bool) :
    ∃ booked : Exposure, (∀ other, other ≠ intent.symbol → SameFor other e booked) ∧
      e.fillLedgers intent qty price synced =
        booked.reconcileStrategyPosition intent.symbol
          (booked.netPositions.getD intent.symbol 0)
            (booked.avgPrices.getD intent.symbol 0) := by
  refine ⟨_, ?_, rfl⟩
  intro other hother
  have hupper : other ≠ intent.symbol.toUpper := by
    rw [hsymbol]
    exact hother
  cases hstrategy : e.onStrategyFill intent.strategyId intent.symbol intent.side qty price with
  | error err =>
    cases synced with
    | true => exact SameFor.refl other e
    | false =>
      cases hfill : e.onFill intent.symbol intent.side qty price with
      | error err => exact SameFor.refl other e
      | ok result => exact onFill_sameFor hfill hother
  | ok result =>
    have hfirst : SameFor other e result.1 := onStrategyFill_sameFor hstrategy hupper
    cases synced with
    | true => exact hfirst
    | false =>
      cases hfill : result.1.onFill intent.symbol intent.side qty price with
      | error err => exact hfirst
      | ok result' => exact hfirst.trans (onFill_sameFor hfill hother)

/-- **A fill settles its symbol.** -/
theorem fillLedgers_settling (e : Exposure)
    (hsymbol : intent.symbol.toUpper = intent.symbol) (qty price : ℚ) (synced : Bool) :
    Settling e (e.fillLedgers intent qty price synced) := by
  obtain ⟨booked, hbooked, heq⟩ := fillLedgers_eq e hsymbol qty price synced
  rw [heq]
  refine settling_of_symbol ?_ (reconcile_accounted booked hsymbol rfl _)
  intro other hother
  exact (hbooked other hother).trans
    (reconcileStrategyPosition_sameFor booked (by rw [hsymbol]; exact hother) _ _)

/-- What `force_sync` does when it accepts. -/
theorem forceSync_ok (h : e.forceSync symbol volume price = .ok e') :
    Text.strip symbol.toUpper ≠ "" ∧
      e'.netPositions = e.netPositions.set (Text.strip symbol.toUpper) volume ∧
      e'.strategyNetPositions = e.strategyNetPositions := by
  unfold forceSync at h
  simp only at h
  split at h
  · cases h
  next hvalid =>
    cases h
    push Not at hvalid
    exact ⟨hvalid.1, rfl, rfl⟩

theorem forceSync_sameFor (h : e.forceSync symbol volume price = .ok e')
    (hother : other ≠ Text.strip symbol.toUpper) : SameFor other e e' := by
  obtain ⟨-, hnet, hstrategy⟩ := forceSync_ok h
  constructor
  · unfold strategyTotal
    rw [hstrategy]
  · rw [hnet, Dict.getD_set_of_ne _ _ _ hother]

/-- **A correction settles its symbol.** -/
theorem forceSync_reconcile_settling (hsymbol : Text.strip symbol.toUpper = symbol)
    (h : e.forceSync symbol volume price = .ok e') (residualPrice : ℚ) :
    Settling e (e'.reconcileStrategyPosition symbol volume residualPrice) := by
  have hupper : symbol.toUpper = symbol := by
    rw [← hsymbol]
    exact Text.toUpper_strip_toUpper symbol
  have hnet : e'.netPositions.getD symbol 0 = volume := by
    rw [(forceSync_ok h).2.1, hsymbol, Dict.getD_set_self]
  refine settling_of_symbol ?_ (reconcile_accounted e' hupper hnet residualPrice)
  intro other hother
  have hsynced := forceSync_sameFor h (by rw [hsymbol]; exact hother)
  exact hsynced.trans
    (reconcileStrategyPosition_sameFor e' (by rw [hupper]; exact hother) volume residualPrice)

/-! ## Symbols

The two ledgers agree on a symbol because both spell it alike: the strategy ledger
upper-cases, the net ledger takes the order's spelling. -/

/-- Touched symbols are accounted for, and new ones are the venue's. -/
structure Moves (e e' : Exposure) : Prop where
  settling : Settling e e'
  spelled : ∀ symbol ∈ e'.netPositions.keys, symbol ∈ e.netPositions.keys ∨ Spelled symbol

protected theorem Moves.refl (e : Exposure) : Moves e e :=
  ⟨Settling.refl e, fun _ hmem => Or.inl hmem⟩

protected theorem Moves.trans (h₁ : Moves e e') (h₂ : Moves e' e'') : Moves e e'' := by
  refine ⟨h₁.settling.trans h₂.settling, ?_⟩
  intro symbol hmem
  rcases h₂.spelled symbol hmem with hmem' | hspelled
  · exact h₁.spelled symbol hmem'
  · exact Or.inr hspelled

theorem SamePositions.moves (h : SamePositions e e') : Moves e e' := by
  refine ⟨h.settling, ?_⟩
  intro symbol hmem
  rw [h.netPositions] at hmem
  exact Or.inl hmem

theorem onFill_keys (h : e.onFill symbol side qty price = .ok (e', pnl))
    (hmem : other ∈ e'.netPositions.keys) : other = symbol ∨ other ∈ e.netPositions.keys := by
  unfold onFill Ledger.applyFill at h
  by_cases hpos : qty ≤ 0 ∨ price ≤ 0
  · rw [if_pos hpos] at h
    cases h
  · rw [if_neg hpos] at h
    cases h
    exact Dict.mem_keys_set.mp hmem

theorem onStrategyFill_netPositions
    (h : e.onStrategyFill strategyId symbol side qty price = .ok (e', pnl)) :
    e'.netPositions = e.netPositions := by
  unfold onStrategyFill Ledger.applyFill at h
  by_cases hpos : qty ≤ 0 ∨ price ≤ 0
  · rw [if_pos hpos] at h
    cases h
  · rw [if_neg hpos] at h
    cases h
    rfl

theorem fillLedgers_keys (e : Exposure) (intent : OrderIntent) (qty price : ℚ) (synced : Bool)
    (hmem : other ∈ (e.fillLedgers intent qty price synced).netPositions.keys) :
    other = intent.symbol ∨ other ∈ e.netPositions.keys := by
  unfold fillLedgers at hmem
  simp only [reconcileStrategyPosition] at hmem
  cases hstrategy : e.onStrategyFill intent.strategyId intent.symbol intent.side qty price with
  | error err =>
    simp only [hstrategy] at hmem
    split at hmem
    · exact Or.inr hmem
    split at hmem
    · next hfill => exact onFill_keys hfill hmem
    · exact Or.inr hmem
  | ok result =>
    simp only [hstrategy] at hmem
    have hnet : result.1.netPositions = e.netPositions := onStrategyFill_netPositions hstrategy
    split at hmem
    · rw [hnet] at hmem
      exact Or.inr hmem
    split at hmem
    · next hfill =>
      rw [← hnet]
      exact onFill_keys hfill hmem
    · rw [hnet] at hmem
      exact Or.inr hmem

theorem fillLedgers_moves (e : Exposure) (hspelled : Spelled intent.symbol)
    (qty price : ℚ) (synced : Bool) : Moves e (e.fillLedgers intent qty price synced) := by
  refine ⟨fillLedgers_settling e hspelled.2 qty price synced, ?_⟩
  intro symbol hmem
  rcases fillLedgers_keys e intent qty price synced hmem with rfl | hold
  · exact Or.inr hspelled
  · exact Or.inl hold

theorem forceSync_reconcile_moves (hsymbol : Text.strip symbol.toUpper = symbol)
    (h : e.forceSync symbol volume price = .ok e') (residualPrice : ℚ) :
    Moves e (e'.reconcileStrategyPosition symbol volume residualPrice) := by
  refine ⟨forceSync_reconcile_settling hsymbol h residualPrice, ?_⟩
  intro other hmem
  obtain ⟨hne, hnet, -⟩ := forceSync_ok h
  have hset : other ∈ (e.netPositions.set (Text.strip symbol.toUpper) volume).keys := by
    rw [← hnet]
    exact hmem
  rcases Dict.mem_keys_set.mp hset with rfl | hold
  · exact Or.inr ⟨hne, Text.toUpper_strip_toUpper symbol⟩
  · exact Or.inl hold

end Exposure

namespace OmsState

/-! ## One event -/

/-- Every symbol the books use is spelled as the venue spells it.  A snapshot of a
locally rejected intent may spell anything; it is never filed. -/
structure WellSpelled (s : OmsState) : Prop where
  orders : ∀ key order, s.orders.get? key = some order → Spelled order.intent.symbol
  positions : ∀ symbol ∈ s.exposure.netPositions.keys, Spelled symbol
  journal : ∀ record source, .orderSnapshot record source ∈ ledgerRecords s.journal →
    Spelled record.intent.symbol ∨ record.status = OrderStatus.rejectedLocally.value

/-- Where an event may lead from `s`. -/
structure Leads (s t : OmsState) : Prop where
  spelled : t.WellSpelled
  moves : Exposure.Moves s.exposure t.exposure

variable {s t t' : OmsState}

theorem Leads.sameLedgers (h : Leads s t) (hsame : SameLedgers t t') : Leads s t' := by
  refine ⟨⟨?_, ?_, ?_⟩, ?_⟩
  · rw [hsame.orders]
    exact h.spelled.orders
  · rw [hsame.exposure]
    exact h.spelled.positions
  · rw [hsame.records]
    exact h.spelled.journal
  · rw [hsame.exposure]
    exact h.moves

/-- The books after a step that stores one order and journals snapshots of it. -/
theorem WellSpelled.step {orders : Dict String Order} (records : List JournalRecord)
    (h : t.WellSpelled) (horders : ∀ key order, orders.get? key = some order →
      t.orders.get? key = some order ∨ Spelled order.intent.symbol)
    (hrecords : ∀ record source, .orderSnapshot record source ∈ records →
      Spelled record.intent.symbol ∨ record.status = OrderStatus.rejectedLocally.value)
    (heq : t'.orders = orders)
    (hjournal : ledgerRecords t'.journal = ledgerRecords t.journal ++ records)
    (hmoves : Exposure.Moves t.exposure t'.exposure) : t'.WellSpelled := by
  refine ⟨?_, ?_, ?_⟩
  · intro key order hget
    rw [heq] at hget
    rcases horders key order hget with hold | hspelled
    · exact h.orders key order hold
    · exact hspelled
  · intro symbol hmem
    rcases hmoves.spelled symbol hmem with hold | hspelled
    · exact h.positions symbol hold
    · exact hspelled
  · intro record source hmem
    rw [hjournal, List.mem_append] at hmem
    rcases hmem with hold | hnew
    · exact h.journal record source hold
    · exact hrecords record source hnew

/-- Storing one well-spelled order. -/
theorem get?_set_spelled {orders : Dict String Order} {key : String} {after : Order}
    (hafter : Spelled after.intent.symbol) (k : String) (order : Order)
    (h : (orders.set key after).get? k = some order) :
    orders.get? k = some order ∨ Spelled order.intent.symbol := by
  rw [Dict.get?_set] at h
  split at h
  · cases h
    exact Or.inr hafter
  · exact Or.inl h

theorem snapshotRecords_spelled {before : Order} {update : Order × Except OrderError Bool}
    (h : Spelled update.1.intent.symbol) (record : OrderRecord) (source : String)
    (hmem : .orderSnapshot record source ∈ snapshotRecords before update) :
    Spelled record.intent.symbol := by
  obtain ⟨after, result⟩ := update
  cases result with
  | error err => cases hmem
  | ok hadFill =>
    simp only [snapshotRecords] at hmem
    split at hmem
    · cases List.mem_singleton.mp hmem
      exact h
    · cases hmem

theorem executionRecords_not_snapshot {env : EventEnv} {order : Order} {u : ExchangeOrderUpdate}
    {record : OrderRecord} {source : String}
    (hmem : .orderSnapshot record source ∈ executionRecords env s order u) : False := by
  unfold executionRecords at hmem
  split at hmem
  · cases List.mem_singleton.mp hmem
  · cases hmem

/-- The ledgers of an update. -/
theorem Applied.moves {env : EventEnv} {u : ExchangeOrderUpdate} {key : String} {order : Order}
    {status : UpdateStatus} (h : Applied env s t u key order status)
    (hspelled : Spelled order.intent.symbol) : Exposure.Moves s.exposure t.exposure := by
  have hfilled : Exposure.Moves s.exposure (filledExposure env s order u) := by
    unfold filledExposure
    split
    · split
      · exact Exposure.fillLedgers_moves s.exposure hspelled _ _ _
      · exact Exposure.Moves.refl _
    · exact Exposure.Moves.refl _
  rw [h.exposure]
  split
  · exact hfilled.trans (Exposure.updateOpenOrders_samePositions _ _).moves
  · exact hfilled

/-- An order update. -/
theorem applyEvent_leads (env : EventEnv) (raw : RawOrderUpdate) (h : Leads s t) :
    Leads s (t.applyEvent env raw) := by
  rcases applyEvent_cases env t raw with hsame | ⟨u, key, order, status, -, hjudge, happlied⟩
  · exact h.sameLedgers hsame
  have hspelled := h.spelled.orders key order (findOrder_get? (judge_proceed hjudge).found)
  have hafter : Spelled (order.applyUpdate env.now u status).1.intent.symbol := by
    rw [(Order.applyUpdate_identity order env.now u status).intent]
    exact hspelled
  have hmoves := happlied.moves hspelled
  refine ⟨?_, h.moves.trans hmoves⟩
  refine h.spelled.step _ (get?_set_spelled hafter) ?_ happlied.orders
    (by rw [happlied.records, List.append_assoc]) hmoves
  intro record source hmem
  rcases List.mem_append.mp hmem with hexecution | hsnapshot
  · exact (executionRecords_not_snapshot hexecution).elim
  · exact Or.inl (snapshotRecords_spelled hafter record source hsnapshot)

/-- A command.  The checks of admission spell the symbol of what is filed. -/
theorem CommandEffect.leads {now : ℚ} {Refused : OrderIntent → Prop}
    (heffect : CommandEffect now Refused s t) (h : s.WellSpelled) : Leads s t := by
  have hrefl : Leads s s := ⟨h, Exposure.Moves.refl _⟩
  cases heffect with
  | quiet hsame => exact hrefl.sameLedgers hsame
  | rejected clientOid intent reason hrefused hrecorded =>
    refine ⟨?_, hrecorded.positions.moves⟩
    refine h.step _ (fun _ _ hget => Or.inl hget) ?_ hrecorded.orders hrecorded.records
      hrecorded.positions.moves
    intro record source hmem
    cases List.mem_singleton.mp hmem
    exact Or.inr (congrArg OrderStatus.value (rejectedIntent_status clientOid intent now reason))
  | filed clientOid intent source hfileable hrecorded =>
    have hspelled : Spelled intent.symbol := by
      rcases hfileable.symbol with hspelled | hposition
      · exact hspelled
      refine h.positions _ ?_
      by_contra hmissing
      apply hposition
      unfold Dict.getD
      rw [Dict.get?_eq_none_iff.mpr hmissing]
      rfl
    refine ⟨?_, hrecorded.positions.moves⟩
    refine h.step _ (get?_set_spelled hspelled) ?_ hrecorded.orders hrecorded.records
      hrecorded.positions.moves
    intro record source hmem
    cases List.mem_singleton.mp hmem
    exact Or.inl hspelled
  | moved key before after orders ids results source hfound _ hmove htable hmapped hrecorded =>
    have hspelled : Spelled after.intent.symbol := by
      rw [hmove.books.intent]
      exact h.orders key before hfound
    refine ⟨?_, hrecorded.positions.moves⟩
    refine h.step _ ?_ ?_ hrecorded.orders hrecorded.records hrecorded.positions.moves
    · intro k order hget
      rcases htable with rfl | rfl | ⟨-, rfl⟩
      · exact get?_set_spelled hspelled k order hget
      · rw [Dict.get?_erase] at hget
        split at hget
        · cases hget
        · exact get?_set_spelled hspelled k order hget
      · exact Or.inl hget
    · intro record source hmem
      rcases List.mem_append.mp hmem with hresult | hsnapshot
      · obtain ⟨_, _, habsurd⟩ := List.mem_map.mp hresult
        cases habsurd
      · cases List.mem_singleton.mp hsnapshot
        exact Or.inl hspelled
  | noted key before result hfound hown hcancel hrecorded =>
    refine ⟨?_, hrecorded.positions.moves⟩
    refine h.step _ (fun _ _ hget => Or.inl hget) ?_ hrecorded.orders hrecorded.records
      hrecorded.positions.moves
    intro record source hmem
    cases List.mem_singleton.mp hmem

end OmsState

end ChronosHFT.Oms
