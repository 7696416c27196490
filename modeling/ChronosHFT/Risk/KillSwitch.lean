import ChronosHFT.Lib.Text
import ChronosHFT.Sidecar.Control

/-!
# The kill switch of the risk manager

`RiskKillSwitchController` of `risk/kill_switch.py`.  Once it is triggered it cancels and
flattens until the account is seen flat: a verification attempt asks the exchange for open
orders, the OMS for its own orders and sends, and both for positions.  Enough attempts that see
nothing make the state `FLAT_VERIFIED`, from which an operator may release the latch.

Orders and positions are confirmed by two counters.  An attempt that finds orders, or that fails,
resets both; one that finds positions resets only the second.
-/

namespace ChronosHFT.Risk

open Sidecar (RawFloat)

/-! ## What the queries give -/

/-- A row of orders. -/
inductive OrderRow
  | notObject
  /-- The symbol as a text, where there is one. -/
  | object (symbol : Option String)
  deriving DecidableEq

/-- A row of positions. -/
inductive PositionRow
  | notObject
  | object (symbol : Option String) (positionAmt : Option RawFloat)
  deriving DecidableEq

/-- What the exchange answers: a query that fails or gives no list is `unknown`. -/
inductive Reply (α : Type)
  | unknown
  | rows (rows : List α)
  deriving DecidableEq

/-- What the OMS says about its own orders. -/
inductive LocalReply
  | unknown
  /-- The active orders, where they are a list, and the sends in flight, where they are an
  integer. -/
  | truth (activeOrders : Option (List OrderRow)) (orderSendsInflight : Option ℤ)
  deriving DecidableEq

/-- The OMS as an attempt sees it; the positions where the ledger can be read. -/
structure OmsView where
  orderTruth : LocalReply
  netPositions : Option (List (String × RawFloat))
  deriving DecidableEq

/-- A reading of the performance counter, which is positive: the time since the machine started.
-/
abbrev ClockReading := {time : ℚ // 0 < time}

/-- What an attempt meets.  `persistRaises` tells for which reasons saving the state raises. -/
structure Attempt where
  openOrders : Reply OrderRow
  oms : Option OmsView
  now : ClockReading
  positions : Reply PositionRow
  persistRaises : String → Bool := fun _ => false
  allowFlatten : Bool := true

namespace Attempt

/-- `str(value or "").upper().strip()`. -/
def symbolOf (symbol : Option String) : String := Text.strip (symbol.getD "").toUpper

/-- Has a row of orders a symbol? -/
def orderRowValid : OrderRow → Bool
  | .notObject => false
  | .object symbol => symbolOf symbol ≠ ""

/-- `_query_kill_open_orders`. -/
def queryKillOpenOrders (a : Attempt) : Option (List OrderRow) :=
  match a.openOrders with
  | .unknown => none
  | .rows rows => if rows.all orderRowValid then some rows else none

/-- `_query_local_kill_order_truth`: the active orders and the number of sends in flight. -/
def queryLocalKillOrderTruth (a : Attempt) : Option (List OrderRow × ℕ) :=
  match a.oms with
  | none => some ([], 0)
  | some oms =>
    match oms.orderTruth with
    | .unknown | .truth none _ | .truth _ none => none
    | .truth (some activeOrders) (some inflight) =>
      if inflight < 0 then none
      else if activeOrders.all orderRowValid then some (activeOrders, inflight.toNat)
      else none

/-- An entry of a position ledger: a symbol and a finite amount. -/
def readAmount (symbol : String) : RawFloat → Option (String × ℚ)
  | .invalid | .nonFinite => none
  | .is amount => if symbol = "" then none else some (symbol, amount)

/-- A row of the exchange. -/
def readPositionRow : PositionRow → Option (String × ℚ)
  | .notObject | .object none _ | .object _ none => none
  | .object (some symbol) (some amount) => readAmount (symbolOf (some symbol)) amount

/-- An entry of the local ledger. -/
def readLocalPosition (entry : String × RawFloat) : Option (String × ℚ) :=
  readAmount (symbolOf (some entry.1)) entry.2

/-- The symbols of the amounts that are not zero. -/
def nonzeroSymbols (amounts : List (String × ℚ)) : List String :=
  (amounts.filter fun entry => entry.2 ≠ 0).map Prod.fst

/-- The local ledger; an account without an OMS has none. -/
def localAmounts (a : Attempt) : Option (List (String × ℚ)) :=
  match a.oms with
  | none => some []
  | some oms => oms.netPositions.bind fun ledger => ledger.mapM readLocalPosition

/-- `_query_kill_positions`: the symbols with a position, remote or local. -/
def queryKillPositions (a : Attempt) : Option (List String) :=
  match a.positions with
  | .unknown => none
  | .rows rows =>
    (rows.mapM readPositionRow).bind fun remote =>
      a.localAmounts.map fun ledger => nonzeroSymbols (remote ++ ledger)

end Attempt

/-! ## The controller -/

/-- `VALID_KILL_STATES`. -/
inductive KillState
  | armed
  | triggered
  | cancelPending
  | cancelVerified
  | flattening
  | flatVerified
  | failed
  deriving DecidableEq

/-- `KillSwitchConfig`, as far as an attempt reads it. -/
structure KillSwitchConfig where
  verifyIntervalSec : ℚ := 1
  emptySnapshotsRequired : ℕ := 2

/-- The kill fields of `RiskDurableState` and the counters of `KillSwitchRuntimeState`. -/
structure KillSwitch where
  killSwitchTriggered : Bool := false
  killState : KillState := .armed
  killReason : String := ""
  emptyOrderSnapshots : ℕ := 0
  emptyFlatSnapshots : ℕ := 0
  lastAcceptedSnapshotAt : ℚ := 0
  deriving DecidableEq

/-- What is done besides changing the state. -/
inductive KillEffect
  | persist (reason : String)
  | massCancel
  | flatten (reason : String)
  deriving DecidableEq

/-- What an attempt comes to: the state, whether it verified (`none` when it raised), and what it
did. -/
structure Outcome where
  switch : KillSwitch
  verified : Option Bool
  effects : List KillEffect := []
  deriving DecidableEq

namespace KillSwitch

/-- `_reset_kill_empty_snapshots`. -/
def resetKillEmptySnapshots (k : KillSwitch) : KillSwitch :=
  { k with
    emptyOrderSnapshots := 0
    emptyFlatSnapshots := 0
    lastAcceptedSnapshotAt := 0 }

/-- `_set_kill_state`, and what comes after it unless saving raises. -/
def setKillState (a : Attempt) (k : KillSwitch) (state : KillState) (reason : String)
    (next : KillSwitch → Outcome) : Outcome :=
  if k.killState = state then next k
  else if a.persistRaises reason then ⟨{ k with killState := state }, none, []⟩
  else
    let done := next { k with killState := state }
    { done with effects := .persist reason :: done.effects }

/-- The end of an attempt that did not verify.  A mass cancel that raises resets the counters,
which were reset before. -/
def unverified (effects : List KillEffect) (k : KillSwitch) : Outcome := ⟨k, some false, effects⟩

/-- The mass cancel of an attempt that may flatten. -/
def retryMassCancel (a : Attempt) : List KillEffect :=
  if a.allowFlatten then [.massCancel] else []

/-- Is it too early for another snapshot? -/
def early (cfg : KillSwitchConfig) (k : KillSwitch) (a : Attempt) : Bool :=
  0 < k.lastAcceptedSnapshotAt ∧ a.now.1 - k.lastAcceptedSnapshotAt < cfg.verifyIntervalSec

/-- A snapshot without orders is accepted. -/
def acceptSnapshot (cfg : KillSwitchConfig) (k : KillSwitch) (a : Attempt) : KillSwitch :=
  { k with
    lastAcceptedSnapshotAt := a.now
    emptyOrderSnapshots := min cfg.emptySnapshotsRequired (k.emptyOrderSnapshots + 1) }

/-- A snapshot without positions is counted. -/
def countFlat (cfg : KillSwitchConfig) (k : KillSwitch) : KillSwitch :=
  { k with emptyFlatSnapshots := min cfg.emptySnapshotsRequired (k.emptyFlatSnapshots + 1) }

/-- The second half of an attempt, without orders: the positions. -/
def confirmFlat (cfg : KillSwitchConfig) (k : KillSwitch) (a : Attempt) : Outcome :=
  match a.queryKillPositions with
  | none => unverified [] { k with emptyFlatSnapshots := 0 }
  | some (_ :: _) =>
    setKillState a { k with emptyFlatSnapshots := 0 } .flattening "nonzero_positions_remain"
      (unverified
        (if a.allowFlatten ∧ a.oms.isSome then [.flatten ("KillSwitch: " ++ k.killReason)]
          else []))
  | some [] =>
    let k := k.countFlat cfg
    if k.emptyOrderSnapshots < cfg.emptySnapshotsRequired then
      setKillState a k .cancelPending "empty_order_snapshot_confirmation_pending" (unverified [])
    else
      setKillState a k .cancelVerified "orders_cancelled_confirmed" fun k =>
        if k.emptyFlatSnapshots < cfg.emptySnapshotsRequired then unverified [] k
        else
          setKillState a k .flatVerified "orders_cancelled_and_positions_flat_confirmed"
            fun k => ⟨k, some true, []⟩

/-- `_verify_kill_state_once`. -/
def verifyKillStateOnce (cfg : KillSwitchConfig) (k : KillSwitch) (a : Attempt) : Outcome :=
  match a.queryKillOpenOrders, a.queryLocalKillOrderTruth with
  | none, _ => unverified (retryMassCancel a) k.resetKillEmptySnapshots
  | some _, none =>
    setKillState a k.resetKillEmptySnapshots .cancelPending "local_order_truth_unknown"
      (unverified (retryMassCancel a))
  | some (_ :: _), some _ =>
    setKillState a k.resetKillEmptySnapshots .cancelPending "open_orders_remain"
      (unverified (retryMassCancel a))
  | some [], some (activeOrders, inflight) =>
    if activeOrders ≠ [] ∨ inflight ≠ 0 then
      setKillState a k.resetKillEmptySnapshots .cancelPending "local_orders_or_sends_remain"
        (unverified (retryMassCancel a))
    else if k.early cfg a then
      setKillState a k .cancelPending "empty_snapshot_interval_pending" (unverified [])
    else confirmFlat cfg (k.acceptSnapshot cfg a) a

/-- `_verify_kill_state_safely`: the state after an attempt, and whether it verified. -/
def verifyKillStateSafely (cfg : KillSwitchConfig) (k : KillSwitch) (a : Attempt) :
    KillSwitch × Bool :=
  let done := k.verifyKillStateOnce cfg a
  match done.verified with
  | none => (done.switch.resetKillEmptySnapshots, false)
  | some verified => (done.switch, verified)

/-- `trigger_kill_switch` under the state lock. -/
def trigger (k : KillSwitch) (reason : String) : KillSwitch :=
  if k.killSwitchTriggered then k
  else { k.resetKillEmptySnapshots with
    killSwitchTriggered := true
    killReason := reason
    killState := .triggered }

/-- `restart_kill_switch_after_truth_drift` under the state lock. -/
def restart (k : KillSwitch) (reason : String) : KillSwitch :=
  { k.resetKillEmptySnapshots with
    killSwitchTriggered := true
    killReason := if reason = "" then "account truth drift after flat verification" else reason
    killState := .triggered }

/-- `resume_kill_switch_supervision` under the state lock, for a sequence that failed. -/
def retryFailed (k : KillSwitch) : KillSwitch :=
  { k.resetKillEmptySnapshots with killState := .triggered }

/-- What `_refresh_rearm_state` asks the OMS. -/
structure RearmView where
  live : Bool
  manualRearmRequired : Bool
  deriving DecidableEq

/-- Where a call of `_refresh_rearm_state` stands: its next statement.  A call that has returned
stands where another one begins. -/
inductive RefreshPoint
  | readLatch
  | readKillState
  | readOmsState
  | readManualRearm
  | openLatch
  | clearReason
  | disarm
  | resetOrders
  | resetFlats
  | resetTime
  deriving DecidableEq

/-- One statement of `_refresh_rearm_state`, which takes no lock. -/
def refreshRearmState (k : KillSwitch) (oms : Option RearmView) :
    RefreshPoint → KillSwitch × RefreshPoint
  | .readLatch =>
    (k, if k.killSwitchTriggered ∧ oms.isSome then .readKillState else .readLatch)
  | .readKillState => (k, if k.killState = .flatVerified then .readOmsState else .readLatch)
  | .readOmsState =>
    (k, if oms.any RearmView.live then .readManualRearm else .readLatch)
  | .readManualRearm =>
    (k, if oms.any RearmView.manualRearmRequired then .readLatch else .openLatch)
  | .openLatch => ({ k with killSwitchTriggered := false }, .clearReason)
  | .clearReason => ({ k with killReason := "" }, .disarm)
  | .disarm => ({ k with killState := .armed }, .resetOrders)
  | .resetOrders => ({ k with emptyOrderSnapshots := 0 }, .resetFlats)
  | .resetFlats => ({ k with emptyFlatSnapshots := 0 }, .resetTime)
  | .resetTime => ({ k with lastAcceptedSnapshotAt := 0 }, .readLatch)

end KillSwitch

/-! ## What an attempt does -/

namespace Attempt

/-- **No orders are seen**: none at the exchange, none in the OMS, none on the way. -/
structure SeesNoOrders (a : Attempt) : Prop where
  remote : a.openOrders = .rows []
  own : ∀ oms ∈ a.oms, oms.orderTruth = .truth (some []) (some 0)

/-- **No positions are seen**: every row of the exchange and every entry of the local ledger is
read, and its amount is zero. -/
structure SeesNoPositions (a : Attempt) : Prop where
  remote : ∃ rows, a.positions = .rows rows ∧
    ∀ row ∈ rows, ∃ symbol, row = .object (some symbol) (some (.is 0))
  own : ∀ oms ∈ a.oms, ∃ ledger, oms.netPositions = some ledger ∧
    ∀ entry ∈ ledger, entry.2 = .is 0

/-- An attempt that sees neither orders nor positions. -/
def SeesFlat (a : Attempt) : Prop := a.SeesNoOrders ∧ a.SeesNoPositions

theorem queryKillOpenOrders_eq_nil {a : Attempt} (h : a.queryKillOpenOrders = some []) :
    a.openOrders = .rows [] := by
  unfold queryKillOpenOrders at h
  cases hreply : a.openOrders with
  | unknown =>
    rw [hreply] at h
    cases h
  | rows rows =>
    rw [hreply] at h
    simp only at h
    split at h
    · cases h
      rfl
    · cases h

theorem queryLocalKillOrderTruth_eq_nil {a : Attempt}
    (h : a.queryLocalKillOrderTruth = some ([], 0)) :
    ∀ oms ∈ a.oms, oms.orderTruth = .truth (some []) (some 0) := by
  rintro oms homs
  unfold queryLocalKillOrderTruth at h
  rw [Option.mem_def.mp homs] at h
  simp only at h
  split at h
  · cases h
  · cases h
  · cases h
  rename_i activeOrders inflight htruth
  rw [htruth]
  split at h
  · cases h
  rename_i hsign
  split at h
  · simp only [Option.some.injEq, Prod.mk.injEq] at h
    rw [h.1, le_antisymm (Int.toNat_eq_zero.mp h.2) (not_lt.mp hsign)]
  · cases h

/-- An entry with amount zero. -/
theorem readAmount_eq_zero {symbol symbol' : String} {amount : RawFloat}
    (h : readAmount symbol amount = some (symbol', 0)) : amount = .is 0 := by
  cases amount with
  | invalid | nonFinite => cases h
  | is q =>
    simp only [readAmount, Option.ite_none_left_eq_some, Option.some.injEq, Prod.mk.injEq] at h
    rw [h.2.2]

/-- Every entry of a list that is read is read. -/
theorem exists_of_mapM {α β : Type} {read : α → Option β} :
    ∀ {entries : List α} {values : List β}, entries.mapM read = some values →
      ∀ entry ∈ entries, ∃ value ∈ values, read entry = some value := by
  intro entries
  induction entries with
  | nil => exact fun _ _ h => absurd h List.not_mem_nil
  | cons entry rest ih =>
    intro values h
    rw [List.mapM_cons] at h
    obtain ⟨value, hvalue, h⟩ := Option.bind_eq_some_iff.mp h
    obtain ⟨valuesRest, hrest, h⟩ := Option.bind_eq_some_iff.mp h
    cases h
    intro other hother
    rcases List.mem_cons.mp hother with rfl | htail
    · exact ⟨value, List.mem_cons_self, hvalue⟩
    · obtain ⟨found, hfound, hread⟩ := ih hrest other htail
      exact ⟨found, List.mem_cons_of_mem _ hfound, hread⟩

/-- All that was read is zero when no symbol is left. -/
theorem snd_eq_zero_of_nonzeroSymbols {amounts : List (String × ℚ)}
    (h : nonzeroSymbols amounts = [])
    {entry : String × ℚ} (hentry : entry ∈ amounts) : entry.2 = 0 := by
  have hnone := List.filter_eq_nil_iff.mp (List.map_eq_nil_iff.mp h) entry hentry
  simpa using hnone

theorem queryKillPositions_eq_nil {a : Attempt} (h : a.queryKillPositions = some []) :
    a.SeesNoPositions := by
  unfold queryKillPositions at h
  cases hreply : a.positions with
  | unknown =>
    rw [hreply] at h
    cases h
  | rows rows =>
    rw [hreply] at h
    simp only [Option.bind_eq_some_iff, Option.map_eq_some_iff] at h
    obtain ⟨remote, hremote, ledger, hledger, hnone⟩ := h
    have hzero : ∀ entry ∈ remote ++ ledger, entry.2 = 0 := fun _ hentry =>
      snd_eq_zero_of_nonzeroSymbols hnone hentry
    constructor
    · refine ⟨rows, hreply, fun row hrow => ?_⟩
      obtain ⟨⟨symbol, amount⟩, hentry, hread⟩ := exists_of_mapM hremote row hrow
      have hamount : amount = 0 := hzero _ (List.mem_append_left ledger hentry)
      subst hamount
      rcases row with _ | ⟨_ | name, _ | raw⟩
      · cases hread
      · cases hread
      · cases hread
      · cases hread
      · exact ⟨name, congrArg _ (congrArg some (readAmount_eq_zero hread))⟩
    · intro oms homs
      unfold localAmounts at hledger
      rw [Option.mem_def.mp homs] at hledger
      obtain ⟨entries, hentries, hledger⟩ := Option.bind_eq_some_iff.mp hledger
      refine ⟨entries, hentries, fun entry hentry => ?_⟩
      obtain ⟨⟨symbol, amount⟩, hmem, hread⟩ := exists_of_mapM hledger entry hentry
      have hamount : amount = 0 := hzero _ (List.mem_append_right remote hmem)
      subst hamount
      exact readAmount_eq_zero hread

/-- Are no orders seen? -/
def noOrders (a : Attempt) : Bool :=
  a.queryKillOpenOrders = some [] ∧ a.queryLocalKillOrderTruth = some ([], 0)

theorem seesNoOrders {a : Attempt} (h : a.noOrders = true) : a.SeesNoOrders := by
  obtain ⟨hremote, hown⟩ := of_decide_eq_true h
  exact ⟨queryKillOpenOrders_eq_nil hremote, queryLocalKillOrderTruth_eq_nil hown⟩

end Attempt

namespace KillSwitch

variable {cfg : KillSwitchConfig} {k : KillSwitch} {a : Attempt}

/-- A state is set, and unless saving it raises what comes next is done. -/
theorem setKillState_cases (state : KillState) (reason : String) (next : KillSwitch → Outcome) :
    (setKillState a k state reason next).switch = { k with killState := state } ∨
      (setKillState a k state reason next).switch =
      (next { k with killState := state }).switch := by
  unfold setKillState
  split
  · rename_i h
    rw [← h]
    exact .inr rfl
  · split
    · exact .inl rfl
    · exact .inr rfl

/-- Where nothing else changes the state, it is the one that is set. -/
theorem switch_setKillState (state : KillState) (reason : String) (effects : List KillEffect) :
    (setKillState a k state reason (unverified effects)).switch =
      { k with killState := state } :=
  (setKillState_cases state reason (unverified effects)).elim id id

/-- An attempt that sees orders, or fails to look, starts anew. -/
theorem verifyOnce_of_orders (h : a.noOrders = false) :
    (k.verifyKillStateOnce cfg a).switch.emptyFlatSnapshots = 0 ∧
      ((k.verifyKillStateOnce cfg a).switch.killState = k.killState ∨
        (k.verifyKillStateOnce cfg a).switch.killState = .cancelPending) := by
  unfold verifyKillStateOnce
  split
  · exact ⟨rfl, .inl rfl⟩
  · rw [switch_setKillState]
    exact ⟨rfl, .inr rfl⟩
  · rw [switch_setKillState]
    exact ⟨rfl, .inr rfl⟩
  rename_i activeOrders inflight hremote hown
  split
  · rw [switch_setKillState]
    exact ⟨rfl, .inr rfl⟩
  rename_i hnone
  obtain ⟨hactive, hinflight⟩ := not_or.mp hnone
  have hseen : a.noOrders = true := by
    refine decide_eq_true ⟨hremote, ?_⟩
    rw [hown, not_not.mp hactive, not_not.mp hinflight]
  rw [h] at hseen
  cases hseen

/-- An attempt that comes too early changes no counter. -/
theorem verifyOnce_of_early (h : a.noOrders = true) (hearly : k.early cfg a = true) :
    (k.verifyKillStateOnce cfg a).switch = { k with killState := .cancelPending } := by
  obtain ⟨hremote, hown⟩ := of_decide_eq_true h
  unfold verifyKillStateOnce
  rw [hremote, hown]
  simp only [ne_eq, not_true_eq_false, or_self, if_false, hearly, if_true]
  exact switch_setKillState _ _ _

/-- Any other attempt is accepted, and goes on with the positions. -/
theorem verifyOnce_of_accepted (h : a.noOrders = true) (hearly : k.early cfg a = false) :
    k.verifyKillStateOnce cfg a = confirmFlat cfg (k.acceptSnapshot cfg a) a := by
  obtain ⟨hremote, hown⟩ := of_decide_eq_true h
  unfold verifyKillStateOnce
  rw [hremote, hown]
  simp only [ne_eq, not_true_eq_false, or_self, if_false, hearly, Bool.false_eq_true]

/-- **What the positions decide**: where they are seen to be zero one more flat snapshot is
counted, and the state is `FLAT_VERIFIED` only after enough of them. -/
theorem confirmFlat_cases :
    ((confirmFlat cfg k a).switch.emptyFlatSnapshots = 0 ∧
        ((confirmFlat cfg k a).switch.killState = k.killState ∨
          (confirmFlat cfg k a).switch.killState = .flattening)) ∨
      (a.SeesNoPositions ∧
        (confirmFlat cfg k a).switch.emptyFlatSnapshots =
          min cfg.emptySnapshotsRequired (k.emptyFlatSnapshots + 1) ∧
        (confirmFlat cfg k a).switch.lastAcceptedSnapshotAt = k.lastAcceptedSnapshotAt ∧
        ((confirmFlat cfg k a).switch.killState = .flatVerified →
          cfg.emptySnapshotsRequired ≤ k.emptyFlatSnapshots + 1)) := by
  unfold confirmFlat
  split
  · exact .inl ⟨rfl, .inl rfl⟩
  · rw [switch_setKillState]
    exact .inl ⟨rfl, .inr rfl⟩
  rename_i hpositions
  refine .inr ⟨Attempt.queryKillPositions_eq_nil hpositions, ?_⟩
  simp only
  split
  · rw [switch_setKillState]
    exact ⟨rfl, rfl, (nomatch ·)⟩
  rename_i horders
  rcases setKillState_cases (a := a) (k := k.countFlat cfg)
      .cancelVerified "orders_cancelled_confirmed" _ with hraised | hnext
  · rw [hraised]
    exact ⟨rfl, rfl, (nomatch ·)⟩
  rw [hnext]
  simp only
  split
  · exact ⟨rfl, rfl, (nomatch ·)⟩
  rename_i henough
  have hcounted : cfg.emptySnapshotsRequired ≤ k.emptyFlatSnapshots + 1 :=
    (not_lt.mp henough).trans (min_le_right _ _)
  rcases setKillState_cases (a := a)
      (k := { k.countFlat cfg with killState := .cancelVerified })
      .flatVerified "orders_cancelled_and_positions_flat_confirmed"
      (fun k => ⟨k, some true, []⟩) with hset | hset
  · rw [hset]
    exact ⟨rfl, rfl, fun _ => hcounted⟩
  · rw [hset]
    exact ⟨rfl, rfl, fun _ => hcounted⟩

/-! ### The latch -/

theorem triggered_setKillState (state : KillState) (reason : String)
    {next : KillSwitch → Outcome}
    (hnext : ∀ k : KillSwitch, (next k).switch.killSwitchTriggered = k.killSwitchTriggered) :
    (setKillState a k state reason next).switch.killSwitchTriggered = k.killSwitchTriggered := by
  rcases setKillState_cases (a := a) (k := k) state reason next with hset | hdone
  · rw [hset]
  · rw [hdone, hnext]

theorem triggered_unverified (effects : List KillEffect) (k : KillSwitch) :
    (unverified effects k).switch.killSwitchTriggered = k.killSwitchTriggered := rfl

theorem triggered_confirmFlat :
    (confirmFlat cfg k a).switch.killSwitchTriggered = k.killSwitchTriggered := by
  unfold confirmFlat
  split
  · rfl
  · exact triggered_setKillState _ _ (triggered_unverified _)
  simp only
  split
  · exact triggered_setKillState _ _ (triggered_unverified _)
  refine triggered_setKillState _ _ fun k => ?_
  split
  · rfl
  · exact triggered_setKillState _ _ fun _ => rfl

/-- An attempt does not touch the latch. -/
theorem triggered_verifySafely :
    (k.verifyKillStateSafely cfg a).1.killSwitchTriggered = k.killSwitchTriggered := by
  have honce : (k.verifyKillStateOnce cfg a).switch.killSwitchTriggered =
      k.killSwitchTriggered := by
    unfold verifyKillStateOnce
    split
    · rfl
    · exact triggered_setKillState _ _ (triggered_unverified _)
    · exact triggered_setKillState _ _ (triggered_unverified _)
    split
    · exact triggered_setKillState _ _ (triggered_unverified _)
    · split
      · exact triggered_setKillState _ _ (triggered_unverified _)
      · exact triggered_confirmFlat
  unfold verifyKillStateSafely
  simp only
  split
  · exact honce
  · exact honce

/-- An attempt that raises starts anew; any other leaves what it came to. -/
theorem verifySafely_cases :
    ((k.verifyKillStateOnce cfg a).verified = none ∧ (k.verifyKillStateSafely cfg a).1 =
        (k.verifyKillStateOnce cfg a).switch.resetKillEmptySnapshots) ∨
      ((k.verifyKillStateOnce cfg a).verified ≠ none ∧
        (k.verifyKillStateSafely cfg a).1 = (k.verifyKillStateOnce cfg a).switch) := by
  unfold verifyKillStateSafely
  simp only
  cases h : (k.verifyKillStateOnce cfg a).verified with
  | none => exact .inl ⟨rfl, rfl⟩
  | some verified => exact .inr ⟨(nomatch ·), rfl⟩

/-- The state is what the attempt came to, raising or not. -/
theorem killState_verifySafely : (k.verifyKillStateSafely cfg a).1.killState =
    (k.verifyKillStateOnce cfg a).switch.killState := by
  rcases @verifySafely_cases cfg k a with ⟨-, h⟩ | ⟨-, h⟩
  · rw [h]
    rfl
  · rw [h]

end KillSwitch

end ChronosHFT.Risk
