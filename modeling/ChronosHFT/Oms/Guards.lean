import ChronosHFT.Lib.Dict
import ChronosHFT.Lib.Text

/-!
# Guards and trading modes

`oms/guard_manager.py` and the mode constraints of `oms/capability_manager.py`: which
symbols, venues and strategies are frozen, by whom and why, and which trading modes are
imposed.  Every change is journaled, and after a restart the journal is all there is.

The symbol and the venue guards are one mechanism used twice (`GuardBook`).  A guard has an
owner, derived from its reason; a name may be held by several owners at once, each with its
own reason and the epoch at which it was installed, and the newest one is the effective
guard.  A clear names the guard it means by owner, epoch and reason, and is ignored when
that does not single one out.

A strategy guard has a reason and no owner.  A mode constraint is kept under a key derived
from its reason, with a generation number.

The records carry the fields that the replay of the journal reads.  What else the
operations do (cancelling orders, waiting for sends, refreshing the outbound gate) does not
touch the guards and is left out, and a failing journal is the subject of the submission
path, not of this one.
-/

namespace ChronosHFT.Oms

/-- `OMSCapabilityMode`. -/
inductive OMSCapabilityMode where
  | live
  | degraded
  | passiveOnly
  | reduceOnly
  | cancelOnly
  | readOnly
  | lockdown
deriving DecidableEq, Repr

namespace OMSCapabilityMode

/-- The journal spelling of a mode. -/
def value : OMSCapabilityMode → String
  | live => "LIVE"
  | degraded => "DEGRADED"
  | passiveOnly => "PASSIVE_ONLY"
  | reduceOnly => "REDUCE_ONLY"
  | cancelOnly => "CANCEL_ONLY"
  | readOnly => "READ_ONLY"
  | lockdown => "LOCKDOWN"

/-- `OMSCapabilityMode(text)`; an unknown spelling is the source's `ValueError`. -/
def ofValue? (text : String) : Option OMSCapabilityMode :=
  [live, degraded, passiveOnly, reduceOnly, cancelOnly, readOnly, lockdown].find?
    (fun mode => decide (mode.value = text))

@[simp] theorem ofValue?_value (mode : OMSCapabilityMode) : ofValue? mode.value = some mode := by
  cases mode <;> decide

/-- `_mode_rank`. -/
def rank : OMSCapabilityMode → ℕ
  | live => 0
  | degraded => 1
  | passiveOnly => 2
  | reduceOnly => 3
  | cancelOnly => 4
  | readOnly => 5
  | lockdown => 6

/-- The modes `set_trading_mode` accepts. -/
def overrides : List OMSCapabilityMode := [degraded, passiveOnly, reduceOnly]

end OMSCapabilityMode

/-- One guard: its reason and the epoch at which it was installed. -/
structure GuardEntry where
  reason : String
  epoch : ℤ
deriving DecidableEq, Repr

/-- The guards of one name, by owner. -/
abbrev GuardOwners := Dict String GuardEntry

/-- The two families of guards that are kept by owner. -/
inductive GuardFamily where
  | symbol
  | venue
deriving DecidableEq, Repr

/-- The journal records of guard and mode operations. -/
inductive GuardRecord where
  /-- `symbol_frozen`, `venue_frozen`, and the same `_freeze_reasserted`. -/
  | frozen (family : GuardFamily) (reasserted : Bool) (name reason owner : String) (epoch : ℤ)
  /-- `symbol_unfrozen`, `venue_unfrozen`, and `symbol_guard_cleared`, `venue_guard_cleared`
  when other owners remain. -/
  | cleared (family : GuardFamily) (remaining : Bool) (name owner previousReason : String)
      (epoch : ℤ)
  /-- `symbol_unfreeze_stale_ignored`, `venue_unfreeze_stale_ignored` and
  `orderbook_unfreeze_stale_ignored`. -/
  | staleIgnored (family : GuardFamily) (name : String)
  /-- `strategy_frozen`, and `strategy_freeze_reasserted` with or without a symbol. -/
  | strategyFrozen (reasserted : Bool) (strategyId symbol reason : String)
  /-- `strategy_symbol_frozen`. -/
  | strategySymbolFrozen (strategyId symbol reason : String)
  /-- `strategy_unfrozen`. -/
  | strategyUnfrozen (strategyId symbol : String)
  /-- `trading_mode_override_set`; records of earlier versions have no generation. -/
  | modeSet (mode reason constraintKey : String) (generation : Option ℤ)
  /-- `trading_mode_override_cleared`. -/
  | modeCleared (keys : List String) (generations : Dict String ℤ) (previousReason : String)
deriving DecidableEq

/-! ## Owners -/

/-- `_symbol_guard_owner`. -/
def symbolGuardOwner (reason : String) : String :=
  let reason := Text.strip reason
  let parts := Text.split ':' reason
  let first := parts.headD ""
  if first ∈ ["latency", "divergence", "stale_market_data"] then first
  else if first = "truth_plane" ∧ 1 < parts.length then ":".intercalate (parts.take 2)
  else if first = "system_health" ∧ 2 < parts.length then
    if parts.getD 1 "" ∈ ["FATAL_GAP", "ORDERBOOK_RESYNC_FAILED"] then "system_health:orderbook"
    else ":".intercalate (parts.take 2)
  else if first = "order_truth" ∧ 2 < parts.length then
    "order_truth:" ++ parts.getLastD ""
  else reason

/-- `_venue_guard_owner`. -/
def venueGuardOwner (reason : String) : String :=
  let reason := Text.strip reason
  let parts := Text.split ':' reason
  let first := parts.headD ""
  let second := parts.getD 1 ""
  if first = "system_health" then
    if 1 < parts.length ∧ second = "TRANSPORT" then "system_health:transport"
    else if 1 < parts.length ∧
        (["WS_", "USER_STREAM_", "MARKET_DATA_"].any fun head =>
          head.toList.isPrefixOf second.toList) then
      "system_health:transport"
    else if 1 < parts.length then ":".intercalate (parts.take 2)
    else reason
  else if first = "truth_plane" ∧ 1 < parts.length then ":".intercalate (parts.take 2)
  else if first ≠ "" then first
  else reason

/-- The owner of a guard, by family. -/
def guardOwner : GuardFamily → String → String
  | .symbol => symbolGuardOwner
  | .venue => venueGuardOwner

/-! ## Guards by owner -/

/-- The guards of one family: the effective reason and epoch of every guarded name, the
guards by owner, and the highest epoch given out. -/
structure GuardBook where
  guards : Dict String String := ∅
  records : Dict String GuardOwners := ∅
  epochs : Dict String ℤ := ∅
  counters : Dict String ℤ := ∅
deriving DecidableEq

/-- The guard with the larger epoch, the earlier one among equals. -/
def newerOf : Option GuardEntry → GuardEntry → Option GuardEntry
  | none, entry => some entry
  | some kept, entry => if kept.epoch < entry.epoch then some entry else some kept

/-- `max(records.items(), key=epoch)`. -/
def newest (owners : GuardOwners) : Option GuardEntry := owners.values.foldl newerOf none

namespace GuardBook

/-- `_ensure_symbol_guard_records_locked`, `_ensure_venue_guard_records_locked`: the guards of
a name by owner.  A reason without owners, as earlier versions kept it, becomes a guard. -/
def ensureRecords (book : GuardBook) (family : GuardFamily) (name : String) :
    GuardBook × GuardOwners :=
  match book.records.get? name with
  | some owners => (book, owners)
  | none =>
    let legacyReason := book.guards.getD name ""
    if legacyReason ≠ "" then
      let epoch := max 1 (book.epochs.getD name 0)
      let owners : GuardOwners :=
        (∅ : GuardOwners).set (guardOwner family legacyReason) ⟨legacyReason, epoch⟩
      ({ book with
          records := book.records.set name owners
          counters := book.counters.set name (max epoch (book.counters.getD name 0)) },
        owners)
    else ({ book with records := book.records.set name ∅ }, ∅)

/-- `_refresh_symbol_guard_effective_locked`, `_refresh_venue_guard_effective_locked`. -/
def refreshEffective (book : GuardBook) (name : String) : GuardBook :=
  match newest (book.records.getD name ∅) with
  | none =>
    { book with
      records := book.records.erase name
      guards := book.guards.erase name
      epochs := book.epochs.erase name }
  | some entry =>
    { book with
      guards := book.guards.set name entry.reason
      epochs := book.epochs.set name entry.epoch }

/-- Store the guards of a name and make the newest of them effective. -/
def putOwners (book : GuardBook) (name : String) (owners : GuardOwners) : GuardBook :=
  ({ book with records := book.records.set name owners }).refreshEffective name

/-- The epoch of the next guard of a name. -/
def nextEpoch (book : GuardBook) (name : String) (owners : GuardOwners) : ℤ :=
  (owners.values.map GuardEntry.epoch).foldl max (book.counters.getD name 0) + 1

/-- `_install_symbol_guard_locked` and the locked part of `freeze_venue`. -/
def install (book : GuardBook) (family : GuardFamily) (name reason : String) :
    GuardBook × GuardRecord :=
  let owner := guardOwner family reason
  let (book, owners) := book.ensureRecords family name
  let previousOwnerReason := ((owners.get? owner).map GuardEntry.reason).getD ""
  let epoch := book.nextEpoch name owners
  let book := { book with counters := book.counters.set name epoch }
  (book.putOwners name (owners.set owner ⟨reason, epoch⟩),
    .frozen family (decide (previousOwnerReason = reason)) name reason owner epoch)

/-- The guards a clear may mean: those of the expected owner, or of all owners, that it
accepts. -/
def candidates (owners : GuardOwners) (expectedOwner : String) (accepts : GuardEntry → Bool) :
    List (String × GuardEntry) :=
  if expectedOwner ≠ "" then
    match owners.get? expectedOwner with
    | none => []
    | some entry => if accepts entry then [(expectedOwner, entry)] else []
  else owners.items.filter fun p => accepts p.2

/-- The locked part of `clear_symbol_freeze` and `clear_venue_freeze`: without any
expectation the clear is for the only guard there is.  The answer is `False` when the guard
is not singled out. -/
def clear (book : GuardBook) (family : GuardFamily) (name expectedOwner : String)
    (unconditional : Bool) (accepts : GuardEntry → Bool) : GuardBook × GuardRecord :=
  let (book, owners) := book.ensureRecords family name
  let found :=
    if unconditional then (if owners.items.length = 1 then owners.items else [])
    else candidates owners expectedOwner accepts
  match found with
  | [(owner, entry)] =>
    let remaining := owners.erase owner
    (book.putOwners name remaining,
      .cleared family (!remaining.isEmpty) name owner entry.reason entry.epoch)
  | _ => (book, .staleIgnored family name)

end GuardBook

/-! ## The guard state of the OMS -/

/-- The guards and mode constraints of the OMS, the name of its gateway, and the journal. -/
structure GuardState where
  gatewayName : String
  symbols : GuardBook := {}
  venues : GuardBook := {}
  strategyGuards : Dict String String := ∅
  strategySymbolGuards : Dict (String × String) String := ∅
  modeConstraints : Dict String (OMSCapabilityMode × String) := ∅
  modeConstraintGenerations : Dict String ℤ := ∅
  modeConstraintGeneration : ℤ := 0
  modeOverride : Option OMSCapabilityMode := none
  modeOverrideReason : String := ""
  journal : List GuardRecord := []
deriving DecidableEq

/-- `text or fallback`. -/
def orElse (text fallback : String) : String := if text = "" then fallback else text

namespace GuardState

/-- `_audit`. -/
def audit (s : GuardState) (record : GuardRecord) : GuardState :=
  { s with journal := s.journal ++ [record] }

/-- `freeze_symbol`. -/
def freezeSymbol (s : GuardState) (symbol reason : String) : GuardState :=
  if symbol = "" then s
  else
    let (book, record) :=
      s.symbols.install .symbol symbol.toUpper (orElse reason "symbol_guarded")
    ({ s with symbols := book }).audit record

/-- `clear_symbol_freeze`; an empty expectation expects nothing. -/
def clearSymbolFreeze (s : GuardState) (symbol : String) (expectedEpoch : Option ℤ)
    (expectedReason expectedOwner : String) : GuardState :=
  if symbol = "" then s
  else
    let (book, record) :=
      s.symbols.clear .symbol symbol.toUpper expectedOwner
        (decide (expectedOwner = "" ∧ expectedReason = "" ∧ expectedEpoch = none))
        (fun entry =>
          decide ((expectedReason = "" ∨ entry.reason = expectedReason) ∧
            (expectedEpoch = none ∨ expectedEpoch = some entry.epoch)))
    ({ s with symbols := book }).audit record

/-- `clear_orderbook_freeze`: the guard is found by the recovery token in its reason. -/
def clearOrderbookFreeze (s : GuardState) (symbol recoveryToken : String) : GuardState :=
  let symbol := symbol.toUpper
  let recoveryToken := Text.strip recoveryToken
  if symbol = "" ∨ recoveryToken = "" then s
  else
    let (book, owners) := s.symbols.ensureRecords .symbol symbol
    let s := { s with symbols := book }
    let expectedReasons :=
      ["system_health:FATAL_GAP:" ++ recoveryToken,
        "system_health:ORDERBOOK_RESYNC_FAILED:" ++ recoveryToken]
    match owners.items.filter (fun p => decide (p.2.reason ∈ expectedReasons)) with
    | [(owner, entry)] => s.clearSymbolFreeze symbol (some entry.epoch) entry.reason owner
    | _ => s.audit (.staleIgnored .symbol symbol)

/-- The venue an operation is about: the gateway's own when none is named. -/
def venueName (s : GuardState) (venue : String) : String := (orElse venue s.gatewayName).toUpper

/-- `freeze_venue`. -/
def freezeVenue (s : GuardState) (venue reason : String) : GuardState :=
  let (book, record) :=
    s.venues.install .venue (s.venueName venue) (orElse reason "venue_guarded")
  ({ s with venues := book }).audit record

/-- `clear_venue_freeze`; unlike for symbols, an expected reason may be the empty one. -/
def clearVenueFreeze (s : GuardState) (venue : String) (expectedEpoch : Option ℤ)
    (expectedReason : Option String) (expectedOwner : String) : GuardState :=
  let (book, record) :=
    s.venues.clear .venue (s.venueName venue) expectedOwner
      (decide (expectedOwner = "" ∧ expectedReason = none ∧ expectedEpoch = none))
      (fun entry =>
        decide ((expectedReason = none ∨ expectedReason = some entry.reason) ∧
          (expectedEpoch = none ∨ expectedEpoch = some entry.epoch)))
  ({ s with venues := book }).audit record

/-- `freeze_strategy`.  The reason is taken as it is. -/
def freezeStrategy (s : GuardState) (strategyId reason symbol : String) : GuardState :=
  let strategyId := Text.strip strategyId
  let symbol := symbol.toUpper
  if strategyId = "" then s
  else if symbol ≠ "" then
    let previousReason := s.strategySymbolGuards.getD (strategyId, symbol) ""
    ({ s with
        strategySymbolGuards := s.strategySymbolGuards.set (strategyId, symbol) reason }).audit
      (if previousReason ≠ reason then .strategySymbolFrozen strategyId symbol reason
        else .strategyFrozen true strategyId symbol reason)
  else
    let previousReason := s.strategyGuards.getD strategyId ""
    ({ s with strategyGuards := s.strategyGuards.set strategyId reason }).audit
      (.strategyFrozen (decide (previousReason = reason)) strategyId "" reason)

/-- `clear_strategy_freeze`.  Nothing is journaled when there was no reason. -/
def clearStrategyFreeze (s : GuardState) (strategyId symbol : String) : GuardState :=
  let strategyId := Text.strip strategyId
  let symbol := symbol.toUpper
  if strategyId = "" then s
  else if symbol ≠ "" then
    let previousReason := s.strategySymbolGuards.getD (strategyId, symbol) ""
    let s := { s with strategySymbolGuards := s.strategySymbolGuards.erase (strategyId, symbol) }
    if previousReason = "" then s else s.audit (.strategyUnfrozen strategyId symbol)
  else
    let previousReason := s.strategyGuards.getD strategyId ""
    let s := { s with strategyGuards := s.strategyGuards.erase strategyId }
    if previousReason = "" then s else s.audit (.strategyUnfrozen strategyId "")

/-! ## Mode constraints -/

/-- `_mode_constraint_key`. -/
def modeConstraintKey (reason : String) : String :=
  let reason := Text.strip reason
  if reason = "" then "unspecified"
  else
    match Text.partition ':' reason with
    | none => reason
    | some (head, _) => head ++ ":"

/-- `max(constraints, key=(rank, key))`: the strictest constraint, the later key among equals. -/
def strictest (constraints : Dict String (OMSCapabilityMode × String)) :
    Option (OMSCapabilityMode × String) :=
  (constraints.items.foldl
    (fun best item =>
      match best with
      | none => some item
      | some kept =>
        if kept.2.1.rank < item.2.1.rank ∨ (kept.2.1.rank = item.2.1.rank ∧ kept.1 < item.1)
        then some item
        else some kept)
    none).map Prod.snd

/-- `_refresh_selected_mode_constraint`. -/
def refreshSelected (s : GuardState) : GuardState :=
  match strictest s.modeConstraints with
  | none => { s with modeOverride := none, modeOverrideReason := "" }
  | some (mode, reason) => { s with modeOverride := some mode, modeOverrideReason := reason }

/-- `set_trading_mode`.  An unsupported mode is refused with a `ValueError`, and a constraint
that is there already is left alone, except that the dead man's switch always counts. -/
def setTradingMode (s : GuardState) (mode : OMSCapabilityMode) (reason : String) : GuardState :=
  let key := modeConstraintKey reason
  if mode ∉ OMSCapabilityMode.overrides then s
  else if key ≠ "venue_dead_man_switch:" ∧ s.modeConstraints.get? key = some (mode, reason)
    then s
  else
    let generation := s.modeConstraintGeneration + 1
    (({ s with
        modeConstraintGeneration := generation
        modeConstraints := s.modeConstraints.set key (mode, reason)
        modeConstraintGenerations := s.modeConstraintGenerations.set key generation
        }).refreshSelected).audit (.modeSet mode.value reason key (some generation))

/-- The constraints `clear_trading_mode` takes away: by the beginning of their reasons, and
by their generations when these are given. -/
def matchingConstraints (s : GuardState) (heads : List String)
    (expectedGenerations : Option (Dict String ℤ)) : List String :=
  (s.modeConstraints.items.filter fun item =>
    decide (heads = []) || heads.any fun head => head.toList.isPrefixOf item.2.2.toList).map
      Prod.fst |>.filter fun key =>
        match expectedGenerations with
        | none => true
        | some expected =>
          (expected.get? key).isSome &&
            decide (s.modeConstraintGenerations.get? key = expected.get? key)

/-- `clear_trading_mode`. -/
def clearTradingMode (s : GuardState) (heads : List String)
    (expectedGenerations : Option (Dict String ℤ)) : GuardState :=
  match s.matchingConstraints heads expectedGenerations with
  | [] => s
  | keys =>
    let generations :=
      Dict.ofList (keys.map fun key => (key, s.modeConstraintGenerations.getD key 0))
    (({ s with
        modeConstraints := keys.foldl Dict.erase s.modeConstraints
        modeConstraintGenerations :=
          keys.foldl Dict.erase s.modeConstraintGenerations }).refreshSelected).audit
      (.modeCleared keys generations s.modeOverrideReason)

end GuardState

/-! ## Operations -/

/-- Everything that freezes, clears or constrains. -/
inductive GuardOp where
  | freezeSymbol (symbol reason : String)
  | clearSymbolFreeze (symbol : String) (expectedEpoch : Option ℤ)
      (expectedReason expectedOwner : String)
  | clearOrderbookFreeze (symbol recoveryToken : String)
  | freezeVenue (venue reason : String)
  | clearVenueFreeze (venue : String) (expectedEpoch : Option ℤ) (expectedReason : Option String)
      (expectedOwner : String)
  | freezeStrategy (strategyId reason symbol : String)
  | clearStrategyFreeze (strategyId symbol : String)
  | setTradingMode (mode : OMSCapabilityMode) (reason : String)
  | clearTradingMode (heads : List String) (expectedGenerations : Option (Dict String ℤ))
deriving DecidableEq

/-- One operation. -/
def GuardState.apply (s : GuardState) : GuardOp → GuardState
  | .freezeSymbol symbol reason => s.freezeSymbol symbol reason
  | .clearSymbolFreeze symbol expectedEpoch expectedReason expectedOwner =>
    s.clearSymbolFreeze symbol expectedEpoch expectedReason expectedOwner
  | .clearOrderbookFreeze symbol recoveryToken => s.clearOrderbookFreeze symbol recoveryToken
  | .freezeVenue venue reason => s.freezeVenue venue reason
  | .clearVenueFreeze venue expectedEpoch expectedReason expectedOwner =>
    s.clearVenueFreeze venue expectedEpoch expectedReason expectedOwner
  | .freezeStrategy strategyId reason symbol => s.freezeStrategy strategyId reason symbol
  | .clearStrategyFreeze strategyId symbol => s.clearStrategyFreeze strategyId symbol
  | .setTradingMode mode reason => s.setTradingMode mode reason
  | .clearTradingMode heads expectedGenerations => s.clearTradingMode heads expectedGenerations

end ChronosHFT.Oms
