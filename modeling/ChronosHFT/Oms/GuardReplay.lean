import ChronosHFT.Oms.Guards

/-!
# Guards after a restart

The guard half of `rebuild_from_log` and of `_apply_rebuild_summary`.  The replay reads the
guard records one after the other into a summary, and the summary is then turned into the
guard state of the new process.

The replay is written for journals of every age: a record without an owner, an epoch or a
generation is given one, and a clear without an owner takes away what its reason and epoch
match.  The guard of a strategy on one symbol is kept in the summary under the text
`strategy|symbol` and split again when the summary is applied.
-/

namespace ChronosHFT.Oms

/-- What the replay refuses. -/
inductive GuardReplayError where
  /-- `Non-monotonic mode constraint generation at journal record {index}: {new}<={current}` -/
  | nonMonotonicGeneration (generation current : ℤ)
  /-- `OMSCapabilityMode(text)` of an unknown mode. -/
  | unknownMode (text : String)
deriving DecidableEq, Repr

/-- The guards of one family in the summary. -/
structure ReplayBook where
  guards : Dict String String := ∅
  records : Dict String GuardOwners := ∅
  counters : Dict String ℤ := ∅
deriving DecidableEq

/-- A mode constraint in the summary. -/
structure ModeEntry where
  mode : String
  reason : String
  generation : ℤ
deriving DecidableEq, Repr

/-- The guard fields of the summary of `rebuild_from_log`. -/
structure GuardSummary where
  symbols : ReplayBook := {}
  venues : ReplayBook := {}
  strategyGuards : Dict String String := ∅
  strategySymbolGuards : Dict String String := ∅
  modeOverride : String := ""
  modeOverrideReason : String := ""
  modeConstraintGeneration : ℤ := 0
  modeConstraints : Dict String ModeEntry := ∅
deriving DecidableEq

namespace ReplayBook

/-- Keep the guards of a name, or drop the name when none is left. -/
def putOwners (book : ReplayBook) (name : String) (owners : GuardOwners) : ReplayBook :=
  match newest owners with
  | some entry =>
    { book with
      records := book.records.set name owners
      guards := book.guards.set name entry.reason }
  | none =>
    { book with
      records := book.records.erase name
      guards := book.guards.erase name }

/-- `symbol_frozen`, `symbol_freeze_reasserted` and the same for venues. -/
def onFrozen (book : ReplayBook) (family : GuardFamily) (name reason owner : String)
    (epoch : ℤ) : ReplayBook :=
  let name := name.toUpper
  if name = "" ∨ reason = "" then book
  else
    let owner := orElse owner (guardOwner family reason)
    let counter := book.counters.getD name 0
    let epoch := if epoch ≤ 0 then counter + 1 else epoch
    let book := { book with counters := book.counters.set name (max epoch counter) }
    let owners := book.records.getD name ∅
    let existing := ((owners.get? owner).map GuardEntry.epoch).getD 0
    book.putOwners name (if existing ≤ epoch then owners.set owner ⟨reason, epoch⟩ else owners)

/-- The guards a clear leaves of those of a name. -/
def leftBy (owners : GuardOwners) (owner previousReason : String) (epoch : ℤ) : GuardOwners :=
  if owner ≠ "" then
    match owners.get? owner with
    | none => owners
    | some entry =>
      if (epoch ≤ 0 ∨ entry.epoch = epoch) ∧
          (previousReason = "" ∨ entry.reason = previousReason) then
        owners.erase owner
      else owners
  else if previousReason ≠ "" then
    (owners.items.filter fun p =>
      decide (p.2.reason = previousReason ∧ (epoch ≤ 0 ∨ p.2.epoch = epoch))).foldl
        (fun left p => left.erase p.1) owners
  -- Journals written before guards had owners.
  else ∅

/-- `symbol_unfrozen`, `symbol_guard_cleared` and the same for venues. -/
def onCleared (book : ReplayBook) (name owner previousReason : String) (epoch : ℤ) :
    ReplayBook :=
  let name := name.toUpper
  if name = "" then book
  else book.putOwners name (leftBy (book.records.getD name ∅) owner previousReason epoch)

end ReplayBook

namespace GuardSummary

/-- `f"{strategy_id}|{symbol}"`. -/
def pairKey (strategyId symbol : String) : String :=
  strategyId ++ String.singleton '|' ++ symbol

/-- A record of one family of guards. -/
def onBook (summary : GuardSummary) (family : GuardFamily) (f : ReplayBook → ReplayBook) :
    GuardSummary :=
  match family with
  | .symbol => { summary with symbols := f summary.symbols }
  | .venue => { summary with venues := f summary.venues }

/-- `strategy_frozen` and `strategy_freeze_reasserted`. -/
def onStrategyFrozen (summary : GuardSummary) (strategyId symbol reason : String) :
    GuardSummary :=
  let strategyId := Text.strip strategyId
  let symbol := symbol.toUpper
  if strategyId = "" ∨ reason = "" then summary
  else if symbol ≠ "" then
    { summary with
      strategySymbolGuards :=
        summary.strategySymbolGuards.set (pairKey strategyId symbol) reason }
  else { summary with strategyGuards := summary.strategyGuards.set strategyId reason }

/-- `strategy_symbol_frozen`. -/
def onStrategySymbolFrozen (summary : GuardSummary) (strategyId symbol reason : String) :
    GuardSummary :=
  let strategyId := Text.strip strategyId
  let symbol := symbol.toUpper
  if strategyId = "" ∨ symbol = "" ∨ reason = "" then summary
  else
    { summary with
      strategySymbolGuards :=
        summary.strategySymbolGuards.set (pairKey strategyId symbol) reason }

/-- `strategy_unfrozen`. -/
def onStrategyUnfrozen (summary : GuardSummary) (strategyId symbol : String) : GuardSummary :=
  let strategyId := Text.strip strategyId
  let symbol := symbol.toUpper
  if strategyId ≠ "" ∧ symbol ≠ "" then
    { summary with
      strategySymbolGuards := summary.strategySymbolGuards.erase (pairKey strategyId symbol) }
  else if strategyId ≠ "" then
    { summary with strategyGuards := summary.strategyGuards.erase strategyId }
  else summary

/-- `trading_mode_override_set`. -/
def onModeSet (summary : GuardSummary) (mode reason constraintKey : String)
    (generation : Option ℤ) : Except GuardReplayError GuardSummary :=
  let key := orElse constraintKey (GuardState.modeConstraintKey reason)
  let current := summary.modeConstraintGeneration
  let summary := { summary with modeOverride := mode, modeOverrideReason := reason }
  if mode = "" ∨ reason = "" then .ok summary
  else
    let next := generation.getD (current + 1)
    if next ≤ current then .error (.nonMonotonicGeneration next current)
    else
      .ok { summary with
        modeConstraintGeneration := next
        modeConstraints := summary.modeConstraints.set key ⟨mode, reason, next⟩ }

/-- Take away a constraint, unless it is of another generation than the one cleared. -/
def clearConstraint (generations : Dict String ℤ) (constraints : Dict String ModeEntry)
    (key : String) : Dict String ModeEntry :=
  match generations.get? key, constraints.get? key with
  | some expected, some current =>
    if current.generation ≠ expected then constraints else constraints.erase key
  | _, _ => constraints.erase key

/-- The stricter of two constraints, the later key among equals; an unknown mode has no
rank. -/
def stricterOf (best : Option (String × ModeEntry)) (item : String × ModeEntry) :
    Except GuardReplayError (Option (String × ModeEntry)) :=
  match OMSCapabilityMode.ofValue? item.2.mode with
  | none => .error (.unknownMode item.2.mode)
  | some mode =>
    match best with
    | none => .ok (some item)
    | some kept =>
      let keptRank := ((OMSCapabilityMode.ofValue? kept.2.mode).map
        OMSCapabilityMode.rank).getD 0
      if keptRank < mode.rank ∨ (keptRank = mode.rank ∧ kept.1 < item.1) then .ok (some item)
      else .ok (some kept)

/-- `max(constraints, key=(rank, key))` of the summary. -/
def strictestEntry (constraints : Dict String ModeEntry) :
    Except GuardReplayError (Option (String × ModeEntry)) :=
  constraints.items.foldlM stricterOf none

/-- `trading_mode_override_cleared`. -/
def onModeCleared (summary : GuardSummary) (keys : List String) (generations : Dict String ℤ)
    (previousReason : String) : Except GuardReplayError GuardSummary := do
  let constraints :=
    if keys ≠ [] then keys.foldl (clearConstraint generations) summary.modeConstraints
    else if previousReason ≠ "" then
      summary.modeConstraints.erase (GuardState.modeConstraintKey previousReason)
    else ∅
  match ← strictestEntry constraints with
  | none =>
    .ok { summary with
      modeConstraints := constraints, modeOverride := "", modeOverrideReason := "" }
  | some (_, entry) =>
    .ok { summary with
      modeConstraints := constraints
      modeOverride := entry.mode
      modeOverrideReason := entry.reason }

/-- One guard record. -/
def step (summary : GuardSummary) : GuardRecord → Except GuardReplayError GuardSummary
  | .frozen family _ name reason owner epoch =>
    .ok (summary.onBook family fun book => book.onFrozen family name reason owner epoch)
  | .cleared family _ name owner previousReason epoch =>
    .ok (summary.onBook family fun book => book.onCleared name owner previousReason epoch)
  | .staleIgnored _ _ => .ok summary
  | .strategyFrozen _ strategyId symbol reason =>
    .ok (summary.onStrategyFrozen strategyId symbol reason)
  | .strategySymbolFrozen strategyId symbol reason =>
    .ok (summary.onStrategySymbolFrozen strategyId symbol reason)
  | .strategyUnfrozen strategyId symbol => .ok (summary.onStrategyUnfrozen strategyId symbol)
  | .modeSet mode reason constraintKey generation =>
    summary.onModeSet mode reason constraintKey generation
  | .modeCleared keys generations previousReason =>
    summary.onModeCleared keys generations previousReason

/-- The guard records of a journal, oldest first. -/
def replay (journal : List GuardRecord) : Except GuardReplayError GuardSummary :=
  journal.foldlM step {}

end GuardSummary

/-! ## Applying the summary -/

namespace ReplayBook

/-- The guards of a name as `_apply_rebuild_summary` takes them over. -/
def restoreOwners (family : GuardFamily) (owners : GuardOwners) : GuardOwners :=
  Dict.ofList (owners.items.filterMap fun p =>
    if p.2.reason = "" then none
    else some (orElse p.1 (guardOwner family p.2.reason), ⟨p.2.reason, max 1 p.2.epoch⟩))

/-- One name of the summary. -/
def restoreName (family : GuardFamily) (book : GuardBook) (item : String × GuardOwners) :
    GuardBook :=
  let name := item.1.toUpper
  let owners := restoreOwners family item.2
  if name = "" ∨ owners.isEmpty then book
  else
    { book with
      counters :=
        book.counters.set name ((owners.values.map GuardEntry.epoch).foldl max 1) }.putOwners
          name owners

/-- A name whose reason is known and whose owners are not. -/
def restoreLegacy (family : GuardFamily) (book : GuardBook) (item : String × String) :
    GuardBook :=
  if book.records.contains item.1 then book
  else
    { book with counters := book.counters.set item.1 1 }.putOwners item.1
      ((∅ : GuardOwners).set (guardOwner family item.2) ⟨item.2, 1⟩)

/-- The reasons of the summary that name something. -/
def legacyGuards (book : ReplayBook) : Dict String String :=
  Dict.ofList (book.guards.items.filterMap fun p =>
    if Text.strip p.1 = "" ∨ p.2 = "" then none else some (p.1.toUpper, p.2))

/-- The guards of one family after the restart. -/
def restore (family : GuardFamily) (book : ReplayBook) : GuardBook :=
  book.legacyGuards.items.foldl (restoreLegacy family)
    (book.records.items.foldl (restoreName family) {})

end ReplayBook

namespace GuardSummary

/-- The pairs `_apply_rebuild_summary` splits the summary's texts into. -/
def restorePairs (guards : Dict String String) : Dict (String × String) String :=
  Dict.ofList (guards.items.filterMap fun p =>
    (Text.partition '|' p.1).map fun pair => (pair, p.2))

/-- One constraint of the summary; an unknown mode or an empty reason is passed over. -/
def restoreConstraint (s : GuardState) (item : String × ModeEntry) : GuardState :=
  if item.2.mode = "" ∨ item.2.reason = "" then s
  else
    match OMSCapabilityMode.ofValue? item.2.mode with
    | none => s
    | some mode =>
      let generation := max 1 item.2.generation
      { s with
        modeConstraints := s.modeConstraints.set item.1 (mode, item.2.reason)
        modeConstraintGenerations := s.modeConstraintGenerations.set item.1 generation
        modeConstraintGeneration := max s.modeConstraintGeneration generation }

/-- An override without a constraint, as earlier versions journaled it. -/
def restoreOverride (summary : GuardSummary) (s : GuardState) : GuardState :=
  if s.modeConstraints.isEmpty = true ∧ summary.modeOverride ≠ "" ∧
      summary.modeOverrideReason ≠ "" then
    match OMSCapabilityMode.ofValue? summary.modeOverride with
    | none => s
    | some mode =>
      let key := GuardState.modeConstraintKey summary.modeOverrideReason
      let generation := s.modeConstraintGeneration + 1
      { s with
        modeConstraintGeneration := generation
        modeConstraints := s.modeConstraints.set key (mode, summary.modeOverrideReason)
        modeConstraintGenerations := s.modeConstraintGenerations.set key generation }
  else s

/-- The guard part of `_apply_rebuild_summary`, on the state of the new process. -/
def applyTo (summary : GuardSummary) (s : GuardState) : GuardState :=
  let cleared : GuardState :=
    { s with
      symbols := summary.symbols.restore .symbol
      venues := summary.venues.restore .venue
      strategyGuards := summary.strategyGuards
      strategySymbolGuards := restorePairs summary.strategySymbolGuards
      modeConstraints := ∅
      modeConstraintGenerations := ∅
      modeConstraintGeneration := max 0 summary.modeConstraintGeneration }
  (summary.restoreOverride
    (summary.modeConstraints.items.foldl restoreConstraint cleared)).refreshSelected

end GuardSummary

end ChronosHFT.Oms
