import ChronosHFT.Lib.Dict

/-!
# The local order book

`LocalOrderBook` of `data/orderbook.py`: the levels of both sides, which a snapshot sets and a
depth update of the venue changes.  An update names the ids it covers, first and last, and the
last id of the update before it.  The first update after a snapshot has to reach over the id of
the snapshot; every later one has to follow on the one before.

A number of a level is a rational, or none where the text is not a finite number.  The reasons of
a refusal are named, not spelled. -/

namespace ChronosHFT.MarketData

/-! ## Levels -/

inductive BookKind
  | bid
  | ask
  deriving DecidableEq, Repr

/-- Price and quantity, by price. -/
abbrev Levels := Dict ℚ ℚ

/-- One level of a message. -/
inductive RawLevel
  /-- Fewer than two values. -/
  | short
  | level (price quantity : Option ℚ)
  deriving DecidableEq, Repr

/-- Why a message is refused. -/
inductive BookFault
  | shape
  | levelCapacity
  | level
  | sequence
  | gap
  | sideEmpty
  | crossed
  | bookCapacity
  deriving DecidableEq, Repr

/-- One level of `_parse_levels`. -/
def parseLevel (keepZero : Bool) (levels : Levels) : RawLevel → Except BookFault Levels
  | .level (some price) (some quantity) =>
    if price ≤ 0 ∨ quantity < 0 then .error .level
    else if 0 < quantity ∨ keepZero then .ok (levels.set price quantity)
    else .ok levels
  | _ => .error .level

/-- `_parse_levels`. -/
def parseLevels (keepZero : Bool) (entries : List RawLevel) : Except BookFault Levels :=
  entries.foldlM (parseLevel keepZero) ∅

/-- One side of `validate_delta_shape`: a list that is not too long. -/
def checkShape (limit : ℕ) : Option (List RawLevel) → Except BookFault (List RawLevel)
  | none => .error .shape
  | some entries => if limit < entries.length then .error .levelCapacity else .ok entries

/-- `validate_delta_shape`. -/
def validateDeltaShape (limit : ℕ) (bids asks : Option (List RawLevel)) :
    Except BookFault (List RawLevel × List RawLevel) :=
  (checkShape limit bids).bind fun bids => (checkShape limit asks).map fun asks => (bids, asks)

/-! ## The book -/

/-- The settings of a book. -/
structure BookSettings where
  publishDepthLevels : ℕ+ := 5
  emitFullBook : Bool := false
  maxLevelsPerSide : ℕ+ := 4096
  maxDeltaLevelsPerSide : ℕ+ := 2048

/-- One side: its levels, its best one, and those that are published. -/
structure BookSide where
  levels : Levels := ∅
  bestPrice : ℚ := 0
  bestVolume : ℚ := 0
  top : List (ℚ × ℚ) := []

/-- The times of a message: when it came, and the offset of the local clock. -/
structure Receipt where
  timestamp : ℚ
  monotonic : ℚ
  clockOffsetMs : Option ℚ := none
  correctedTimestamp : Option ℚ := none

/-- The time of receipt on the clock of the venue, 0 where it is not known. -/
def Receipt.corrected (receipt : Receipt) : ℚ :=
  match receipt.correctedTimestamp, receipt.clockOffsetMs with
  | some corrected, _ => corrected
  | none, some offset => receipt.timestamp + offset / 1000
  | none, none => 0

structure LocalOrderBook where
  bids : BookSide := {}
  asks : BookSide := {}
  lastUpdateId : ℕ := 0
  initialized : Bool := false
  awaitingFirstDelta : Bool := true
  lastExchangeTs : ℚ := 0
  lastReceivedTs : ℚ := 0
  lastReceivedMonotonic : ℚ := 0
  lastClockOffsetMs : Option ℚ := none
  lastCorrectedReceivedTs : ℚ := 0

namespace BookKind

/-- Is the first price further to the front than the second? -/
def ahead : BookKind → ℚ → ℚ → Bool
  | .bid, price, other => other ≤ price
  | .ask, price, other => price ≤ other

/-- The best of some prices: `max` of the bids, `min` of the asks. -/
def best? (kind : BookKind) : List ℚ → Option ℚ
  | [] => none
  | price :: rest =>
    some (rest.foldl (fun found next => if kind.ahead found next then found else next) price)

/-- Does a new quantity at a price change the best level?  No ask is 0. -/
def takesLead : BookKind → ℚ → ℚ → Bool
  | .bid, price, best => best ≤ price
  | .ask, price, best => best = 0 ∨ price ≤ best

/-- Was a level that is removed the best one? -/
def wasLead : BookKind → ℚ → ℚ → Bool
  | .bid, price, best => price = best
  | .ask, price, best => best = 0 ∨ price = best

/-- `_recompute_published_bid_levels` and `_recompute_published_ask_levels`. -/
def publish (cfg : BookSettings) (kind : BookKind) (side : BookSide) : BookSide :=
  { side with
    top := (side.levels.items.mergeSort fun a b =>
      kind.ahead a.1 b.1).take cfg.publishDepthLevels }

/-- `_recompute_best_bid` and `_recompute_best_ask`. -/
def recomputeBest (kind : BookKind) (side : BookSide) : BookSide :=
  match kind.best? side.levels.keys with
  | none => { side with bestPrice := 0, bestVolume := 0 }
  | some price => { side with bestPrice := price, bestVolume := side.levels.getD price 0 }

/-- `_level_frontier_impacted`. -/
def frontierImpacted (cfg : BookSettings) (kind : BookKind) (price : ℚ) (top : List (ℚ × ℚ)) :
    Bool :=
  cfg.emitFullBook ||
    match top.getLast? with
    | none => true
    | some (frontier, _) =>
      price ∈ top.map Prod.fst ∨ top.length < (cfg.publishDepthLevels : ℕ) ∨
        kind.ahead price frontier

/-- `_apply_bid_update` and `_apply_ask_update`, with the flag of the published levels. -/
def applyUpdate (cfg : BookSettings) (kind : BookKind) (found : BookSide × Bool)
    (update : ℚ × ℚ) :
    BookSide × Bool :=
  let (side, dirty) := found
  let (price, quantity) := update
  let dirty := dirty || kind.frontierImpacted cfg price side.top
  if quantity = 0 then
    if side.levels.contains price then
      let removed := { side with levels := side.levels.erase price }
      (if kind.wasLead price side.bestPrice then kind.recomputeBest removed else removed, dirty)
    else (side, dirty)
  else
    let stored := { side with levels := side.levels.set price quantity }
    (if kind.takesLead price side.bestPrice then
        { stored with bestPrice := price, bestVolume := quantity }
      else stored, dirty)

/-- All updates of a side. -/
def applyUpdates (cfg : BookSettings) (kind : BookKind) (side : BookSide) (updates : Levels) :
    BookSide × Bool :=
  updates.items.foldl (kind.applyUpdate cfg) (side, false)

end BookKind

/-- `_validate_book`. -/
def validateBook (bids asks : Levels) : Except BookFault Unit :=
  match BookKind.bid.best? bids.keys, BookKind.ask.best? asks.keys with
  | some bestBid, some bestAsk => if bestAsk ≤ bestBid then .error .crossed else .ok ()
  | _, _ => .error .sideEmpty

/-! ## Snapshots and updates -/

/-- A snapshot of the venue. -/
structure DepthSnapshot where
  bids : Option (List RawLevel)
  asks : Option (List RawLevel)
  lastUpdateId : Option ℤ

/-- A depth update of the venue, with its event time and transaction time, 0 where missing. -/
structure DepthDelta where
  firstId : Option ℤ
  finalId : Option ℤ
  previousFinalId : Option ℤ
  bids : Option (List RawLevel)
  asks : Option (List RawLevel)
  eventMs : ℚ := 0
  transactionMs : ℚ := 0

/-- `_extract_exchange_ts`. -/
def DepthDelta.exchangeTs (delta : DepthDelta) : ℚ :=
  (if delta.eventMs ≠ 0 then delta.eventMs else delta.transactionMs) / 1000

namespace LocalOrderBook

/-- What a snapshot holds: the levels of both sides, and its id. -/
def readSnapshot (cfg : BookSettings) (snapshot : DepthSnapshot) :
    Except BookFault (Levels × Levels × ℕ) := do
  let (rawBids, rawAsks) ← validateDeltaShape cfg.maxLevelsPerSide snapshot.bids snapshot.asks
  let bids ← parseLevels false rawBids
  let asks ← parseLevels false rawAsks
  match snapshot.lastUpdateId with
  | some (.ofNat id) => do
      validateBook bids asks
      return (bids, asks, id)
  | _ => .error .sequence

/-- `init_snapshot`. -/
def initSnapshot (cfg : BookSettings) (book : LocalOrderBook) (snapshot : DepthSnapshot) :
    LocalOrderBook × Except BookFault Unit :=
  match readSnapshot cfg snapshot with
  | .error fault => ({ book with initialized := false }, .error fault)
  | .ok (bids, asks, id) =>
    ({ book with
        bids := BookKind.bid.publish cfg
          (BookKind.bid.recomputeBest { book.bids with levels := bids })
        asks := BookKind.ask.publish cfg
          (BookKind.ask.recomputeBest { book.asks with levels := asks })
        lastUpdateId := id
        initialized := true
        awaitingFirstDelta := true }, .ok ())

/-- What an update holds. -/
structure ParsedDelta where
  firstId : ℕ
  finalId : ℕ
  previousFinalId : ℕ
  bids : Levels
  asks : Levels

/-- The checks that come before the book is looked at. -/
def readDelta (cfg : BookSettings) (delta : DepthDelta) : Except BookFault ParsedDelta := do
  let (rawBids, rawAsks) ← validateDeltaShape cfg.maxDeltaLevelsPerSide delta.bids delta.asks
  match delta.finalId, delta.firstId, delta.previousFinalId with
  | some u, some (.ofNat first), some (.ofNat previous) =>
    if u < first then .error .sequence
    else do
      let bids ← parseLevels true rawBids
      let asks ← parseLevels true rawAsks
      return ⟨first, u.toNat, previous, bids, asks⟩
  | _, _, _ => .error .sequence

/-- Does an update follow on what the book holds? -/
def sequenceValid (book : LocalOrderBook) (delta : ParsedDelta) : Bool :=
  if book.awaitingFirstDelta then
    -- the first one bridges two streams, and only has to reach over the id of the snapshot
    delta.previousFinalId = book.lastUpdateId ∨
      (delta.firstId ≤ book.lastUpdateId ∧ book.lastUpdateId ≤ delta.finalId)
  else delta.previousFinalId = book.lastUpdateId

/-- `_reject_integrity`. -/
def reject (book : LocalOrderBook) (fault : BookFault) :
    LocalOrderBook × Except BookFault Unit :=
  ({ book with initialized := false }, .error fault)

/-- The book with the levels of an update. -/
def applyLevels (cfg : BookSettings) (book : LocalOrderBook) (delta : ParsedDelta) :
    LocalOrderBook × Bool × Bool :=
  let (bids, bidsDirty) := BookKind.bid.applyUpdates cfg book.bids delta.bids
  let (asks, asksDirty) := BookKind.ask.applyUpdates cfg book.asks delta.asks
  ({ book with
      bids := bids
      asks := asks }, bidsDirty, asksDirty)

/-- `process_delta`. -/
def processDelta (cfg : BookSettings) (book : LocalOrderBook) (delta : DepthDelta)
    (receipt : Receipt) : LocalOrderBook × Except BookFault Unit :=
  match readDelta cfg delta with
  | .error fault => book.reject fault
  | .ok parsed =>
    if book.initialized = false then (book, .ok ())
    else if parsed.finalId < book.lastUpdateId then (book, .ok ())
    else if book.sequenceValid parsed = false then book.reject .gap
    else
      let (applied, bidsDirty, asksDirty) := book.applyLevels cfg parsed
      if (cfg.maxLevelsPerSide : ℕ) < applied.bids.levels.keys.length ∨
          (cfg.maxLevelsPerSide : ℕ) < applied.asks.levels.keys.length then
        applied.reject .bookCapacity
      else
        let published :=
          { applied with
            bids := if bidsDirty then BookKind.bid.publish cfg applied.bids else applied.bids
            asks := if asksDirty then BookKind.ask.publish cfg applied.asks else applied.asks }
        match validateBook published.bids.levels published.asks.levels with
        | .error fault => published.reject fault
        | .ok () =>
          ({ published with
              lastUpdateId := parsed.finalId
              awaitingFirstDelta := false
              lastExchangeTs := delta.exchangeTs
              lastReceivedTs := receipt.timestamp
              lastReceivedMonotonic := receipt.monotonic
              lastClockOffsetMs := receipt.clockOffsetMs
              lastCorrectedReceivedTs := receipt.corrected }, .ok ())

end LocalOrderBook

/-! ## What is published -/

/-- The clocks of the process. -/
structure ClockReading where
  timestamp : ℚ
  monotonic : ℚ

/-- The book as it is put in the event engine. -/
structure OrderBookEvent where
  bids : Levels
  asks : Levels
  topBids : List (ℚ × ℚ)
  topAsks : List (ℚ × ℚ)
  exchangeTimestamp : ℚ
  receivedTimestamp : ℚ
  receivedMonotonic : ℚ
  dispatch : ClockReading
  clockOffsetMs : Option ℚ
  correctedReceivedTimestamp : ℚ
  bestBid : ℚ × ℚ
  bestAsk : ℚ × ℚ
  depthLevels : ℕ

/-- `generate_event_data`. -/
def LocalOrderBook.generateEventData (cfg : BookSettings) (book : LocalOrderBook)
    (clock : ClockReading) :
    Option OrderBookEvent :=
  if book.initialized = false then none
  else
    let received := if book.lastReceivedTs ≠ 0 then book.lastReceivedTs else clock.timestamp
    let monotonic :=
      if book.lastReceivedMonotonic ≠ 0 then book.lastReceivedMonotonic else clock.monotonic
    let corrected := match book.lastClockOffsetMs with
      | some offset =>
        if book.lastCorrectedReceivedTs ≠ 0 then book.lastCorrectedReceivedTs
        else received + offset / 1000
      | none => book.lastCorrectedReceivedTs
    let publishedLevels (side : BookSide) : Levels :=
      if cfg.emitFullBook then side.levels else Dict.ofList side.top
    let bids := publishedLevels book.bids
    let asks := publishedLevels book.asks
    some
      { bids, asks
        topBids := book.bids.top
        topAsks := book.asks.top
        exchangeTimestamp := book.lastExchangeTs
        receivedTimestamp := received
        receivedMonotonic := monotonic
        dispatch := clock
        clockOffsetMs := book.lastClockOffsetMs
        correctedReceivedTimestamp := corrected
        bestBid := (book.bids.bestPrice, book.bids.bestVolume)
        bestAsk := (book.asks.bestPrice, book.asks.bestVolume)
        depthLevels :=
          if cfg.emitFullBook then max bids.items.length asks.items.length
          else max book.bids.top.length book.asks.top.length }

end ChronosHFT.MarketData
