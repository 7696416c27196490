import ChronosHFT.MarketData.OrderBook
import ChronosHFT.Lib.Run
import Mathlib.Data.Finset.Insert

/-!
# Book recovery

`BinanceOrderBookController` of `gateway/binance/book_controller.py` and `PaperBookSynchronizer`
of `gateway/binance/paper_book_sync.py`.  A book buffers the updates of its symbol until a
snapshot comes, and takes them as they come afterwards.  Where the sequence breaks, a recovery
begins with a token of its own: it has a new book, and a worker that fetches the snapshot.

The two differ in where a book is published: the live controller does it with the lock that it
computed the book under, the paper one takes the lock again.  The model is at the granularity of
this lock.  Whether a worker can be started, and whether it is told to stop, is left open; so is
when a fault or a shutdown begins another generation, and an exception may end a worker anywhere.
-/

namespace ChronosHFT.MarketData

inductive Controller
  | live
  | paper
  deriving DecidableEq

/-- A depth update with the time it came in. -/
structure BookMessage where
  delta : DepthDelta
  receipt : Receipt

/-- A book, and which object it is. -/
structure InstalledBook where
  object : ℕ
  book : LocalOrderBook := {}

structure RecoverySettings where
  book : BookSettings := {}
  maxBuffer : ℕ := 2048
  resyncMaxAttempts : ℕ := 3

/-- What the book lock protects. -/
structure Books where
  generation : ℕ := 0
  recoveryToken : ℕ := 0
  orderbooks : Dict String InstalledBook := ∅
  /-- The updates that wait for the snapshot, or `None` where there is none to wait for. -/
  buffers : Dict String (Option (List BookMessage)) := ∅
  resyncing : Finset String := ∅
  recoveryGenerations : Dict String ℕ := ∅
  recoveryTokens : Dict String ℕ := ∅
  /-- How many books were created. -/
  objects : ℕ := 0

namespace Books

variable (books : Books)

def generationMatches (expected : Option ℕ) : Bool := expected.all (books.generation == ·)

/-- `owns_recovery_locked`. -/
def ownsRecovery (symbol : String) (generation token : ℕ) : Bool :=
  books.generation = generation ∧ symbol ∈ books.resyncing ∧
    books.recoveryGenerations.get? symbol = some generation ∧
    books.recoveryTokens.get? symbol = some token

/-- A new book for a symbol, and nothing in its buffer. -/
def renew (symbol : String) : Books :=
  { books with
    orderbooks := books.orderbooks.set symbol { object := books.objects }
    buffers := books.buffers.set symbol (some [])
    objects := books.objects + 1 }

/-- `begin_recovery_locked`, which answers the token of the recovery. -/
def beginRecovery (symbol freezeReason : String) (expected : Option ℕ) : Books × Option ℕ :=
  if !books.generationMatches expected then (books, none)
  else if symbol ∈ books.resyncing ∧ freezeReason.isEmpty then (books, none)
  else
    let token := books.recoveryToken + 1
    let claimed : Books :=
      { books with
        recoveryToken := token
        resyncing := insert symbol books.resyncing
        recoveryGenerations := books.recoveryGenerations.set symbol books.generation
        recoveryTokens := books.recoveryTokens.set symbol token }
    (claimed.renew symbol, some token)

/-- `release_recovery_locked`. -/
def releaseRecovery (symbol : String) (generation token : ℕ) : Books × Bool :=
  if !books.ownsRecovery symbol generation token then (books, false)
  else
    ({ books with
        recoveryGenerations := books.recoveryGenerations.erase symbol
        recoveryTokens := books.recoveryTokens.erase symbol
        resyncing := books.resyncing.erase symbol }, true)

/-- `begin_shutdown_locked`, `invalidate_lifecycle`, and what a fault of the paper gateway does.
-/
def invalidate : Books :=
  { books with
    generation := books.generation + 1
    resyncing := ∅
    recoveryGenerations := ∅
    recoveryTokens := ∅ }

/-- `begin_generation_locked` of the live controller, `reset_books` of the paper one. -/
def reset (controller : Controller) (symbols : List String) : Books :=
  let cleared : Books :=
    match controller with
    | .live => books.invalidate
    | .paper => { books.invalidate with orderbooks := ∅, buffers := ∅ }
  symbols.foldl renew cleared

/-- Store what a method of a book made of it. -/
def store (symbol : String) (installed : InstalledBook) (book : LocalOrderBook) : Books :=
  { books with orderbooks := books.orderbooks.set symbol { installed with book } }

end Books

/-- Feed messages to a book, up to the first that is refused. -/
def LocalOrderBook.replay (cfg : BookSettings) :
    LocalOrderBook → List BookMessage → LocalOrderBook × Except BookFault Unit
  | book, [] => (book, .ok ())
  | book, message :: rest =>
    match book.processDelta cfg message.delta message.receipt with
    | (book, .ok ()) => replay cfg book rest
    | (book, .error fault) => (book, .error fault)

/-- The snapshot and the updates that waited for it. -/
def LocalOrderBook.synchronize (cfg : BookSettings) (book : LocalOrderBook)
    (snapshot : DepthSnapshot) (buffered : List BookMessage) :
    LocalOrderBook × Except BookFault Unit :=
  match book.initSnapshot cfg snapshot with
  | (book, .ok ()) => book.replay cfg buffered
  | (book, .error fault) => (book, .error fault)

/-! ## The system -/

/-- A book that the paper synchronizer computed and has not published yet.  `era` and `mark` are
for the proofs: the recovery it was computed in, and how many books of the symbol were published.
-/
structure Publication where
  symbol : String
  generation : ℕ
  object : ℕ
  token : Option ℕ
  event : OrderBookEvent
  lastUpdateId : ℕ
  era : Option ℕ
  mark : ℕ

inductive RecoveryStage
  /-- It is about to be launched. -/
  | begun
  | attempting (attempt : ℕ)
  /-- The live controller reports a resync that raised. -/
  | reporting (attempt : ℕ)
  | publishing (publication : Publication)
  /-- Its resync answered `False`. -/
  | failed (attempt : ℕ)
  /-- Its resync answered `True`. -/
  | synced
  /-- The `finally` block. -/
  | releasing

/-- A recovery that has something left to do. -/
structure BookRecovery where
  symbol : String
  generation : ℕ
  freezeReason : String
  stage : RecoveryStage

/-- What happened, for the claims about the order of it. -/
inductive Occurrence
  | advanced (generation : ℕ)
  | began (symbol : String) (token : ℕ)
  | published (symbol : String) (generation : ℕ) (era : Option ℕ) (lastUpdateId : ℕ)
      (event : OrderBookEvent)
  | resynced (symbol : String) (token : ℕ)
  | froze (symbol reason : String) (token : ℕ)
  | cleared (symbol : String) (token : ℕ)

/-- The newest first. -/
abbrev Trace := List Occurrence

namespace Trace

def generation : Trace → ℕ
  | [] => 0
  | .advanced generation :: _ => generation
  | _ :: past => generation past

/-- The last recovery of a symbol that began in this generation. -/
def era (symbol : String) : Trace → Option ℕ
  | [] => none
  | .advanced _ :: _ => none
  | .began symbol' token :: past => if symbol' = symbol then some token else era symbol past
  | _ :: past => era symbol past

/-- The ids that were published of a symbol since then. -/
def recent (symbol : String) : Trace → List ℕ
  | [] => []
  | .advanced _ :: _ => []
  | .began symbol' _ :: past => if symbol' = symbol then [] else recent symbol past
  | .published symbol' _ _ lastUpdateId _ :: past =>
    if symbol' = symbol then lastUpdateId :: recent symbol past else recent symbol past
  | _ :: past => recent symbol past

/-- How many books of a symbol were published. -/
def publications (symbol : String) : Trace → ℕ
  | [] => 0
  | .published symbol' _ _ _ _ :: past =>
    if symbol' = symbol then publications symbol past + 1 else publications symbol past
  | _ :: past => publications symbol past

end Trace

structure BookSystem where
  books : Books := {}
  /-- The recoveries under their tokens. -/
  recoveries : Dict ℕ BookRecovery := ∅
  /-- The paper books outside of a recovery that wait for the lock. -/
  publications : List Publication := []
  trace : Trace := []

/-- How the matching engine of the paper gateway takes a book. -/
inductive QueueReply
  | accepted
  | stopped
  /-- A full queue is a fault, which does nothing once the gateway closes. -/
  | full (closing : Bool)

/-- What a resync came to. -/
inductive ResyncResult
  | refused
  | failed
  | done
  | computed (publication : Publication)

namespace BookSystem

variable (controller : Controller) (cfg : RecoverySettings) (w : BookSystem)

def beginRecovery (symbol freezeReason : String) (expected : Option ℕ) : BookSystem :=
  match w.books.beginRecovery symbol freezeReason expected with
  | (books, some token) =>
    { w with
      books
      recoveries := w.recoveries.set token
        { symbol, generation := books.generation, freezeReason, stage := .begun }
      trace := .began symbol token :: w.trace }
  | (_, none) => w

def invalidate : BookSystem :=
  { w with
    books := w.books.invalidate
    trace := .advanced (w.books.generation + 1) :: w.trace }

/-- A book is put in the event engine. -/
def publishBook (symbol : String) (era : Option ℕ) (lastUpdateId : ℕ) :
    Option OrderBookEvent → BookSystem
  | none => w
  | some event =>
    { w with trace := .published symbol w.books.generation era lastUpdateId event :: w.trace }

/-- The book of a symbol, for the second critical section. -/
def publication (symbol : String) (installed : InstalledBook) (book : LocalOrderBook)
    (token : Option ℕ) (event : OrderBookEvent) : Publication where
  symbol := symbol
  generation := w.books.generation
  object := installed.object
  token := token
  event := event
  lastUpdateId := book.lastUpdateId
  era := token.or (w.trace.era symbol)
  mark := w.trace.publications symbol

/-! ## Updates -/

/-- `process_delta` of the live controller. -/
def processDeltaLive (symbol : String) (message : BookMessage) (expected : Option ℕ)
    (clock : ClockReading) : BookSystem :=
  if !w.books.generationMatches expected then w
  else
    let failure (w : BookSystem) := w.beginRecovery symbol "FATAL_GAP" expected
    match w.books.buffers.get? symbol, w.books.orderbooks.get? symbol with
    | some (some buffered), some _ =>
      match validateDeltaShape cfg.book.maxDeltaLevelsPerSide message.delta.bids
          message.delta.asks with
      | .error _ => failure w
      | .ok _ =>
        if cfg.maxBuffer ≤ buffered.length then failure w
        else { w with books := { w.books with
          buffers := w.books.buffers.set symbol (some (buffered ++ [message])) } }
    | some none, some installed =>
      match installed.book.processDelta cfg.book message.delta message.receipt with
      | (book, .error _) => failure { w with books := w.books.store symbol installed book }
      | (book, .ok ()) =>
        { w with books := w.books.store symbol installed book }.publishBook symbol
          (w.trace.era symbol) book.lastUpdateId (book.generateEventData cfg.book clock)
    | _, _ => failure w

/-- The first section of `process_delta` of the paper synchronizer.  Other failures than a gap
are reported as faults. -/
def processDeltaPaper (symbol : String) (message : BookMessage) (expected : Option ℕ)
    (clock : ClockReading) : BookSystem :=
  if !w.books.generationMatches expected then w
  else
    match w.books.buffers.get? symbol, w.books.orderbooks.get? symbol with
    | _, none => w
    | some (some buffered), some _ =>
      match validateDeltaShape cfg.book.maxDeltaLevelsPerSide message.delta.bids
          message.delta.asks with
      | .error _ => w
      | .ok _ =>
        if cfg.maxBuffer ≤ buffered.length then w
        else { w with books := { w.books with
          buffers := w.books.buffers.set symbol (some (buffered ++ [message])) } }
    | _, some installed =>
      match installed.book.processDelta cfg.book message.delta message.receipt with
      | (book, .error _) =>
        { w with books := w.books.store symbol installed book }.beginRecovery symbol "FATAL_GAP"
          (some w.books.generation)
      | (book, .ok ()) =>
        { w with
          books := w.books.store symbol installed book
          publications := w.publications ++
            ((book.generateEventData cfg.book clock).map
              (w.publication symbol installed book none)).toList }

def processDelta (symbol : String) (message : BookMessage) (expected : Option ℕ)
    (clock : ClockReading) : BookSystem :=
  match controller with
  | .live => w.processDeltaLive cfg symbol message expected clock
  | .paper => w.processDeltaPaper cfg symbol message expected clock

/-! ## The resync -/

/-- The updates that a resync replays.  The live controller is not asked twice. -/
def buffered (symbol : String) : Except ResyncResult (List BookMessage) :=
  match controller, w.books.buffers.get? symbol with
  | _, some (some buffered) => .ok buffered
  | .paper, _ => .ok []
  | .live, some none => .error .refused
  | .live, none => .error .failed

/-- `resync_book`, of the paper synchronizer up to where it leaves the lock. -/
def resyncBook (symbol : String) (expected : Option ℕ) (token : Option ℕ)
    (snapshot : Option DepthSnapshot) (clock : ClockReading) : BookSystem × ResyncResult :=
  match snapshot with
  | none => (w, .refused)
  | some snapshot =>
    if !w.books.generationMatches expected then (w, .refused)
    else if !token.all (w.books.ownsRecovery symbol w.books.generation ·) then (w, .refused)
    else
      match w.books.orderbooks.get? symbol, w.buffered controller symbol with
      | none, _ => (w, .failed)
      | some _, .error result => (w, result)
      | some installed, .ok buffered =>
        match installed.book.synchronize cfg.book snapshot buffered with
        | (book, .error _) =>
          ({ w with books := w.books.store symbol installed book }, .failed)
        | (book, .ok ()) =>
          let synced : BookSystem := { w with books :=
            { w.books.store symbol installed book with
              buffers := w.books.buffers.set symbol none } }
          let event := book.generateEventData cfg.book clock
          match controller, event with
          | .live, _ =>
            (synced.publishBook symbol (token.or (w.trace.era symbol)) book.lastUpdateId
              event, .done)
          | .paper, none => (synced, .done)
          | .paper, some event =>
            (synced, .computed (w.publication symbol installed book token event))

/-- A resync by `connect` or by the recovery of the transport. -/
def sync (symbol : String) (expected : Option ℕ) (snapshot : Option DepthSnapshot)
    (clock : ClockReading) : BookSystem :=
  match w.resyncBook controller cfg symbol expected none snapshot clock with
  | (w, .computed publication) => { w with publications := w.publications ++ [publication] }
  | (w, _) => w

/-! ## The second section of the paper synchronizer -/

/-- Is a computed book still the one of its symbol? -/
def accepts (publication : Publication) : Bool :=
  w.books.generation = publication.generation ∧
    (w.books.orderbooks.get? publication.symbol).map (·.object) = some publication.object ∧
    publication.token.all
      (w.books.ownsRecovery publication.symbol publication.generation ·) = true

/-- `publish_update`. -/
def publishUpdate (publication : Publication) (queue : QueueReply) : BookSystem × Bool :=
  if !w.accepts publication then (w, false)
  else
    match queue with
    | .accepted =>
      (w.publishBook publication.symbol publication.era publication.lastUpdateId
        publication.event, true)
    | .stopped => (w, false)
    | .full closing => (if closing then w else w.invalidate, false)

/-! ## A recovery -/

def setStage (token : ℕ) (recovery : BookRecovery) (stage : RecoveryStage) : BookSystem :=
  { w with recoveries := w.recoveries.set token { recovery with stage } }

def freeze (symbol reason : String) (token : ℕ) : BookSystem :=
  { w with trace := .froze symbol reason token :: w.trace }

/-- `launch_recovery`. -/
def launch (token : ℕ) (recovery : BookRecovery) (starts : Bool) : BookSystem :=
  let ended : BookSystem := { w with recoveries := w.recoveries.erase token }
  if !w.books.ownsRecovery recovery.symbol recovery.generation token then ended
  else
    let frozen (w : BookSystem) :=
      if recovery.freezeReason.isEmpty then w
      else w.freeze recovery.symbol recovery.freezeReason token
    if starts then frozen (w.setStage token recovery (.attempting 1)) else frozen ended

/-- What a worker meets in a step. -/
structure WorkerInput where
  stop : Bool
  snapshot : Option DepthSnapshot
  queue : QueueReply
  closing : Bool
  clock : ClockReading

/-- One step of `recover_orderbook`. -/
def advance (token : ℕ) (recovery : BookRecovery) (input : WorkerInput) : BookSystem :=
  match recovery.stage with
  | .begun => w
  | .attempting attempt =>
    -- the number of attempts is the bound of the loop of the live controller
    if input.stop ∨ controller = .live ∧ cfg.resyncMaxAttempts < attempt then
      w.setStage token recovery .releasing
    else
      match w.resyncBook controller cfg recovery.symbol (some recovery.generation) (some token)
          input.snapshot input.clock with
      | (w, .refused) => w.setStage token recovery (.failed attempt)
      | (w, .failed) =>
        w.setStage token recovery
          (match controller with
          | .live => .reporting attempt
          | .paper => .failed attempt)
      | (w, .done) =>
        { w.setStage token recovery .synced with
          trace := .resynced recovery.symbol token :: w.trace }
      | (w, .computed publication) => w.setStage token recovery (.publishing publication)
  | .reporting attempt =>
    if w.books.ownsRecovery recovery.symbol recovery.generation token then
      (w.setStage token recovery (.failed attempt)).freeze recovery.symbol
        "ORDERBOOK_RESYNC_FAILED" token
    else w.setStage token recovery (.failed attempt)
  | .publishing publication =>
    match w.publishUpdate publication input.queue with
    | (w, true) =>
      { w.setStage token recovery .synced with
        trace := .resynced recovery.symbol token :: w.trace }
    | (w, false) => w.setStage token recovery (.failed 1)
  | .failed attempt =>
    if !w.books.ownsRecovery recovery.symbol recovery.generation token then
      w.setStage token recovery .releasing
    else
      match controller with
      | .live =>
        if cfg.resyncMaxAttempts ≤ attempt then w.setStage token recovery .releasing
        else
          { w.setStage token recovery (.attempting (attempt + 1)) with
            books := w.books.renew recovery.symbol }
      | .paper =>
        (if input.closing then w else w.invalidate).setStage token recovery .releasing
  | .synced =>
    match w.books.releaseRecovery recovery.symbol recovery.generation token with
    | (books, true) =>
      { w.setStage token recovery .releasing with
        books
        trace := .cleared recovery.symbol token :: w.trace }
    | (_, false) => w.setStage token recovery .releasing
  | .releasing =>
    { w with
      books := (w.books.releaseRecovery recovery.symbol recovery.generation token).1
      recoveries := w.recoveries.erase token }

end BookSystem

/-! ## Steps -/

inductive BookStep
  | delta (symbol : String) (message : BookMessage) (expected : Option ℕ) (clock : ClockReading)
  | sync (symbol : String) (expected : Option ℕ) (snapshot : Option DepthSnapshot)
      (clock : ClockReading)
  | schedule (symbol freezeReason : String) (expected : Option ℕ)
  | launch (token : ℕ) (starts : Bool)
  | advance (token : ℕ) (input : BookSystem.WorkerInput)
  /-- An exception in a worker: it goes to the `finally` block. -/
  | abandon (token : ℕ)
  | publish (index : ℕ) (queue : QueueReply)
  | reset (symbols : List String)
  | invalidate

def bookStep (controller : Controller) (cfg : RecoverySettings) (w : BookSystem) :
    BookStep → Option BookSystem
  | .delta symbol message expected clock =>
    some (w.processDelta controller cfg symbol message expected clock)
  | .sync symbol expected snapshot clock =>
    some (w.sync controller cfg symbol expected snapshot clock)
  | .schedule symbol freezeReason expected => some (w.beginRecovery symbol freezeReason expected)
  | .launch token starts =>
    match w.recoveries.get? token with
    | some recovery =>
      match recovery.stage with
      | .begun => some (w.launch token recovery starts)
      | _ => none
    | none => none
  | .advance token input =>
    (w.recoveries.get? token).map fun recovery => w.advance controller cfg token recovery input
  | .abandon token =>
    (w.recoveries.get? token).map fun recovery => w.setStage token recovery .releasing
  | .publish index queue =>
    w.publications[index]?.map fun publication =>
      ({ w with publications := w.publications.eraseIdx index }.publishUpdate publication
        queue).1
  | .reset symbols =>
    some { w with
      books := w.books.reset controller symbols
      trace := .advanced (w.books.generation + 1) :: w.trace }
  | .invalidate => some w.invalidate

end ChronosHFT.MarketData
