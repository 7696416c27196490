import ChronosHFT.Lib.Section
import ChronosHFT.Lib.Run

/-!
# The transport of the gateway

`gateway/binance/connection_controller.py`, with the faults and messages of `gateway.py` and
`websocket_dispatcher.py` and the key of `user_stream.py`.  A connection is a generation:
`connect` and `recover` begin a new one, create a websocket for it, install it, start its
streams, and set the gateway `READY` when the books are in sync.  They take the transport lock
and drop it many times; in between faults and messages of any generation come, and the shutdown.

The model is at the granularity of that lock.  A `Section` is what runs with the lock held, a
call outside of it is a step of its own, and every dependency may answer `False` or raise.  The
books themselves are left out: with the lock held they tell what a message tells, and change
nothing here. -/

namespace ChronosHFT.Transport

open Section

/-! ## The gateway -/

inductive GatewayState
  | disconnected
  | connecting
  | ready
  | error
  deriving DecidableEq

def GatewayState.value : GatewayState → String
  | .disconnected => "DISCONNECTED"
  | .connecting => "CONNECTING"
  | .ready => "READY"
  | .error => "ERROR"

/-- A websocket: which one it is, and the generation that its callbacks carry. -/
structure WebSocket where
  id : ℕ
  generation : ℕ
  deriving DecidableEq

/-- What is put in the event engine.  An update is of an order, of the account or of the market.
-/
inductive Event (Update : Type)
  | log (text : String)
  | health (text : String)
  | update (update : Update)
  deriving DecidableEq

/-- What the transport lock protects.  `stateSets` is a trace: the states set so far. -/
structure Gateway (Update : Type) where
  active : Bool := false
  closing : Bool := false
  ws : Option WebSocket := none
  symbols : List String := []
  generation : ℕ := 0
  keepAliveGeneration : ℕ := 0
  state : GatewayState := .disconnected
  events : List (Event Update) := []
  stateSets : List GatewayState := []
  deriving DecidableEq

/-- The code that the transport calls. -/
inductive Dependency
  | onLog | emitHealth | logInfo | logWarning | logError
  | beginGeneration | invalidateUserStream | beginBookShutdown
  | applyAccountConfiguration | createWs | waitUntilConnected | resyncBook
  | closeWs | closeOldWs | closeRejectedWs
  | startMarketStream | createListenKey | startUserStream | startKeepAlive
  | readContext | publishUpdate
  deriving DecidableEq

/-- What each of these calls does in one step. -/
abbrev Replies := Dependency → Reply

/-- Whose recovery it is. -/
structure RecoveryContext where
  owner : String
  epoch : ℤ
  deriving DecidableEq

variable {Update : Type} (venue : String) (replies : Replies)

def emit (event : Event Update) (gateway : Gateway Update) : Gateway Update :=
  { gateway with events := gateway.events ++ [event] }

def generationMatches (gateway : Gateway Update) (expected : Option ℕ) : Bool :=
  expected.all (gateway.generation == ·)

/-- `owns_lifecycle_locked`. -/
def ownsLifecycle (gateway : Gateway Update) (generation : ℕ)
    (expectedWs : Option WebSocket) : Bool :=
  !gateway.closing && gateway.active && generationMatches gateway (some generation) &&
    (expectedWs.isNone || gateway.ws == expectedWs)

/-- The state is assigned before it is logged. -/
def setState (state : GatewayState) : Section (Gateway Update) Unit := do
  write fun gateway =>
    { gateway with state, stateSets := gateway.stateSets ++ [state] }
  perform (replies .onLog) (emit (.log ("[" ++ venue ++ "] State Changed: " ++ state.value)))

def emitHealth (text : String) : Section (Gateway Update) Unit :=
  perform (replies .emitHealth) (emit (.health text))

/-- `invalidate` of the user stream. -/
def invalidateUserStream : Section (Gateway Update) Unit :=
  perform (replies .invalidateUserStream) fun gateway =>
    { gateway with keepAliveGeneration := gateway.keepAliveGeneration + 1 }

/-- `begin_generation_locked` of the books. -/
def beginGeneration : Section (Gateway Update) ℕ := do
  perform (replies .beginGeneration) fun gateway =>
    { gateway with generation := gateway.generation + 1 }
  return (← read).generation

/-! ## The sections of `connect` -/

/-- A new generation, unless the gateway closes. -/
def connectBegin : Section (Gateway Update) (Option ℕ) := do
  if (← read).closing then
    return none
  write fun gateway => { gateway with active := true }
  return some (← beginGeneration replies)

/-- The new websocket takes the place of the old one, which is answered. -/
def connectInstall (generation : ℕ) (candidate : WebSocket) :
    Section (Gateway Update) (Option (Option WebSocket)) := do
  let gateway ← read
  if gateway.closing || !generationMatches gateway (some generation) then
    perform (replies .closeWs) id
    return none
  write fun gateway => { gateway with ws := some candidate }
  return some gateway.ws

/-- The last section of `connect_once`. -/
def connectCommit (generation : ℕ) (candidate : WebSocket) : Section (Gateway Update) Bool := do
  if !ownsLifecycle (← read) generation (some candidate) then
    perform (replies .closeWs) id
    return false
  setState venue replies .ready
  return true

/-- `mark_failure_if_current`. -/
def markFailureIfCurrent (generation : ℕ) (expectedWs : Option WebSocket) :
    Section (Gateway Update) Bool := do
  let gateway ← read
  if gateway.closing || !generationMatches gateway (some generation) ||
      (expectedWs.isSome && gateway.ws != expectedWs) then
    return false
  write fun gateway => { gateway with active := false }
  setState venue replies .error
  return true

/-! ## The sections of `recover` -/

def recoverBegin : Section (Gateway Update) (Option ℕ) := do
  let gateway ← read
  if gateway.closing || gateway.symbols.isEmpty then
    return none
  write fun gateway => { gateway with active := true }
  invalidateUserStream replies
  return some (← beginGeneration replies)

def recoverInstall (generation : ℕ) (recoveryWs : WebSocket) :
    Section (Gateway Update) (Option (Option WebSocket)) := do
  let gateway ← read
  if !ownsLifecycle gateway generation none then
    perform (replies .closeWs) id
    return none
  write fun gateway => { gateway with ws := some recoveryWs }
  setState venue replies .connecting
  return some gateway.ws

def verification (context : Option RecoveryContext) : String :=
  match context with
  | some context =>
    "VERIFY_VENUE:" ++ venue ++ ":" ++ toString context.epoch ++ ":" ++ context.owner
  | none => "VERIFY_VENUE:" ++ venue ++ ":WS_RECOVERED"

/-- The last section of the `try` block. -/
def recoverCommit (context : Option RecoveryContext) (generation : ℕ) (recoveryWs : WebSocket) :
    Section (Gateway Update) Bool := do
  let gateway ← read
  if !ownsLifecycle gateway generation (some recoveryWs) || gateway.state == .error then
    perform (replies .logError) id
    return false
  setState venue replies .ready
  if context.isSome then
    perform (replies .readContext) id
  emitHealth replies (verification venue context)
  return true

/-- The section of the `finally` block. -/
def recoverRelease (recoveryWs : WebSocket) : Section (Gateway Update) Unit :=
  write fun gateway =>
    { gateway with ws := if gateway.ws = some recoveryWs then none else gateway.ws }

/-! ## The user stream -/

/-- `_transport_generation_is_current_locked`. -/
def transportGenerationIsCurrent (gateway : Gateway Update) (generation : ℕ) : Bool :=
  gateway.active && !gateway.closing && generationMatches gateway (some generation)

/-- The first section of `start`. -/
def startMarketStream (generation : ℕ) : Section (Gateway Update) Bool := do
  if !transportGenerationIsCurrent (← read) generation then
    return false
  ask (replies .startMarketStream)

/-- The second section of `start`. -/
def startUserStream (generation : ℕ) : Section (Gateway Update) Bool := do
  if !transportGenerationIsCurrent (← read) generation then
    return false
  if !(← ask (replies .startUserStream)) then
    return false
  write fun gateway => { gateway with keepAliveGeneration := gateway.keepAliveGeneration + 1 }
  perform (replies .startKeepAlive) id
  return true

/-! ## Faults, messages and the shutdown -/

/-- `_emit_ws_fault`. -/
def emitWsFault (message : String) (expectedGeneration expectedKeepAlive : Option ℕ) :
    Section (Gateway Update) Bool := do
  let gateway ← read
  if !generationMatches gateway expectedGeneration ||
      !expectedKeepAlive.all (gateway.keepAliveGeneration == ·) then
    return false
  write fun gateway => { gateway with active := false }
  if gateway.state != .error then
    setState venue replies .error
  emitHealth replies ("FREEZE_VENUE:" ++ venue ++ ":" ++ message)
  return true

/-- `_dispatch_transport_callback`, whose callback puts one update. -/
def dispatchTransportCallback (expectedGeneration : Option ℕ) (update : Update) :
    Section (Gateway Update) Bool := do
  if !generationMatches (← read) expectedGeneration then
    return false
  perform (replies .publishUpdate) (emit (.update update))
  return true

/-- The section of `begin_shutdown`. -/
def beginShutdown : Section (Gateway Update) Unit := do
  write fun gateway => { gateway with closing := true }
  write fun gateway => { gateway with active := false }
  invalidateUserStream replies
  perform (replies .beginBookShutdown) fun gateway =>
    { gateway with generation := gateway.generation + 1 }

/-! ## The call that holds the lifecycle lock -/

inductive Kind
  | connect
  | recover (context : Option RecoveryContext)
  deriving DecidableEq

/-- What comes next in a call of a generation. -/
inductive Stage
  /-- `apply_account_configuration`, of `connect` only. -/
  | configuring
  | creating
  | installing (ws : WebSocket)
  | replacing (ws : WebSocket) (old : Option WebSocket)
  | marketStream (ws : WebSocket)
  | listenKey (ws : WebSocket)
  | userStream (ws : WebSocket)
  | waiting (ws : WebSocket)
  | syncing (ws : WebSocket) (symbols : List String)
  | committing (ws : WebSocket)
  /-- The stream or a book did not come: the websocket is closed, or the failure is logged. -/
  | rejecting (ws : WebSocket) (report : String)
  | failing (ws : Option WebSocket) (report : String)
  /-- `connect` reports a failure that it marked. -/
  | reporting (report : String)
  /-- The `finally` block of `recover`. -/
  | unwinding (ws : WebSocket)
  | releasing (ws : WebSocket)
  deriving DecidableEq

/-- The call in progress. -/
inductive Call
  /-- `connect` found the gateway open and sets `CONNECTING`. -/
  | announcing (symbols : List String)
  | beginning
  | running (kind : Kind) (generation : ℕ) (stage : Stage)
  deriving DecidableEq

/-- The whole: the gateway and the threads that work on it. -/
structure System (Update : Type) where
  gateway : Gateway Update := {}
  /-- How many websockets were created. -/
  created : ℕ := 0
  /-- Who holds the lifecycle lock. -/
  call : Option Call := none
  /-- The calls of `begin_shutdown` between their section and `DISCONNECTED`. -/
  shutdowns : ℕ := 0
  /-- The errors of websockets that were found current and are not logged yet. -/
  errors : List (Option ℕ × String) := []
  /-- A trace: the generations of which a fault was accepted. -/
  faults : List ℕ := []
  deriving DecidableEq

namespace System

variable (w : System Update)

/-- What remains of a call that leaves the block in which a recovery cleans up. -/
def leave (kind : Kind) (generation : ℕ) (ws : WebSocket) : Option Call :=
  match kind with
  | .connect => none
  | .recover context => some (.running (.recover context) generation (.unwinding ws))

/-- Run a section, and go on with what it answers. -/
def run {α : Type} (section_ : Section (Gateway Update) α) (raised : Option Call)
    (next : α → Option Call) : System Update :=
  match section_ w.gateway with
  | (some answer, gateway) => { w with gateway, call := next answer }
  | (none, gateway) => { w with gateway, call := raised }

/-- A call outside of the lock. -/
def ask (reply : Reply) (raised yes no : Option Call) : System Update :=
  match reply with
  | .answers true => { w with call := yes }
  | .answers false => { w with call := no }
  | .raises _ => { w with call := raised }

/-- One step of a call after it began its generation. -/
def advanceRunning (kind : Kind) (generation : ℕ) (stage : Stage) : System Update :=
  let goOn (stage : Stage) : Option Call := some (.running kind generation stage)
  match stage with
  | .configuring =>
    w.ask (replies .applyAccountConfiguration) none (goOn .creating)
      (goOn (.failing none ("FREEZE_VENUE:" ++ venue ++ ":ACCOUNT_CONFIG_FAILED")))
  | .creating =>
    -- the warning of a recovery comes first
    match kind, replies .logWarning, replies .createWs with
    | .recover _, .raises _, _ => { w with call := none }
    | _, _, .raises _ => { w with call := none }
    | _, _, .answers _ =>
      { w with created := w.created + 1, call := goOn (.installing ⟨w.created, generation⟩) }
  | .installing ws =>
    let install := match kind with
      | .connect => connectInstall replies generation ws
      | .recover _ => recoverInstall venue replies generation ws
    w.run install none fun
      | none => none
      | some old => goOn (.replacing ws old)
  | .replacing ws none => { w with call := goOn (.marketStream ws) }
  | .replacing ws (some _) =>
    w.ask (replies .closeOldWs) none (goOn (.marketStream ws)) (goOn (.marketStream ws))
  | .marketStream ws =>
    w.run (startMarketStream replies generation) (leave kind generation ws) fun started =>
      if started then goOn (.listenKey ws) else rejectStream ws
  | .listenKey ws =>
    w.ask (replies .createListenKey) (leave kind generation ws) (goOn (.userStream ws))
      (rejectStream ws)
  | .userStream ws =>
    w.run (startUserStream replies generation) (leave kind generation ws) fun started =>
      if started then goOn (.waiting ws) else rejectStream ws
  | .waiting ws =>
    w.ask (replies .waitUntilConnected) (leave kind generation ws)
      (goOn (.syncing ws w.gateway.symbols))
      (goOn (.rejecting ws ("FREEZE_VENUE:" ++ venue ++ ":STREAM_READY_TIMEOUT")))
  | .syncing ws [] => { w with call := goOn (.committing ws) }
  | .syncing ws (symbol :: rest) =>
    w.ask (replies .resyncBook) (leave kind generation ws) (goOn (.syncing ws rest))
      (goOn (.rejecting ws ("FREEZE_SYMBOL:" ++ symbol ++ ":ORDERBOOK_STARTUP_FAILED")))
  | .committing ws =>
    match kind with
    | .connect => w.run (connectCommit venue replies generation ws) none fun _ => none
    | .recover context =>
      w.run (recoverCommit venue replies context generation ws) (leave kind generation ws)
        fun committed => if committed then none else leave kind generation ws
  | .rejecting ws report =>
    let reply := match kind with
      | .connect => replies .closeWs
      | .recover _ => replies .logError
    w.ask reply (leave kind generation ws) (goOn (.failing (some ws) report))
      (goOn (.failing (some ws) report))
  | .failing ws report =>
    let left := ws.bind (leave kind generation)
    w.run (markFailureIfCurrent venue replies generation ws) left fun marked =>
      match kind with
      | .connect => if marked then goOn (.reporting report) else none
      | .recover _ => left
  | .reporting report =>
    { w with gateway := (emitHealth replies report w.gateway).2, call := none }
  | .unwinding ws =>
    w.ask (replies .closeWs) none (goOn (.releasing ws)) (goOn (.releasing ws))
  | .releasing ws => w.run (recoverRelease ws) none fun _ => none
where
  /-- The user stream closes the websocket before it answers `False`. -/
  rejectStream (ws : WebSocket) : Option Call :=
    match replies .closeRejectedWs with
    | .answers _ => some (.running kind generation
        (.rejecting ws ("FREEZE_VENUE:" ++ venue ++ ":USER_STREAM_START_FAILED")))
    | .raises _ => leave kind generation ws

/-- One step of the call that holds the lifecycle lock. -/
def advance : Call → System Update
  | .announcing symbols =>
    match setState venue replies .connecting w.gateway with
    | (some _, gateway) =>
      { w with
        gateway := { gateway with symbols := symbols.map String.toUpper }
        call := some .beginning }
    | (none, gateway) => { w with gateway, call := none }
  | .beginning =>
    w.run (connectBegin replies) none
      (Option.map fun generation => .running .connect generation .configuring)
  | .running kind generation stage => w.advanceRunning venue replies kind generation stage

end System

/-! ## Steps -/

inductive Step (Update : Type)
  | connect (symbols : List String)
  | recover (context : Option RecoveryContext) (replies : Replies)
  /-- The call in progress goes on. -/
  | advance (replies : Replies)
  | fault (message : String) (generation keepAlive : Option ℕ) (replies : Replies)
  | message (update : Update) (generation : Option ℕ) (replies : Replies)
  /-- An error that is not a drop of the transport is found current, and logged later. -/
  | errorChecked (text : String) (generation : Option ℕ)
  | errorLogged (index : ℕ) (replies : Replies)
  | beginShutdown (replies : Replies)
  | disconnect (replies : Replies)
  /-- The section of `close` under the lifecycle lock. -/
  | release

/-- `recover` takes its first section with the lifecycle lock. -/
def System.recover (w : System Update) (context : Option RecoveryContext) : System Update :=
  w.run (recoverBegin replies) none
    (Option.map fun generation => .running (.recover context) generation .creating)

/-- A fault is accepted unless it is answered `False`. -/
def System.fault (w : System Update) (message : String) (generation keepAlive : Option ℕ) :
    System Update :=
  match emitWsFault venue replies message generation keepAlive w.gateway with
  | (some false, gateway) => { w with gateway }
  | (_, gateway) => { w with gateway, faults := w.faults ++ [gateway.generation] }

/-- The lifecycle lock has at most one holder; any other step is possible at any time. -/
def step (venue : String) (w : System Update) : Step Update → Option (System Update)
  | .connect symbols =>
    match w.call with
    | some _ => none
    | none =>
      if w.gateway.closing then some w else some { w with call := some (.announcing symbols) }
  | .recover context replies =>
    match w.call with
    | some _ => none
    | none => some (w.recover replies context)
  | .advance replies => w.call.map (w.advance venue replies)
  | .fault message generation keepAlive replies =>
    some (w.fault venue replies message generation keepAlive)
  | .message update generation replies =>
    some { w with gateway := (dispatchTransportCallback replies generation update w.gateway).2 }
  | .errorChecked text generation =>
    some (if generationMatches w.gateway generation then
      { w with errors := w.errors ++ [(generation, text)] } else w)
  | .errorLogged index replies =>
    w.errors[index]?.map fun error =>
      { w with
        gateway := (perform (replies .onLog)
          (emit (.log ("[" ++ venue ++ "] " ++ error.2))) w.gateway).2
        errors := w.errors.eraseIdx index }
  | .beginShutdown replies =>
    match beginShutdown replies w.gateway with
    | (some _, gateway) => some { w with gateway, shutdowns := w.shutdowns + 1 }
    | (none, gateway) => some { w with gateway }
  | .disconnect replies =>
    if w.shutdowns = 0 then none
    else some { w with
      gateway := (setState venue replies .disconnected w.gateway).2
      shutdowns := w.shutdowns - 1 }
  | .release =>
    match w.call with
    | some _ => none
    | none =>
      if w.gateway.closing then some { w with gateway := { w.gateway with ws := none } }
      else none

end ChronosHFT.Transport
