import ChronosHFT.Lib.Dict
import ChronosHFT.Lib.Run

/-!
# The event engine

The engine of `event/engine.py`: `put` gives an event to the queues of the hot lanes that have a
handler for its type; when the last of them is done with it, it is handed to the cold lane.
Every lane has one worker, which `start` begins and `stop` ends with a sentinel in its queue.

A step is one section under a lock, one operation on a queue, or one call of a handler or its
return.  What a thread is inside of is a list of frames, innermost first.  Handlers and the
failure handler are frames that may put further events and that return or raise as they like.  A
thread that is inside `put` holds the admission lock, so that there is at most one such thread,
and one list of frames serves for all the threads that are not the engine's own. -/

namespace ChronosHFT.Events

/-! ## Lanes and events -/

inductive Lane
  | market
  | execution
  | cold
  deriving DecidableEq, Repr

namespace Lane

/-- `HOT_LANES`. -/
def hot : List Lane := [market, execution]

/-- `ALL_LANES`. -/
def all : List Lane := hot ++ [cold]

end Lane

structure Event where
  type : String
  data : String := ""
  deriving DecidableEq, Repr

/-- What a queue holds: a dispatch, or the sentinel `_STOP_WORKER`. -/
inductive Item
  | dispatch (id : ℕ) (event : Event)
  | stopWorker
  deriving DecidableEq, Repr

/-- An event of `_pending_cold`, with the hot lanes that are not done with it. -/
structure Pending where
  event : Event
  remaining : ℤ
  deriving DecidableEq, Repr

/-- What is set before the engine is used: the capacities of the queues, the handlers of each
lane for each type, in the order of their registration, and whether there is a failure handler.
-/
structure Setup where
  capacity : Lane → ℕ
  handlers : Lane → String → List String
  failureHandler : Bool := true
  capacity_pos : ∀ lane, 0 < capacity lane

namespace Setup

/-- The type of the event is registered in the lane. -/
def registered (st : Setup) (lane : Lane) (event : Event) : Bool :=
  !(st.handlers lane event.type).isEmpty

/-- The hot lanes of an event. -/
def hotLanes (st : Setup) (event : Event) : List Lane :=
  Lane.hot.filter fun lane => st.registered lane event

end Setup

/-! ## The threads -/

/-- The threads: the three workers, the one that calls `start` and `stop`, and the one outside
that is inside `put`. -/
inductive Thread
  | worker (lane : Lane)
  | controller
  | outside
  deriving DecidableEq, Repr

inductive FailureKind
  | queueOverflow
  | handlerException
  deriving DecidableEq, Repr

/-- What a thread is inside of. -/
inductive Frame
  /-- `put`, with the lanes that are still to be given the event. -/
  | put (id : ℕ) (event : Event) (lanes : List Lane) (cold : Bool) (accepted : Bool)
  /-- `_report_failure`, before it calls the failure handler. -/
  | report (kind : FailureKind) (lane : Lane) (id : ℕ)
  /-- The failure handler. -/
  | callback
  /-- `_handoff_to_cold`. -/
  | handoff (id : ℕ)
  /-- `_handoff_to_cold`, when the event has left `_pending_cold`. -/
  | enqueueCold (id : ℕ) (event : Event)
  /-- `_process_lane`, with the handlers that are still to be called. -/
  | handlers (lane : Lane) (id : ℕ) (event : Event) (names : List String)
  /-- A handler. -/
  | handler (lane : Lane) (id : ℕ)
  deriving DecidableEq, Repr

/-- The frame of a `put`. -/
def Frame.isPut : Frame → Bool
  | .put .. => true
  | _ => false

/-- What a worker is at: its thread has ended or was not started; it waits in `get`; its `get`
has raised `Empty`; it processes a dispatch. -/
inductive Worker
  | exited
  | getting
  | timedOut
  | working
  deriving DecidableEq, Repr

/-- What the thread that calls `start` and `stop` is at. -/
inductive Phase
  | idle
  /-- `start`, with the lanes whose thread it has not looked at. -/
  | starting (lanes : List Lane)
  /-- `stop`, before it asks whether a thread is alive. -/
  | stopping
  /-- `process_existing_events`, with the lanes whose queue is to be emptied. -/
  | draining (lanes : List Lane)
  /-- The same, while it processes a dispatch. -/
  | handling (lanes : List Lane)
  /-- `wait_until_idle`. -/
  | waiting
  /-- The lanes whose worker is still to be told. -/
  | telling (lanes : List Lane)
  /-- The worker of the lane is alive. -/
  | sentinel (lane : Lane) (lanes : List Lane)
  | deactivating
  /-- The lanes whose worker is still to be joined. -/
  | joining (lanes : List Lane)
  | closing
  deriving DecidableEq, Repr

/-- How a call ended. -/
inductive Answer
  | started (result : Bool)
  | stopped (result : Bool)
  | stopRaised
  deriving DecidableEq, Repr

/-- What happens to the events. -/
inductive Entry
  | enqueued (lane : Lane) (id : ℕ)
  | refused (lane : Lane) (id : ℕ) (inCallback : Bool)
  | returned (id : ℕ) (event : Event) (accepted : Bool)
  | rejected (event : Event)
  | passed (lane : Lane) (id : ℕ) (handler : String)
  | finished (lane : Lane) (id : ℕ)
  | reported (kind : FailureKind) (lane : Lane) (id : ℕ)
  deriving DecidableEq, Repr

/-- `EventEngine`; `log` and `answers` record what happens. -/
structure EventEngine where
  queues : Lane → List Item := fun _ => []
  pendingCold : Dict ℕ Pending := ∅
  pendingWork : ℤ := 0
  dispatchSeq : ℕ := 0
  active : Bool := false
  accepting : Bool := true
  stopping : Bool := false
  workers : Lane → Worker := fun _ => .exited
  frames : Thread → List Frame := fun _ => []
  phase : Phase := .idle
  log : List Entry := []
  answers : List Answer := []

namespace EventEngine

variable (st : Setup) (s : EventEngine)

def setQueue (lane : Lane) (items : List Item) : EventEngine :=
  { s with queues := Function.update s.queues lane items }

def setWorker (lane : Lane) (worker : Worker) : EventEngine :=
  { s with workers := Function.update s.workers lane worker }

def setFrames (t : Thread) (frames : List Frame) : EventEngine :=
  { s with frames := Function.update s.frames t frames }

def record (entry : Entry) : EventEngine := { s with log := s.log ++ [entry] }

def answer (a : Answer) : EventEngine := { s with phase := .idle, answers := s.answers ++ [a] }

/-- `is_alive` of the thread of a lane. -/
def alive (lane : Lane) : Bool := s.workers lane ≠ .exited

/-- The thread is inside `put`. -/
def putting (t : Thread) : Bool := (s.frames t).any Frame.isPut

/-- No other thread holds the admission lock. -/
def admits (t : Thread) : Bool :=
  [Thread.worker .market, .worker .execution, .worker .cold, .controller, .outside].all
    fun other => other = t || !s.putting other

/-! ## Dispatches -/

/-- `_enqueue`, up to its report: `none` is `Full`. -/
def enqueue? (lane : Lane) (id : ℕ) (event : Event) : Option EventEngine :=
  if (s.queues lane).length < st.capacity lane then
    some (({ s.setQueue lane (s.queues lane ++ [.dispatch id event]) with
      pendingWork := s.pendingWork + 1 } : EventEngine).record (.enqueued lane id))
  else none

/-- The enqueue is refused, and the thread goes on with its report. -/
def refuse (t : Thread) (lane : Lane) (id : ℕ) (rest : List Frame) : EventEngine :=
  (s.setFrames t (.report .queueOverflow lane id :: rest)).record
    (.refused lane id (.callback ∈ rest))

/-- `put`, up to the first `_enqueue`. -/
def begin (t : Thread) (event : Event) : EventEngine :=
  if s.accepting = false then s.record (.rejected event)
  else
    let id := s.dispatchSeq + 1
    let s := { s with dispatchSeq := id }
    let hot := st.hotLanes event
    let cold := st.registered .cold event
    if hot = [] then
      if cold then s.setFrames t (.put id event [.cold] false true :: s.frames t)
      else s.record (.returned id event true)
    else
      let s :=
        if cold then { s with pendingCold := s.pendingCold.set id ⟨event, hot.length⟩ } else s
      s.setFrames t (.put id event hot cold true :: s.frames t)

/-- A round of the loop of `put`, or its return. -/
def advancePut (t : Thread) (id : ℕ) (event : Event) (lanes : List Lane) (cold accepted : Bool)
    (rest : List Frame) : EventEngine :=
  match lanes with
  | [] => (s.setFrames t rest).record (.returned id event accepted)
  | lane :: lanes =>
    match s.enqueue? st lane id event with
    | some s => s.setFrames t (.put id event lanes cold accepted :: rest)
    | none =>
      s.refuse t lane id
        ((if cold then [.handoff id] else []) ++ .put id event lanes cold false :: rest)

/-- `_report_failure`: not from inside the failure handler. -/
def advanceReport (t : Thread) (kind : FailureKind) (lane : Lane) (id : ℕ) (rest : List Frame) :
    EventEngine :=
  if st.failureHandler = false ∨ .callback ∈ rest then s.setFrames t rest
  else (s.setFrames t (.callback :: rest)).record (.reported kind lane id)

/-- The section of `_handoff_to_cold`. -/
def advanceHandoff (t : Thread) (id : ℕ) (rest : List Frame) : EventEngine :=
  match s.pendingCold.get? id with
  | none => s.setFrames t rest
  | some pending =>
    if 0 < pending.remaining - 1 then
      { s with
        pendingCold := s.pendingCold.set id ⟨pending.event, pending.remaining - 1⟩ }.setFrames t
          rest
    else
      let after := if st.registered .cold pending.event then [.enqueueCold id pending.event]
        else []
      { s with pendingCold := s.pendingCold.erase id }.setFrames t (after ++ rest)

/-- `_mark_work_complete`, with what follows it. -/
def complete? (t : Thread) : Option EventEngine :=
  let done := { s with pendingWork := s.pendingWork - 1 }
  match t with
  | .worker lane => if s.workers lane = .working then some (done.setWorker lane
    .getting) else none
  | .controller =>
    match s.phase with
    | .handling lanes => some { done with phase := .draining lanes }
    | _ => none
  | .outside => none

/-- **A thread goes on**, unless it is in a handler or in the failure handler. -/
def advance? (t : Thread) : Option EventEngine :=
  match s.frames t with
  | [] => s.complete? t
  | .put id event lanes cold accepted :: rest =>
    some (s.advancePut st t id event lanes cold accepted rest)
  | .report kind lane id :: rest => some (s.advanceReport st t kind lane id rest)
  | .handoff id :: rest => some (s.advanceHandoff st t id rest)
  | .enqueueCold id event :: rest =>
    match s.enqueue? st .cold id event with
    | some s => some (s.setFrames t rest)
    | none => some (s.refuse t .cold id rest)
  | .handlers lane id event (name :: names) :: rest =>
    some ((s.setFrames t (.handler lane id :: .handlers lane id event names :: rest)).record
      (.passed lane id name))
  | .handlers lane id _ [] :: rest => some ((s.setFrames t rest).record (.finished lane id))
  | .handler .. :: _ | .callback :: _ => none

/-- A handler or the failure handler returns, or raises. -/
def leave? (t : Thread) (raised : Bool) : Option EventEngine :=
  match s.frames t with
  | .handler lane id :: rest =>
    some (s.setFrames t (if raised then .report .handlerException lane id :: rest else rest))
  | .callback :: rest => some (s.setFrames t rest)
  | _ => none

/-- `put` is called from outside, or by a handler or the failure handler. -/
def put? (t : Thread) (event : Event) : Option EventEngine :=
  if s.admits t = false then none
  else
    match s.frames t with
    | .handler .. :: _ | .callback :: _ => some (s.begin st t event)
    | [] => if t = .outside then some (s.begin st t event) else none
    | _ => none

/-- What follows the processing of a dispatch is the handoff, of a cold dispatch not. -/
def process (t : Thread) (lane : Lane) (id : ℕ) (event : Event) (always : Bool) : EventEngine :=
  s.setFrames t (.handlers lane id event (st.handlers lane event.type) ::
    if lane ∈ Lane.hot || always then [.handoff id] else [])

/-! ## The workers -/

/-- `get` returns. -/
def get? (lane : Lane) : Option EventEngine :=
  match s.workers lane, s.queues lane with
  | .getting, .stopWorker :: rest => some ((s.setQueue lane rest).setWorker lane .exited)
  | .getting, .dispatch id event :: rest =>
    some (((s.setQueue lane rest).setWorker lane .working).process st (.worker lane) lane id
      event
      false)
  | _, _ => none

/-- `get` raises `Empty`. -/
def timeOut? (lane : Lane) : Option EventEngine :=
  if s.workers lane = .getting ∧ s.queues lane = [] then some (s.setWorker lane .timedOut)
    else none

/-- The worker leaves when the engine is not active. -/
def check? (lane : Lane) : Option EventEngine :=
  if s.workers lane = .timedOut then
    some (s.setWorker lane (if s.active then .getting else .exited))
  else none

/-! ## `start` and `stop` -/

/-- `start`, up to the threads. -/
def start? : Option EventEngine :=
  if s.phase ≠ .idle ∨ s.admits .controller = false then none
  else if s.active then
    if s.stopping then some (s.answer (.started false)) else some (s.answer (.started true))
  else
    some { s with active := true, accepting := true, stopping := false,
                  phase := .starting Lane.all }

/-- `stop`, up to the question whether a thread is alive. -/
def stop? : Option EventEngine :=
  if s.phase ≠ .idle ∨ s.admits .controller = false then none
  else some { s with accepting := false, stopping := true, phase := .stopping }

/-- `start` or `stop` goes on. -/
def control? : Option EventEngine :=
  match s.phase with
  | .idle => none
  | .starting [] => some (s.answer (.started true))
  | .starting (lane :: lanes) =>
    let s := if s.alive lane then s else s.setWorker lane .getting
    some { s with phase := .starting lanes }
  | .stopping =>
    if Lane.all.any s.alive then some { s with phase := .waiting }
    else some { s with phase := .draining Lane.all }
  | .draining [] => some { s with phase := .waiting }
  | .draining (lane :: lanes) =>
    match s.queues lane with
    | [] => some { s with phase := .draining lanes }
    | .dispatch id event :: rest =>
      some ({ s.setQueue lane rest with
        phase := .handling (lane :: lanes) }.process st .controller
        lane id event true)
    -- a sentinel is no triple: the unpacking raises
    | .stopWorker :: rest => some ((s.setQueue lane rest).answer .stopRaised)
  | .handling _ => none
  | .waiting => if s.pendingWork = 0 then some { s with phase := .telling Lane.all } else none
  | .telling [] => some { s with phase := .deactivating }
  | .telling (lane :: lanes) =>
    some { s with phase := if s.alive lane then .sentinel lane lanes else .telling lanes }
  | .sentinel lane lanes =>
    if (s.queues lane).length < st.capacity lane then
      some { s.setQueue lane (s.queues lane ++ [.stopWorker]) with phase := .telling lanes }
    else some (s.answer .stopRaised)
  | .deactivating => some { s with active := false, phase := .joining Lane.all }
  | .joining [] => some { s with phase := .closing }
  | .joining (lane :: lanes) =>
      if s.alive lane then none else some { s with phase := .joining lanes }
  | .closing =>
    if s.admits .controller then
      some ({ s with stopping := false }.answer
        (.stopped (Lane.all.all fun lane => !s.alive lane)))
    else none

/-- `wait_until_idle` reaches its deadline inside `stop`. -/
def giveUp? : Option EventEngine :=
  if s.phase = .waiting ∧ s.pendingWork ≠ 0 then some (s.answer (.stopped false)) else none

end EventEngine

/-! ## Steps -/

inductive Action
  | put (t : Thread) (event : Event)
  | advance (t : Thread)
  | leave (t : Thread) (raised : Bool)
  | get (lane : Lane)
  | timeOut (lane : Lane)
  | check (lane : Lane)
  | start
  | stop
  | control
  | giveUp
  deriving DecidableEq, Repr

/-- The step of an action; `none` where its thread is not at it. -/
def EventEngine.step (st : Setup) (s : EventEngine) : Action → Option EventEngine
  | .put t event => s.put? st t event
  | .advance t => s.advance? st t
  | .leave t raised => s.leave? t raised
  | .get lane => s.get? st lane
  | .timeOut lane => s.timeOut? lane
  | .check lane => s.check? lane
  | .start => s.start?
  | .stop => s.stop?
  | .control => s.control? st
  | .giveUp => s.giveUp?

end ChronosHFT.Events
