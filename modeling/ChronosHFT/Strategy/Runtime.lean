import ChronosHFT.Lib.Conflation
import ChronosHFT.Lib.Dict
import ChronosHFT.Lib.Run

/-!
# The strategy runtime

`StrategyRuntime` of `strategy/runtime.py`.  The feeds submit market data and control events from
their own threads, and a worker, or whoever calls `process_pending`, takes them out and hands
them to the strategy.  Control events queue up; of the market data of a kind and symbol only the
latest is kept, in the place where the first of them stands.

Everything happens under one condition variable, so that a step of the system is what one thread
does between taking the lock and giving it back.  Two things happen outside of it: a work item
that was taken is executed, and the first control event that found the queue full is reported.
`Log` is the record of what happened; no function of the runtime reads it. -/

namespace ChronosHFT.Strategy.Runtime

open List Conflation

/-! ## The runtime -/

inductive MarketKind
  | orderbook
  | marketTrade
deriving DecidableEq, Repr

inductive ControlKind
  | order
  | trade
  | position
  | account
  | systemHealth
deriving DecidableEq, Repr

/-- What a handler is chosen by. -/
inductive Kind
  | market (kind : MarketKind)
  | control (kind : ControlKind)
deriving DecidableEq, Repr

/-- The source's words. -/
def ControlKind.text : ControlKind → String
  | .order => "order"
  | .trade => "trade"
  | .position => "position"
  | .account => "account"
  | .systemHealth => "system_health"

def Kind.text : Kind → String
  | .market .orderbook => "orderbook"
  | .market .marketTrade => "market_trade"
  | .control kind => kind.text

abbrev Key := MarketKind × String

/-- The configuration, and what the strategy brings along. -/
structure Settings where
  controlQueueCapacity : ℕ := 4096
  capacity_pos : 0 < controlQueueCapacity := by decide
  hasFailureCallback : Bool
  /-- The kinds the strategy has a method for. -/
  handles : Kind → Bool := fun _ => true

/-- The counters of `_stats` that the queues move. -/
structure Stats where
  controlDepth : ℕ := 0
  marketDepth : ℕ := 0
  maxControlDepth : ℕ := 0
  maxMarketDepth : ℕ := 0
  controlQueueOverflowCount : ℕ := 0
  controlQueueOverflowLatched : Bool := false
  coalescedMarketEvents : ℕ := 0
  processed : ℕ := 0
  handlerErrorCount : ℕ := 0
  asyncErrorCount : ℕ := 0
  lastErrorKind : String := ""
  lastErrorMessage : String := ""
deriving DecidableEq, Repr

/-- `StrategyRuntime`.  A payload may be `None`. -/
structure StrategyRuntime (P : Type*) where
  active : Bool := false
  controlQueue : List (ControlKind × ℚ × Option P) := []
  marketQueue : List Key := []
  pendingMarket : Dict Key (ℚ × Option P) := ∅
  stats : Stats := {}

/-- What `_pop_next_work` takes out. -/
inductive Work (P : Type*)
  | control (kind : ControlKind) (enqueuedAt : ℚ) (payload : Option P)
  | market (key : Key) (enqueuedAt : ℚ) (payload : Option P)

namespace Work

variable {P : Type*}

def kind : Work P → Kind
  | control kind _ _ => .control kind
  | market key _ _ => .market key.1

def payload : Work P → Option P
  | control _ _ payload => payload
  | market _ _ payload => payload

end Work

namespace StrategyRuntime

variable {P : Type*} (st : Settings)

/-- `_refresh_depth_stats_locked`. -/
def refreshDepthStats (s : StrategyRuntime P) : StrategyRuntime P :=
  { s with
    stats :=
      { s.stats with
        controlDepth := s.controlQueue.length
        marketDepth := s.marketQueue.length
        maxControlDepth := max s.stats.maxControlDepth s.controlQueue.length
        maxMarketDepth := max s.stats.maxMarketDepth s.marketQueue.length } }

/-- `_submit_market`. -/
def submitMarket (s : StrategyRuntime P) (kind : MarketKind) (symbol : String) (enqueuedAt : ℚ)
    (payload : Option P) : StrategyRuntime P :=
  let key := (kind, symbol.toUpper)
  if s.pendingMarket.contains key then
    { s with
      pendingMarket := s.pendingMarket.set key (enqueuedAt, payload)
      stats := { s.stats with
        coalescedMarketEvents := s.stats.coalescedMarketEvents + 1 } }.refreshDepthStats
  else
    { s with
      pendingMarket := s.pendingMarket.set key (enqueuedAt, payload)
      marketQueue := s.marketQueue ++ [key] }.refreshDepthStats

/-- The message of an event that finds the control queue full. -/
def overflowMessage (kind : ControlKind) : String :=
  "OverflowError:strategy runtime control queue capacity exceeded: capacity=" ++
    toString st.controlQueueCapacity ++ " kind=" ++ kind.text

/-- `_submit_control` under the lock: the answer, and whether the refusal is to be reported. -/
def submitControl (s : StrategyRuntime P) (kind : ControlKind) (enqueuedAt : ℚ)
    (payload : Option P) :
    StrategyRuntime P × Bool × Bool :=
  if st.controlQueueCapacity ≤ s.controlQueue.length then
    ({ s with
        stats := { s.stats with
          controlQueueOverflowLatched := true
          controlQueueOverflowCount := s.stats.controlQueueOverflowCount + 1
          lastErrorKind := kind.text
          lastErrorMessage := overflowMessage st kind } },
      false, !s.stats.controlQueueOverflowLatched)
  else
    ({ s with controlQueue := s.controlQueue ++
                [(kind, enqueuedAt, payload)] }.refreshDepthStats,
      true, false)

/-- `_pop_next_work`.  A call that blocks waits while the runtime is active and both queues are
empty. -/
def popNextWork (s : StrategyRuntime P) (block : Bool) (now : ℚ) :
    Option (StrategyRuntime P × Option (Work P)) :=
  if block && !s.active then some (s, none)
  else match s.controlQueue, s.marketQueue with
    | (kind, enqueuedAt, payload) :: rest, _ =>
      some ({ s with controlQueue := rest }.refreshDepthStats,
        some (.control kind enqueuedAt payload))
    | [], key :: rest =>
      let found := s.pendingMarket.getD key (now, none)
      some ({ s with marketQueue := rest,
                     pendingMarket := s.pendingMarket.erase key }.refreshDepthStats,
        some (.market key found.1 found.2))
    | [], [] => if block then none else some (s, none)

/-- `start` under the lock: what is queued counts from now on. -/
def start (s : StrategyRuntime P) (startedAt : ℚ) : StrategyRuntime P :=
  { s with
    active := true
    controlQueue := s.controlQueue.map fun work => (work.1, startedAt, work.2.2)
    pendingMarket := s.pendingMarket.mapValues fun found => (startedAt, found.2) }

/-- `stop`, as far as the queues notice. -/
def stop (s : StrategyRuntime P) : StrategyRuntime P := { s with active := false }

end StrategyRuntime

/-! ## The system -/

inductive Phase
  | enqueue
  | handler
  | asyncPoll
deriving DecidableEq, Repr

/-- What `_report_failure` is called with. -/
structure FailureReport (P : Type*) where
  phase : Phase
  kind : String
  payload : Option P
  message : String

/-- The report of a control event that was refused. -/
def overflowReport {P : Type*} (st : Settings) (refused : ControlKind × Option P) :
    FailureReport P :=
  ⟨.enqueue, refused.1.text, refused.2, StrategyRuntime.overflowMessage st refused.1⟩

/-- What has happened. -/
structure Log (P : Type*) where
  submitted : List (Key × Option P) := []
  accepted : List (ControlKind × Option P) := []
  refused : List (ControlKind × Option P) := []
  popped : List (Work P) := []
  /-- The calls of `_report_failure`. -/
  reported : List (FailureReport P) := []

/-- The runtime, the refusals that a thread is about to report, and the work that was taken and
is not executed yet. -/
structure System (P : Type*) where
  runtime : StrategyRuntime P := {}
  toReport : List (FailureReport P) := []
  inHand : List (Work P) := []
  log : Log P := {}

/-- What becomes of a handler. -/
inductive HandlerOutcome
  | returns
  | raises (message : String)
deriving DecidableEq, Repr

/-- What one thread does. -/
inductive Action (P : Type*)
  | submitMarket (kind : MarketKind) (symbol : String) (enqueuedAt : ℚ) (payload : Option P)
  | submitControl (kind : ControlKind) (enqueuedAt : ℚ) (payload : Option P)
  /-- The refusal number `index` of those to be reported is reported. -/
  | report (index : ℕ)
  | pop (block : Bool) (now : ℚ)
  /-- The work number `index` of what is in hand is executed. -/
  | execute (index : ℕ) (outcome : HandlerOutcome)
  /-- The workers of the strategy are polled, and the poll raises. -/
  | asyncPollRaises (message : String)
  | start (startedAt : ℚ)
  | stop

namespace System

variable {P : Type*} (st : Settings)

/-- `_report_failure` with `record_stats`. -/
def recordFailure (s : System P) (r : FailureReport P) : System P :=
  { s with
    runtime := { s.runtime with
      stats := { s.runtime.stats with
        handlerErrorCount := s.runtime.stats.handlerErrorCount + if r.phase = .handler then 1
        else 0
        asyncErrorCount := s.runtime.stats.asyncErrorCount + if r.phase = .asyncPoll then 1
          else 0
        lastErrorKind := r.kind
        lastErrorMessage := r.message } }
    log := { s.log with reported := s.log.reported ++ [r] } }

/-- `_execute`.  Nothing is done for a payload that is `None`, or without a handler. -/
def execute (s : System P) (work : Work P) (outcome : HandlerOutcome) : System P :=
  if work.payload.isNone ∨ st.handles work.kind = false then s
  else match outcome with
    | .returns =>
      { s with runtime := { s.runtime with
          stats := { s.runtime.stats with processed := s.runtime.stats.processed + 1 } } }
    | .raises message => s.recordFailure ⟨.handler, work.kind.text, work.payload, message⟩

/-- One step of one thread; `none` when it has to wait. -/
def step (s : System P) : Action P → Option (System P)
  | .submitMarket kind symbol enqueuedAt payload =>
    some { s with
      runtime := s.runtime.submitMarket kind symbol enqueuedAt payload
      log := { s.log with submitted := s.log.submitted ++ [((kind, symbol.toUpper), payload)] } }
  | .submitControl kind enqueuedAt payload =>
    let (runtime, answer, report) := s.runtime.submitControl st kind enqueuedAt payload
    some { s with
      runtime := runtime
      toReport := if report then s.toReport ++ [overflowReport st (kind, payload)]
        else s.toReport
      log :=
        if answer then { s.log with accepted := s.log.accepted ++ [(kind, payload)] }
        else { s.log with refused := s.log.refused ++ [(kind, payload)] } }
  | .report index =>
    match s.toReport[index]? with
    | some r =>
      some { s with
        toReport := s.toReport.eraseIdx index
        log := { s.log with reported := s.log.reported ++ [r] } }
    | none => none
  | .pop block now =>
    match s.runtime.popNextWork block now with
    | some (runtime, some work) =>
      some { s with
        runtime := runtime
        inHand := s.inHand ++ [work]
        log := { s.log with popped := s.log.popped ++ [work] } }
    | some (runtime, none) => some { s with runtime := runtime }
    | none => none
  | .execute index outcome =>
    match s.inHand[index]? with
    | some work => some ({ s with inHand := s.inHand.eraseIdx index }.execute st work outcome)
    | none => none
  | .asyncPollRaises message =>
      some (s.recordFailure ⟨.asyncPoll, "async_worker", none, message⟩)
  | .start startedAt => some { s with runtime := s.runtime.start startedAt }
  | .stop => some { s with runtime := s.runtime.stop }

end System

/-! ## What the queues promise -/

section Spec

variable {P : Type*}

/-- The control events that were taken, in order. -/
def poppedControl (popped : List (Work P)) : List (ControlKind × Option P) :=
  popped.filterMap fun work =>
    match work with
    | .control kind _ payload => some (kind, payload)
    | .market _ _ _ => none

/-- The payloads of a key that were taken, in order. -/
def poppedOf (key : Key) (popped : List (Work P)) : List (Option P) :=
  popped.filterMap fun work =>
    match work with
    | .market found _ payload => if found = key then some payload else none
    | .control _ _ _ => none

/-- The payloads of a key that were submitted, in order. -/
def submittedOf (key : Key) (submitted : List (Key × Option P)) : List (Option P) :=
  submitted.filterMap fun entry => if entry.1 = key then some entry.2 else none

/-- **The queues keep what they were given.** -/
structure Queued (s : System P) : Prop where
  nodup : s.runtime.marketQueue.Nodup
  keys : ∀ key, key ∈ s.runtime.marketQueue ↔ (s.runtime.pendingMarket.get? key).isSome = true
  control : poppedControl s.log.popped ++
    s.runtime.controlQueue.map (fun work => (work.1, work.2.2)) =
    s.log.accepted
  conflated : ∀ key, Conflated (submittedOf key s.log.submitted) (poppedOf key s.log.popped)
    ((s.runtime.pendingMarket.get? key).map Prod.snd)

/-- **A refusal is latched and reported.** -/
structure Refused (st : Settings) (s : System P) : Prop where
  latched : s.runtime.stats.controlQueueOverflowLatched = true ↔ s.log.refused ≠ []
  count : s.runtime.stats.controlQueueOverflowCount = s.log.refused.length
  reports : s.toReport ++ s.log.reported.filter (fun r => decide (r.phase = .enqueue)) =
    (s.log.refused.take 1).map (overflowReport st)

end Spec

section Steps

variable {P : Type*} {st : Settings}

theorem poppedControl_concat (popped : List (Work P)) (work : Work P) :
    poppedControl (popped ++ [work]) = poppedControl popped ++
      match work with
      | .control kind _ payload => [(kind, payload)]
      | .market _ _ _ => [] := by
  unfold poppedControl
  rw [filterMap_append]
  cases work <;> rfl

theorem poppedOf_concat (key : Key) (popped : List (Work P)) (work : Work P) :
    poppedOf key (popped ++ [work]) = poppedOf key popped ++
      match work with
      | .market found _ payload => if found = key then [payload] else []
      | .control _ _ _ => [] := by
  unfold poppedOf
  rw [filterMap_append]
  cases work with
  | control kind enqueuedAt payload => rfl
  | market found enqueuedAt payload =>
    dsimp only [filterMap_cons, filterMap_nil]
    by_cases hkey : found = key
    · rw [if_pos hkey, if_pos hkey]
    · rw [if_neg hkey, if_neg hkey]

theorem submittedOf_concat (key : Key) (submitted : List (Key × Option P))
    (entry : Key × Option P) :
    submittedOf key (submitted ++ [entry]) =
      submittedOf key submitted ++ if entry.1 = key then [entry.2] else [] := by
  unfold submittedOf
  rw [filterMap_append]
  dsimp only [filterMap_cons, filterMap_nil]
  by_cases hkey : entry.1 = key
  · rw [if_pos hkey, if_pos hkey]
  · rw [if_neg hkey, if_neg hkey]

/-- **What `_pop_next_work` can do**: nothing, or the first control event, or, without control
events, the latest payload of the first key. -/
theorem popNextWork_cases {s s' : StrategyRuntime P} {block : Bool} {now : ℚ}
    {work : Option (Work P)}
    (h : s.popNextWork block now = some (s', work)) :
    (work = none ∧ s' = s) ∨
    (∃ kind enqueuedAt payload rest, s.controlQueue = (kind, enqueuedAt, payload) :: rest ∧
      work = some (.control kind enqueuedAt payload) ∧
      s' = { s with controlQueue := rest }.refreshDepthStats) ∨
    ∃ key rest, s.controlQueue = [] ∧ s.marketQueue = key :: rest ∧
      work = some (.market key (s.pendingMarket.getD key (now, none)).1
        (s.pendingMarket.getD key (now, none)).2) ∧
      s' = { s with
        marketQueue := rest, pendingMarket := s.pendingMarket.erase key }.refreshDepthStats := by
  unfold StrategyRuntime.popNextWork at h
  split at h
  · cases h
    exact .inl ⟨rfl, rfl⟩
  split at h
  · next kind enqueuedAt payload rest hcontrol =>
    cases h
    exact .inr (.inl ⟨kind, enqueuedAt, payload, rest, hcontrol, rfl, rfl⟩)
  · next key rest hcontrol hmarket =>
    cases h
    exact .inr (.inr ⟨key, rest, hcontrol, hmarket, rfl, rfl⟩)
  · split at h
    · cases h
    · cases h
      exact .inl ⟨rfl, rfl⟩

variable {s s' : System P}

/-- Only the queues and these parts of the log matter to `Queued`. -/
theorem Queued.of_eq (h : Queued s) (hcontrol : s'.runtime.controlQueue = s.runtime.controlQueue)
    (hmarket : s'.runtime.marketQueue = s.runtime.marketQueue)
    (hpending : s'.runtime.pendingMarket = s.runtime.pendingMarket)
    (hsubmitted : s'.log.submitted = s.log.submitted)
    (haccepted : s'.log.accepted = s.log.accepted)
    (hpopped : s'.log.popped = s.log.popped) : Queued s' := by
  obtain ⟨hnodup, hkeys, hqueue, hconflated⟩ := h
  refine ⟨?_, ?_, ?_, ?_⟩
  · rw [hmarket]
    exact hnodup
  · rw [hmarket, hpending]
    exact hkeys
  · rw [hpopped, hcontrol, haccepted]
    exact hqueue
  · rw [hsubmitted, hpopped, hpending]
    exact hconflated

/-- **Market data is submitted.** -/
theorem Queued.submitMarket (h : Queued s) (kind : MarketKind) (symbol : String)
    (enqueuedAt : ℚ) (payload : Option P) : Queued { s with
      runtime := s.runtime.submitMarket kind symbol enqueuedAt payload
      log := { s.log with submitted := s.log.submitted ++
                            [((kind, symbol.toUpper), payload)] } } := by
  have hconflated : ∀ key, Conflated
      (submittedOf key (s.log.submitted ++ [((kind, symbol.toUpper), payload)]))
      (poppedOf key s.log.popped)
      (((s.runtime.pendingMarket.set (kind, symbol.toUpper) (enqueuedAt, payload)).get? key).map
        Prod.snd) := by
    intro key
    rw [submittedOf_concat, Dict.get?_set]
    by_cases hkey : (kind, symbol.toUpper) = key
    · rw [if_pos hkey, if_pos hkey.symm]
      exact (h.conflated key).submit payload
    · rw [if_neg hkey, if_neg (Ne.symm hkey), append_nil]
      exact h.conflated key
  have hkeys : ∀ key,
      ((s.runtime.pendingMarket.set (kind, symbol.toUpper) (enqueuedAt, payload)).get?
        key).isSome =
      true ↔
        key ∈ s.runtime.marketQueue ∨ key = (kind, symbol.toUpper) := by
    intro key
    rw [Dict.get?_set]
    by_cases hkey : key = (kind, symbol.toUpper)
    · rw [if_pos hkey]
      exact ⟨fun _ => .inr hkey, fun _ => rfl⟩
    · rw [if_neg hkey, ← h.keys]
      exact ⟨.inl, fun hor => hor.resolve_right hkey⟩
  unfold StrategyRuntime.submitMarket
  dsimp only
  by_cases hpending : s.runtime.pendingMarket.contains (kind, symbol.toUpper) = true
  · rw [if_pos hpending]
    have hmem : (kind, symbol.toUpper) ∈ s.runtime.marketQueue := (h.keys _).mpr hpending
    refine ⟨h.nodup, fun key => ?_, h.control, hconflated⟩
    exact Iff.trans ⟨.inl, fun hor => hor.elim id fun heq => heq ▸ hmem⟩ (hkeys key).symm
  · rw [if_neg hpending]
    have hnot : (kind, symbol.toUpper) ∉ s.runtime.marketQueue := fun hmem =>
      hpending ((h.keys _).mp hmem)
    refine ⟨?_, fun key => ?_, h.control, hconflated⟩
    · exact nodup_append.mpr ⟨h.nodup, nodup_singleton _, fun a ha b hb => by
        rw [mem_singleton.mp hb]
        rintro rfl
        exact hnot ha⟩
    · show key ∈ s.runtime.marketQueue ++ [(kind, symbol.toUpper)] ↔ _
      rw [mem_append, mem_singleton]
      exact (hkeys key).symm

/-- **A control event is submitted.** -/
theorem Queued.submitControl (h : Queued s) (kind : ControlKind) (enqueuedAt : ℚ)
    (payload : Option P)
    (hstep : s.step st (.submitControl kind enqueuedAt payload) = some s') : Queued s' := by
  unfold System.step StrategyRuntime.submitControl at hstep
  dsimp only at hstep
  by_cases hfull : st.controlQueueCapacity ≤ s.runtime.controlQueue.length
  · rw [if_pos hfull] at hstep
    cases hstep
    exact h.of_eq rfl rfl rfl rfl rfl rfl
  · rw [if_neg hfull] at hstep
    cases hstep
    refine ⟨h.nodup, h.keys, ?_, h.conflated⟩
    show poppedControl s.log.popped ++
      (s.runtime.controlQueue ++ [(kind, enqueuedAt, payload)]).map _ =
      s.log.accepted ++ [(kind, payload)]
    rw [map_append, ← append_assoc, h.control]
    rfl

/-- **Work is taken.** -/
theorem Queued.pop (h : Queued s) {block : Bool} {now : ℚ}
    (hstep : s.step st (.pop block now) = some s') : Queued s' := by
  unfold System.step at hstep
  dsimp only at hstep
  split at hstep
  · next runtime work hpop =>
    cases hstep
    rcases popNextWork_cases hpop with ⟨hnone, -⟩ |
      ⟨kind, enqueuedAt, payload, rest, hcontrol, hwork, rfl⟩ |
      ⟨key, rest, hcontrol, hmarket, hwork, rfl⟩
    · cases hnone
    · cases hwork
      refine ⟨h.nodup, h.keys, ?_, fun key => ?_⟩
      · have hqueue := h.control
        rw [hcontrol] at hqueue
        show poppedControl (s.log.popped ++ [_]) ++ rest.map _ = s.log.accepted
        rw [poppedControl_concat, ← hqueue, append_assoc]
        rfl
      · have hconflated := h.conflated key
        show Conflated _ (poppedOf key (s.log.popped ++ [_])) _
        rw [poppedOf_concat, append_nil]
        exact hconflated
    · cases hwork
      have hnodup := h.nodup
      rw [hmarket] at hnodup
      obtain ⟨hnot, hrest⟩ := nodup_cons.mp hnodup
      have hsome := (h.keys key).mp (hmarket ▸ mem_cons_self)
      obtain ⟨found, hfound⟩ := Option.isSome_iff_exists.mp hsome
      have hgetD : s.runtime.pendingMarket.getD key (now, none) = found := by
        rw [Dict.getD, hfound, Option.getD_some]
      refine ⟨hrest, fun other => ?_, ?_, fun other => ?_⟩
      · have hother := h.keys other
        rw [hmarket, mem_cons] at hother
        show other ∈ rest ↔ ((s.runtime.pendingMarket.erase key).get? other).isSome = true
        rw [Dict.get?_erase]
        by_cases heq : other = key
        · rw [if_pos heq, heq]
          exact ⟨fun hmem => absurd hmem hnot, nofun⟩
        · rw [if_neg heq, ← hother]
          exact ⟨.inr, fun hor => hor.resolve_left heq⟩
      · have hqueue := h.control
        show poppedControl (s.log.popped ++ [_]) ++ s.runtime.controlQueue.map _ = s.log.accepted
        rw [poppedControl_concat, append_nil]
        exact hqueue
      · have hconflated := h.conflated other
        show Conflated _ (poppedOf other (s.log.popped ++ [_]))
          (((s.runtime.pendingMarket.erase key).get? other).map Prod.snd)
        rw [poppedOf_concat, Dict.get?_erase, hgetD]
        dsimp only
        by_cases heq : key = other
        · subst heq
          rw [hfound] at hconflated
          rw [if_pos rfl, if_pos rfl]
          exact hconflated.take
        · rw [if_neg heq, if_neg (Ne.symm heq), append_nil]
          exact hconflated
  · next runtime hpop =>
    cases hstep
    rcases popNextWork_cases hpop with ⟨-, rfl⟩ | ⟨_, _, _, _, _, hwork, _⟩ |
      ⟨_, _, _, _, hwork, _⟩
    · exact h.of_eq rfl rfl rfl rfl rfl rfl
    · cases hwork
    · cases hwork
  · cases hstep

/-- An execution moves no queue. -/
theorem Queued.execute (h : Queued s) (work : Work P) (outcome : HandlerOutcome) :
    Queued (s.execute st work outcome) := by
  unfold System.execute
  split
  · exact h
  · cases outcome with
    | returns => exact h.of_eq rfl rfl rfl rfl rfl rfl
    | raises message => exact h.of_eq rfl rfl rfl rfl rfl rfl

/-- **One step of one thread.** -/
theorem Queued.step (h : Queued s) {a : Action P} (hstep : s.step st a = some s') :
    Queued s' := by
  cases a with
  | submitMarket kind symbol enqueuedAt payload =>
    cases hstep
    exact h.submitMarket kind symbol enqueuedAt payload
  | submitControl kind enqueuedAt payload => exact h.submitControl kind enqueuedAt payload hstep
  | report index =>
    unfold System.step at hstep
    dsimp only at hstep
    split at hstep
    · cases hstep
      exact h.of_eq rfl rfl rfl rfl rfl rfl
    · cases hstep
  | pop block now => exact h.pop hstep
  | execute index outcome =>
    unfold System.step at hstep
    dsimp only at hstep
    split at hstep
    · next work _ =>
      cases hstep
      have hbefore : Queued { s with inHand := s.inHand.eraseIdx index } :=
        h.of_eq rfl rfl rfl rfl rfl rfl
      exact hbefore.execute work outcome
    · cases hstep
  | asyncPollRaises message =>
    cases hstep
    exact h.of_eq rfl rfl rfl rfl rfl rfl
  | start startedAt =>
    cases hstep
    have hget : ∀ key, ((s.runtime.pendingMarket.mapValues fun found =>
        (startedAt, found.2)).get? key).map
        Prod.snd = (s.runtime.pendingMarket.get? key).map Prod.snd := by
      intro key
      rw [Dict.get?_mapValues, Option.map_map]
      rfl
    refine ⟨h.nodup, fun key => ?_, ?_, fun key => ?_⟩
    · refine (h.keys key).trans ?_
      show _ ↔ ((s.runtime.pendingMarket.mapValues _).get? key).isSome = true
      rw [Dict.get?_mapValues, Option.isSome_map]
    · show _ ++ (s.runtime.controlQueue.map _).map _ = _
      rw [map_map]
      exact h.control
    · show Conflated _ _ (((s.runtime.pendingMarket.mapValues _).get? key).map Prod.snd)
      rw [hget]
      exact h.conflated key
  | stop =>
    cases hstep
    exact h.of_eq rfl rfl rfl rfl rfl rfl

/-- Only these counters and the reports matter to `Refused`. -/
theorem Refused.of_eq (h : Refused st s)
    (hlatched : s'.runtime.stats.controlQueueOverflowLatched =
      s.runtime.stats.controlQueueOverflowLatched)
    (hcount : s'.runtime.stats.controlQueueOverflowCount =
      s.runtime.stats.controlQueueOverflowCount)
    (htoReport : s'.toReport = s.toReport) (hrefused : s'.log.refused = s.log.refused)
    (hreported : s'.log.reported = s.log.reported) : Refused st s' := by
  refine ⟨?_, ?_, ?_⟩
  · rw [hlatched, hrefused]
    exact h.latched
  · rw [hcount, hrefused]
    exact h.count
  · rw [htoReport, hrefused, hreported]
    exact h.reports

/-- **A control event is submitted.**  The first that is refused is to be reported. -/
theorem Refused.submitControl (h : Refused st s) (kind : ControlKind) (enqueuedAt : ℚ)
    (payload : Option P)
    (hstep : s.step st (.submitControl kind enqueuedAt payload) = some s') : Refused st s' := by
  unfold System.step StrategyRuntime.submitControl at hstep
  dsimp only at hstep
  by_cases hfull : st.controlQueueCapacity ≤ s.runtime.controlQueue.length
  swap
  · rw [if_neg hfull] at hstep
    cases hstep
    exact h.of_eq rfl rfl rfl rfl rfl
  rw [if_pos hfull] at hstep
  cases hstep
  refine ⟨⟨fun _ => append_ne_nil_of_right_ne_nil _ (cons_ne_nil _ _), fun _ => rfl⟩, ?_, ?_⟩
  · show _ + 1 = (s.log.refused ++ [_]).length
    rw [length_append, h.count]
    rfl
  · have hreports := h.reports
    show (if (!s.runtime.stats.controlQueueOverflowLatched) = true then s.toReport ++ [_]
      else s.toReport) ++
      s.log.reported.filter _ = ((s.log.refused ++ [(kind, payload)]).take 1).map _
    cases hrefused : s.log.refused with
    | nil =>
      rw [hrefused] at hreports
      obtain ⟨htoReport, hreported⟩ := append_eq_nil_iff.mp hreports
      have hlatched : s.runtime.stats.controlQueueOverflowLatched = false := by
        cases hflag : s.runtime.stats.controlQueueOverflowLatched with
        | false => rfl
        | true => exact absurd hrefused (h.latched.mp hflag)
      rw [hlatched, if_pos (show (!false) = true from rfl), htoReport, hreported]
      rfl
    | cons first rest =>
      rw [hrefused] at hreports
      have hlatched : s.runtime.stats.controlQueueOverflowLatched = true :=
        h.latched.mpr (by rw [hrefused]; exact cons_ne_nil _ _)
      rw [hlatched, if_neg (by decide)]
      exact hreports

/-- **The refusal is reported.** -/
theorem Refused.report (h : Refused st s) {index : ℕ} {r : FailureReport P}
    (hr : s.toReport[index]? = some r) : Refused st { s with
      toReport := s.toReport.eraseIdx index
      log := { s.log with reported := s.log.reported ++ [r] } } := by
  refine ⟨h.latched, h.count, ?_⟩
  have hreports := h.reports
  have hlength := congrArg List.length hreports
  rw [length_append, length_map, length_take] at hlength
  obtain ⟨hindex, -⟩ := List.getElem?_eq_some_iff.mp hr
  obtain ⟨only, honly⟩ := length_eq_one_iff.mp (show s.toReport.length = 1 by omega)
  have hnone : s.log.reported.filter (fun r => decide (r.phase = .enqueue)) = [] :=
    length_eq_zero_iff.mp (by omega)
  obtain rfl : index = 0 := by omega
  rw [honly] at hr
  cases hr
  rw [honly, hnone] at hreports
  have hphase : r.phase = .enqueue := by
    have hmem : r ∈ (s.log.refused.take 1).map (overflowReport st) := hreports ▸ mem_cons_self
    obtain ⟨refused, -, rfl⟩ := mem_map.mp hmem
    rfl
  show s.toReport.eraseIdx 0 ++ (s.log.reported ++ [r]).filter _ = _
  rw [honly, filter_append, hnone, filter_singleton, decide_eq_true hphase]
  exact hreports

/-- A failure of another phase is no refusal. -/
theorem Refused.recordFailure (h : Refused st s) {r : FailureReport P}
    (hphase : r.phase ≠ .enqueue) : Refused st (s.recordFailure r) := by
  refine ⟨h.latched, h.count, ?_⟩
  show s.toReport ++ (s.log.reported ++ [r]).filter _ = _
  rw [filter_append, filter_cons_of_neg (by simpa using hphase), filter_nil, append_nil]
  exact h.reports

/-- **One step of one thread.** -/
theorem Refused.step (h : Refused st s) {a : Action P}
    (hstep : s.step st a = some s') : Refused st s' := by
  cases a with
  | submitMarket kind symbol enqueuedAt payload =>
    cases hstep
    unfold StrategyRuntime.submitMarket
    dsimp only
    split
    · exact h.of_eq rfl rfl rfl rfl rfl
    · exact h.of_eq rfl rfl rfl rfl rfl
  | submitControl kind enqueuedAt payload => exact h.submitControl kind enqueuedAt payload hstep
  | report index =>
    unfold System.step at hstep
    dsimp only at hstep
    split at hstep
    · next r hr =>
      cases hstep
      exact h.report hr
    · cases hstep
  | pop block now =>
    unfold System.step at hstep
    dsimp only at hstep
    split at hstep
    · next hpop =>
      cases hstep
      rcases popNextWork_cases hpop with ⟨-, rfl⟩ | ⟨_, _, _, _, _, _, rfl⟩ |
        ⟨_, _, _, _, _, rfl⟩
      · exact h.of_eq rfl rfl rfl rfl rfl
      · exact h.of_eq rfl rfl rfl rfl rfl
      · exact h.of_eq rfl rfl rfl rfl rfl
    · next hpop =>
      cases hstep
      rcases popNextWork_cases hpop with ⟨-, rfl⟩ | ⟨_, _, _, _, _, _, rfl⟩ |
        ⟨_, _, _, _, _, rfl⟩
      · exact h.of_eq rfl rfl rfl rfl rfl
      · exact h.of_eq rfl rfl rfl rfl rfl
      · exact h.of_eq rfl rfl rfl rfl rfl
    · cases hstep
  | execute index outcome =>
    unfold System.step at hstep
    dsimp only at hstep
    split at hstep
    · cases hstep
      have hbefore : Refused st { s with inHand := s.inHand.eraseIdx index } :=
        h.of_eq rfl rfl rfl rfl rfl
      unfold System.execute
      split
      · exact hbefore
      · cases outcome with
        | returns => exact hbefore.of_eq rfl rfl rfl rfl rfl
        | raises message => exact hbefore.recordFailure nofun
    · cases hstep
  | asyncPollRaises message =>
    cases hstep
    exact h.recordFailure nofun
  | start startedAt =>
    cases hstep
    exact h.of_eq rfl rfl rfl rfl rfl
  | stop =>
    cases hstep
    exact h.of_eq rfl rfl rfl rfl rfl

/-! ## Draining -/

/-- A call that does not block takes something while there is something. -/
theorem pop_progress (s : System P) (now : ℚ)
    (hwork : s.runtime.controlQueue.length + s.runtime.marketQueue.length ≠ 0) :
    ∃ s', s.step st (.pop false now) = some s' ∧ s'.log.accepted = s.log.accepted ∧
      s'.runtime.controlQueue.length + s'.runtime.marketQueue.length + 1 =
        s.runtime.controlQueue.length + s.runtime.marketQueue.length := by
  unfold System.step StrategyRuntime.popNextWork
  dsimp only
  rw [Bool.false_and, if_neg Bool.false_ne_true]
  cases hcontrol : s.runtime.controlQueue with
  | cons first rest =>
    refine ⟨_, rfl, rfl, ?_⟩
    show rest.length + s.runtime.marketQueue.length + 1 = _
    rw [length_cons]
    omega
  | nil =>
    cases hmarket : s.runtime.marketQueue with
    | cons key rest =>
      refine ⟨_, rfl, rfl, ?_⟩
      show ([] : List (ControlKind × ℚ × Option P)).length + rest.length + 1 = _
      rw [length_nil, length_cons]
      omega
    | nil =>
      rw [hcontrol, hmarket] at hwork
      exact absurd rfl hwork

/-- **As many calls as there is work** leave nothing. -/
theorem drain (s : System P) (now : ℚ) :
    ∃ s', Run.exec (System.step st) s (List.replicate
        (s.runtime.controlQueue.length + s.runtime.marketQueue.length) (.pop false now)) =
          some s' ∧
      s'.runtime.controlQueue = [] ∧ s'.runtime.marketQueue = [] ∧
      s'.log.accepted = s.log.accepted := by
  generalize hlength : s.runtime.controlQueue.length + s.runtime.marketQueue.length = n
  induction n generalizing s with
  | zero =>
    exact ⟨s, rfl, length_eq_zero_iff.mp (by omega), length_eq_zero_iff.mp (by omega), rfl⟩
  | succ n ih =>
    obtain ⟨next, hnext, haccepted, hless⟩ := @pop_progress P st s now (by omega)
    obtain ⟨s', hrun, hcontrol, hmarket, hsame⟩ := ih next (by omega)
    exact ⟨s', Run.exec_cons_eq_some.mpr ⟨next, hnext, hrun⟩, hcontrol, hmarket,
      hsame.trans haccepted⟩

end Steps

/-! ## Every run -/

/-- Two books of a symbol, one control event more than the queue holds, and the one it holds is
taken. -/
def crowded : List (Action ℕ) :=
  [.submitMarket .orderbook "BTCUSDT" 0 (some 1), .submitMarket .orderbook "BTCUSDT" 1 (some 2),
    .submitControl .order 2 (some 3), .submitControl .order 3 (some 4), .report 0,
    .pop false 4]

section Statistics

variable {P : Type*} {st : Settings} {s s' : System P}

/-- **The statistics account for everything.**  What was submitted or accepted is coalesced,
queued or taken, and what was taken is in hand or executed. -/
structure Accounted (st : Settings) (s : System P) : Prop where
  control : s.runtime.stats.controlDepth = s.runtime.controlQueue.length ∧
    s.runtime.stats.controlDepth ≤ s.runtime.stats.maxControlDepth ∧
    s.runtime.stats.maxControlDepth ≤ st.controlQueueCapacity
  market : s.runtime.stats.marketDepth = s.runtime.marketQueue.length ∧
    s.runtime.stats.marketDepth ≤ s.runtime.stats.maxMarketDepth
  given : s.log.submitted.length + s.log.accepted.length =
    s.runtime.stats.coalescedMarketEvents + s.runtime.marketQueue.length +
      s.runtime.controlQueue.length + s.log.popped.length
  taken : s.runtime.stats.processed + s.runtime.stats.handlerErrorCount + s.inHand.length ≤
    s.log.popped.length

/-- The queues changed, and their depths were taken. -/
theorem Accounted.refreshed (h : Accounted st s) {r : StrategyRuntime P}
    (hruntime : s'.runtime = r.refreshDepthStats)
    (hmax : r.stats.maxControlDepth = s.runtime.stats.maxControlDepth)
    (hfits : r.controlQueue.length ≤ st.controlQueueCapacity)
    (hgiven : s'.log.submitted.length + s'.log.accepted.length =
      r.stats.coalescedMarketEvents + r.marketQueue.length + r.controlQueue.length +
        s'.log.popped.length)
    (htaken : r.stats.processed + r.stats.handlerErrorCount + s'.inHand.length ≤
      s'.log.popped.length) : Accounted st s' := by
  constructor <;> rw [hruntime]
  · exact ⟨rfl, le_max_right _ _, max_le (hmax ▸ h.control.2.2) hfits⟩
  · exact ⟨rfl, le_max_right _ _⟩
  · exact hgiven
  · exact htaken

/-- One step of one thread. -/
theorem Accounted.step (h : Accounted st s) {a : Action P} (hstep : s.step st a = some s') :
    Accounted st s' := by
  have hfits : s.runtime.controlQueue.length ≤ st.controlQueueCapacity :=
    h.control.1 ▸ h.control.2.1.trans h.control.2.2
  have hgiven := h.given
  have htaken := h.taken
  cases a with
  | submitMarket kind symbol enqueuedAt payload =>
    cases hstep
    unfold StrategyRuntime.submitMarket
    dsimp only
    split
    · refine h.refreshed rfl rfl hfits ?_ htaken
      simp only [length_append, length_singleton]
      omega
    · refine h.refreshed rfl rfl hfits ?_ htaken
      simp only [length_append, length_singleton]
      omega
  | submitControl kind enqueuedAt payload =>
    unfold System.step StrategyRuntime.submitControl at hstep
    dsimp only at hstep
    split at hstep <;> cases hstep
    · exact ⟨h.control, h.market, hgiven, htaken⟩
    refine h.refreshed rfl rfl ?_ ?_ htaken
    · simp only [length_append, length_singleton]
      omega
    · simp only [length_append, length_singleton, if_true]
      omega
  | report index =>
    unfold System.step at hstep
    dsimp only at hstep
    split at hstep <;> cases hstep
    exact ⟨h.control, h.market, hgiven, htaken⟩
  | pop block now =>
    unfold System.step at hstep
    dsimp only at hstep
    split at hstep
    · next work hpop =>
      cases hstep
      have hlength : (s.inHand ++ [work]).length = s.inHand.length + 1 := length_append
      have hlength' : (s.log.popped ++ [work]).length = s.log.popped.length + 1 :=
        length_append
      rcases popNextWork_cases hpop with
        ⟨hnone, -⟩ | ⟨_, _, _, _, hqueue, -, rfl⟩ | ⟨_, _, -, hqueue, -, rfl⟩
      · cases hnone
      all_goals
        rw [hqueue, length_cons] at hgiven
        refine h.refreshed rfl rfl ?_ ?_ ?_ <;> dsimp only
      · rw [hqueue] at hfits
        exact Nat.le_of_succ_le hfits
      · omega
      · omega
      · exact hfits
      · omega
      · omega
    · next hpop =>
      cases hstep
      rcases popNextWork_cases hpop with ⟨-, rfl⟩ | ⟨_, _, _, _, _, hwork, -⟩ |
        ⟨_, _, _, _, hwork, -⟩
      · exact h
      · cases hwork
      · cases hwork
    · cases hstep
  | execute index outcome =>
    unfold System.step at hstep
    dsimp only at hstep
    split at hstep <;> cases hstep
    next work hwork =>
    have hlength := length_eraseIdx_of_lt (List.getElem?_eq_some_iff.mp hwork).1
    have hpos := (List.getElem?_eq_some_iff.mp hwork).1
    unfold System.execute System.recordFailure
    split
    · exact ⟨h.control, h.market, hgiven, by dsimp only; omega⟩
    · cases outcome with
      | returns => exact ⟨h.control, h.market, hgiven, by dsimp only; omega⟩
      | raises message => exact ⟨h.control, h.market, hgiven,
        by dsimp only; rw [if_pos rfl]; omega⟩
  | asyncPollRaises message =>
    cases hstep
    exact ⟨h.control, h.market, hgiven, htaken⟩
  | start startedAt =>
    cases hstep
    refine ⟨?_, h.market, ?_, htaken⟩
    · exact ⟨h.control.1.trans (length_map _).symm, h.control.2⟩
    · exact hgiven.trans (by simp [StrategyRuntime.start])
  | stop =>
    cases hstep
    exact ⟨h.control, h.market, hgiven, htaken⟩

/-- **The statistics of the strategy runtime**, in every state that any threads reach. -/
theorem statistics_of_run (actions : List (Action P)) :
    ∀ s ∈ Run.exec (System.step st) {} actions, Accounted st s := fun _ hs =>
  Run.exec_preserves (fun _ _ _ h hstep => h.step hstep)
    ⟨⟨rfl, le_rfl, Nat.zero_le _⟩, ⟨rfl, le_rfl⟩, rfl, le_rfl⟩ hs

theorem statistics_of_run_crowded : ∃ s,
    Run.exec (System.step { controlQueueCapacity := 1, hasFailureCallback := true }) {} crowded =
      some s ∧ s.log.submitted.length = 2 ∧ s.runtime.stats.maxControlDepth ≤ 1 := by
  have hruns : (Run.exec (System.step { controlQueueCapacity := 1, hasFailureCallback := true })
    {}
      crowded).any (fun s => s.log.submitted.length = 2) = true := by decide +kernel
  obtain ⟨s, hs, hlength⟩ := (Option.any_eq_true _ _).mp hruns
  exact ⟨s, hs, of_decide_eq_true hlength, (statistics_of_run crowded s hs).control.2.2⟩

end Statistics

end ChronosHFT.Strategy.Runtime
