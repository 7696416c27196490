import ChronosHFT.Oms.CommandSpec
import ChronosHFT.Oms.Engine
import ChronosHFT.Oms.TruthSpec

/-!
# What one event does

The case distinction of a proof about runs: an event is a command, with the effect
`CommandEffect` describes, or one of the six ways in which the venue or a restart
changes the state.
-/

namespace ChronosHFT.Oms

namespace OmsEvent

/-- The events the OMS starts itself. -/
def isCommand : OmsEvent → Bool
  | submit .. | emergency .. | submitResult .. | absent .. | cancel .. | cancelResult .. => true
  | _ => false

/-- The wall clock an event reads. -/
def clock : OmsEvent → ℚ
  | submit env .. => env.now
  | emergency now .. | submitResult now .. | absent now _ | cancel now _
  | cancelResult now .. | restart now => now
  | orderUpdate env _ | trade env .. | orderSnapshot env _ => env.now
  | account .. => 0
  | reset snapshot => snapshot.now

/-- The intents an event rejects locally. -/
def Refuses (s : OmsState) (event : OmsEvent) (intent : OrderIntent) : Prop :=
  match event with
  | submit env _ submitted _ =>
      ∃ reason, admission env s.exposure submitted = .error (intent, reason)
  | _ => False

end OmsEvent

namespace OmsState

/-- One event, seen by what it does. -/
inductive StepView (s : OmsState) : OmsEvent → OmsState → Prop where
  | command {event : OmsEvent} {t : OmsState} (own : event.isCommand = true)
      (effect : CommandEffect event.clock (event.Refuses s) s t) : StepView s event t
  | orderUpdate (env : EventEnv) (raw : RawOrderUpdate) :
      StepView s (.orderUpdate env raw) (s.applyEvent env raw)
  | trade (env : EventEnv) (trade : ExchangeTrade) (remote : Option RemoteOrder) :
      StepView s (.trade env trade remote) (s.applyExchangeTrade env trade remote).1
  | orderSnapshot (env : EventEnv) (snapshot : OrderSnapshot) :
      StepView s (.orderSnapshot env snapshot) (s.applyExchangeOrderSnapshot env snapshot).1
  | account (env : AccountEnv) (raw : RawAccountUpdate) :
      StepView s (.account env raw) (s.onExchangeAccountUpdate env raw)
  | reset (snapshot : ResetSnapshot) : StepView s (.reset snapshot) (s.fullReset snapshot).1
  | restart {now : ℚ} {t : OmsState} (recovered : s.restart now = .ok t) :
      StepView s (.restart now) t

/-- Every step is one of these. -/
theorem stepView {s t : OmsState} {event : OmsEvent} (h : s.step event = some t) :
    StepView s event t := by
  cases event with
  | submit env clientOid intent reasonText =>
    cases h
    exact .command rfl (submitOrder_effect env s clientOid intent reasonText)
  | emergency now market lastTradePrice clientOid symbol volume qty reason =>
    cases h
    exact .command rfl
      (emergencyFlatten_effect s now _ lastTradePrice clientOid symbol volume qty reason)
  | submitResult now clientOid reply =>
    cases h
    exact .command rfl (settleSubmit_effect s now clientOid reply)
  | absent now clientOid =>
    cases h
    exact .command rfl (confirmAbsent_effect s now clientOid)
  | cancel now clientOid =>
    cases h
    exact .command rfl (cancelOrder_effect s now clientOid)
  | cancelResult now clientOid reply =>
    cases h
    exact .command rfl (settleCancel_effect s now clientOid reply)
  | orderUpdate env raw =>
    cases h
    exact .orderUpdate env raw
  | trade env trade remote =>
    cases h
    exact .trade env trade remote
  | orderSnapshot env snapshot =>
    cases h
    exact .orderSnapshot env snapshot
  | account env raw =>
    cases h
    exact .account env raw
  | reset snapshot =>
    cases h
    exact .reset snapshot
  | restart now =>
    change (s.restart now).toOption = some t at h
    cases hresult : s.restart now with
    | error err =>
      rw [hresult] at h
      cases h
    | ok next =>
      rw [hresult] at h
      cases h
      exact .restart hresult

end OmsState

end ChronosHFT.Oms
