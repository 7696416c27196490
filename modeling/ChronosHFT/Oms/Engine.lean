import ChronosHFT.Oms.AccountTruth
import ChronosHFT.Oms.PositionTruth
import ChronosHFT.Oms.Submission

/-!
# The engine

Every operation that changes orders, ledgers or the journal, as one labelled step.
A run of the OMS is a list of such events, in any order: the lock makes each of
them one step, and the network decides which comes next.

A restart is an event like the others.  It is the only one that may be impossible:
when the rebuild raises, there is no next state.
-/

namespace ChronosHFT.Oms

/-- One thing the OMS does or is told. -/
inductive OmsEvent where
  /-- `submit_order` with the client id it draws. -/
  | submit (env : SubmitEnv) (clientOid : String) (intent : OrderIntent)
      (reasonText : SubmitRejection → String)
  /-- One symbol of `emergency_reduce_only_flatten`. -/
  | emergency (now : ℚ) (market : Quotes) (lastTradePrice : String → ℚ)
      (clientOid symbol : String) (volume qty : ℚ) (reason : String)
  /-- The gateway's answer to a submit. -/
  | submitResult (now : ℚ) (clientOid : String) (reply : OmsState.CommandReply)
  /-- `query_order` confirmed that an unknown submit does not exist. -/
  | absent (now : ℚ) (clientOid : String)
  /-- `cancel_order`. -/
  | cancel (now : ℚ) (clientOid : String)
  /-- The gateway's answer to a cancel. -/
  | cancelResult (now : ℚ) (clientOid : String) (reply : OmsState.CommandReply)
  /-- An order update from the user stream. -/
  | orderUpdate (env : EventEnv) (raw : RawOrderUpdate)
  /-- A trade from the REST history, with the answer of `query_order`. -/
  | trade (env : EventEnv) (trade : ExchangeTrade) (remote : Option RemoteOrder)
  /-- The venue's answer to `query_order` about one order. -/
  | orderSnapshot (env : EventEnv) (snapshot : OrderSnapshot)
  /-- An account update from the user stream. -/
  | account (env : AccountEnv) (raw : RawAccountUpdate)
  /-- The committed part of a full reset. -/
  | reset (snapshot : OmsState.ResetSnapshot)
  /-- The process ends and a new one reads the journal. -/
  | restart (now : ℚ)

namespace OmsState

/-- One event. -/
def step (s : OmsState) : OmsEvent → Option OmsState
  | .submit env clientOid intent reasonText =>
    some (s.submitOrder env clientOid intent reasonText)
  | .emergency now market lastTradePrice clientOid symbol volume qty reason =>
    some (s.emergencyFlatten now market.toMarketData lastTradePrice clientOid symbol volume qty
      reason)
  | .submitResult now clientOid reply => some (s.settleSubmit now clientOid reply)
  | .absent now clientOid => some (s.confirmAbsent now clientOid)
  | .cancel now clientOid => some (s.cancelOrder now clientOid)
  | .cancelResult now clientOid reply => some (s.settleCancel now clientOid reply)
  | .orderUpdate env raw => some (s.applyEvent env raw)
  | .trade env trade remote => some (s.applyExchangeTrade env trade remote).1
  | .orderSnapshot env snapshot => some (s.applyExchangeOrderSnapshot env snapshot).1
  | .account env raw => some (s.onExchangeAccountUpdate env raw)
  | .reset snapshot => some (s.fullReset snapshot).1
  | .restart now => (s.restart now).toOption

end OmsState

end ChronosHFT.Oms
