import ChronosHFT.Oms.Journal
import ChronosHFT.Sidecar.KillLatch

/-!
# The coordinated rearm

`coordinated_rearm` of `infrastructure/admin_control.py`: what an operator's rearm command does
to the three parties that may each have stopped trading, the OMS, the risk manager and the
sidecar process.  It asks the risk manager, prepares the sidecar, rearms the OMS, commits the
sidecar and has the risk manager acknowledge.  There is no log of the transaction: what an
attempt leaves behind is what the next one starts from.

The sidecar is the one of `Sidecar.Core`.  Of the OMS there is its lifecycle, with `rearm_system`
and what `_perform_full_reset` makes of it, and of the risk manager its kill switch.  What a call
meets of the outside is an input: the audits that fail, the halts and freezes of other threads,
the messages that are lost and the exceptions that escape. -/

namespace ChronosHFT.Admin

open Oms (LifecycleState)
open Sidecar (Core Call GateInput Settings orText)

/-! ## The lifecycle of the OMS -/

/-- The lifecycle of the OMS; `journalFailure` is the reason its order sends are sealed for. -/
structure Lifecycle where
  state : LifecycleState
  manualRearmRequired : Bool
  lastHaltReason : String := ""
  lastFreezeReason : String := ""
  generation : ℕ := 0
  journalFailure : Option String := none
  deriving DecidableEq, Repr

/-- What other threads do to the lifecycle; the text of an audit is the error it fails with. -/
inductive LifecycleMove
  | halt (reason : String) (audit : Option String)
  | freeze (reason : String) (audit : Option String)
  deriving DecidableEq, Repr

/-- What a full reset meets. -/
structure ResetIo where
  /-- The audit of its start; its error escapes. -/
  started : Option String := none
  /-- What other threads do until the reset takes the lock for the last time. -/
  meanwhile : List LifecycleMove := []
  /-- Why the venue's dead man's switch could not be armed. -/
  unarmed : Option String := none
  /-- An exception on the way. -/
  failure : Option String := none
  /-- The symbols of positions that are not configured. -/
  offConfig : List String := []
  /-- Whether a shutdown was requested. -/
  stopping : Bool := false
  /-- An exception under the lock, after the state was set. -/
  finished : Option String := none
  /-- The audit of a halt of the reset. -/
  halt : Option String := none
  deriving DecidableEq, Repr

/-- What `rearm_system` meets. -/
structure SystemIo where
  /-- The audit of the request. -/
  requested : Option String := none
  /-- The audit of the transition. -/
  transition : Option String := none
  reset : ResetIo := {}
  /-- What other threads do after the reset. -/
  afterwards : List LifecycleMove := []
  /-- The audit of the end. -/
  completed : Option String := none
  /-- Whether an exception escapes from failing closed. -/
  escapes : Bool := false
  deriving DecidableEq, Repr

namespace Lifecycle

/-- `_fail_closed_on_journal_error`: the first reason stays. -/
def failClosed (o : Lifecycle) (error context : String) : Lifecycle :=
  let reason := o.journalFailure.getD s!"durable_journal_unavailable:{context}:{error}"
  { o with
    journalFailure := some reason
    state := .halted
    generation := if o.journalFailure.isSome then o.generation else o.generation + 1
    manualRearmRequired := true
    lastHaltReason := reason
    lastFreezeReason := "" }

/-- `halt_system`, with the error of its audit. -/
def haltSystem (o : Lifecycle) (reason : String) (audit : Option String) : Lifecycle :=
  let o :=
    if o.state = .halted then
      { o with
        generation := o.generation + 1
        lastHaltReason := reason
        manualRearmRequired := true }
    else
      { o with
        generation := o.generation + 1
        state := .halted
        manualRearmRequired := true
        lastHaltReason := reason
        lastFreezeReason := "" }
  match audit with
  | none => o
  | some error => o.failClosed error "halt_system"

/-- `freeze_system`; a halted OMS stays halted. -/
def freezeSystem (o : Lifecycle) (reason : String) (audit : Option String) : Lifecycle :=
  if o.state = .halted then o
  else
    let o := { o with
      generation := o.generation + 1
      state := .frozen
      lastFreezeReason := reason }
    match audit with
    | none => o
    | some error => o.failClosed error "freeze_system"

/-- A move of another thread. -/
def move (o : Lifecycle) : LifecycleMove → Lifecycle
  | .halt reason audit => o.haltSystem reason audit
  | .freeze reason audit => o.freezeSystem reason audit

/-- An exception inside the reset halts the OMS. -/
def guarded (o : Lifecycle) (error halt : Option String) : Lifecycle :=
  match error with
  | none => o
  | some error => o.haltSystem s!"Reset failed: {error}" halt

/-- The end of `_perform_full_reset`, under the lock: the OMS goes live if it is still in the
state, and of the generation, that the reset was entered in. -/
def finishReset (o entry : Lifecycle) (io : ResetIo) : Lifecycle :=
  let o :=
    if io.stopping then
      if o.state = .halted then o
      else { o with state := .frozen, generation := o.generation + 1 }
    else if (entry.state ≠ .bootstrap ∧ entry.state ≠ .reconciling) ∨ o.state ≠ entry.state ∨
        o.generation ≠ entry.generation then o
    else
      { o with
        state := .live
        generation := o.generation + 1
        manualRearmRequired := false
        lastFreezeReason := ""
        lastHaltReason := "" }
  o.guarded io.finished io.halt

/-- `_perform_full_reset`; an error is an exception that escapes, with what it left behind. -/
def performFullReset (entry : Lifecycle) (io : ResetIo) : Except Lifecycle Lifecycle :=
  match io.started with
  | some _ => .error entry
  | none =>
    let o := io.meanwhile.foldl move entry
    match io.unarmed with
    | some reason => .ok (o.haltSystem reason io.halt)
    | none =>
      if io.failure.isSome then .ok (o.guarded io.failure io.halt)
      else if io.offConfig ≠ [] then
        .ok (o.haltSystem ("Off-config nonzero positions require manual handling: " ++
          ",".intercalate io.offConfig) io.halt)
      else .ok (o.finishReset entry io)

/-- A rearm that fails closed is refused, if no exception escapes. -/
def refuseClosed (o : Lifecycle) (error context : String) (io : SystemIo) :
    Except Lifecycle (Lifecycle × Bool) :=
  if io.escapes then .error (o.failClosed error context)
  else .ok (o.failClosed error context, false)

/-- `rearm_system`. -/
def rearmSystem (o : Lifecycle) (io : SystemIo) : Except Lifecycle (Lifecycle × Bool) :=
  if o.state ≠ .halted ∨ o.manualRearmRequired = false then
    match io.requested with
    | some error => o.refuseClosed error "rearm_ignored" io
    | none => .ok (o, false)
  else
    match io.requested with
    | some error => o.refuseClosed error "rearm_transition" io
    | none =>
      let o := { o with state := .reconciling, generation := o.generation + 1 }
      match io.transition with
      | some error => o.refuseClosed error "rearm_transition" io
      | none =>
        match o.performFullReset io.reset with
        | .error left => .error left
        | .ok reset =>
          let o := io.afterwards.foldl move reset
          if o.state = .live then
            match io.completed with
            | none => .ok ({ o with manualRearmRequired := false, lastHaltReason := "" }, true)
            | some error =>
              ({ o with manualRearmRequired := true, lastHaltReason := "" } :
                Lifecycle).refuseClosed error "rearm_completed" io
          else .ok ({ o with manualRearmRequired := true }, false)

end Lifecycle

/-! ## The kill switch of the risk manager -/

/-- The kill states. -/
inductive KillState
  | armed
  | triggered
  | cancelPending
  | flattening
  | flatVerified
  | failed
  deriving DecidableEq, Repr

/-- The durable part of the kill switch. -/
structure KillSwitch where
  triggered : Bool := false
  state : KillState := .armed
  reason : String := ""
  deriving DecidableEq, Repr

/-- What `trigger_kill_switch` meets. -/
structure KillIo where
  /-- Whether persisting raises. -/
  persistRaises : Bool := false
  /-- The audit of its halt. -/
  halt : Option String := none
  /-- Where cancelling and the first verification leave it. -/
  settles : KillState := .cancelPending
  /-- Whether an exception escapes at the end. -/
  raises : Bool := false
  deriving DecidableEq, Repr

namespace KillSwitch

/-- `can_operator_rearm`. -/
def canOperatorRearm (k : KillSwitch) : Bool := k.triggered = false ∨ k.state = .flatVerified

/-- `_refresh_rearm_state`: a verified kill is over once the OMS is live again. -/
def refreshRearmState (k : KillSwitch) (o : Lifecycle) : KillSwitch :=
  if k.triggered = false then k
  else if k.state ≠ .flatVerified then k
  else if o.state ≠ .live ∨ o.manualRearmRequired then k
  else { triggered := false, state := .armed, reason := "" }

/-- `trigger_kill_switch`; nothing if it is triggered already.  An error is an exception that
escapes, with what it left behind. -/
def triggerKillSwitch (k : KillSwitch) (o : Lifecycle) (reason : String) (io : KillIo) :
    Except (KillSwitch × Lifecycle) (KillSwitch × Lifecycle) :=
  if k.triggered then .ok (k, o)
  else
    let k : KillSwitch := { triggered := true, state := .triggered, reason := reason }
    if io.persistRaises then .error (k, o)
    else
      let o := o.haltSystem s!"KillSwitch: {reason}" io.halt
      let k := { k with state := io.settles }
      if io.raises then .error (k, o) else .ok (k, o)

end KillSwitch

/-! ## Requests to the sidecar -/

/-- What becomes of a request: it is taken and answered, or the parent gives up on it, or an
exception escapes; where there is no answer the sidecar may have taken it or not. -/
inductive Delivery
  | answered
  | lost (taken : Bool) (reason : String)
  | raises (taken : Bool)
  deriving DecidableEq, Repr

/-- Whether the sidecar takes the request. -/
def Delivery.taken : Delivery → Bool
  | .answered => true
  | .lost taken _ => taken
  | .raises taken => taken

/-- A token as `secrets.token_hex` gives them. -/
structure Token where
  text : String
  nonempty : text ≠ ""
  ascii : text.toList.all (fun c => decide (c.toNat < 128)) = true

/-- What `prepare_rearm` meets; the token is the one the sidecar draws. -/
structure PrepareIo where
  delivery : Delivery := .answered
  requestId : String
  now : ℚ
  input : GateInput
  token : Token

/-- What `commit_rearm` meets. -/
structure CommitIo where
  delivery : Delivery := .answered
  requestId : String
  now : ℚ
  input : GateInput

/-- What `abort_rearm` meets: whether the sidecar takes it, and whether an exception escapes. -/
structure AbortIo where
  taken : Bool := true
  raises : Bool := false
  deriving DecidableEq, Repr

/-- What the parent hears of a request; `none` is an exception. -/
def Delivery.hear {α : Type} (delivery : Delivery) (reply : Option (Except String α)) :
    Option (Except String α) :=
  match delivery with
  | .answered => some (reply.getD (.error "supervisor_process_down_before_ack"))
  | .lost _ reason => some (.error reason)
  | .raises _ => none

section Requests

variable (st : Settings)

/-- `prepare_rearm` of the supervisor. -/
def requestPrepare (c : Core) (reason : String) (io : PrepareIo) :
    Core × Option (Except String String) :=
  if io.delivery.taken then
    let (c, reply) := c.prepareRearm st io.requestId reason io.now io.input io.token.text
    (c, io.delivery.hear reply)
  else (c, io.delivery.hear none)

/-- `commit_rearm` of the supervisor. -/
def requestCommit (c : Core) (token : String) (io : CommitIo) :
    Core × Option (Except String Unit) :=
  if io.delivery.taken then
    let (c, reply) := c.commitRearm st io.requestId token io.now io.input
    (c, io.delivery.hear reply)
  else (c, io.delivery.hear none)

/-- `abort_rearm` of the supervisor. -/
def requestAbort (c : Core) (token : String) (io : AbortIo) : Core :=
  if io.taken then (c.abortRearm token).1 else c

end Requests

/-! ## The attempt -/

/-- What an attempt meets.  `meanwhile` are the calls the sidecar makes while the OMS resets. -/
structure RearmIo where
  askRaises : Bool := false
  prepare : PrepareIo
  meanwhile : List Call := []
  system : SystemIo := {}
  abort : AbortIo := {}
  commit : CommitIo
  kill : KillIo := {}
  /-- The audit of the halt, and whether an exception escapes from it. -/
  halt : Option String := none
  haltRaises : Bool := false
  acknowledgeRaises : Bool := false

/-- The three parties. -/
structure Parties where
  oms : Lifecycle
  risk : KillSwitch := {}
  sidecar : Core

/-- How an attempt ends: with a result, or with an exception. -/
inductive RearmResult
  | returned (accepted : Bool) (reason : String)
  | raised
  deriving DecidableEq, Repr

/-- Whether an attempt is accepted. -/
def RearmResult.accepted : RearmResult → Bool
  | .returned accepted _ => accepted
  | .raised => false

namespace Parties

variable (st : Settings)

/-- A refusal that halts the OMS. -/
def refuseHalted (s : Parties) (text reason : String) (io : RearmIo) : Parties × RearmResult :=
  ({ s with oms := s.oms.haltSystem text io.halt },
    if io.haltRaises then .raised else .returned false reason)

/-- The sidecar did not confirm the commit: the kill switch is triggered and the OMS halted. -/
def commitRefused (s : Parties) (refusal : String) (io : RearmIo) : Parties × RearmResult :=
  let failure := orText refusal "sidecar_rearm_commit_failed"
  let text := s!"IndependentSupervisor rearm failed: {failure}"
  match s.risk.triggerKillSwitch s.oms text io.kill with
  | .error (risk, oms) => ({ s with risk := risk, oms := oms }, .raised)
  | .ok (risk, oms) =>
    ({ s with risk := risk, oms := oms } : Parties).refuseHalted text failure io

/-- The end of an attempt: `acknowledge_operator_rearm` of the risk manager. -/
def acknowledge (s : Parties) (io : RearmIo) : Parties × RearmResult :=
  let s := { s with risk := s.risk.refreshRearmState s.oms }
  if io.acknowledgeRaises then (s, .raised)
  else if s.risk.triggered then
    s.refuseHalted "RiskManager refused operator rearm acknowledgement"
      "risk_manager_rearm_acknowledgement_failed" io
  else (s, .returned true "coordinated_rearm_completed")

/-- The attempt once the OMS is rearmed. -/
def commitPhase (s : Parties) (token : String) (io : RearmIo) : Parties × RearmResult :=
  match requestCommit st s.sidecar token io.commit with
  | (c, none) => ({ s with sidecar := c }, .raised)
  | (c, some (.error refusal)) => ({ s with sidecar := c } : Parties).commitRefused refusal io
  | (c, some (.ok ())) => ({ s with sidecar := c } : Parties).acknowledge io

/-- The attempt once the sidecar is prepared. -/
def systemPhase (s : Parties) (token : String) (io : RearmIo) : Parties × RearmResult :=
  match s.oms.rearmSystem io.system with
  | .error oms => ({ s with oms := oms }, .raised)
  | .ok (oms, false) =>
    ({ s with oms := oms, sidecar := requestAbort s.sidecar token io.abort },
      if io.abort.raises then .raised else .returned false "oms_rearm_refused")
  | .ok (oms, true) => ({ s with oms := oms } : Parties).commitPhase st token io

/-- `coordinated_rearm`. -/
def coordinatedRearm (s : Parties) (reason : String) (io : RearmIo) : Parties × RearmResult :=
  if io.askRaises then (s, .raised)
  else if s.risk.canOperatorRearm = false then
    (s, .returned false "risk_manager_flat_state_not_verified")
  else
    match requestPrepare st s.sidecar (orText reason "operator_rearm") io.prepare with
    | (c, none) => ({ s with sidecar := c }, .raised)
    | (c, some (.error refusal)) =>
      ({ s with sidecar := c },
        .returned false (orText refusal "sidecar_rearm_prepare_failed"))
    | (c, some (.ok token)) =>
      ({ s with sidecar := c.after st io.meanwhile } : Parties).systemPhase st token io

end Parties

/-! ## Runs -/

/-- What happens to the parties: the OMS halts by itself, the sidecar is called, the kill switch
is triggered or its supervision moves it, and an operator attempts a rearm. -/
inductive RearmStep
  | halts (reason : String) (audit : Option String)
  | sidecar (call : Call)
  | kills (reason : String) (io : KillIo)
  | supervises (state : KillState)
  | attempts (reason : String) (io : RearmIo)

/-- One step. -/
def Parties.step (st : Settings) (s : Parties) : RearmStep → Parties
  | .halts reason audit => { s with oms := s.oms.haltSystem reason audit }
  | .sidecar call => { s with sidecar := (s.sidecar.call st call).1 }
  | .kills reason io =>
    match s.risk.triggerKillSwitch s.oms reason io with
    | .error (risk, oms) => { s with risk := risk, oms := oms }
    | .ok (risk, oms) => { s with risk := risk, oms := oms }
  | .supervises state =>
    if s.risk.triggered then { s with risk := { s.risk with state := state } } else s
  | .attempts reason io => (s.coordinatedRearm st reason io).1

/-- The steps of a run; each can be taken. -/
def Parties.take (st : Settings) (s : Parties) (a : RearmStep) : Option Parties :=
  some (s.step st a)

end ChronosHFT.Admin
