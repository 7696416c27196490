import ChronosHFT.Lib.Interleaving
import ChronosHFT.Lib.Text

/-!
# The leases of one submission

A submission runs through durable phases and acquires leases on its way; `finalize` ends it from
any phase and releases what it holds.  Every method takes the lock for its critical section only:
the fault injector runs before it, the gate cleanup and the releases after it.  So a method is a
call with several turns, and calls interleave (`Call.advance`).

`ρ` are the release callbacks, `γ` the gate cleanups and `ε` the exceptions that code outside
raises. -/

namespace ChronosHFT.Submission

open Interleaving

inductive SubmissionState
  | created
  | preparedDurable
  | permitAcquired
  | dispatched
  | settledDurable
  | terminal
  deriving Repr, DecidableEq

/-- The value of the enumeration. -/
def SubmissionState.value : SubmissionState → String
  | created => "CREATED"
  | preparedDurable => "PREPARED_DURABLE"
  | permitAcquired => "PERMIT_ACQUIRED"
  | dispatched => "DISPATCHED"
  | settledDurable => "SETTLED_DURABLE"
  | terminal => "TERMINAL"

inductive SubmissionTerminalOutcome
  | acknowledged
  | unknown
  | rejected
  | failedClosed
  deriving Repr, DecidableEq

/-- `_NEXT_STATE.get`. -/
def SubmissionState.nextState : SubmissionState → Option SubmissionState
  | created => some preparedDurable
  | preparedDurable => some permitAcquired
  | permitAcquired => some dispatched
  | dispatched => some settledDurable
  | settledDurable => some terminal
  | terminal => none

/-- What a method raises. -/
inductive Failure (ε : Type)
  /-- `SubmissionTransitionError`. -/
  | transition (message : String)
  /-- `ValueError`. -/
  | value (message : String)
  /-- `SubmissionFinalizationError`. -/
  | finalization (errors : List ε)
  /-- What code outside raised. -/
  | external (error : ε)
  deriving Repr, DecidableEq

structure Lease (ρ : Type) where
  name : String
  release : ρ
  deriving Repr, DecidableEq

/-- `SubmissionTransaction`. -/
structure Transaction (ρ γ : Type) where
  state : SubmissionState
  history : List SubmissionState
  permitEpoch : Option ℤ
  terminalOutcome : Option SubmissionTerminalOutcome
  leases : List (Lease ρ)
  gateCleanup : Option γ
  finalized : Bool
  deriving Repr, DecidableEq

namespace Transaction

variable {ρ γ ε : Type}

/-- A new transaction. -/
def new : Transaction ρ γ :=
  { state := .created, history := [.created], permitEpoch := none, terminalOutcome := none,
    leases := [],
    gateCleanup := none, finalized := false }

/-- The text of `_raise_bad_transition`. -/
def badTransition (tx : Transaction ρ γ) (target : SubmissionState) : String :=
  "invalid submission transition " ++ tx.state.value ++ " -> " ++ target.value

/-! ## Critical sections -/

/-- `bind_gate_cleanup`. -/
def bindGateCleanup (tx : Transaction ρ γ) (cleanup : γ) :
    Except (Failure ε) (Transaction ρ γ) :=
  if tx.finalized then .error (.transition "cannot bind gate cleanup after finalization")
  else if tx.gateCleanup.isSome then .error (.transition "gate cleanup already bound")
  else .ok { tx with gateCleanup := some cleanup }

/-- `_advance`, once the injector has let it pass. -/
def advance (tx : Transaction ρ γ) (target : SubmissionState) :
    Except (Failure ε) (Transaction ρ γ) :=
  if tx.finalized then .error (.transition (tx.badTransition target))
  else if tx.state.nextState ≠ some target then .error (.transition (tx.badTransition target))
  else .ok { tx with state := target, history := tx.history ++ [target] }

def permitName : String := "outbound-permit"

/-- `permit_acquired`, once the injector has let it pass. -/
def permitAcquired (tx : Transaction ρ γ) (permitEpoch : ℤ) (release : ρ) :
    Except (Failure ε) (Transaction ρ γ) :=
  if tx.state ≠ .preparedDurable then .error (.transition (tx.badTransition .permitAcquired))
  else if tx.leases.any fun lease => lease.name = permitName
    then .error (.transition "permit already acquired")
  else .ok { tx with permitEpoch := some permitEpoch
                     leases := tx.leases ++ [{ name := permitName, release := release }]
                     state := .permitAcquired
                     history := tx.history ++ [.permitAcquired] }

/-- `acquire_lease`, with its name stripped. -/
def acquireLease (tx : Transaction ρ γ) (normalizedName : String) (release : ρ) :
    Except (Failure ε) (Transaction ρ γ) :=
  if tx.finalized then .error (.transition "cannot acquire lease after finalization")
  else if tx.leases.any fun lease => lease.name = normalizedName then
    .error (.transition ("lease already acquired: " ++ normalizedName))
  else .ok { tx with leases := tx.leases ++ [{ name := normalizedName, release := release }] }

/-- What is left of a transaction by the `finalize` that closes it. -/
def closed (tx : Transaction ρ γ) (outcome : SubmissionTerminalOutcome) : Transaction ρ γ :=
  { tx with leases := []
            terminalOutcome := some outcome
            state := .terminal
            history := tx.history ++ [.terminal]
            finalized := true }

end Transaction

/-- The arguments of `finalize`. -/
structure FinalizeArguments (ε : Type) where
  outcome : SubmissionTerminalOutcome
  gateFailureContext : String
  gateFailure : Option ε
  deriving Repr, DecidableEq

/-- The context and the exception are supplied together, or neither is. -/
def FinalizeArguments.Together {ε : Type} (args : FinalizeArguments ε) : Prop :=
  args.gateFailureContext ≠ "" ↔ args.gateFailure.isSome = true

instance {ε : Type} (args : FinalizeArguments ε) : Decidable args.Together :=
  inferInstanceAs (Decidable (_ ↔ _))

/-! ## Calls -/

/-- A call of a method, where it stands. -/
inductive Call (ρ γ ε : Type)
  | bindGateCleanup (cleanup : γ)
  /-- `prepared_durable`, `dispatched` or `settled_durable`, about to ask the injector. -/
  | advance (target : SubmissionState)
  | advancePassed (target : SubmissionState)
  | permitAcquired (permitEpoch : Option ℤ) (release : ρ)
  | permitPassed (permitEpoch : ℤ) (release : ρ)
  | acquireLease (name : String) (release : ρ)
  /-- About to take the lock for the first time. -/
  | finalize (args : FinalizeArguments ε)
  /-- About to ask the injector. -/
  | finalizeInject (args : FinalizeArguments ε)
  /-- About to take the lock again. -/
  | finalizePassed (args : FinalizeArguments ε)
  /-- The lock is released, the gate is to be closed. -/
  | closeGate (cleanup : γ) (context : String) (failure : ε) (leases : List (Lease ρ))
  /-- These leases are to be released, and this was raised so far. -/
  | releasing (leases : List (Lease ρ)) (errors : List ε)
  | returned
  | raised (failure : Failure ε)
  deriving Repr, DecidableEq

/-- The transaction, and what is seen of it from outside. -/
structure Shared (ρ γ : Type) where
  transaction : Transaction ρ γ
  /-- The leases that were registered, in order. -/
  registered : List (Lease ρ)
  /-- The leases whose release was called, with the call that did, in order. -/
  released : List (ℕ × Lease ρ)
  /-- The `finalize` calls that the injector let pass and that took the lock again with arguments
  that go together, in the order they took it. -/
  entered : List (ℕ × SubmissionTerminalOutcome)
  deriving Repr, DecidableEq

namespace Call

variable {ρ γ ε : Type}

/-- Where a call starts. -/
def begins : Call ρ γ ε → Bool
  | bindGateCleanup _ => true
  | advance target => decide (target = .preparedDurable ∨ target = .dispatched ∨
    target = .settledDurable)
  | permitAcquired _ _ => true
  | acquireLease _ _ => true
  | finalize _ => true
  | _ => false

/-- A critical section that changes the transaction or raises, and registers these leases. -/
def critical (s : Shared ρ γ) (result : Except (Failure ε) (Transaction ρ γ))
    (leases : List (Lease ρ)) :
    Call ρ γ ε × Shared ρ γ :=
  match result with
  | .ok tx => (returned, { s with transaction := tx, registered := s.registered ++ leases })
  | .error failure => (raised failure, s)

/-- The critical section of `finalize`, and where the call goes on. -/
def close (i : ℕ) (args : FinalizeArguments ε) (s : Shared ρ γ) : Call ρ γ ε × Shared ρ γ :=
  let s' := if args.Together then { s with entered := s.entered ++ [(i, args.outcome)] } else s
  if s.transaction.finalized then (returned, s')
  else if ¬args.Together then
    (raised (.value "gate failure context and exception must be supplied together"), s')
  else
    let leases := s.transaction.leases.reverse
    let next := match args.gateFailure, s.transaction.gateCleanup with
      | some failure, some cleanup => closeGate cleanup args.gateFailureContext failure leases
      | _, _ => releasing leases []
    (next, { s' with transaction := s.transaction.closed args.outcome })

/-- A turn of a call; `raises` is what the code outside raises that runs in it. -/
def step (i : ℕ) (call : Call ρ γ ε) (raises : Option ε) (s : Shared ρ γ) :
    Option (Call ρ γ ε × Shared ρ γ) :=
  match call with
  | bindGateCleanup cleanup => some (critical s (s.transaction.bindGateCleanup cleanup) [])
  | advance target =>
    match raises with
    | some error => some (raised (.external error), s)
    | none => some (advancePassed target, s)
  | advancePassed target => some (critical s (s.transaction.advance target) [])
  | permitAcquired none _ => some (raised (.transition "permit epoch is required"), s)
  | permitAcquired (some permitEpoch) release =>
    match raises with
    | some error => some (raised (.external error), s)
    | none => some (permitPassed permitEpoch release, s)
  | permitPassed permitEpoch release =>
    some (critical s (s.transaction.permitAcquired permitEpoch release)
      [{ name := Transaction.permitName, release := release }])
  | acquireLease name release =>
    let normalizedName := Text.strip name
    if normalizedName = "" then some (raised (.value "lease name is required"), s)
    else some (critical s (s.transaction.acquireLease normalizedName release)
      [{ name := normalizedName, release := release }])
  | finalize args => some (if s.transaction.finalized then returned else finalizeInject args, s)
  | finalizeInject args =>
    match raises with
    | some error => some (raised (.external error), s)
    | none => some (finalizePassed args, s)
  | finalizePassed args => some (close i args s)
  | closeGate _ _ _ leases => some (releasing leases raises.toList, s)
  | releasing (lease :: leases) errors =>
    some (releasing leases (errors ++ raises.toList),
      { s with released := s.released ++ [(i, lease)] })
  | releasing [] errors => some (if errors = [] then returned else raised (.finalization errors),
    s)
  | returned => none
  | raised _ => none

end Call

end ChronosHFT.Submission
