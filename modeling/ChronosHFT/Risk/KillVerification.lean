import ChronosHFT.Risk.KillSwitch
import ChronosHFT.Lib.Run

/-!
# Flat is verified

The kill switch over the steps of all threads that work on it.  Triggers, restarts and the retry
of a failed sequence change the state under the state lock, an attempt runs under the
verification lock, and each of them is one step.  A release takes no lock: every statement of
`_refresh_rearm_state` is a step, in as many threads as call it.  `triggerKillSwitch` and the
other calls are sequences of steps; calls of several threads interleave to some list of steps,
and the theorem is about every list.

**What comes between the statements of a release is lost**: a restart after account drift is
overwritten by a release whose checks came before it (`restart_overwritten`).  What a release
relies on is `RefreshPoint.spared` by the other steps.

**What a counter stands for** (`Confirming`).  The flat counter never exceeds the length of an
unbroken sequence of accepted attempts, the last ones there were, that all saw the account flat
and are an interval apart.  The counter of orders only adds to what is asked. -/

namespace ChronosHFT.Risk

open KillSwitch

/-! ## Steps -/

inductive KillStep
  | trigger (reason : String)
  | restart (reason : String)
  | retryFailed
  /-- A mass cancel was requested. -/
  | cancelRequested
  /-- The time for the verification is over, or a recovered state is not valid. -/
  | markFailed
  | attempt (attempt : Attempt)
  /-- The OMS is halted, rearmed or frozen. -/
  | omsMoves (view : RearmView)
  /-- The next statement of a thread that refreshes the rearm state. -/
  | refresh (thread : ℕ)

/-- What the steps leave behind. -/
inductive Mark
  /-- An attempt that saw no orders, at a time when a snapshot counts. -/
  | accepted (attempt : Attempt)
  /-- A failed attempt, one that saw orders, or a new start. -/
  | broken

/-- The kill switch, the OMS, if there is one, the threads that refresh the rearm state, and the
marks, the newest first. -/
structure KillWatch where
  switch : KillSwitch
  oms : Option RearmView
  calls : List RefreshPoint
  marks : List Mark := []

namespace KillWatch

variable (cfg : KillSwitchConfig)

/-- Does an attempt raise? -/
def raises (k : KillSwitch) (a : Attempt) : Bool := (k.verifyKillStateOnce cfg a).verified.isNone

/-- The marks with an attempt that is accepted. -/
def markAccepted (w : KillWatch) (a : Attempt) : List Mark :=
  if a.noOrders && !w.switch.early cfg a then .accepted a :: w.marks else w.marks

/-- The marks after an attempt. -/
def markAttempt (w : KillWatch) (a : Attempt) : List Mark :=
  if !a.noOrders || raises cfg w.switch a then .broken :: w.markAccepted cfg a
  else w.markAccepted cfg a

/-- A new start. -/
def begin (w : KillWatch) (switch : KillSwitch) : KillWatch :=
  { w with switch := switch, marks := .broken :: w.marks }

/-- A state that is set. -/
def setState (w : KillWatch) (state : KillState) : KillWatch :=
  { w with switch := { w.switch with killState := state } }

/-- One statement of a call that stands at a point. -/
def refreshAt (w : KillWatch) (thread : ℕ) (point : RefreshPoint) : KillWatch :=
  let (switch, next) := w.switch.refreshRearmState w.oms point
  { w with
    switch := switch
    calls := w.calls.set thread next
    marks := if point = .resetFlats then .broken :: w.marks else w.marks }

/-- One step. -/
def next (w : KillWatch) : KillStep → KillWatch
  | .trigger reason =>
    if w.switch.killSwitchTriggered then w else w.begin (w.switch.trigger reason)
  | .restart reason => w.begin (w.switch.restart reason)
  | .retryFailed => w.begin w.switch.retryFailed
  | .cancelRequested => w.setState .cancelPending
  | .markFailed => w.setState .failed
  | .attempt a =>
    { w with
      switch := (w.switch.verifyKillStateSafely cfg a).1
      marks := w.markAttempt cfg a }
  | .omsMoves view => { w with oms := w.oms.map fun _ => view }
  | .refresh thread =>
    match w.calls[thread]? with
    | none => w
    | some point => w.refreshAt thread point

def step (w : KillWatch) (s : KillStep) : Option KillWatch := some (w.next cfg s)

/-- **A confirmation**: attempts that were accepted one after the other, the newest of all, at
least an interval apart, that each saw the account flat. -/
structure Confirms (marks : List Mark) (attempts : List Attempt) : Prop where
  newest : attempts.map Mark.accepted <+: marks
  flat : ∀ a ∈ attempts, a.SeesFlat
  apart : attempts.IsChain fun later earlier =>
    cfg.verifyIntervalSec ≤ later.now.1 - earlier.now.1

/-- **Flat is verified** by a step only if enough attempts confirm it, the one of the step the
last. -/
def FlatConfirmed (w : KillWatch) (s : KillStep) : Prop :=
  w.switch.killState ≠ .flatVerified → (w.next cfg s).switch.killState = .flatVerified →
    ∃ a attempts, s = .attempt a ∧ attempts.length = cfg.emptySnapshotsRequired ∧
      Confirms cfg (w.markAccepted cfg a) attempts

/-- **The latch is released** only from verified flatness, with the OMS live and no rearm
pending. -/
def LatchHeld (w : KillWatch) (s : KillStep) : Prop :=
  w.switch.killSwitchTriggered = true → (w.next cfg s).switch.killSwitchTriggered = false →
    w.switch.killState = .flatVerified ∧
      ∃ view ∈ w.oms, view.live = true ∧ view.manualRearmRequired = false

/-- Does a step leave the kill state of a latched switch alone? -/
def leavesKill (w : KillWatch) : KillStep → Bool
  | .trigger _ => w.switch.killSwitchTriggered
  | .omsMoves _ => true
  | .refresh thread => !w.switch.killSwitchTriggered || w.calls[thread]? ≠ some .disarm
  | _ => false

end KillWatch

/-- **Does a step spare a call** that stands at a point?  What the call has read is to hold until
it opens the latch, and no attempt is to be counted between the last two counters it resets. -/
def KillSwitch.RefreshPoint.spared (w : KillWatch) (s : KillStep) : RefreshPoint → Bool
  | .readOmsState => w.leavesKill s
  | .readManualRearm =>
    w.leavesKill s && match s with
      | .omsMoves view => view.live
      | _ => true
  | .openLatch =>
    w.leavesKill s && match s with
      | .omsMoves view => view.live && !view.manualRearmRequired
      | _ => true
  | .resetTime => match s with
    | .attempt _ => false
    | _ => true
  | _ => true

/-- **The condition**: a step spares every call that is under way. -/
def KillWatch.Undisturbed (w : KillWatch) (s : KillStep) : Prop :=
  ∀ point ∈ w.calls, point.spared w s = true

instance (w : KillWatch) (s : KillStep) : Decidable (w.Undisturbed s) :=
  inferInstanceAs (Decidable (∀ point ∈ w.calls, point.spared w s = true))

/-! ## Calls -/

/-- What follows the first step of a new sequence: the OMS is halted and the cancellation
recorded, each unless it raises, and there is an attempt. -/
def killSequence (haltRaises cancelRaises : Bool) (a : Attempt) : List KillStep :=
  (if haltRaises then [] else [.omsMoves ⟨false, true⟩]) ++
    (if cancelRaises then [] else [.cancelRequested]) ++ [.attempt a]

/-- The steps of `trigger_kill_switch`. -/
def triggerKillSwitch (reason : String) (haltRaises cancelRaises : Bool) (a : Attempt) :
    List KillStep :=
  .trigger reason :: killSequence haltRaises cancelRaises a

/-- The steps of `restart_kill_switch_after_truth_drift`. -/
def restartKillSwitch (reason : String) (haltRaises cancelRaises : Bool) (a : Attempt) :
    List KillStep :=
  .restart reason :: killSequence haltRaises cancelRaises a

/-- The steps of `resume_kill_switch_supervision` in a recovered state. -/
def resumeKillSwitch (recovered : KillState) (a : Attempt) : List KillStep :=
  match recovered with
  | .armed | .flatVerified => []
  | .failed => [.retryFailed, .attempt a]
  | _ => [.attempt a]

/-- The steps of one round of `_supervise_kill_switch`. -/
def superviseKillSwitch (a : Attempt) (timedOut : Bool) : List KillStep :=
  .attempt a :: if timedOut then [.markFailed] else []

/-! ## The confirmation -/

section Confirmation

variable {cfg : KillSwitchConfig}

/-- **What the counter of flat snapshots stands for.** -/
structure Confirming (cfg : KillSwitchConfig) (w : KillWatch) : Prop where
  confirmed : ∃ attempts, KillWatch.Confirms cfg w.marks attempts ∧
    w.switch.emptyFlatSnapshots ≤ attempts.length ∧
    ∀ last ∈ attempts.head?, w.switch.lastAcceptedSnapshotAt = last.now.1

variable {w : KillWatch} {s : KillStep} {point : RefreshPoint}

/-- Nothing is confirmed. -/
theorem confirming_zero (h : w.switch.emptyFlatSnapshots = 0) : Confirming cfg w := by
  refine ⟨[], ⟨List.nil_prefix, fun _ h => absurd h List.not_mem_nil, List.IsChain.nil⟩, h.le,
    ?_⟩
  exact fun _ h => by cases h

/-- One more attempt confirms. -/
theorem confirms_cons {marks : List Mark} {attempts : List Attempt} {a : Attempt}
    {k : KillSwitch}
    (h : KillWatch.Confirms cfg marks attempts) (hflat : a.SeesFlat)
    (hlast : ∀ last ∈ attempts.head?, k.lastAcceptedSnapshotAt = last.now.1)
    (hearly : k.early cfg a = false) :
    KillWatch.Confirms cfg (.accepted a :: marks) (a :: attempts) := by
  refine ⟨?_, ?_, ?_⟩
  · exact List.cons_prefix_cons.mpr ⟨rfl, h.newest⟩
  · exact List.forall_mem_cons.mpr ⟨hflat, h.flat⟩
  refine h.apart.cons fun last hmem => ?_
  have hat : k.lastAcceptedSnapshotAt = last.now.1 := hlast last hmem
  have hnot := of_decide_eq_false hearly
  rw [hat] at hnot
  exact not_lt.mp fun hlt => hnot ⟨last.now.2, hlt⟩

/-- **An accepted attempt**: it confirms, or the count starts anew; and the state is
`FLAT_VERIFIED` only after enough confirmations. -/
theorem confirming_accepted {a : Attempt} (h : Confirming cfg w)
    (hseen : a.noOrders = true) (hearly : w.switch.early cfg a = false) :
    Confirming cfg (w.next cfg (.attempt a)) ∧ w.FlatConfirmed cfg (.attempt a) := by
  have hmarks : w.markAccepted cfg a = .accepted a :: w.marks := by
    unfold KillWatch.markAccepted
    rw [hseen, hearly]
    rfl
  have honce := verifyOnce_of_accepted (k := w.switch) hseen hearly
  obtain ⟨attempts, hconfirms, hcount, hlast⟩ := h.confirmed
  rcases @confirmFlat_cases cfg (w.switch.acceptSnapshot cfg a) a with
    ⟨hzero, hstate⟩ | ⟨hpositions, hcounted, hat, hflat⟩
  · refine ⟨confirming_zero ?_, fun hbefore hafter => ?_⟩
    · rcases @verifySafely_cases cfg w.switch a with ⟨-, hdone⟩ | ⟨-, hdone⟩
      · exact congrArg emptyFlatSnapshots hdone
      · rw [KillWatch.next, hdone, honce]
        exact hzero
    · rw [KillWatch.next, killState_verifySafely, honce] at hafter
      rcases hstate with hsame | hflattening
      · exact absurd (hsame.symm.trans hafter) hbefore
      · rw [hflattening] at hafter
        cases hafter
  · have hsees : a.SeesFlat := ⟨Attempt.seesNoOrders hseen, hpositions⟩
    have hmore := confirms_cons hconfirms hsees hlast hearly
    rw [← hmarks] at hmore
    constructor
    · rcases @verifySafely_cases cfg w.switch a with ⟨-, hdone⟩ | ⟨hvalue, hdone⟩
      · exact confirming_zero (congrArg emptyFlatSnapshots hdone)
      have hraises : KillWatch.raises cfg w.switch a = false :=
        Option.isNone_eq_false_iff.mpr (Option.ne_none_iff_isSome.mp hvalue)
      refine ⟨a :: attempts, ?_, ?_, ?_⟩
      · simpa [KillWatch.next, KillWatch.markAttempt, hseen, hraises] using hmore
      · rw [KillWatch.next, hdone, honce, hcounted]
        exact (min_le_right _ _).trans (Nat.add_le_add_right hcount 1)
      · rintro _ ⟨⟩
        rw [KillWatch.next, hdone, honce, hat]
        rfl
    · intro hbefore hafter
      rw [KillWatch.next, killState_verifySafely, honce] at hafter
      have henough : cfg.emptySnapshotsRequired ≤ (a :: attempts).length :=
        (hflat hafter).trans (Nat.add_le_add_right hcount 1)
      refine ⟨a, (a :: attempts).take cfg.emptySnapshotsRequired, rfl, ?_, ?_, ?_, ?_⟩
      · exact List.length_take_of_le henough
      · rw [List.map_take]
        exact (List.take_prefix _ _).trans hmore.newest
      · exact fun b hb => hmore.flat b (List.mem_of_mem_take hb)
      · exact hmore.apart.take _

/-- **An attempt that is not accepted** starts the count anew, or comes too early and changes
nothing. -/
theorem confirming_rejected {a : Attempt} (h : Confirming cfg w)
    (hrejected : a.noOrders = false ∨ w.switch.early cfg a = true) :
    Confirming cfg (w.next cfg (.attempt a)) ∧ w.FlatConfirmed cfg (.attempt a) := by
  cases hseen : a.noOrders with
  | false =>
    obtain ⟨hzero, hstate⟩ := @verifyOnce_of_orders cfg w.switch a hseen
    refine ⟨confirming_zero ?_, fun hbefore hafter => ?_⟩
    · rcases @verifySafely_cases cfg w.switch a with ⟨-, hdone⟩ | ⟨-, hdone⟩
      · exact congrArg emptyFlatSnapshots hdone
      · rw [KillWatch.next, hdone]
        exact hzero
    · rw [KillWatch.next, killState_verifySafely] at hafter
      rcases hstate with hsame | hpending
      · exact absurd (hsame.symm.trans hafter) hbefore
      · rw [hpending] at hafter
        cases hafter
  | true =>
    have hearly := hrejected.resolve_left (by rw [hseen]; decide)
    have honce := verifyOnce_of_early (k := w.switch) hseen hearly
    constructor
    · rcases @verifySafely_cases cfg w.switch a with ⟨-, hdone⟩ | ⟨hvalue, hdone⟩
      · exact confirming_zero (congrArg emptyFlatSnapshots hdone)
      have hraises : KillWatch.raises cfg w.switch a = false :=
        Option.isNone_eq_false_iff.mpr (Option.ne_none_iff_isSome.mp hvalue)
      have hmarks : (w.next cfg (.attempt a)).marks = w.marks := by
        simp [KillWatch.next, KillWatch.markAttempt, KillWatch.markAccepted, hseen, hraises,
          hearly]
      have hswitch : (w.next cfg (.attempt a)).switch =
          { w.switch with killState := .cancelPending } := hdone.trans (honce ▸ rfl)
      obtain ⟨attempts, hconfirms, hcount, hlast⟩ := h.confirmed
      refine ⟨attempts, ?_, ?_, ?_⟩
      · rw [hmarks]
        exact hconfirms
      · rw [hswitch]
        exact hcount
      · rw [hswitch]
        exact hlast
    · intro _ hafter
      rw [KillWatch.next, killState_verifySafely, honce] at hafter
      cases hafter

/-- A step that changes none of the counters, the time and the marks keeps what is confirmed. -/
theorem Confirming.same {w' : KillWatch} (h : Confirming cfg w)
    (hflat : w'.switch.emptyFlatSnapshots = w.switch.emptyFlatSnapshots)
    (hlast : w'.switch.lastAcceptedSnapshotAt = w.switch.lastAcceptedSnapshotAt)
    (hmarks : w'.marks = w.marks) : Confirming cfg w' := by
  obtain ⟨attempts, hconfirms, hcount, hat⟩ := h.confirmed
  exact ⟨attempts, hmarks ▸ hconfirms, hflat.le.trans hcount, hlast ▸ hat⟩

/-- A trigger that finds the latch set does nothing, any other is a new start. -/
theorem next_trigger (cfg : KillSwitchConfig) (w : KillWatch) (reason : String) :
    (w.switch.killSwitchTriggered = true ∧ w.next cfg (.trigger reason) = w) ∨
      (w.switch.killSwitchTriggered = false ∧ (w.next cfg (.trigger reason)).oms = w.oms ∧
        (w.next cfg (.trigger reason)).calls = w.calls ∧
        (w.next cfg (.trigger reason)).switch.emptyFlatSnapshots = 0 ∧
        (w.next cfg (.trigger reason)).switch.killState = .triggered) := by
  unfold KillWatch.next KillWatch.begin KillSwitch.trigger
  cases hlatched : w.switch.killSwitchTriggered with
  | true => exact .inl ⟨rfl, rfl⟩
  | false => exact .inr ⟨rfl, rfl, rfl, rfl, rfl⟩

/-- A thread takes its next statement; one that is not there does nothing. -/
theorem next_refresh (cfg : KillSwitchConfig) (w : KillWatch) (thread : ℕ) :
    (w.calls[thread]? = none ∧ w.next cfg (.refresh thread) = w) ∨
      ∃ point, w.calls[thread]? = some point ∧ point ∈ w.calls ∧
        w.next cfg (.refresh thread) = w.refreshAt thread point := by
  cases hcall : w.calls[thread]? with
  | none => exact .inl ⟨rfl, by simp only [KillWatch.next, hcall]⟩
  | some point =>
    exact .inr ⟨point, rfl, List.mem_of_getElem? hcall, by simp only [KillWatch.next, hcall]⟩

/-- **What a call relies on**, from what it has read. -/
def KillSwitch.RefreshPoint.Relies (w : KillWatch) : RefreshPoint → Prop
  | .readOmsState => w.switch.killSwitchTriggered = true → w.switch.killState = .flatVerified
  | .readManualRearm =>
    (w.switch.killSwitchTriggered = true → w.switch.killState = .flatVerified) ∧
      ∃ view ∈ w.oms, view.live = true
  | .openLatch =>
    (w.switch.killSwitchTriggered = true → w.switch.killState = .flatVerified) ∧
      ∃ view ∈ w.oms, view.live = true ∧ view.manualRearmRequired = false
  | .resetTime => w.switch.emptyFlatSnapshots = 0
  | _ => True

/-- The counter stands for confirmations, and what the calls rely on holds. -/
structure Guarded (cfg : KillSwitchConfig) (w : KillWatch) : Prop where
  confirming : Confirming cfg w
  relies : ∀ point ∈ w.calls, point.Relies w

/-- A verified kill stays one over the steps that leave it alone. -/
theorem verified_next
    (h : w.switch.killSwitchTriggered = true → w.switch.killState = .flatVerified)
    (hleaves : w.leavesKill s = true)
    (hlatched : (w.next cfg s).switch.killSwitchTriggered = true) :
    (w.next cfg s).switch.killState = .flatVerified := by
  cases s with
  | trigger reason =>
    rcases next_trigger cfg w reason with ⟨hbefore, hsame⟩ | ⟨hopen, -⟩
    · rw [hsame]
      exact h hbefore
    · rw [KillWatch.leavesKill, hopen] at hleaves
      cases hleaves
  | restart _ | retryFailed | cancelRequested | markFailed | attempt _ => cases hleaves
  | omsMoves view => exact h hlatched
  | refresh thread =>
    rcases next_refresh cfg w thread with ⟨-, hsame⟩ | ⟨point, hcall, -, hnext⟩
    · rw [hsame] at hlatched ⊢
      exact h hlatched
    rw [hnext] at hlatched ⊢
    rw [KillWatch.leavesKill, hcall] at hleaves
    cases point with
    | openLatch => cases hlatched
    | disarm =>
      have hbefore : w.switch.killSwitchTriggered = true := hlatched
      rw [hbefore] at hleaves
      cases hleaves
    | _ => exact h hlatched

/-- What was read of the OMS stays while its own steps keep it. -/
theorem exists_view_next {read : RearmView → Prop}
    (h : ∃ view ∈ w.oms, read view) (hs : ∀ view, s = .omsMoves view → read view) :
    ∃ view ∈ (w.next cfg s).oms, read view := by
  cases s with
  | trigger reason =>
    rcases next_trigger cfg w reason with ⟨-, hsame⟩ | ⟨-, hsame, -⟩
    · rw [hsame]
      exact h
    · rw [hsame]
      exact h
  | omsMoves view =>
    obtain ⟨old, hold, -⟩ := h
    exact ⟨view, congrArg (Option.map _) hold, hs view rfl⟩
  | refresh thread =>
    rcases next_refresh cfg w thread with ⟨-, hsame⟩ | ⟨point, -, -, hnext⟩
    · rw [hsame]
      exact h
    · rw [hnext]
      exact h
  | _ => exact h

/-- Only an attempt counts flat snapshots. -/
theorem flats_next (h : w.switch.emptyFlatSnapshots = 0)
    (hs : ∀ a, s ≠ .attempt a) : (w.next cfg s).switch.emptyFlatSnapshots = 0 := by
  cases s with
  | trigger reason =>
    rcases next_trigger cfg w reason with ⟨-, hsame⟩ | ⟨-, -, -, hzero, -⟩
    · rw [hsame]
      exact h
    · exact hzero
  | attempt a => exact absurd rfl (hs a)
  | refresh thread =>
    rcases next_refresh cfg w thread with ⟨-, hsame⟩ | ⟨point, -, -, hnext⟩
    · rw [hsame]
      exact h
    rw [hnext]
    cases point with
    | resetFlats => rfl
    | _ => exact h
  | restart _ | retryFailed => rfl
  | cancelRequested | markFailed | omsMoves _ => exact h

/-- **A call that is spared** can still rely on what it has read. -/
theorem relies_next (h : point.Relies w)
    (hspared : point.spared w s = true) : point.Relies (w.next cfg s) := by
  cases point with
  | readOmsState => exact verified_next h hspared
  | readManualRearm =>
    obtain ⟨hleaves, homs⟩ := Bool.and_eq_true_iff.mp hspared
    exact ⟨verified_next h.1 hleaves, exists_view_next h.2 fun view heq => by
      subst heq
      exact homs⟩
  | openLatch =>
    obtain ⟨hleaves, homs⟩ := Bool.and_eq_true_iff.mp hspared
    exact ⟨verified_next h.1 hleaves, exists_view_next h.2 fun view heq => by
      subst heq
      simpa using homs⟩
  | resetTime =>
    refine flats_next h fun a heq => ?_
    subst heq
    cases hspared
  | _ => trivial

/-- A statement leaves the call with what it has just read. -/
theorem relies_after {thread : ℕ} (h : point.Relies w) :
    (w.switch.refreshRearmState w.oms point).2.Relies (w.refreshAt thread point) := by
  unfold KillWatch.refreshAt
  cases point with
  | readLatch =>
    simp only [refreshRearmState]
    split <;> trivial
  | readKillState =>
    simp only [refreshRearmState]
    split
    · exact fun _ => by assumption
    · trivial
  | readOmsState =>
    simp only [refreshRearmState]
    split
    · rename_i hlive
      exact ⟨h, (Option.any_eq_true _ _).mp hlive⟩
    · trivial
  | readManualRearm =>
    simp only [refreshRearmState]
    split
    · trivial
    rename_i hmanual
    obtain ⟨hverified, view, hview, hlive⟩ := h
    rw [Option.mem_def.mp hview] at hmanual
    exact ⟨hverified, view, hview, hlive, eq_false_of_ne_true hmanual⟩
  | resetFlats => rfl
  | _ => trivial

/-- What is confirmed after a statement of a release. -/
theorem confirming_refreshAt (h : Guarded cfg w) {thread : ℕ} (hpoint : point ∈ w.calls) :
    Confirming cfg (w.refreshAt thread point) := by
  cases point with
  | resetFlats => exact confirming_zero rfl
  | resetTime => exact confirming_zero (h.relies _ hpoint)
  | readLatch | readKillState | readOmsState | readManualRearm | openLatch | clearReason | disarm
    | resetOrders => exact h.confirming.same rfl rfl rfl

/-- No statement of a release verifies flatness. -/
theorem killState_refreshAt {thread : ℕ} :
    (w.refreshAt thread point).switch.killState = w.switch.killState ∨
      (w.refreshAt thread point).switch.killState = .armed := by
  cases point with
  | disarm => exact .inr rfl
  | _ => exact .inl rfl

/-- **Every step** keeps what the counter stands for, and confirms when it verifies flatness. -/
theorem confirming_next (h : Guarded cfg w) (s : KillStep) :
    Confirming cfg (w.next cfg s) ∧ w.FlatConfirmed cfg s := by
  have hsame : w.next cfg s = w → Confirming cfg (w.next cfg s) ∧ w.FlatConfirmed cfg s := by
    intro hsame
    unfold KillWatch.FlatConfirmed
    rw [hsame]
    exact ⟨h.confirming, fun hbefore hafter => absurd hafter hbefore⟩
  cases s with
  | trigger reason =>
    rcases next_trigger cfg w reason with ⟨-, hnothing⟩ | ⟨-, -, -, hzero, htriggered⟩
    · exact hsame hnothing
    · exact ⟨confirming_zero hzero, fun _ hafter =>
        absurd (htriggered.symm.trans hafter) (by decide)⟩
  | restart reason => exact ⟨confirming_zero rfl, fun _ => (nomatch ·)⟩
  | retryFailed => exact ⟨confirming_zero rfl, fun _ => (nomatch ·)⟩
  | cancelRequested => exact ⟨h.confirming.same rfl rfl rfl, fun _ => (nomatch ·)⟩
  | markFailed => exact ⟨h.confirming.same rfl rfl rfl, fun _ => (nomatch ·)⟩
  | attempt a =>
    cases hseen : a.noOrders with
    | false => exact confirming_rejected h.confirming (.inl hseen)
    | true =>
      cases hearly : w.switch.early cfg a with
      | true => exact confirming_rejected h.confirming (.inr hearly)
      | false => exact confirming_accepted h.confirming hseen hearly
  | omsMoves view =>
    exact ⟨h.confirming.same rfl rfl rfl, fun hbefore hafter => absurd hafter hbefore⟩
  | refresh thread =>
    rcases next_refresh cfg w thread with ⟨-, hnothing⟩ | ⟨point, -, hpoint, hnext⟩
    · exact hsame hnothing
    unfold KillWatch.FlatConfirmed
    rw [hnext]
    refine ⟨confirming_refreshAt h hpoint, fun hbefore hafter => ?_⟩
    rcases @killState_refreshAt w point thread with hkept | harmed
    · exact absurd (hkept.symm.trans hafter) hbefore
    · exact absurd (harmed.symm.trans hafter) (by decide)

/-- **The latch** is only opened by a release, and that relies on what it has read. -/
theorem latchHeld (h : Guarded cfg w) (s : KillStep) : w.LatchHeld cfg s := by
  intro hlatched hreleased
  have hheld : w.switch.killSwitchTriggered ≠ false := by
    rw [hlatched]
    decide
  cases s with
  | trigger reason =>
    rw [KillWatch.next, if_pos hlatched] at hreleased
    exact absurd hreleased hheld
  | restart reason => cases hreleased
  | retryFailed | cancelRequested | markFailed | omsMoves _ => exact absurd hreleased hheld
  | attempt a =>
    rw [KillWatch.next, triggered_verifySafely] at hreleased
    exact absurd hreleased hheld
  | refresh thread =>
    rcases next_refresh cfg w thread with ⟨-, hsame⟩ | ⟨point, -, hpoint, hnext⟩
    · rw [hsame] at hreleased
      exact absurd hreleased hheld
    rw [hnext] at hreleased
    cases point with
    | openLatch =>
      obtain ⟨hverified, hview⟩ := h.relies _ hpoint
      exact ⟨hverified hlatched, hview⟩
    | _ => exact absurd hreleased hheld

/-- No other step moves a call. -/
theorem calls_next (hs : ∀ thread, s ≠ .refresh thread) : (w.next cfg s).calls = w.calls := by
  cases s with
  | trigger reason =>
    rcases next_trigger cfg w reason with ⟨-, hsame⟩ | ⟨-, -, hsame, -⟩
    · rw [hsame]
    · exact hsame
  | refresh thread => exact absurd rfl (hs thread)
  | _ => rfl

/-- **A step that spares the calls under way** keeps all that is guarded. -/
theorem Guarded.next (h : Guarded cfg w) (hs : w.Undisturbed s) :
    Guarded cfg (w.next cfg s) := by
  refine ⟨(confirming_next h s).1, fun point hpoint => ?_⟩
  have hkept : ∀ point ∈ w.calls, point.Relies (w.next cfg s) := fun point hpoint =>
    relies_next (h.relies point hpoint) (hs point hpoint)
  by_cases hcall : ∃ thread, s = .refresh thread
  · obtain ⟨thread, rfl⟩ := hcall
    rcases next_refresh cfg w thread with ⟨-, hsame⟩ | ⟨before, -, hbefore, hnext⟩
    · rw [hsame] at hpoint
      exact hkept point hpoint
    rw [hnext] at hpoint hkept ⊢
    rcases List.mem_or_eq_of_mem_set hpoint with hold | rfl
    · exact hkept point hold
    · exact relies_after (h.relies before hbefore)
  · rw [calls_next fun thread heq => hcall ⟨thread, heq⟩] at hpoint
    exact hkept point hpoint

end Confirmation

/-- A kill switch that was restored, with an OMS and threads that do not refresh yet. -/
def restoredWatch (restored : KillSwitch) (oms : Option RearmView) (threads : ℕ) :
    KillWatch where
  switch := restored.resetKillEmptySnapshots
  oms := oms
  calls := List.replicate threads .readLatch

/-- **Flat is verified only by enough confirmed snapshots, and the latch is released only from
it**, in every run from a state that was restored whose steps spare the releases under way. -/
theorem flat_verified_confirmed (cfg : KillSwitchConfig) (restored : KillSwitch)
    (oms : Option RearmView) (threads : ℕ) (steps : List KillStep)
    (h : Run.Along (KillWatch.step cfg) KillWatch.Undisturbed
      (restoredWatch restored oms threads)
      steps) :
    Run.Along (KillWatch.step cfg) (fun w s => w.FlatConfirmed cfg s ∧ w.LatchHeld cfg s)
      (restoredWatch restored oms threads) steps := by
  have hany : ∀ (steps : List KillStep) (w : KillWatch), Guarded cfg w →
      Run.Along (KillWatch.step cfg) KillWatch.Undisturbed w steps →
      Run.Along (KillWatch.step cfg) (fun w s => w.FlatConfirmed cfg s ∧ w.LatchHeld cfg s) w
        steps := by
    intro steps
    induction steps with
    | nil => exact fun _ _ _ => trivial
    | cons s rest ih =>
      rintro w hguarded ⟨hs, hrest⟩
      refine ⟨⟨(confirming_next hguarded s).2, latchHeld hguarded s⟩, ?_⟩
      rintro _ ⟨⟩
      exact ih _ (hguarded.next hs) (hrest _ rfl)
  refine hany steps _ ⟨confirming_zero rfl, fun point hpoint => ?_⟩ h
  rw [List.eq_of_mem_replicate hpoint]
  trivial

/-- An attempt at a time that sees nothing. -/
def clearAt (now : ClockReading) : Attempt where
  openOrders := .rows []
  oms := some ⟨.truth (some []) (some 0), some []⟩
  now := now
  positions := .rows []

/-- A sequence that is resumed is verified by two attempts a second apart, a third in between
does not count; the OMS is rearmed, one thread releases the latch while another one begins to,
and a new breach triggers the switch again. -/
def resumedAndReleased : List KillStep :=
  resumeKillSwitch .triggered (clearAt ⟨5, by norm_num⟩) ++
    superviseKillSwitch (clearAt ⟨11 / 2, by norm_num⟩) false ++
    superviseKillSwitch (clearAt ⟨6, by norm_num⟩) false ++ [.omsMoves ⟨true, false⟩] ++
    List.replicate 4 (.refresh 0) ++ [.trigger "again", .refresh 1] ++
    List.replicate 6 (.refresh 0) ++
    triggerKillSwitch "loss" false false (clearAt ⟨7, by norm_num⟩)

theorem flat_verified_confirmed_released :
    Run.Along (KillWatch.step {}) (fun w s => w.FlatConfirmed {} s ∧ w.LatchHeld {} s)
      (restoredWatch { killSwitchTriggered := true,
                       killState := .triggered } (some ⟨false, true⟩) 2)
      resumedAndReleased :=
  flat_verified_confirmed _ _ _ _ _ (by decide +kernel)

/-- **A restart that is overwritten.**  A thread finds a verified kill and a live OMS; before it
opens the latch the account drifts, and the sequence is started again and the OMS halted.  The
latch is opened all the same. -/
theorem restart_overwritten :
    ¬∀ (restored : KillSwitch) (oms : Option RearmView) (threads : ℕ) (steps : List KillStep),
      Run.Along (KillWatch.step {}) (fun w s => w.FlatConfirmed {} s ∧ w.LatchHeld {} s)
        (restoredWatch restored oms threads) steps := by
  intro h
  have hrun := h { killSwitchTriggered := true,
                   killState := .flatVerified } (some ⟨true, false⟩) 1
    (List.replicate 4 (.refresh 0) ++
      restartKillSwitch "position drift" false false (clearAt ⟨5, by norm_num⟩) ++ [.refresh 0])
  obtain ⟨hverified, -⟩ := ((Run.along_append.mp hrun).2 _ rfl).1.2 (by decide +kernel)
    (by decide +kernel)
  revert hverified
  decide +kernel

end ChronosHFT.Risk
