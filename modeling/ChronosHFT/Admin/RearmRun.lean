import ChronosHFT.Lib.Run
import ChronosHFT.Admin.CoordinatedRearm

/-!
# All or nothing, and again

A coordinated rearm is to rearm all three parties or none, and a failed one is to leave a way
back.  The first half of that holds of every attempt: an accepted one has rearmed them all
(`accepted_rearmed`).  The rest needs the calls to end well (`Settles`): the sidecar's token is
known to the parent or aborted, the commit reaches the sidecar, and no exception is raised once
the OMS is live.

The way back is through the sidecar's gate, which refuses a sidecar that is *not* latched.  An
OMS that halted by itself never latched it, and a commit whose answer was lost has unlatched it.
And it is through a proof that is bound to the sidecar's state: where an own step of the sidecar
between prepare and commit changes that, the commit is refused.  Of the attempts in which
everything is in order, those that find the latch set and the proof unchanged are accepted, and
no others (`healthy_accepted_iff`). -/

namespace ChronosHFT.Admin

open Oms (LifecycleState)
open Sidecar (Core Call GateInput Settings Control orText)

/-! ## The lifecycle -/

/-- A halt of another thread. -/
def LifecycleMove.IsHalt : LifecycleMove → Prop
  | .halt _ _ => True
  | .freeze _ _ => False

/-- No exception escapes from `rearm_system`, and nobody freezes or stops the OMS meanwhile. -/
structure SystemIo.Halts (io : SystemIo) : Prop where
  escapes : io.escapes = false
  started : io.reset.started = none
  stopping : io.reset.stopping = false
  meanwhile : ∀ move ∈ io.reset.meanwhile, move.IsHalt
  afterwards : ∀ move ∈ io.afterwards, move.IsHalt

/-- Nothing goes wrong in `rearm_system`. -/
structure SystemIo.Clean (io : SystemIo) : Prop where
  requested : io.requested = none
  transition : io.transition = none
  reset : io.reset = {}
  afterwards : io.afterwards = []
  completed : io.completed = none

namespace Lifecycle

variable {o o' : Lifecycle}

/-- Halted, and waiting for an operator. -/
def Halted (o : Lifecycle) : Prop := o.state = .halted ∧ o.manualRearmRequired = true

/-- Live again. -/
def Live (o : Lifecycle) : Prop := o.state = .live ∧ o.manualRearmRequired = false

theorem Halted.not_live (h : o.Halted) : o.state ≠ .live := by
  rw [h.1]
  decide

theorem halted_failClosed (o : Lifecycle) (error context : String) :
    (o.failClosed error context).Halted := ⟨rfl, rfl⟩

theorem halted_haltSystem (o : Lifecycle) (reason : String) (audit : Option String) :
    (o.haltSystem reason audit).Halted := by
  unfold haltSystem
  cases audit with
  | none =>
    dsimp only
    split
    · exact ⟨by assumption, rfl⟩
    · exact ⟨rfl, rfl⟩
  | some error => exact halted_failClosed _ error _

/-- Halts of other threads: none, or the OMS is halted. -/
theorem foldl_halts (o : Lifecycle) {moves : List LifecycleMove} (h : ∀ m ∈ moves, m.IsHalt) :
    moves.foldl move o = o ∨ (moves.foldl move o).Halted := by
  induction moves using List.reverseRecOn with
  | nil => exact Or.inl rfl
  | append_singleton moves last _ =>
    right
    rw [List.foldl_append]
    have hlast : last.IsHalt := h last (by simp)
    cases last with
    | halt reason audit => exact halted_haltSystem _ reason audit
    | freeze reason audit => exact hlast.elim

variable {io : SystemIo}

/-- **A full reset** of a reconciling OMS that nobody freezes ends halted or live. -/
theorem performFullReset_spec (h : io.Halts) (hentry : o.state = .reconciling) :
    ∃ reset, o.performFullReset io.reset = .ok reset ∧ (reset.Halted ∨ reset.Live) := by
  have hguarded : ∀ (o : Lifecycle) (error : Option String), o.Halted ∨ o.Live →
      (o.guarded error io.reset.halt).Halted ∨ (o.guarded error io.reset.halt).Live := by
    intro o error hkept
    cases error with
    | none => exact hkept
    | some error => exact Or.inl (halted_haltSystem _ _ _)
  unfold performFullReset
  rw [h.started]
  dsimp only
  cases io.reset.unarmed with
  | some reason => exact ⟨_, rfl, Or.inl (halted_haltSystem _ _ _)⟩
  | none =>
    dsimp only
    split
    · rename_i hfailure
      obtain ⟨error, herror⟩ := Option.isSome_iff_exists.mp hfailure
      rw [herror]
      exact ⟨_, rfl, Or.inl (halted_haltSystem _ _ _)⟩
    split
    · exact ⟨_, rfl, Or.inl (halted_haltSystem _ _ _)⟩
    refine ⟨_, rfl, ?_⟩
    unfold finishReset
    rw [h.stopping]
    simp only [Bool.false_eq_true, if_false]
    apply hguarded
    rcases foldl_halts o h.meanwhile with hsame | hhalted
    · rw [hsame, if_neg (by simp [hentry])]
      exact Or.inr ⟨rfl, rfl⟩
    · rw [if_pos (Or.inr (Or.inl (by rw [hhalted.1, hentry]; decide)))]
      exact Or.inl hhalted

/-- **`rearm_system` returns true only of a live OMS.** -/
theorem live_of_rearmSystem (h : o.rearmSystem io = .ok (o', true)) : o'.Live := by
  have hrefused : ∀ (o : Lifecycle) (error context : String),
      o.refuseClosed error context io ≠ .ok (o', true) := by
    intro o error context heq
    unfold refuseClosed at heq
    split at heq
    · cases heq
    · cases heq
  unfold rearmSystem at h
  split at h
  · split at h
    · exact absurd h (hrefused _ _ _)
    · cases h
  split at h
  · exact absurd h (hrefused _ _ _)
  dsimp only at h
  split at h
  · exact absurd h (hrefused _ _ _)
  split at h
  · cases h
  split at h
  · rename_i hlive
    split at h
    · cases h
      exact ⟨hlive, rfl⟩
    · exact absurd h (hrefused _ _ _)
  · cases h

/-- **`rearm_system` of a halted OMS** that ends well returns, and refused it is halted still. -/
theorem rearmSystem_spec (h : io.Halts) (hhalted : o.Halted) :
    ∃ o' accepted, o.rearmSystem io = .ok (o', accepted) ∧ (accepted = false → o'.Halted) := by
  have hrefused : ∀ (o : Lifecycle) (error context : String),
      o.refuseClosed error context io = .ok (o.failClosed error context, false) := by
    intro o error context
    unfold refuseClosed
    rw [if_neg (by rw [h.escapes]; decide)]
  unfold rearmSystem
  rw [if_neg (by rw [hhalted.1, hhalted.2]; decide)]
  cases io.requested with
  | some error => exact ⟨_, _, hrefused _ _ _, fun _ => halted_failClosed _ _ _⟩
  | none =>
    dsimp only
    cases io.transition with
    | some error => exact ⟨_, _, hrefused _ _ _, fun _ => halted_failClosed _ _ _⟩
    | none =>
      dsimp only
      obtain ⟨reset, hreset, hended⟩ := performFullReset_spec (o :=
        { o with state := .reconciling, generation := o.generation + 1 }) h rfl
      rw [hreset]
      dsimp only
      split
      · cases io.completed with
        | none => exact ⟨_, _, rfl, fun heq => by cases heq⟩
        | some error => exact ⟨_, _, hrefused _ _ _, fun _ => halted_failClosed _ _ _⟩
      · rename_i hnot
        refine ⟨_, _, rfl, fun _ => ⟨?_, rfl⟩⟩
        rcases foldl_halts reset h.afterwards with hsame | hhalted
        · rw [hsame] at hnot ⊢
          rcases hended with hended | hended
          · exact hended.1
          · exact absurd hended.1 hnot
        · exact hhalted.1

/-- A full reset that nothing hinders goes live. -/
theorem performFullReset_clean (hentry : o.state = .reconciling) :
    o.performFullReset {} = .ok
      { o with
        state := .live
        generation := o.generation + 1
        manualRearmRequired := false
        lastFreezeReason := ""
        lastHaltReason := "" } := by
  have hresumes : ¬((o.state ≠ .bootstrap ∧ o.state ≠ .reconciling) ∨ o.state ≠ o.state ∨
      o.generation ≠ o.generation) := by simp [hentry]
  show Except.ok (o.finishReset o {}) = _
  unfold finishReset
  simp only [Bool.false_eq_true, if_false, if_neg hresumes]
  rfl

/-- A clean `rearm_system` of a halted OMS succeeds. -/
theorem rearmSystem_clean (h : io.Clean) (hhalted : o.Halted) :
    ∃ o', o.rearmSystem io = .ok (o', true) := by
  unfold rearmSystem
  rw [if_neg (by rw [hhalted.1, hhalted.2]; decide), h.requested]
  dsimp only
  rw [h.transition]
  dsimp only
  rw [h.reset, h.afterwards, h.completed, performFullReset_clean rfl]
  exact ⟨_, rfl⟩

end Lifecycle

/-! ## The kill switch -/

namespace KillSwitch

variable {k : KillSwitch} {o : Lifecycle}

/-- Triggering the kill switch leaves the OMS halted, or as it is. -/
theorem triggerKillSwitch_oms (k : KillSwitch) (o : Lifecycle) (reason : String) (io : KillIo) :
    (∀ risk oms, k.triggerKillSwitch o reason io = .ok (risk, oms) → oms = o ∨ oms.Halted) ∧
      ∀ risk oms, k.triggerKillSwitch o reason io = .error (risk, oms) →
      oms = o ∨ oms.Halted := by
  unfold triggerKillSwitch
  split
  · exact ⟨fun _ _ h => by cases h; exact Or.inl rfl, fun _ _ h => by cases h⟩
  dsimp only
  split
  · exact ⟨fun _ _ h => (by cases h), fun _ _ h => by cases h; exact Or.inl rfl⟩
  split
  · exact ⟨fun _ _ h => (by cases h), fun _ _ h => by
      cases h
      exact Or.inr (Lifecycle.halted_haltSystem _ _ _)⟩
  · exact ⟨fun _ _ h => by cases h; exact Or.inr (Lifecycle.halted_haltSystem _ _ _),
      fun _ _ h => (by cases h)⟩

/-- Without an exception it returns. -/
theorem triggerKillSwitch_returns {io : KillIo} (hpersist : io.persistRaises = false)
    (hraises : io.raises = false) (reason : String) :
    ∃ risk oms, k.triggerKillSwitch o reason io = .ok (risk, oms) := by
  unfold triggerKillSwitch
  split
  · exact ⟨_, _, rfl⟩
  · simp only [hpersist, hraises, Bool.false_eq_true, if_false]
    exact ⟨_, _, rfl⟩

/-- With a live OMS a kill switch that could be rearmed is over. -/
theorem refreshRearmState_live (h : k.canOperatorRearm = true) (hlive : o.Live) :
    (k.refreshRearmState o).triggered = false := by
  unfold refreshRearmState
  split
  · assumption
  rename_i htriggered
  split
  · rename_i hstate
    rcases of_decide_eq_true h with hnot | hverified
    · exact absurd hnot htriggered
    · exact absurd hverified hstate
  split
  · rename_i hnot
    rcases hnot with hnot | hmanual
    · exact absurd hlive.1 hnot
    · rw [hlive.2] at hmanual
      cases hmanual
  · rfl

end KillSwitch

/-! ## The sidecar -/

section Sidecar

variable (st : Settings) {c : Core}

/-- A call the sidecar makes on its own, or for another request than a rearm's. -/
def OwnCall : Call → Prop
  | .prepareRearm _ _ _ _ _ => False
  | .commitRearm _ _ _ _ => False
  | .abortRearm _ => False
  | _ => True

/-- Such a call is restrained. -/
theorem restrains_call {call : Call} (h : OwnCall call) : c.Restrains (c.call st call).1 := by
  refine Core.restrains_call st fun hrearms => ?_
  cases call with
  | prepareRearm requestId reason now input token => exact h
  | commitRearm requestId token now input => exact h
  | _ => exact hrearms

/-- And so are many. -/
theorem restrains_after (c : Core) {calls : List Call} (h : ∀ call ∈ calls, OwnCall call) :
    c.Restrains (c.after st calls) := by
  induction calls generalizing c with
  | nil => exact Core.Restrains.refl c
  | cons call calls ih =>
    have hfirst := restrains_call (c := c) st (h call List.mem_cons_self)
    exact hfirst.trans (ih _ fun other hother => h other (List.mem_cons_of_mem _ hother))

/-- A token of the sidecar that a commit is accepted with. -/
def Usable (c : Core) : Prop :=
  ∃ requestId token now input, (c.commitRearm st requestId token now input).2 = some (.ok ())

/-- Without a prepared rearm there is none. -/
theorem not_usable (h : c.control.preparedRearm = none) : ¬Usable st c := by
  rintro ⟨requestId, token, now, input, haccepted⟩
  have hnot : ¬c.Commits st requestId token now input := fun hcommits => by
    obtain ⟨-, prepared, hsome, -⟩ := Control.validateRearmCommit_ok hcommits.valid
    rw [h] at hsome
    cases hsome
  exact (Core.restrains_commitRearm_of_not_commits st hnot).2 haccepted

variable {requestId : String} {token : Token} {now : ℚ} {input : GateInput}
  {binding : Option Sidecar.ProofBinding}

/-- An accepted commit clears the latch. -/
theorem unlatched_of_commit {token : String}
    (h : (c.commitRearm st requestId token now input).2 = some (.ok ())) :
    (c.commitRearm st requestId token now input).1.control.killLatched = false := by
  by_cases hcommits : c.Commits st requestId token now input
  · refine Core.commitRearm_unlatches st hcommits fun hfailed => ?_
    exact (Core.restrains_commitRearm_failed st hcommits hfailed).2 h
  · exact absurd h (Core.restrains_commitRearm_of_not_commits st hcommits).2

/-- A prepared rearm, if there is one, has this token. -/
def Matches (c : Core) (token : String) : Prop :=
  ∀ prepared, c.control.preparedRearm = some prepared → prepared.token = token

theorem Matches.restrains {c' : Core} {token : String} (h : Matches c token)
    (hrest : c.Restrains c') : Matches c' token := by
  intro prepared hsome
  rcases hrest.control.prepared with hsame | hnone
  · exact h prepared (hsame ▸ hsome)
  · rw [hnone] at hsome
    cases hsome

/-- The digests of the token and of what is prepared are equal when something is. -/
theorem compareDigest_prepared (hmatches : Matches c token.text) :
    (c.control.preparedRearm = none ∧
        Control.compareDigest token.text c.control.preparedToken = some false) ∨
      ∃ prepared, c.control.preparedRearm = some prepared ∧
        Control.compareDigest token.text c.control.preparedToken = some true := by
  unfold Control.preparedToken
  cases hprepared : c.control.preparedRearm with
  | none =>
    left
    unfold Control.compareDigest
    rw [if_pos ⟨token.ascii, rfl⟩, decide_eq_false token.nonempty]
    exact ⟨rfl, rfl⟩
  | some prepared =>
    right
    dsimp only
    unfold Control.compareDigest
    rw [hmatches prepared hprepared, if_pos ⟨token.ascii, token.ascii⟩, decide_eq_true rfl]
    exact ⟨prepared, rfl, rfl⟩

/-- A refused commit of the prepared token drops it. -/
theorem prepared_of_refused {refusal : String} {control : Control}
    (hmatches : Matches c token.text)
    (h : c.control.validateRearmCommit requestId token.text now binding =
      some (control, .error refusal)) : control.preparedRearm = none := by
  unfold Control.validateRearmCommit at h
  rw [if_neg token.nonempty] at h
  rcases compareDigest_prepared hmatches with ⟨hnone, hdigest⟩ | ⟨prepared, hsome, hdigest⟩
  · rw [hdigest] at h
    cases h
    exact hnone
  · rw [hdigest, hsome] at h
    dsimp only at h
    split at h
    · cases h
      rfl
    split at h
    · cases h
      rfl
    split at h
    · cases h
      rfl
    · cases h

/-- **A commit of the prepared token** that returns leaves no token. -/
theorem prepared_commitRearm (hmatches : Matches c token.text)
    (hreturns : (c.commitRearm st requestId token.text now input).2 ≠ none) :
    (c.commitRearm st requestId token.text now input).1.control.preparedRearm = none := by
  unfold Core.commitRearm at hreturns ⊢
  cases hvalid : c.control.validateRearmCommit requestId token.text now c.rearmProofBinding with
  | none =>
    rw [hvalid] at hreturns
    exact absurd rfl hreturns
  | some validated =>
    obtain ⟨control, result⟩ := validated
    rw [hvalid] at hreturns
    cases result with
    | error refusal => exact prepared_of_refused hmatches hvalid
    | ok u =>
      dsimp only at hreturns ⊢
      cases hsafety : ({ c with control := control } : Core).checkRearmSafety st now input with
      | mk checkpoint safety =>
        rw [hsafety] at hreturns
        match safety with
        | none => exact absurd rfl hreturns
        | some (.error refusal) => rfl
        | some (.ok ()) =>
          dsimp only at hreturns ⊢
          have hrest := Core.restrains_persistDurableState st
            (checkpoint.beginRearmCommit st) input.storage "operator_rearm_committed" true
          have hbegin : (checkpoint.beginRearmCommit st).control.preparedRearm = none :=
            Control.preparedRearm_bumpIfChanged _ _ _
          cases hpersisted : (checkpoint.beginRearmCommit st).persistDurableState st
              input.storage "operator_rearm_committed" true with
          | mk persisted written =>
            rw [hpersisted] at hreturns hrest
            have hnone : persisted.control.preparedRearm = none := by
              rcases hrest.control.prepared with hsame | hnone
              · exact hsame.trans hbegin
              · exact hnone
            match written with
            | none => exact absurd rfl hreturns
            | some true => exact hnone
            | some false =>
              dsimp only [Control.finishRearmCommit, Control.refuseCommit,
                Control.recordRearm]
              rw [if_pos rfl, Control.preparedRearm_bumpIfChanged]
              exact hnone

/-- An abort of the prepared token drops it. -/
theorem prepared_abortRearm (hmatches : Matches c token.text) :
    (c.abortRearm token.text).1.control.preparedRearm = none := by
  unfold Core.abortRearm Control.abortRearm
  rw [if_neg token.nonempty]
  rcases compareDigest_prepared hmatches with ⟨hnone, hdigest⟩ | ⟨prepared, hsome, hdigest⟩
  · rw [hdigest]
    exact hnone
  · rw [hdigest]

/-- **What a prepare leaves**: refused no token, accepted its own. -/
theorem prepareRearm_spec {reason : String} {token : String}
    (hnone : c.control.preparedRearm = none) :
    let (c', reply) := c.prepareRearm st requestId reason now input token
    (c'.control.preparedRearm = none ∧ ∀ other, reply ≠ some (.ok other)) ∨
      (reply = some (.ok token) ∧ Matches c' token) := by
  rcases Core.prepareRearm_cases st c requestId reason now input token with
    ⟨hrest, hrefused⟩ | ⟨haccepted, -, -, -, hprepared⟩
  · left
    refine ⟨?_, hrefused⟩
    rcases hrest.control.prepared with hsame | hdropped
    · exact hsame.trans hnone
    · exact hdropped
  · right
    refine ⟨haccepted, fun prepared hsome => ?_⟩
    cases hprepared.symm.trans hsome
    rfl

/-- **A safe sidecar**: all that the rearm gate asks for, but the latch. -/
structure Safe (c : Core) (now : ℚ) (input : GateInput) : Prop where
  active : c.control.quiesced = false
  heartbeat : c.parentHeartbeatError = ""
  recent : max 0 (now - c.lastParentHeartbeatAt) ≤ st.parentHeartbeatTimeoutSec
  healthy : (c.serviceExchangeRisk st now true input.service).observation.exchangeHealthy = true
  fresh : ((c.serviceExchangeRisk st now true input.service).snapshotFresh st now).1 = true
  risk : (c.serviceExchangeRisk st now true input.service).observation.riskAction = .none
  funding : input.funding.action = .none
  proof : ((c.serviceExchangeRisk st now true input.service).captureAccountFlatProof st "REARM"
    now input.proof).2 = some true
  orders : st.proof = none →
    (c.serviceExchangeRisk st now true input.service).observation.openOrderCount = 0
  positions : st.proof = none →
    (c.serviceExchangeRisk st now true input.service).observation.nonzeroPositionCount = 0
  verified : c.control.killLatched = true → c.control.stage = .flatVerified

/-- Capturing a flat proof does not touch what was observed or the controller. -/
theorem captureAccountFlatProof_same (c : Core) (purpose : String) (barrier : ℚ)
    (input : Sidecar.ProofInput) :
    (c.captureAccountFlatProof st purpose barrier input).1.observation = c.observation ∧
      (c.captureAccountFlatProof st purpose barrier input).1.control = c.control := by
  unfold Core.captureAccountFlatProof
  split
  · exact ⟨rfl, rfl⟩
  split
  · exact ⟨rfl, rfl⟩
  · exact ⟨rfl, rfl⟩
  · exact ⟨rfl, rfl⟩

/-- **The rearm gate** of a safe sidecar asks for the latch. -/
theorem checkRearmSafety_of_safe (h : Safe st c now input) :
    (c.checkRearmSafety st now input).2 =
      some (if c.control.killLatched then .ok () else .error "kill_latch_not_set") := by
  have hgate : c.control.rearmControlGate c.parentHeartbeatError
      (max 0 (now - c.lastParentHeartbeatAt)) st.parentHeartbeatTimeoutSec =
        if c.control.killLatched then .ok () else .error "kill_latch_not_set" := by
    unfold Control.rearmControlGate
    rw [if_neg (by rw [h.active]; decide)]
    cases c.control.killLatched with
    | false => rfl
    | true =>
      rw [if_neg (by decide), if_neg (not_not.mpr h.heartbeat),
        if_neg (not_lt.mpr (by rw [max_eq_right (le_max_left _ _)]; exact h.recent))]
      rfl
  unfold Core.checkRearmSafety
  rw [hgate]
  cases hlatched : c.control.killLatched with
  | false => rfl
  | true =>
    simp only [if_true]
    obtain ⟨hobservation, hcontrol⟩ := captureAccountFlatProof_same st
      (c.serviceExchangeRisk st now true input.service) "REARM" now input.proof
    have hproof := h.proof
    cases hcapture : (c.serviceExchangeRisk st now true input.service).captureAccountFlatProof st
        "REARM" now input.proof with
    | mk proved captured =>
      rw [hcapture] at hobservation hcontrol hproof
      dsimp only at hobservation hcontrol hproof
      subst hproof
      dsimp only
      rw [hobservation, hcontrol]
      unfold Control.rearmTruthGate
      have hcount : ∀ count : ℕ, (st.proof = none → count = 0) →
          (if st.proof.isSome then 0 else count) = 0 := by
        intro count hzero
        split
        · rfl
        · rename_i hnone
          exact hzero (Option.not_isSome_iff_eq_none.mp hnone)
      have hstage : ¬((c.serviceExchangeRisk st now true input.service).control.killLatched =
          true ∧ (c.serviceExchangeRisk st now true input.service).control.stage ≠
            .flatVerified) := fun hnot => hnot.2 (h.verified hlatched)
      rw [if_neg (by rw [h.healthy]; decide), if_neg (by rw [h.fresh]; decide),
        if_neg (not_not.mpr h.risk), if_neg (not_not.mpr h.funding),
        if_neg (not_not.mpr (hcount _ h.orders)), if_neg (not_not.mpr (hcount _ h.positions)),
        if_neg hstage]

/-- A commit in time of what was prepared, with nothing changed since, is valid. -/
theorem validateRearmCommit_prepared {prepared : Sidecar.PreparedRearm}
    (hsome : c.control.preparedRearm = some prepared) (htoken : prepared.token = token.text)
    (hintime : now ≤ prepared.expiresAt)
    (hgeneration : prepared.generation = c.control.generation)
    (hbinding : prepared.proofBinding = binding) :
    c.control.validateRearmCommit requestId token.text now binding =
      some (c.control, .ok ()) := by
  have hmatches : Matches c token.text := by
    intro other hother
    rw [hsome] at hother
    cases hother
    exact htoken
  unfold Control.validateRearmCommit
  rw [if_neg token.nonempty]
  rcases compareDigest_prepared hmatches with ⟨hnone, -⟩ | ⟨-, -, hdigest⟩
  · rw [hsome] at hnone
    cases hnone
  rw [hdigest, hsome]
  dsimp only
  rw [if_neg (not_lt.mpr hintime), if_neg (not_not.mpr hgeneration),
    if_neg (not_not.mpr hbinding)]

end Sidecar

/-! ## An attempt -/

namespace Parties

variable (st : Settings) {s : Parties} {io : RearmIo}

/-- All three parties have rearmed. -/
structure Rearmed (s : Parties) : Prop where
  oms : s.oms.Live
  risk : s.risk.triggered = false
  sidecar : s.sidecar.control.killLatched = false

/-- The OMS halted or live, and no prepared token. -/
structure Standing (s : Parties) : Prop where
  oms : s.oms.Halted ∨ s.oms.Live
  token : s.sidecar.control.preparedRearm = none

/-- The sidecar of an attempt when its commit arrives. -/
def committing (s : Parties) (reason : String) (io : RearmIo) : Core :=
  (requestPrepare st s.sidecar (orText reason "operator_rearm") io.prepare).1.after st
    io.meanwhile

/-- **An attempt that settles**: every call ends so that the parties can be told.  What a call
that is not made would meet does not matter. -/
structure Settles (s : Parties) (reason : String) (io : RearmIo) : Prop where
  /-- A token the sidecar prepares is known to the parent. -/
  prepare : (s.sidecar.prepareRearm st io.prepare.requestId (orText reason "operator_rearm")
      io.prepare.now io.prepare.input io.prepare.token.text).2 =
        some (.ok io.prepare.token.text) →
    io.prepare.delivery.taken = true → io.prepare.delivery = .answered
  /-- Meanwhile the sidecar only makes its own calls. -/
  meanwhile : ∀ call ∈ io.meanwhile, OwnCall call
  /-- The OMS ends halted or live. -/
  system : io.system.Halts
  /-- The sidecar takes the abort. -/
  abort : io.abort.taken = true
  /-- The sidecar takes the commit, and no exception escapes from it. -/
  commit : io.commit.delivery.taken = true
  heard : ∀ taken, io.commit.delivery ≠ .raises taken
  returns : ((s.committing st reason io).commitRearm st io.commit.requestId
    io.prepare.token.text io.commit.now io.commit.input).2 ≠ none
  /-- The OMS is halted if the sidecar refuses the commit. -/
  kill : io.kill.persistRaises = false ∧ io.kill.raises = false
  acknowledge : io.acknowledgeRaises = false

/-- A halt after a commit leaves the sidecar as it is, and is no acceptance. -/
theorem refuseHalted_spec (s : Parties) (text reason : String) (io : RearmIo) :
    (s.refuseHalted text reason io).1.oms.Halted ∧
      (s.refuseHalted text reason io).1.sidecar = s.sidecar ∧
      (s.refuseHalted text reason io).2.accepted = false := by
  refine ⟨Lifecycle.halted_haltSystem _ _ _, rfl, ?_⟩
  unfold refuseHalted
  dsimp only
  split <;> rfl

/-- An unconfirmed commit is no acceptance, and without an exception the OMS is halted. -/
theorem commitRefused_spec (s : Parties) (refusal : String) (io : RearmIo) :
    (s.commitRefused refusal io).1.sidecar = s.sidecar ∧
      (s.commitRefused refusal io).2.accepted = false ∧
      (io.kill.persistRaises = false ∧ io.kill.raises = false →
        (s.commitRefused refusal io).1.oms.Halted) := by
  unfold commitRefused
  dsimp only
  generalize orText refusal "sidecar_rearm_commit_failed" = failure
  generalize toString "IndependentSupervisor rearm failed: " ++ toString failure = text
  cases hkill : s.risk.triggerKillSwitch s.oms text io.kill with
  | error left =>
    refine ⟨rfl, rfl, fun h => ?_⟩
    obtain ⟨risk, oms, hreturns⟩ := KillSwitch.triggerKillSwitch_returns (k := s.risk)
      (o := s.oms) h.1 h.2 text
    rw [hkill] at hreturns
    cases hreturns
  | ok left =>
    obtain ⟨hhalted, hsame, hnot⟩ := refuseHalted_spec
      { s with risk := left.1, oms := left.2 } text failure io
    exact ⟨hsame, hnot, fun _ => hhalted⟩

/-- **The acknowledgement** of a live OMS: accepted the kill switch is over, refused the OMS is
halted. -/
theorem acknowledge_spec (s : Parties) (io : RearmIo) :
    (s.acknowledge io).1.sidecar = s.sidecar ∧
      ((s.acknowledge io).2.accepted = true →
        (s.acknowledge io).1.oms = s.oms ∧ (s.acknowledge io).1.risk.triggered = false) ∧
      ((s.acknowledge io).2.accepted = false → io.acknowledgeRaises = false →
        (s.acknowledge io).1.oms.Halted) := by
  unfold acknowledge
  dsimp only
  split
  · rename_i hraises
    exact ⟨rfl, fun h => (by cases h), fun _ h => by rw [hraises] at h; cases h⟩
  split
  · obtain ⟨hhalted, hsame, hnot⟩ := refuseHalted_spec
      { s with risk := s.risk.refreshRearmState s.oms }
      "RiskManager refused operator rearm acknowledgement"
      "risk_manager_rearm_acknowledgement_failed" io
    refine ⟨hsame, fun h => ?_, fun _ _ => hhalted⟩
    rw [hnot] at h
    cases h
  · rename_i htriggered
    exact ⟨rfl, fun _ => ⟨rfl, eq_false_of_ne_true htriggered⟩, fun h => (by cases h)⟩

/-- What the parent hears of an accepted request was answered by the sidecar. -/
theorem heard_ok {α : Type} {delivery : Delivery} {reply : Option (Except String α)} {value : α}
    (h : delivery.hear reply = some (.ok value)) :
    delivery = .answered ∧ reply = some (.ok value) := by
  cases delivery with
  | answered =>
    cases reply with
    | none => cases h
    | some result =>
      cases Option.some.inj h
      exact ⟨rfl, rfl⟩
  | lost taken reason => cases h
  | raises taken => cases h

variable {reason requestId token : String}

/-- **An accepted commit phase** of a live OMS has rearmed everyone. -/
theorem commitPhase_accepted (hlive : s.oms.Live)
    (h : (s.commitPhase st token io).2.accepted = true) :
    (s.commitPhase st token io).1.Rearmed := by
  unfold commitPhase at h ⊢
  cases hcommit : requestCommit st s.sidecar token io.commit with
  | mk c heard =>
    rw [hcommit] at h
    match heard, hcommit with
    | none, _ => cases h
    | some (.error refusal), _ =>
      have hnot := (commitRefused_spec { s with sidecar := c } refusal io).2.1
      dsimp only at h
      rw [hnot] at h
      cases h
    | some (.ok ()), hcommit =>
      obtain ⟨hsame, haccepted, -⟩ := acknowledge_spec { s with sidecar := c } io
      obtain ⟨homs, hrisk⟩ := haccepted h
      refine ⟨?_, hrisk, ?_⟩
      · dsimp only
        rw [homs]
        exact hlive
      · dsimp only
        rw [hsame]
        unfold requestCommit at hcommit
        split at hcommit
        · obtain ⟨hc, hheard⟩ := Prod.mk.inj hcommit
          obtain ⟨-, hreply⟩ := heard_ok hheard
          rw [← hc]
          exact unlatched_of_commit st hreply
        · obtain ⟨-, hheard⟩ := Prod.mk.inj hcommit
          obtain ⟨-, hreply⟩ := heard_ok hheard
          cases hreply

/-- **A commit phase that settles** leaves no token, and refused a halted OMS. -/
theorem commitPhase_settled {token : Token} (hmatches : Matches s.sidecar token.text)
    (htaken : io.commit.delivery.taken = true)
    (hheard : ∀ taken, io.commit.delivery ≠ .raises taken)
    (hreturns : (s.sidecar.commitRearm st io.commit.requestId token.text io.commit.now
      io.commit.input).2 ≠ none)
    (hkill : io.kill.persistRaises = false ∧ io.kill.raises = false)
    (hacknowledge : io.acknowledgeRaises = false) :
    (s.commitPhase st token.text io).1.sidecar.control.preparedRearm = none ∧
      ((s.commitPhase st token.text io).2.accepted = false →
        (s.commitPhase st token.text io).1.oms.Halted) := by
  have hnone := prepared_commitRearm st hmatches hreturns
  unfold commitPhase requestCommit
  rw [if_pos htaken]
  cases hcommit : s.sidecar.commitRearm st io.commit.requestId token.text io.commit.now
      io.commit.input with
  | mk c reply =>
    rw [hcommit] at hnone
    dsimp only
    cases hhear : io.commit.delivery.hear reply with
    | none =>
      cases hdelivery : io.commit.delivery with
      | answered =>
        rw [hdelivery] at hhear
        cases hhear
      | lost taken reason =>
        rw [hdelivery] at hhear
        cases hhear
      | raises taken => exact absurd hdelivery (hheard taken)
    | some heard =>
      cases heard with
      | error refusal =>
        obtain ⟨hsame, -, hhalted⟩ := commitRefused_spec { s with sidecar := c } refusal io
        dsimp only
        rw [hsame]
        exact ⟨hnone, fun _ => hhalted hkill⟩
      | ok u =>
        obtain ⟨hsame, -, hhalted⟩ := acknowledge_spec { s with sidecar := c } io
        dsimp only
        rw [hsame]
        exact ⟨hnone, fun hnot => hhalted hnot hacknowledge⟩

/-- An accepted system phase has rearmed everyone. -/
theorem systemPhase_accepted
    (h : (s.systemPhase st token io).2.accepted = true) :
    (s.systemPhase st token io).1.Rearmed := by
  unfold systemPhase at h ⊢
  cases hsystem : s.oms.rearmSystem io.system with
  | error left =>
    rw [hsystem] at h
    cases h
  | ok result =>
    obtain ⟨oms, rearmed⟩ := result
    rw [hsystem] at h
    cases rearmed with
    | false =>
      dsimp only at h
      split at h
      · cases h
      · cases h
    | true =>
      exact commitPhase_accepted st (s := { s with oms := oms })
        (Lifecycle.live_of_rearmSystem hsystem) h

/-- **An accepted attempt** has rearmed all three parties. -/
theorem accepted_rearmed (st : Settings) (s : Parties) (reason : String) (io : RearmIo)
    (h : (s.coordinatedRearm st reason io).2.accepted = true) :
    (s.coordinatedRearm st reason io).1.Rearmed := by
  unfold coordinatedRearm at h ⊢
  split at h
  · cases h
  rename_i hask
  split at h
  · cases h
  rename_i hrisk
  rw [if_neg hask, if_neg hrisk]
  cases hprepare : requestPrepare st s.sidecar (orText reason "operator_rearm") io.prepare with
  | mk c heard =>
    rw [hprepare] at h
    match heard with
    | none => cases h
    | some (.error refusal) => cases h
    | some (.ok token) => exact systemPhase_accepted st h

/-- **An attempt that settles**, on a halted OMS and without a prepared token, leaves no token,
and not accepted a halted OMS. -/
theorem settled_attempt (hhalted : s.oms.Halted)
    (htoken : s.sidecar.control.preparedRearm = none) (h : s.Settles st reason io) :
    (s.coordinatedRearm st reason io).1.sidecar.control.preparedRearm = none ∧
      ((s.coordinatedRearm st reason io).2.accepted = false →
        (s.coordinatedRearm st reason io).1.oms.Halted) := by
  -- once the sidecar is prepared, the OMS decides between the abort and the commit
  have hsystem : ∀ c : Core, c = s.committing st reason io → Matches c io.prepare.token.text →
      (({ s with sidecar := c } : Parties).systemPhase st io.prepare.token.text
          io).1.sidecar.control.preparedRearm = none ∧
        ((({ s with sidecar := c } : Parties).systemPhase st io.prepare.token.text
            io).2.accepted = false →
          (({ s with sidecar := c } : Parties).systemPhase st io.prepare.token.text
            io).1.oms.Halted) := by
    intro c hc hmatches
    obtain ⟨oms, rearmed, hreturns, hrefused⟩ := Lifecycle.rearmSystem_spec h.system hhalted
    unfold systemPhase
    dsimp only
    rw [hreturns]
    cases rearmed with
    | false =>
      dsimp only
      refine ⟨?_, fun _ => hrefused rfl⟩
      unfold requestAbort
      rw [if_pos h.abort]
      exact prepared_abortRearm hmatches
    | true =>
      exact commitPhase_settled st (s := { s with oms := oms, sidecar := c }) hmatches h.commit
        h.heard (hc ▸ h.returns) h.kill h.acknowledge
  unfold coordinatedRearm
  split
  · exact ⟨htoken, fun _ => hhalted⟩
  split
  · exact ⟨htoken, fun _ => hhalted⟩
  have hcommitting : (requestPrepare st s.sidecar (orText reason "operator_rearm")
      io.prepare).1.after st io.meanwhile = s.committing st reason io := rfl
  revert hcommitting
  unfold requestPrepare
  split
  · rename_i htaken
    have hprepares := h.prepare
    have hspec := @prepareRearm_spec st s.sidecar io.prepare.requestId io.prepare.now
      io.prepare.input (orText reason "operator_rearm") io.prepare.token.text htoken
    cases hprepare : s.sidecar.prepareRearm st io.prepare.requestId
        (orText reason "operator_rearm") io.prepare.now io.prepare.input
        io.prepare.token.text with
    | mk c reply =>
      rw [hprepare] at hspec hprepares
      dsimp only at hspec hprepares ⊢
      intro hcommitting
      rcases hspec with ⟨hnone, hnot⟩ | ⟨haccepted, hmatches⟩
      · cases hhear : io.prepare.delivery.hear reply with
        | none => exact ⟨hnone, fun _ => hhalted⟩
        | some heard =>
          cases heard with
          | error refusal => exact ⟨hnone, fun _ => hhalted⟩
          | ok token => exact absurd (heard_ok hhear).2 (hnot token)
      · rw [hprepares haccepted htaken, haccepted]
        exact hsystem _ hcommitting
          (hmatches.restrains (restrains_after st c h.meanwhile))
  · rename_i htaken
    intro _
    cases hdelivery : io.prepare.delivery with
    | answered =>
      rw [hdelivery] at htaken
      exact absurd rfl htaken
    | lost taken reason => exact ⟨htoken, fun _ => hhalted⟩
    | raises taken => exact ⟨htoken, fun _ => hhalted⟩

/-- **An attempt in which everything is in order**: every message is delivered, the risk manager
and the OMS have nothing against it, and the sidecar is safe when it is prepared and when it
commits, with a disk that works. -/
structure Healthy (s : Parties) (reason : String) (io : RearmIo) : Prop where
  risk : s.risk.canOperatorRearm = true
  asked : io.askRaises = false
  prepare : io.prepare.delivery = .answered
  request : io.prepare.requestId ≠ ""
  prepares : Safe st s.sidecar io.prepare.now io.prepare.input
  system : io.system.Clean
  meanwhile : ∀ call ∈ io.meanwhile, OwnCall call
  commit : io.commit.delivery = .answered
  commits : Safe st (s.committing st reason io) io.commit.now io.commit.input
  stored : ((s.committing st reason io).persistUnlatched st io.commit.now io.commit.input).2 =
    some true
  acknowledged : io.acknowledgeRaises = false

/-- **A proof that holds until the commit**: in time, the sidecar still has what it prepared,
with the generation and the proof it was prepared with. -/
structure Unchanged (s : Parties) (reason : String) (io : RearmIo) : Prop where
  kept : (s.committing st reason io).control.preparedRearm =
    (requestPrepare st s.sidecar (orText reason "operator_rearm")
      io.prepare).1.control.preparedRearm
  generation : (s.committing st reason io).control.generation =
    (requestPrepare st s.sidecar (orText reason "operator_rearm")
      io.prepare).1.control.generation
  binding : (s.committing st reason io).rearmProofBinding =
    (requestPrepare st s.sidecar (orText reason "operator_rearm") io.prepare).1.rearmProofBinding
  intime : io.commit.now ≤ io.prepare.now + st.control.rearmPrepareTtlSec

/-- A safe sidecar is prepared exactly when it is latched. -/
theorem prepareRearm_of_safe {c : Core} {now : ℚ}
    {input : GateInput} (hrequest : requestId ≠ "") (hsafe : Safe st c now input) :
    (c.prepareRearm st requestId reason now input token).2 =
      some (if c.control.killLatched then .ok token else .error "kill_latch_not_set") := by
  have hgate := checkRearmSafety_of_safe st hsafe
  unfold Core.prepareRearm
  simp only [if_neg hrequest]
  cases hsafety : c.checkRearmSafety st now input with
  | mk checked safety =>
    rw [hsafety] at hgate
    dsimp only at hgate
    subst hgate
    dsimp only
    unfold Control.prepareRearm
    rw [if_neg hrequest]
    cases c.control.killLatched <;> rfl

/-- What a request that is answered comes to. -/
theorem requestPrepare_answered (h : io.prepare.delivery = .answered) :
    requestPrepare st s.sidecar reason io.prepare =
      ((s.sidecar.prepareRearm st io.prepare.requestId reason io.prepare.now io.prepare.input
          io.prepare.token.text).1,
        io.prepare.delivery.hear (s.sidecar.prepareRearm st io.prepare.requestId reason
          io.prepare.now io.prepare.input io.prepare.token.text).2) := by
  unfold requestPrepare
  rw [if_pos (by rw [h]; rfl)]

/-- **The commit of a healthy attempt** on a latched sidecar is accepted when its proof holds. -/
theorem committing_accepted_iff (h : s.Healthy st reason io)
    (hlatched : s.sidecar.control.killLatched = true) :
    ((s.committing st reason io).commitRearm st io.commit.requestId io.prepare.token.text
      io.commit.now io.commit.input).2 = some (.ok ()) ↔ s.Unchanged st reason io := by
  have haccepted := @prepareRearm_of_safe st (orText reason "operator_rearm")
    io.prepare.requestId io.prepare.token.text s.sidecar io.prepare.now io.prepare.input
    h.request
    h.prepares
  rw [if_pos hlatched] at haccepted
  rcases Core.prepareRearm_cases st s.sidecar io.prepare.requestId
      (orText reason "operator_rearm") io.prepare.now io.prepare.input io.prepare.token.text with
    ⟨-, hrefused⟩ | ⟨-, hkept, hgeneration, -, hprepared⟩
  · exact absurd haccepted (hrefused _)
  have hrequested := @requestPrepare_answered st s io (orText reason "operator_rearm") h.prepare
  have hrestrains := restrains_after st
    (requestPrepare st s.sidecar (orText reason "operator_rearm") io.prepare).1 h.meanwhile
  constructor
  · intro hreturns
    have hcommits : (s.committing st reason io).Commits st io.commit.requestId
        io.prepare.token.text io.commit.now io.commit.input := by
      by_contra hnot
      exact (Core.restrains_commitRearm_of_not_commits st hnot).2 hreturns
    obtain ⟨-, prepared, hsome, -, hintime, hsame, hbinding⟩ :=
      Control.validateRearmCommit_ok hcommits.valid
    have hstill : (s.committing st reason io).control.preparedRearm =
        (requestPrepare st s.sidecar (orText reason "operator_rearm")
          io.prepare).1.control.preparedRearm := by
      refine hrestrains.control.prepared.resolve_right fun hnone => ?_
      exact Option.some_ne_none _ (hsome.symm.trans hnone)
    have heq := hstill.symm.trans hsome
    rw [hrequested] at heq
    cases hprepared.symm.trans heq
    refine ⟨hstill, ?_, ?_, hintime⟩
    · rw [hrequested]
      exact hsame.symm.trans hgeneration.symm
    · rw [hrequested]
      exact hbinding.symm
  · rintro ⟨hsome, hsame, hbinding, hintime⟩
    have hstill : (s.committing st reason io).control.killLatched = true := by
      refine hrestrains.control.latched ?_
      rw [hrequested]
      exact hkept.trans hlatched
    rw [hrequested] at hsome hsame hbinding
    rw [hprepared] at hsome
    have hvalid := @validateRearmCommit_prepared (s.committing st reason io)
      io.commit.requestId io.prepare.token io.commit.now _ _ hsome rfl hintime
      (hsame.trans hgeneration).symm
      hbinding.symm
    have hsafe := checkRearmSafety_of_safe st h.commits
    rw [if_pos hstill] at hsafe
    rw [Core.commitRearm_persisted st ⟨hvalid, hsafe⟩ h.stored]

/-- **A healthy attempt** on a halted OMS and a latched sidecar is decided by the commit. -/
theorem accepted_iff_committing (hhalted : s.oms.Halted)
    (h : s.Healthy st reason io) (hlatched : s.sidecar.control.killLatched = true) :
    (s.coordinatedRearm st reason io).2.accepted = true ↔
      ((s.committing st reason io).commitRearm st io.commit.requestId io.prepare.token.text
        io.commit.now io.commit.input).2 = some (.ok ()) := by
  have hrequested := @requestPrepare_answered st s io (orText reason "operator_rearm") h.prepare
  have haccepted := @prepareRearm_of_safe st (orText reason "operator_rearm")
    io.prepare.requestId io.prepare.token.text s.sidecar io.prepare.now io.prepare.input
    h.request
    h.prepares
  rw [if_pos hlatched] at haccepted
  obtain ⟨oms, homs⟩ := Lifecycle.rearmSystem_clean h.system hhalted
  have hlive := Lifecycle.live_of_rearmSystem homs
  have hattempt : (s.coordinatedRearm st reason io).2 =
      (({ s with oms := oms, sidecar := s.committing st reason io } : Parties).commitPhase st
        io.prepare.token.text io).2 := by
    have hcommitting : s.committing st reason io =
        (s.sidecar.prepareRearm st io.prepare.requestId (orText reason "operator_rearm")
          io.prepare.now io.prepare.input io.prepare.token.text).1.after st io.meanwhile := by
      unfold committing
      rw [hrequested]
    unfold coordinatedRearm
    rw [if_neg (by rw [h.asked]; decide), if_neg (by rw [h.risk]; decide), hrequested, haccepted,
      h.prepare]
    dsimp only [Delivery.hear, Option.getD_some]
    rw [← hcommitting]
    unfold systemPhase
    dsimp only
    rw [homs]
  rw [hattempt]
  unfold commitPhase requestCommit
  dsimp only
  rw [h.commit, if_pos (show Delivery.answered.taken = true from rfl)]
  cases hcommit : (s.committing st reason io).commitRearm st io.commit.requestId
      io.prepare.token.text io.commit.now io.commit.input with
  | mk c reply =>
    have hrefused : ∀ refusal, (({ s with oms := oms, sidecar := c } : Parties).commitRefused
        refusal io).2.accepted = false := fun refusal => (commitRefused_spec _ refusal io).2.1
    rcases reply with _ | refusal | ⟨⟩
    · exact iff_of_false (by simp [Delivery.hear, hrefused]) (by simp)
    · exact iff_of_false (by simp [Delivery.hear, hrefused]) (by simp)
    refine iff_of_true ?_ rfl
    dsimp only [Delivery.hear, Option.getD_some]
    unfold acknowledge
    dsimp only
    rw [if_neg (by rw [h.acknowledged]; decide), if_neg (by
      rw [KillSwitch.refreshRearmState_live h.risk hlive]
      decide)]
    rfl

/-- **Which healthy attempts are accepted**: on a halted OMS, those that find the sidecar latched
and whose proof holds until the commit. -/
theorem healthy_accepted_iff (hhalted : s.oms.Halted) (h : s.Healthy st reason io) :
    (s.coordinatedRearm st reason io).2.accepted = true ↔
      s.sidecar.control.killLatched = true ∧ s.Unchanged st reason io := by
  cases hlatched : s.sidecar.control.killLatched with
  | true =>
    rw [accepted_iff_committing st hhalted h hlatched, committing_accepted_iff st h hlatched]
    exact (and_iff_right rfl).symm
  | false =>
    refine iff_of_false (fun haccepted => ?_) fun hboth => by cases hboth.1
    unfold coordinatedRearm at haccepted
    rw [if_neg (by rw [h.asked]; decide), if_neg (by rw [h.risk]; decide),
      requestPrepare_answered st h.prepare, prepareRearm_of_safe st h.request h.prepares,
      if_neg (by rw [hlatched]; decide), h.prepare] at haccepted
    cases haccepted

/-! ## Runs -/

/-- **The condition of a step.**  The sidecar only makes its own calls between the attempts, so
no request arrives late; an attempt is made on an OMS that is not live, it settles, and if
everything is in order it finds the sidecar latched and its proof holds until the commit. -/
def Meets (s : Parties) : RearmStep → Prop
  | .halts _ _ => True
  | .sidecar call => OwnCall call
  | .kills _ _ => True
  | .supervises _ => True
  | .attempts reason io =>
    s.oms.state ≠ .live ∧ s.Settles st reason io ∧
      (s.Healthy st reason io →
        s.sidecar.control.killLatched = true ∧ s.Unchanged st reason io)

/-- **A step** that meets the condition leaves the OMS halted or live, and no token. -/
theorem Standing.take {s' : Parties} {a : RearmStep} (h : s.Standing) (hmeets : s.Meets st a)
    (htake : s.take st a = some s') : s'.Standing := by
  cases htake
  cases a with
  | halts reason audit => exact ⟨Or.inl (Lifecycle.halted_haltSystem _ _ _), h.token⟩
  | sidecar call =>
    refine ⟨h.oms, ?_⟩
    rcases (restrains_call (c := s.sidecar) st hmeets).control.prepared with hsame | hnone
    · exact hsame.trans h.token
    · exact hnone
  | kills reason io =>
    have hkept : ∀ oms : Lifecycle, oms = s.oms ∨ oms.Halted → oms.Halted ∨ oms.Live := by
      rintro oms (rfl | hhalted)
      · exact h.oms
      · exact Or.inl hhalted
    obtain ⟨hreturns, hescapes⟩ := s.risk.triggerKillSwitch_oms s.oms reason io
    unfold step
    dsimp only
    split
    · rename_i risk oms heq
      exact ⟨hkept oms (hescapes risk oms heq), h.token⟩
    · rename_i risk oms heq
      exact ⟨hkept oms (hreturns risk oms heq), h.token⟩
  | supervises state =>
    unfold step
    dsimp only
    split
    · exact ⟨h.oms, h.token⟩
    · exact h
  | attempts reason io =>
    obtain ⟨hnot, hsettles, -⟩ := hmeets
    have hhalted : s.oms.Halted := h.oms.resolve_right fun hlive => hnot hlive.1
    obtain ⟨htoken, hrefused⟩ := settled_attempt st hhalted h.token hsettles
    refine ⟨?_, htoken⟩
    cases haccepted : (s.coordinatedRearm st reason io).2.accepted with
    | false => exact Or.inl (hrefused haccepted)
    | true => exact Or.inr (accepted_rearmed st s reason io haccepted).oms

/-- **All or nothing, and again.**  In a run whose steps all meet the condition, an attempt that
is accepted has rearmed all three parties, one that is not leaves neither a live OMS nor a token
that a commit is accepted with, and one in which everything is in order is accepted. -/
theorem coordinated_rearm_settled {s₀ : Parties} {steps : List RearmStep}
    (hstanding : s₀.Standing) (hrun : Run.exec (take st) s₀ steps = some s)
    (hmeets : Run.Along (take st) (Meets st) s₀ steps) {reason : String}
    (hattempt : s.Meets st (.attempts reason io)) :
    ((s.coordinatedRearm st reason io).2.accepted = true →
        (s.coordinatedRearm st reason io).1.Rearmed) ∧
      ((s.coordinatedRearm st reason io).2.accepted = false →
        (s.coordinatedRearm st reason io).1.oms.state ≠ .live ∧
          ¬Usable st (s.coordinatedRearm st reason io).1.sidecar) ∧
      (s.Healthy st reason io → (s.coordinatedRearm st reason io).2.accepted = true) := by
  have hreached : s.Standing := Run.exec_invariant
    (fun _ _ _ h hmeets htake => Standing.take st h hmeets htake) hstanding hmeets hrun
  obtain ⟨hnot, hsettles, hlatched⟩ := hattempt
  have hhalted : s.oms.Halted := hreached.oms.resolve_right fun hlive => hnot hlive.1
  obtain ⟨htoken, hrefused⟩ := settled_attempt st hhalted hreached.token hsettles
  refine ⟨accepted_rearmed st s reason io, fun hnot => ?_, fun hhealthy => ?_⟩
  · exact ⟨(hrefused hnot).not_live, not_usable st htoken⟩
  · exact (healthy_accepted_iff st hhalted hhealthy).mpr (hlatched hhealthy)

/-! ## Runs with an attempt -/

section Sample

open Sidecar (Disk StorePayload Reading storeSettings latchedCore)

/-- The token of an attempt. -/
def sampleToken : Token := ⟨"0123456789abcdef", by decide, by decide⟩

/-- An attempt in which everything is in order. -/
def sampleIo : RearmIo where
  prepare := {
    requestId := "1"
    now := 102
    input := { service := { reading := .quiet 0 0 } }
    token := sampleToken }
  commit := {
    requestId := "2"
    now := 103
    input := { service := { reading := .quiet 0 0 } } }

/-- Live parties with this sidecar. -/
def liveParties (c : Core) : Parties where
  oms := { state := .live, manualRearmRequired := false }
  sidecar := c

/-- A sidecar that has never been latched. -/
def armedCore : Core :=
  Core.started storeSettings (Disk.plain (StorePayload.plain false .armed)) { now := 100 }

/-- The parties after a halt of the OMS that a latched sidecar verified. -/
def verifiedParties : Parties :=
  ((liveParties latchedCore).step storeSettings (.halts "breach" none)).step storeSettings
    (.sidecar (.step 101 { service := { reading := .quiet 0 0 } }))

/-- A sidecar that reads a quiet and flat account is safe, if its latch is verified. -/
theorem safe_quiet {c : Core} {now : ℚ} (hactive : c.control.quiesced = false)
    (hheartbeat : c.parentHeartbeatError = "")
    (hrecent : max 0 (now - c.lastParentHeartbeatAt) ≤ storeSettings.parentHeartbeatTimeoutSec)
    (hverified : c.control.killLatched = true → c.control.stage = .flatVerified) :
    Safe storeSettings c now { service := { reading := .quiet 0 0 } } where
  active := hactive
  heartbeat := hheartbeat
  recent := hrecent
  healthy := rfl
  fresh := decide_eq_true rfl
  risk := rfl
  funding := rfl
  proof := rfl
  orders := fun _ => rfl
  positions := fun _ => rfl
  verified := hverified

/-- Everything is in order for an attempt on them. -/
theorem verifiedParties_healthy :
    verifiedParties.Healthy storeSettings "operator" sampleIo where
  risk := rfl
  asked := rfl
  prepare := rfl
  request := by decide
  prepares := safe_quiet (by decide +kernel) (by decide +kernel) (by decide +kernel)
    fun _ => by decide +kernel
  system := ⟨rfl, rfl, rfl, rfl, rfl⟩
  meanwhile := by simp [sampleIo]
  commit := rfl
  commits := safe_quiet (by decide +kernel) (by decide +kernel) (by decide +kernel)
    fun _ => by decide +kernel
  stored := by decide +kernel
  acknowledged := rfl

/-- The attempt meets the condition. -/
theorem verifiedParties_meets :
    verifiedParties.Meets storeSettings (.attempts "operator" sampleIo) :=
  ⟨by decide +kernel,
    { prepare := fun _ _ => rfl
      meanwhile := by simp [sampleIo]
      system := ⟨rfl, rfl, rfl, by simp [sampleIo], by simp [sampleIo]⟩
      abort := rfl
      commit := rfl
      heard := fun _ h => (by cases h)
      returns := by decide +kernel
      kill := ⟨rfl, rfl⟩
      acknowledge := rfl },
    fun _ => ⟨by decide +kernel, rfl, rfl, rfl, by decide +kernel⟩⟩

/-- A rearm after a halt and a verified kill: the run, and the attempt that is accepted. -/
theorem coordinated_rearm_verified :
    (verifiedParties.coordinatedRearm storeSettings "operator" sampleIo).2.accepted = true :=
  (@coordinated_rearm_settled storeSettings verifiedParties sampleIo (liveParties latchedCore)
    [.halts "breach" none, .sidecar (.step 101 { service := { reading := .quiet 0 0 } })]
    ⟨Or.inr ⟨rfl, rfl⟩, by decide +kernel⟩ rfl
    ⟨trivial, fun _ h => by cases h; exact ⟨trivial, fun _ h => by cases h; trivial⟩⟩
    "operator" verifiedParties_meets).2.2 verifiedParties_healthy

/-- The parties after a halt of the OMS alone. -/
def haltedParties : Parties :=
  (liveParties armedCore).step storeSettings (.halts "resource guard" none)

/-- **No way back.**  The OMS halts by itself; an attempt in which everything is in order is
refused, since the sidecar was never latched. -/
theorem haltedParties_refused :
    ¬∀ (s₀ s : Parties) (steps : List RearmStep) (reason : String) (io : RearmIo),
      s₀.Standing → Run.exec (take storeSettings) s₀ steps = some s →
      s.Healthy storeSettings reason io →
      (s.coordinatedRearm storeSettings reason io).2.accepted = true := by
  intro h
  have hhealthy : haltedParties.Healthy storeSettings "operator" sampleIo :=
    { risk := rfl
      asked := rfl
      prepare := rfl
      request := by decide
      prepares := safe_quiet (by decide +kernel) (by decide +kernel) (by decide +kernel)
        fun hlatched => absurd hlatched (by decide +kernel)
      system := ⟨rfl, rfl, rfl, rfl, rfl⟩
      meanwhile := by simp [sampleIo]
      commit := rfl
      commits := safe_quiet (by decide +kernel) (by decide +kernel) (by decide +kernel)
        fun hlatched => absurd hlatched (by decide +kernel)
      stored := by decide +kernel
      acknowledged := rfl }
  have haccepted := h (liveParties armedCore) haltedParties [.halts "resource guard" none]
    "operator" sampleIo ⟨Or.inr ⟨rfl, rfl⟩, by decide +kernel⟩ rfl hhealthy
  revert haccepted
  decide +kernel

end Sample

end Parties

end ChronosHFT.Admin
