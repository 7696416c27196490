import ChronosHFT.Sidecar.KillLatch
import ChronosHFT.Sidecar.Moves

/-!
# The control protocol and the two backends

With storage that works, the control commands are to have the same outcomes on the state file and
on the state store: a quiesce is accepted and persisted, and a rearm that was prepared is
accepted when it is committed in time, after any number of steps that leave the latch, the stage
and the quiesce state alone and ask nothing of the exchange.

Two things break this.  A quiesce asks for the path of the state file, which the store does not
have.  And the binding of a prepared rearm holds the version of the stored state, which every
step with the store moves on (`storeSteps_refused`).  `control_outcomes` says when the outcomes
are as they should be: a quiesce exactly with the state file, and a commit exactly when the rearm
gate holds and no step in between `Disturbs` the rearm.
-/

namespace ChronosHFT.Sidecar

/-! ## Storage that works -/

/-- Every write is done. -/
structure Storage.Works (storage : Storage) : Prop where
  file : ∀ event before payload, storage.writeFile event before payload = .done
  store : ∀ event payload, storage.writeStore event payload = .done

namespace Core

variable (st : Settings)

/-- The version of the stored state is known. -/
def InSync (c : Core) : Prop :=
  st.backend = .store → ∃ store, c.disk.store = some store ∧ store.head.version = c.stateVersion

variable {st} {c c' : Core} {storage : Storage}

/-- **Persisting on storage that works.** -/
theorem persist_works (hbackend : st.backend ≠ .nowhere) (hworks : storage.Works)
    (hsync : c.InSync st) (event : String) (force : Bool) :
    ∃ c', c.persistDurableState st storage event force = (c', some true) ∧
      c'.control = c.control ∧ c'.observation = c.observation ∧
      c'.lastFlatProof = c.lastFlatProof ∧ c'.InSync st ∧
      (st.backend = .file → c'.effectiveStateVersion = c.effectiveStateVersion) ∧
      (st.backend = .store → c'.stateVersion.generation = c.stateVersion.generation + 1) := by
  unfold persistDurableState
  cases hb : st.backend with
  | nowhere => exact absurd hb hbackend
  | file =>
    dsimp only
    unfold persistFile
    have hno : ∀ c : Core, c.InSync st := by
      intro c hstore
      rw [hb] at hstore
      cases hstore
    split
    · exact ⟨c, rfl, rfl, rfl, rfl, hsync, fun _ => rfl, nofun⟩
    · dsimp only
      rw [hworks.file]
      exact ⟨_, rfl, rfl, rfl, rfl, hno _, fun _ => rfl, nofun⟩
  | store =>
    dsimp only
    obtain ⟨store, hdisk, hversion⟩ := hsync hb
    rw [hdisk]
    dsimp only
    unfold persistStore
    rw [hworks.store, ← hversion, StateStore.cas_done]
    exact ⟨_, rfl, rfl, rfl, rfl, fun _ => ⟨_, rfl, rfl⟩, nofun, fun _ => rfl⟩

/-- **A move on storage that works** keeps the version known. -/
theorem InSync.move {call : Call} {start : Core} (hbackend : st.backend ≠ .nowhere)
    (hworks : call.storage.Works) {a b : Core} (hmove : Move st call start a b)
    (hsync : a.InSync st) : b.InSync st := by
  have hsame : ∀ {a b : Core}, b.disk = a.disk → b.stateVersion = a.stateVersion →
      a.InSync st → b.InSync st := by
    intro a b hdisk hversion hsync hb
    rw [hdisk, hversion]
    exact hsync hb
  have hpersist : ∀ {a : Core} (event : String) (force : Bool), a.InSync st →
      (a.persistDurableState st call.storage event force).1.InSync st := by
    intro a event force hsync
    obtain ⟨c', heq, -, -, -, hsync', -⟩ := persist_works hbackend hworks hsync event force
    rw [heq]
    exact hsync'
  cases hmove with
  | calm h => exact hsame h.disk h.version hsync
  | note h => exact hsame rfl rfl hsync
  | stale healthy now h =>
    unfold updateParentStaleState
    split
    · exact hsame rfl rfl hsync
    split
    · exact hsame rfl rfl hsync
    · exact hsync
  | decide now input hcall h =>
    have hdecides := decides_stepDecide st a now input
    exact hsame hdecides.disk hdecides.version hsync
  | retreat => exact hsame rfl rfl hsync
  | quiesce reason sequence wallTime => exact hsame rfl rfl hsync
  | unquiesce error => exact hsame rfl rfl hsync
  | takeover reason => exact hsame rfl rfl hsync
  | unlatch => exact hsame rfl rfl hsync
  | restore requestId reason observation =>
    refine hsame ?_ ?_ (hpersist (a := a.beginRearmCommit st) "operator_rearm_committed" true
      (hsame rfl rfl hsync)) <;> rfl
  | fail reason error => exact hsame rfl rfl hsync
  | persist event force => exact hpersist event force hsync

/-- A start knows the version it took over. -/
theorem inSync_start {disk : Disk} {input : StartInput} (h : Core.start st disk input = .ok c) :
    c.InSync st := by
  intro hb
  unfold start at h
  simp only [hb] at h
  obtain ⟨store, next, applied, -, -, -, rfl⟩ := openStateStore_eq_ok h
  exact ⟨next, rfl, rfl⟩

end Core

theorem Runs.inSync {st : Settings} (hbackend : st.backend ≠ .nowhere) {disk : Disk}
    {input : Core.StartInput} {c₀ c : Core} {history : List Entry}
    (hstart : Core.start st disk input = .ok c₀) (hruns : Runs st c₀ history c)
    (hworks : ∀ e ∈ history, e.call.storage.Works) : c.InSync st := by
  induction hruns with
  | nil => exact Core.inSync_start hstart
  | call h call ih =>
    have hbefore := ih fun e he => hworks e (List.mem_append_left _ he)
    have hcall : call.storage.Works :=
      hworks _ (List.mem_append_right _ (List.mem_singleton.mpr rfl))
    exact call_keeps (fun _ _ hmove => Core.InSync.move hbackend hcall hmove) hbefore

/-! ## Quiescing -/

section Quiesce

variable (st : Settings)

/-- The quiesced state is what a start would find. -/
def Core.StoredQuiesced (c : Core) : Prop :=
  match st.backend with
  | .file => ∃ payload, c.disk.file = some (.record (some payload) (st.checksum payload)) ∧
      payload.quiesced = .is true
  | .store => ∃ store, c.disk.store = some store ∧ store.head.payload.quiesced = some true ∧
      store.anchor = { committed := true, target := store.head }
  | .nowhere => False

/-- A quiesce that is accepted and persisted. -/
def Core.Quiesces (c : Core) (requestId reason : String) (wallTime : ℚ) (storage : Storage) :
    Prop :=
  (c.requestQuiesce st requestId reason wallTime storage).2 =
    some (true, "supervisor_quiesced") ∧
    (c.requestQuiesce st requestId reason wallTime storage).1.control.quiesced = true ∧
    (c.requestQuiesce st requestId reason wallTime storage).1.StoredQuiesced st

variable {st}

/-- Quiescing asks for the path of the state file. -/
theorem Core.enterQuiesced_refused (c : Core) (hbackend : st.backend ≠ .file) (storage : Storage)
    (reason event : String) (wallTime : ℚ) :
    ∃ error, (c.enterQuiesced st storage reason event wallTime).2 = some (false, error) := by
  unfold Core.enterQuiesced Core.persistControlTransition
  dsimp only
  rw [if_pos ⟨rfl, hbackend⟩]
  exact ⟨_, rfl⟩

/-- Quiescing with the state file, on storage that works. -/
theorem Core.enterQuiesced_done (c : Core) (hbackend : st.backend = .file) {storage : Storage}
    (hworks : storage.Works) (reason event : String) (wallTime : ℚ) :
    ∃ c', c.enterQuiesced st storage reason event wallTime = (c', some (true, "")) ∧
      c'.control.quiesced = true ∧ c'.StoredQuiesced st := by
  have hquiesced : (c.control.beginQuiesced st.control reason c.observation.riskSnapshotSequence
      wallTime).quiesced = true := Control.quiesced_bumpIfChanged _ _ _
  unfold Core.enterQuiesced Core.persistControlTransition Core.persistDurableState
    Core.persistFile
    Core.StoredQuiesced
  simp only [hbackend, hworks.file]
  refine ⟨_, rfl, hquiesced, _, rfl, ?_⟩
  unfold Core.filePayload
  dsimp only
  rw [hquiesced]

/-- **A quiesce** is accepted and persisted exactly with the state file. -/
theorem Core.quiesces_iff (c : Core) {requestId : String} (hid : requestId ≠ "")
    (reason : String)
    (wallTime : ℚ) {storage : Storage} (hworks : storage.Works) :
    c.Quiesces st requestId reason wallTime storage ↔ st.backend = .file := by
  unfold Core.Quiesces Core.requestQuiesce
  rw [if_neg hid]
  constructor
  · rintro ⟨haccepted, -⟩
    by_contra hfile
    obtain ⟨error, hrefused⟩ := c.enterQuiesced_refused hfile storage
      (orText reason "operator_quiesce") "supervisor_quiesced" wallTime
    cases henter : c.enterQuiesced st storage (orText reason "operator_quiesce")
        "supervisor_quiesced" wallTime with
    | mk entered result =>
      rw [henter] at haccepted hrefused
      dsimp only at hrefused
      subst hrefused
      cases haccepted
  · intro hfile
    obtain ⟨entered, henter, hquiesced, hstored⟩ := c.enterQuiesced_done hfile hworks
      (orText reason "operator_quiesce") "supervisor_quiesced" wallTime
    rw [henter]
    exact ⟨rfl, hquiesced, hstored⟩

end Quiesce

/-! ## Steps that stay verified -/

section Verified

variable (policy : ControlPolicy) {c : Control} {e : Evaluation} {stale : ℕ}
  {lastCancel lastFlatten : ℚ}

/-- Whether a flat snapshot counts as one more verification. -/
def Control.Counts (c : Control) (e : Evaluation) (stale : ℕ) : Prop :=
  (e.parentHealthy = true ∨ stale < e.sequence) ∧ c.lastVerifiedSnapshotSequence < e.sequence

instance (c : Control) (e : Evaluation) (stale : ℕ) : Decidable (c.Counts e stale) :=
  inferInstanceAs (Decidable (_ ∧ _))

theorem Evaluation.flat_eq_true :
    e.flat = true ↔ e.exchangeValid = true ∧ e.openOrderCount = 0 ∧
    e.nonzeroPositionCount = 0 := by
  unfold Evaluation.flat
  rw [Bool.and_eq_true, Bool.and_eq_true, decide_eq_true_eq, decide_eq_true_eq, and_assoc]

/-- Without a verification, an account that is not flat is not verified. -/
theorem Control.stage_countFlat_ne (hflat : e.flat ≠ true) (hcount : c.flatVerificationCount = 0)
    (hstage : c.stage ≠ .flatVerified) (action : RiskAction) :
    (c.countFlat policy action e stale).stage ≠ .flatVerified := by
  have hchecks := policy.checks_pos
  unfold Control.countFlat
  dsimp only
  split
  · exact hstage
  rename_i hvalid
  have hvalid := eq_true_of_ne_false hvalid
  split
  · have hnot : ¬(e.openOrderCount = 0 ∧ e.nonzeroPositionCount = 0 ∧
        (e.parentHealthy = true ∨ stale < e.sequence) ∧
        c.lastVerifiedSnapshotSequence < e.sequence) :=
      fun h => hflat (Evaluation.flat_eq_true.mpr ⟨hvalid, h.1, h.2.1⟩)
    rw [if_neg hnot]
    split
    · rw [if_neg (by dsimp only; omega)]
      exact nofun
    · rw [if_neg (by omega)]
      exact hstage
  · split
    · exact nofun
    · exact hstage

/-- The emergency actions leave the verification alone, and verify nothing. -/
theorem Control.emergencyActions_ne (lastCancel lastFlatten : ℚ)
    (hstage : c.stage ≠ .flatVerified) (action : RiskAction) :
    (c.emergencyActions policy action e lastCancel lastFlatten).1.stage ≠ .flatVerified ∧
      (c.emergencyActions policy action e lastCancel lastFlatten).1.flatVerificationCount =
        c.flatVerificationCount := by
  unfold Control.emergencyActions
  rw [if_neg hstage]
  dsimp only
  split
  · split <;> exact ⟨nofun, rfl⟩
  · split
    · exact ⟨nofun, rfl⟩
    · exact ⟨hstage, rfl⟩

/-- An account that is not flat does not stay verified. -/
theorem Control.flat_of_stays (hstage : c.stage = .flatVerified)
    (hstays : (c.advanceRiskStage policy false .kill e stale lastCancel lastFlatten).1.stage =
      .flatVerified) : e.flat = true := by
  by_contra hflat
  unfold Control.advanceRiskStage at hstays
  simp only [Bool.false_eq_true, if_false, Control.stage_bumpIfChanged] at hstays
  generalize hstarted : ({ c with
      log := .evaluated e :: c.log
      unsafeSince := if c.unsafeSince ≤ 0 then e.now else c.unsafeSince } : Control) = started
    at hstays
  have hstage' : started.stage = .flatVerified := by
    rw [← hstarted]
    exact hstage
  have hreopen : (started.reopen e).stage = .flattening ∧
      (started.reopen e).flatVerificationCount = 0 := by
    unfold Control.reopen
    have hbad : e.exchangeValid = false ∨ e.openOrderCount ≠ 0 ∨ e.nonzeroPositionCount ≠ 0 := by
      by_contra hnone
      rw [not_or, not_or, not_not, not_not] at hnone
      exact hflat (Evaluation.flat_eq_true.mpr ⟨eq_true_of_ne_false hnone.1, hnone.2⟩)
    rw [if_pos ⟨hstage', hbad⟩]
    exact ⟨rfl, rfl⟩
  have hnot : (started.reopen e).stage ≠ .flatVerified := by
    rw [hreopen.1]
    exact nofun
  obtain ⟨hne, hcount⟩ := Control.emergencyActions_ne policy (e := e) lastCancel lastFlatten hnot
    .kill
  exact Control.stage_countFlat_ne policy hflat (hcount.trans hreopen.2) hne .kill hstays

/-- Counting a flat snapshot of a verified account. -/
theorem Control.countFlat_flat (hstage : c.stage = .flatVerified) (hflat : e.flat = true)
    (hstays : (c.countFlat policy .kill e stale).stage = .flatVerified) :
    c.countFlat policy .kill e stale =
      { c with
        lastVerifiedSnapshotSequence :=
          if c.Counts e stale then e.sequence else c.lastVerifiedSnapshotSequence
        flatVerificationCount :=
          if c.Counts e stale then c.flatVerificationCount + 1
            else c.flatVerificationCount } := by
  obtain ⟨hvalid, hopen, hnonzero⟩ := Evaluation.flat_eq_true.mp hflat
  have hverified : ∀ counted : Control, counted.stage = .flatVerified →
      (if policy.flatVerificationChecks ≤ counted.flatVerificationCount then
        { counted with stage := .flatVerified } else counted) = counted := by
    intro counted hs
    split
    · rw [← hs]
    · rfl
  unfold Control.countFlat at hstays ⊢
  rw [if_neg (by rw [hvalid]; exact nofun)] at hstays ⊢
  by_cases henabled : RiskAction.kill = .kill ∧ policy.flattenEnabled = true
  · rw [if_pos henabled]
    dsimp only
    by_cases hcounts : c.Counts e stale
    · have hall : e.openOrderCount = 0 ∧ e.nonzeroPositionCount = 0 ∧
          (e.parentHealthy = true ∨ stale < e.sequence) ∧
          c.lastVerifiedSnapshotSequence < e.sequence := ⟨hopen, hnonzero, hcounts⟩
      simp only [if_pos hall, if_pos hcounts]
      exact hverified { c with
        lastVerifiedSnapshotSequence := e.sequence
        flatVerificationCount := c.flatVerificationCount + 1 } hstage
    · have hnone : ¬(e.openOrderCount = 0 ∧ e.nonzeroPositionCount = 0 ∧
          (e.parentHealthy = true ∨ stale < e.sequence) ∧
          c.lastVerifiedSnapshotSequence < e.sequence) := fun h => hcounts h.2.2
      have hflat' : ¬(e.openOrderCount ≠ 0 ∨ e.nonzeroPositionCount ≠ 0) := by
        rintro (h | h)
        · exact h hopen
        · exact h hnonzero
      simp only [if_neg hnone, if_neg hflat', if_neg hcounts]
      exact hverified _ hstage
  · rw [if_neg henabled, if_pos hopen] at hstays
    cases hstays

/-- **A verified account** that is flat: nothing is asked of the exchange, and the snapshot may
count. -/
theorem Control.advance_flat (hstage : c.stage = .flatVerified) (hflat : e.flat = true)
    (hstays : (c.advanceRiskStage policy false .kill e stale lastCancel lastFlatten).1.stage =
      .flatVerified) :
    ∃ unsafeSince, c.advanceRiskStage policy false .kill e stale lastCancel lastFlatten =
      (({ c with
          unsafeSince := unsafeSince
          lastVerifiedSnapshotSequence :=
            if c.Counts e stale then e.sequence else c.lastVerifiedSnapshotSequence
          flatVerificationCount :=
            if c.Counts e stale then c.flatVerificationCount + 1 else c.flatVerificationCount
          log := .evaluated e :: c.log } : Control).bumpIfChanged policy
        (c.transitionSnapshot policy), {}) := by
  obtain ⟨hvalid, hopen, hnonzero⟩ := Evaluation.flat_eq_true.mp hflat
  unfold Control.advanceRiskStage at hstays ⊢
  simp only [Bool.false_eq_true, if_false, Control.stage_bumpIfChanged] at hstays ⊢
  refine ⟨if c.unsafeSince ≤ 0 then e.now else c.unsafeSince, ?_⟩
  generalize hstarted : ({ c with
      log := .evaluated e :: c.log
      unsafeSince := if c.unsafeSince ≤ 0 then e.now else c.unsafeSince } : Control) = started
    at hstays ⊢
  have hstage' : started.stage = .flatVerified := by
    rw [← hstarted]
    exact hstage
  have hreopen : started.reopen e = started := by
    unfold Control.reopen
    rw [if_neg]
    rintro ⟨-, hbad | hbad | hbad⟩
    · rw [hvalid] at hbad
      cases hbad
    · exact hbad hopen
    · exact hbad hnonzero
  have hactions : started.emergencyActions policy .kill e lastCancel lastFlatten =
      (started, {}) := by
    unfold Control.emergencyActions
    rw [if_pos hstage']
  rw [hreopen, hactions] at hstays ⊢
  rw [Control.countFlat_flat policy hstage' hflat hstays, ← hstarted]
  rfl

/-- Counting moves the generation on exactly when the account becomes verified or unverified. -/
theorem Control.generation_counted (c : Control) (unsafeSince : ℚ) (sequence count : ℕ)
    (log : List StageEvent) (counted : Control)
    (h : counted = { c with
      unsafeSince := unsafeSince
      lastVerifiedSnapshotSequence := sequence
      flatVerificationCount := count
      log := log }) :
    (counted.bumpIfChanged policy (c.transitionSnapshot policy)).generation =
      if counted.verified policy = c.verified policy then c.generation
        else c.generation + 1 := by
  have hiff : counted.transitionSnapshot policy = c.transitionSnapshot policy ↔
      counted.verified policy = c.verified policy := by
    subst h
    constructor
    · exact fun heq => congrArg TransitionSnapshot.verified heq
    · intro heq
      unfold Control.transitionSnapshot
      rw [heq]
  unfold Control.bumpIfChanged
  by_cases hsame : counted.verified policy = c.verified policy
  · rw [if_pos (hiff.mpr hsame), if_pos hsame, h]
  · rw [if_neg (fun heq => hsame (hiff.mp heq)), if_neg hsame, h]

end Verified

/-! ## Steps between a prepare and a commit -/

section Steps

variable (st : Settings)

/-- A sidecar that may be rearmed: latched, not quiesced and verified flat. -/
structure Core.Parked (c : Core) : Prop where
  killLatched : c.control.killLatched = true
  quiesced : c.control.quiesced = false
  stage : c.control.stage = .flatVerified

/-- Whether the parent is lost in this step. -/
def Core.LosesParent (c : Core) (now : ℚ) : Prop :=
  c.parentHealthy st now = false ∧ c.parentStaleSince ≤ 0

instance (c : Core) (now : ℚ) : Decidable (c.LosesParent st now) :=
  inferInstanceAs (Decidable (_ ∧ _))

/-- Whether the number of verifications falls below what is required in this step, or reaches
it. -/
def Core.Reverifies (c : Core) (now : ℚ) : Prop :=
  if c.LosesParent st now then
    st.control.flatVerificationChecks ≤ c.control.flatVerificationCount
  else c.control.flatVerificationCount < st.control.flatVerificationChecks ∧
    st.control.flatVerificationChecks ≤ c.control.flatVerificationCount + 1 ∧
    c.control.Counts (c.evaluation st now) c.parentStaleSnapshotSequence

variable {st} {c c' : Core} {now : ℚ} {input : StepInput}

theorem Core.latchDecision_latched (h : c.control.killLatched = true)
    (decision : RiskAction × String) :
    c.latchDecision st decision =
      (c, .kill, orText c.control.killReason "independent_hard_risk_breach") := by
  have hnot : ¬(decision.1 = .kill ∧ c.control.killLatched = false) := by
    rw [h]
    rintro ⟨-, hfalse⟩
    cases hfalse
  unfold Core.latchDecision
  simp only [if_neg hnot, if_pos h]

/-- What the stage machine makes of a latched sidecar in a step. -/
def Core.staged (st : Settings) (c : Core) (now : ℚ) : Control × Control.RiskStageActions :=
  let e := c.evaluation st now
  let stale := c.updateParentStaleState st e.parentHealthy now
  stale.control.advanceRiskStage st.control false .kill e stale.parentStaleSnapshotSequence
    stale.lastCancelAttemptAt stale.lastFlattenAttemptAt

variable (st now input) in
theorem Core.stepDecide_latched (h : c.control.killLatched = true) :
    (c.stepDecide st now input).1.control = (c.staged st now).1 ∧
      ((c.staged st now).2 = {} → (c.stepDecide st now input).1 =
        { c.updateParentStaleState st (c.parentHealthy st now) now with
          control := (c.staged st now).1 }) ∧
      (c.stepDecide st now input).2.1 = c.evaluation st now := by
  have hstale : (c.updateParentStaleState st (c.evaluation st now).parentHealthy
      now).control.killLatched =
      true := (Core.restrains_updateParentStaleState st c _ now).control.latched h
  have hunhealthy : (decide ((c.evaluation st now).parentHealthy = true ∧
      (c.evaluation st now).exchangeValid = true ∧ RiskAction.kill = .none)) = false :=
    decide_eq_false fun hall => by cases hall.2.2
  unfold Core.stepDecide Core.staged
  dsimp only
  rw [Core.latchDecision_latched hstale]
  dsimp only
  rw [hunhealthy]
  generalize (c.updateParentStaleState st (c.evaluation st now).parentHealthy
    now).control.advanceRiskStage st.control false .kill (c.evaluation st now) _ _ _ = staged
  have hcancel : ∀ advanced : Core, (if staged.2.cancel = true then
      (advanced.emergencyCancel now input.cancel).1 else advanced).control =
        advanced.control := by
    intro advanced
    split
    · exact (Core.calm_emergencyCancel advanced now input.cancel).control
    · rfl
  refine ⟨?_, fun hnone => ?_, rfl⟩
  · split
    · exact (Core.calm_emergencyFlatten _ now input.flatten).control.trans (hcancel _)
    · exact hcancel _
  · rw [hnone]
    rfl

theorem Control.verified_flatVerified {policy : ControlPolicy} {c : Control}
    (h : c.stage = .flatVerified) :
    c.verified policy = decide (policy.flatVerificationChecks ≤ c.flatVerificationCount) := by
  unfold Control.verified
  rw [h]
  exact decide_eq_decide.mpr ⟨And.right, fun hle => ⟨rfl, hle⟩⟩

variable (st now) in
/-- What the loss or the return of the parent makes of a parked sidecar. -/
theorem Core.updateParentStaleState_parked (hparked : c.Parked) :
    (c.updateParentStaleState st (c.parentHealthy st now) now).Parked ∧
      (c.updateParentStaleState st (c.parentHealthy st now) now).control.preparedRearm =
        c.control.preparedRearm ∧
      (c.LosesParent st now →
        (c.updateParentStaleState st (c.parentHealthy st now)
          now).control.flatVerificationCount =
          0 ∧
        (c.updateParentStaleState st (c.parentHealthy st now) now).control.generation =
          (if st.control.flatVerificationChecks ≤ c.control.flatVerificationCount then
            c.control.generation + 1 else c.control.generation) ∧
        (c.updateParentStaleState st (c.parentHealthy st now) now).parentStaleSnapshotSequence =
          c.observation.riskSnapshotSequence) ∧
      (¬c.LosesParent st now →
        (c.updateParentStaleState st (c.parentHealthy st now) now).control = c.control ∧
        (c.parentHealthy st now = false →
          (c.updateParentStaleState st (c.parentHealthy st now)
            now).parentStaleSnapshotSequence =
            c.parentStaleSnapshotSequence)) := by
  unfold Core.updateParentStaleState Core.LosesParent
  by_cases hhealthy : c.parentHealthy st now = true
  · rw [if_pos hhealthy, hhealthy]
    exact ⟨⟨hparked.killLatched, hparked.quiesced, hparked.stage⟩, rfl,
      fun hloses => absurd hloses.1 nofun, fun _ => ⟨rfl, nofun⟩⟩
  · have hunhealthy := eq_false_of_ne_true hhealthy
    rw [if_neg hhealthy]
    by_cases hsince : c.parentStaleSince ≤ 0
    · rw [if_pos hsince]
      have hgeneration := Control.generation_counted st.control c.control c.control.unsafeSince 0
        0
        (.reset :: c.control.log) _ rfl
      have hverified : Control.verified st.control { c.control with
          flatVerificationCount := 0
          lastVerifiedSnapshotSequence := 0
          log := .reset :: c.control.log } = false := by
        rw [Control.verified_flatVerified (by exact hparked.stage)]
        have hchecks := st.control.checks_pos
        exact decide_eq_false (by dsimp only; omega)
      refine ⟨⟨?_, ?_, ?_⟩, ?_, fun _ => ⟨?_, ?_, rfl⟩,
        fun hnot => absurd ⟨hunhealthy, hsince⟩ hnot⟩
      · exact (Control.killLatched_bumpIfChanged _ _ _).trans hparked.killLatched
      · exact (Control.quiesced_bumpIfChanged _ _ _).trans hparked.quiesced
      · exact (Control.stage_bumpIfChanged _ _ _).trans hparked.stage
      · exact Control.preparedRearm_bumpIfChanged _ _ _
      · exact Control.flatVerificationCount_bumpIfChanged _ _ _
      rw [hverified, Control.verified_flatVerified hparked.stage] at hgeneration
      refine hgeneration.trans ?_
      by_cases hle : st.control.flatVerificationChecks ≤ c.control.flatVerificationCount
      · rw [if_pos hle, decide_eq_true hle, if_neg nofun]
      · rw [if_neg hle, decide_eq_false hle, if_pos rfl]
    · rw [if_neg hsince]
      exact ⟨hparked, rfl, fun hloses => absurd hloses.2 hsince, fun _ => ⟨rfl, fun _ => rfl⟩⟩

variable (st now input) in
/-- **The decision of a step on a parked sidecar** that stays verified. -/
theorem Core.stepDecide_parked (hparked : c.Parked)
    (hstays : (c.stepDecide st now input).1.control.stage = .flatVerified) :
    (c.stepDecide st now input).1.Parked ∧
      (c.stepDecide st now input).1.lastFlatProof = c.lastFlatProof ∧
      (c.stepDecide st now input).1.effectiveStateVersion = c.effectiveStateVersion ∧
      (c.stepDecide st now input).1.control.preparedRearm = c.control.preparedRearm ∧
      c.control.generation ≤ (c.stepDecide st now input).1.control.generation ∧
      ((c.stepDecide st now input).1.control.generation = c.control.generation ↔
        ¬c.Reverifies st now) := by
  obtain ⟨hcontrol, heq, -⟩ := Core.stepDecide_latched st now input hparked.killLatched
  rw [hcontrol] at hstays
  obtain ⟨hstale, hprepared, hlost, hkept⟩ :=
    Core.updateParentStaleState_parked st now hparked
  have hsame : ∀ healthy, (c.updateParentStaleState st healthy now).lastFlatProof =
      c.lastFlatProof ∧ (c.updateParentStaleState st healthy now).effectiveStateVersion =
      c.effectiveStateVersion := by
    intro healthy
    unfold Core.updateParentStaleState
    split
    · exact ⟨rfl, rfl⟩
    · split <;> exact ⟨rfl, rfl⟩
  have hsame := hsame (c.parentHealthy st now)
  have hhealth : (c.evaluation st now).parentHealthy = c.parentHealthy st now := rfl
  have hsequence : (c.evaluation st now).sequence = c.observation.riskSnapshotSequence := rfl
  unfold Core.staged at hstays hcontrol heq
  dsimp only at hstays hcontrol heq
  rw [hhealth] at hstays hcontrol heq
  generalize c.updateParentStaleState st (c.parentHealthy st now) now = stale at *
  have hflat := Control.flat_of_stays st.control hstale.stage hstays
  obtain ⟨unsafeSince, hadvance⟩ := Control.advance_flat st.control hstale.stage hflat hstays
  rw [hadvance] at hcontrol heq
  have heq := heq rfl
  dsimp only at hcontrol
  have hgeneration := Control.generation_counted st.control stale.control unsafeSince
    (if stale.control.Counts (c.evaluation st now) stale.parentStaleSnapshotSequence then
      (c.evaluation st now).sequence else stale.control.lastVerifiedSnapshotSequence)
    (if stale.control.Counts (c.evaluation st now) stale.parentStaleSnapshotSequence then
      stale.control.flatVerificationCount + 1 else stale.control.flatVerificationCount)
    (.evaluated (c.evaluation st now) :: stale.control.log) _ rfl
  rw [← hcontrol] at hgeneration
  rw [Control.verified_flatVerified hstale.stage,
    Control.verified_flatVerified (by exact hstale.stage)] at hgeneration
  dsimp only at hgeneration
  refine ⟨⟨?_, ?_, ?_⟩, ?_, ?_, ?_, ?_⟩
  · rw [hcontrol]
    exact (Control.killLatched_bumpIfChanged _ _ _).trans hstale.killLatched
  · rw [hcontrol]
    exact (Control.quiesced_bumpIfChanged _ _ _).trans hstale.quiesced
  · rw [hcontrol]
    exact (Control.stage_bumpIfChanged _ _ _).trans hstale.stage
  · rw [heq]
    exact hsame.1
  · rw [heq]
    exact hsame.2
  · rw [hcontrol]
    exact (Control.preparedRearm_bumpIfChanged _ _ _).trans hprepared
  rw [hgeneration]
  by_cases hloses : c.LosesParent st now
  · -- the count starts again, and this snapshot is not newer than the loss
    obtain ⟨hcount, hgen, hsince⟩ := hlost hloses
    have hnot : ¬stale.control.Counts (c.evaluation st now)
        stale.parentStaleSnapshotSequence := by
      rintro ⟨hhealthy | hnewer, -⟩
      · rw [hhealth, hloses.1] at hhealthy
        cases hhealthy
      · rw [hsince, hsequence] at hnewer
        exact lt_irrefl _ hnewer
    unfold Core.Reverifies
    rw [if_neg hnot, if_pos rfl, if_pos hloses, hgen]
    by_cases hle : st.control.flatVerificationChecks ≤ c.control.flatVerificationCount
    · rw [if_pos hle]
      exact ⟨by omega, ⟨fun h => by omega, fun h => absurd hle h⟩⟩
    · rw [if_neg hle]
      exact ⟨le_rfl, ⟨fun _ => hle, fun _ => rfl⟩⟩
  · obtain ⟨hcontrol', hsince⟩ := hkept hloses
    have hcounts : stale.control.Counts (c.evaluation st now) stale.parentStaleSnapshotSequence ↔
        c.control.Counts (c.evaluation st now) c.parentStaleSnapshotSequence := by
      rw [hcontrol']
      by_cases hhealthy : c.parentHealthy st now = true
      · exact ⟨fun h => ⟨Or.inl hhealthy, h.2⟩, fun h => ⟨Or.inl hhealthy, h.2⟩⟩
      · rw [hsince (eq_false_of_ne_true hhealthy)]
    unfold Core.Reverifies
    rw [if_neg hloses, hcontrol']
    by_cases hc : c.control.Counts (c.evaluation st now) c.parentStaleSnapshotSequence
    · rw [hcontrol'] at hcounts
      rw [if_pos (hcounts.mpr hc)]
      by_cases hreaches : c.control.flatVerificationCount < st.control.flatVerificationChecks ∧
          st.control.flatVerificationChecks ≤ c.control.flatVerificationCount + 1
      · rw [if_neg]
        · exact ⟨Nat.le_succ _, ⟨fun h => by omega,
            fun h => absurd ⟨hreaches.1, hreaches.2, hc⟩ h⟩⟩
        rw [decide_eq_decide]
        intro h
        have := h.mp hreaches.2
        omega
      · rw [if_pos]
        · exact ⟨le_rfl, ⟨fun _ h => hreaches ⟨h.1, h.2.1⟩, fun _ => rfl⟩⟩
        rw [decide_eq_decide]
        constructor
        · intro h
          by_contra hlt
          exact hreaches ⟨by omega, h⟩
        · intro h
          omega
    · rw [hcontrol'] at hcounts
      rw [if_neg (fun h => hc (hcounts.mp h)), if_pos rfl]
      exact ⟨le_rfl, ⟨fun _ h => hc h.2.2, fun _ => rfl⟩⟩

/-- A step that keeps running and does not flatten ends without a new proof. -/
theorem Core.stepExit_keeps (hbackend : st.backend ≠ .nowhere) (hworks : input.storage.Works)
    (hsync : c.InSync st) {e : Evaluation} {reply reply' : StepReply}
    (h : c.stepExit st input e reply = (c', some reply')) (hkeeps : reply'.keepRunning = true)
    (hstage : c'.control.stage ≠ .flattening) : c' = c := by
  unfold Core.stepExit at h
  dsimp only at h
  split at h
  · cases h
    rfl
  have hcalm := Core.calm_captureAccountFlatProof st c "ORPHAN_EXIT"
    (max c.parentStaleSince (max c.lastCancelAttemptAt c.lastFlattenAttemptAt)) input.orphanProof
  split at h <;> rename_i hcapture <;> rw [hcapture] at hcalm
  · cases congrArg Prod.snd h
  · cases h
    exact absurd rfl hstage
  rename_i proved
  have hsync' : proved.InSync st := by
    intro hb
    rw [hcalm.disk, hcalm.version]
    exact hsync hb
  obtain ⟨persisted, hpersist, -⟩ := Core.persist_works hbackend hworks hsync'
    "account_wide_flat_proof" true
  rw [hpersist] at h
  cases h
  cases hkeeps

/-- **An active step on a parked sidecar** that stays verified and keeps running. -/
theorem Core.stepActive_parked (hbackend : st.backend ≠ .nowhere) (hworks : input.storage.Works)
    (hsync : c.InSync st) (hparked : c.Parked) {reply : StepReply}
    (h : c.stepActive st now input = (c', some reply)) (hkeeps : reply.keepRunning = true)
    (hstays : c'.control.stage = .flatVerified) :
    c'.Parked ∧ c'.InSync st ∧ c'.lastFlatProof = c.lastFlatProof ∧
      c'.control.preparedRearm = c.control.preparedRearm ∧
      c.control.generation ≤ c'.control.generation ∧
      (c'.control.generation = c.control.generation ↔ ¬c.Reverifies st now) ∧
      (st.backend = .file → c'.effectiveStateVersion = c.effectiveStateVersion) ∧
      (st.backend = .store →
        c'.effectiveStateVersion.generation = c.effectiveStateVersion.generation + 1) := by
  have hdecided := Core.stepDecide_parked st now input hparked
  obtain ⟨hdisk, hversion, -, -⟩ := Core.decides_stepDecide st c now input
  unfold Core.stepActive at h
  dsimp only at h
  generalize c.stepDecide st now input = decided at *
  obtain ⟨decided, e, action, reason⟩ := decided
  dsimp only at hdecided hdisk hversion h
  have hsync' : decided.InSync st := by
    intro hb
    rw [hdisk, hversion]
    exact hsync hb
  obtain ⟨persisted, hpersist, hcontrol, -, hproof, hsync'', hfile, hstore⟩ :=
    Core.persist_works hbackend hworks hsync' "risk_state_transition" false
  rw [hpersist] at h
  dsimp only at h
  obtain rfl := Core.stepExit_keeps hbackend hworks hsync'' h hkeeps
    (by rw [hstays]; exact nofun)
  rw [hcontrol] at hstays
  obtain ⟨hparked', hproof', heffective, hprepared, hle, hiff⟩ := hdecided hstays
  have hgeneration : ∀ c : Core, c.effectiveStateVersion.generation =
      c.stateVersion.generation := by
    intro c
    unfold Core.effectiveStateVersion
    split <;> rfl
  refine ⟨⟨?_, ?_, ?_⟩, hsync'', hproof.trans hproof', ?_, ?_, ?_, ?_, ?_⟩
  · rw [hcontrol]
    exact hparked'.killLatched
  · rw [hcontrol]
    exact hparked'.quiesced
  · rw [hcontrol]
    exact hparked'.stage
  · rw [hcontrol]
    exact hprepared
  · rw [hcontrol]
    exact hle
  · rw [hcontrol]
    exact hiff
  · exact fun hb => (hfile hb).trans heffective
  · intro hb
    rw [hgeneration, hstore hb, hversion, hgeneration]

variable (st now input) in
/-- **A stop request** on a sidecar that is not quiesced cancels the orders, or is rejected. -/
theorem Core.completeStopRequest_parked (hparked : c.Parked) :
    c.completeStopRequest st now input =
      if c.control.cancelOnStop then
        (c.emergencyCancel now input.cancel).1.finishStop false
          (if (c.emergencyCancel now input.cancel).2 then
            "stop_after_cancel_requires_fresh_quiesce"
            else orText (c.emergencyCancel now input.cancel).1.lastCancelReason
              "stop_cancel_failed")
          c.control.cancelOnStop true (some (c.emergencyCancel now input.cancel).2)
      else c.finishStop false "stop_without_cancel_requires_quiesced" c.control.cancelOnStop
        false
        none := by
  have hquiesced : ¬c.control.quiesced = true := by
    rw [hparked.quiesced]
    exact nofun
  unfold Core.completeStopRequest Core.stopTruth Control.stopPlan
  simp only [if_neg hquiesced]
  by_cases hcancel : c.control.cancelOnStop = true
  · simp only [if_pos hcancel]
  · simp only [if_neg hcancel]

variable (st)

/-- A step that asks the exchange neither to cancel nor to flatten: what the exchange would have
answered does not matter. -/
def Core.AsksNothing (c : Core) (now : ℚ) (input : StepInput) : Prop :=
  ∀ cancel flatten,
    c.step st now { input with cancel := cancel, flatten := flatten } = c.step st now input

/-- A step on storage that works after which the sidecar keeps running, with the latch, the stage
and the quiesce state as before and nothing asked of the exchange. -/
structure Core.QuietStep (c : Core) (now : ℚ) (input : StepInput) (c' : Core) : Prop where
  works : input.storage.Works
  steps : ∃ reply, c.step st now input = (c', some reply) ∧ reply.keepRunning = true
  asksNothing : c.AsksNothing st now input
  killLatched : c'.control.killLatched = c.control.killLatched
  stage : c'.control.stage = c.control.stage
  quiesced : c'.control.quiesced = c.control.quiesced

/-- A step that makes a prepared rearm unacceptable: with the state store it moves on the version
of the stored state, which the binding holds when there is a flat proof; and with either, the
number of verifications falls below what is required or reaches it.  A step that only rejects a
pending stop request does neither. -/
def Core.Disturbs (c : Core) (now : ℚ) (input : StepInput) : Prop :=
  c.control.stopRequested = false ∧
    (st.backend = .store ∧ c.lastFlatProof.isSome = true ∨
      (c.serviceExchangeRisk st now false input.service).Reverifies st now)

variable {st}

/-- **A quiet step on a parked sidecar.** -/
theorem Core.QuietStep.parked (hbackend : st.backend ≠ .nowhere) (hparked : c.Parked)
    (hsync : c.InSync st) (h : c.QuietStep st now input c') :
    c'.Parked ∧ c'.InSync st ∧ c'.lastFlatProof = c.lastFlatProof ∧
      c'.control.preparedRearm = c.control.preparedRearm ∧
      c.control.generation ≤ c'.control.generation ∧
      c.effectiveStateVersion.generation ≤ c'.effectiveStateVersion.generation ∧
      (¬c.Disturbs st now input → c'.control.generation = c.control.generation ∧
        c'.rearmProofBinding = c.rearmProofBinding) ∧
      (c.Disturbs st now input → c.control.generation < c'.control.generation ∨
        c.lastFlatProof.isSome = true ∧
          c.effectiveStateVersion.generation < c'.effectiveStateVersion.generation) := by
  obtain ⟨reply, hstep, hkeeps⟩ := h.steps
  have hstays : c'.control.stage = .flatVerified := h.stage.trans hparked.stage
  unfold Core.Disturbs
  cases hrequested : c.control.stopRequested with
  | true =>
    have hstop := Core.completeStopRequest_parked st now input hparked
    by_cases hcancel : c.control.cancelOnStop = true
    · -- the orders are cancelled, and the step reports what the exchange says
      exfalso
      have hreason : ∀ reason, (c.step st now { input with
          cancel := (true, reason), flatten := none }).1.lastCancelReason = reason := by
        intro reason
        unfold Core.step
        rw [if_pos hrequested, Core.completeStopRequest_parked st now _ hparked, if_pos hcancel]
        unfold Core.emergencyCancel
        simp only [hparked.quiesced]
        rfl
      have hfirst := congrArg (fun r => r.1.lastCancelReason)
        (h.asksNothing (true, "first") none)
      have hsecond := congrArg (fun r => r.1.lastCancelReason)
        (h.asksNothing (true, "second") none)
      have hsame := hfirst.trans hsecond.symm
      rw [hreason, hreason] at hsame
      revert hsame
      decide
    · rw [if_neg hcancel] at hstop
      unfold Core.step at hstep
      rw [if_pos hrequested, hstop] at hstep
      cases hstep
      exact ⟨⟨hparked.killLatched, hparked.quiesced, hparked.stage⟩, hsync, rfl, rfl, le_rfl,
        le_rfl, fun _ => ⟨rfl, rfl⟩, fun hd => absurd hd.1 nofun⟩
  | false =>
    have hnot : ¬c.control.quiesced = true := by
      rw [hparked.quiesced]
      exact nofun
    unfold Core.step Core.stepRunning at hstep
    rw [if_neg (by rw [hrequested]; exact nofun), if_neg hnot] at hstep
    have hserved : (c.serviceExchangeRisk st now false input.service).Parked :=
      ⟨hparked.killLatched, hparked.quiesced, hparked.stage⟩
    obtain ⟨hparked', hsync', hproof, hprepared, hle, hiff, hfile, hstore⟩ :=
      Core.stepActive_parked (c := c.serviceExchangeRisk st now false input.service) hbackend
        h.works hsync hserved hstep hkeeps hstays
    have hversion : c.effectiveStateVersion.generation ≤
        c'.effectiveStateVersion.generation := by
      cases hb : st.backend with
      | nowhere => exact absurd hb hbackend
      | file => exact (congrArg StateVersion.generation (hfile hb)).ge
      | store => exact (hstore hb).symm ▸ Nat.le_succ _
    refine ⟨hparked', hsync', hproof, hprepared, hle, hversion, fun hnot => ?_,
      fun hdisturbs => ?_⟩
    · have hnot := not_or.mp fun hor => hnot ⟨rfl, hor⟩
      refine ⟨hiff.mpr hnot.2, ?_⟩
      have hproof' : c'.lastFlatProof = c.lastFlatProof := hproof
      unfold Core.rearmProofBinding
      rw [hproof']
      cases hsome : c.lastFlatProof with
      | none => rfl
      | some proof =>
        have hfile' : st.backend = .file := by
          cases hb : st.backend with
          | nowhere => exact absurd hb hbackend
          | file => rfl
          | store => exact absurd ⟨hb, by rw [hsome]; rfl⟩ hnot.1
        have heffective : c'.effectiveStateVersion = c.effectiveStateVersion := hfile hfile'
        rw [heffective]
    · rcases hdisturbs.2 with ⟨hb, hsome⟩ | hreverifies
      · right
        refine ⟨hsome, ?_⟩
        have hnext := hstore hb
        have hnext' : c'.effectiveStateVersion.generation =
            c.effectiveStateVersion.generation + 1 := hnext
        omega
      · left
        refine lt_of_le_of_ne hle fun heq => ?_
        exact hiff.mp heq.symm hreverifies

/-- A step that the stage machine lets pass asks nothing of the exchange. -/
theorem Core.asksNothing_of_staged (hlatched : c.control.killLatched = true)
    (hquiesced : c.control.quiesced = false) (hstop : c.control.stopRequested = false)
    (hnone : ((c.serviceExchangeRisk st now false input.service).staged st now).2 = {}) :
    c.AsksNothing st now input := by
  intro cancel flatten
  have hnotStop : ¬c.control.stopRequested = true := by
    rw [hstop]
    exact nofun
  have hnotQuiesced : ¬c.control.quiesced = true := by
    rw [hquiesced]
    exact nofun
  unfold Core.step Core.stepRunning
  rw [if_neg hnotStop, if_neg hnotStop, if_neg hnotQuiesced, if_neg hnotQuiesced]
  dsimp only
  generalize hserved : c.serviceExchangeRisk st now false input.service = served at hnone ⊢
  have hlatched' : served.control.killLatched = true := by
    rw [← hserved]
    exact hlatched
  have hsame : served.stepDecide st now { input with cancel := cancel, flatten := flatten } =
      served.stepDecide st now input := by
    refine Prod.ext ?_ rfl
    obtain ⟨-, hfirst, -⟩ := Core.stepDecide_latched st now
      { input with cancel := cancel, flatten := flatten } hlatched'
    obtain ⟨-, hsecond, -⟩ := Core.stepDecide_latched st now input hlatched'
    rw [hfirst hnone, hsecond hnone]
  unfold Core.stepActive
  rw [hsame]
  rfl

end Steps

/-! ## From a prepare to a commit -/

section Commit

/-- Quiet steps one after the other. -/
inductive QuietRun (st : Settings) : Core → List (ℚ × StepInput) → Core → Prop
  | nil (c : Core) : QuietRun st c [] c
  | cons {c c' c'' : Core} {now : ℚ} {input : StepInput} {steps : List (ℚ × StepInput)}
      (hstep : c.QuietStep st now input c') (hrest : QuietRun st c' steps c'') :
      QuietRun st c ((now, input) :: steps) c''

/-- No step disturbs the rearm. -/
def Core.Undisturbed (st : Settings) : Core → List (ℚ × StepInput) → Prop
  | _, [] => True
  | c, (now, input) :: steps =>
    ¬c.Disturbs st now input ∧ Core.Undisturbed st (c.step st now input).1 steps

/-- What `secrets.token_hex` gives. -/
def IsToken (token : String) : Prop :=
  token ≠ "" ∧ ∀ ch ∈ token.toList, ch ∈ "0123456789abcdef".toList

variable {st : Settings} {c c' : Core} {steps : List (ℚ × StepInput)}

/-- **Quiet steps on a parked sidecar.** -/
theorem QuietRun.parked (hbackend : st.backend ≠ .nowhere) (h : QuietRun st c steps c')
    (hparked : c.Parked) (hsync : c.InSync st) :
    c'.Parked ∧ c'.InSync st ∧ c'.lastFlatProof = c.lastFlatProof ∧
      c'.control.preparedRearm = c.control.preparedRearm ∧
      c.control.generation ≤ c'.control.generation ∧
      c.effectiveStateVersion.generation ≤ c'.effectiveStateVersion.generation ∧
      (Core.Undisturbed st c steps → c'.control.generation = c.control.generation ∧
        c'.rearmProofBinding = c.rearmProofBinding) ∧
      (¬Core.Undisturbed st c steps → c.control.generation < c'.control.generation ∨
        c.lastFlatProof.isSome = true ∧
          c.effectiveStateVersion.generation < c'.effectiveStateVersion.generation) := by
  induction h with
  | nil c =>
    exact ⟨hparked, hsync, rfl, rfl, le_rfl, le_rfl, fun _ => ⟨rfl, rfl⟩,
      fun hnot => absurd trivial hnot⟩
  | @cons c c' c'' now input steps hstep _ ih =>
    obtain ⟨hparked', hsync', hproof, hprepared, hle, hversion, hsame, hmoved⟩ :=
      hstep.parked hbackend hparked hsync
    obtain ⟨hparked'', hsync'', hproof', hprepared', hle', hversion', hsame', hmoved'⟩ :=
      ih hparked' hsync'
    have hnext : (c.step st now input).1 = c' := by
      obtain ⟨reply, heq, -⟩ := hstep.steps
      rw [heq]
    refine ⟨hparked'', hsync'', hproof'.trans hproof, hprepared'.trans hprepared,
      le_trans hle hle', le_trans hversion hversion', ?_, ?_⟩
    · rintro ⟨hnot, hrest⟩
      rw [hnext] at hrest
      exact ⟨(hsame' hrest).1.trans (hsame hnot).1, (hsame' hrest).2.trans (hsame hnot).2⟩
    · intro hdisturbed
      by_cases hd : c.Disturbs st now input
      · rcases hmoved hd with hlt | ⟨hsome, hlt⟩
        · exact Or.inl (lt_of_lt_of_le hlt hle')
        · exact Or.inr ⟨hsome, lt_of_lt_of_le hlt hversion'⟩
      · have hrest : ¬Core.Undisturbed st c' steps := by
          intro hrest
          rw [← hnext] at hrest
          exact hdisturbed ⟨hd, hrest⟩
        rcases hmoved' hrest with hlt | ⟨hsome, hlt⟩
        · exact Or.inl (lt_of_le_of_lt hle hlt)
        · rw [hproof] at hsome
          exact Or.inr ⟨hsome, lt_of_le_of_lt hversion hlt⟩

variable {control : Control} {now : ℚ} {gate input : GateInput} {reason requestId token : String}

theorem Control.rearmControlGate_ok {error : String} {age timeout : ℚ}
    (h : control.rearmControlGate error age timeout = .ok ()) :
    control.quiesced = false ∧ control.killLatched = true := by
  unfold Control.rearmControlGate at h
  split at h
  · cases h
  rename_i hquiesced
  split at h
  · cases h
  rename_i hlatched
  exact ⟨eq_false_of_ne_true hquiesced, eq_true_of_ne_false hlatched⟩

theorem Control.rearmTruthGate_ok {healthy fresh : Bool}
    {exchangeReason pending riskReason fundingReason : String} {risk funding : RiskAction}
    {openOrders positions : ℕ}
    (h : control.rearmTruthGate healthy exchangeReason fresh pending risk riskReason funding
      fundingReason openOrders positions = .ok ()) (hlatched : control.killLatched = true) :
    control.stage = .flatVerified := by
  unfold Control.rearmTruthGate at h
  by_contra hstage
  rw [if_pos (show control.killLatched = true ∧ control.stage ≠ .flatVerified from
    ⟨hlatched, hstage⟩)] at h
  split at h
  · cases h
  split at h
  · cases h
  split at h
  · cases h
  split at h
  · cases h
  split at h
  · cases h
  split at h <;> cases h

/-- The rearm gate only holds of a parked sidecar. -/
theorem Core.parked_of_safe
    (h : (c.checkRearmSafety st now input).2 = some (.ok ())) : c.Parked := by
  unfold Core.checkRearmSafety at h
  cases hgate : c.control.rearmControlGate c.parentHeartbeatError
      (max 0 (now - c.lastParentHeartbeatAt)) st.parentHeartbeatTimeoutSec with
  | error reason =>
    rw [hgate] at h
    cases h
  | ok u =>
    obtain ⟨hquiesced, hlatched⟩ := Control.rearmControlGate_ok hgate
    refine ⟨hlatched, hquiesced, ?_⟩
    rw [hgate] at h
    dsimp only at h
    have hcalm := Core.calm_captureAccountFlatProof st
      (c.serviceExchangeRisk st now true input.service) "REARM" now input.proof
    split at h <;> rename_i hcapture <;> rw [hcapture] at hcalm
    · cases h
    · cases h
    rename_i proved
    have hcontrol : proved.control = c.control := hcalm.control
    have hstage := Control.rearmTruthGate_ok (Option.some.inj h) (by rw [hcontrol, hlatched])
    rw [hcontrol] at hstage
    exact hstage

/-- A commit on storage that works is accepted when it gets as far as persisting. -/
theorem Core.commitRearm_accepted_iff (hbackend : st.backend ≠ .nowhere) (hsync : c.InSync st)
    (hworks : input.storage.Works) :
    (c.commitRearm st requestId token now input).2 = some (.ok ()) ↔
      c.Commits st requestId token now input := by
  constructor
  · intro haccepted
    by_contra hnot
    exact (Core.restrains_commitRearm_of_not_commits st hnot).2 haccepted
  · intro hcommits
    have hcalm := Core.calm_checkRearmSafety st c now input
    have hsync' : (c.unlatched st now input).InSync st := by
      intro hb
      obtain ⟨store, hdisk, hversion⟩ := hsync hb
      exact ⟨store, hcalm.disk.symm ▸ hdisk, hversion.trans hcalm.version.symm⟩
    obtain ⟨persisted, hpersist, -⟩ := Core.persist_works hbackend hworks hsync'
      "operator_rearm_committed" true
    have hstored : (c.persistUnlatched st now input).2 = some true := by
      unfold Core.persistUnlatched
      rw [hpersist]
    rw [Core.commitRearm_persisted st hcommits hstored]

/-- A token of the prepared rearm is validated exactly when neither the generation nor the
binding changed. -/
theorem Control.validateRearmCommit_iff (requestId : String) (binding : Option ProofBinding)
    {prepared : PreparedRearm} (htoken : IsToken token)
    (hprepared : control.preparedRearm = some prepared) (hsame : prepared.token = token)
    (hintime : now ≤ prepared.expiresAt) :
    control.validateRearmCommit requestId token now binding = some (control, .ok ()) ↔
      prepared.generation = control.generation ∧ prepared.proofBinding = binding := by
  have hascii : token.toList.all (fun ch => decide (ch.toNat < 128)) = true := by
    have hall : "0123456789abcdef".toList.all (fun ch => decide (ch.toNat < 128)) = true := by
      decide +kernel
    rw [List.all_eq_true] at hall ⊢
    intro ch hch
    exact hall ch (htoken.2 ch hch)
  have hdigest : Control.compareDigest token control.preparedToken = some true := by
    have htoken' : control.preparedToken = token := by
      unfold Control.preparedToken
      rw [hprepared]
      exact hsame
    unfold Control.compareDigest
    rw [htoken', if_pos ⟨hascii, hascii⟩, decide_eq_true rfl]
  unfold Control.validateRearmCommit
  rw [if_neg htoken.1, hdigest, hprepared]
  dsimp only
  rw [if_neg (not_lt.mpr hintime)]
  constructor
  · intro h
    by_cases hgeneration : prepared.generation = control.generation
    · rw [if_neg (not_not_intro hgeneration)] at h
      by_cases hbinding : prepared.proofBinding = binding
      · exact ⟨hgeneration, hbinding⟩
      · rw [if_pos hbinding] at h
        cases congrArg Prod.snd (Option.some.inj h)
    · rw [if_pos hgeneration] at h
      cases congrArg Prod.snd (Option.some.inj h)
  · rintro ⟨hgeneration, hbinding⟩
    rw [if_neg (not_not_intro hgeneration), if_neg (not_not_intro hbinding)]

/-- What an accepted prepare leaves behind. -/
theorem Core.prepareRearm_accepted
    (hprepare : c.prepareRearm st requestId reason now gate token = (c', some (.ok token))) :
    c'.Parked ∧ (c.InSync st → c'.InSync st) ∧ c'.control.preparedRearm = some {
      token := token
      reason := orText reason "operator_rearm"
      expiresAt := now + st.control.rearmPrepareTtlSec
      generation := c'.control.generation
      proofBinding := c'.rearmProofBinding } := by
  unfold prepareRearm at hprepare
  by_cases hrequest : requestId = ""
  · rw [if_pos hrequest] at hprepare
    dsimp only at hprepare
    unfold Control.prepareRearm at hprepare
    rw [if_pos hrequest] at hprepare
    cases congrArg Prod.snd hprepare
  · rw [if_neg hrequest] at hprepare
    have hcalm := Core.calm_checkRearmSafety st c now gate
    have hsafe : (c.checkRearmSafety st now gate).2 = some (.ok ()) → c.Parked :=
      Core.parked_of_safe
    cases hsafety : c.checkRearmSafety st now gate with
    | mk checked safety =>
      rw [hsafety] at hprepare hcalm hsafe
      match safety with
      | none => cases congrArg Prod.snd hprepare
      | some (.error refusal) =>
        dsimp only at hprepare
        unfold Control.prepareRearm at hprepare
        rw [if_neg hrequest] at hprepare
        cases congrArg Prod.snd hprepare
      | some (.ok ()) =>
        dsimp only at hprepare
        unfold Control.prepareRearm at hprepare
        rw [if_neg hrequest] at hprepare
        obtain rfl := congrArg Prod.fst hprepare
        have hparked := hsafe rfl
        refine ⟨⟨?_, ?_, ?_⟩, ?_, rfl⟩
        · exact (congrArg Control.killLatched hcalm.control).trans hparked.killLatched
        · exact (congrArg Control.quiesced hcalm.control).trans hparked.quiesced
        · exact (congrArg Control.stage hcalm.control).trans hparked.stage
        · intro hsync hb
          obtain ⟨store, hdisk, hversion⟩ := hsync hb
          exact ⟨store, (congrArg Disk.store hcalm.disk).trans hdisk,
            hversion.trans hcalm.version.symm⟩

/-- **From a prepare to a commit** on storage that works: the commit is accepted exactly when the
rearm gate holds and no step disturbed the rearm. -/
theorem commit_accepted_iff (hbackend : st.backend ≠ .nowhere) (hsync : c.InSync st)
    {commitId : String} {preparedAt : ℚ} {gate' : GateInput} {c₁ c₂ : Core}
    (hprepare : c.prepareRearm st requestId reason preparedAt gate token =
      (c₁, some (.ok token))) (htoken : IsToken token) (hsteps : QuietRun st c₁ steps c₂)
    (hintime : now ≤ preparedAt + st.control.rearmPrepareTtlSec) (hworks : gate'.storage.Works) :
    (c₂.commitRearm st commitId token now gate').2 = some (.ok ()) ↔
      (c₂.checkRearmSafety st now gate').2 = some (.ok ()) ∧ Core.Undisturbed st c₁ steps := by
  obtain ⟨hparked, hsync₁, hprepared₁⟩ := Core.prepareRearm_accepted hprepare
  obtain ⟨-, hsync₂, hproof, hprepared₂, -, -, hsame, hmoved⟩ :=
    hsteps.parked hbackend hparked (hsync₁ hsync)
  have hvalid := Control.validateRearmCommit_iff commitId c₂.rearmProofBinding htoken
    (hprepared₂.trans hprepared₁) rfl hintime
  rw [Core.commitRearm_accepted_iff hbackend hsync₂ hworks]
  constructor
  · intro hcommits
    refine ⟨hcommits.safe, ?_⟩
    obtain ⟨hgeneration, hbinding⟩ := hvalid.mp hcommits.valid
    by_contra hdisturbed
    rcases hmoved hdisturbed with hlt | ⟨hsome, hlt⟩
    · exact absurd hgeneration (ne_of_lt hlt)
    obtain ⟨proof, hproof₁⟩ := Option.isSome_iff_exists.mp hsome
    dsimp only at hbinding
    unfold Core.rearmProofBinding at hbinding
    rw [hproof, hproof₁] at hbinding
    have hversions := congrArg (Option.map fun binding => binding.version.generation) hbinding
    exact absurd (Option.some.inj hversions) (ne_of_lt hlt)
  · rintro ⟨hsafe, hundisturbed⟩
    obtain ⟨hgeneration, hbinding⟩ := hsame hundisturbed
    exact ⟨hvalid.mpr ⟨hgeneration.symm, hbinding.symm⟩, hsafe⟩

end Commit

/-! ## The control outcomes -/

/-- **The control outcomes** after a run on storage that works.  A quiesce is accepted and
persisted exactly with the state file.  A rearm that was prepared, went through quiet steps and
is committed in time is accepted exactly when the rearm gate holds and no step disturbed the
rearm. -/
theorem control_outcomes {st : Settings} (hbackend : st.backend ≠ .nowhere) {disk : Disk}
    {input : Core.StartInput} {c₀ c : Core} {history : List Entry}
    (hstart : Core.start st disk input = .ok c₀) (hruns : Runs st c₀ history c)
    (hworks : ∀ e ∈ history, e.call.storage.Works) :
    (∀ requestId reason wallTime storage, requestId ≠ "" → storage.Works →
      (c.Quiesces st requestId reason wallTime storage ↔ st.backend = .file)) ∧
    ∀ requestId reason preparedAt gate token c₁ steps c₂ commitId now gate',
      c.prepareRearm st requestId reason preparedAt gate token = (c₁, some (.ok token)) →
      IsToken token → QuietRun st c₁ steps c₂ →
      now ≤ preparedAt + st.control.rearmPrepareTtlSec → gate'.storage.Works →
      ((c₂.commitRearm st commitId token now gate').2 = some (.ok ()) ↔
        (c₂.checkRearmSafety st now gate').2 = some (.ok ()) ∧
        Core.Undisturbed st c₁ steps) := by
  have hsync := hruns.inSync hbackend hstart hworks
  constructor
  · intro requestId reason wallTime storage hid hstorage
    exact c.quiesces_iff hid reason wallTime hstorage
  · intro requestId reason preparedAt gate token c₁ steps c₂ commitId now gate' hprepare htoken
      hsteps hintime hgate
    exact commit_accepted_iff hbackend hsync hprepare htoken hsteps hintime hgate

section Sample

/-- Settings with a state store and flat proofs. -/
def provedSettings : Settings :=
  { storeSettings with
    proof := some {
      requiredSamples := 2
      proofTtlSec := 30
      digest := fun _ _ _ _ _ => ""
      two_le_samples := le_rfl } }

/-- Reads of a flat account. -/
def flatReads (capturedAt : ℚ) : ProofInput where
  reads index := .snapshot {
    accountScopeId := "account"
    truthSequence := index + 1
    capturedMonotonic := capturedAt
    ordersScope := "ACCOUNT_WIDE"
    positionsScope := "ACCOUNT_WIDE"
    complete := true
    consistencyDigest := ""
    positions := []
    openOrders := 0 }
  now := capturedAt
  proofId := "proof"

theorem capture_eq_ok_flatReads : ∃ (policy : ProofPolicy) (proof : FlatProof),
    policy.capture "" "" ⟨1, 1, 1, 1, ""⟩ 100 (flatReads 100) = .ok proof ∧
      0 < proof.firstTruthSequence ∧ proof.firstTruthSequence < proof.lastTruthSequence := by
  let policy : ProofPolicy := ⟨2, 30, fun _ _ _ _ _ => "", le_rfl⟩
  have hproof : policy.capture "" "" ⟨1, 1, 1, 1, ""⟩ 100 (flatReads 100) = .ok _ := rfl
  exact ⟨policy, _, hproof, (capture_eq_ok hproof).2.2⟩

/-- A step that finds the account flat. -/
def quietStep : StepInput where
  service := { reading := .quiet 0 0 }

/-- A rearm gate on a flat account. -/
def flatGate (now : ℚ) : GateInput where
  service := { reading := .quiet 0 0 }
  proof := flatReads now

/-- A latched sidecar with a state store and flat proofs. -/
def provedCore : Core :=
  Core.started provedSettings (.plain (.plain true .flattening)) { now := 100 }

/-- It has verified that the account is flat. -/
def verifiedCore : Core :=
  provedCore.after provedSettings [.step 101 quietStep]

/-- It has prepared a rearm. -/
def preparedCore : Core :=
  (verifiedCore.prepareRearm provedSettings "1" "operator" 102 (flatGate 102) "cafe").1

/-- It has taken one more step. -/
def steppedCore : Core :=
  (preparedCore.step provedSettings 103 quietStep).1

theorem Storage.works_default : ({} : Storage).Works :=
  ⟨fun _ _ _ => rfl, fun _ _ => rfl⟩

theorem start_provedCore :
    Core.start provedSettings (.plain (.plain true .flattening))
    { now := 100 } = .ok provedCore :=
  Core.start_eq_started (by decide +kernel)

theorem quietRun_single {st : Settings} {c : Core} {now : ℚ}
    (hkeeps : (c.step st now quietStep).2.map StepReply.keepRunning = some true)
    (hasks : c.AsksNothing st now quietStep)
    (hsame : (c.step st now quietStep).1.control.killLatched = c.control.killLatched ∧
      (c.step st now quietStep).1.control.stage = c.control.stage ∧
      (c.step st now quietStep).1.control.quiesced = c.control.quiesced) :
    QuietRun st c [(now, quietStep)] (c.step st now quietStep).1 := by
  obtain ⟨reply, hreply, hrunning⟩ := Option.map_eq_some_iff.mp hkeeps
  exact .cons ⟨Storage.works_default, ⟨reply, Prod.ext rfl hreply, hrunning⟩, hasks, hsame.1,
    hsame.2.1, hsame.2.2⟩ (.nil _)

/-- With a state store and no flat proofs: a step has verified the account. -/
def rearmableCore : Core := latchedCore.after storeSettings [.step 101 quietStep]

/-- It has prepared a rearm. -/
def rearmPreparedCore : Core :=
  (rearmableCore.prepareRearm storeSettings "1" "operator" 102 (flatGate 102) "cafe").1

/-- It has taken one more step: a quiesce is refused, the rearm is accepted. -/
theorem control_outcomes_verified :
    ¬rearmableCore.Quiesces storeSettings "1" "operator" 102 {} ∧
    ((rearmPreparedCore.step storeSettings 103 quietStep).1.commitRearm storeSettings "2" "cafe"
      104
      (flatGate 104)).2 = some (.ok ()) := by
  obtain ⟨hquiesce, hcommit⟩ := control_outcomes (by decide) start_latchedCore
    (Runs.nil.of_calls [.step 101 quietStep]) fun e he => by
      obtain rfl := List.mem_singleton.mp he
      exact Storage.works_default
  refine ⟨fun h => absurd ((hquiesce _ _ _ _ (by decide) Storage.works_default).mp h)
    (by decide),
    ?_⟩
  refine (hcommit "1" "operator" 102 (flatGate 102) "cafe" rearmPreparedCore [(103, quietStep)]
    _ "2"
    104 (flatGate 104) (Prod.ext rfl (by decide +kernel)) ⟨by decide, by simp⟩
    (quietRun_single (by decide +kernel) ?_ (by decide +kernel)) (by decide +kernel)
    Storage.works_default).mpr ⟨by decide +kernel, ?_, trivial⟩
  · exact Core.asksNothing_of_staged (by decide +kernel) (by decide +kernel) (by decide +kernel)
      (by decide +kernel)
  rintro ⟨-, ⟨-, hsome⟩ | hreverifies⟩
  · revert hsome
    decide +kernel
  · unfold Core.Reverifies at hreverifies
    rw [if_neg (by decide +kernel)] at hreverifies
    exact absurd hreverifies.1 (by decide +kernel)

/-- **Refused with the state store**: a quiesce, and a rearm with one quiet step between its
prepare and its commit, though the rearm gate holds. -/
theorem storeSteps_refused :
    ¬verifiedCore.Quiesces provedSettings "1" "operator" 102 {} ∧
    verifiedCore.prepareRearm provedSettings "1" "operator" 102 (flatGate 102) "cafe" =
      (preparedCore, some (.ok "cafe")) ∧
    QuietRun provedSettings preparedCore [(103, quietStep)] steppedCore ∧
    (steppedCore.checkRearmSafety provedSettings 104 (flatGate 104)).2 = some (.ok ()) ∧
    (steppedCore.commitRearm provedSettings "2" "cafe" 104 (flatGate 104)).2 =
      some (.error "rearm_proof_binding_changed") := by
  refine ⟨?_, Prod.ext rfl (by decide +kernel), quietRun_single (by decide +kernel) ?_
    (by decide +kernel), by decide +kernel, by decide +kernel⟩
  · rw [verifiedCore.quiesces_iff (by decide) "operator" 102 Storage.works_default]
    exact nofun
  · exact Core.asksNothing_of_staged (by decide +kernel) (by decide +kernel) (by decide +kernel)
      (by decide +kernel)

end Sample

end ChronosHFT.Sidecar
