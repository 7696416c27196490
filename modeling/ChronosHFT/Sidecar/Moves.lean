import ChronosHFT.Sidecar.Core

/-!
# What a call is made of

A call changes the controller, the disk and the version of the stored state in few ways, and
everything else it does is calm.  `Move` lists them, and `call_moves` says that every call is a
sequence of them, so that what every move keeps is kept by every call.

The decision of a step is one move, since the parent's loss and the evaluation that follows it
only make sense together.  It comes after the exchange was serviced, with no stop request
pending, or after a takeover, when there is no flat verification. -/

namespace ChronosHFT.Sidecar

/-! ## Counting a change -/

namespace Control

variable (policy : ControlPolicy) (before : TransitionSnapshot) (c : Control)

@[simp] theorem stage_bumpIfChanged : (c.bumpIfChanged policy before).stage = c.stage := by
  unfold bumpIfChanged
  split <;> rfl

@[simp] theorem flatVerificationCount_bumpIfChanged :
    (c.bumpIfChanged policy before).flatVerificationCount = c.flatVerificationCount := by
  unfold bumpIfChanged
  split <;> rfl

@[simp] theorem lastVerified_bumpIfChanged :
    (c.bumpIfChanged policy before).lastVerifiedSnapshotSequence =
      c.lastVerifiedSnapshotSequence := by
  unfold bumpIfChanged
  split <;> rfl

@[simp] theorem quiesced_bumpIfChanged :
    (c.bumpIfChanged policy before).quiesced = c.quiesced := by
  unfold bumpIfChanged
  split <;> rfl

@[simp] theorem log_bumpIfChanged : (c.bumpIfChanged policy before).log = c.log := by
  unfold bumpIfChanged
  split <;> rfl

end Control

/-! ## Moves -/

/-- Nothing but the records of the last requests and the prepared rearm differ. -/
structure Control.Notes (c c' : Control) : Prop where
  killLatched : c'.killLatched = c.killLatched
  stage : c'.stage = c.stage
  flatVerificationCount : c'.flatVerificationCount = c.flatVerificationCount
  lastVerified : c'.lastVerifiedSnapshotSequence = c.lastVerifiedSnapshotSequence
  quiesced : c'.quiesced = c.quiesced
  quiesceSnapshotSequence : c'.quiesceSnapshotSequence = c.quiesceSnapshotSequence
  generation : c'.generation = c.generation
  log : c'.log = c.log

theorem Control.Notes.refl (c : Control) : c.Notes c := ⟨rfl, rfl, rfl, rfl, rfl, rfl, rfl, rfl⟩

/-- What a failure to persist makes of the controller. -/
def Control.FailedOf (c' c : Control) : Prop :=
  ∃ reason, c' = { c with
    killLatched := true
    killReason := reason
    stage := .failed }

/-- The controller, the disk and what is known of it are as before. -/
structure Core.Calm (c c' : Core) : Prop where
  control : c'.control = c.control
  disk : c'.disk = c.disk
  version : c'.stateVersion = c.stateVersion
  fingerprint : c'.lastPersistedFingerprint = c.lastPersistedFingerprint

/-- No flat verification is under way. -/
def Core.Unverified (c : Core) : Prop :=
  c.control.flatVerificationCount = 0 ∧ c.control.stage ≠ .flatVerified

/-- The disk of a call. -/
def Call.storage : Call → Storage
  | .quiesce _ _ _ storage => storage
  | .resumeShutdown _ _ storage => storage
  | .commitRearm _ _ _ input => input.storage
  | .step _ input => input.storage
  | _ => {}

/-- The two halves of a rearm. -/
def Call.Rearms : Call → Prop
  | .prepareRearm .. | .commitRearm .. => True
  | _ => False

/-- **A move** of a call that starts at `start`. -/
inductive Move (st : Settings) (call : Call) (start : Core) : Core → Core → Prop
  | calm {c c' : Core} (h : c.Calm c') : Move st call start c c'
  | note {c : Core} {control : Control} (h : c.control.Notes control)
      (hprepared : call.Rearms ∨ control.preparedRearm = c.control.preparedRearm ∨
        control.preparedRearm = none) :
      Move st call start c { c with control := control }
  | stale (c : Core) (healthy : Bool) (now : ℚ) (h : c.control.quiesced = true) :
      Move st call start c (c.updateParentStaleState st healthy now)
  | decide (c : Core) (now : ℚ) (input : StepInput) (hcall : call = .step now input)
      (h : c.control.quiesced = false ∧
        (c = start.serviceExchangeRisk st now false input.service ∧
          start.control.stopRequested = false ∨ c.Unverified)) :
      Move st call start c (c.stepDecide st now input).1
  | retreat (c : Core) :
      Move st call start c { c with
        control := { c.control.resetFlatVerification st.control with stage := .flattening } }
  | quiesce (c : Core) (reason : String) (sequence : ℕ) (wallTime : ℚ) :
      Move st call start c { c with
        control := c.control.beginQuiesced st.control reason sequence wallTime }
  | unquiesce (c : Core) (error : String) :
      Move st call start c { c with control := c.control.quiesceFailed st.control error }
  | takeover (c : Core) (reason : String) :
      Move st call start c { c with control := c.control.beginTakeover st.control reason }
  | unlatch (c : Core) (hcall : call.Rearms) : Move st call start c (c.beginRearmCommit st)
  | restore (c : Core) (requestId reason : String) (observation : Observation)
      (hcall : call.Rearms) :
      Move st call start c
        (let persisted := ((c.beginRearmCommit st).persistDurableState st call.storage
          "operator_rearm_committed" true).1
        { persisted with
          control := (persisted.control.finishRearmCommit st.control requestId false reason
            c.control).1
          observation := observation })
  | fail (c : Core) (reason error : String) :
      Move st call start c (({ c with statePersistError := error } : Core).failClosed reason)
  | persist (c : Core) (event : String) (force : Bool) :
      Move st call start c (c.persistDurableState st call.storage event force).1

/-- Moves one after the other. -/
abbrev Moves (st : Settings) (call : Call) (start : Core) : Core → Core → Prop :=
  Relation.ReflTransGen (Move st call start)

namespace Core

variable (st : Settings) {call : Call} {start c c' : Core}

theorem Calm.moves {st : Settings} (h : c.Calm c') : Moves st call start c c' :=
  Relation.ReflTransGen.single (.calm h)

theorem moves_note {control : Control} (h : c.control.Notes control)
    (hprepared : control.preparedRearm = c.control.preparedRearm ∨
      control.preparedRearm = none) :
    Moves st call start c { c with control := control } :=
  Relation.ReflTransGen.single (.note h (Or.inr hprepared))

/-! ## Calm parts -/

theorem calm_refl (c : Core) : c.Calm c := ⟨rfl, rfl, rfl, rfl⟩

theorem Calm.trans {c'' : Core} (h : c.Calm c') (h' : c'.Calm c'') : c.Calm c'' :=
  ⟨h'.control.trans h.control, h'.disk.trans h.disk, h'.version.trans h.version,
    h'.fingerprint.trans h.fingerprint⟩

theorem calm_heartbeat (c : Core) (sequence : Option ℤ) (sent : RawFloat) (now : ℚ) :
    c.Calm (c.receiveParentHeartbeat st sequence sent now).1 := by
  unfold receiveParentHeartbeat heartbeatError
  cases sequence with
  | none => exact ⟨rfl, rfl, rfl, rfl⟩
  | some sequence =>
    dsimp only
    split
    · exact calm_refl c
    cases sent with
    | invalid => exact ⟨rfl, rfl, rfl, rfl⟩
    | nonFinite => exact ⟨rfl, rfl, rfl, rfl⟩
    | is sent =>
      dsimp only
      split
      · exact ⟨rfl, rfl, rfl, rfl⟩
      split
      · exact ⟨rfl, rfl, rfl, rfl⟩
      split <;> exact ⟨rfl, rfl, rfl, rfl⟩

theorem calm_serviceExchangeRisk (c : Core) (now : ℚ) (force : Bool) (input : ServiceInput) :
    c.Calm (c.serviceExchangeRisk st now force input) := ⟨rfl, rfl, rfl, rfl⟩

theorem calm_captureAccountFlatProof (c : Core) (purpose : String) (barrier : ℚ)
    (input : ProofInput) : c.Calm (c.captureAccountFlatProof st purpose barrier input).1 := by
  unfold captureAccountFlatProof
  cases st.proof with
  | none => exact calm_refl c
  | some policy =>
    dsimp only
    split <;> exact ⟨rfl, rfl, rfl, rfl⟩

theorem calm_emergencyCancel (c : Core) (now : ℚ) (result : Bool × String) :
    c.Calm (c.emergencyCancel now result).1 := by
  unfold emergencyCancel
  split <;> exact ⟨rfl, rfl, rfl, rfl⟩

theorem calm_emergencyFlatten (c : Core) (now : ℚ) (result : Option (Bool × ℕ × String)) :
    c.Calm (c.emergencyFlatten now result).1 := by
  unfold emergencyFlatten
  split <;> exact ⟨rfl, rfl, rfl, rfl⟩

theorem calm_stopTruth (c : Core) (now : ℚ) (input : StepInput) :
    c.Calm (c.stopTruth st now input).1 := by
  unfold stopTruth
  split
  · dsimp only
    split
    · exact calm_serviceExchangeRisk st c _ _ _
    have h := (calm_serviceExchangeRisk st c now (decide (c.observation.riskSnapshotSequence ≤
      c.control.quiesceSnapshotSequence)) input.stopService).trans
      (calm_captureAccountFlatProof st _ "STOP" now input.stopProof)
    split <;> rename_i heq <;> rw [heq] at h
    · exact h
    · exact h
    · exact h.trans ⟨rfl, rfl, rfl, rfl⟩
  · exact calm_refl c

theorem calm_checkRearmSafety (c : Core) (now : ℚ) (input : GateInput) :
    c.Calm (c.checkRearmSafety st now input).1 := by
  unfold checkRearmSafety
  split
  · exact calm_refl c
  dsimp only
  have h := (calm_serviceExchangeRisk st c now true input.service).trans
    (calm_captureAccountFlatProof st _ "REARM" now input.proof)
  split <;> rename_i heq <;> rw [heq] at h <;> exact h

/-- A decision leaves the disk, what is known of it, and the observation. -/
structure Decides (c c' : Core) : Prop where
  disk : c'.disk = c.disk
  version : c'.stateVersion = c.stateVersion
  fingerprint : c'.lastPersistedFingerprint = c.lastPersistedFingerprint
  observation : c'.observation = c.observation

theorem Decides.trans {c'' : Core} (h : c.Decides c') (h' : c'.Decides c'') : c.Decides c'' :=
  ⟨h'.disk.trans h.disk, h'.version.trans h.version, h'.fingerprint.trans h.fingerprint,
    h'.observation.trans h.observation⟩

theorem decides_updateParentStaleState (c : Core) (healthy : Bool) (now : ℚ) :
    c.Decides (c.updateParentStaleState st healthy now) := by
  unfold updateParentStaleState
  split
  · exact ⟨rfl, rfl, rfl, rfl⟩
  · split <;> exact ⟨rfl, rfl, rfl, rfl⟩

theorem decides_stepDecide (c : Core) (now : ℚ) (input : StepInput) :
    c.Decides (c.stepDecide st now input).1 := by
  have hlatch : ∀ (c : Core) (decision : RiskAction × String),
      c.Decides (c.latchDecision st decision).1 := by
    intro c decision
    unfold latchDecision
    dsimp only
    split <;> split <;> exact ⟨rfl, rfl, rfl, rfl⟩
  have hcancel : ∀ c : Core, c.Decides (c.emergencyCancel now input.cancel).1 := by
    intro c
    unfold emergencyCancel
    split <;> exact ⟨rfl, rfl, rfl, rfl⟩
  have hflatten : ∀ c : Core, c.Decides (c.emergencyFlatten now input.flatten).1 := by
    intro c
    unfold emergencyFlatten
    split <;> exact ⟨rfl, rfl, rfl, rfl⟩
  have hif : ∀ (acts : Bool) (c₁ c₂ : Core), c.Decides c₁ → c₁.Decides c₂ →
      c.Decides (if acts then c₂ else c₁) := by
    intro acts c₁ c₂ h h'
    split
    · exact h.trans h'
    · exact h
  unfold stepDecide
  dsimp only
  refine hif _ _ _ (hif _ _ _ ?_ (hcancel _)) (hflatten _)
  exact ((decides_updateParentStaleState st c _ now).trans (hlatch _ _)).trans
    ⟨rfl, rfl, rfl, rfl⟩

/-! ## Control transitions -/

section Transitions

/-- Persisting leaves the controller alone, or fails closed. -/
theorem persistDurableState_controls (c : Core) (storage : Storage) (event : String)
    (force : Bool) :
    (c.persistDurableState st storage event force).1.control = c.control ∨
      (c.persistDurableState st storage event force).1.control.FailedOf c.control := by
  have hnowhere : (c.persistNowhere st).1.control = c.control ∨
      (c.persistNowhere st).1.control.FailedOf c.control := by
    unfold persistNowhere
    split
    · exact Or.inr ⟨_, rfl⟩
    · exact Or.inl rfl
  unfold persistDurableState
  split
  · unfold persistFile
    split
    · exact Or.inl rfl
    dsimp only
    split
    · exact Or.inl rfl
    · rename_i replaced error hwrite
      cases replaced with
      | false => exact Or.inr ⟨_, rfl⟩
      | true => exact Or.inr ⟨_, rfl⟩
    · exact Or.inl rfl
  · exact hnowhere
  · split
    · unfold persistStore
      dsimp only
      split
      · exact Or.inl rfl
      · exact Or.inr ⟨_, rfl⟩
      · exact Or.inl rfl
    · exact hnowhere

theorem persistControlTransition_control (c : Core) (storage : Storage) (event : String)
    (requirePath : Bool) :
    (c.persistControlTransition st storage event requirePath).1.control = c.control ∨
      (c.persistControlTransition st storage event requirePath).1.control.FailedOf
        c.control := by
  unfold persistControlTransition
  split
  · exact Or.inr ⟨_, rfl⟩
  have h := persistDurableState_controls st c storage event true
  split <;> rename_i heq <;> rw [heq] at h <;> exact h

theorem moves_persist (c : Core) (event : String) (force : Bool) :
    Moves st call start c (c.persistDurableState st call.storage event force).1 :=
  Relation.ReflTransGen.single (.persist c event force)

theorem calm_resetRetries (c : Core) : c.Calm c.resetRetries := ⟨rfl, rfl, rfl, rfl⟩

theorem moves_persistControlTransition (c : Core) (event : String) (requirePath : Bool) :
    Moves st call start c (c.persistControlTransition st call.storage event requirePath).1 := by
  unfold persistControlTransition
  split
  · exact Relation.ReflTransGen.single (.fail c _ _)
  have h : Moves st call start c _ := moves_persist st c event true
  split <;> rename_i heq <;> rw [heq] at h <;> exact h

theorem moves_enterQuiesced (c : Core) (reason event : String) (wallTime : ℚ) :
    Moves st call start c (c.enterQuiesced st call.storage reason event wallTime).1 := by
  unfold enterQuiesced
  dsimp only
  have h : Moves st call start c _ :=
    Relation.ReflTransGen.head (.quiesce c reason c.observation.riskSnapshotSequence wallTime)
      (moves_persistControlTransition st _ event true)
  split <;> rename_i heq <;> rw [heq] at h
  · exact h
  · exact h
  · exact (h.tail (.unquiesce _ _)).tail (.calm (calm_resetRetries _))

theorem moves_takeoverFromQuiesce (c : Core) (reason event : String) :
    Moves st call start c (c.takeoverFromQuiesce st call.storage reason event).1 := by
  unfold takeoverFromQuiesce
  dsimp only
  have h : Moves st call start c _ :=
    Relation.ReflTransGen.head (.takeover c reason)
      (moves_persistControlTransition st _ event false)
  split <;> rename_i heq <;> rw [heq] at h
  · exact h
  · exact h.tail (.calm (calm_resetRetries _))

theorem notes_recordQuiesce (c : Control) (requestId : String) (accepted : Bool)
    (reason : String)
    (persisted : Bool) : c.Notes (c.recordQuiesce requestId accepted reason persisted) :=
  ⟨rfl, rfl, rfl, rfl, rfl, rfl, rfl, rfl⟩

theorem notes_recordShutdownResume (c : Control) (requestId : String) (accepted : Bool)
    (reason : String) (persisted : Bool) :
    c.Notes (c.recordShutdownResume requestId accepted reason persisted) :=
  ⟨rfl, rfl, rfl, rfl, rfl, rfl, rfl, rfl⟩

theorem notes_finishStop (c : Control) (accepted : Bool) (reason : String)
    (cancelRequested cancelAttempted : Bool) (cancelOk : Option Bool) :
    c.Notes (c.finishStop accepted reason cancelRequested cancelAttempted cancelOk) :=
  ⟨rfl, rfl, rfl, rfl, rfl, rfl, rfl, rfl⟩

theorem moves_requestQuiesce (c : Core) (requestId reason : String) (wallTime : ℚ) :
    Moves st call start c (c.requestQuiesce st requestId reason wallTime call.storage).1 := by
  unfold requestQuiesce
  split
  · exact moves_note st (notes_recordQuiesce _ _ _ _ _) (Or.inl rfl)
  have h : Moves st call start c _ :=
    moves_enterQuiesced st c (orText reason "operator_quiesce") "supervisor_quiesced" wallTime
  split <;> rename_i heq <;> rw [heq] at h
  · exact h
  · exact h.tail (.note (notes_recordQuiesce _ _ _ _ _) (Or.inr (Or.inl rfl)))

theorem moves_requestShutdownResume (c : Core) (requestId reason : String) :
    Moves st call start c (c.requestShutdownResume st requestId reason call.storage).1 := by
  unfold requestShutdownResume
  split
  · exact moves_note st (notes_recordShutdownResume _ _ _ _ _) (Or.inl rfl)
  have h : Moves st call start c _ :=
    moves_takeoverFromQuiesce st c (orText reason "shutdown account truth drift")
      "supervisor_shutdown_guard_resumed"
  split <;> rename_i heq <;> rw [heq] at h
  · exact h
  · exact h.tail (.note (notes_recordShutdownResume _ _ _ _ _) (Or.inr (Or.inl rfl)))

theorem moves_completeStopRequest (c : Core) (now : ℚ) (input : StepInput) :
    Moves st (.step now input) start c (c.completeStopRequest st now input).1 := by
  unfold completeStopRequest
  dsimp only
  have htruth : Moves st (.step now input) start c _ := (calm_stopTruth st c now input).moves
  split <;> rename_i heq <;> rw [heq] at htruth
  · exact htruth
  rename_i looked truth
  cases looked.control.stopPlan truth.exchangeValid looked.observation.exchangeReason
      truth.openOrderCount truth.nonzeroPositionCount truth.sequence with
  | wait => exact htruth
  | takeover reason transitionReason =>
    have h := htruth.trans (moves_takeoverFromQuiesce st looked
      (orText transitionReason reason) "supervisor_stop_guard_takeover")
    dsimp only [Call.storage] at h ⊢
    split <;> rename_i hover <;> rw [hover] at h
    · exact h
    · exact h.tail (.note (notes_finishStop _ _ _ _ _ _) (Or.inr (Or.inl rfl)))
  | quiesce reason =>
    have h := htruth.trans (moves_enterQuiesced st looked reason
      "supervisor_stop_quiesced" input.wallTime)
    dsimp only [Call.storage] at h ⊢
    split <;> rename_i henter <;> rw [henter] at h
    · exact h
    · exact h.tail (.note (notes_finishStop _ _ _ _ _ _) (Or.inr (Or.inl rfl)))
    · exact h.tail (.note (notes_finishStop _ _ _ _ _ _) (Or.inr (Or.inl rfl)))
  | cancel =>
    exact (htruth.tail (.calm (calm_emergencyCancel looked now input.cancel))).tail
      (.note (notes_finishStop _ _ _ _ _ _) (Or.inr (Or.inl rfl)))
  | reject reason => exact htruth.tail (.note (notes_finishStop _ _ _ _ _ _)
    (Or.inr (Or.inl rfl)))

/-! ## Steps -/

theorem moves_stepExit (c : Core) (now : ℚ) (input : StepInput) (e : Evaluation)
    (reply : StepReply) :
    Moves st (.step now input) start c (c.stepExit st input e reply).1 := by
  unfold stepExit
  dsimp only
  split
  · exact Relation.ReflTransGen.refl
  have hproof : Moves st (.step now input) start c _ :=
    (calm_captureAccountFlatProof st c "ORPHAN_EXIT"
      (max c.parentStaleSince (max c.lastCancelAttemptAt c.lastFlattenAttemptAt))
      input.orphanProof).moves
  split <;> rename_i heq <;> rw [heq] at hproof
  · exact hproof
  · exact hproof.tail (.retreat _)
  · have h := hproof.tail (.persist _ "account_wide_flat_proof" true)
    dsimp only [Call.storage] at h
    split <;> rename_i hpersist <;> rw [hpersist] at h <;> exact h

theorem moves_stepActive (c : Core) (now : ℚ) (input : StepInput)
    (h : c.control.quiesced = false ∧
      (c = start.serviceExchangeRisk st now false input.service ∧
        start.control.stopRequested = false ∨ c.Unverified)) :
    Moves st (.step now input) start c (c.stepActive st now input).1 := by
  unfold stepActive
  dsimp only
  have hdecide : Moves st (.step now input) start c _ :=
    Relation.ReflTransGen.head (.decide c now input rfl h)
      (moves_persist st _ "risk_state_transition" false)
  dsimp only [Call.storage] at hdecide
  split <;> rename_i heq <;> rw [heq] at hdecide
  · exact hdecide
  · exact hdecide.trans (moves_stepExit st _ now input _ _)
  · exact hdecide.trans (moves_stepExit st _ now input _ _)

/-- After a takeover the sidecar is neither quiesced nor verified. -/
theorem unverified_takeoverFromQuiesce (c : Core) (storage : Storage) (reason event : String) :
    (c.takeoverFromQuiesce st storage reason event).1.control.quiesced = false ∧
      (c.takeoverFromQuiesce st storage reason event).1.Unverified := by
  unfold takeoverFromQuiesce
  dsimp only
  have hbegin : (c.control.beginTakeover st.control reason).quiesced = false ∧
      (c.control.beginTakeover st.control reason).flatVerificationCount = 0 ∧
      (c.control.beginTakeover st.control reason).stage = .flattening :=
    ⟨Control.quiesced_bumpIfChanged _ _ _, Control.flatVerificationCount_bumpIfChanged _ _ _,
      Control.stage_bumpIfChanged _ _ _⟩
  obtain ⟨hquiesced, hcount, hstage⟩ := hbegin
  have hkept := persistControlTransition_control st
    { c with control := c.control.beginTakeover st.control reason } storage event false
  have hdone : ∀ persisted : Core,
      (persisted.control = c.control.beginTakeover st.control reason ∨
        persisted.control.FailedOf (c.control.beginTakeover st.control reason)) →
      persisted.control.quiesced = false ∧ persisted.Unverified := by
    rintro persisted (hsame | ⟨text, hfailed⟩)
    · unfold Unverified
      rw [hsame, hquiesced, hcount, hstage]
      exact ⟨rfl, rfl, nofun⟩
    · unfold Unverified
      rw [hfailed]
      exact ⟨hquiesced, hcount, nofun⟩
  split <;> rename_i heq <;> rw [heq] at hkept <;> exact hdone _ hkept

theorem moves_stepQuiesced (c : Core) (now : ℚ) (input : StepInput)
    (hquiesced : c.control.quiesced = true) :
    Moves st (.step now input) start c (c.stepQuiesced st now input).1 := by
  unfold stepQuiesced
  dsimp only
  have hservice : Moves st (.step now input) start c _ :=
    (calm_serviceExchangeRisk st c now
      (decide (c.observation.riskSnapshotSequence ≤ c.control.quiesceSnapshotSequence))
      input.service).moves
  have hsame : (c.serviceExchangeRisk st now
      (decide (c.observation.riskSnapshotSequence ≤ c.control.quiesceSnapshotSequence))
      input.service).control = c.control := rfl
  generalize c.serviceExchangeRisk st now
    (decide (c.observation.riskSnapshotSequence ≤ c.control.quiesceSnapshotSequence))
    input.service = served at hservice hsame ⊢
  generalize served.evaluation st now = e
  have hstale := hservice.tail (.stale served e.parentHealthy now (by rw [hsame, hquiesced]))
  generalize served.updateParentStaleState st e.parentHealthy now = stale at hstale ⊢
  generalize Control.quiesceTakeoverReason e.parentHealthy stale.parentHeartbeatError
    e.exchangeValid stale.observation.exchangeReason e.openOrderCount e.nonzeroPositionCount =
    reason
  split
  · exact hstale
  have h := hstale.trans (moves_takeoverFromQuiesce st stale reason
    "supervisor_quiesce_safety_takeover")
  dsimp only [Call.storage] at h
  have hover := unverified_takeoverFromQuiesce st stale input.storage reason
    "supervisor_quiesce_safety_takeover"
  split <;> rename_i heq <;> rw [heq] at h hover
  · exact h
  rename_i taken result
  have hnotes : taken.control.Notes (taken.control.failPendingStopAfterTakeover reason) ∧
      (taken.control.failPendingStopAfterTakeover reason).preparedRearm =
        taken.control.preparedRearm := by
    unfold Control.failPendingStopAfterTakeover
    split
    · exact ⟨notes_finishStop _ _ _ _ _ _, rfl⟩
    · exact ⟨Control.Notes.refl _, rfl⟩
  obtain ⟨hnotes, hprepared⟩ := hnotes
  have hbefore := h.tail (.note hnotes (Or.inr (Or.inl hprepared)))
  refine hbefore.trans (moves_stepActive st _ now input ⟨?_, Or.inr ⟨?_, ?_⟩⟩)
  · exact hnotes.quiesced.trans hover.1
  · exact hnotes.flatVerificationCount.trans hover.2.1
  · exact fun hstage => hover.2.2 (hnotes.stage.symm.trans hstage)

theorem moves_stepRunning (c : Core) (now : ℚ) (input : StepInput)
    (h : c = start ∧ c.control.stopRequested = false ∨ c.control.quiesced = true) :
    Moves st (.step now input) start c (c.stepRunning st now input).1 := by
  unfold stepRunning
  split
  · rename_i hquiesced
    exact moves_stepQuiesced st c now input hquiesced
  rename_i hnot
  rcases h with ⟨rfl, hstop⟩ | hquiesced
  · have hservice : Moves st (.step now input) c c _ :=
      (calm_serviceExchangeRisk st c now false input.service).moves
    exact hservice.trans (moves_stepActive st _ now input
      ⟨eq_false_of_ne_true hnot, Or.inl ⟨rfl, hstop⟩⟩)
  · exact absurd hquiesced hnot

/-- A stop request only waits while the sidecar is quiesced. -/
theorem quiesced_of_waits {c stopped : Core} {now : ℚ} {input : StepInput}
    (h : c.completeStopRequest st now input = (stopped, some none)) :
    stopped.control.quiesced = true := by
  unfold completeStopRequest at h
  dsimp only at h
  split at h
  · cases congrArg Prod.snd h
  rename_i looked truth _
  cases hplan : looked.control.stopPlan truth.exchangeValid looked.observation.exchangeReason
      truth.openOrderCount truth.nonzeroPositionCount truth.sequence with
  | wait =>
    rw [hplan] at h
    cases h
    unfold Control.stopPlan at hplan
    split at hplan
    · assumption
    · split at hplan <;> cases hplan
  | takeover reason transitionReason =>
    rw [hplan] at h
    dsimp only at h
    split at h <;> cases congrArg Prod.snd h
  | quiesce reason =>
    rw [hplan] at h
    dsimp only at h
    split at h <;> cases congrArg Prod.snd h
  | cancel =>
    rw [hplan] at h
    cases congrArg Prod.snd h
  | reject reason =>
    rw [hplan] at h
    cases congrArg Prod.snd h

theorem moves_step (c : Core) (now : ℚ) (input : StepInput) :
    Moves st (.step now input) c c (c.step st now input).1 := by
  unfold step
  split
  · have h : Moves st (.step now input) c c _ := moves_completeStopRequest st c now input
    split <;> rename_i heq <;> rw [heq] at h
    · exact h
    · exact h.trans (moves_stepRunning st _ now input (Or.inr (quiesced_of_waits st heq)))
    · exact h
  · rename_i hstop
    exact moves_stepRunning st c now input (Or.inl ⟨rfl, eq_false_of_ne_true hstop⟩)

/-! ## Rearms -/

theorem notes_prepareRearm (c : Control) (requestId reason : String) (now : ℚ)
    (safety : Except String Unit) (binding : Option ProofBinding) (token : String) :
    c.Notes (c.prepareRearm st.control requestId reason now safety binding token).1 := by
  unfold Control.prepareRearm
  split
  · exact ⟨rfl, rfl, rfl, rfl, rfl, rfl, rfl, rfl⟩
  · cases safety <;> exact ⟨rfl, rfl, rfl, rfl, rfl, rfl, rfl, rfl⟩

theorem notes_validateRearmCommit {c control : Control} {requestId token : String} {now : ℚ}
    {binding : Option ProofBinding} {result : Except String Unit}
    (h : c.validateRearmCommit requestId token now binding = some (control, result)) :
    c.Notes control ∧
      (control.preparedRearm = c.preparedRearm ∨ control.preparedRearm = none) := by
  have hrefuse : ∀ reason, c.Notes (c.refuseCommit requestId reason).1 ∧
      ((c.refuseCommit requestId reason).1.preparedRearm = c.preparedRearm ∨
        (c.refuseCommit requestId reason).1.preparedRearm = none) :=
    fun reason => ⟨⟨rfl, rfl, rfl, rfl, rfl, rfl, rfl, rfl⟩, Or.inl rfl⟩
  have hreject : ∀ reason, c.Notes (c.rejectRearmCommit requestId reason).1 ∧
      ((c.rejectRearmCommit requestId reason).1.preparedRearm = c.preparedRearm ∨
        (c.rejectRearmCommit requestId reason).1.preparedRearm = none) :=
    fun reason => ⟨⟨rfl, rfl, rfl, rfl, rfl, rfl, rfl, rfl⟩, Or.inr rfl⟩
  unfold Control.validateRearmCommit at h
  split at h
  · cases h
    exact hrefuse _
  cases hdigest : Control.compareDigest token c.preparedToken with
  | none =>
    rw [hdigest] at h
    cases h
  | some same =>
    rw [hdigest] at h
    cases same with
    | false =>
      cases h
      exact hrefuse _
    | true =>
      cases hprepared : c.preparedRearm with
      | none =>
        rw [hprepared] at h
        cases h
        exact ⟨(hrefuse _).1, Or.inr hprepared⟩
      | some prepared =>
        rw [hprepared] at h
        dsimp only at h
        rw [← hprepared]
        split at h
        · cases h
          exact hreject _
        split at h
        · cases h
          exact hreject _
        split at h
        · cases h
          exact hreject _
        · cases h
          exact ⟨Control.Notes.refl c, Or.inl rfl⟩

theorem notes_abortRearm {c control : Control} {token : String} {aborted : Bool}
    (h : c.abortRearm token = some (control, aborted)) :
    c.Notes control ∧
      (control.preparedRearm = c.preparedRearm ∨ control.preparedRearm = none) := by
  unfold Control.abortRearm at h
  split at h
  · cases h
    exact ⟨Control.Notes.refl c, Or.inl rfl⟩
  cases hdigest : Control.compareDigest token c.preparedToken with
  | none =>
    rw [hdigest] at h
    cases h
  | some same =>
    rw [hdigest] at h
    cases same with
    | false =>
      cases h
      exact ⟨Control.Notes.refl c, Or.inl rfl⟩
    | true =>
      cases h
      exact ⟨⟨rfl, rfl, rfl, rfl, rfl, rfl, rfl, rfl⟩, Or.inr rfl⟩

theorem moves_prepareRearm (c : Core) (requestId reason : String) (now : ℚ) (input : GateInput)
    (token : String) :
    Moves st (.prepareRearm requestId reason now input token) start c
      (c.prepareRearm st requestId reason now input token).1 := by
  unfold prepareRearm
  dsimp only
  have hchecked : Moves st (.prepareRearm requestId reason now input token) start c
      (if requestId = "" then (c, some (.error "request_id_missing"))
        else c.checkRearmSafety st now input).1 := by
    split
    · exact Relation.ReflTransGen.refl
    · exact (calm_checkRearmSafety st c now input).moves
  split <;> rename_i heq <;> rw [heq] at hchecked
  · exact hchecked
  · exact hchecked.tail (.note (notes_prepareRearm st _ _ _ _ _ _ _) (Or.inl trivial))

theorem moves_commitRearm (c : Core) (requestId token : String) (now : ℚ) (input : GateInput) :
    Moves st (.commitRearm requestId token now input) start c
      (c.commitRearm st requestId token now input).1 := by
  unfold commitRearm
  cases hvalid : c.control.validateRearmCommit requestId token now c.rearmProofBinding with
  | none => exact Relation.ReflTransGen.refl
  | some validated =>
    obtain ⟨control, validity⟩ := validated
    have hnotes : Moves st (.commitRearm requestId token now input) start c
        { c with control := control } :=
      Relation.ReflTransGen.single (.note (notes_validateRearmCommit hvalid).1 (Or.inl trivial))
    cases validity with
    | error refusal => exact hnotes
    | ok u =>
      dsimp only
      have hchecked := hnotes.trans (calm_checkRearmSafety st { c with control := control } now
        input).moves
      split <;> rename_i heq <;> rw [heq] at hchecked
      · exact hchecked
      · exact hchecked.tail (.note ⟨rfl, rfl, rfl, rfl, rfl, rfl, rfl, rfl⟩ (Or.inl trivial))
      rename_i checkpoint
      have hpersist := (hchecked.tail (.unlatch checkpoint trivial)).tail
        (.persist _ "operator_rearm_committed" true)
      dsimp only [Call.storage] at hpersist
      split <;> rename_i hresult
      · rw [hresult] at hpersist
        exact hpersist
      · have hrestored := hchecked.tail (.restore checkpoint requestId
          (orText ((checkpoint.beginRearmCommit st).persistDurableState st input.storage
            "operator_rearm_committed" true).1.statePersistError "state_persist_failed")
          { ((checkpoint.beginRearmCommit st).persistDurableState st input.storage
              "operator_rearm_committed" true).1.observation with
            riskAction := checkpoint.observation.riskAction
            riskReason := checkpoint.observation.riskReason } trivial)
        dsimp only [Call.storage] at hrestored
        rw [hresult] at hrestored
        exact hrestored
      · rename_i persisted
        rw [hresult] at hpersist
        have hnotes : persisted.control.Notes (persisted.control.finishRearmCommit st.control
            requestId true "rearm_committed" checkpoint.control).1 :=
          ⟨rfl, rfl, rfl, rfl, rfl, rfl, rfl, rfl⟩
        exact (hpersist.tail (.note hnotes (Or.inl trivial))).tail (.calm ⟨rfl, rfl, rfl, rfl⟩)

theorem moves_abortRearm (c : Core) (token : String) :
    Moves st call start c (c.abortRearm token).1 := by
  unfold abortRearm
  split
  · exact Relation.ReflTransGen.refl
  · rename_i heq
    exact moves_note st (notes_abortRearm heq).1 (notes_abortRearm heq).2

end Transitions

end Core

/-! ## Calls -/

/-- **A call is made of moves.** -/
theorem call_moves (st : Settings) (c : Core) (call : Call) :
    Moves st call c c (c.call st call).1 := by
  cases call with
  | heartbeat sequence sent now => exact (Core.calm_heartbeat st c sequence sent now).moves
  | quiesce requestId reason wallTime storage =>
    exact Core.moves_requestQuiesce st c requestId reason wallTime
  | resumeShutdown requestId reason storage =>
    exact Core.moves_requestShutdownResume st c requestId reason
  | stop requestId cancelOrders =>
    exact Core.moves_note st ⟨rfl, rfl, rfl, rfl, rfl, rfl, rfl, rfl⟩ (Or.inl rfl)
  | prepareRearm requestId reason now input token =>
    exact Core.moves_prepareRearm st c requestId reason now input token
  | commitRearm requestId token now input =>
    exact Core.moves_commitRearm st c requestId token now input
  | abortRearm token => exact Core.moves_abortRearm st c token
  | step now input => exact Core.moves_step st c now input

/-- **What every move keeps is kept by a call.** -/
theorem call_keeps {st : Settings} {c : Core} {call : Call} {P : Core → Prop}
    (hmove : ∀ a b, Move st call c a b → P a → P b) (h : P c) : P (c.call st call).1 := by
  have hmoves := call_moves st c call
  generalize (c.call st call).1 = after at hmoves ⊢
  induction hmoves with
  | refl => exact h
  | tail _ hlast ih => exact hmove _ _ hlast ih

end ChronosHFT.Sidecar
