import ChronosHFT.Sidecar.Moves

/-!
# What a call may do to the latch

All but one of the sidecar's operations are *restrained*: they never clear the latch, the
generation of the control state never falls, a prepared rearm stays as it is or is dropped, and
an open state store stays open.  `Restrains` says so of the core before and after; it is
reflexive and transitive, so a call is restrained when its moves are.

The exceptions are the two halves of the rearm: `prepare_rearm` prepares one, and `commit_rearm`
clears the latch.  `restrains_call` says that there are no others.
-/

namespace ChronosHFT.Sidecar

/-! ## The controller -/

namespace Control

/-- The controller's part of a restrained operation. -/
structure Restrains (c c' : Control) : Prop where
  latched : c.killLatched = true → c'.killLatched = true
  generation : c.generation ≤ c'.generation
  prepared : c'.preparedRearm = c.preparedRearm ∨ c'.preparedRearm = none

variable (policy : ControlPolicy) {c c' c'' : Control}

theorem Restrains.refl (c : Control) : c.Restrains c := ⟨id, le_rfl, Or.inl rfl⟩

theorem Restrains.trans (h : c.Restrains c') (h' : c'.Restrains c'') : c.Restrains c'' := by
  refine ⟨fun hlatched => h'.latched (h.latched hlatched), le_trans h.generation h'.generation,
    ?_⟩
  rcases h'.prepared with hsame | hnone
  · rw [hsame]
    exact h.prepared
  · exact Or.inr hnone

@[simp] theorem killLatched_bumpIfChanged (before : TransitionSnapshot) (c : Control) :
    (c.bumpIfChanged policy before).killLatched = c.killLatched := by
  unfold bumpIfChanged
  split <;> rfl

@[simp] theorem preparedRearm_bumpIfChanged (before : TransitionSnapshot) (c : Control) :
    (c.bumpIfChanged policy before).preparedRearm = c.preparedRearm := by
  unfold bumpIfChanged
  split <;> rfl

theorem generation_le_bumpIfChanged (before : TransitionSnapshot) (c : Control) :
    c.generation ≤ (c.bumpIfChanged policy before).generation := by
  unfold bumpIfChanged
  split
  · exact le_rfl
  · exact Nat.le_succ _

/-- Counting a change does not matter. -/
theorem Restrains.bump (h : c.Restrains c') (before : TransitionSnapshot) :
    c.Restrains (c'.bumpIfChanged policy before) := by
  refine ⟨?_, le_trans h.generation (generation_le_bumpIfChanged policy before c'), ?_⟩
  · rw [killLatched_bumpIfChanged]
    exact h.latched
  · rw [preparedRearm_bumpIfChanged]
    exact h.prepared

theorem restrains_resetFlatVerification (c : Control) :
    c.Restrains (c.resetFlatVerification policy) := by
  refine Restrains.bump policy ?_ _
  exact ⟨id, le_rfl, Or.inl rfl⟩

theorem restrains_latchKill (c : Control) (reason : String) :
    c.Restrains (c.latchKill policy reason) := by
  unfold latchKill
  split
  · exact Restrains.refl c
  · refine Restrains.bump policy ?_ _
    exact ⟨fun _ => rfl, le_rfl, Or.inl rfl⟩

theorem restrains_beginQuiesced (c : Control) (reason : String) (sequence : ℕ) (wallTime : ℚ) :
    c.Restrains (c.beginQuiesced policy reason sequence wallTime) := by
  refine Restrains.bump policy ?_ _
  exact ⟨id, le_rfl, Or.inr rfl⟩

theorem restrains_quiesceFailed (c : Control) (error : String) :
    c.Restrains (c.quiesceFailed policy error) := by
  refine Restrains.bump policy ?_ _
  exact ⟨fun _ => rfl, le_rfl, Or.inr rfl⟩

theorem restrains_beginTakeover (c : Control) (reason : String) :
    c.Restrains (c.beginTakeover policy reason) := by
  refine Restrains.bump policy ?_ _
  exact ⟨fun _ => rfl, le_rfl, Or.inr rfl⟩

theorem restrains_rejectRearmCommit (c : Control) (requestId reason : String) :
    c.Restrains (c.rejectRearmCommit requestId reason).1 :=
  ⟨id, le_rfl, Or.inr rfl⟩

theorem Notes.restrains (h : c.Notes c')
    (hprepared : c'.preparedRearm = c.preparedRearm ∨ c'.preparedRearm = none) :
    c.Restrains c' :=
  ⟨fun hlatched => h.killLatched.trans hlatched, h.generation.ge, hprepared⟩

/-- What the stage machine leaves alone. -/
structure SameLatch (c c' : Control) : Prop where
  killLatched : c'.killLatched = c.killLatched
  generation : c'.generation = c.generation
  preparedRearm : c'.preparedRearm = c.preparedRearm

theorem SameLatch.trans (h : c.SameLatch c') (h' : c'.SameLatch c'') : c.SameLatch c'' :=
  ⟨h'.killLatched.trans h.killLatched, h'.generation.trans h.generation,
    h'.preparedRearm.trans h.preparedRearm⟩

theorem SameLatch.restrains (h : c.SameLatch c') : c.Restrains c' :=
  ⟨fun hlatched => h.killLatched.trans hlatched, h.generation.ge, Or.inl h.preparedRearm⟩

theorem sameLatch_reopen (c : Control) (e : Evaluation) : c.SameLatch (c.reopen e) := by
  unfold reopen
  split <;> exact ⟨rfl, rfl, rfl⟩

theorem sameLatch_emergencyActions (c : Control) (action : RiskAction) (e : Evaluation)
    (lastCancel lastFlatten : ℚ) :
    c.SameLatch (c.emergencyActions policy action e lastCancel lastFlatten).1 := by
  unfold emergencyActions
  split
  · exact ⟨rfl, rfl, rfl⟩
  · dsimp only
    split <;> split <;> exact ⟨rfl, rfl, rfl⟩

theorem sameLatch_countFlat (c : Control) (action : RiskAction) (e : Evaluation) (stale : ℕ) :
    c.SameLatch (c.countFlat policy action e stale) := by
  unfold countFlat
  dsimp only
  split
  · exact ⟨rfl, rfl, rfl⟩
  split
  · split
    · split <;> exact ⟨rfl, rfl, rfl⟩
    · split
      · split <;> exact ⟨rfl, rfl, rfl⟩
      · split <;> exact ⟨rfl, rfl, rfl⟩
  · split <;> exact ⟨rfl, rfl, rfl⟩

theorem restrains_advanceRiskStage (c : Control) (healthy : Bool) (action : RiskAction)
    (e : Evaluation) (stale : ℕ) (lastCancel lastFlatten : ℚ) :
    c.Restrains (c.advanceRiskStage policy healthy action e stale lastCancel lastFlatten).1 := by
  unfold advanceRiskStage
  dsimp only
  split
  · refine Restrains.bump policy ?_ _
    exact ⟨id, le_rfl, Or.inl rfl⟩
  refine Restrains.bump policy (SameLatch.restrains ?_) _
  refine SameLatch.trans (SameLatch.trans (SameLatch.trans ?_ (sameLatch_reopen _ e))
    (sameLatch_emergencyActions policy _ action e lastCancel lastFlatten))
    (sameLatch_countFlat policy _ action e stale)
  exact ⟨rfl, rfl, rfl⟩

end Control

/-! ## The core -/

namespace Core

/-- A restrained operation. -/
structure Restrains (c c' : Core) : Prop where
  control : c.control.Restrains c'.control
  store : c.disk.store.isSome = true → c'.disk.store.isSome = true

variable (st : Settings) {c c' c'' : Core}

theorem Restrains.refl (c : Core) : c.Restrains c := ⟨Control.Restrains.refl _, id⟩

theorem Restrains.trans (h : c.Restrains c') (h' : c'.Restrains c'') : c.Restrains c'' :=
  ⟨h.control.trans h'.control, fun hstore => h'.store (h.store hstore)⟩

/-- A calm part is restrained. -/
theorem Calm.restrains (h : c.Calm c') : c.Restrains c' := by
  refine ⟨?_, fun hstore => ?_⟩
  · rw [h.control]
    exact Control.Restrains.refl _
  · rw [h.disk]
    exact hstore

/-- The rearm gate reads: it is restrained, and the controller is as before. -/
theorem restrains_checkRearmSafety (c : Core) (now : ℚ) (input : GateInput) :
    c.Restrains (c.checkRearmSafety st now input).1 ∧
      (c.checkRearmSafety st now input).1.control = c.control :=
  ⟨(calm_checkRearmSafety st c now input).restrains,
    (calm_checkRearmSafety st c now input).control⟩

/-- An operation on the controller only. -/
theorem restrains_of_control {control : Control} (h : c.control.Restrains control) :
    c.Restrains { c with control := control } := ⟨h, id⟩

theorem restrains_updateParentStaleState (c : Core) (healthy : Bool) (now : ℚ) :
    c.Restrains (c.updateParentStaleState st healthy now) := by
  unfold updateParentStaleState
  split
  · exact ⟨Control.Restrains.refl _, id⟩
  split
  · exact ⟨Control.restrains_resetFlatVerification _ _, id⟩
  · exact Restrains.refl c

/-! ### Persisting -/

theorem restrains_failClosed (c : Core) (reason : String) : c.Restrains (c.failClosed reason) :=
  ⟨⟨fun _ => rfl, le_rfl, Or.inl rfl⟩, id⟩

theorem restrains_persistNowhere (c : Core) : c.Restrains (c.persistNowhere st).1 := by
  unfold persistNowhere
  split
  · refine Restrains.trans ?_ (restrains_failClosed _ _)
    exact ⟨Control.Restrains.refl _, id⟩
  · exact Restrains.refl c

theorem restrains_persistFile (c : Core) (storage : Storage) (event : String) (force : Bool) :
    c.Restrains (c.persistFile st storage event force).1 := by
  unfold persistFile
  split
  · exact Restrains.refl c
  dsimp only
  split
  · exact Restrains.refl c
  · rename_i replaced error hwritten
    refine Restrains.trans ?_ (restrains_failClosed _ _)
    cases replaced with
    | false => exact ⟨Control.Restrains.refl _, fun hstore => hstore⟩
    | true => exact ⟨Control.Restrains.refl _, fun hstore => hstore⟩
  · exact ⟨Control.Restrains.refl _, id⟩

theorem restrains_persistStore (c : Core) (store : StateStore) (storage : Storage)
    (event : String) : c.Restrains (c.persistStore st store storage event).1 := by
  unfold persistStore
  dsimp only
  split
  · exact ⟨Control.Restrains.refl _, fun _ => rfl⟩
  · refine Restrains.trans ?_ (restrains_failClosed _ _)
    exact ⟨Control.Restrains.refl _, fun _ => rfl⟩
  · exact ⟨Control.Restrains.refl _, fun _ => rfl⟩

/-- **Persisting is restrained**, whatever becomes of it. -/
theorem restrains_persistDurableState (c : Core) (storage : Storage) (event : String)
    (force : Bool) : c.Restrains (c.persistDurableState st storage event force).1 := by
  unfold persistDurableState
  split
  · exact restrains_persistFile st c storage event force
  · exact restrains_persistNowhere st c
  · split
    · exact restrains_persistStore st c _ storage event
    · exact restrains_persistNowhere st c

/-! ### Steps -/

/-- After the latch, the action is to kill exactly when the latch is set. -/
theorem latchDecision_control (c : Core) (decision : RiskAction × String) :
    ∃ latched, (c.latchDecision st decision).1 = { c with control := latched } ∧
      (latched = c.control ∨ ∃ reason, latched = c.control.latchKill st.control reason) ∧
      ((c.latchDecision st decision).2.1 = .kill ↔ latched.killLatched = true) := by
  unfold latchDecision
  dsimp only
  by_cases hkill : decision.1 = .kill ∧ c.control.killLatched = false
  · have hset : (c.control.latchKill st.control (orText decision.2
        (orText c.observation.riskReason "independent_hard_risk_breach"))).killLatched =
          true := by
      unfold Control.latchKill
      rw [if_neg (by rw [hkill.2]; exact nofun), Control.killLatched_bumpIfChanged]
    simp only [if_pos hkill, hset, if_true]
    exact ⟨_, rfl, Or.inr ⟨_, rfl⟩, iff_of_true trivial hset⟩
  · simp only [if_neg hkill]
    by_cases hset : c.control.killLatched = true
    · simp only [if_pos hset]
      exact ⟨c.control, rfl, Or.inl rfl, iff_of_true trivial hset⟩
    · simp only [if_neg hset]
      refine ⟨c.control, rfl, Or.inl rfl, iff_of_false (fun h => ?_) hset⟩
      exact hkill ⟨h, eq_false_of_ne_true hset⟩

/-- **What a decision makes of the controller**: the latch may be set, and then the snapshot is
evaluated. -/
theorem stepDecide_control (c : Core) (now : ℚ) (input : StepInput) :
    ∃ latched healthy action lastCancel lastFlatten,
      (latched = (c.updateParentStaleState st (c.parentHealthy st now) now).control ∨
        ∃ reason, latched =
          (c.updateParentStaleState st (c.parentHealthy st now) now).control.latchKill st.control
            reason) ∧
      (action = .kill ↔ latched.killLatched = true) ∧
      (c.stepDecide st now input).1.control =
        (latched.advanceRiskStage st.control healthy action (c.evaluation st now)
          (c.updateParentStaleState st (c.parentHealthy st now) now).parentStaleSnapshotSequence
          lastCancel lastFlatten).1 := by
  have hhealth : (c.evaluation st now).parentHealthy = c.parentHealthy st now := rfl
  unfold stepDecide
  dsimp only
  rw [hhealth]
  generalize c.updateParentStaleState st (c.parentHealthy st now) now = stale at *
  generalize stale.riskDecision st input.funding (c.parentHealthy st now)
    (c.evaluation st now).exchangeValid now = decision
  obtain ⟨latched, hlatch, hcontrol, hkill⟩ := latchDecision_control st stale decision
  generalize stale.latchDecision st decision = decided at *
  obtain ⟨decided, action, reason⟩ := decided
  dsimp only at hlatch hkill ⊢
  rw [hlatch]
  dsimp only
  refine ⟨latched, decide (c.parentHealthy st now = true ∧
    (c.evaluation st now).exchangeValid = true ∧ action = .none), action,
    stale.lastCancelAttemptAt, stale.lastFlattenAttemptAt, hcontrol, hkill, ?_⟩
  generalize latched.advanceRiskStage st.control _ action (c.evaluation st now) _ _ _ = staged
  have hcalm : (if staged.2.cancel = true then
      (({ stale with control := staged.1 } : Core).emergencyCancel now input.cancel).1
      else { stale with control := staged.1 }).control = staged.1 := by
    split
    · exact (calm_emergencyCancel _ now input.cancel).control
    · rfl
  split
  · exact (calm_emergencyFlatten _ now input.flatten).control.trans hcalm
  · exact hcalm

theorem restrains_stepDecide (c : Core) (now : ℚ) (input : StepInput) :
    c.Restrains (c.stepDecide st now input).1 := by
  obtain ⟨latched, healthy, action, lastCancel, lastFlatten, hlatched, -, hcontrol⟩ :=
    stepDecide_control st c now input
  have hstale := (restrains_updateParentStaleState st c (c.parentHealthy st now) now).control
  refine ⟨?_, fun hstore => ?_⟩
  · rw [hcontrol]
    refine Control.Restrains.trans ?_ (Control.restrains_advanceRiskStage _ _ _ _ _ _ _ _)
    rcases hlatched with rfl | ⟨reason, rfl⟩
    · exact hstale
    · exact hstale.trans (Control.restrains_latchKill _ _ reason)
  · rw [(decides_stepDecide st c now input).disk]
    exact hstore

/-! ### Calls -/

/-- **A move is restrained**, unless it rearms. -/
theorem restrains_move {call : Call} {start : Core} (hcall : ¬call.Rearms)
    (hmove : Move st call start c c') : c.Restrains c' := by
  cases hmove with
  | calm h => exact h.restrains
  | note h hprepared =>
    exact restrains_of_control (h.restrains (hprepared.resolve_left hcall))
  | stale healthy now => exact restrains_updateParentStaleState st c healthy now
  | decide now input => exact restrains_stepDecide st c now input
  | retreat =>
    refine (restrains_of_control (Control.restrains_resetFlatVerification st.control _)).trans ?_
    exact ⟨⟨id, le_rfl, Or.inl rfl⟩, id⟩
  | quiesce => exact restrains_of_control (Control.restrains_beginQuiesced _ _ _ _ _)
  | unquiesce => exact restrains_of_control (Control.restrains_quiesceFailed _ _ _)
  | takeover => exact restrains_of_control (Control.restrains_beginTakeover _ _ _)
  | unlatch hrearms => exact absurd hrearms hcall
  | restore _ _ _ hrearms => exact absurd hrearms hcall
  | fail => exact ⟨⟨fun _ => rfl, le_rfl, Or.inl rfl⟩, id⟩
  | persist event force => exact restrains_persistDurableState st c call.storage event force

/-- **A call is restrained**, unless it is a half of a rearm. -/
theorem restrains_call {call : Call} (hcall : ¬call.Rearms) :
    c.Restrains (c.call st call).1 :=
  call_keeps (fun _ _ hmove h => h.trans (restrains_move st hcall hmove)) (Restrains.refl c)

end Core

end ChronosHFT.Sidecar
