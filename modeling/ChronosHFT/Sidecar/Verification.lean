import ChronosHFT.Sidecar.Backends

/-!
# What a flat verification stands on

A sidecar in the stage `FLAT_VERIFIED` is to have been shown enough valid snapshots of a flat
account, each newer than the one before, and nothing else since.  The stage and the number of
verifications are two fields that are reset and restored apart.

The log of the controller says what it was shown.  `Control.Counted` is the invariant: the number
of verifications is that of some of the flat snapshots at the top of the log.  Every move keeps
it, except for the decision of a step that `Slips`: the parent is lost, which resets the number
and leaves the stage, or a snapshot is not valid and the number is not reset.  The state store
restores the stage without a number, too (`restart_not_sound`).  `flat_verified_sound` is for all
other runs. -/

namespace ChronosHFT.Sidecar

open List

/-! ## The flat snapshots of a log -/

/-- The sequence of a flat snapshot. -/
def StageEvent.flatSequence? : StageEvent → Option ℕ
  | .evaluated e => if e.flat then some e.sequence else none
  | .reset => none

/-- An evaluation of a flat snapshot. -/
def StageEvent.flat : StageEvent → Bool
  | .evaluated e => e.flat
  | .reset => false

/-- The flat snapshots of the log, newest first, down to the first entry that `keeps` rules out.
-/
def Control.flatSequences (keeps : StageEvent → Bool) (c : Control) : List ℕ :=
  (c.log.takeWhile keeps).filterMap StageEvent.flatSequence?

/-- **The number of verifications** is that of some of the flat snapshots of the log, each newer
than the one before.  Only a latched sidecar that flattens has any. -/
structure Control.Counted (policy : ControlPolicy) (keeps : StageEvent → Bool) (c : Control) :
    Prop where
  sequences : ∃ sequences : List ℕ, sequences.length = c.flatVerificationCount ∧
    sequences.Sublist (c.flatSequences keeps) ∧ sequences.Pairwise (· > ·) ∧
    ∀ s ∈ sequences, s ≤ c.lastVerifiedSnapshotSequence
  latched : 0 < c.flatVerificationCount → c.killLatched = true ∧ policy.flattenEnabled = true

/-- The stage only says that the account is verified when there are enough verifications, and not
of a quiesced sidecar. -/
structure Control.Staged (policy : ControlPolicy) (c : Control) : Prop where
  enough : c.stage = .flatVerified → policy.flatVerificationChecks ≤ c.flatVerificationCount
  quiesced : c.quiesced = true → c.stage ≠ .flatVerified

namespace Control

section Counted

variable {policy : ControlPolicy} {keeps : StageEvent → Bool} {c c' : Control} {e : Evaluation}

/-- Without verifications there is nothing to count. -/
theorem Counted.of_zero (h : c.flatVerificationCount = 0) : c.Counted policy keeps := by
  refine ⟨⟨[], h.symm, nil_sublist _, List.Pairwise.nil, ?_⟩, ?_⟩
  · intro s hs
    cases hs
  · rw [h]
    exact fun hlt => absurd hlt (lt_irrefl 0)

/-- The count only depends on the numbers, the log and the latch. -/
theorem Counted.of_same (h : c.Counted policy keeps)
    (hcount : c'.flatVerificationCount = c.flatVerificationCount)
    (hlast : c'.lastVerifiedSnapshotSequence = c.lastVerifiedSnapshotSequence)
    (hlog : c'.log = c.log) (hlatched : c.killLatched = true → c'.killLatched = true) :
    c'.Counted policy keeps := by
  obtain ⟨sequences, hlength, hsublist, hpairwise, hle⟩ := h.sequences
  constructor
  · refine ⟨sequences, hlength.trans hcount.symm, ?_, hpairwise, ?_⟩
    · unfold flatSequences
      rw [hlog]
      exact hsublist
    · rw [hlast]
      exact hle
  · rw [hcount]
    exact fun hlt => ⟨hlatched (h.latched hlt).1, (h.latched hlt).2⟩

theorem Staged.of_ne (h : c.stage ≠ .flatVerified) : c.Staged policy :=
  ⟨fun hstage => absurd hstage h, fun _ => h⟩

theorem flatSequences_flat (hkeeps : keeps (.evaluated e) = true) (hflat : e.flat = true)
    (hlog : c'.log = .evaluated e :: c.log) :
    c'.flatSequences keeps = e.sequence :: c.flatSequences keeps := by
  unfold flatSequences
  rw [hlog, takeWhile_cons_of_pos hkeeps]
  exact filterMap_cons_some (if_pos hflat)

theorem flatSequences_kept (hkeeps : keeps (.evaluated e) = true) (hflat : e.flat = false)
    (hlog : c'.log = .evaluated e :: c.log) :
    c'.flatSequences keeps = c.flatSequences keeps := by
  unfold flatSequences
  rw [hlog, takeWhile_cons_of_pos hkeeps]
  exact filterMap_cons_none (if_neg (by rw [hflat]; exact nofun))

theorem Counted.bump (h : c.Counted policy keeps) (before : TransitionSnapshot) :
    (c.bumpIfChanged policy before).Counted policy keeps := by
  refine h.of_same (flatVerificationCount_bumpIfChanged _ _ _) (lastVerified_bumpIfChanged _ _ _)
    (log_bumpIfChanged _ _ _) fun hlatched => ?_
  rw [killLatched_bumpIfChanged]
  exact hlatched

theorem Staged.bump (h : c.Staged policy) (before : TransitionSnapshot) :
    (c.bumpIfChanged policy before).Staged policy := by
  constructor
  · rw [stage_bumpIfChanged, flatVerificationCount_bumpIfChanged]
    exact h.enough
  · rw [stage_bumpIfChanged, quiesced_bumpIfChanged]
    exact h.quiesced

variable (policy) in
/-- The emergency actions only move the stage, and neither verify nor end a verification. -/
theorem emergencyActions_stage (c : Control) (action : RiskAction) (e : Evaluation)
    (lastCancel lastFlatten : ℚ) :
    ∃ stage, (c.emergencyActions policy action e lastCancel lastFlatten).1 =
        { c with stage := stage } ∧
      (stage = .flatVerified ↔ c.stage = .flatVerified) := by
  by_cases hstage : c.stage = .flatVerified
  · refine ⟨.flatVerified, ?_, by rw [hstage]⟩
    unfold emergencyActions
    rw [if_pos hstage, ← hstage]
  · obtain ⟨hne, -⟩ := emergencyActions_ne policy (e := e) lastCancel lastFlatten hstage action
    refine ⟨(c.emergencyActions policy action e lastCancel lastFlatten).1.stage, ?_,
      iff_of_false hne hstage⟩
    unfold emergencyActions
    rw [if_neg hstage]
    dsimp only
    split <;> split <;> rfl

variable {action : RiskAction} {stale : ℕ} {lastCancel lastFlatten : ℚ}

/-- Counting a flat snapshot, when flattening. -/
theorem countFlat_counts (c : Control) (stale : ℕ)
    (hflat : e.flat = true) (hkill : action = .kill ∧ policy.flattenEnabled = true) :
    ∃ stage, c.countFlat policy action e stale =
        (if c.Counts e stale then
          { c with
            stage := stage
            lastVerifiedSnapshotSequence := e.sequence
            flatVerificationCount := c.flatVerificationCount + 1 }
        else { c with stage := stage }) ∧
      (stage = .flatVerified → c.stage = .flatVerified ∨ policy.flatVerificationChecks ≤
        if c.Counts e stale then c.flatVerificationCount + 1 else c.flatVerificationCount) := by
  obtain ⟨hvalid, hopen, hnonzero⟩ := Evaluation.flat_eq_true.mp hflat
  have hbusy : ¬(e.openOrderCount ≠ 0 ∨ e.nonzeroPositionCount ≠ 0) := by
    rintro (h | h)
    · exact h hopen
    · exact h hnonzero
  unfold countFlat
  rw [if_neg (by rw [hvalid]; exact nofun), if_pos hkill]
  dsimp only
  by_cases hcounts : c.Counts e stale
  · have hall : e.openOrderCount = 0 ∧ e.nonzeroPositionCount = 0 ∧
        (e.parentHealthy = true ∨ stale < e.sequence) ∧
        c.lastVerifiedSnapshotSequence < e.sequence := ⟨hopen, hnonzero, hcounts⟩
    simp only [if_pos hall, if_pos hcounts]
    split
    · rename_i henough
      exact ⟨.flatVerified, rfl, fun _ => Or.inr henough⟩
    · exact ⟨c.stage, rfl, Or.inl⟩
  · have hnot : ¬(e.openOrderCount = 0 ∧ e.nonzeroPositionCount = 0 ∧
        (e.parentHealthy = true ∨ stale < e.sequence) ∧
        c.lastVerifiedSnapshotSequence < e.sequence) := fun h => hcounts h.2.2
    simp only [if_neg hnot, if_neg hcounts, if_neg hbusy]
    split
    · rename_i henough
      exact ⟨.flatVerified, rfl, fun _ => Or.inr henough⟩
    · exact ⟨c.stage, rfl, Or.inl⟩

/-- Counting without flattening only moves the stage, and verifies nothing. -/
theorem countFlat_idle (c : Control) (e : Evaluation) (stale : ℕ)
    (hkill : ¬(action = .kill ∧ policy.flattenEnabled = true)) :
    ∃ stage, c.countFlat policy action e stale = { c with stage := stage } ∧
      (stage = .flatVerified → c.stage = .flatVerified) := by
  unfold countFlat
  rw [if_neg hkill]
  split
  · exact ⟨c.stage, rfl, id⟩
  split
  · exact ⟨.cancelVerified, rfl, nofun⟩
  · exact ⟨c.stage, rfl, id⟩

/-- A valid snapshot that is not flat ends the count, when flattening. -/
theorem countFlat_busy (c : Control) (hvalid : e.exchangeValid = true) (hflat : e.flat = false)
    (hkill : action = .kill ∧ policy.flattenEnabled = true) : c.countFlat policy action e stale =
      { c with
        stage := .flattening
        flatVerificationCount := 0
        lastVerifiedSnapshotSequence := e.sequence } := by
  have hchecks := policy.checks_pos
  have hnot : ¬(e.openOrderCount = 0 ∧ e.nonzeroPositionCount = 0) := by
    intro h
    have := Evaluation.flat_eq_true.mpr ⟨hvalid, h⟩
    rw [hflat] at this
    cases this
  have hbusy : e.openOrderCount ≠ 0 ∨ e.nonzeroPositionCount ≠ 0 := by
    rw [← not_and_or]
    exact hnot
  have hnotAll : ¬(e.openOrderCount = 0 ∧ e.nonzeroPositionCount = 0 ∧
      (e.parentHealthy = true ∨ stale < e.sequence) ∧
      c.lastVerifiedSnapshotSequence < e.sequence) := fun h => hnot ⟨h.1, h.2.1⟩
  unfold countFlat
  rw [if_neg (by rw [hvalid]; exact nofun), if_pos hkill]
  simp only [if_neg hnotAll, if_pos hbusy]
  rw [if_neg (by omega)]

/-- Reopening is for a verified account that is not flat. -/
theorem reopen_flat (hflat : e.flat = true) : c.reopen e = c := by
  obtain ⟨hvalid, hopen, hnonzero⟩ := Evaluation.flat_eq_true.mp hflat
  unfold reopen
  rw [if_neg]
  rintro ⟨-, hbad | hbad | hbad⟩
  · rw [hvalid] at hbad
    cases hbad
  · exact hbad hopen
  · exact hbad hnonzero

theorem reopen_verified (hstage : c.stage = .flatVerified) (hflat : e.flat = false) :
    c.reopen e =
      { c with
        stage := .flattening
        flatVerificationCount := 0
        lastVerifiedSnapshotSequence := 0 } := by
  unfold reopen
  refine if_pos ⟨hstage, ?_⟩
  by_contra hnone
  rw [not_or, not_or, not_not, not_not] at hnone
  have hall := Evaluation.flat_eq_true.mpr ⟨eq_true_of_ne_false hnone.1, hnone.2⟩
  rw [hflat] at hall
  cases hall

theorem reopen_unverified (hstage : c.stage ≠ .flatVerified) : c.reopen e = c := by
  unfold reopen
  exact if_neg fun h => hstage h.1

/-- Counting a flat snapshot that was just logged. -/
theorem Counted.countFlat (h : c.Counted policy keeps) (shown : Control)
    (stale : ℕ) (hkeeps : keeps (.evaluated e) = true) (hflat : e.flat = true)
    (hkill : action = .kill ↔ c.killLatched = true) (hlog : shown.log = .evaluated e :: c.log)
    (hcount : shown.flatVerificationCount = c.flatVerificationCount)
    (hlast : shown.lastVerifiedSnapshotSequence = c.lastVerifiedSnapshotSequence)
    (hlatched : shown.killLatched = c.killLatched) :
    (shown.countFlat policy action e stale).Counted policy keeps ∧
      (shown.Staged policy → shown.quiesced = false →
        (shown.countFlat policy action e stale).Staged policy) := by
  obtain ⟨sequences, hlength, hsublist, hpairwise, hle⟩ := h.sequences
  have hlist : shown.flatSequences keeps = e.sequence :: c.flatSequences keeps :=
    flatSequences_flat hkeeps hflat hlog
  by_cases henabled : action = .kill ∧ policy.flattenEnabled = true
  · obtain ⟨stage, hcounted, hstage⟩ := countFlat_counts shown stale hflat henabled
    rw [hcounted]
    have hset : shown.killLatched = true := hlatched.trans (hkill.mp henabled.1)
    by_cases hnew : shown.Counts e stale
    · rw [if_pos hnew] at hstage ⊢
      refine ⟨⟨⟨e.sequence :: sequences, ?_, ?_, ?_, ?_⟩, fun _ => ⟨hset, henabled.2⟩⟩, ?_⟩
      · rw [length_cons, hlength, hcount]
      · have hsub : (e.sequence :: sequences).Sublist (shown.flatSequences keeps) := by
          rw [hlist]
          exact hsublist.cons_cons _
        exact hsub
      · refine pairwise_cons.mpr ⟨fun s hs => ?_, hpairwise⟩
        calc s ≤ c.lastVerifiedSnapshotSequence := hle s hs
          _ = shown.lastVerifiedSnapshotSequence := hlast.symm
          _ < e.sequence := hnew.2
      · intro s hs
        rcases mem_cons.mp hs with rfl | hs
        · exact le_rfl
        · exact (lt_of_le_of_lt ((hle s hs).trans hlast.ge) hnew.2).le
      · intro hstaged hquiesced
        refine ⟨fun hverified => ?_, fun hq => ?_⟩
        · rcases hstage hverified with hbefore | henough
          · exact (hstaged.enough hbefore).trans (Nat.le_succ _)
          · exact henough
        · exact absurd (hquiesced.symm.trans hq) nofun
    · rw [if_neg hnew] at hstage ⊢
      refine ⟨⟨⟨sequences, hlength.trans hcount.symm, ?_, hpairwise, ?_⟩,
        fun _ => ⟨hset, henabled.2⟩⟩, ?_⟩
      · have hsub : sequences.Sublist (shown.flatSequences keeps) := by
          rw [hlist]
          exact hsublist.cons _
        exact hsub
      · intro s hs
        exact (hle s hs).trans hlast.ge
      · intro hstaged hquiesced
        refine ⟨fun hverified => ?_, fun hq => ?_⟩
        · rcases hstage hverified with hbefore | henough
          · exact hstaged.enough hbefore
          · exact henough
        · exact absurd (hquiesced.symm.trans hq) nofun
  · -- nothing is counted, and nothing was
    obtain ⟨stage, hcounted, hstage⟩ := countFlat_idle shown e stale henabled
    have hzero : shown.flatVerificationCount = 0 := by
      rw [hcount]
      by_contra hne
      obtain ⟨hset, hflatten⟩ := h.latched (Nat.pos_of_ne_zero hne)
      exact henabled ⟨hkill.mpr hset, hflatten⟩
    rw [hcounted]
    refine ⟨Counted.of_zero hzero, fun hstaged hquiesced => ⟨?_, fun hq => ?_⟩⟩
    · exact fun hverified => hstaged.enough (hstage hverified)
    · exact absurd (hquiesced.symm.trans hq) nofun

/-- **The evaluation of a flat snapshot** adds to the count, or leaves it. -/
theorem Counted.advance_flat
    (h : c.Counted policy keeps) (hkeeps : keeps (.evaluated e) = true) (hflat : e.flat = true)
    (hkill : action = .kill ↔ c.killLatched = true) :
    (c.advanceRiskStage policy false action e stale lastCancel lastFlatten).1.Counted policy
        keeps ∧
      (c.Staged policy → c.quiesced = false →
        (c.advanceRiskStage policy false action e stale lastCancel lastFlatten).1.Staged
          policy) := by
  unfold advanceRiskStage
  simp only [Bool.false_eq_true, if_false]
  obtain ⟨stage, hacted, hstage⟩ := emergencyActions_stage policy ({ c with
      log := .evaluated e :: c.log
      unsafeSince := if c.unsafeSince ≤ 0 then e.now else c.unsafeSince } : Control)
    action e lastCancel lastFlatten
  rw [reopen_flat hflat, hacted]
  obtain ⟨hcounted, hstaged⟩ := h.countFlat ({ c with
      log := .evaluated e :: c.log
      unsafeSince := if c.unsafeSince ≤ 0 then e.now else c.unsafeSince
      stage := stage }) stale hkeeps hflat hkill rfl rfl rfl rfl
  refine ⟨hcounted.bump _, fun hbefore hquiesced => (hstaged ⟨?_, ?_⟩ hquiesced).bump _⟩
  · exact fun hverified => hbefore.enough (hstage.mp hverified)
  · exact fun hq => absurd (hquiesced.symm.trans hq) nofun

/-- Counting ends with a snapshot that is not flat, unless there is a count and the snapshot is
not valid. -/
theorem countFlat_ends {shown : Control} (stale : ℕ) (hflat : e.flat = false)
    (hstage : shown.stage ≠ .flatVerified)
    (hreset : e.exchangeValid = true ∨ shown.flatVerificationCount = 0)
    (hidle : ¬(action = .kill ∧ policy.flattenEnabled = true) →
      shown.flatVerificationCount = 0) :
    (shown.countFlat policy action e stale).flatVerificationCount = 0 ∧
      (shown.countFlat policy action e stale).stage ≠ .flatVerified := by
  by_cases hvalid : e.exchangeValid = true
  · by_cases henabled : action = .kill ∧ policy.flattenEnabled = true
    · rw [countFlat_busy shown hvalid hflat henabled]
      exact ⟨rfl, nofun⟩
    · obtain ⟨stage, hcounted, hverified⟩ := countFlat_idle shown e stale henabled
      rw [hcounted]
      exact ⟨hidle henabled, fun h => hstage (hverified h)⟩
  · have hzero := hreset.resolve_left hvalid
    unfold countFlat
    rw [if_pos (eq_false_of_ne_true hvalid)]
    exact ⟨hzero, hstage⟩

/-- **The evaluation of a snapshot that is not flat** ends the count. -/
theorem advance_busy (h : c.Counted policy keeps) (hflat : e.flat = false)
    (hkill : action = .kill ↔ c.killLatched = true)
    (hreset : e.exchangeValid = true ∨ c.flatVerificationCount = 0 ∨ c.stage = .flatVerified) :
    (c.advanceRiskStage policy false action e stale lastCancel
        lastFlatten).1.flatVerificationCount = 0 ∧
      (c.advanceRiskStage policy false action e stale lastCancel lastFlatten).1.stage ≠
        .flatVerified := by
  unfold advanceRiskStage
  simp only [Bool.false_eq_true, if_false, stage_bumpIfChanged,
    flatVerificationCount_bumpIfChanged]
  generalize hstarted : ({ c with
      log := .evaluated e :: c.log
      unsafeSince := if c.unsafeSince ≤ 0 then e.now else c.unsafeSince } : Control) = started
  have hstage : started.stage = c.stage := by rw [← hstarted]
  have hcount : started.flatVerificationCount = c.flatVerificationCount := by rw [← hstarted]
  obtain ⟨stage, hacted, hverified⟩ := emergencyActions_stage policy (started.reopen e)
    action e lastCancel lastFlatten
  rw [hacted]
  by_cases hbefore : started.stage = .flatVerified
  · have hreopen := reopen_verified hbefore hflat
    have hzero : (started.reopen e).flatVerificationCount = 0 := by rw [hreopen]
    have hne : (started.reopen e).stage ≠ .flatVerified := by
      rw [hreopen]
      exact nofun
    exact countFlat_ends stale hflat (fun hs => hne (hverified.mp hs)) (Or.inr hzero)
      fun _ => hzero
  · rw [reopen_unverified hbefore] at hverified ⊢
    refine countFlat_ends stale hflat (fun hs => hbefore (hverified.mp hs)) ?_ fun hidle => ?_
    · rcases hreset with hvalid | hzero | hc
      · exact Or.inl hvalid
      · exact Or.inr (hcount.trans hzero)
      · exact absurd (hstage.trans hc) hbefore
    · by_contra hne
      obtain ⟨hset, hflatten⟩ := h.latched (Nat.pos_of_ne_zero (hcount ▸ hne))
      exact hidle ⟨hkill.mpr hset, hflatten⟩

/-- The evaluation of a healthy account starts over. -/
theorem advance_healthy (policy : ControlPolicy) (c : Control) (action : RiskAction)
    (e : Evaluation) (stale : ℕ) (lastCancel lastFlatten : ℚ) :
    (c.advanceRiskStage policy true action e stale lastCancel
        lastFlatten).1.flatVerificationCount = 0 ∧
      (c.advanceRiskStage policy true action e stale lastCancel lastFlatten).1.stage ≠
        .flatVerified := by
  unfold advanceRiskStage
  simp only [if_true, stage_bumpIfChanged, flatVerificationCount_bumpIfChanged]
  exact ⟨trivial, nofun⟩

/-- The evaluation of a snapshot that is not valid leaves the count of an account that is not
verified. -/
theorem Counted.advance_invalid
    (h : c.Counted policy keeps) (hkeeps : keeps (.evaluated e) = true)
    (hinvalid : e.exchangeValid = false) (hstage : c.stage ≠ .flatVerified) :
    (c.advanceRiskStage policy false action e stale lastCancel lastFlatten).1.Counted policy
      keeps := by
  have hflat : e.flat = false := by
    rw [← Bool.not_eq_true]
    intro hflat
    have hvalid := (Evaluation.flat_eq_true.mp hflat).1
    rw [hinvalid] at hvalid
    cases hvalid
  unfold advanceRiskStage
  simp only [Bool.false_eq_true, if_false]
  generalize hstarted : ({ c with
      log := .evaluated e :: c.log
      unsafeSince := if c.unsafeSince ≤ 0 then e.now else c.unsafeSince } : Control) = started
  have hlogged : started.Counted policy keeps := by
    obtain ⟨sequences, hlength, hsublist, hpairwise, hle⟩ := h.sequences
    rw [← hstarted]
    refine ⟨⟨sequences, hlength, ?_, hpairwise, hle⟩, h.latched⟩
    rw [flatSequences_kept hkeeps hflat rfl]
    exact hsublist
  have hreopen : started.reopen e = started := by
    rw [← hstarted]
    exact reopen_unverified hstage
  obtain ⟨stage, hacted, -⟩ := emergencyActions_stage policy started action e
    lastCancel lastFlatten
  rw [hreopen, hacted]
  unfold Control.countFlat
  rw [if_pos hinvalid]
  have hmoved : ({ started with stage := stage } : Control).Counted policy keeps :=
    hlogged.of_same rfl rfl rfl id
  exact hmoved.bump _

/-- Setting the latch leaves the verification alone. -/
theorem verification_latchKill (policy : ControlPolicy) (keeps : StageEvent → Bool) (c : Control)
    (reason : String) :
    (c.Counted policy keeps → (c.latchKill policy reason).Counted policy keeps) ∧
      (c.Staged policy → (c.latchKill policy reason).Staged policy) ∧
      (c.latchKill policy reason).flatVerificationCount = c.flatVerificationCount ∧
      (c.latchKill policy reason).stage = c.stage ∧
      (c.latchKill policy reason).quiesced = c.quiesced := by
  unfold latchKill
  split
  · exact ⟨id, id, rfl, rfl, rfl⟩
  refine ⟨fun h => ?_, fun h => ?_, flatVerificationCount_bumpIfChanged _ _ _,
    stage_bumpIfChanged _ _ _, quiesced_bumpIfChanged _ _ _⟩
  · have hset : ({ c with
        killLatched := true
        killReason := orText reason "independent_hard_risk_breach" } : Control).Counted policy
        keeps := h.of_same rfl rfl rfl fun _ => rfl
    exact hset.bump _
  · have hset : ({ c with
        killLatched := true
        killReason := orText reason "independent_hard_risk_breach" } : Control).Staged policy :=
      ⟨h.enough, h.quiesced⟩
    exact hset.bump _

/-- **An evaluation** keeps the count. -/
theorem Counted.advance
    (h : c.Counted policy keeps) (healthy : Bool) (hkill : action = .kill ↔ c.killLatched = true)
    (hkeeps : e.flat = true → keeps (.evaluated e) = true)
    (hreset : (e.exchangeValid = true ∨ c.flatVerificationCount = 0 ∨ c.stage = .flatVerified) ∨
      keeps (.evaluated e) = true) :
    (c.advanceRiskStage policy healthy action e stale lastCancel lastFlatten).1.Counted policy
      keeps := by
  cases healthy with
  | true => exact Counted.of_zero (advance_healthy policy c action e stale lastCancel
    lastFlatten).1
  | false =>
    cases hflat : e.flat with
    | true => exact (h.advance_flat (hkeeps hflat) hflat hkill).1
    | false =>
      by_cases hresets : e.exchangeValid = true ∨ c.flatVerificationCount = 0 ∨
          c.stage = .flatVerified
      · exact Counted.of_zero (advance_busy h hflat hkill hresets).1
      · have hkept := hreset.resolve_left hresets
        rw [not_or, not_or] at hresets
        exact h.advance_invalid hkept (eq_false_of_ne_true hresets.1) hresets.2.2

/-- An evaluation that ends the count when it is to only verifies what is counted. -/
theorem staged_advance
    (h : e.flat = true → c.Staged policy) (hcounted : c.Counted policy keeps) (healthy : Bool)
    (hkill : action = .kill ↔ c.killLatched = true)
    (hkeeps : e.flat = true → keeps (.evaluated e) = true)
    (hreset : e.exchangeValid = true ∨ c.flatVerificationCount = 0 ∨ c.stage = .flatVerified)
    (hquiesced : c.quiesced = false) :
    (c.advanceRiskStage policy healthy action e stale lastCancel lastFlatten).1.Staged
      policy := by
  cases healthy with
  | true => exact Staged.of_ne (advance_healthy policy c action e stale lastCancel lastFlatten).2
  | false =>
    cases hflat : e.flat with
    | true => exact (hcounted.advance_flat (hkeeps hflat) hflat hkill).2 (h hflat) hquiesced
    | false => exact Staged.of_ne (advance_busy hcounted hflat hkill hreset).2

end Counted

end Control

/-! ## The decision of a step -/

section Decide

variable (st : Settings) {keeps : StageEvent → Bool} {c : Core} {now : ℚ} {input : StepInput}

/-- What losing the parent, or not, makes of the controller. -/
theorem Core.updateParentStaleState_control (c : Core) (now : ℚ) :
    (c.updateParentStaleState st (c.parentHealthy st now) now).control =
      if c.LosesParent st now then c.control.resetFlatVerification st.control
        else c.control := by
  unfold Core.updateParentStaleState
  by_cases hhealth : c.parentHealthy st now = true
  · have hkept : ¬c.LosesParent st now := fun h => absurd (hhealth.symm.trans h.1) nofun
    rw [if_pos hhealth, if_neg hkept]
  rw [if_neg hhealth]
  by_cases hstale : c.parentStaleSince ≤ 0
  · rw [if_pos hstale, if_pos (show c.LosesParent st now from
      ⟨eq_false_of_ne_true hhealth, hstale⟩)]
  · have hkept : ¬c.LosesParent st now := fun h => hstale h.2
    rw [if_neg hstale, if_neg hkept]

/-- A snapshot that is not valid does not end the count. -/
def Core.Overlooks (c : Core) (now : ℚ) : Prop :=
  ¬c.LosesParent st now ∧ 0 < c.control.flatVerificationCount ∧
    c.control.stage ≠ .flatVerified ∧ (c.evaluation st now).exchangeValid = false

/-- The parent is lost, and the stage stays. -/
def Core.Outlives (c : Core) (now : ℚ) : Prop :=
  c.LosesParent st now ∧ c.control.stage = .flatVerified ∧ (c.evaluation st now).flat = true

variable {st}

/-- **The decision of a step** keeps the count, unless it overlooks a snapshot. -/
theorem Core.counted_stepDecide (input : StepInput) (hkeeps : ∀ e : Evaluation, e.flat = true →
      keeps (.evaluated e) = true) (h : c.control.Counted st.control keeps)
    (hover : (∀ e : Evaluation, e.exchangeValid = false → keeps (.evaluated e) = true) ∨
      ¬c.Overlooks st now) :
    (c.stepDecide st now input).1.control.Counted st.control keeps ∧
      (c.control.Staged st.control → c.control.quiesced = false → ¬c.Overlooks st now →
        ¬c.Outlives st now → (c.stepDecide st now input).1.control.Staged st.control) := by
  obtain ⟨latched, healthy, action, lastCancel, lastFlatten, hlatched, hkill, hcontrol⟩ :=
    Core.stepDecide_control st c now input
  rw [hcontrol]
  have hsame : latched.flatVerificationCount = (c.updateParentStaleState st
        (c.parentHealthy st now) now).control.flatVerificationCount ∧
      latched.stage = (c.updateParentStaleState st (c.parentHealthy st now) now).control.stage ∧
      latched.quiesced = (c.updateParentStaleState st (c.parentHealthy st now)
        now).control.quiesced ∧
      ((c.updateParentStaleState st (c.parentHealthy st now) now).control.Counted st.control
        keeps →
        latched.Counted st.control keeps) ∧
      ((c.updateParentStaleState st (c.parentHealthy st now) now).control.Staged st.control →
        latched.Staged st.control) := by
    rcases hlatched with rfl | ⟨reason, rfl⟩
    · exact ⟨rfl, rfl, rfl, id, id⟩
    obtain ⟨hcounted, hstaged, hcount, hstage, hquiesced⟩ :=
      Control.verification_latchKill st.control keeps
        (c.updateParentStaleState st (c.parentHealthy st now) now).control reason
    exact ⟨hcount, hstage, hquiesced, hcounted, hstaged⟩
  rw [Core.updateParentStaleState_control] at hsame
  obtain ⟨hcount, hstage, hquiesced, hcounted, hstaged⟩ := hsame
  by_cases hlost : c.LosesParent st now
  · -- the count was reset
    rw [if_pos hlost] at hcount hstage hquiesced hcounted hstaged
    have hzero : latched.flatVerificationCount = 0 :=
      hcount.trans (Control.flatVerificationCount_bumpIfChanged _ _ _)
    have hstage : latched.stage = c.control.stage :=
      hstage.trans (Control.stage_bumpIfChanged _ _ _)
    have hreset : (c.evaluation st now).exchangeValid = true ∨
        latched.flatVerificationCount = 0 ∨
        latched.stage = .flatVerified := Or.inr (Or.inl hzero)
    have hcounted : latched.Counted st.control keeps := Control.Counted.of_zero hzero
    refine ⟨hcounted.advance healthy hkill (hkeeps _) (Or.inl hreset), ?_⟩
    intro _ hq _ houtlives
    refine Control.staged_advance (fun hflat => ?_) hcounted healthy hkill (hkeeps _) hreset ?_
    · exact Control.Staged.of_ne fun hs => houtlives ⟨hlost, hstage.symm.trans hs, hflat⟩
    · exact (hquiesced.trans (Control.quiesced_bumpIfChanged _ _ _)).trans hq
  · rw [if_neg hlost] at hcount hstage hquiesced hcounted hstaged
    have hreset : ¬c.Overlooks st now → (c.evaluation st now).exchangeValid = true ∨
        latched.flatVerificationCount = 0 ∨ latched.stage = .flatVerified := by
      intro hnot
      by_contra hnone
      rw [not_or, not_or] at hnone
      refine hnot ⟨hlost, ?_, fun hs => hnone.2.2 (hstage.trans hs), ?_⟩
      · exact hcount ▸ Nat.pos_of_ne_zero hnone.2.1
      · exact eq_false_of_ne_true hnone.1
    constructor
    · refine (hcounted h).advance healthy hkill (hkeeps _) ?_
      by_cases hover' : c.Overlooks st now
      · rcases hover with hinvalid | hnot
        · exact Or.inr (hinvalid _ hover'.2.2.2)
        · exact absurd hover' hnot
      · exact Or.inl (hreset hover')
    · intro hs hq hnot _
      exact Control.staged_advance (fun _ => hstaged hs) (hcounted h) healthy hkill (hkeeps _)
        (hreset hnot) (hquiesced.trans hq)

end Decide

/-! ## Runs -/

section Moves

variable (st : Settings) {keeps : StageEvent → Bool} {call : Call} {start a b : Core}

/-- **A step that slips**: it overlooks a snapshot that is not valid, or the stage outlives the
parent. -/
def Core.Slips (c : Core) (now : ℚ) (input : StepInput) : Prop :=
  c.control.stopRequested = false ∧ c.control.quiesced = false ∧
    ((c.serviceExchangeRisk st now false input.service).Overlooks st now ∨
      (c.serviceExchangeRisk st now false input.service).Outlives st now)

variable {st}

theorem Control.verification_failedOf {policy : ControlPolicy} {c c' : Control}
    (h : c'.FailedOf c) :
    (c.Counted policy keeps → c'.Counted policy keeps) ∧ c'.Staged policy := by
  obtain ⟨reason, rfl⟩ := h
  exact ⟨fun hc => hc.of_same rfl rfl rfl fun _ => rfl, Control.Staged.of_ne nofun⟩

/-- A commit that was not persisted takes the verification from its checkpoint. -/
theorem Control.finishRearmCommit_restores (policy : ControlPolicy) (c : Control)
    (requestId reason : String) (checkpoint : Control) :
    let restored := (c.finishRearmCommit policy requestId false reason checkpoint).1
    restored.killLatched = checkpoint.killLatched ∧ restored.stage = checkpoint.stage ∧
      restored.flatVerificationCount = checkpoint.flatVerificationCount ∧
      restored.lastVerifiedSnapshotSequence = checkpoint.lastVerifiedSnapshotSequence ∧
      restored.log = c.log ∧ restored.quiesced = c.quiesced :=
  ⟨Control.killLatched_bumpIfChanged _ _ _, Control.stage_bumpIfChanged _ _ _,
    Control.flatVerificationCount_bumpIfChanged _ _ _, Control.lastVerified_bumpIfChanged _ _ _,
    Control.log_bumpIfChanged _ _ _, Control.quiesced_bumpIfChanged _ _ _⟩

/-- **A move** keeps the count, and what the stage says of it. -/
theorem Core.verification_move (hkeeps : ∀ e : Evaluation, e.flat = true →
      keeps (.evaluated e) = true)
    (hover : (∀ e : Evaluation, e.exchangeValid = false → keeps (.evaluated e) = true) ∨
      ∀ now input, call = .step now input → ¬start.Slips st now input)
    (hmove : Move st call start a b) (h : a.control.Counted st.control keeps) :
    b.control.Counted st.control keeps ∧
      (a.control.Staged st.control → (∀ now input, call = .step now input →
        ¬start.Slips st now input) → b.control.Staged st.control) := by
  have hzero : ∀ {c : Control}, c.flatVerificationCount = 0 → c.stage ≠ .flatVerified →
      c.Counted st.control keeps ∧ (a.control.Staged st.control → (∀ now input,
        call = .step now input → ¬start.Slips st now input) → c.Staged st.control) :=
    fun hcount hstage => ⟨Control.Counted.of_zero hcount, fun _ _ => Control.Staged.of_ne hstage⟩
  cases hmove with
  | calm hcalm =>
    rw [hcalm.control]
    exact ⟨h, fun hs _ => hs⟩
  | note hnotes =>
    refine ⟨h.of_same hnotes.flatVerificationCount hnotes.lastVerified hnotes.log
      fun hl => hnotes.killLatched.trans hl, fun hs _ => ⟨fun hstage => ?_, fun hq hstage => ?_⟩⟩
    · rw [hnotes.flatVerificationCount]
      exact hs.enough (hnotes.stage.symm.trans hstage)
    · exact hs.quiesced (hnotes.quiesced.symm.trans hq) (hnotes.stage.symm.trans hstage)
  | stale healthy now hquiesced =>
    unfold Core.updateParentStaleState
    split
    · exact ⟨h, fun hs _ => hs⟩
    split
    · refine ⟨Control.Counted.of_zero (Control.flatVerificationCount_bumpIfChanged _ _ _),
        fun hs _ => Control.Staged.of_ne ?_⟩
      rw [Control.resetFlatVerification, Control.stage_bumpIfChanged]
      exact hs.quiesced hquiesced
    · exact ⟨h, fun hs _ => hs⟩
  | decide now input hcall hdecides =>
    obtain ⟨hquiesced, ⟨rfl, hstop⟩ | hunverified⟩ := hdecides
    · have hnot : ¬start.Slips st now input →
          ¬(start.serviceExchangeRisk st now false input.service).Overlooks st now ∧
          ¬(start.serviceExchangeRisk st now false input.service).Outlives st now := by
        intro hslips
        exact not_or.mp fun hor => hslips ⟨hstop, hquiesced, hor⟩
      obtain ⟨hcounted, hstaged⟩ := Core.counted_stepDecide input hkeeps h
        (hover.imp_right fun hslips => (hnot (hslips now input hcall)).1)
      exact ⟨hcounted, fun hs hslips => hstaged hs hquiesced (hnot (hslips now input hcall)).1
        (hnot (hslips now input hcall)).2⟩
    · have hover' : ¬a.Overlooks st now := fun ho => by
        have hlt := ho.2.1
        rw [hunverified.1] at hlt
        exact lt_irrefl 0 hlt
      obtain ⟨hcounted, hstaged⟩ := Core.counted_stepDecide input hkeeps h
        (Or.inr hover')
      exact ⟨hcounted, fun hs _ => hstaged hs hquiesced hover' fun ho => hunverified.2 ho.2.1⟩
  | retreat => exact hzero (Control.flatVerificationCount_bumpIfChanged _ _ _) nofun
  | quiesce reason sequence wallTime =>
    have hquiesced : ({ a.control with
        quiesced := true
        quiesceReason := orText reason "operator_quiesce"
        quiescedAt := if a.control.quiescedAt ≤ 0 then wallTime else a.control.quiescedAt
        quiesceSnapshotSequence := sequence
        stage := .quiesced
        preparedRearm := none } : Control).Counted st.control keeps :=
      h.of_same rfl rfl rfl id
    refine ⟨hquiesced.bump _, fun _ _ => Control.Staged.of_ne ?_⟩
    rw [Control.beginQuiesced, Control.stage_bumpIfChanged]
    exact nofun
  | unquiesce error =>
    refine hzero (Control.flatVerificationCount_bumpIfChanged st.control _ _) ?_
    rw [Control.quiesceFailed, Control.stage_bumpIfChanged]
    exact nofun
  | takeover reason =>
    refine hzero (Control.flatVerificationCount_bumpIfChanged st.control _ _) ?_
    rw [Control.beginTakeover, Control.stage_bumpIfChanged]
    exact nofun
  | unlatch =>
    refine hzero (Control.flatVerificationCount_bumpIfChanged st.control _ _) ?_
    rw [Core.beginRearmCommit, Control.beginRearmCommit, Control.stage_bumpIfChanged]
    exact nofun
  | restore requestId reason observation =>
    have hkept : ∀ {control : Control}, (control = (a.beginRearmCommit st).control ∨
        control.FailedOf (a.beginRearmCommit st).control) →
        control.log = a.control.log ∧ control.quiesced = a.control.quiesced := by
      rintro control (rfl | ⟨reason, rfl⟩)
      · exact ⟨Control.log_bumpIfChanged _ _ _, Control.quiesced_bumpIfChanged _ _ _⟩
      · exact ⟨Control.log_bumpIfChanged _ _ _, Control.quiesced_bumpIfChanged _ _ _⟩
    obtain ⟨hlog, hquiesced⟩ := hkept (Core.persistDurableState_controls st
      (a.beginRearmCommit st) call.storage "operator_rearm_committed" true)
    dsimp only
    generalize ((a.beginRearmCommit st).persistDurableState st call.storage
      "operator_rearm_committed" true).1 = persisted at hlog hquiesced ⊢
    have hrestored := Control.finishRearmCommit_restores st.control persisted.control requestId
      reason a.control
    generalize (persisted.control.finishRearmCommit st.control requestId false reason
      a.control).1 = restored at hrestored ⊢
    obtain ⟨hlatched, hstage, hcount, hlast, hlog', hquiesced'⟩ := hrestored
    refine ⟨h.of_same hcount hlast (hlog'.trans hlog) fun hl => hlatched.trans hl,
      fun hs _ => ⟨fun hv => ?_, fun hq hv => ?_⟩⟩
    · rw [hcount]
      exact hs.enough (hstage.symm.trans hv)
    · exact hs.quiesced (hquiesced.symm.trans (hquiesced'.symm.trans hq)) (hstage.symm.trans hv)
  | fail reason error =>
    have hfailed : (({ a with statePersistError := error } : Core).failClosed
        reason).control.FailedOf a.control := ⟨_, rfl⟩
    obtain ⟨hc, hs⟩ := Control.verification_failedOf hfailed
    exact ⟨hc h, fun _ _ => hs⟩
  | persist event force =>
    rcases Core.persistDurableState_controls st a call.storage event force with hsame | hfailed
    · rw [hsame]
      exact ⟨h, fun hs _ => hs⟩
    · obtain ⟨hc, hs⟩ := Control.verification_failedOf hfailed
      exact ⟨hc h, fun _ _ => hs⟩

end Moves

/-! ## Starts -/

/-- The state store says that the account was verified. -/
def Disk.StoredVerified (disk : Disk) : Prop :=
  ∃ store, disk.store = some store ∧ store.head.payload.stage = some .flatVerified ∧
    store.head.payload.quiesced = some false

namespace Core

variable {st : Settings} {c : Core}

/-- **A start** counts nothing, and is only verified where the state store says so. -/
theorem unverified_start {disk : Disk} {input : StartInput} (h : start st disk input = .ok c) :
    c.control.flatVerificationCount = 0 ∧
      (c.control.stage = .flatVerified → st.backend = .store ∧ disk.StoredVerified) := by
  unfold start at h
  cases hbackend : st.backend with
  | file =>
    simp only [hbackend] at h
    have hloaded := loads_loadFile st (fresh st disk input.now) input
    split at h <;> rename_i heq <;> rw [heq] at hloaded <;> cases h
    refine ⟨hloaded.count, fun hs => absurd hs (hloaded.stage.elim (fun hkept => ?_) id)⟩
    rw [hkept]
    exact nofun
  | nowhere =>
    simp only [hbackend] at h
    cases h
    unfold loadNowhere
    split
    · exact ⟨rfl, nofun⟩
    · exact ⟨rfl, nofun⟩
  | store =>
    simp only [hbackend] at h
    obtain ⟨store, next, applied, hstore, -, happlied, rfl⟩ := openStateStore_eq_ok h
    obtain ⟨killLatched, quiesced, _, _, _, -, hquiesced, -, -, -, rfl⟩ :=
      applyStateStorePayload_eq_ok happlied
    refine ⟨rfl, fun hs => ⟨rfl, store, hstore, ?_⟩⟩
    dsimp only at hs
    cases quiesced with
    | true => cases hs
    | false =>
      cases hstage : store.head.payload.stage with
      | none =>
        rw [hstage] at hs
        cases killLatched <;> cases hs
      | some stage =>
        rw [hstage] at hs
        exact ⟨congrArg some hs, hquiesced⟩

end Core

/-! ## Soundness -/

section Sound

variable {st : Settings} {disk : Disk} {input : Core.StartInput} {c₀ c : Core}
  {history : List Entry}

/-- **A sound verification.**  In the stage `FLAT_VERIFIED` enough valid snapshots of a flat
account, each newer than the one before, were evaluated since the last evaluation of another one,
the last reset and the start; and the rearm gate only holds when there are enough
verifications. -/
structure Core.SoundlyVerified (st : Settings) (c : Core) : Prop where
  verified : c.control.stage = .flatVerified → ∃ sequences : List ℕ,
    st.control.flatVerificationChecks ≤ sequences.length ∧
      sequences.Sublist (c.control.flatSequences StageEvent.flat) ∧ sequences.Pairwise (· > ·)
  rearmable : ∀ now input, (c.checkRearmSafety st now input).2 = some (.ok ()) →
    st.control.flatVerificationChecks ≤ c.control.flatVerificationCount

/-- **Flat verifications are sound** in every run from a start that did not restore the stage
from the state store, as long as no step slips. -/
theorem flat_verified_sound (hstart : Core.start st disk input = .ok c₀)
    (hruns : Runs st c₀ history c) (hstored : ¬(st.backend = .store ∧ disk.StoredVerified))
    (hsteps : ∀ e ∈ history, ∀ now input, e.call = .step now input →
      ¬e.before.Slips st now input) : c.SoundlyVerified st := by
  have hinvariant : c.control.Counted st.control StageEvent.flat ∧
      c.control.Staged st.control := by
    induction hruns with
    | nil =>
      obtain ⟨hcount, hstage⟩ := Core.unverified_start hstart
      exact ⟨Control.Counted.of_zero hcount,
        Control.Staged.of_ne fun hs => hstored (hstage hs)⟩
    | @call history c h call ih =>
      have hbefore := ih fun e he => hsteps e (mem_append_left _ he)
      have hslips := hsteps _ (mem_append_right _ (mem_singleton.mpr rfl))
      have hmove : ∀ a b, Move st call c a b →
          a.control.Counted st.control StageEvent.flat ∧ a.control.Staged st.control →
          b.control.Counted st.control StageEvent.flat ∧ b.control.Staged st.control := by
        rintro a b hmove ⟨hcounted, hstaged⟩
        obtain ⟨hcounted', hstaged'⟩ := Core.verification_move (fun _ hflat => hflat)
          (Or.inr hslips) hmove hcounted
        exact ⟨hcounted', hstaged' hstaged hslips⟩
      exact call_keeps hmove hbefore
  obtain ⟨hcounted, hstaged⟩ := hinvariant
  obtain ⟨sequences, hlength, hsublist, hpairwise, -⟩ := hcounted.sequences
  constructor
  · intro hstage
    exact ⟨sequences, (hstaged.enough hstage).trans hlength.ge, hsublist, hpairwise⟩
  · intro now input hsafe
    exact hstaged.enough (Core.parked_of_safe hsafe).stage

/-- A run that verifies the account soundly. -/
theorem flat_verified_sound_verified : verifiedCore.SoundlyVerified provedSettings := by
  have hcount : provedCore.control.flatVerificationCount = 0 := by decide +kernel
  have hstage : provedCore.control.stage = .flattening := by decide +kernel
  refine flat_verified_sound start_provedCore (Runs.nil.of_calls [.step 101 quietStep]) ?_ ?_
  · rintro ⟨-, store, hstore, hstored, -⟩
    cases hstore
    cases hstored
  · intro e he now input hcall hslips
    obtain rfl := mem_singleton.mp he
    rcases hslips.2.2 with hoverlooks | houtlives
    · exact absurd hcount hoverlooks.2.1.ne'
    · exact absurd (hstage.symm.trans houtlives.2.1) nofun

/-- The sidecar starts again on the disk of one that verified the account. -/
def restartedCore : Core :=
  Core.started provedSettings verifiedCore.disk { now := 200 }

/-- **A verification that nothing stands on**: the stage is restored and nothing was evaluated,
and the rearm gate holds. -/
theorem restart_not_sound :
    Core.start provedSettings verifiedCore.disk { now := 200 } = .ok restartedCore ∧
      restartedCore.control.stage = .flatVerified ∧ restartedCore.control.log = [] ∧
      (restartedCore.checkRearmSafety provedSettings 201 (flatGate 201)).2 = some (.ok ()) ∧
      ¬restartedCore.SoundlyVerified provedSettings := by
  have hsafe : (restartedCore.checkRearmSafety provedSettings 201 (flatGate 201)).2 =
      some (.ok ()) := by decide +kernel
  refine ⟨Core.start_eq_started (by decide +kernel), by decide +kernel, by decide +kernel, hsafe,
    fun h => ?_⟩
  have henough := h.rearmable 201 (flatGate 201) hsafe
  revert henough
  decide +kernel

end Sound

end ChronosHFT.Sidecar
