import ChronosHFT.Sidecar.Restraint

/-!
# Who clears the kill latch

The latch is only to be cleared by an operator, in two phases: a prepared rearm whose token is
committed in time, with nothing changed in between, on an account that is safe, and with the
unlatched state on disk.  `Rearmed` says all of this of a call and of the history before it.

`commit_rearm` clears the latch in memory before it persists the unlatched state.  A persistence
layer that reports a failure makes it restore the latch, but an exception that escapes from
there leaves the sidecar unlatched (`anchorFails_not_rearmed`).  `latch_cleared_iff` says that
nothing else does: in a run no such exception meets a commit exactly when every call that clears
the latch is a rearm.
-/

namespace ChronosHFT.Sidecar

open List

/-! ## Rearms -/

/-- An accepted `prepare_rearm`, with its token and its time. -/
def Entry.Prepares (e : Entry) (token : String) (now : ℚ) : Prop :=
  ∃ requestId reason input, e.call = .prepareRearm requestId reason now input token ∧
    e.reply = .prepared (.ok token)

/-- A call that clears the latch. -/
def Entry.Clears (e : Entry) : Prop :=
  e.before.control.killLatched = true ∧ e.after.control.killLatched = false

/-- The unlatched state is what a start would find. -/
def Core.StoredUnlatched (st : Settings) (c : Core) : Prop :=
  match st.backend with
  | .file => ∃ payload, c.disk.file = some (.record (some payload) (st.checksum payload)) ∧
      payload.killLatched = .is false
  | .store => ∃ store, c.disk.store = some store ∧ store.head.payload.killLatched = some false ∧
      store.anchor = { committed := true, target := store.head }
  | .nowhere => False

/-- **A rearm.**  The call is an accepted `commit_rearm`; its token is that of the latest
accepted `prepare_rearm`, not expired, and neither the generation nor the proof binding changed
since; the rearm gate holds, and the unlatched state is stored. -/
def Rearmed (st : Settings) (history : List Entry) (e : Entry) : Prop :=
  ∃ requestId token now input, e.call = .commitRearm requestId token now input ∧
    e.reply = .committed (.ok ()) ∧
    (∃ earlier prepare since preparedAt, history = earlier ++ prepare :: since ∧
      prepare.Prepares token preparedAt ∧
      (∀ x ∈ since, ¬∃ other at', x.Prepares other at') ∧
      now ≤ preparedAt + st.control.rearmPrepareTtlSec ∧
      (∀ x ∈ since, x.after.control.generation = prepare.after.control.generation) ∧
      e.before.control.generation = prepare.after.control.generation ∧
      e.before.rearmProofBinding = prepare.after.rearmProofBinding) ∧
    (e.before.checkRearmSafety st now input).2 = some (.ok ()) ∧
    e.after.StoredUnlatched st

/-! ## What a commit does -/

section Commit

variable (st : Settings) {c : Core} {requestId token : String} {now : ℚ} {input : GateInput}

/-- A commit that gets as far as persisting: the token, the time, the generation and the binding
are accepted, and the rearm gate holds. -/
structure Core.Commits (c : Core) (requestId token : String) (now : ℚ) (input : GateInput) :
    Prop where
  valid : c.control.validateRearmCommit requestId token now c.rearmProofBinding =
    some (c.control, .ok ())
  safe : (c.checkRearmSafety st now input).2 = some (.ok ())

/-- The core that such a commit persists. -/
def Core.unlatched (c : Core) (now : ℚ) (input : GateInput) : Core :=
  (c.checkRearmSafety st now input).1.beginRearmCommit st

/-- What becomes of it. -/
def Core.persistUnlatched (c : Core) (now : ℚ) (input : GateInput) : Core × Option Bool :=
  (c.unlatched st now input).persistDurableState st input.storage "operator_rearm_committed" true

/-- A commit during which an exception escapes from persistence, or which has nowhere to persist
and need not. -/
def Entry.Escapes (e : Entry) : Prop :=
  ∃ requestId token now input, e.call = .commitRearm requestId token now input ∧
    e.before.Commits st requestId token now input ∧
    ((e.before.persistUnlatched st now input).2 = none ∨
      st.backend = .nowhere ∧ st.stateRequired = false)

/-- A validated token is that of the prepared rearm. -/
theorem Control.validateRearmCommit_ok {control control' : Control}
    {binding : Option ProofBinding}
    (h : control.validateRearmCommit requestId token now binding = some (control', .ok ())) :
    control' = control ∧ ∃ prepared, control.preparedRearm = some prepared ∧
      prepared.token = token ∧ now ≤ prepared.expiresAt ∧
      prepared.generation = control.generation ∧ prepared.proofBinding = binding := by
  unfold validateRearmCommit at h
  split at h
  · cases h
  cases hdigest : compareDigest token control.preparedToken with
  | none =>
    rw [hdigest] at h
    cases h
  | some same =>
    rw [hdigest] at h
    cases same with
    | false => cases h
    | true =>
      have htoken : token = control.preparedToken := by
        unfold compareDigest at hdigest
        split at hdigest
        · exact of_decide_eq_true (Option.some.inj hdigest)
        · cases hdigest
      cases hprepared : control.preparedRearm with
      | none =>
        rw [hprepared] at h
        cases h
      | some prepared =>
        rw [hprepared] at h
        dsimp only at h
        split at h
        · cases h
        rename_i hintime
        split at h
        · cases h
        rename_i hgeneration
        split at h
        · cases h
        rename_i hbinding
        cases h
        refine ⟨rfl, prepared, rfl, ?_, not_lt.mp hintime, not_not.mp hgeneration,
          not_not.mp hbinding⟩
        rw [htoken]
        unfold preparedToken
        rw [hprepared]

/-- The rearm gate only holds of a latched sidecar. -/
theorem Core.latched_of_safe (h : (c.checkRearmSafety st now input).2 = some (.ok ())) :
    c.control.killLatched = true := by
  unfold checkRearmSafety at h
  cases hgate : c.control.rearmControlGate c.parentHeartbeatError
      (max 0 (now - c.lastParentHeartbeatAt)) st.parentHeartbeatTimeoutSec with
  | error reason =>
    rw [hgate] at h
    cases h
  | ok u =>
    unfold Control.rearmControlGate at hgate
    split at hgate
    · cases hgate
    split at hgate
    · cases hgate
    rename_i hlatched
    exact eq_true_of_ne_false hlatched

/-- Persisting leaves the controller alone unless it reports a failure. -/
theorem Core.persistDurableState_control {storage : Storage} {event : String} {force : Bool}
    (h : (c.persistDurableState st storage event force).2 ≠ some false) :
    (c.persistDurableState st storage event force).1.control = c.control := by
  have hfile : (c.persistFile st storage event force).2 ≠ some false →
      (c.persistFile st storage event force).1.control = c.control := by
    unfold persistFile
    split
    · exact fun _ => rfl
    dsimp only
    split
    · exact fun _ => rfl
    · exact fun h => absurd rfl h
    · exact fun _ => rfl
  have hnowhere : (c.persistNowhere st).2 ≠ some false →
      (c.persistNowhere st).1.control = c.control := by
    unfold persistNowhere
    split
    · exact fun h => absurd rfl h
    · exact fun _ => rfl
  have hstore : ∀ store, (c.persistStore st store storage event).2 ≠ some false →
      (c.persistStore st store storage event).1.control = c.control := by
    intro store
    unfold persistStore
    dsimp only
    split
    · exact fun _ => rfl
    · exact fun h => absurd rfl h
    · exact fun _ => rfl
  unfold persistDurableState at h ⊢
  split at h
  · exact hfile h
  · exact hnowhere h
  · split at h
    · exact hstore _ h
    · exact hnowhere h

/-- The core of a commit that persists is unlatched, and has no prepared rearm. -/
theorem Core.control_unlatched (c : Core) (now : ℚ) (input : GateInput) :
    (c.unlatched st now input).control = c.control.beginRearmCommit st.control := by
  unfold unlatched beginRearmCommit
  rw [(restrains_checkRearmSafety st c now input).2]

/-- A commit whose persisting fails is restrained: the checkpoint brings the latch back. -/
theorem Core.restrains_finishFailed {checkpoint persisted : Core} (h : c.Restrains checkpoint)
    (hsame : checkpoint.control = c.control) (hlatched : c.control.killLatched = true)
    (hpersisted : (checkpoint.beginRearmCommit st).Restrains persisted)
    (requestId reason : String) (observation : Observation) :
    c.Restrains { persisted with
      control := (persisted.control.finishRearmCommit st.control requestId false reason
        checkpoint.control).1
      observation := observation } := by
  have hbegin : (checkpoint.beginRearmCommit st).control =
      checkpoint.control.beginRearmCommit st.control := rfl
  have hprepared : persisted.control.preparedRearm = none := by
    rcases hpersisted.control.prepared with hkept | hnone
    · rw [hkept, hbegin]
      exact Control.preparedRearm_bumpIfChanged _ _ _
    · exact hnone
  have hgeneration : c.control.generation ≤ persisted.control.generation := by
    refine le_trans ?_ hpersisted.control.generation
    rw [hbegin, hsame]
    exact Control.generation_le_bumpIfChanged st.control _
      { c.control with
        killLatched := false
        killReason := ""
        stage := .armed
        flatVerificationCount := 0
        lastVerifiedSnapshotSequence := 0
        preparedRearm := none }
  refine ⟨⟨fun _ => ?_, ?_, Or.inr ?_⟩, fun hstore => hpersisted.store (h.store hstore)⟩
  · dsimp only [Control.finishRearmCommit, Control.refuseCommit, Control.recordRearm]
    rw [if_pos rfl, Control.killLatched_bumpIfChanged, hsame]
    exact hlatched
  · refine le_trans hgeneration ?_
    dsimp only [Control.finishRearmCommit, Control.refuseCommit, Control.recordRearm]
    rw [if_pos rfl]
    exact Control.generation_le_bumpIfChanged st.control _
      { persisted.control with
        killLatched := checkpoint.control.killLatched
        killReason := checkpoint.control.killReason
        stage := checkpoint.control.stage
        flatVerificationCount := checkpoint.control.flatVerificationCount
        lastVerifiedSnapshotSequence := checkpoint.control.lastVerifiedSnapshotSequence }
  · dsimp only [Control.finishRearmCommit, Control.refuseCommit, Control.recordRearm]
    rw [if_pos rfl, Control.preparedRearm_bumpIfChanged]
    exact hprepared

/-- A commit that does not get as far as persisting is restrained, and not accepted. -/
theorem Core.restrains_commitRearm_of_not_commits
    (h : ¬c.Commits st requestId token now input) :
    c.Restrains (c.commitRearm st requestId token now input).1 ∧
      (c.commitRearm st requestId token now input).2 ≠ some (.ok ()) := by
  unfold commitRearm
  cases hvalid : c.control.validateRearmCommit requestId token now c.rearmProofBinding with
  | none => exact ⟨Restrains.refl c, by simp⟩
  | some validated =>
    obtain ⟨control, result⟩ := validated
    have hcontrol := (notes_validateRearmCommit hvalid).1.restrains
      (notes_validateRearmCommit hvalid).2
    cases result with
    | error refusal => exact ⟨restrains_of_control hcontrol, by simp⟩
    | ok u =>
      obtain ⟨rfl, -⟩ := Control.validateRearmCommit_ok hvalid
      obtain ⟨hchecked, -⟩ := restrains_checkRearmSafety st c now input
      cases hsafety : c.checkRearmSafety st now input with
      | mk checkpoint safety =>
        rw [hsafety] at hchecked
        simp only [hsafety]
        match safety, hsafety with
        | none, _ => exact ⟨hchecked, by simp⟩
        | some (.error refusal), _ =>
          refine ⟨hchecked.trans (restrains_of_control
            (Control.restrains_rejectRearmCommit _ requestId refusal)), ?_⟩
          intro heq
          cases heq
        | some (.ok ()), hsafety => exact absurd ⟨hvalid, by rw [hsafety]⟩ h

/-- A commit from whose persisting an exception escapes leaves what was persisted. -/
theorem Core.commitRearm_escaped (h : c.Commits st requestId token now input)
    (hescaped : (c.persistUnlatched st now input).2 = none) :
    c.commitRearm st requestId token now input =
      ((c.persistUnlatched st now input).1, none) := by
  obtain ⟨hvalid, hsafe⟩ := h
  unfold persistUnlatched unlatched at hescaped ⊢
  unfold commitRearm
  rw [hvalid]
  cases hsafety : c.checkRearmSafety st now input with
  | mk checkpoint safety =>
    rw [hsafety] at hsafe hescaped
    dsimp only at hsafe hescaped
    subst hsafe
    simp only [hsafety]
    cases hpersisted : (checkpoint.beginRearmCommit st).persistDurableState st input.storage
        "operator_rearm_committed" true with
    | mk persisted result =>
      rw [hpersisted] at hescaped
      dsimp only at hescaped
      subst hescaped
      rfl

/-- A commit whose persisting reports a failure is restrained, and not accepted. -/
theorem Core.restrains_commitRearm_failed (h : c.Commits st requestId token now input)
    (hfailed : (c.persistUnlatched st now input).2 = some false) :
    c.Restrains (c.commitRearm st requestId token now input).1 ∧
      (c.commitRearm st requestId token now input).2 ≠ some (.ok ()) := by
  obtain ⟨hvalid, hsafe⟩ := h
  have hlatched := latched_of_safe st hsafe
  obtain ⟨hchecked, hsame⟩ := restrains_checkRearmSafety st c now input
  unfold persistUnlatched unlatched at hfailed
  unfold commitRearm
  rw [hvalid]
  cases hsafety : c.checkRearmSafety st now input with
  | mk checkpoint safety =>
    rw [hsafety] at hsafe hfailed hchecked hsame
    dsimp only at hsafe hfailed hsame
    subst hsafe
    simp only [hsafety]
    have hrest := restrains_persistDurableState st (checkpoint.beginRearmCommit st)
      input.storage "operator_rearm_committed" true
    cases hpersisted : (checkpoint.beginRearmCommit st).persistDurableState st input.storage
        "operator_rearm_committed" true with
    | mk persisted result =>
      rw [hpersisted] at hfailed hrest
      dsimp only at hfailed
      subst hfailed
      refine ⟨restrains_finishFailed st hchecked hsame hlatched hrest _ _ _, ?_⟩
      intro heq
      cases heq

/-- A commit whose state is persisted is accepted. -/
theorem Core.commitRearm_persisted (h : c.Commits st requestId token now input)
    (hstored : (c.persistUnlatched st now input).2 = some true) :
    c.commitRearm st requestId token now input =
      ({ (c.persistUnlatched st now input).1 with
          control := (c.persistUnlatched st now input).1.control.recordRearm requestId "COMMIT"
            true "rearm_committed" ""
          stateLoadError := "" }, some (.ok ())) := by
  obtain ⟨hvalid, hsafe⟩ := h
  unfold persistUnlatched unlatched at hstored ⊢
  unfold commitRearm
  rw [hvalid]
  cases hsafety : c.checkRearmSafety st now input with
  | mk checkpoint safety =>
    rw [hsafety] at hsafe hstored
    dsimp only at hsafe hstored
    subst hsafe
    simp only [hsafety]
    cases hpersisted : (checkpoint.beginRearmCommit st).persistDurableState st input.storage
        "operator_rearm_committed" true with
    | mk persisted result =>
      rw [hpersisted] at hstored
      dsimp only at hstored
      subst hstored
      rfl

/-- What a forced persist that succeeds has stored. -/
theorem Core.storedUnlatched_of_persisted {storage : Storage} {event : String}
    (hstore : st.backend = .store → c.disk.store.isSome = true)
    (hnowhere : st.backend = .nowhere → st.stateRequired = true)
    (hlatched : c.control.killLatched = false)
    (h : (c.persistDurableState st storage event true).2 = some true) :
    (c.persistDurableState st storage event true).1.StoredUnlatched st := by
  unfold persistDurableState at h ⊢
  unfold StoredUnlatched
  cases hbackend : st.backend with
  | file =>
    simp only [hbackend] at h ⊢
    unfold persistFile at h ⊢
    rw [if_neg (by simp)] at h ⊢
    dsimp only at h ⊢
    split at h
    · cases h
    · cases h
    rename_i hwritten
    refine ⟨c.filePayload st event, rfl, ?_⟩
    unfold filePayload
    rw [hlatched]
  | nowhere =>
    simp only [hbackend] at h
    unfold persistNowhere at h
    rw [if_pos (hnowhere hbackend)] at h
    cases h
  | store =>
    obtain ⟨store, hsome⟩ := Option.isSome_iff_exists.mp (hstore hbackend)
    simp only [hbackend, hsome] at h ⊢
    unfold persistStore at h ⊢
    dsimp only at h ⊢
    cases hcas : store.cas st.stateHash (storage.writeStore event c.storePayload)
        c.stateVersion c.storePayload store.head.version.writerEpoch
        store.head.version.ownerEpoch
        (max c.stateVersion.safetyEpoch c.pendingSafetyEpoch) with
    | mk next result =>
      simp only [hcas] at h ⊢
      cases result with
      | error failure =>
        cases failure with
        | refused error => cases h
        | escaped => cases h
      | ok version =>
        obtain ⟨-, -, hhead, hanchor, -⟩ := StateStore.cas_eq_ok hcas
        refine ⟨next, rfl, ?_, hanchor⟩
        rw [hhead]
        unfold StateStore.targetHead storePayload
        dsimp only
        rw [hlatched]

/-- **A commit that clears the latch** met an exception, or is accepted and stored. -/
theorem Core.commitRearm_cleared (hstore : st.backend = .store → c.disk.store.isSome = true)
    (hlatched : c.control.killLatched = true)
    (hcleared : (c.commitRearm st requestId token now input).1.control.killLatched = false)
    (hkept : ¬((c.persistUnlatched st now input).2 = none ∨
      st.backend = .nowhere ∧ st.stateRequired = false)) :
    c.Commits st requestId token now input ∧
      (c.commitRearm st requestId token now input).2 = some (.ok ()) ∧
      (c.commitRearm st requestId token now input).1.StoredUnlatched st := by
  have hnot : ¬c.Restrains (c.commitRearm st requestId token now input).1 := by
    intro h
    rw [h.control.latched hlatched] at hcleared
    cases hcleared
  by_cases hcommits : c.Commits st requestId token now input
  · obtain ⟨hescaped, hnowhere⟩ := not_or.mp hkept
    cases hpersisted : (c.persistUnlatched st now input).2 with
    | none => exact absurd hpersisted hescaped
    | some persisted =>
      cases persisted with
      | false => exact absurd (restrains_commitRearm_failed st hcommits hpersisted).1 hnot
      | true =>
        rw [commitRearm_persisted st hcommits hpersisted]
        refine ⟨hcommits, rfl, ?_⟩
        have hchecked := (restrains_checkRearmSafety st c now input).1
        refine storedUnlatched_of_persisted (c := c.unlatched st now input) st
          (fun hb => hchecked.store (hstore hb)) (fun hb => ?_) ?_ hpersisted
        · exact eq_true_of_ne_false fun hrequired => hnowhere ⟨hb, hrequired⟩
        · rw [control_unlatched]
          exact Control.killLatched_bumpIfChanged _ _ _
  · exact absurd (restrains_commitRearm_of_not_commits st hcommits).1 hnot

/-- A commit that an exception escapes from clears the latch. -/
theorem Core.commitRearm_unlatches (hcommits : c.Commits st requestId token now input)
    (hpersisted : (c.persistUnlatched st now input).2 ≠ some false) :
    (c.commitRearm st requestId token now input).1.control.killLatched = false := by
  have hcontrol : (c.persistUnlatched st now input).1.control.killLatched = false := by
    unfold persistUnlatched
    rw [persistDurableState_control st hpersisted, control_unlatched]
    exact Control.killLatched_bumpIfChanged _ _ _
  cases hresult : (c.persistUnlatched st now input).2 with
  | none =>
    rw [commitRearm_escaped st hcommits hresult]
    exact hcontrol
  | some persisted =>
    cases persisted with
    | false => exact absurd hresult hpersisted
    | true =>
      rw [commitRearm_persisted st hcommits hresult]
      exact hcontrol

/-- **No commit** lets the generation fall or prepares a rearm. -/
theorem Core.commitRearm_advances (c : Core) (requestId token : String) (now : ℚ)
    (input : GateInput) :
    c.control.generation ≤ (c.commitRearm st requestId token now input).1.control.generation ∧
      ((c.commitRearm st requestId token now input).1.control.preparedRearm =
          c.control.preparedRearm ∨
        (c.commitRearm st requestId token now input).1.control.preparedRearm = none) ∧
      (c.disk.store.isSome = true →
        (c.commitRearm st requestId token now input).1.disk.store.isSome = true) := by
  by_cases hcommits : c.Commits st requestId token now input
  · have hrest := restrains_persistDurableState st (c.unlatched st now input) input.storage
      "operator_rearm_committed" true
    have hgeneration : c.control.generation ≤ (c.unlatched st now input).control.generation := by
      rw [control_unlatched]
      exact Control.generation_le_bumpIfChanged st.control _
        { c.control with
          killLatched := false
          killReason := ""
          stage := .armed
          flatVerificationCount := 0
          lastVerifiedSnapshotSequence := 0
          preparedRearm := none }
    have hprepared : (c.unlatched st now input).control.preparedRearm = none := by
      rw [control_unlatched]
      exact Control.preparedRearm_bumpIfChanged _ _ _
    have hnone : (c.persistUnlatched st now input).1.control.preparedRearm = none := by
      rcases hrest.control.prepared with hkept | hnone
      · exact hkept.trans hprepared
      · exact hnone
    have hstore : c.disk.store.isSome = true →
        (c.persistUnlatched st now input).1.disk.store.isSome = true :=
      fun h => hrest.store ((restrains_checkRearmSafety st c now input).1.store h)
    cases hresult : (c.persistUnlatched st now input).2 with
    | none =>
      rw [commitRearm_escaped st hcommits hresult]
      exact ⟨le_trans hgeneration hrest.control.generation, Or.inr hnone, hstore⟩
    | some persisted =>
      cases persisted with
      | false =>
        have h := (restrains_commitRearm_failed st hcommits hresult).1
        exact ⟨h.control.generation, h.control.prepared, h.store⟩
      | true =>
        rw [commitRearm_persisted st hcommits hresult]
        exact ⟨le_trans hgeneration hrest.control.generation, Or.inr hnone, hstore⟩
  · have h := (restrains_commitRearm_of_not_commits st hcommits).1
    exact ⟨h.control.generation, h.control.prepared, h.store⟩

end Commit

/-! ## What a prepare does -/

section Prepare

variable (st : Settings)

/-- **What a prepare does.**  It is restrained and refused, or it prepares a rearm of the
generation and the proof binding it leaves. -/
theorem Core.prepareRearm_cases (c : Core) (requestId reason : String) (now : ℚ)
    (input : GateInput) (token : String) :
    (c.Restrains (c.prepareRearm st requestId reason now input token).1 ∧
      ∀ other, (c.prepareRearm st requestId reason now input token).2 ≠ some (.ok other)) ∨
    ((c.prepareRearm st requestId reason now input token).2 = some (.ok token) ∧
      (c.prepareRearm st requestId reason now input token).1.control.killLatched =
        c.control.killLatched ∧
      (c.prepareRearm st requestId reason now input token).1.control.generation =
        c.control.generation ∧
      (c.disk.store.isSome = true →
        (c.prepareRearm st requestId reason now input token).1.disk.store.isSome = true) ∧
      (c.prepareRearm st requestId reason now input token).1.control.preparedRearm = some {
        token := token
        reason := orText reason "operator_rearm"
        expiresAt := now + st.control.rearmPrepareTtlSec
        generation := c.control.generation
        proofBinding :=
          (c.prepareRearm st requestId reason now input token).1.rearmProofBinding }) := by
  unfold prepareRearm
  by_cases hrequest : requestId = ""
  · left
    simp only [hrequest, if_pos]
    refine ⟨restrains_of_control ?_, by simp [Control.prepareRearm]⟩
    unfold Control.prepareRearm
    rw [if_pos rfl]
    exact ⟨id, le_rfl, Or.inl rfl⟩
  · simp only [if_neg hrequest]
    obtain ⟨hchecked, hsame⟩ := restrains_checkRearmSafety st c now input
    cases hsafety : c.checkRearmSafety st now input with
    | mk checked safety =>
      rw [hsafety] at hchecked hsame
      dsimp only at hchecked hsame ⊢
      match safety with
      | none => exact Or.inl ⟨hchecked, by simp⟩
      | some (.error refusal) =>
        left
        unfold Control.prepareRearm
        simp only [if_neg hrequest]
        refine ⟨hchecked.trans (restrains_of_control ⟨id, le_rfl, Or.inr rfl⟩), ?_⟩
        intro other heq
        cases heq
      | some (.ok ()) =>
        right
        unfold Control.prepareRearm
        simp only [if_neg hrequest]
        rw [← hsame]
        exact ⟨trivial, rfl, rfl, hchecked.store, rfl⟩

end Prepare

theorem Reply.ofOption_prepared {result : Option (Except String String)} {token : String}
    (h : Reply.ofOption .prepared result = .prepared (.ok token)) :
    result = some (.ok token) := by
  cases result with
  | none => cases h
  | some value =>
    cases h
    rfl

/-! ## What is known of a prepared rearm -/

section Known

variable (st : Settings)

/-- What is known of the core a run leads to: the generation has only risen on the way, the
prepared rearm is that of the latest accepted prepare, and the state store is open. -/
structure Known (history : List Entry) (c : Core) : Prop where
  generation : ∀ x ∈ history, x.after.control.generation ≤ c.control.generation
  prepared : ∀ prepared, c.control.preparedRearm = some prepared →
    ∃ earlier e since preparedAt, history = earlier ++ e :: since ∧
      e.Prepares prepared.token preparedAt ∧
      (∀ x ∈ since, ¬∃ other at', x.Prepares other at') ∧
      prepared.expiresAt = preparedAt + st.control.rearmPrepareTtlSec ∧
      prepared.generation = e.after.control.generation ∧
      prepared.proofBinding = e.after.rearmProofBinding ∧
      ∀ x ∈ since, e.after.control.generation ≤ x.after.control.generation
  store : st.backend = .store → c.disk.store.isSome = true

variable {st} {c₀ c : Core} {history : List Entry}

/-- A call that prepares nothing keeps what is known. -/
theorem Known.extend (h : Known st history c) {e : Entry}
    (hgeneration : c.control.generation ≤ e.after.control.generation)
    (hprepared : e.after.control.preparedRearm = c.control.preparedRearm ∨
      e.after.control.preparedRearm = none)
    (hstore : c.disk.store.isSome = true → e.after.disk.store.isSome = true)
    (hnot : ¬∃ token at', e.Prepares token at') : Known st (history ++ [e]) e.after := by
  refine ⟨?_, ?_, fun hb => hstore (h.store hb)⟩
  · intro x hx
    rcases mem_append.mp hx with hx | hx
    · exact le_trans (h.generation x hx) hgeneration
    · rw [mem_singleton.mp hx]
  · intro prepared hsome
    rcases hprepared with hkept | hnone
    · rw [hkept] at hsome
      obtain ⟨earlier, p, since, preparedAt, rfl, hp, hsince, hexpires, hgen, hbinding, hle⟩ :=
        h.prepared prepared hsome
      refine ⟨earlier, p, since ++ [e], preparedAt,
        by simp, hp, ?_, hexpires, hgen, hbinding, ?_⟩
      · intro x hx
        rcases mem_append.mp hx with hx | hx
        · exact hsince x hx
        · rw [mem_singleton.mp hx]
          exact hnot
      · intro x hx
        rcases mem_append.mp hx with hx | hx
        · exact hle x hx
        · rw [mem_singleton.mp hx]
          refine le_trans (h.generation p (by simp)) hgeneration
    · rw [hnone] at hsome
      cases hsome

/-- **What loading leaves alone**: it prepares nothing, counts nothing and verifies nothing. -/
structure Control.Loads (c c' : Control) : Prop where
  prepared : c'.preparedRearm = c.preparedRearm
  count : c'.flatVerificationCount = c.flatVerificationCount
  stage : c'.stage = c.stage ∨ c'.stage ≠ .flatVerified

theorem Control.Loads.refl (c : Control) : c.Loads c := ⟨rfl, rfl, Or.inl rfl⟩

theorem Core.loads_loadPayload (c : Core) (payload : FilePayload) (sha256 : String) :
    c.control.Loads (c.loadPayload st payload sha256).1.control := by
  have hidentities : (c.loadIdentities st payload).1.control = c.control := by
    unfold loadIdentities
    dsimp only
    split
    · rfl
    · split <;> rfl
  have hsame : c.control.Loads (c.loadIdentities st payload).1.control := by
    rw [hidentities]
    exact Control.Loads.refl _
  unfold loadPayload
  split
  · exact Control.Loads.refl _
  split <;> rename_i heq <;> rw [heq] at hsame
  · exact hsame
  split
  · exact hsame
  dsimp only
  split
  · exact ⟨hsame.prepared, hsame.count, hsame.stage⟩
  split
  · exact ⟨hsame.prepared, hsame.count, hsame.stage⟩
  refine ⟨hsame.prepared, hsame.count, Or.inr ?_⟩
  dsimp only
  split
  · exact nofun
  · split <;> exact nofun

theorem Core.loads_loadFile (st : Settings) (c : Core) (input : StartInput) :
    c.control.Loads (c.loadFile st input).1.control := by
  unfold loadFile
  split
  · have hpersisted : c.control.Loads
        (c.persistFile st input.storage "state_initialized" true).1.control := by
      unfold persistFile
      split
      · exact Control.Loads.refl _
      dsimp only
      split
      · exact Control.Loads.refl _
      · rename_i replaced error hwrite
        cases replaced <;> exact ⟨rfl, rfl, Or.inr nofun⟩
      · exact Control.Loads.refl _
    split <;> rename_i heq <;> rw [heq] at hpersisted <;> exact hpersisted
  have hloaded : ∀ content : FileContent,
      c.control.Loads (c.loadContent st content).1.control := by
    intro content
    unfold loadContent
    split
    · exact Control.Loads.refl _
    · exact Control.Loads.refl _
    · exact Control.Loads.refl _
    · exact loads_loadPayload c _ _
  have hquarantined : ∀ (c : Core) (moved : Bool),
      (c.quarantineCorrupt moved).control = c.control := by
    intro c moved
    unfold quarantineCorrupt
    split
    · split <;> rfl
    · rfl
  dsimp only
  split <;> rename_i heq
  · have hcontrol := congrArg (fun r => r.1.control) heq
    exact hcontrol ▸ hloaded _
  rename_i loaded failure
  have hcontrol := congrArg (fun r => r.1.control) heq
  dsimp only at hcontrol
  have hfailed : c.control.Loads loaded.control := hcontrol ▸ hloaded _
  cases failure with
  | identity error => exact ⟨hfailed.prepared, hfailed.count, Or.inr nofun⟩
  | corrupt error =>
    have hmoved := hquarantined
      { loaded with stateLoadError := s!"state_load_failed:{(LoadFailure.corrupt error).error}" }
      input.moved
    exact ⟨(congrArg Control.preparedRearm hmoved).trans hfailed.prepared,
      (congrArg Control.flatVerificationCount hmoved).trans hfailed.count, Or.inr nofun⟩

/-- The start of a run: no rearm is prepared, and the state store is open. -/
theorem Core.start_eq_ok {disk : Disk} {input : StartInput}
    (h : Core.start st disk input = .ok c₀) :
    c₀.control.preparedRearm = none ∧ (st.backend = .store → c₀.disk.store.isSome = true) := by
  unfold start at h
  cases hbackend : st.backend with
  | file =>
    refine ⟨?_, fun hb => by cases hb⟩
    simp only [hbackend] at h
    have hnone := (loads_loadFile st (fresh st disk input.now) input).prepared
    split at h <;> rename_i heq <;> rw [heq] at hnone <;> cases h
    exact hnone
  | nowhere =>
    refine ⟨?_, fun hb => by cases hb⟩
    simp only [hbackend] at h
    cases h
    unfold loadNowhere
    split <;> rfl
  | store =>
    simp only [hbackend] at h
    obtain ⟨store, next, applied, -, -, happlied, rfl⟩ := openStateStore_eq_ok h
    obtain ⟨_, _, _, _, _, -, -, -, -, -, rfl⟩ := applyStateStorePayload_eq_ok happlied
    exact ⟨rfl, fun _ => rfl⟩

theorem known_start {disk : Disk} {input : Core.StartInput}
    (h : Core.start st disk input = .ok c₀) : Known st [] c₀ := by
  obtain ⟨hnone, hstore⟩ := Core.start_eq_ok h
  refine ⟨fun x hx => absurd hx not_mem_nil, fun prepared hsome => ?_, hstore⟩
  rw [hnone] at hsome
  cases hsome

/-- **One call keeps what is known.** -/
theorem Known.call (h : Known st history c) (call : Call) :
    Known st (history ++ [Entry.of st c call]) (Entry.of st c call).after := by
  have hother : c.Restrains (c.call st call).1 → (¬∃ token at',
      (Entry.of st c call).Prepares token at') →
      Known st (history ++ [Entry.of st c call]) (Entry.of st c call).after :=
    fun hrest hnot => h.extend hrest.control.generation hrest.control.prepared hrest.store hnot
  cases call with
  | prepareRearm requestId reason now input token =>
    rcases Core.prepareRearm_cases st c requestId reason now input token with
      ⟨hrest, hrefused⟩ | ⟨haccepted, -, hgeneration, hstore, hprepared⟩
    · refine hother hrest ?_
      rintro ⟨token', _, _, _, _, hcalled, hreply⟩
      cases hcalled
      exact hrefused token (Reply.ofOption_prepared hreply)
    · have hreply : (Entry.of st c (.prepareRearm requestId reason now input token)).Prepares
          token now := by
        refine ⟨requestId, reason, input, rfl, ?_⟩
        exact congrArg (Reply.ofOption Reply.prepared) haccepted
      refine ⟨?_, ?_, fun hb => hstore (h.store hb)⟩
      · intro x hx
        rcases mem_append.mp hx with hx | hx
        · exact le_trans (h.generation x hx) hgeneration.ge
        · rw [mem_singleton.mp hx]
      · intro prepared hsome
        have heq := hprepared.symm.trans hsome
        cases heq
        exact ⟨history, _, [], now, rfl, hreply, by simp, rfl, hgeneration.symm, rfl, by simp⟩
  | commitRearm requestId token now input =>
    obtain ⟨hgeneration, hprepared, hstore⟩ :=
      Core.commitRearm_advances st c requestId token now input
    refine h.extend hgeneration hprepared hstore ?_
    rintro ⟨_, _, _, _, _, hother, -⟩
    cases hother
  | _ =>
    refine hother (Core.restrains_call st id) ?_
    rintro ⟨_, _, _, _, _, hprepares, -⟩
    cases hprepares

end Known

/-! ## The latch -/

section Latch

variable {st : Settings} {c₀ c : Core} {history : List Entry}

theorem Runs.known {disk : Disk} {input : Core.StartInput}
    (hstart : Core.start st disk input = .ok c₀) (h : Runs st c₀ history c) :
    Known st history c :=
  h.invariant (known_start hstart) fun _ _ call hknown => hknown.call call

/-- Only a commit clears the latch. -/
theorem Entry.clears_cases {call : Call} (h : (Entry.of st c call).Clears) :
    ∃ requestId token now input, call = .commitRearm requestId token now input := by
  have hother : ¬c.Restrains (c.call st call).1 := by
    intro hrest
    have hset := hrest.control.latched h.1
    have hclear : (c.call st call).1.control.killLatched = false := h.2
    rw [hset] at hclear
    cases hclear
  cases call with
  | prepareRearm requestId reason now input token =>
    rcases Core.prepareRearm_cases st c requestId reason now input token with
      ⟨hrest, -⟩ | ⟨-, hsame, -⟩
    · exact absurd hrest hother
    have hset := hsame.trans h.1
    have hclear : (c.prepareRearm st requestId reason now input token).1.control.killLatched =
      false := h.2
    rw [hset] at hclear
    cases hclear
  | commitRearm requestId token now input => exact ⟨requestId, token, now, input, rfl⟩
  | _ => exact absurd (Core.restrains_call st id) hother

/-- **A call that clears the latch** and meets no exception is a rearm. -/
theorem rearmed_of_clears (hknown : Known st history c) {call : Call}
    (hclears : (Entry.of st c call).Clears) (hkept : ¬(Entry.of st c call).Escapes st) :
    Rearmed st history (Entry.of st c call) := by
  obtain ⟨requestId, token, now, input, rfl⟩ := Entry.clears_cases hclears
  have hlatched : c.control.killLatched = true := hclears.1
  have hcleared : (c.commitRearm st requestId token now input).1.control.killLatched = false :=
    hclears.2
  -- a latch that is cleared was cleared by a commit that got as far as persisting
  have hcommits : c.Commits st requestId token now input := by
    by_contra hcommits
    have hrest := (Core.restrains_commitRearm_of_not_commits st hcommits).1
    rw [hrest.control.latched hlatched] at hcleared
    cases hcleared
  have hnot : ¬((c.persistUnlatched st now input).2 = none ∨
      st.backend = .nowhere ∧ st.stateRequired = false) :=
    fun h => hkept ⟨requestId, token, now, input, rfl, hcommits, h⟩
  obtain ⟨-, haccepted, hstored⟩ :=
    Core.commitRearm_cleared st hknown.store hlatched hcleared hnot
  obtain ⟨-, prepared, hprepared, htoken, hintime, hgeneration, hbinding⟩ :=
    Control.validateRearmCommit_ok hcommits.valid
  obtain ⟨earlier, e, since, preparedAt, hhistory, hprepares, hlatest, hexpires, hgen, hproof,
    hle⟩ := hknown.prepared prepared hprepared
  rw [htoken] at hprepares
  rw [hexpires] at hintime
  refine ⟨requestId, token, now, input, rfl, congrArg (Reply.ofOption Reply.committed) haccepted,
    ⟨earlier, e, since, preparedAt, hhistory, hprepares, hlatest, hintime, ?_, ?_, ?_⟩,
    hcommits.safe, hstored⟩
  · -- the generation only rises, and it is the prepared one again at the commit
    intro x hx
    refine le_antisymm ?_ (hle x hx)
    have hx' : x ∈ history := by
      rw [hhistory]
      exact mem_append_right _ (mem_cons_of_mem _ hx)
    calc x.after.control.generation ≤ c.control.generation := hknown.generation x hx'
      _ = prepared.generation := hgeneration.symm
      _ = e.after.control.generation := hgen
  · exact hgeneration.symm.trans hgen
  · exact hbinding.symm.trans hproof

/-- A commit that meets an exception clears the latch and is no rearm. -/
theorem not_rearmed_of_escapes (earlier : List Entry) {call : Call}
    (hescapes : (Entry.of st c call).Escapes st) :
    (Entry.of st c call).Clears ∧ ¬Rearmed st earlier (Entry.of st c call) := by
  obtain ⟨requestId, token, now, input, hcall, hcommits, hpersisted⟩ := hescapes
  obtain rfl : call = .commitRearm requestId token now input := hcall
  change c.Commits st requestId token now input at hcommits
  change (c.persistUnlatched st now input).2 = none ∨ _ at hpersisted
  have hnot : (c.persistUnlatched st now input).2 ≠ some false := by
    rcases hpersisted with hnone | ⟨hbackend, hrequired⟩
    · rw [hnone]
      simp
    unfold Core.persistUnlatched Core.persistDurableState
    simp only [hbackend]
    unfold Core.persistNowhere
    rw [if_neg (by simp [hrequired])]
    simp
  refine ⟨⟨Core.latched_of_safe st hcommits.safe,
    Core.commitRearm_unlatches st hcommits hnot⟩, ?_⟩
  rintro ⟨_, _, _, _, hsame, hreply, -, -, hstored⟩
  cases hsame
  rcases hpersisted with hnone | ⟨hbackend, -⟩
  · have hraised := Core.commitRearm_escaped st hcommits hnone
    have hreply' : Reply.ofOption Reply.committed
        (c.commitRearm st requestId token now input).2 =
      .committed (.ok ()) := hreply
    rw [hraised] at hreply'
    cases hreply'
  · unfold Core.StoredUnlatched at hstored
    simp only [hbackend] at hstored

/-- **The kill latch.**  In a run of the sidecar every call that clears the latch is a rearm,
exactly when no commit of the run meets an exception from persistence or has nowhere to
persist. -/
theorem latch_cleared_iff {disk : Disk} {input : Core.StartInput}
    (hstart : Core.start st disk input = .ok c₀) (hruns : Runs st c₀ history c) :
    (∀ earlier e later, history = earlier ++ e :: later → e.Clears → Rearmed st earlier e) ↔
      ∀ e ∈ history, ¬e.Escapes st := by
  constructor
  · intro h e he hescapes
    obtain ⟨earlier, later, heq⟩ := append_of_mem he
    obtain ⟨-, hof⟩ := hruns.cut heq
    rw [hof] at hescapes
    obtain ⟨hclears, hnot⟩ := not_rearmed_of_escapes earlier hescapes
    rw [← hof] at hclears hnot
    exact hnot (h earlier e later heq hclears)
  · intro h earlier e later heq hclears
    obtain ⟨hbefore, hof⟩ := hruns.cut heq
    have hkept := h e (by rw [heq]; simp)
    rw [hof] at hclears hkept ⊢
    exact rearmed_of_clears (hbefore.known hstart) hclears hkept

end Latch

/-! ## Runs with a commit -/

section Sample

/-- Settings with a state store. -/
def storeSettings : Settings := Settings.plain .store 1 Nat.one_pos

/-- A latched sidecar with a state store. -/
def latchedCore : Core :=
  Core.started storeSettings (.plain (.plain true .flattening)) { now := 100 }

/-- A flat account is verified, and the sidecar is rearmed; `storage` is the disk of the
commit. -/
def rearmCalls (storage : Storage) : List Call :=
  [.step 101 { service := { reading := .quiet 0 0 } },
   .prepareRearm "1" "operator" 102 { service := { reading := .quiet 0 0 } } "token",
   .commitRearm "2" "token" 103 { service := { reading := .quiet 0 0 }, storage := storage }]

/-- A disk whose anchor cannot be written when the rearm is persisted. -/
def anchorFails : Storage where
  writeStore event _ := if event = "operator_rearm_committed" then .anchorFailed false else .done

theorem start_latchedCore :
    Core.start storeSettings (.plain (.plain true .flattening)) { now := 100 } =
      .ok latchedCore :=
  Core.start_eq_started (by decide +kernel)

/-- A rearm on a disk that works: the start, the run, and what the theorem says of it. -/
theorem latch_cleared_rearm :
    (∀ earlier e later, latchedCore.history storeSettings (rearmCalls {}) =
        earlier ++ e :: later → e.Clears → Rearmed storeSettings earlier e) ↔
      ∀ e ∈ latchedCore.history storeSettings (rearmCalls {}), ¬e.Escapes storeSettings :=
  latch_cleared_iff start_latchedCore (Runs.nil.of_calls (rearmCalls {}))

/-- **The latch is lost** when the anchor cannot be written: the commit raises, and clears it. -/
theorem anchorFails_not_rearmed :
    ¬∀ earlier e later, latchedCore.history storeSettings (rearmCalls anchorFails) =
      earlier ++ e :: later → e.Clears → Rearmed storeSettings earlier e := by
  intro h
  obtain ⟨_, _, _, _, -, hreply, -⟩ :=
    h [_, _] _ [] rfl ⟨by decide +kernel, by decide +kernel⟩
  have hraised := congrArg Reply.isRaised hreply
  revert hraised
  decide +kernel

end Sample

end ChronosHFT.Sidecar
