import ChronosHFT.Oms.SubmissionTransaction

/-!
# Every lease is released, once

Whatever calls interleave, the `finalize` that closes the transaction takes all leases with it,
and nobody else releases any (`Sound`, `Call.Holds`): the leases it has released and those it
still holds are, together and in order, the registered ones in reverse.  It goes on with the next
lease whatever a release raises, so each of its turns releases one, and after the last of them it
holds none (`releases_all`). -/

namespace ChronosHFT.Submission

open List Interleaving

variable {ρ γ ε : Type}

/-- The phases, in their order. -/
def phaseOrder : List SubmissionState :=
  [.created, .preparedDurable, .permitAcquired, .dispatched, .settledDurable]

/-- **The history** of a transaction: some first phases, and `TERMINAL` after them once it is
finalized. -/
structure Phases (tx : Transaction ρ γ) : Prop where
  history : ∃ k, 1 ≤ k ∧ tx.history = phaseOrder.take k ++ if tx.finalized then [.terminal]
    else []
  last : tx.history.getLast? = some tx.state
  terminal : tx.state = .terminal ↔ tx.finalized = true

/-- The call that closed the transaction. -/
def Shared.closer (s : Shared ρ γ) : Option ℕ := s.entered.head?.map Prod.fst

/-- The leases in the order of their releases. -/
def Shared.releasedLeases (s : Shared ρ γ) : List (Lease ρ) := s.released.map Prod.snd

/-- **What holds of the transaction**, after any number of calls. -/
structure Sound (n : ℕ) (s : Shared ρ γ) : Prop where
  phases : Phases s.transaction
  distinct : (s.registered.map Lease.name).Nodup
  outcome : s.transaction.terminalOutcome = s.entered.head?.map Prod.snd
  finalized : s.transaction.finalized = s.entered.head?.isSome
  opened : s.entered = [] → s.released = [] ∧ s.transaction.leases = s.registered
  closer : ∀ i, s.closer = some i → i < n ∧ ∀ r ∈ s.released, r.1 = i

/-- The leases that a call still has to release, if it is past the point where others could be
registered. -/
def Call.pending : Call ρ γ ε → Option (List (Lease ρ))
  | closeGate _ _ _ leases => some leases
  | releasing leases _ => some leases
  | returned => some []
  | raised _ => some []
  | _ => none

/-- The call has closed the transaction and is not done. -/
def Call.Cleaning : Call ρ γ ε → Prop
  | closeGate _ _ _ _ => True
  | releasing _ _ => True
  | _ => False

/-- No method advances to the end. -/
def Call.Regular : Call ρ γ ε → Prop
  | advance target => target ≠ .terminal
  | advancePassed target => target ≠ .terminal
  | _ => True

/-- **What holds of a call**: nobody but the closer cleans up, and what the closer holds is what
is left. -/
structure Call.Holds (s : Shared ρ γ) (i : ℕ) (call : Call ρ γ ε) : Prop where
  closer : s.closer = some i → ∃ leases, call.pending = some leases
    ∧ s.releasedLeases ++ leases = s.registered.reverse
  cleaning : call.Cleaning → s.closer = some i
  regular : call.Regular

/-! ## The critical sections -/

section Critical

variable {tx tx' : Transaction ρ γ}

theorem bindGateCleanup_ok {cleanup : γ}
    (h : tx.bindGateCleanup cleanup = (.ok tx' : Except (Failure ε) _)) :
    tx.finalized = false ∧ tx' = { tx with gateCleanup := some cleanup } := by
  unfold Transaction.bindGateCleanup at h
  split at h
  · cases h
  rename_i hopen
  split at h
  · cases h
  · cases h
    exact ⟨Bool.eq_false_iff.mpr hopen, rfl⟩

theorem advance_ok {target : SubmissionState}
    (h : tx.advance target = (.ok tx' : Except (Failure ε) _)) :
    tx.finalized = false ∧ tx.state.nextState = some target
      ∧ tx' = { tx with state := target, history := tx.history ++ [target] } := by
  unfold Transaction.advance at h
  split at h
  · cases h
  rename_i hopen
  split at h
  · cases h
  · rename_i hnext
    cases h
    exact ⟨Bool.eq_false_iff.mpr hopen, not_not.mp hnext, rfl⟩

theorem permitAcquired_ok {permitEpoch : ℤ} {release : ρ}
    (h : tx.permitAcquired permitEpoch release = (.ok tx' : Except (Failure ε) _)) :
    tx.state = .preparedDurable ∧ (∀ lease ∈ tx.leases, lease.name ≠ Transaction.permitName)
      ∧ tx' = { tx with permitEpoch := some permitEpoch
                        leases := tx.leases ++ [{ name := Transaction.permitName,
                                                  release := release }]
                        state := .permitAcquired
                        history := tx.history ++ [.permitAcquired] } := by
  unfold Transaction.permitAcquired at h
  split at h
  · cases h
  rename_i hstate
  split at h
  · cases h
  rename_i hany
  cases h
  refine ⟨not_not.mp hstate, fun lease hmem hname => hany ?_, rfl⟩
  exact any_eq_true.mpr ⟨lease, hmem, decide_eq_true hname⟩

theorem acquireLease_ok {name : String} {release : ρ}
    (h : tx.acquireLease name release = (.ok tx' : Except (Failure ε) _)) :
    tx.finalized = false ∧ (∀ lease ∈ tx.leases, lease.name ≠ name)
      ∧ tx' = { tx with leases := tx.leases ++ [{ name := name, release := release }] } := by
  unfold Transaction.acquireLease at h
  split at h
  · cases h
  rename_i hopen
  split at h
  · cases h
  rename_i hany
  cases h
  refine ⟨Bool.eq_false_iff.mpr hopen, fun lease hmem hname => hany ?_, rfl⟩
  exact any_eq_true.mpr ⟨lease, hmem, decide_eq_true hname⟩

/-- The next phase extends the history. -/
theorem Phases.next (h : Phases tx) {target : SubmissionState}
    (hnext : tx.state.nextState = some target)
    (htarget : target ≠ .terminal) (hopen : tx.finalized = false) (hstate : tx'.state = target)
    (hhistory : tx'.history = tx.history ++ [target])
    (hfinalized : tx'.finalized = tx.finalized) : Phases tx' := by
  obtain ⟨k, hk, hchanges⟩ := h.history
  rw [hopen] at hchanges
  simp only [Bool.false_eq_true, if_false, append_nil] at hchanges
  have hlast := h.last
  rw [hchanges] at hlast
  have hphases : phaseOrder.take (k + 1) = phaseOrder.take k ++ [target] := by
    -- the history has at most four phases, or the next one would be the terminal state
    match k, hk with
    | 1, _ | 2, _ | 3, _ | 4, _ =>
      simp only [phaseOrder, List.take, List.getLast?_cons_cons, List.getLast?_singleton,
        Option.some.injEq] at hlast
      rw [← hlast] at hnext
      cases hnext
      rfl
    | k + 5, _ =>
      simp only [phaseOrder, List.take, take_nil, List.getLast?_cons_cons,
        List.getLast?_singleton,
        Option.some.injEq] at hlast
      rw [← hlast] at hnext
      cases hnext
      exact absurd rfl htarget
  refine ⟨⟨k + 1, by omega, ?_⟩, ?_, ?_⟩
  · rw [hhistory, hfinalized, hopen, hchanges, hphases, if_neg Bool.false_ne_true, append_nil]
  · rw [hhistory, hstate, List.getLast?_concat]
  · rw [hstate, hfinalized, hopen]
    exact iff_of_false htarget Bool.false_ne_true

theorem Phases.closed (h : Phases tx) (hopen : tx.finalized = false)
    (outcome : SubmissionTerminalOutcome) :
    Phases (tx.closed outcome) := by
  obtain ⟨k, hk, hchanges⟩ := h.history
  rw [hopen] at hchanges
  simp only [Bool.false_eq_true, if_false, append_nil] at hchanges
  refine ⟨⟨k, hk, ?_⟩, List.getLast?_concat, iff_of_true rfl rfl⟩
  unfold Transaction.closed
  rw [hchanges]
  rfl

theorem Phases.of_eq (h : Phases tx) (hhistory : tx'.history = tx.history)
    (hstate : tx'.state = tx.state)
    (hfinalized : tx'.finalized = tx.finalized) : Phases tx' := by
  refine ⟨?_, ?_, ?_⟩
  · rw [hhistory, hfinalized]
    exact h.history
  · rw [hhistory, hstate]
    exact h.last
  · rw [hstate, hfinalized]
    exact h.terminal

end Critical

/-! ## A turn -/

section Turn

variable {n i : ℕ} {s s' : Shared ρ γ} {call call' : Call ρ γ ε} {raises : Option ε}

theorem Sound.entered_eq_nil (h : Sound n s) (hopen : s.transaction.finalized = false) :
    s.entered = [] := by
  have hnone := h.finalized
  rw [hopen] at hnone
  cases hentered : s.entered with
  | nil => rfl
  | cons first rest =>
    rw [hentered] at hnone
    cases hnone

theorem Sound.closer_eq_none (h : Sound n s) (hopen : s.transaction.finalized = false) :
    s.closer = none := by
  unfold Shared.closer
  rw [h.entered_eq_nil hopen]
  rfl

/-- A call that has nothing pending is not the closer. -/
theorem Call.Holds.closer_ne (h : call.Holds s i) (hpending : call.pending = none) :
    s.closer ≠ some i := by
  intro hcloser
  obtain ⟨leases, hsome, _⟩ := h.closer hcloser
  rw [hpending] at hsome
  cases hsome

/-- A call that is done and not the closer. -/
theorem Call.Holds.of_not_cleaning (hcleaning : ¬call.Cleaning) (hregular : call.Regular)
    (hcloser : s.closer ≠ some i) : call.Holds s i :=
  ⟨fun h => absurd h hcloser, fun h => absurd h hcleaning, hregular⟩

/-- What holds of a call rests on the closer and the leases only. -/
theorem Call.Holds.of_eq (h : call.Holds s i) (hcloser : s'.closer = s.closer)
    (hleases : s.closer = some i → s'.released = s.released ∧ s'.registered = s.registered) :
    call.Holds s' i := by
  refine ⟨fun hi => ?_, fun hcleaning => hcloser ▸ h.cleaning hcleaning, h.regular⟩
  rw [hcloser] at hi
  obtain ⟨hreleased, hregistered⟩ := hleases hi
  unfold Shared.releasedLeases
  rw [hreleased, hregistered]
  exact h.closer hi

/-- **A turn keeps everything**: what holds of the transaction, of its own call, and of every
other one. -/
structure Kept (n i : ℕ) (s : Shared ρ γ) (result : Call ρ γ ε × Shared ρ γ) : Prop where
  sound : Sound n result.2
  own : result.1.Holds result.2 i
  others : ∀ j (other : Call ρ γ ε), j ≠ i → other.Holds s j → other.Holds result.2 j

/-- Where the turn leaves the transaction as it was. -/
theorem Kept.of_unchanged (h : Sound n s) (hown : call'.Holds s i) : Kept n i s (call', s) :=
  ⟨h, hown, fun _ _ _ hother => hother⟩

variable {leases : List (Lease ρ)}

/-- A critical section before the end: it may register leases under names that are new. -/
theorem Kept.of_critical (h : Sound n s) (hcall : call.Holds s i)
    (hpending : call.pending = none)
    {result : Except (Failure ε) (Transaction ρ γ)}
    (hok : ∀ tx, result = .ok tx → s.transaction.finalized = false ∧
      tx.finalized = s.transaction.finalized
      ∧ tx.terminalOutcome = s.transaction.terminalOutcome ∧
        tx.leases = s.transaction.leases ++ leases
      ∧ Phases tx ∧ ((s.transaction.leases ++ leases).map Lease.name).Nodup) :
    Kept n i s (Call.critical s result leases) := by
  have hcloser := hcall.closer_ne hpending
  unfold Call.critical
  cases hresult : result with
  | error failure => exact .of_unchanged h (.of_not_cleaning id trivial hcloser)
  | ok tx =>
    obtain ⟨hopen, hfinalized, houtcome, hleases, hphases, hnodup⟩ := hok tx hresult
    have hentered := h.entered_eq_nil hopen
    obtain ⟨hreleased, hregistered⟩ := h.opened hentered
    refine ⟨⟨hphases, ?_, houtcome.trans h.outcome, hfinalized.trans h.finalized,
      fun _ => ⟨hreleased, ?_⟩,
      h.closer⟩, .of_not_cleaning id trivial hcloser,
        fun j other _ hother => hother.of_eq rfl fun hj => ?_⟩
    · rw [hregistered] at hnodup
      exact hnodup
    · rw [hleases, hregistered]
    · rw [h.closer_eq_none hopen] at hj
      cases hj

/-- The critical section of `finalize`. -/
theorem Kept.of_close (h : Sound n s) (hi : i < n) {args : FinalizeArguments ε}
    (hcall : (Call.finalizePassed args : Call ρ γ ε).Holds s i) :
    Kept n i s (Call.close i args s) := by
  have hcloser := hcall.closer_ne rfl
  unfold Call.close
  simp only
  by_cases hfinalized : s.transaction.finalized = true
  · -- too late: whatever the arguments are, somebody else has entered before
    rw [if_pos hfinalized]
    cases hentered : s.entered with
    | nil =>
      have hsome := h.finalized
      rw [hfinalized, hentered] at hsome
      cases hsome
    | cons first rest =>
      by_cases htogether : args.Together
      · rw [if_pos htogether]
        have hhead : ((first :: rest) ++ [(i, args.outcome)]).head? = s.entered.head? := by
          rw [hentered]
          rfl
        have hsame : ∀ entered, Shared.closer { s with entered := entered } =
          entered.head?.map Prod.fst :=
          fun _ => rfl
        refine ⟨⟨h.phases, h.distinct, ?_, ?_, nofun, ?_⟩, ?_,
          fun j other _ hother => hother.of_eq ?_
          fun _ => ⟨rfl, rfl⟩⟩
        · simp only [hhead]
          exact h.outcome
        · simp only [hhead]
          exact h.finalized
        · intro j hj
          rw [hsame, hhead] at hj
          exact h.closer j hj
        · refine .of_not_cleaning id trivial ?_
          rw [hsame, hhead]
          exact hcloser
        · rw [hsame, hhead]
          rfl
      · rw [if_neg htogether]
        exact .of_unchanged h (.of_not_cleaning id trivial hcloser)
  · have hopen := Bool.eq_false_iff.mpr hfinalized
    have hentered := h.entered_eq_nil hopen
    obtain ⟨hreleased, hregistered⟩ := h.opened hentered
    rw [if_neg hfinalized]
    by_cases htogether : args.Together
    · rw [if_neg (not_not.mpr htogether), if_pos htogether, hentered]
      refine ⟨⟨h.phases.closed hopen _, h.distinct, rfl, rfl, nofun, fun j hj => ?_⟩,
        ⟨fun _ => ?_, fun _ => rfl, ?_⟩,
        fun j other hne hother => ⟨fun hj => ?_, fun hcleaning => ?_, hother.regular⟩⟩
      · cases hj
        refine ⟨hi, fun r hr => ?_⟩
        rw [hreleased] at hr
        cases hr
      · refine ⟨s.transaction.leases.reverse, ?_, ?_⟩
        · split
          · rfl
          · rfl
        · unfold Shared.releasedLeases
          simp only
          rw [hreleased, hregistered]
          rfl
      · split
        · trivial
        · trivial
      · cases hj
        exact absurd rfl hne
      · have := hother.cleaning hcleaning
        rw [h.closer_eq_none hopen] at this
        cases this
    · rw [if_pos htogether, if_neg htogether]
      exact .of_unchanged h (.of_not_cleaning id trivial hcloser)

/-- The turn that releases a lease. -/
theorem Kept.of_release (h : Sound n s) {lease : Lease ρ} {errors : List ε}
    (hcall : (Call.releasing (lease :: leases) errors : Call ρ γ ε).Holds s i) :
    Kept n i s (.releasing leases (errors ++ raises.toList),
      { s with released := s.released ++ [(i, lease)] }) := by
  have hcloser := hcall.cleaning trivial
  obtain ⟨pending, hpending, hleases⟩ := hcall.closer hcloser
  cases hpending
  refine ⟨⟨h.phases, h.distinct, h.outcome, h.finalized, fun hentered => ?_, fun j hj => ?_⟩,
    ⟨fun _ => ⟨leases, rfl, ?_⟩, fun _ => hcloser, trivial⟩, fun j other hne hother => ?_⟩
  · unfold Shared.closer at hcloser
    rw [hentered] at hcloser
    cases hcloser
  · have hij : i = j := Option.some.inj (hcloser.symm.trans hj)
    refine ⟨(h.closer j hj).1, fun r hr => ?_⟩
    rcases mem_append.mp hr with hr | hr
    · exact (h.closer j hj).2 r hr
    · rw [mem_singleton.mp hr, ← hij]
  · unfold Shared.releasedLeases at hleases ⊢
    rw [map_append, append_assoc]
    exact hleases
  · refine hother.of_eq rfl fun hj => ?_
    exact absurd (Option.some.inj (hj.symm.trans hcloser)) hne

theorem nodup_names_concat {lease : Lease ρ} (h : (leases.map Lease.name).Nodup)
    (hnew : ∀ other ∈ leases, other.name ≠ lease.name) :
    ((leases ++ [lease]).map Lease.name).Nodup := by
  rw [map_append, map_singleton, nodup_append_comm, singleton_append, nodup_cons]
  refine ⟨fun hmem => ?_, h⟩
  obtain ⟨other, hother, hname⟩ := mem_map.mp hmem
  exact hnew other hother hname

/-- **The step lemma.** -/
theorem step_kept (h : Sound n s) (hi : i < n) (hcall : call.Holds s i)
    (hstep : call.step i raises s = some (call', s')) : Kept n i s (call', s') := by
  have hnames : s.transaction.finalized = false →
      (s.transaction.leases.map Lease.name).Nodup := fun hopen => by
    rw [(h.opened (h.entered_eq_nil hopen)).2]
    exact h.distinct
  cases call with
  | bindGateCleanup cleanup =>
    rw [← Option.some.inj hstep]
    refine .of_critical h hcall rfl fun tx hok => ?_
    obtain ⟨hopen, rfl⟩ := bindGateCleanup_ok hok
    rw [append_nil]
    exact ⟨hopen, rfl, rfl, rfl, h.phases.of_eq rfl rfl rfl, hnames hopen⟩
  | advance target =>
    have hcloser := hcall.closer_ne rfl
    cases raises with
    | some error =>
      cases hstep
      exact .of_unchanged h (.of_not_cleaning id trivial hcloser)
    | none =>
      cases hstep
      exact .of_unchanged h (.of_not_cleaning id hcall.regular hcloser)
  | advancePassed target =>
    rw [← Option.some.inj hstep]
    refine .of_critical h hcall rfl fun tx hok => ?_
    obtain ⟨hopen, hnext, rfl⟩ := advance_ok hok
    rw [append_nil]
    exact ⟨hopen, rfl, rfl, rfl, h.phases.next hnext hcall.regular hopen rfl rfl rfl,
      hnames hopen⟩
  | permitAcquired permitEpoch release =>
    have hcloser := hcall.closer_ne rfl
    cases permitEpoch with
    | none =>
      cases hstep
      exact .of_unchanged h (.of_not_cleaning id trivial hcloser)
    | some permitEpoch =>
      cases raises with
      | some error =>
        cases hstep
        exact .of_unchanged h (.of_not_cleaning id trivial hcloser)
      | none =>
        cases hstep
        exact .of_unchanged h (.of_not_cleaning id trivial hcloser)
  | permitPassed permitEpoch release =>
    rw [← Option.some.inj hstep]
    refine .of_critical h hcall rfl fun tx hok => ?_
    obtain ⟨hstate, hnew, rfl⟩ := permitAcquired_ok hok
    have hopen : s.transaction.finalized = false := by
      refine Bool.eq_false_iff.mpr fun hfinalized => ?_
      rw [h.phases.terminal.mpr hfinalized] at hstate
      cases hstate
    have hnext : s.transaction.state.nextState = some .permitAcquired := by
      rw [hstate]
      rfl
    exact ⟨hopen, rfl, rfl, rfl, h.phases.next hnext nofun hopen rfl rfl rfl,
      nodup_names_concat (hnames hopen) hnew⟩
  | acquireLease name release =>
    have hcloser := hcall.closer_ne rfl
    simp only [Call.step] at hstep
    split at hstep
    · cases hstep
      exact .of_unchanged h (.of_not_cleaning id trivial hcloser)
    rw [← Option.some.inj hstep]
    refine .of_critical h hcall rfl fun tx hok => ?_
    obtain ⟨hopen, hnew, rfl⟩ := acquireLease_ok hok
    exact ⟨hopen, rfl, rfl, rfl, h.phases.of_eq rfl rfl rfl,
      nodup_names_concat (hnames hopen) hnew⟩
  | finalize args =>
    have hcloser := hcall.closer_ne rfl
    cases hstep
    refine .of_unchanged h ?_
    split
    · exact .of_not_cleaning id trivial hcloser
    · exact .of_not_cleaning id trivial hcloser
  | finalizeInject args =>
    have hcloser := hcall.closer_ne rfl
    cases raises with
    | some error =>
      cases hstep
      exact .of_unchanged h (.of_not_cleaning id trivial hcloser)
    | none =>
      cases hstep
      exact .of_unchanged h (.of_not_cleaning id trivial hcloser)
  | finalizePassed args =>
    rw [← Option.some.inj hstep]
    exact .of_close h hi hcall
  | closeGate cleanup context failure leases =>
    cases hstep
    exact .of_unchanged h ⟨hcall.closer, hcall.cleaning, trivial⟩
  | releasing leases errors =>
    cases leases with
    | nil =>
      cases hstep
      refine .of_unchanged h ?_
      split
      · exact ⟨hcall.closer, nofun, trivial⟩
      · exact ⟨hcall.closer, nofun, trivial⟩
    | cons lease leases =>
      cases hstep
      exact .of_release h hcall
  | returned => cases hstep
  | raised failure => cases hstep

/-- **After the end** nothing changes in the transaction, and nothing is registered. -/
theorem step_finalized (h : Sound n s) (hfinalized : s.transaction.finalized = true)
    (hstep : call.step i raises s = some (call', s')) :
    s'.transaction = s.transaction ∧ s'.registered = s.registered := by
  have hcritical : ∀ (result : Except (Failure ε) (Transaction ρ γ)) leases,
      (∀ tx, result = .ok tx → s.transaction.finalized = false) →
        (Call.critical s result leases).2.transaction = s.transaction
          ∧ (Call.critical s result leases).2.registered = s.registered := by
    intro result leases hok
    unfold Call.critical
    cases result with
    | error failure => exact ⟨rfl, rfl⟩
    | ok tx =>
      have hopen := hok tx rfl
      rw [hfinalized] at hopen
      cases hopen
  cases call with
  | bindGateCleanup cleanup =>
    have h' := hcritical (s.transaction.bindGateCleanup cleanup) [] fun tx hok =>
      (bindGateCleanup_ok hok).1
    rwa [show Call.critical s _ _ = (call', s') from Option.some.inj hstep] at h'
  | advance target =>
    cases raises with
    | some error =>
      cases hstep
      exact ⟨rfl, rfl⟩
    | none =>
      cases hstep
      exact ⟨rfl, rfl⟩
  | advancePassed target =>
    have h' := hcritical (s.transaction.advance target) [] fun tx hok => (advance_ok hok).1
    rwa [show Call.critical s _ _ = (call', s') from Option.some.inj hstep] at h'
  | permitAcquired permitEpoch release =>
    cases permitEpoch with
    | none =>
      cases hstep
      exact ⟨rfl, rfl⟩
    | some permitEpoch =>
      cases raises with
      | some error =>
        cases hstep
        exact ⟨rfl, rfl⟩
      | none =>
        cases hstep
        exact ⟨rfl, rfl⟩
  | permitPassed permitEpoch release =>
    have h' := hcritical (s.transaction.permitAcquired permitEpoch release)
      [{ name := Transaction.permitName, release := release }] fun tx hok => by
        have hstate := (permitAcquired_ok hok).1
        rw [h.phases.terminal.mpr hfinalized] at hstate
        cases hstate
    rwa [show Call.critical s _ _ = (call', s') from Option.some.inj hstep] at h'
  | acquireLease name release =>
    simp only [Call.step] at hstep
    split at hstep
    · cases hstep
      exact ⟨rfl, rfl⟩
    · have h' := hcritical (s.transaction.acquireLease (Text.strip name) release)
        [{ name := Text.strip name, release := release }] fun tx hok => (acquireLease_ok hok).1
      rwa [show Call.critical s _ _ = (call', s') from Option.some.inj hstep] at h'
  | finalize args =>
    cases hstep
    exact ⟨rfl, rfl⟩
  | finalizeInject args =>
    cases raises with
    | some error =>
      cases hstep
      exact ⟨rfl, rfl⟩
    | none =>
      cases hstep
      exact ⟨rfl, rfl⟩
  | finalizePassed args =>
    have hclose : (Call.close i args s : Call ρ γ ε × Shared ρ γ) = (call', s') :=
      Option.some.inj hstep
    unfold Call.close at hclose
    simp only [hfinalized, if_true] at hclose
    cases hclose
    split
    · exact ⟨rfl, rfl⟩
    · exact ⟨rfl, rfl⟩
  | closeGate cleanup context failure leases =>
    cases hstep
    exact ⟨rfl, rfl⟩
  | releasing leases errors =>
    cases leases with
    | nil =>
      cases hstep
      exact ⟨rfl, rfl⟩
    | cons lease leases =>
      cases hstep
      exact ⟨rfl, rfl⟩
  | returned => cases hstep
  | raised failure => cases hstep

end Turn

/-! ## Runs -/

section Runs

/-- Any call may be made, and any call may take its turn. -/
def step : World (Shared ρ γ) (Call ρ γ ε) → Action (Call ρ γ ε) (Option ε) →
    Option (World (Shared ρ γ) (Call ρ γ ε)) :=
  World.step Call.begins Call.step

/-- A new transaction, and no calls. -/
def start : World (Shared ρ γ) (Call ρ γ ε) :=
  { shared := { transaction := .new, registered := [], released := [], entered := [] },
    calls := [] }

variable {w w' : World (Shared ρ γ) (Call ρ γ ε)}
  {actions : List (Action (Call ρ γ ε) (Option ε))}

variable {i n : ℕ} {call call' : Call ρ γ ε} {leases : List (Lease ρ)}

theorem Sound.mono {s : Shared ρ γ} (h : Sound n s) : Sound (n + 1) s :=
  ⟨h.phases, h.distinct, h.outcome, h.finalized, h.opened,
    fun i hi => ⟨(h.closer i hi).1.trans (Nat.lt_succ_self n),
    (h.closer i hi).2⟩⟩

/-- A call that is made is not the closer yet. -/
theorem Sound.holds_of_begins {s : Shared ρ γ} (h : Sound n s)
    (hbegins : call.begins = true) : call.Holds s n := by
  have hcloser : s.closer ≠ some n := fun hn => absurd (h.closer n hn).1 (lt_irrefl n)
  cases call with
  | advance target =>
    refine .of_not_cleaning id ?_ hcloser
    rcases of_decide_eq_true hbegins with rfl | rfl | rfl
    · exact nofun
    · exact nofun
    · exact nofun
  | bindGateCleanup _ => exact .of_not_cleaning id trivial hcloser
  | permitAcquired _ _ => exact .of_not_cleaning id trivial hcloser
  | acquireLease _ _ => exact .of_not_cleaning id trivial hcloser
  | finalize _ => exact .of_not_cleaning id trivial hcloser
  | advancePassed _ => cases hbegins
  | permitPassed _ _ => cases hbegins
  | finalizeInject _ => cases hbegins
  | finalizePassed _ => cases hbegins
  | closeGate _ _ _ _ => cases hbegins
  | releasing _ _ => cases hbegins
  | returned => cases hbegins
  | raised _ => cases hbegins

/-- **The run lemma**: what holds of the transaction and of every call, whatever calls
interleave. -/
theorem run_sound (hexec : Run.exec step start actions = some w) :
    Sound w.calls.length w.shared
      ∧ ∀ i (call : Call ρ γ ε), w.calls[i]? = some call → call.Holds w.shared i := by
  have hstart : Sound 0 (start : World (Shared ρ γ) (Call ρ γ ε)).shared :=
    ⟨⟨⟨1, le_refl 1, rfl⟩, rfl, iff_of_false nofun nofun⟩, nodup_nil, rfl, rfl,
      fun _ => ⟨rfl, rfl⟩, nofun⟩
  exact World.run_invariant (w := start) (I := Sound) (L := fun _ => Call.Holds)
    (fun n s call hsound hbegins => ⟨hsound.mono, hsound.holds_of_begins hbegins⟩)
    (fun _ _ _ _ _ hholds => hholds)
    (fun n s i call choice call' s' hsound hi hholds hstep =>
      let hkept := step_kept hsound hi hholds hstep
      ⟨hkept.sound, hkept.own, hkept.others⟩)
    hstart (fun i call hcall => nomatch hcall) hexec

/-- What was registered and how it ended stays, once the transaction is finalized. -/
theorem run_finalized {before after : List (Action (Call ρ γ ε) (Option ε))}
    (hbefore : Run.exec step start before = some w)
    (hfinalized : w.shared.transaction.finalized = true)
    (hafter : Run.exec step w after = some w') :
    w'.shared.transaction = w.shared.transaction ∧
    w'.shared.registered = w.shared.registered := by
  obtain ⟨hsound, hholds⟩ := run_sound hbefore
  have hrun := World.run_invariant (L := fun _ => Call.Holds)
    (I := fun n s => Sound n s ∧ s.transaction = w.shared.transaction ∧
      s.registered = w.shared.registered)
    (fun n s call h hbegins => ⟨⟨h.1.mono, h.2⟩, h.1.holds_of_begins hbegins⟩)
    (fun _ _ _ _ _ hholds => hholds)
    (fun n s i call choice call' s' h hi hholds hstep => by
      have hkept := step_kept h.1 hi hholds hstep
      have hsame := step_finalized h.1 (h.2.1 ▸ hfinalized) hstep
      exact ⟨⟨hkept.sound, hsame.1.trans h.2.1, hsame.2.trans h.2.2⟩, hkept.own, hkept.others⟩)
    ⟨hsound, rfl, rfl⟩ hholds hafter
  exact hrun.1.2

/-- The calls of other code that a closer still makes: its gate cleanup and its releases. -/
def Call.cleanups : Call ρ γ ε → ℕ
  | closeGate _ _ _ leases => leases.length + 1
  | releasing leases _ => leases.length
  | _ => 0

/-- What was raised so far. -/
def Call.errors : Call ρ γ ε → List ε
  | releasing _ errors => errors
  | _ => []

/-- How a closer ends. -/
def Call.ended (errors : List ε) : Call ρ γ ε :=
  if errors = [] then returned else raised (.finalization errors)

theorem turn_of (raises : Option ε) {s' : Shared ρ γ}
    (hcall : w.calls[i]? = some call) (hstep : call.step i raises w.shared = some (call', s')) :
    step w (.turn i raises) = some { shared := s', calls := w.calls.set i call' } :=
  World.step_turn.mpr ⟨call, call', hcall, hstep, rfl⟩

theorem getElem?_set_of_some {calls : List (Call ρ γ ε)}
    (hcall : calls[i]? = some call) : (calls.set i call')[i]? = some call' := by
  obtain ⟨hlt, _⟩ := List.getElem?_eq_some_iff.mp hcall
  rw [List.getElem?_set_self hlt]

/-- The releases of a closer, one after the other. -/
theorem releases_leases {errors : List ε} (raises : List (Option ε))
    (hcall : w.calls[i]? = some (.releasing leases errors))
    (hlength : raises.length = leases.length) :
    ∃ w', Run.exec step w (raises.map (Action.turn i) ++ [.turn i none]) = some w'
      ∧ w'.shared.releasedLeases = w.shared.releasedLeases ++ leases
      ∧ w'.shared.registered = w.shared.registered
      ∧ w'.calls[i]? = some (Call.ended (errors ++ raises.flatMap Option.toList)) := by
  induction leases generalizing w errors raises with
  | nil =>
    rw [length_eq_zero_iff.mp hlength]
    have hturn := turn_of none hcall rfl
    refine ⟨_, Run.exec_cons_eq_some.mpr ⟨_, hturn, rfl⟩, ?_, rfl, ?_⟩
    · exact (append_nil _).symm
    · rw [getElem?_set_of_some hcall, flatMap_nil, append_nil]
      rfl
  | cons lease leases ih =>
    cases raises with
    | nil => cases hlength
    | cons first raises =>
      have hturn := turn_of first hcall rfl
      have hnext : (w.calls.set i (.releasing leases (errors ++ first.toList)))[i]? = _ :=
        getElem?_set_of_some hcall
      obtain ⟨w', hrest, hreleased, hregistered, hended⟩ :=
        ih (w := { shared := { w.shared with released := w.shared.released ++ [(i, lease)] },
                   calls := w.calls.set i (.releasing leases (errors ++ first.toList)) })
          raises hnext (Nat.succ.inj hlength)
      refine ⟨w', Run.exec_cons_eq_some.mpr ⟨_, hturn, hrest⟩, ?_, hregistered, ?_⟩
      · rw [hreleased]
        unfold Shared.releasedLeases
        rw [map_append, append_assoc]
        rfl
      · rw [hended, flatMap_cons, append_assoc]

/-- **Whatever is raised, every release is attempted**: a closer that goes on releases all it
holds. -/
theorem releases_all (hcall : w.calls[i]? = some call)
    (hcleaning : call.Cleaning) (hpending : call.pending = some leases)
    (raises : List (Option ε))
    (hlength : raises.length = call.cleanups) :
    ∃ w', Run.exec step w (raises.map (Action.turn i) ++ [.turn i none]) = some w'
      ∧ w'.shared.releasedLeases = w.shared.releasedLeases ++ leases
      ∧ w'.shared.registered = w.shared.registered
      ∧ w'.calls[i]? = some (Call.ended (call.errors ++ raises.flatMap Option.toList)) := by
  cases call with
  | releasing held errors =>
    cases hpending
    exact releases_leases raises hcall hlength
  | closeGate cleanup context failure held =>
    obtain rfl : held = leases := Option.some.inj hpending
    cases raises with
    | nil => cases hlength
    | cons first raises =>
      have hturn := turn_of first hcall rfl
      have hnext : (w.calls.set i (.releasing held first.toList))[i]? = _ :=
        getElem?_set_of_some hcall
      obtain ⟨w', hrest, hreleased, hregistered, hended⟩ :=
        releases_leases (w := { shared := w.shared,
                                calls := w.calls.set i (.releasing held first.toList) })
          raises hnext (Nat.succ.inj hlength)
      refine ⟨w', Run.exec_cons_eq_some.mpr ⟨_, hturn, hrest⟩, hreleased, hregistered, ?_⟩
      rw [hended, flatMap_cons]
      rfl
  | bindGateCleanup _ => exact absurd hcleaning id
  | advance _ => exact absurd hcleaning id
  | advancePassed _ => exact absurd hcleaning id
  | permitAcquired _ _ => exact absurd hcleaning id
  | permitPassed _ _ => exact absurd hcleaning id
  | acquireLease _ _ => exact absurd hcleaning id
  | finalize _ => exact absurd hcleaning id
  | finalizeInject _ => exact absurd hcleaning id
  | finalizePassed _ => exact absurd hcleaning id
  | returned => exact absurd hcleaning id
  | raised _ => exact absurd hcleaning id

/-- What a call that is done has pending. -/
theorem Call.pending_of_done (hpending : call.pending = some leases)
    (hdone : ¬call.Cleaning) : leases = [] := by
  cases call with
  | returned => exact (Option.some.inj hpending).symm
  | raised _ => exact (Option.some.inj hpending).symm
  | closeGate _ _ _ _ => exact absurd trivial hdone
  | releasing _ _ => exact absurd trivial hdone
  | _ => cases hpending

/-- **Before the end**: nothing is released, and the transaction holds what was registered. -/
structure Open (s : Shared ρ γ) : Prop where
  finalized : s.transaction.finalized = false
  outcome : s.transaction.terminalOutcome = none
  held : s.transaction.leases = s.registered
  released : s.released = []

/-- **After the end**: the first call to enter fixed the outcome, and the leases are its alone.
Those it released and those it holds are the registered ones in reverse; once it is done it has
released all, and until then it does so whatever is raised, and what was raised it raises in the
end. -/
structure Finalized (w : World (Shared ρ γ) (Call ρ γ ε)) (i : ℕ)
    (outcome : SubmissionTerminalOutcome) : Prop where
  finalized : w.shared.transaction.finalized = true
  outcome : w.shared.transaction.terminalOutcome = some outcome
  alone : ∀ r ∈ w.shared.released, r.1 = i
  closer : ∃ call leases, w.calls[i]? = some call ∧ call.pending = some leases
    ∧ w.shared.releasedLeases ++ leases = w.shared.registered.reverse
    ∧ (¬call.Cleaning → w.shared.releasedLeases = w.shared.registered.reverse)
    ∧ (call.Cleaning → ∀ raises : List (Option ε), raises.length = call.cleanups →
      ∃ w', Run.exec step w (raises.map (Action.turn i) ++ [.turn i none]) = some w'
        ∧ w'.shared.releasedLeases = w'.shared.registered.reverse
        ∧ w'.calls[i]? = some (Call.ended (call.errors ++ raises.flatMap Option.toList)))

/-- **Leases are released exactly once**, in every run: no two have a name, nothing is released
before the end and nothing registered after it, and at the end the first call to enter releases
all of them in reverse. -/
theorem leases_released_once {before : List (Action (Call ρ γ ε) (Option ε))}
    (hexec : Run.exec step start before = some w) :
    Phases w.shared.transaction
      ∧ (w.shared.registered.map Lease.name).Nodup
      ∧ (w.shared.entered = [] → Open w.shared)
      ∧ (∀ i outcome rest, w.shared.entered = (i, outcome) :: rest → Finalized w i outcome)
      ∧ (w.shared.transaction.finalized = true → ∀ after w', Run.exec step w after = some w' →
        w'.shared.transaction = w.shared.transaction ∧
        w'.shared.registered = w.shared.registered) := by
  obtain ⟨hsound, hholds⟩ := run_sound hexec
  refine ⟨hsound.phases, hsound.distinct, fun hentered => ?_, fun i outcome rest hentered => ?_,
    fun hfinalized after w' hafter => run_finalized hexec hfinalized hafter⟩
  · obtain ⟨hreleased, hheld⟩ := hsound.opened hentered
    have hfinalized := hsound.finalized
    have houtcome := hsound.outcome
    rw [hentered] at hfinalized houtcome
    exact ⟨hfinalized, houtcome, hheld, hreleased⟩
  · have hcloser : w.shared.closer = some i := by
      unfold Shared.closer
      rw [hentered]
      rfl
    have hfinalized := hsound.finalized
    have houtcome := hsound.outcome
    rw [hentered] at hfinalized houtcome
    obtain ⟨hlt, halone⟩ := hsound.closer i hcloser
    have hcall : w.calls[i]? = some w.calls[i] := List.getElem?_eq_getElem hlt
    obtain ⟨leases, hpending, hleases⟩ := (hholds i _ hcall).closer hcloser
    refine ⟨hfinalized, houtcome, halone, _, leases, hcall, hpending, hleases, fun hdone => ?_,
      fun hcleaning raises hlength => ?_⟩
    · rw [Call.pending_of_done hpending hdone, append_nil] at hleases
      exact hleases
    · obtain ⟨w', hrun, hreleased, hregistered, hended⟩ :=
        releases_all hcall hcleaning hpending raises hlength
      exact ⟨w', hrun, by rw [hreleased, hregistered, hleases], hended⟩

/-- Two leases, and a closer whose first release raises. -/
def twoLeases : List (Action (Call String Unit String) (Option String)) :=
  [.invoke (.acquireLease "a" "release a"), .turn 0 none,
    .invoke (.acquireLease " b " "release b"), .turn 1 none,
    .invoke (.finalize { outcome := .failedClosed, gateFailureContext := "",
                         gateFailure := none }),
    .turn 2 none, .turn 2 none, .turn 2 none, .turn 2 (some "failed"), .turn 2 none,
      .turn 2 none]

def twoLeasesReleased : World (Shared String Unit) (Call String Unit String) :=
  { shared :=
      { transaction :=
          { state := .terminal, history := [.created, .terminal], permitEpoch := none,
            terminalOutcome := some .failedClosed, leases := [], gateCleanup :=
            none, finalized := true }
        registered := [{ name := "a", release := "release a" },
          { name := "b", release := "release b" }]
        released := [(2, { name := "b", release := "release b" }),
          (2, { name := "a", release := "release a" })]
        entered := [(2, .failedClosed)] }
    calls := [.returned, .returned, .raised (.finalization ["failed"])] }

/-- Both are released. -/
theorem leases_released_once_twoLeases :
    Run.exec step start twoLeases = some twoLeasesReleased ∧
    Finalized twoLeasesReleased 2 .failedClosed := by
  have hexec : Run.exec step start twoLeases = some twoLeasesReleased := by decide
  exact ⟨hexec, (leases_released_once hexec).2.2.2.1 2 .failedClosed [] rfl⟩

/-- **Passing the injector is not enough.**  A `finalize` that passes it with a context and no
exception raises and releases nothing; and of two that pass it the one that takes the lock first
fixes the outcome, not the one that passed first. -/
theorem passed_finalize_releases_nothing :
    (∃ w : World (Shared String Unit) (Call String Unit String),
      Run.exec step start [.invoke (.acquireLease "a" "release a"), .turn 0 none,
        .invoke (.finalize { outcome := .failedClosed, gateFailureContext := "submit",
                             gateFailure := none }),
        .turn 1 none, .turn 1 none, .turn 1 none] = some w
      ∧ w.calls[1]? = some (.raised
          (.value "gate failure context and exception must be supplied together"))
      ∧ w.shared.transaction.finalized = false ∧ w.shared.released = []
      ∧ w.shared.transaction.leases = [{ name := "a", release := "release a" }])
    ∧ ∃ passed w : World (Shared String Unit) (Call String Unit String),
      Run.exec step start
        [.invoke (.finalize { outcome := .acknowledged, gateFailureContext := "",
                              gateFailure := none }),
          .turn 0 none, .turn 0 none,
          .invoke (.finalize { outcome := .unknown, gateFailureContext := "",
                               gateFailure := none }),
          .turn 1 none] = some passed
      ∧ passed.calls = [.finalizePassed { outcome := .acknowledged, gateFailureContext := "",
                                          gateFailure := none },
          .finalizeInject { outcome := .unknown, gateFailureContext := "", gateFailure := none }]
      ∧ Run.exec step passed [.turn 1 none, .turn 1 none, .turn 0 none, .turn 1 none] = some w
      ∧ w.calls = [.returned, .returned] ∧
        w.shared.transaction.terminalOutcome = some .unknown := by
  exact ⟨⟨_, rfl, rfl, rfl, rfl, rfl⟩, _, _, rfl, rfl, rfl, rfl, rfl⟩

end Runs

end ChronosHFT.Submission
