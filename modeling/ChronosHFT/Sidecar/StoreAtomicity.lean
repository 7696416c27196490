import ChronosHFT.Sidecar.KillLatch

/-!
# The atomicity of the state store

A write of the state store touches two files, so there are four places where it can be
interrupted: before the anchor is prepared, between the anchor and the commit of the database,
between the commit and the anchor that says so, and after that.  A start is to succeed after
each of them, with the payload from before the write or the one that was written; a writer that
is behind is to be refused, and so is a copy of one of the two files from an earlier time.  An
error of the write is to reach the sidecar as a latch, not as an exception.

The start takes every anchor that is not marked as committed for a rollback.  So it succeeds
after a run of writes exactly when none of them is left with a prepared anchor (`Tears`), and the
sidecar survives them exactly when none meets an error of the operating system or of the database
(`Escapes`): `store_atomicity`. -/

namespace ChronosHFT.Sidecar

/-- A call of `compare_and_swap`, and how far it gets. -/
structure StoreAttempt where
  write : StoreWrite
  expected : StateVersion
  payload : StorePayload
  writerEpoch : ℕ
  ownerEpoch : ℕ
  safetyEpoch : ℕ
  deriving DecidableEq, Repr

namespace StateStore

variable (stateHash : StateHash)

/-- One attempt. -/
def attempt (store : StateStore) (a : StoreAttempt) :
    StateStore × Except StoreFailure StateVersion :=
  store.cas stateHash a.write a.expected a.payload a.writerEpoch a.ownerEpoch a.safetyEpoch

/-- What some attempts leave. -/
def attempts (store : StateStore) (run : List StoreAttempt) : StateStore :=
  run.foldl (fun store a => (store.attempt stateHash a).1) store

/-- The anchor is committed and agrees with the database, whose checksum is right. -/
structure Clean (store : StateStore) : Prop where
  anchor : store.anchor = { committed := true, target := store.head }
  checksum : store.head.version.stateSha256 =
    stateHash store.head.version.writerEpoch store.head.version.ownerEpoch
      store.head.version.safetyEpoch store.head.version.generation store.head.payload

/-- The attempt stops between the anchor it prepares and the one that is committed. -/
def Tears (store : StateStore) (a : StoreAttempt) : Prop :=
  store.head.version = a.expected ∧
    (a.write = .anchorFailed true ∨ a.write = .commitFailed ∨ a.write = .finishFailed false)

/-- The attempt meets an error of the operating system or of the database. -/
def Escapes (store : StateStore) (a : StoreAttempt) : Prop :=
  a.write = .readFailed ∨
    store.head.version = a.expected ∧
      ((∃ replaced, a.write = .anchorFailed replaced) ∨ a.write = .commitFailed ∨
        ∃ replaced, a.write = .finishFailed replaced)

/-! ## What is promised -/

/-- A start that nothing disturbs succeeds after the attempt, with the payload from before it or
with the payload of the attempt. -/
def Recovers (store : StateStore) (a : StoreAttempt) : Prop :=
  ∃ payload version,
    ((store.attempt stateHash a).1.openRecover stateHash store.identity (.ok ()) .done).2 =
        .ok (payload, version) ∧
      (payload = store.head.payload ∨ payload = a.payload)

/-- A writer that is at an earlier version fails, and leaves the store as it is. -/
def RefusesStale (earlier store : StateStore) : Prop :=
  ∀ a : StoreAttempt, a.expected = earlier.head.version →
    ∃ err, store.attempt stateHash a = (store, .error err)

/-- An earlier database next to the anchor, and an earlier anchor next to the database, are
rejected by a start. -/
def RejectsRollback (earlier store : StateStore) : Prop :=
  ∀ identity available write,
    (∃ err, ({ store with head := earlier.head } : StateStore).openRecover stateHash identity
      available write = ({ store with head := earlier.head }, .error err)) ∧
    ∃ err, ({ store with anchor := earlier.anchor } : StateStore).openRecover stateHash identity
      available write = ({ store with anchor := earlier.anchor }, .error err)

/-- **The promise of the state store** for a run: a start recovers after each attempt, and of any
two moments the earlier one is neither written to nor restored. -/
structure Atomic (store : StateStore) (run : List StoreAttempt) : Prop where
  recovers : ∀ before a, before ++ [a] <+: run →
    (store.attempts stateHash before).Recovers stateHash a
  stale : ∀ before between, before ++ between <+: run →
    (store.attempts stateHash before).head ≠
    (store.attempts stateHash (before ++ between)).head →
    RefusesStale stateHash (store.attempts stateHash before)
      (store.attempts stateHash (before ++ between))
  rollback : ∀ before between, before ++ between <+: run →
    (store.attempts stateHash before).head ≠
    (store.attempts stateHash (before ++ between)).head →
    RejectsRollback stateHash (store.attempts stateHash before)
      (store.attempts stateHash (before ++ between))

end StateStore

/-- The sidecar that makes the attempt. -/
def Core.attempting (c : Core) (store : StateStore) (a : StoreAttempt) : Core :=
  { c with
    stateVersion := a.expected
    disk := { c.disk with store := some store } }

/-- The attempt reaches the sidecar: it is told whether the state is persisted, and where it is
not it is latched and goes on. -/
def Core.Reported (st : Settings) (c : Core) (store : StateStore) (a : StoreAttempt) : Prop :=
  ∀ event force, ∃ c' persisted,
    (c.attempting store a).persistDurableState st { writeStore := fun _ _ => a.write } event
    force =
        (c', some persisted) ∧
      (persisted = true ↔ a.write = .done ∧ store.head.version = a.expected) ∧
      (persisted = false → c'.control.killLatched = true ∧
        c'.control.stopRequested = c.control.stopRequested)

/-! ## One attempt -/

namespace StateStore

variable {stateHash : StateHash} {store : StateStore} {a : StoreAttempt}

variable (stateHash) in
/-- **An attempt at another version** fails and changes nothing. -/
theorem attempt_stale (h : store.head.version ≠ a.expected) :
    ∃ err, store.attempt stateHash a = (store, .error err) := by
  unfold attempt cas
  cases a.write with
  | refused error => exact ⟨_, rfl⟩
  | readFailed => exact ⟨_, rfl⟩
  | anchorFailed replaced => exact ⟨_, if_pos h⟩
  | commitFailed => exact ⟨_, if_pos h⟩
  | finishFailed replaced => exact ⟨_, if_pos h⟩
  | done => exact ⟨_, if_pos h⟩

variable (stateHash store a) in
/-- An attempt leaves the identity, and the head as it is or one generation on. -/
theorem attempt_head : (store.attempt stateHash a).1.identity = store.identity ∧
    ((store.attempt stateHash a).1.head = store.head ∨
      (store.attempt stateHash a).1.head.version.generation =
        store.head.version.generation + 1) := by
  by_cases h : store.head.version = a.expected
  case neg =>
    obtain ⟨err, heq⟩ := attempt_stale stateHash h
    rw [heq]
    exact ⟨rfl, .inl rfl⟩
  unfold attempt cas
  have hcurrent := not_not_intro h
  cases a.write with
  | refused error => exact ⟨rfl, .inl rfl⟩
  | readFailed => exact ⟨rfl, .inl rfl⟩
  | anchorFailed replaced =>
    dsimp only
    rw [if_neg hcurrent]
    cases replaced
    · exact ⟨rfl, .inl rfl⟩
    · exact ⟨rfl, .inl rfl⟩
  | commitFailed =>
    dsimp only
    rw [if_neg hcurrent]
    exact ⟨rfl, .inl rfl⟩
  | finishFailed replaced =>
    dsimp only
    rw [if_neg hcurrent]
    exact ⟨rfl, .inr rfl⟩
  | done =>
    dsimp only
    rw [if_neg hcurrent]
    exact ⟨rfl, .inr rfl⟩

variable (stateHash store a) in
/-- **How an attempt ends**, by what it meets. -/
theorem attempt_result :
    match (store.attempt stateHash a).2 with
    | .ok _ => a.write = .done ∧ store.head.version = a.expected ∧ ¬ store.Escapes a
    | .error (.refused _) =>
      ¬ (a.write = .done ∧ store.head.version = a.expected) ∧ ¬ store.Escapes a
    | .error .escaped => store.Escapes a := by
  unfold attempt cas Escapes
  -- away from its version an attempt is refused, unless reading raised
  by_cases hcurrent : store.head.version = a.expected
  · have hmatch := not_not_intro hcurrent
    cases hwrite : a.write with
    | refused error => simp
    | readFailed => simp
    | anchorFailed replaced => simp only [if_neg hmatch]; simp [hcurrent]
    | commitFailed => simp only [if_neg hmatch]; simp [hcurrent]
    | finishFailed replaced => simp only [if_neg hmatch]; simp [hcurrent]
    | done => simp only [if_neg hmatch]; simp [hcurrent]
  · cases hwrite : a.write with
    | refused error => simp
    | readFailed => simp
    | anchorFailed replaced => simp only [if_pos hcurrent]; simp [hcurrent]
    | commitFailed => simp only [if_pos hcurrent]; simp [hcurrent]
    | finishFailed replaced => simp only [if_pos hcurrent]; simp [hcurrent]
    | done => simp only [if_pos hcurrent]; simp [hcurrent]

/-- **An attempt that does not tear** leaves a clean store, with the payload from before it or
its own. -/
theorem Clean.attempt (hclean : store.Clean stateHash) (h : ¬ store.Tears a) :
    (store.attempt stateHash a).1.Clean stateHash ∧
      ((store.attempt stateHash a).1.head.payload = store.head.payload ∨
        (store.attempt stateHash a).1.head.payload = a.payload) := by
  by_cases hcurrent : store.head.version = a.expected
  case neg =>
    obtain ⟨err, heq⟩ := attempt_stale stateHash hcurrent
    rw [heq]
    exact ⟨hclean, .inl rfl⟩
  have htears : ¬ (a.write = .anchorFailed true ∨ a.write = .commitFailed ∨
      a.write = .finishFailed false) := fun hwrite => h ⟨hcurrent, hwrite⟩
  unfold StateStore.attempt cas
  cases hwrite : a.write with
  | refused error => exact ⟨hclean, .inl rfl⟩
  | readFailed => exact ⟨hclean, .inl rfl⟩
  | anchorFailed replaced =>
    simp only [if_neg (not_not_intro hcurrent)]
    cases replaced with
    | false => exact ⟨hclean, .inl rfl⟩
    | true => exact absurd (.inl hwrite) htears
  | commitFailed => exact absurd (.inr (.inl hwrite)) htears
  | finishFailed replaced =>
    simp only [if_neg (not_not_intro hcurrent)]
    cases replaced with
    | false => exact absurd (.inr (.inr hwrite)) htears
    | true => exact ⟨⟨rfl, rfl⟩, .inr rfl⟩
  | done =>
    simp only [if_neg (not_not_intro hcurrent)]
    exact ⟨⟨rfl, rfl⟩, .inr rfl⟩

variable (stateHash) in
/-- **An attempt that tears** leaves an anchor that does not validate. -/
theorem Tears.invalid (h : store.Tears a) :
    ∃ err, (store.attempt stateHash a).1.validateAnchor = .error err := by
  obtain ⟨hcurrent, hwrite⟩ := h
  -- a prepared anchor over the old head is one revision ahead of it
  have hahead : ∀ head : StoreHead, head.headRevision = store.head.headRevision + 1 →
      ({ store with anchor := { committed := false, target := head } } :
        StateStore).validateAnchor =
        .error "rollback_or_split_brain_suspected" := by
    intro head hrevision
    refine if_pos fun heq => ?_
    have hsame : head.headRevision = store.head.headRevision :=
      congrArg StoreHead.headRevision heq
    omega
  unfold StateStore.attempt cas
  rcases hwrite with hwrite | hwrite | hwrite
  · rw [hwrite]
    simp only [if_neg (not_not_intro hcurrent), if_true]
    exact ⟨_, hahead _ rfl⟩
  · rw [hwrite]
    simp only [if_neg (not_not_intro hcurrent)]
    exact ⟨_, hahead _ rfl⟩
  · rw [hwrite]
    simp only [if_neg (not_not_intro hcurrent)]
    refine ⟨"rollback_anchor_not_committed", ?_⟩
    unfold validateAnchor
    rw [if_neg (not_not_intro rfl), if_pos rfl]

/-! ## A start -/

/-- **A start of a clean store** that nothing disturbs. -/
theorem Clean.openRecover (hclean : store.Clean stateHash) :
    ∃ version, (store.openRecover stateHash store.identity (.ok ()) .done).2 =
      .ok (store.head.payload, version) := by
  have hvalid : store.checkHead stateHash store.identity = .ok () := by
    unfold checkHead validateAnchor
    rw [hclean.anchor]
    simp only [ne_eq, not_true_eq_false, if_false, hclean.checksum, Bool.true_eq_false]
  unfold StateStore.openRecover
  simp only [Except.bind, hvalid, cas_done]
  exact ⟨_, rfl⟩

/-- **A start of a store whose anchor does not validate** fails. -/
theorem openRecover_invalid (stateHash : StateHash) (identity : StoreIdentity)
    (available : Except String Unit) (write : StoreWrite)
    (h : ∃ err, store.validateAnchor = .error err) :
    ∃ err, store.openRecover stateHash identity available write = (store, .error err) := by
  obtain ⟨err, hinvalid⟩ := h
  have hchecked : ∃ err, store.checkHead stateHash identity = .error err := by
    unfold checkHead
    dsimp only
    split
    · exact ⟨_, rfl⟩
    split
    · exact ⟨_, rfl⟩
    split
    · exact ⟨_, rfl⟩
    split
    · exact ⟨_, rfl⟩
    · exact ⟨err, hinvalid⟩
  obtain ⟨error, hchecked⟩ := hchecked
  unfold StateStore.openRecover
  cases available with
  | error unavailable => exact ⟨_, rfl⟩
  | ok _ =>
    simp only [Except.bind, hchecked]
    exact ⟨_, rfl⟩

/-! ## Runs of attempts -/

theorem attempts_append {run rest : List StoreAttempt} :
    store.attempts stateHash (run ++ rest) =
      (store.attempts stateHash run).attempts stateHash rest :=
  List.foldl_append

variable (stateHash store) in
/-- A run leaves the identity, and the head as it is or some generations on. -/
theorem attempts_head (run : List StoreAttempt) :
    (store.attempts stateHash run).identity = store.identity ∧
      ((store.attempts stateHash run).head = store.head ∨
        store.head.version.generation <
          (store.attempts stateHash run).head.version.generation) := by
  induction run generalizing store with
  | nil => exact ⟨rfl, .inl rfl⟩
  | cons a rest ih =>
    obtain ⟨hidentity, hhead⟩ := attempt_head stateHash store a
    obtain ⟨hidentity', hhead'⟩ := ih (store.attempt stateHash a).1
    refine ⟨hidentity'.trans hidentity, ?_⟩
    change (attempts stateHash (store.attempt stateHash a).1 rest).head = _ ∨
      _ < (attempts stateHash (store.attempt stateHash a).1 rest).head.version.generation
    rcases hhead with hhead | hhead
    · rwa [hhead] at hhead'
    rcases hhead' with hhead' | hhead'
    · refine .inr ?_
      rw [hhead']
      omega
    · exact .inr (by omega)

/-- **A run without a tear** leaves a clean store. -/
theorem Clean.attempts (hclean : store.Clean stateHash) (run : List StoreAttempt)
    (h : ∀ before a, before ++ [a] <+: run → ¬ (store.attempts stateHash before).Tears a) :
    (store.attempts stateHash run).Clean stateHash := by
  induction run using List.reverseRecOn with
  | nil => exact hclean
  | append_singleton before a ih =>
    have hbefore := ih fun before' a' hinitial =>
      h before' a' (hinitial.trans (List.prefix_append _ _))
    rw [attempts_append]
    exact (hbefore.attempt (h before a (List.prefix_refl _))).1

/-- Later heads have other versions. -/
theorem attempts_version {run : List StoreAttempt}
    (h : store.head ≠ (store.attempts stateHash run).head) :
    (store.attempts stateHash run).head.version ≠ store.head.version := by
  intro hversion
  rcases (attempts_head stateHash store run).2 with hhead | hhead
  · exact h hhead.symm
  · rw [hversion] at hhead
    exact lt_irrefl _ hhead

/-- **A clean store with an earlier copy of one file** is rejected. -/
theorem Clean.rejectsRollback {earlier : StateStore} (hearlier : earlier.Clean stateHash)
    (hclean : store.Clean stateHash) (h : earlier.head ≠ store.head) :
    RejectsRollback stateHash earlier store := by
  intro identity available write
  refine ⟨openRecover_invalid _ _ _ _ ⟨_, if_pos ?_⟩, openRecover_invalid _ _ _ _ ⟨_, if_pos ?_⟩⟩
  · change store.anchor.target ≠ earlier.head
    rw [hclean.anchor]
    exact h.symm
  · change earlier.anchor.target ≠ store.head
    rw [hearlier.anchor]
    exact h

end StateStore

/-! ## The sidecar -/

namespace Core

variable {st : Settings} {c : Core} {store : StateStore} {a : StoreAttempt}

/-- **What the sidecar is told** of an attempt. -/
theorem reported_iff (hbackend : st.backend = .store) :
    c.Reported st store a ↔ ¬ store.Escapes a := by
  -- the attempt the sidecar makes has its own payload and epochs
  let own : StoreAttempt :=
    { a with
      payload := (c.attempting store a).storePayload
      writerEpoch := store.head.version.writerEpoch
      ownerEpoch := store.head.version.ownerEpoch
      safetyEpoch := max a.expected.safetyEpoch c.pendingSafetyEpoch }
  have hpersist : ∀ event force,
      (c.attempting store a).persistDurableState st { writeStore := fun _ _ => a.write } event
        force = (c.attempting store a).persistStore st store { writeStore := fun _ _ => a.write }
          event := by
    intro event force
    unfold persistDurableState
    rw [hbackend]
    rfl
  have hresult := StateStore.attempt_result st.stateHash store own
  have hcas : store.cas st.stateHash a.write (c.attempting store a).stateVersion
      (c.attempting store a).storePayload store.head.version.writerEpoch
      store.head.version.ownerEpoch
      (max (c.attempting store a).stateVersion.safetyEpoch
        (c.attempting store a).pendingSafetyEpoch) = store.attempt st.stateHash own := rfl
  have hescapes : store.Escapes own ↔ store.Escapes a := Iff.rfl
  rw [hescapes] at hresult
  unfold Reported
  simp only [hpersist]
  unfold persistStore
  dsimp only
  cases hattempt : store.attempt st.stateHash own with
  | mk next result =>
    rw [hattempt] at hresult hcas
    simp only [hcas]
    cases result with
    | ok version =>
      obtain ⟨hdone, hcurrent, hsafe⟩ := hresult
      exact ⟨fun _ => hsafe, fun _ event force =>
        ⟨_, _, rfl, ⟨fun _ => ⟨hdone, hcurrent⟩, fun _ => rfl⟩, nofun⟩⟩
    | error failure =>
      cases failure with
      | refused error =>
        obtain ⟨hnot, hsafe⟩ := hresult
        exact ⟨fun _ => hsafe, fun _ event force =>
          ⟨_, _, rfl, ⟨nofun, fun h => absurd h hnot⟩, fun _ => ⟨rfl, rfl⟩⟩⟩
      | escaped =>
        refine ⟨fun h => ?_, fun h => absurd hresult h⟩
        obtain ⟨c', persisted, heq, -⟩ := h "" false
        cases congrArg Prod.snd heq

end Core

/-! ## The result -/

namespace StateStore

variable {stateHash : StateHash} {store : StateStore}

/-- **The promise is kept** exactly by the runs without a tear. -/
theorem Clean.atomic_iff (hclean : store.Clean stateHash) (run : List StoreAttempt) :
    store.Atomic stateHash run ↔
      ∀ before a, before ++ [a] <+: run → ¬ (store.attempts stateHash before).Tears a := by
  constructor
  · -- a start after a tear finds an anchor that does not validate
    intro h before a hinitial htears
    obtain ⟨payload, version, hrecovered, -⟩ := h.recovers before a hinitial
    obtain ⟨err, hfailed⟩ := openRecover_invalid stateHash
      (store.attempts stateHash before).identity (.ok ()) .done (htears.invalid stateHash)
    rw [hfailed] at hrecovered
    cases hrecovered
  · intro h
    have hreached : ∀ before, before <+: run →
        (store.attempts stateHash before).Clean stateHash :=
      fun before hinitial => hclean.attempts before fun before' a hinitial' =>
        h before' a (hinitial'.trans hinitial)
    refine ⟨fun before a hinitial => ?_, fun before between hinitial hhead => ?_,
      fun before between hinitial hhead => ?_⟩
    · have hbefore := hreached before ((List.prefix_append _ _).trans hinitial)
      obtain ⟨hafter, hpayload⟩ := hbefore.attempt (h before a hinitial)
      obtain ⟨version, hrecovered⟩ := hafter.openRecover
      rw [(attempt_head stateHash _ a).1] at hrecovered
      exact ⟨_, version, hrecovered, hpayload⟩
    · intro a hexpected
      rw [attempts_append] at hhead ⊢
      exact attempt_stale stateHash (hexpected ▸ attempts_version hhead)
    · exact (hreached before ((List.prefix_append _ _).trans hinitial)).rejectsRollback
        (hreached _ hinitial) hhead

/-- **Atomicity of the state store.**  Of a run of writes from a clean store, each of which gets
as far as it gets: starts recover, and stale writers and rolled back files are refused, exactly
when no write stops between the anchor it prepares and the one that is committed; and every write
is reported to the sidecar, which is latched where it failed and goes on, exactly when none meets
an error of the operating system or of the database. -/
theorem store_atomicity (st : Settings) (hbackend : st.backend = .store)
    (hclean : store.Clean st.stateHash) (run : List StoreAttempt) :
    (store.Atomic st.stateHash run ↔
      ∀ before a, before ++ [a] <+: run → ¬ (store.attempts st.stateHash before).Tears a) ∧
    ∀ c : Core,
      ((∀ before a, before ++ [a] <+: run →
          c.Reported st (store.attempts st.stateHash before) a) ↔
        ∀ before a, before ++ [a] <+: run →
          ¬ (store.attempts st.stateHash before).Escapes a) := by
  refine ⟨hclean.atomic_iff run, fun c => ?_⟩
  refine forall_congr' fun before => forall_congr' fun a => imp_congr_right fun _ => ?_
  exact Core.reported_iff hbackend

/-! ## A commit that fails -/

/-- A latched state, committed. -/
def latchedStore : StateStore :=
  let head : StoreHead :=
    { headRevision := 1, version := ⟨1, 1, 1, 1, ""⟩, payload := .plain true .flattening }
  { identity := ⟨"account", "genesis", "deployment"⟩
    head := head
    anchor := { committed := true, target := head } }

/-- The unlatched state is to be written, and the commit of the database raises. -/
def interrupted : StoreAttempt where
  write := .commitFailed
  expected := latchedStore.head.version
  payload := .plain false .armed
  writerEpoch := 1
  ownerEpoch := 1
  safetyEpoch := 1

theorem latchedStore_clean : latchedStore.Clean storeSettings.stateHash :=
  ⟨rfl, rfl⟩

/-- The result for a write that fails and is then made again. -/
theorem store_atomicity_retried :
    (latchedStore.Atomic storeSettings.stateHash [interrupted,
      { interrupted with write := .done }] ↔
      ∀ before a, before ++ [a] <+: [interrupted, { interrupted with write := .done }] →
        ¬ (latchedStore.attempts storeSettings.stateHash before).Tears a) ∧
    ∀ c : Core,
      ((∀ before a, before ++ [a] <+: [interrupted, { interrupted with write := .done }] →
          c.Reported storeSettings (latchedStore.attempts storeSettings.stateHash before) a) ↔
        ∀ before a, before ++ [a] <+: [interrupted, { interrupted with write := .done }] →
          ¬ (latchedStore.attempts storeSettings.stateHash before).Escapes a) :=
  store_atomicity storeSettings rfl latchedStore_clean _

/-- **After a commit that failed no start succeeds**, and the sidecar met an exception. -/
theorem interrupted_not_recovered :
    ¬ latchedStore.Atomic storeSettings.stateHash [interrupted] ∧
      ((latchedStore.attempt storeSettings.stateHash interrupted).1.openRecover
        storeSettings.stateHash latchedStore.identity (.ok ()) .done).2 =
          .error (.refused "rollback_or_split_brain_suspected") ∧
      ((latchedCore.attempting latchedStore interrupted).persistDurableState storeSettings
        { writeStore := fun _ _ => interrupted.write } "operator_rearm_committed" true).2 =
          none := by
  have hstart : ((latchedStore.attempt storeSettings.stateHash interrupted).1.openRecover
      storeSettings.stateHash latchedStore.identity (.ok ()) .done).2 =
        .error (.refused "rollback_or_split_brain_suspected") := by
    decide +kernel
  refine ⟨fun h => ?_, hstart, rfl⟩
  obtain ⟨payload, version, hrecovered, -⟩ := h.recovers [] interrupted (List.prefix_refl _)
  exact nomatch hstart.symm.trans hrecovered

end StateStore

end ChronosHFT.Sidecar
