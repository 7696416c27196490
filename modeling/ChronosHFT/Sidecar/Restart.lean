import ChronosHFT.Sidecar.Moves
import ChronosHFT.Sidecar.Restraint

/-!
# The latch and restarts

With the state file, a latched sidecar is to come back latched: at every moment between its calls
the file it has on disk is one that starts latched, and so is a file that was found corrupt,
since the sidecar that found it latched itself.

A write that fails may have replaced the file already, and a corrupt file is moved out of the
way. So a rearm whose directory could not be synced leaves an unlatched file behind a latched
sidecar (`syncFails_not_latched`).  `latch_survives` says that it is only this: in a run whose
failed writes leave a file that starts latched, and in which nothing is moved away, the latch
survives.

An exception that escapes from a call ends the sidecar.  Since every write may be answered that
way, this is also a crash in the middle of a call.
-/

namespace ChronosHFT.Sidecar

namespace Core

variable (st : Settings)

/-! ## Files that start latched -/

/-- Every start on this file comes up latched. -/
def FileLatched (file : Option FileContent) : Prop :=
  ∀ disk input c, disk.file = file → Core.start st disk input = .ok c →
    c.control.killLatched = true

variable {st}

/-- What loading does to a core depends on neither its disk nor its clock. -/
theorem loadIdentities_move (c : Core) (payload : FilePayload) (disk : Disk) (now : ℚ) :
    ({ c with disk := disk, lastParentHeartbeatAt := now } : Core).loadIdentities st payload =
      ({ (c.loadIdentities st payload).1 with disk := disk, lastParentHeartbeatAt := now },
        (c.loadIdentities st payload).2) := by
  unfold loadIdentities
  dsimp only
  cases haccount : checkIdentity "account_identity" (Text.strip payload.accountKeyFingerprint)
      c.accountKeyFingerprint with
  | error err => rfl
  | ok u =>
    dsimp only
    cases hdeployment : checkIdentity "deployment_identity" (Text.strip payload.deploymentId)
        c.observation.equity.deploymentId with
    | error err => rfl
    | ok u => rfl

theorem loadPayload_move (c : Core) (payload : FilePayload) (sha256 : String) (disk : Disk)
    (now : ℚ) :
    ({ c with disk := disk, lastParentHeartbeatAt := now } : Core).loadPayload st payload
      sha256 =
      ({ (c.loadPayload st payload sha256).1 with disk := disk, lastParentHeartbeatAt := now },
        (c.loadPayload st payload sha256).2) := by
  unfold loadPayload
  cases recordHeader st payload sha256 with
  | error err => rfl
  | ok generation =>
    dsimp only
    rw [loadIdentities_move]
    cases hidentities : c.loadIdentities st payload with
    | mk c identities =>
      cases identities with
      | error err => rfl
      | ok u =>
        cases controlFields payload with
        | error err => rfl
        | ok fields =>
          dsimp only
          cases hloss : (loadNumbers payload loadedNumbers
              { c.observation.equity with riskDay := payload.riskDay }).2.bind
              fun _ => numberField "state.deployment_loss" payload.deploymentLoss with
          | error err => rfl
          | ok loss =>
            dsimp only
            split <;> rfl

theorem loadContent_move (c : Core) (content : FileContent) (disk : Disk) (now : ℚ) :
    ({ c with disk := disk, lastParentHeartbeatAt := now } : Core).loadContent st content =
      ({ (c.loadContent st content).1 with disk := disk, lastParentHeartbeatAt := now },
        (c.loadContent st content).2) := by
  unfold loadContent
  cases content with
  | unreadable reason => rfl
  | notRecord => rfl
  | record payload sha256 =>
    cases payload with
    | none => rfl
    | some payload => exact loadPayload_move c payload sha256 disk now

/-- Two fresh sidecars make the same of a file. -/
theorem loadContent_fresh (content : FileContent) (disk disk' : Disk) (now now' : ℚ) :
    (fresh st disk' now').loadContent st content =
      ({ ((fresh st disk now).loadContent st content).1 with
          disk := disk'
          lastParentHeartbeatAt := now' }, ((fresh st disk now).loadContent st content).2) :=
  loadContent_move (fresh st disk now) content disk' now'

/-- Loading leaves the disk. -/
theorem disk_loadContent (st : Settings) (c : Core) (content : FileContent) :
    (c.loadContent st content).1.disk = c.disk := by
  have hidentities : ∀ payload, (c.loadIdentities st payload).1.disk = c.disk := by
    intro payload
    unfold loadIdentities
    dsimp only
    split
    · rfl
    · split <;> rfl
  unfold loadContent
  split
  · rfl
  · rfl
  · rfl
  rename_i payload sha256
  have hdisk := hidentities payload
  unfold loadPayload
  split
  · rfl
  split <;> rename_i heq <;> rw [heq] at hdisk
  · exact hdisk
  split
  · exact hdisk
  dsimp only
  split
  · exact hdisk
  · split <;> exact hdisk

theorem controlFields_eq_ok {payload : FilePayload} {fields : Bool × Bool × ℚ}
    (h : controlFields payload = .ok fields) :
    boolField "ValueError:state_kill_latch_invalid" payload.killLatched = .ok fields.1 := by
  unfold controlFields at h
  cases hlatch : boolField "ValueError:state_kill_latch_invalid" payload.killLatched with
  | error err =>
    rw [hlatch] at h
    cases h
  | ok latched =>
    cases hquiesced : boolField "ValueError:state_quiesced_invalid" payload.quiesced with
    | error err =>
      rw [hlatch, hquiesced] at h
      cases h
    | ok quiesced =>
      cases hat : numberField "state.quiesced_at" payload.quiescedAt with
      | error err =>
        rw [hlatch, hquiesced, hat] at h
        cases h
      | ok quiescedAt =>
        rw [hlatch, hquiesced, hat] at h
        simp only [bind, Except.bind] at h
        split at h
        · cases h
        split at h
        · cases h
        cases h
        rfl

variable {content : FileContent}

/-- What a file that is loaded says of the latch. -/
theorem loadContent_eq_ok {c c' : Core} (h : c.loadContent st content = (c', .ok ())) :
    (∃ payload sha256, content = .record (some payload) sha256 ∧
      boolField "ValueError:state_kill_latch_invalid" payload.killLatched =
        .ok c'.control.killLatched) ∧
      c'.lastPersistedFingerprint = some (c'.fingerprint st) ∧ c'.disk = c.disk := by
  have hdisk := disk_loadContent st c content
  rw [h] at hdisk
  unfold loadContent at h
  split at h
  · cases congrArg Prod.snd h
  · cases congrArg Prod.snd h
  · cases congrArg Prod.snd h
  rename_i payload sha256
  unfold loadPayload at h
  split at h
  · cases congrArg Prod.snd h
  split at h
  · cases congrArg Prod.snd h
  cases hfields : controlFields payload with
  | error err =>
    rw [hfields] at h
    cases congrArg Prod.snd h
  | ok fields =>
    rw [hfields] at h
    dsimp only at h
    split at h
    · cases congrArg Prod.snd h
    split at h
    · cases congrArg Prod.snd h
    cases h
    exact ⟨⟨payload, sha256, rfl, controlFields_eq_ok hfields⟩, rfl, hdisk⟩

/-- A start on a file that is there comes up latched, or has loaded it. -/
theorem start_file_cases (hfile : st.backend = .file) {disk : Disk} {input : StartInput}
    {c : Core}
    (hcontent : disk.file = some content)
    (h : Core.start st disk input = .ok c) : c.control.killLatched = true ∨
      (input.readError = none ∧
        (fresh st disk input.now).loadContent st content = (c, .ok ())) := by
  have hdisk : (fresh st disk input.now).disk.file = some content := hcontent
  unfold start at h
  simp only [hfile] at h
  unfold loadFile at h
  simp only [hdisk] at h
  split at h
  · cases h
  rename_i loaded hloaded
  cases h
  cases hread : input.readError with
  | some reason =>
    left
    rw [hread] at hloaded
    dsimp only at hloaded
    unfold loadContent at hloaded
    cases hloaded
    rfl
  | none =>
    rw [hread] at hloaded
    dsimp only at hloaded
    split at hloaded
    · rename_i hok
      cases hloaded
      exact Or.inr ⟨rfl, hok⟩
    · left
      cases hloaded
      rfl

/-- A record with the latch set starts latched. -/
theorem fileLatched_record (hfile : st.backend = .file) {payload : FilePayload} {sha256 : String}
    (h : payload.killLatched = .is true) :
    FileLatched st (some (.record (some payload) sha256)) := by
  intro disk input c hcontent hstart
  rcases start_file_cases hfile hcontent hstart with hlatched | ⟨-, hloaded⟩
  · exact hlatched
  obtain ⟨⟨payload', sha256', heq, hbool⟩, -⟩ := loadContent_eq_ok hloaded
  cases heq
  rw [h] at hbool
  exact (Except.ok.inj hbool).symm

/-- A file that was found corrupt starts latched, as long as it is there. -/
theorem fileLatched_of_error (hfile : st.backend = .file) {disk : Disk}
    {now : ℚ} {err : LoadFailure}
    (h : ((fresh st disk now).loadContent st content).2 = .error err) :
    FileLatched st (some content) := by
  intro disk' input c hcontent hstart
  rcases start_file_cases hfile hcontent hstart with hlatched | ⟨-, hloaded⟩
  · exact hlatched
  rw [loadContent_fresh content disk disk' now input.now] at hloaded
  have hok := congrArg Prod.snd hloaded
  dsimp only at hok
  rw [h] at hok
  cases hok

/-- A file that was loaded with the latch set starts latched. -/
theorem fileLatched_of_loaded (hfile : st.backend = .file) {disk : Disk}
    {now : ℚ} {c : Core} (h : (fresh st disk now).loadContent st content = (c, .ok ()))
    (hlatched : c.control.killLatched = true) : FileLatched st (some content) := by
  obtain ⟨⟨payload, sha256, rfl, hbool⟩, -⟩ := loadContent_eq_ok h
  rw [hlatched] at hbool
  refine fileLatched_record hfile ?_
  cases hfield : payload.killLatched with
  | missing =>
    rw [hfield] at hbool
    cases hbool
  | wrong =>
    rw [hfield] at hbool
    cases hbool
  | is latched =>
    rw [hfield] at hbool
    cases hbool
    rfl

/-! ## What is known between calls -/

variable (st)

/-- What the last write is compared by is what the file starts with. -/
def Kept (c : Core) : Prop :=
  ∀ fp, c.lastPersistedFingerprint = some fp → fp.killLatched = true → FileLatched st c.disk.file

/-- **A latched sidecar has a file that starts latched.** -/
def Held (c : Core) : Prop :=
  c.control.killLatched = true → FileLatched st c.disk.file

/-- The event of the takeover in a step.  The same step writes once more after it. -/
def takeoverEvent : String := "supervisor_quiesce_safety_takeover"

/-- **The disk of a call.**  A write that fails leaves a file that starts latched; that of the
takeover in a step need not, since the step writes the file again. -/
def SoundStorage (storage : Storage) : Prop :=
  ∀ event before payload replaced error,
    storage.writeFile event before payload = .failed replaced error →
      event = takeoverEvent ∨
        FileLatched st
          (if replaced then some (.record (some payload) (st.checksum payload)) else before)

/-- What every part of a call but a commit's does to the file. -/
structure Guards (c c' : Core) : Prop where
  latched : c.control.killLatched = true → c'.control.killLatched = true
  kept : c.Kept st → c'.Kept st
  file : c.control.killLatched = true → FileLatched st c.disk.file → FileLatched st c'.disk.file

/-- The disk and what was last written are as before. -/
structure SameDisk (c c' : Core) : Prop where
  disk : c'.disk = c.disk
  fingerprint : c'.lastPersistedFingerprint = c.lastPersistedFingerprint

/-- Nor is the latch touched. -/
structure Still (c c' : Core) : Prop extends SameDisk c c' where
  latch : c'.control.killLatched = c.control.killLatched

variable {st} {c c' c'' : Core}

theorem Guards.refl (c : Core) : c.Guards st c := ⟨id, id, fun _ => id⟩

theorem Guards.trans (h : c.Guards st c') (h' : c'.Guards st c'') : c.Guards st c'' :=
  ⟨fun hl => h'.latched (h.latched hl), fun hk => h'.kept (h.kept hk),
    fun hl hf => h'.file (h.latched hl) (h.file hl hf)⟩

theorem SameDisk.guards (h : c.SameDisk c') (hrest : c.Restrains c') : c.Guards st c' := by
  refine ⟨hrest.control.latched, fun hkept fp hfp hlatched => ?_, fun _ hfile => ?_⟩
  · rw [h.disk]
    exact hkept fp (h.fingerprint.symm.trans hfp) hlatched
  · rw [h.disk]
    exact hfile

theorem Still.refl (c : Core) : c.Still c := ⟨⟨rfl, rfl⟩, rfl⟩

theorem SameDisk.trans (h : c.SameDisk c') (h' : c'.SameDisk c'') : c.SameDisk c'' :=
  ⟨h'.disk.trans h.disk, h'.fingerprint.trans h.fingerprint⟩

theorem Still.trans (h : c.Still c') (h' : c'.Still c'') : c.Still c'' :=
  ⟨h.toSameDisk.trans h'.toSameDisk, h'.latch.trans h.latch⟩

theorem Still.guards (h : c.Still c') : c.Guards st c' := by
  refine ⟨fun hlatched => h.latch.trans hlatched, fun hkept fp hfp hlatched => ?_,
    fun _ hfile => ?_⟩
  · rw [h.disk]
    exact hkept fp (h.fingerprint.symm.trans hfp) hlatched
  · rw [h.disk]
    exact hfile

theorem Calm.still (h : c.Calm c') : c.Still c' :=
  ⟨⟨h.disk, h.fingerprint⟩, congrArg Control.killLatched h.control⟩

theorem Still.held (h : c.Still c') (hheld : c.Held st) : c'.Held st := by
  intro hlatched
  rw [h.disk]
  exact hheld (h.latch.symm.trans hlatched)

/-- With a file that starts latched nothing is to be known. -/
theorem held_of_fileLatched (h : FileLatched st c.disk.file) : c.Kept st ∧ c.Held st :=
  ⟨fun _ _ _ => h, fun _ => h⟩

/-! ### Persisting -/

section Persist

variable {storage : Storage}

/-- The file that persisting a latched sidecar writes starts latched. -/
theorem fileLatched_written (hfile : st.backend = .file)
    (hlatched : c.control.killLatched = true)
    (event : String) :
    FileLatched st (some (.record (some (c.filePayload st event))
      (st.checksum (c.filePayload st event)))) := by
  refine fileLatched_record hfile ?_
  unfold filePayload
  rw [hlatched]

theorem persistDurableState_file (hfile : st.backend = .file) {event : String} {force : Bool} :
    c.persistDurableState st storage event force = c.persistFile st storage event force := by
  unfold persistDurableState
  rw [hfile]

/-- **Persisting**, whatever becomes of it. -/
theorem guards_persist (hfile : st.backend = .file) (hsound : SoundStorage st storage)
    (event : String) (force : Bool)
    (hevent : event ≠ takeoverEvent ∨ c.control.killLatched = true) :
    c.Guards st (c.persistDurableState st storage event force).1 := by
  have hrest := (restrains_persistDurableState st c storage event force).control.latched
  rw [persistDurableState_file hfile] at hrest ⊢
  refine ⟨hrest, ?_, ?_⟩
  · intro hkept
    unfold persistFile
    split
    · exact hkept
    dsimp only
    split
    · exact hkept
    · rename_i replaced error hwrite
      intro fp hfp hlatched
      cases replaced with
      | false =>
        exact hkept fp hfp hlatched
      | true =>
        have hfailed := hsound event c.disk.file (c.filePayload st event) true error hwrite
        rcases hevent with hevent | hlatched
        · exact hfailed.resolve_left hevent
        · exact fileLatched_written hfile hlatched event
    · intro fp hfp hlatched
      cases hfp
      exact fileLatched_written hfile hlatched event
  · intro hlatched hf
    unfold persistFile
    split
    · exact hf
    dsimp only
    split
    · exact hf
    · rename_i replaced error hwrite
      cases replaced with
      | false => exact hf
      | true => exact fileLatched_written hfile hlatched event
    · exact fileLatched_written hfile hlatched event

/-- **Persisting that returns** leaves a latched sidecar with a file that starts latched. -/
theorem held_persist (hfile : st.backend = .file) (hsound : SoundStorage st storage)
    (event : String) (force : Bool) (hevent : event ≠ takeoverEvent) (hkept : c.Kept st)
    (hreturned : (c.persistDurableState st storage event force).2 ≠ none) :
    (c.persistDurableState st storage event force).1.Held st := by
  rw [persistDurableState_file hfile] at hreturned ⊢
  unfold persistFile at hreturned ⊢
  split at hreturned
  · -- nothing is written: the last write was of a latched sidecar, too
    rename_i hsame
    rw [if_pos hsame]
    intro hlatched
    exact hkept _ hsame.2 hlatched
  · rename_i hnew
    rw [if_neg hnew]
    dsimp only at hreturned ⊢
    split at hreturned
    · exact absurd rfl hreturned
    · rename_i replaced error hwrite
      have hfailed := (hsound event c.disk.file (c.filePayload st event) replaced error
        hwrite).resolve_left hevent
      intro hlatched
      cases replaced with
      | false => exact hfailed
      | true => exact hfailed
    · intro hlatched
      have hbefore : c.control.killLatched = true := hlatched
      exact fileLatched_written hfile hbefore event

/-- A failure to persist latches the sidecar. -/
theorem latched_of_persist_failed (hfile : st.backend = .file) (storage : Storage)
    (event : String)
    (force : Bool)
    (hfailed : (c.persistDurableState st storage event force).2 = some false) :
    (c.persistDurableState st storage event force).1.control.killLatched = true := by
  rw [persistDurableState_file hfile] at hfailed ⊢
  unfold persistFile at hfailed ⊢
  split at hfailed
  · cases hfailed
  rename_i hnew
  rw [if_neg hnew]
  dsimp only at hfailed ⊢
  split at hfailed
  · cases hfailed
  · rfl
  · cases hfailed

theorem persistControlTransition_file (hfile : st.backend = .file) (storage : Storage)
    (event : String) (requirePath : Bool) :
    (c.persistControlTransition st storage event requirePath).1 =
        (c.persistDurableState st storage event true).1 ∧
      ((c.persistControlTransition st storage event requirePath).2 = none ↔
        (c.persistDurableState st storage event true).2 = none) ∧
      (∀ error, (c.persistControlTransition st storage event requirePath).2 =
        some (false, error) →
        (c.persistDurableState st storage event true).2 = some false) := by
  unfold persistControlTransition
  rw [if_neg (by simp [hfile])]
  cases hpersist : c.persistDurableState st storage event true with
  | mk persisted result =>
    cases result with
    | none =>
      dsimp only
      exact ⟨rfl, ⟨fun _ => rfl, fun _ => rfl⟩, nofun⟩
    | some ok =>
      dsimp only
      refine ⟨rfl, ⟨nofun, nofun⟩, fun error h => ?_⟩
      cases h
      rfl

end Persist

/-! ### The parts of a call that do not persist -/

section Still

variable (st)

theorem still_updateParentStaleState (c : Core) (healthy : Bool) (now : ℚ) :
    c.Still (c.updateParentStaleState st healthy now) := by
  unfold updateParentStaleState
  split
  · exact ⟨⟨rfl, rfl⟩, rfl⟩
  split
  · exact ⟨⟨rfl, rfl⟩, Control.killLatched_bumpIfChanged _ _ _⟩
  · exact Still.refl c

theorem still_finishStop (c : Core) (accepted : Bool) (reason : String)
    (cancelRequested cancelAttempted : Bool) (cancelOk : Option Bool) :
    c.Still (c.finishStop accepted reason cancelRequested cancelAttempted cancelOk).1 :=
  ⟨⟨rfl, rfl⟩, rfl⟩

theorem still_prepareRearm (c : Core) (requestId reason : String) (now : ℚ) (input : GateInput)
    (token : String) : c.Still (c.prepareRearm st requestId reason now input token).1 := by
  unfold prepareRearm
  dsimp only
  have hstill : c.Still (if requestId = "" then (c, some (.error "request_id_missing"))
      else c.checkRearmSafety st now input).1 := by
    split
    · exact Still.refl c
    · exact (calm_checkRearmSafety st c now input).still
  split <;> rename_i heq <;> rw [heq] at hstill
  · exact hstill
  · exact hstill.trans ⟨⟨rfl, rfl⟩, (notes_prepareRearm st _ _ _ _ _ _ _).killLatched⟩

theorem still_abortRearm (c : Core) (token : String) : c.Still (c.abortRearm token).1 := by
  unfold abortRearm
  split
  · exact Still.refl c
  · rename_i heq
    exact ⟨⟨rfl, rfl⟩, (notes_abortRearm heq).1.killLatched⟩

end Still

/-! ### The parts that do -/

section Calls

variable (hfile : st.backend = .file) {storage : Storage} (hsound : SoundStorage st storage)

include hfile hsound

theorem guards_persistControlTransition (event : String) (requirePath : Bool)
    (hevent : event ≠ takeoverEvent ∨ c.control.killLatched = true) :
    c.Guards st (c.persistControlTransition st storage event requirePath).1 := by
  obtain ⟨hsame, -⟩ :=
    persistControlTransition_file (c := c) hfile storage event requirePath
  rw [hsame]
  exact guards_persist hfile hsound event true hevent

theorem held_persistControlTransition (event : String) (requirePath : Bool)
    (hevent : event ≠ takeoverEvent) (hkept : c.Kept st)
    (hreturned : (c.persistControlTransition st storage event requirePath).2 ≠ none) :
    (c.persistControlTransition st storage event requirePath).1.Held st := by
  obtain ⟨hsame, hnone, -⟩ :=
    persistControlTransition_file (c := c) hfile storage event requirePath
  rw [hsame]
  exact held_persist hfile hsound event true hevent hkept fun h => hreturned (hnone.mpr h)

/-- **Quiescing.**  If it is not persisted, the sidecar is latched, and so is its file. -/
theorem guards_enterQuiesced (reason event : String) (wallTime : ℚ)
    (hevent : event ≠ takeoverEvent) :
    c.Guards st (c.enterQuiesced st storage reason event wallTime).1 ∧
      (c.Kept st → (c.enterQuiesced st storage reason event wallTime).2 ≠ none →
        (c.enterQuiesced st storage reason event wallTime).1.Held st) := by
  unfold enterQuiesced
  dsimp only
  have hbegin : c.Still { c with
      control := c.control.beginQuiesced st.control reason c.observation.riskSnapshotSequence
        wallTime } := ⟨⟨rfl, rfl⟩, Control.killLatched_bumpIfChanged _ _ _⟩
  generalize ({ c with
      control := c.control.beginQuiesced st.control reason c.observation.riskSnapshotSequence
        wallTime } : Core) = begun at hbegin ⊢
  have hguards := guards_persistControlTransition (c := begun) hfile hsound event true
    (Or.inl hevent)
  have hheld := held_persistControlTransition (c := begun) hfile hsound event true hevent
  obtain ⟨hsame, -, hfailed⟩ :=
    persistControlTransition_file (c := begun) hfile storage event true
  have hlatched := latched_of_persist_failed (c := begun) hfile storage event true
  rw [← hsame] at hlatched
  cases htransition : begun.persistControlTransition st storage event true with
  | mk persisted result =>
    rw [htransition] at hguards hheld hfailed hlatched
    match result with
    | none => exact ⟨hbegin.guards.trans hguards, fun _ h => absurd rfl h⟩
    | some (true, error) =>
      exact ⟨hbegin.guards.trans hguards,
        fun hkept _ => hheld (hbegin.guards.kept hkept) nofun⟩
    | some (false, error) =>
      have hset : persisted.control.killLatched = true := hlatched (hfailed error rfl)
      have hquiet : persisted.Still
          ({ persisted with control := persisted.control.quiesceFailed st.control error } :
            Core).resetRetries := by
        refine ⟨⟨rfl, rfl⟩, ?_⟩
        rw [hset]
        exact Control.killLatched_bumpIfChanged _ _ _
      exact ⟨(hbegin.guards.trans hguards).trans hquiet.guards,
        fun hkept _ => hquiet.held (hheld (hbegin.guards.kept hkept) nofun)⟩

/-- **Taking over.**  The sidecar is latched first. -/
theorem guards_takeoverFromQuiesce (reason event : String) :
    c.Guards st (c.takeoverFromQuiesce st storage reason event).1 ∧
      (c.takeoverFromQuiesce st storage reason event).1.control.killLatched = true ∧
      (event ≠ takeoverEvent → c.Kept st →
        (c.takeoverFromQuiesce st storage reason event).2 ≠ none →
        (c.takeoverFromQuiesce st storage reason event).1.Held st) := by
  unfold takeoverFromQuiesce
  dsimp only
  have hrest := restrains_of_control (c := c)
    (Control.restrains_beginTakeover st.control c.control reason)
  have hlatched : (c.control.beginTakeover st.control reason).killLatched = true :=
    Control.killLatched_bumpIfChanged _ _ _
  have hbegin : c.Guards st { c with control := c.control.beginTakeover st.control reason } :=
    SameDisk.guards ⟨rfl, rfl⟩ hrest
  have hset : ({ c with control := c.control.beginTakeover st.control reason } :
      Core).control.killLatched = true := hlatched
  generalize ({ c with control := c.control.beginTakeover st.control reason } : Core) = begun
    at hbegin hset ⊢
  have hguards := guards_persistControlTransition (c := begun) hfile hsound event false
    (Or.inr hset)
  have hheld := held_persistControlTransition (c := begun) hfile hsound event false
  cases htransition : begun.persistControlTransition st storage event false with
  | mk persisted result =>
    rw [htransition] at hguards hheld
    have hpersisted := hguards.latched hset
    cases result with
    | none => exact ⟨hbegin.trans hguards, hpersisted, fun _ _ h => absurd rfl h⟩
    | some result =>
      have hstill := (calm_resetRetries persisted).still
      exact ⟨(hbegin.trans hguards).trans hstill.guards, hpersisted,
        fun hevent hkept _ => hstill.held (hheld hevent (hbegin.kept hkept) nofun)⟩

variable {input : StepInput}

/-- **A stop request.** -/
theorem serves_completeStopRequest (now : ℚ) (hinput : input.storage = storage) :
    c.Guards st (c.completeStopRequest st now input).1 ∧
      (c.Kept st → c.Held st → (c.completeStopRequest st now input).2 ≠ none →
        (c.completeStopRequest st now input).1.Held st) := by
  subst hinput
  unfold completeStopRequest
  dsimp only
  have htruth := (calm_stopTruth st c now input).still
  cases hlooked : c.stopTruth st now input with
  | mk looked truth =>
    rw [hlooked] at htruth
    cases truth with
    | none => exact ⟨htruth.guards, fun _ _ h => absurd rfl h⟩
    | some truth =>
      dsimp only
      have hquiet : ∀ stopped : Core, looked.Still stopped → c.Guards st stopped ∧
          (c.Held st → stopped.Held st) :=
        fun stopped h => ⟨(htruth.trans h).guards, (htruth.trans h).held⟩
      cases hplan : looked.control.stopPlan truth.exchangeValid looked.observation.exchangeReason
          truth.openOrderCount truth.nonzeroPositionCount truth.sequence with
      | wait => exact ⟨htruth.guards, fun _ hheld _ => htruth.held hheld⟩
      | takeover reason transitionReason =>
        dsimp only
        obtain ⟨hguards, -, hheld⟩ := guards_takeoverFromQuiesce (c := looked) hfile hsound
          (orText transitionReason reason) "supervisor_stop_guard_takeover"
        cases hover : looked.takeoverFromQuiesce st input.storage
            (orText transitionReason reason) "supervisor_stop_guard_takeover" with
        | mk taken result =>
          rw [hover] at hguards hheld
          cases result with
          | none => exact ⟨htruth.guards.trans hguards, fun _ _ h => absurd rfl h⟩
          | some result =>
            have hstill := still_finishStop taken false reason c.control.cancelOnStop false
              none
            exact ⟨(htruth.guards.trans hguards).trans hstill.guards, fun hkept _ _ =>
              hstill.held (hheld (by decide) (htruth.guards.kept hkept) nofun)⟩
      | quiesce reason =>
        dsimp only
        obtain ⟨hguards, hheld⟩ := guards_enterQuiesced (c := looked) hfile hsound
          reason "supervisor_stop_quiesced" input.wallTime (by decide)
        cases henter : looked.enterQuiesced st input.storage reason "supervisor_stop_quiesced"
            input.wallTime with
        | mk entered result =>
          rw [henter] at hguards hheld
          have hfinish : ∀ accepted text ok, c.Guards st (entered.finishStop accepted text
              c.control.cancelOnStop false ok).1 ∧ (result ≠ none → c.Kept st →
              (entered.finishStop accepted text c.control.cancelOnStop false
                ok).1.Held st) := by
            intro accepted text ok
            have hstill := still_finishStop entered accepted text c.control.cancelOnStop false
              ok
            exact ⟨(htruth.guards.trans hguards).trans hstill.guards,
              fun hne hkept => hstill.held (hheld (htruth.guards.kept hkept) hne)⟩
          match result with
          | none => exact ⟨htruth.guards.trans hguards, fun _ _ h => absurd rfl h⟩
          | some (true, _) =>
            exact ⟨(hfinish _ _ _).1, fun hkept _ _ => (hfinish _ _ _).2 nofun hkept⟩
          | some (false, _) =>
            exact ⟨(hfinish _ _ _).1, fun hkept _ _ => (hfinish _ _ _).2 nofun hkept⟩
      | cancel =>
        have h := hquiet _ ((calm_emergencyCancel looked now input.cancel).still.trans
          (still_finishStop _ false
            (if (looked.emergencyCancel now input.cancel).2 then
              "stop_after_cancel_requires_fresh_quiesce"
            else orText (looked.emergencyCancel now input.cancel).1.lastCancelReason
              "stop_cancel_failed") c.control.cancelOnStop true
            (some (looked.emergencyCancel now input.cancel).2)))
        exact ⟨h.1, fun _ hheld _ => h.2 hheld⟩
      | reject reason =>
        have h := hquiet _ (still_finishStop looked false reason c.control.cancelOnStop false
          none)
        exact ⟨h.1, fun _ hheld _ => h.2 hheld⟩

/-- **The end of an active step.** -/
theorem serves_stepExit (hinput : input.storage = storage) (e : Evaluation) (reply : StepReply) :
    c.Guards st (c.stepExit st input e reply).1 ∧
      (c.Kept st → c.Held st → (c.stepExit st input e reply).2 ≠ none →
        (c.stepExit st input e reply).1.Held st) := by
  subst hinput
  unfold stepExit
  dsimp only
  split
  · exact ⟨Guards.refl c, fun _ hheld _ => hheld⟩
  have hproof := (calm_captureAccountFlatProof st c "ORPHAN_EXIT"
    (max c.parentStaleSince (max c.lastCancelAttemptAt c.lastFlattenAttemptAt))
    input.orphanProof).still
  cases hcapture : c.captureAccountFlatProof st "ORPHAN_EXIT"
      (max c.parentStaleSince (max c.lastCancelAttemptAt c.lastFlattenAttemptAt))
      input.orphanProof with
  | mk proved result =>
    rw [hcapture] at hproof
    match result with
    | none => exact ⟨hproof.guards, fun _ _ h => absurd rfl h⟩
    | some false =>
      have hstill : c.Still { proved with
          control := { proved.control.resetFlatVerification st.control with
            stage := .flattening } } :=
        hproof.trans ⟨⟨rfl, rfl⟩, Control.killLatched_bumpIfChanged _ _ _⟩
      exact ⟨hstill.guards, fun _ hheld _ => hstill.held hheld⟩
    | some true =>
      dsimp only
      have hguards := guards_persist (c := proved) hfile hsound "account_wide_flat_proof" true
        (Or.inl (by decide))
      have hheld := held_persist (c := proved) hfile hsound "account_wide_flat_proof" true
        (by decide)
      cases hpersist : proved.persistDurableState st input.storage "account_wide_flat_proof"
          true with
      | mk persisted result =>
        rw [hpersist] at hguards hheld
        have hall := hproof.guards.trans hguards
        match result with
        | none => exact ⟨hall, fun _ _ h => absurd rfl h⟩
        | some true => exact ⟨hall, fun hkept _ _ => hheld (hproof.guards.kept hkept) nofun⟩
        | some false => exact ⟨hall, fun hkept _ _ => hheld (hproof.guards.kept hkept) nofun⟩

/-- **An active step** holds the latch whatever it met before it. -/
theorem serves_stepActive (now : ℚ) (hinput : input.storage = storage) :
    c.Guards st (c.stepActive st now input).1 ∧
      (c.Kept st → (c.stepActive st now input).2 ≠ none →
        (c.stepActive st now input).1.Held st) := by
  subst hinput
  unfold stepActive
  dsimp only
  have hdecide : c.Guards st (c.stepDecide st now input).1 :=
    SameDisk.guards ⟨(decides_stepDecide st c now input).disk,
      (decides_stepDecide st c now input).fingerprint⟩ (restrains_stepDecide st c now input)
  generalize c.stepDecide st now input = decided at hdecide ⊢
  obtain ⟨decided, e, action, reason⟩ := decided
  dsimp only at hdecide ⊢
  have hguards := guards_persist (c := decided) hfile hsound "risk_state_transition" false
    (Or.inl (by decide))
  have hheld := held_persist (c := decided) hfile hsound "risk_state_transition" false
    (by decide)
  cases hpersist : decided.persistDurableState st input.storage "risk_state_transition"
    false with
  | mk persisted result =>
    rw [hpersist] at hguards hheld
    have hall := hdecide.trans hguards
    have hexit : ∀ reply, c.Guards st (persisted.stepExit st input e reply).1 ∧
        (result ≠ none → c.Kept st → (persisted.stepExit st input e reply).2 ≠ none →
          (persisted.stepExit st input e reply).1.Held st) := by
      intro reply
      obtain ⟨hg, hh⟩ := serves_stepExit (c := persisted) hfile hsound rfl e reply
      exact ⟨hall.trans hg, fun hne hkept hreturned =>
        hh (hall.kept hkept) (hheld (hdecide.kept hkept) hne) hreturned⟩
    match result with
    | none => exact ⟨hall, fun _ h => absurd rfl h⟩
    | some true => exact ⟨(hexit _).1, fun hkept => (hexit _).2 nofun hkept⟩
    | some false => exact ⟨(hexit _).1, fun hkept => (hexit _).2 nofun hkept⟩

/-- **A quiesced step.** -/
theorem serves_stepQuiesced (now : ℚ) (hinput : input.storage = storage) :
    c.Guards st (c.stepQuiesced st now input).1 ∧
      (c.Kept st → c.Held st → (c.stepQuiesced st now input).2 ≠ none →
        (c.stepQuiesced st now input).1.Held st) := by
  subst hinput
  unfold stepQuiesced
  dsimp only
  have hservice : c.Still (c.serviceExchangeRisk st now
      (decide (c.observation.riskSnapshotSequence ≤ c.control.quiesceSnapshotSequence))
      input.service) := ⟨⟨rfl, rfl⟩, rfl⟩
  generalize c.serviceExchangeRisk st now
    (decide (c.observation.riskSnapshotSequence ≤ c.control.quiesceSnapshotSequence))
    input.service = served at hservice ⊢
  generalize served.evaluation st now = e
  have hstale := hservice.trans (still_updateParentStaleState st served e.parentHealthy now)
  generalize served.updateParentStaleState st e.parentHealthy now = stale at hstale ⊢
  generalize Control.quiesceTakeoverReason e.parentHealthy stale.parentHeartbeatError
    e.exchangeValid stale.observation.exchangeReason e.openOrderCount e.nonzeroPositionCount =
    reason
  split
  · exact ⟨hstale.guards, fun _ hheld _ => hstale.held hheld⟩
  -- the takeover may not hold the latch, but the active step after it does
  obtain ⟨hguards, -, -⟩ := guards_takeoverFromQuiesce (c := stale) hfile hsound reason
    "supervisor_quiesce_safety_takeover"
  cases hover : stale.takeoverFromQuiesce st input.storage reason
      "supervisor_quiesce_safety_takeover" with
  | mk taken result =>
    rw [hover] at hguards
    have hall := hstale.guards.trans hguards
    cases result with
    | none => exact ⟨hall, fun _ _ h => absurd rfl h⟩
    | some result =>
      have hstill : taken.Still { taken with
          control := taken.control.failPendingStopAfterTakeover reason } := by
        refine ⟨⟨rfl, rfl⟩, ?_⟩
        unfold Control.failPendingStopAfterTakeover
        dsimp only
        split <;> rfl
      obtain ⟨hg, hh⟩ := serves_stepActive (c := { taken with
        control := taken.control.failPendingStopAfterTakeover reason }) hfile hsound now
        (rfl : input.storage = input.storage)
      have hbefore := hall.trans hstill.guards
      exact ⟨hbefore.trans hg, fun hkept _ hreturned => hh (hbefore.kept hkept) hreturned⟩

theorem serves_stepRunning (now : ℚ) (hinput : input.storage = storage) :
    c.Guards st (c.stepRunning st now input).1 ∧
      (c.Kept st → c.Held st → (c.stepRunning st now input).2 ≠ none →
        (c.stepRunning st now input).1.Held st) := by
  unfold stepRunning
  split
  · exact serves_stepQuiesced hfile hsound now hinput
  have hservice : c.Still (c.serviceExchangeRisk st now false input.service) := ⟨⟨rfl, rfl⟩, rfl⟩
  obtain ⟨hg, hh⟩ := serves_stepActive
    (c := c.serviceExchangeRisk st now false input.service) hfile hsound now hinput
  exact ⟨hservice.guards.trans hg,
    fun hkept _ hreturned => hh (hservice.guards.kept hkept) hreturned⟩

/-- **A step.** -/
theorem serves_step (now : ℚ) (hinput : input.storage = storage) :
    c.Guards st (c.step st now input).1 ∧
      (c.Kept st → c.Held st → (c.step st now input).2 ≠ none →
        (c.step st now input).1.Held st) := by
  unfold step
  split
  · obtain ⟨hguards, hheld⟩ := serves_completeStopRequest (c := c) hfile hsound now hinput
    cases hstop : c.completeStopRequest st now input with
    | mk stopped result =>
      rw [hstop] at hguards hheld
      match result with
      | none => exact ⟨hguards, fun _ _ h => absurd rfl h⟩
      | some none =>
        obtain ⟨hg, hh⟩ := serves_stepRunning (c := stopped) hfile hsound now hinput
        exact ⟨hguards.trans hg, fun hkept hheld' hreturned =>
          hh (hguards.kept hkept) (hheld hkept hheld' nofun) hreturned⟩
      | some (some accepted) =>
        exact ⟨hguards, fun hkept hheld' _ => hheld hkept hheld' nofun⟩
  · exact serves_stepRunning hfile hsound now hinput

theorem serves_requestQuiesce (requestId reason : String) (wallTime : ℚ) :
    c.Guards st (c.requestQuiesce st requestId reason wallTime storage).1 ∧
      (c.Kept st → c.Held st → (c.requestQuiesce st requestId reason wallTime storage).2 ≠ none →
        (c.requestQuiesce st requestId reason wallTime storage).1.Held st) := by
  unfold requestQuiesce
  split
  · have hstill : c.Still { c with
        control := c.control.recordQuiesce requestId false "request_id_missing" false } :=
      ⟨⟨rfl, rfl⟩, rfl⟩
    exact ⟨hstill.guards, fun _ hheld _ => hstill.held hheld⟩
  obtain ⟨hguards, hheld⟩ := guards_enterQuiesced (c := c) hfile hsound
    (orText reason "operator_quiesce") "supervisor_quiesced" wallTime (by decide)
  cases henter : c.enterQuiesced st storage (orText reason "operator_quiesce")
      "supervisor_quiesced" wallTime with
  | mk entered result =>
    rw [henter] at hguards hheld
    cases result with
    | none => exact ⟨hguards, fun _ _ h => absurd rfl h⟩
    | some result =>
      obtain ⟨persisted, error⟩ := result
      have hstill : entered.Still { entered with
          control := entered.control.recordQuiesce requestId persisted
            (if persisted then "supervisor_quiesced"
              else orText error "quiesce_state_persist_failed") persisted } :=
        ⟨⟨rfl, rfl⟩, rfl⟩
      exact ⟨hguards.trans hstill.guards, fun hkept _ _ => hstill.held (hheld hkept nofun)⟩

theorem serves_requestShutdownResume (requestId reason : String) :
    c.Guards st (c.requestShutdownResume st requestId reason storage).1 ∧
      (c.Kept st → c.Held st → (c.requestShutdownResume st requestId reason storage).2 ≠ none →
        (c.requestShutdownResume st requestId reason storage).1.Held st) := by
  unfold requestShutdownResume
  split
  · have hstill : c.Still { c with
        control := c.control.recordShutdownResume requestId false "request_id_missing" false } :=
      ⟨⟨rfl, rfl⟩, rfl⟩
    exact ⟨hstill.guards, fun _ hheld _ => hstill.held hheld⟩
  obtain ⟨hguards, -, hheld⟩ := guards_takeoverFromQuiesce (c := c) hfile hsound
    (orText reason "shutdown account truth drift") "supervisor_shutdown_guard_resumed"
  cases hover : c.takeoverFromQuiesce st storage (orText reason "shutdown account truth drift")
      "supervisor_shutdown_guard_resumed" with
  | mk taken result =>
    rw [hover] at hguards hheld
    cases result with
    | none => exact ⟨hguards, fun _ _ h => absurd rfl h⟩
    | some result =>
      obtain ⟨persisted, error⟩ := result
      have hstill : taken.Still { taken with
          control := taken.control.recordShutdownResume requestId persisted
            (if persisted then "supervisor_shutdown_guard_resumed"
              else orText error "shutdown_resume_state_persist_failed") persisted } :=
        ⟨⟨rfl, rfl⟩, rfl⟩
      exact ⟨hguards.trans hstill.guards,
        fun hkept _ _ => hstill.held (hheld (by decide) hkept nofun)⟩

/-- **A commit** leaves the file as it says, whether it is accepted or not. -/
theorem serves_commitRearm (requestId token : String) (now : ℚ) {input : GateInput}
    (hinput : input.storage = storage) (hkept : c.Kept st) (hheld : c.Held st) :
    (c.commitRearm st requestId token now input).1.Kept st ∧
      ((c.commitRearm st requestId token now input).2 ≠ none →
        (c.commitRearm st requestId token now input).1.Held st) := by
  subst hinput
  have hstill : ∀ c' : Core, c.Still c' → c'.Kept st ∧ c'.Held st :=
    fun c' h => ⟨h.guards.kept hkept, h.held hheld⟩
  unfold commitRearm
  cases hvalid : c.control.validateRearmCommit requestId token now c.rearmProofBinding with
  | none => exact ⟨hkept, fun h => absurd rfl h⟩
  | some validated =>
    obtain ⟨control, validity⟩ := validated
    have hlatch := (notes_validateRearmCommit hvalid).1.killLatched
    have hstart : c.Still { c with control := control } := ⟨⟨rfl, rfl⟩, hlatch⟩
    cases validity with
    | error refusal => exact ⟨(hstill _ hstart).1, fun _ => (hstill _ hstart).2⟩
    | ok u =>
      dsimp only
      have hchecked := hstart.trans (calm_checkRearmSafety st { c with control := control } now
        input).still
      cases hsafety : ({ c with control := control } : Core).checkRearmSafety st now input with
      | mk checkpoint safety =>
        rw [hsafety] at hchecked
        match safety with
        | none => exact ⟨(hstill _ hchecked).1, fun h => absurd rfl h⟩
        | some (.error refusal) =>
          have hrejected : c.Still { checkpoint with
              control := (checkpoint.control.rejectRearmCommit requestId refusal).1 } :=
            hchecked.trans ⟨⟨rfl, rfl⟩, rfl⟩
          exact ⟨(hstill _ hrejected).1, fun _ => (hstill _ hrejected).2⟩
        | some (.ok ()) =>
          dsimp only
          -- the latch is cleared, and what is known of the file stays
          have hbegun : (checkpoint.beginRearmCommit st).Kept st :=
            (hstill _ hchecked).1
          have hguards := guards_persist (c := checkpoint.beginRearmCommit st) hfile hsound
            "operator_rearm_committed" true (Or.inl (by decide))
          have hreturned := held_persist (c := checkpoint.beginRearmCommit st) hfile hsound
            "operator_rearm_committed" true (by decide) hbegun
          have hfailed := latched_of_persist_failed (c := checkpoint.beginRearmCommit st)
            hfile input.storage "operator_rearm_committed" true
          cases hpersist : (checkpoint.beginRearmCommit st).persistDurableState st
              input.storage "operator_rearm_committed" true with
          | mk persisted result =>
            rw [hpersist] at hguards hreturned hfailed
            have hk : persisted.Kept st := hguards.kept hbegun
            match result with
            | none => exact ⟨hk, fun h => absurd rfl h⟩
            | some false =>
              exact ⟨hk, fun _ _ => hreturned nofun (hfailed rfl)⟩
            | some true => exact ⟨hk, fun _ => hreturned nofun⟩

end Calls

end Core

/-! ## Calls and starts -/

/-- The call that may clear the latch. -/
def Call.isCommit : Call → Bool
  | .commitRearm .. => true
  | _ => false

theorem Reply.ne_none_of_ofOption {α : Type} {reply : α → Reply} {result : Option α}
    (h : (Reply.ofOption reply result).isRaised = false) : result ≠ none := by
  rintro rfl
  cases h

section Serve

variable {st : Settings} (hfile : st.backend = .file) {c : Core}

include hfile

/-- **A call.**  What is known of the file stays known; when the call returns, the latch is held;
and a file that starts latched stays so, unless the call is a commit. -/
theorem Core.serves_call (call : Call) (hsound : Core.SoundStorage st call.storage)
    (hkept : c.Kept st) (hheld : c.Held st) :
    (c.call st call).1.Kept st ∧
      ((c.call st call).2.isRaised = false → (c.call st call).1.Held st) ∧
      (call.isCommit = false → c.control.killLatched = true →
        Core.FileLatched st (c.call st call).1.disk.file) := by
  have hof : ∀ c' : Core, c.Guards st c' → (c'.Held st) → c'.Kept st ∧ c'.Held st ∧
      (c.control.killLatched = true → Core.FileLatched st c'.disk.file) :=
    fun c' hg hh => ⟨hg.kept hkept, hh, fun hl => hg.file hl (hheld hl)⟩
  have hstill : ∀ c' : Core, c.Still c' → c'.Kept st ∧ c'.Held st ∧
      (c.control.killLatched = true → Core.FileLatched st c'.disk.file) :=
    fun c' h => hof c' h.guards (h.held hheld)
  cases call with
  | heartbeat sequence sent now =>
    obtain ⟨hk, hh, hf⟩ := hstill _ (Core.calm_heartbeat st c sequence sent now).still
    exact ⟨hk, fun _ => hh, fun _ => hf⟩
  | quiesce requestId reason wallTime storage =>
    obtain ⟨hg, hh⟩ := Core.serves_requestQuiesce (c := c) hfile hsound requestId reason wallTime
    exact ⟨hg.kept hkept, fun hr => hh hkept hheld (Reply.ne_none_of_ofOption hr),
      fun _ hl => hg.file hl (hheld hl)⟩
  | resumeShutdown requestId reason storage =>
    obtain ⟨hg, hh⟩ := Core.serves_requestShutdownResume (c := c) hfile hsound requestId reason
    exact ⟨hg.kept hkept, fun hr => hh hkept hheld (Reply.ne_none_of_ofOption hr),
      fun _ hl => hg.file hl (hheld hl)⟩
  | stop requestId cancelOrders =>
    obtain ⟨hk, hh, hf⟩ := hstill
      { c with control := c.control.requestStop requestId cancelOrders } ⟨⟨rfl, rfl⟩, rfl⟩
    exact ⟨hk, fun _ => hh, fun _ => hf⟩
  | prepareRearm requestId reason now input token =>
    obtain ⟨hk, hh, hf⟩ := hstill
      _ (Core.still_prepareRearm st c requestId reason now input token)
    exact ⟨hk, fun _ => hh, fun _ => hf⟩
  | commitRearm requestId token now input =>
    obtain ⟨hk, hh⟩ := Core.serves_commitRearm hfile hsound requestId token now rfl hkept hheld
    exact ⟨hk, fun hr => hh (Reply.ne_none_of_ofOption hr), nofun⟩
  | abortRearm token =>
    obtain ⟨hk, hh, hf⟩ := hstill _ (Core.still_abortRearm c token)
    exact ⟨hk, fun _ => hh, fun _ => hf⟩
  | step now input =>
    obtain ⟨hg, hh⟩ := Core.serves_step (c := c) hfile hsound now rfl
    exact ⟨hg.kept hkept, fun hr => hh hkept hheld (Reply.ne_none_of_ofOption hr),
      fun _ hl => hg.file hl (hheld hl)⟩

end Serve

/-- What a start reads of a file. -/
def Core.StartInput.read (input : Core.StartInput) (content : FileContent) : FileContent :=
  match input.readError with
  | some reason => .unreadable reason
  | none => content

section Load

variable {st : Settings} {disk : Disk} {input : Core.StartInput} {content : FileContent}
  {loaded : Core}

theorem Core.loadFile_none (h : disk.file = none) {persisted : Core} {result : Option Bool}
    (hpersist : (Core.fresh st disk input.now).persistFile st input.storage "state_initialized"
      true = (persisted, result)) :
    (Core.fresh st disk input.now).loadFile st input = (persisted, result.map fun _ => ()) := by
  have hdisk : (Core.fresh st disk input.now).disk.file = none := h
  unfold Core.loadFile
  simp only [hdisk, hpersist]
  cases result <;> rfl

theorem Core.loadFile_ok (h : disk.file = some content)
    (hloaded : (Core.fresh st disk input.now).loadContent st (input.read content) =
      (loaded, .ok ())) :
    (Core.fresh st disk input.now).loadFile st input = (loaded, some ()) := by
  have hdisk : (Core.fresh st disk input.now).disk.file = some content := h
  unfold Core.StartInput.read at hloaded
  unfold Core.loadFile
  cases hread : input.readError <;> rw [hread] at hloaded <;> simp only [hdisk, hloaded]

theorem Core.loadFile_error (h : disk.file = some content) {err : Core.LoadFailure}
    (hloaded : (Core.fresh st disk input.now).loadContent st (input.read content) =
      (loaded, .error err)) :
    ∃ reason found, (Core.fresh st disk input.now).loadFile st input =
        (Core.failClosed found reason, some ()) ∧
      (found.disk = loaded.disk ∨
        (∃ error, err = .corrupt error) ∧
          found.disk = (loaded.quarantineCorrupt input.moved).disk) := by
  have hdisk : (Core.fresh st disk input.now).disk.file = some content := h
  unfold Core.StartInput.read at hloaded
  unfold Core.loadFile
  cases err with
  | identity error =>
    cases hread : input.readError <;> rw [hread] at hloaded <;>
      simp only [hdisk, hloaded] <;> exact ⟨_, _, rfl, Or.inl rfl⟩
  | corrupt error =>
    have hmoved : ∀ reason : String,
        (({ loaded with stateLoadError := reason } : Core).quarantineCorrupt input.moved).disk =
          (loaded.quarantineCorrupt input.moved).disk := by
      intro reason
      unfold Core.quarantineCorrupt
      dsimp only
      split
      · split <;> rfl
      · rfl
    cases hread : input.readError <;> rw [hread] at hloaded <;>
      simp only [hdisk, hloaded] <;>
      exact ⟨_, _, rfl, Or.inr ⟨⟨error, rfl⟩, hmoved _⟩⟩

/-- A corrupt file that cannot be moved stays. -/
theorem Core.quarantineCorrupt_stays (c : Core) : c.quarantineCorrupt false = c := by
  unfold Core.quarantineCorrupt
  split <;> rfl

end Load

section Start

/-- A file that was loaded, and that starts latched if it was loaded so. -/
theorem Core.held_loaded {st : Settings} (hfile : st.backend = .file) {disk : Disk}
    {input : Core.StartInput} {content : FileContent} {c : Core}
    (hcontent : disk.file = some content)
    (h : (Core.fresh st disk input.now).loadContent st (input.read content) = (c, .ok ())) :
    c.Kept st ∧ c.Held st := by
  unfold Core.StartInput.read at h
  cases hread : input.readError with
  | some reason =>
    rw [hread] at h
    cases congrArg Prod.snd h
  | none =>
    rw [hread] at h
    obtain ⟨-, hfp, hdisk⟩ := Core.loadContent_eq_ok h
    have hsame : c.disk.file = some content := by
      rw [hdisk]
      exact hcontent
    have hlatched : c.control.killLatched = true → Core.FileLatched st c.disk.file := by
      intro hlatched
      rw [hsame]
      exact Core.fileLatched_of_loaded hfile h hlatched
    refine ⟨fun fp heq hset => ?_, hlatched⟩
    rw [hfp] at heq
    cases heq
    exact hlatched hset

variable (st : Settings)

/-- A start that finds its file corrupt. -/
def Core.FindsCorrupt (disk : Disk) (input : Core.StartInput) (content : FileContent) : Prop :=
  disk.file = some content ∧
    ∃ err, ((Core.fresh st disk input.now).loadContent st (input.read content)).2 =
      .error (.corrupt err)

/-- **What a start meets.**  Its write is as those of the calls; a file that cannot be read
starts latched when it can; and a corrupt file stays where it is. -/
structure Core.SoundStart (disk : Disk) (input : Core.StartInput) : Prop where
  storage : Core.SoundStorage st input.storage
  read : ∀ reason content, input.readError = some reason → disk.file = some content →
    Core.FileLatched st (some content)
  moved : ∀ content, Core.FindsCorrupt st disk input content → input.moved = false

variable {st} (hfile : st.backend = .file) {disk : Disk} {input : Core.StartInput}

include hfile

/-- A corrupt file starts latched. -/
theorem Core.fileLatched_of_corrupt (hsound : Core.SoundStart st disk input)
    {content : FileContent} (h : Core.FindsCorrupt st disk input content) :
    Core.FileLatched st (some content) := by
  obtain ⟨hdisk, err, hcorrupt⟩ := h
  cases hread : input.readError with
  | some reason => exact hsound.read reason content hread hdisk
  | none =>
    unfold Core.StartInput.read at hcorrupt
    rw [hread] at hcorrupt
    exact Core.fileLatched_of_error hfile hcorrupt

/-- **A start** holds the latch. -/
theorem Core.held_start (hsound : Core.SoundStart st disk input) {c : Core}
    (h : Core.start st disk input = .ok c) : c.Kept st ∧ c.Held st := by
  unfold Core.start at h
  simp only [hfile] at h
  cases hcontent : disk.file with
  | none =>
    have hfresh : (Core.fresh st disk input.now).Kept st := by
      intro fp heq
      cases heq
    have hguards := Core.guards_persist (c := Core.fresh st disk input.now) hfile hsound.storage
      "state_initialized" true (Or.inl (by decide))
    have hheld := Core.held_persist (c := Core.fresh st disk input.now) hfile hsound.storage
      "state_initialized" true (by decide) hfresh
    rw [Core.persistDurableState_file hfile] at hguards hheld
    cases hpersist : (Core.fresh st disk input.now).persistFile st input.storage
        "state_initialized" true with
    | mk persisted result =>
      rw [Core.loadFile_none hcontent hpersist] at h
      rw [hpersist] at hguards hheld
      cases result with
      | none => cases h
      | some ok =>
        cases h
        exact ⟨hguards.kept hfresh, hheld nofun⟩
  | some content =>
    cases hloaded : (Core.fresh st disk input.now).loadContent st (input.read content) with
    | mk loaded result =>
      cases result with
      | ok u =>
        rw [Core.loadFile_ok hcontent hloaded] at h
        cases h
        exact Core.held_loaded hfile hcontent hloaded
      | error err =>
        obtain ⟨reason, found, hloadFile, hfound⟩ := Core.loadFile_error hcontent hloaded
        rw [hloadFile] at h
        cases h
        have hdisk := Core.disk_loadContent st (Core.fresh st disk input.now)
          (input.read content)
        rw [hloaded] at hdisk
        have hlatched : Core.FileLatched st disk.file := by
          rw [hcontent]
          cases hread : input.readError with
          | some reason => exact hsound.read reason content hread hcontent
          | none =>
            unfold Core.StartInput.read at hloaded
            rw [hread] at hloaded
            exact Core.fileLatched_of_error hfile (congrArg Prod.snd hloaded)
        have hsame : found.disk = disk := by
          rcases hfound with hfound | ⟨⟨error, rfl⟩, hfound⟩
          · exact hfound.trans hdisk
          · have hmoved := hsound.moved content ⟨hcontent, error, by rw [hloaded]⟩
            rw [hmoved, Core.quarantineCorrupt_stays] at hfound
            exact hfound.trans hdisk
        rw [← hsame] at hlatched
        exact Core.held_of_fileLatched hlatched

/-- A start that fails leaves the file. -/
theorem Core.start_error {left : Disk} (h : Core.start st disk input = .error left) :
    left.file = disk.file := by
  unfold Core.start at h
  simp only [hfile] at h
  cases hcontent : disk.file with
  | none =>
    cases hpersist : (Core.fresh st disk input.now).persistFile st input.storage
        "state_initialized" true with
    | mk persisted result =>
      rw [Core.loadFile_none hcontent hpersist] at h
      cases result with
      | some ok => cases h
      | none =>
        cases h
        unfold Core.persistFile at hpersist
        rw [if_neg (by simp)] at hpersist
        dsimp only at hpersist
        split at hpersist <;> cases hpersist
        exact hcontent
  | some content =>
    cases hloaded : (Core.fresh st disk input.now).loadContent st (input.read content) with
    | mk loaded result =>
      cases result with
      | ok u =>
        rw [Core.loadFile_ok hcontent hloaded] at h
        cases h
      | error err =>
        obtain ⟨reason, found, hloadFile, -⟩ := Core.loadFile_error hcontent hloaded
        rw [hloadFile] at h
        cases h

end Start

/-! ## The world -/

/-- The disk, the sidecar that runs on it, if there is one, and whether the next start owes it to
what happened to come up latched. -/
structure World where
  disk : Disk
  running : Option Core := none
  owed : Bool := false

/-- What happens: a start; a start that reads the file and crashes; a call, which may crash in
the middle; and a crash between the calls. -/
inductive Event
  | start (input : Core.StartInput)
  | startCrashes (input : Core.StartInput)
  | call (call : Call)
  | crash

section World

variable (st : Settings)

/-- Whether a start finds its file corrupt. -/
def Core.findsCorrupt (disk : Disk) (input : Core.StartInput) : Bool :=
  match disk.file with
  | none => false
  | some content =>
    match ((Core.fresh st disk input.now).loadContent st (input.read content)).2 with
    | .error (.corrupt _) => true
    | _ => false

/-- **One event.**  Between its calls a sidecar owes what its latch says.  A call that an
exception or a crash ends owes what the sidecar owed before it, unless it is a commit; and a
start that found its file corrupt owes a latched sidecar. -/
def World.next (w : World) : Event → World
  | .start input =>
    match w.running with
    | some _ => w
    | none =>
      match Core.start st w.disk input with
      | .ok c => { disk := c.disk, running := some c, owed := c.control.killLatched }
      | .error left => { w with disk := left }
  | .startCrashes input =>
    match w.running with
    | some _ => w
    | none => { w with owed := w.owed || Core.findsCorrupt st w.disk input }
  | .call call =>
    match w.running with
    | none => w
    | some c =>
      let (c, reply) := c.call st call
      if reply.isRaised then
        { disk := c.disk, running := none, owed := w.owed && !call.isCommit }
      else { disk := c.disk, running := some c, owed := c.control.killLatched }
  | .crash => { w with running := none }

/-- The world after some events. -/
def World.run (w : World) (events : List Event) : World := events.foldl (World.next st) w

/-- What an event meets. -/
def World.Sound (w : World) : Event → Prop
  | .start input => Core.SoundStart st w.disk input
  | .startCrashes input => Core.SoundStart st w.disk input
  | .call call => Core.SoundStorage st call.storage
  | .crash => True

/-- **The latch survives.**  The next start that is owed to come up latched does. -/
def World.Survives (w : World) : Prop := w.owed = true → Core.FileLatched st w.disk.file

/-- What is known of a world that is reached. -/
structure World.Known (w : World) : Prop where
  survives : w.Survives st
  running : ∀ c, w.running = some c → c.disk = w.disk ∧ c.Kept st ∧ c.Held st ∧
    w.owed = c.control.killLatched

variable {st} (hfile : st.backend = .file)

include hfile

/-- **One event keeps what is known.** -/
theorem World.Known.next {w : World} (h : w.Known st) {event : Event}
    (hsound : w.Sound st event) :
    (w.next st event).Known st := by
  cases event with
  | start input =>
    unfold World.next
    cases hrunning : w.running with
    | some c => exact h
    | none =>
      dsimp only
      cases hstart : Core.start st w.disk input with
      | ok c =>
        obtain ⟨hkept, hheld⟩ := Core.held_start hfile hsound hstart
        refine ⟨hheld, fun c' heq => ?_⟩
        cases heq
        exact ⟨rfl, hkept, hheld, rfl⟩
      | error left =>
        refine ⟨fun howed => ?_, fun c heq => ?_⟩
        · have hleft : left.file = w.disk.file := Core.start_error hfile hstart
          dsimp only
          rw [hleft]
          exact h.survives howed
        · cases heq
  | startCrashes input =>
    unfold World.next
    cases hrunning : w.running with
    | some c => exact h
    | none =>
      refine ⟨fun howed => ?_, fun c heq => ?_⟩
      · rcases Bool.or_eq_true_iff.mp howed with howed | hfinds
        · exact h.survives howed
        unfold Core.findsCorrupt at hfinds
        dsimp only
        cases hcontent : w.disk.file with
        | none =>
          rw [hcontent] at hfinds
          cases hfinds
        | some content =>
          rw [hcontent] at hfinds
          dsimp only at hfinds
          split at hfinds
          · rename_i err heq
            exact Core.fileLatched_of_corrupt hfile hsound ⟨hcontent, err, heq⟩
          · cases hfinds
      · cases heq
  | call call =>
    unfold World.next
    cases hrunning : w.running with
    | none => exact h
    | some c =>
      obtain ⟨-, hkept, hheld, howed⟩ := h.running c hrunning
      obtain ⟨hk, hh, hf⟩ := Core.serves_call hfile call hsound hkept hheld
      dsimp only
      cases hraised : (c.call st call).2.isRaised with
      | true =>
        rw [if_pos rfl]
        refine ⟨fun hboth => ?_, fun c' heq => ?_⟩
        · obtain ⟨hbefore, hcommit⟩ := Bool.and_eq_true_iff.mp hboth
          exact hf (by simpa using hcommit) (howed.symm.trans hbefore)
        · cases heq
      | false =>
        rw [if_neg (by simp)]
        refine ⟨hh hraised, fun c' heq => ?_⟩
        obtain rfl := Option.some.inj heq
        exact ⟨rfl, hk, hh hraised, rfl⟩
  | crash =>
    refine ⟨h.survives, fun c heq => ?_⟩
    cases heq

/-- **The latch and restarts.**  With the state file, in every run whose failed writes leave a
file that starts latched and whose corrupt files stay where they are, the latch survives at every
moment. -/
theorem latch_survives (disk : Disk) (events : List Event)
    (hsound : ∀ earlier event later, events = earlier ++ event :: later →
      (({ disk := disk } : World).run st earlier).Sound st event) :
    (({ disk := disk } : World).run st events).Survives st := by
  have hknown : (({ disk := disk } : World).run st events).Known st := by
    induction events using List.reverseRecOn with
    | nil =>
      refine ⟨fun howed => ?_, fun c heq => ?_⟩
      · cases howed
      · cases heq
    | append_singleton events event ih =>
      have hbefore := ih fun earlier e later heq =>
        hsound earlier e (later ++ [event]) (by rw [heq]; simp)
      have hnext := hbefore.next hfile (hsound events event [] rfl)
      unfold World.run at hnext ⊢
      rw [List.foldl_append]
      exact hnext
  exact hknown.survives

end World

/-- A world that owes a latched start and has a file that starts unlatched. -/
theorem World.not_survives {st : Settings} {w : World} (input : Core.StartInput)
    (howed : w.owed = true) (hok : (Core.start st w.disk input).isOk = true)
    (hunlatched : (Core.started st w.disk input).control.killLatched = false) :
    ¬w.Survives st := by
  intro h
  have hlatched := h howed w.disk input _ rfl (Core.start_eq_started hok)
  rw [hunlatched] at hlatched
  cases hlatched

/-! ## Runs with restarts -/

section Sample

/-- Settings with a state file. -/
def fileSettings : Settings := Settings.plain .file 1 Nat.one_pos

/-- A disk with the state file of a latched sidecar. -/
def latchedDisk : Disk where
  file := some (.record (some {
    schemaVersion := .is 1
    generation := .is 1
    killLatched := .is true
    killReason := "operator"
    stage := .flattening
    quiesced := .is false
    quiesceReason := ""
    quiescedAt := .is 0
    riskDay := ""
    dayStartEquity := .is 0
    dayStartExternalCashFlowTotal := .is 0
    peakAdjustedEquity := .is 0
    lastEquity := .is 0
    deploymentId := "deployment"
    deploymentStartEquity := .is 0
    deploymentStartExternalCashFlowTotal := .is 0
    deploymentAdjustedEquity := .is 0
    deploymentLoss := .is 0
    deploymentPolicyFingerprint := ""
    accountKeyFingerprint := ""
    event := "risk_state_transition" }) "")

/-- A disk that replaces the file of a rearm and then fails to sync its directory. -/
def syncFails : Storage where
  writeFile event _ _ :=
    if event = "operator_rearm_committed" then .failed true "OSError:fsync" else .done

/-- A flat account is verified, the sidecar is rearmed on this disk, and makes one more step. -/
def rearmEvents (storage : Storage) : List Event :=
  [.start { now := 100, moved := false },
   .call (.step 101 { service := { reading := .quiet 0 0 } }),
   .call (.prepareRearm "1" "operator" 102 { service := { reading := .quiet 0 0 } } "token"),
   .call (.commitRearm "2" "token" 103
    { service := { reading := .quiet 0 0 }, storage := storage }),
   .call (.step 103 { service := { reading := .quiet 0 0 } }),
   .crash]

/-- A disk without failures is sound. -/
theorem soundStorage_default (st : Settings) : Core.SoundStorage st {} := by
  intro event before payload replaced error h
  cases h

/-- A disk that fails to sync its directory after a file that starts latched. -/
def latchedSyncFails : Storage where
  writeFile _ _ payload := if payload.killLatched = .is true then .failed true "OSError:fsync"
    else .done

theorem soundStorage_latchedSyncFails : Core.SoundStorage fileSettings latchedSyncFails := by
  intro event before payload replaced error h
  unfold latchedSyncFails at h
  dsimp only at h
  split at h
  · next hlatched =>
    cases h
    exact .inr (Core.fileLatched_record rfl hlatched)
  · cases h

/-- The sidecar is latched once more, on a disk that fails. -/
def failingEvents : List Event :=
  [.start { now := 100, moved := false },
   .call (.step 101 { service := { reading := .quiet 0 0 }, storage := latchedSyncFails })]

/-- A rearm that goes through, and a write that fails: its step reports it, and the file starts
latched. -/
theorem latch_survives_rearm :
    (({ disk := latchedDisk } : World).run fileSettings (rearmEvents {})).Survives fileSettings ∧
      let w := ({ disk := latchedDisk } : World).run fileSettings failingEvents
      w.running.map Core.statePersistError = some "state_persist_failed:OSError:fsync" ∧
        w.owed = true ∧ w.Survives fileSettings := by
  have hdefault := soundStorage_default fileSettings
  have hstart : ∀ w : World, w.Sound fileSettings (.start { now := 100, moved := false }) := by
    refine fun w => ⟨hdefault, fun reason content hread => ?_, fun _ _ => rfl⟩
    cases hread
  refine ⟨latch_survives rfl latchedDisk (rearmEvents {}) fun earlier event later heq => ?_, ?_,
    ?_,
    latch_survives rfl latchedDisk failingEvents fun earlier event later heq => ?_⟩
  · have hevent : event ∈ rearmEvents {} := by
      rw [heq]
      simp
    simp only [rearmEvents, List.mem_cons, List.not_mem_nil, or_false] at hevent
    rcases hevent with rfl | rfl | rfl | rfl | rfl | rfl
    · exact hstart _
    · exact hdefault
    · exact hdefault
    · exact hdefault
    · exact hdefault
    · trivial
  · decide +kernel
  · decide +kernel
  · have hevent : event ∈ failingEvents := by
      rw [heq]
      simp
    simp only [failingEvents, List.mem_cons, List.not_mem_nil, or_false] at hevent
    rcases hevent with rfl | rfl
    · exact hstart _
    · exact soundStorage_latchedSyncFails

/-- **An unlatched file behind a latched sidecar.**  The directory of the rearm could not be
synced: the commit is refused, the sidecar is latched again, the step after it finds nothing to
write, and the next start is unlatched. -/
theorem syncFails_not_latched :
    ¬∀ disk events, (({ disk := disk } : World).run fileSettings events).Survives
      fileSettings := by
  intro h
  refine World.not_survives { now := 200 } ?_ ?_ ?_ (h latchedDisk (rearmEvents syncFails))
  · decide +kernel
  · decide +kernel
  · decide +kernel

end Sample

end ChronosHFT.Sidecar
