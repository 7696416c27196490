import ChronosHFT.Sidecar.StateStore

/-!
# The sidecar and its durable state

The memory of `RiskSidecarCore` next to what it has on disk, with `persist` and `load` of
`risk/sidecar_durable_state.py` and the store branch of `_persist_durable_state`.

The state goes to one of three places: the legacy state file, the state store, or nowhere.  The
file is replaced as a whole; the replacement and what comes after it (the `fsync` of the
directory) may fail separately, so a write that failed may have replaced the file.  How the disk
answers is a function of what it is asked, a `Storage`.
-/

namespace ChronosHFT.Sidecar

/-- The payload of the state file. -/
structure FilePayload where
  schemaVersion : Field ℤ
  generation : Field ℤ
  killLatched : Field Bool
  killReason : String
  stage : Stage
  quiesced : Field Bool
  quiesceReason : String
  quiescedAt : Field ℚ
  riskDay : String
  dayStartEquity : Field ℚ
  dayStartExternalCashFlowTotal : Field ℚ
  peakAdjustedEquity : Field ℚ
  lastEquity : Field ℚ
  deploymentId : String
  deploymentStartEquity : Field ℚ
  deploymentStartExternalCashFlowTotal : Field ℚ
  deploymentAdjustedEquity : Field ℚ
  deploymentLoss : Field ℚ
  deploymentPolicyFingerprint : String
  accountKeyFingerprint : String
  event : String
  deriving DecidableEq, Repr

/-- What a state file holds: something that cannot be read as JSON, JSON that is not an object,
or a record; a record's payload is `none` when it is not an object. -/
inductive FileContent
  | unreadable (reason : String)
  | notRecord
  | record (payload : Option FilePayload) (sha256 : String)
  deriving DecidableEq, Repr

/-- How `persist` ends: the file is replaced; an exception escapes before anything is written; or
an exception is caught, before the file was replaced or after it. -/
inductive FileWrite
  | done
  | escaped
  | failed (replaced : Bool) (error : String)
  deriving DecidableEq, Repr

/-- How the disk answers: a write of the file by its event, the file before and the new content,
and a write of the store by its event and its payload. -/
structure Storage where
  writeFile : String → Option FileContent → FilePayload → FileWrite := fun _ _ _ => .done
  writeStore : String → StorePayload → StoreWrite := fun _ _ => .done

/-- Where the state is kept. -/
inductive Backend
  | file
  | store
  | nowhere
  deriving DecidableEq, Repr

/-- The settings of the sidecar. -/
structure Settings where
  control : ControlPolicy
  observation : ObservationPolicy
  /-- The proof engine, where the exchange has `read_account_truth`. -/
  proof : Option ProofPolicy
  parentHeartbeatTimeoutSec : ℚ
  rearmSnapshotMaxAgeSec : ℚ
  orphanExitSec : ℚ
  parentLossFlattenDelaySec : ℚ
  backend : Backend
  stateRequired : Bool
  accountScopeId : String
  genesisId : String
  deploymentPolicyFingerprint : String
  accountKeyFingerprint : String
  declaredAccountEquity : ℚ
  maxDeployedCapital : ℚ
  /-- The seeds of the equity baselines, with the deployment. -/
  seed : EquityState
  stateHash : StateHash
  checksum : FilePayload → String
  timeout_pos : 0 < parentHeartbeatTimeoutSec
  timeout_le_orphan : parentHeartbeatTimeoutSec ≤ orphanExitSec

/-- What a write of the file is compared by. -/
structure Fingerprint where
  killLatched : Bool
  killReason : String
  stage : Stage
  quiesced : Bool
  quiesceReason : String
  quiescedAt : ℚ
  equity : EquityState
  declaredAccountEquity : ℚ
  maxDeployedCapital : ℚ
  deploymentPolicyFingerprint : String
  accountKeyFingerprint : String
  deriving DecidableEq, Repr

/-- What is on disk. -/
structure Disk where
  file : Option FileContent := none
  quarantined : List FileContent := []
  store : Option StateStore := none
  deriving DecidableEq, Repr

/-- `RiskSidecarCore`, with the disk it writes to. -/
structure Core where
  control : Control := {}
  observation : Observation
  stateVersion : StateVersion := ⟨0, 0, 0, 0, ""⟩
  pendingSafetyEpoch : ℕ := 0
  lastFlatProof : Option FlatProof := none
  lastFlatProofError : String := ""
  lastParentHeartbeatAt : ℚ
  lastParentHeartbeatSentMonotonic : ℚ := 0
  lastParentHeartbeatReceivedAt : ℚ := 0
  parentHeartbeatError : String := ""
  lastParentSequence : ℤ := 0
  lastCancelAttemptAt : ℚ := 0
  lastCancelOk : Option Bool := none
  lastCancelReason : String := ""
  lastFlattenAttemptAt : ℚ := 0
  lastFlattenOk : Option Bool := none
  lastFlattenCount : ℕ := 0
  lastFlattenReason : String := ""
  parentStaleSince : ℚ := 0
  parentStaleSnapshotSequence : ℕ := 0
  accountKeyFingerprint : String
  stateGeneration : ℕ := 0
  stateRecovered : Bool := false
  stateLoadError : String := ""
  statePersistError : String := ""
  lastPersistedFingerprint : Option Fingerprint := none
  disk : Disk
  deriving DecidableEq, Repr

namespace Core

variable (st : Settings)

/-- `fingerprint`. -/
def fingerprint (c : Core) : Fingerprint where
  killLatched := c.control.killLatched
  killReason := c.control.killReason
  stage := c.control.stage
  quiesced := c.control.quiesced
  quiesceReason := c.control.quiesceReason
  quiescedAt := c.control.quiescedAt
  equity := c.observation.equity
  declaredAccountEquity := st.declaredAccountEquity
  maxDeployedCapital := st.maxDeployedCapital
  deploymentPolicyFingerprint := st.deploymentPolicyFingerprint
  accountKeyFingerprint := c.accountKeyFingerprint

/-- `fail_closed`. -/
def failClosed (c : Core) (reason : String) : Core :=
  { c with
    control := { c.control with
      killLatched := true
      killReason := orText reason "sidecar_state_error"
      stage := .failed } }

/-! ## Persisting -/

/-- The payload `persist` writes to the file. -/
def filePayload (c : Core) (event : String) : FilePayload where
  schemaVersion := .is 1
  generation := .is (c.stateGeneration + 1)
  killLatched := .is c.control.killLatched
  killReason := c.control.killReason
  stage := c.control.stage
  quiesced := .is c.control.quiesced
  quiesceReason := c.control.quiesceReason
  quiescedAt := .is c.control.quiescedAt
  riskDay := c.observation.equity.riskDay
  dayStartEquity := .is c.observation.equity.dayStartEquity
  dayStartExternalCashFlowTotal := .is c.observation.equity.dayStartExternalCashFlowTotal
  peakAdjustedEquity := .is c.observation.equity.peakAdjustedEquity
  lastEquity := .is c.observation.equity.lastEquity
  deploymentId := c.observation.equity.deploymentId
  deploymentStartEquity := .is c.observation.equity.deploymentStartEquity
  deploymentStartExternalCashFlowTotal :=
    .is c.observation.equity.deploymentStartExternalCashFlowTotal
  deploymentAdjustedEquity := .is c.observation.equity.deploymentAdjustedEquity
  deploymentLoss := .is c.observation.equity.deploymentLoss
  deploymentPolicyFingerprint := st.deploymentPolicyFingerprint
  accountKeyFingerprint := c.accountKeyFingerprint
  event := orText event "state_changed"

/-- The file as it is replaced. -/
def withFile (c : Core) (content : FileContent) : Core :=
  { c with disk := { c.disk with file := some content } }

/-- `persist` with a path; `none` when an exception escapes. -/
def persistFile (c : Core) (storage : Storage) (event : String) (force : Bool) :
    Core × Option Bool :=
  if force = false ∧ c.lastPersistedFingerprint = some (c.fingerprint st) then (c, some true)
  else
    let payload := c.filePayload st event
    let written := c.withFile (.record (some payload) (st.checksum payload))
    match storage.writeFile event c.disk.file payload with
    | .escaped => (c, none)
    | .failed replaced error =>
      let reason := s!"state_persist_failed:{error}"
      (({ (if replaced then written else c) with statePersistError := reason } : Core).failClosed
        reason, some false)
    | .done =>
      ({ written with
          stateGeneration := c.stateGeneration + 1
          statePersistError := ""
          lastPersistedFingerprint := some (c.fingerprint st) }, some true)

/-- `persist` without a path. -/
def persistNowhere (c : Core) : Core × Option Bool :=
  if st.stateRequired then
    (({ c with statePersistError := "state_path_missing" } : Core).failClosed
      "state_path_missing",
      some false)
  else (c, some true)

/-- `_state_store_payload`. -/
def storePayload (c : Core) : StorePayload where
  killLatched := some c.control.killLatched
  killReason := c.control.killReason
  stage := some c.control.stage
  quiesced := some c.control.quiesced
  quiesceReason := c.control.quiesceReason
  quiescedAt := some c.control.quiescedAt
  equity := c.observation.equity.stored
  lastFlatProof := c.lastFlatProof.elim .missing .is

/-- The store branch of `_persist_durable_state`. -/
def persistStore (c : Core) (store : StateStore) (storage : Storage) (event : String) :
    Core × Option Bool :=
  let (store, result) := store.cas st.stateHash (storage.writeStore event c.storePayload)
    c.stateVersion c.storePayload store.head.version.writerEpoch store.head.version.ownerEpoch
    (max c.stateVersion.safetyEpoch c.pendingSafetyEpoch)
  let c := { c with disk := { c.disk with store := some store } }
  match result with
  | .error .escaped => (c, none)
  | .error (.refused error) =>
    let reason := s!"state_store_persist_failed:{error}"
    (({ c with statePersistError := reason } : Core).failClosed reason, some false)
  | .ok version =>
    ({ c with
        stateVersion := version
        pendingSafetyEpoch := version.safetyEpoch
        stateGeneration := version.generation
        statePersistError := "" }, some true)

/-- `_persist_durable_state`. -/
def persistDurableState (c : Core) (storage : Storage) (event : String) (force : Bool) :
    Core × Option Bool :=
  match st.backend with
  | .file => c.persistFile st storage event force
  | .nowhere => c.persistNowhere st
  | .store =>
    match c.disk.store with
    | some store => c.persistStore st store storage event
    | none => c.persistNowhere st

/-! ## Loading -/

/-- A number of the file; a missing one is zero. -/
def numberField (label : String) : Field ℚ → Except String ℚ
  | .missing => .ok 0
  | .wrong => .error s!"ValueError:{label} must be a finite number"
  | .is value => .ok value

/-- The numbers `load` reads one after the other, with their places. -/
def loadedNumbers :
    List (String × (FilePayload → Field ℚ) × (EquityState → ℚ → EquityState)) :=
  [("state.day_start_equity", FilePayload.dayStartEquity,
      fun equity value => { equity with dayStartEquity := value }),
   ("state.day_start_external_cash_flow_total", FilePayload.dayStartExternalCashFlowTotal,
      fun equity value => { equity with dayStartExternalCashFlowTotal := value }),
   ("state.peak_adjusted_equity", FilePayload.peakAdjustedEquity,
      fun equity value => { equity with peakAdjustedEquity := value }),
   ("state.last_equity", FilePayload.lastEquity,
      fun equity value => { equity with lastEquity := value }),
   ("state.deployment_start_equity", FilePayload.deploymentStartEquity,
      fun equity value => { equity with deploymentStartEquity := value }),
   ("state.deployment_start_external_cash_flow_total",
      FilePayload.deploymentStartExternalCashFlowTotal,
      fun equity value => { equity with deploymentStartExternalCashFlowTotal := value }),
   ("state.deployment_adjusted_equity", FilePayload.deploymentAdjustedEquity,
      fun equity value => { equity with deploymentAdjustedEquity := value })]

/-- Read the numbers; those before a wrong one stay read. -/
def loadNumbers (payload : FilePayload) :
    List (String × (FilePayload → Field ℚ) × (EquityState → ℚ → EquityState)) →
      EquityState → EquityState × Except String Unit
  | [], equity => (equity, .ok ())
  | (label, field, set) :: rest, equity =>
    match numberField label (field payload) with
    | .error err => (equity, .error err)
    | .ok value => loadNumbers payload rest (set equity value)

/-- What a failed `load` is about: an identity, whose file is left where it is, or the file. -/
inductive LoadFailure
  | identity (error : String)
  | corrupt (error : String)
  deriving DecidableEq, Repr

/-- The text of the exception. -/
def LoadFailure.error : LoadFailure → String
  | .identity error => error
  | .corrupt error => error

/-- A stored identity against the configured one. -/
def checkIdentity (name stored configured : String) : Except LoadFailure Unit :=
  if configured = "" then .ok ()
  else if stored = "" then .error (.identity s!"ValueError:state_{name}_missing")
  else
    match Control.compareDigest stored configured with
    | none => .error (.corrupt "TypeError:comparing strings with non-ASCII characters")
    | some false => .error (.identity s!"ValueError:state_{name}_mismatch")
    | some true => .ok ()

/-- The identities of a payload, in the order they are checked; an empty one is adopted. -/
def loadIdentities (c : Core) (payload : FilePayload) : Core × Except LoadFailure Unit :=
  let account := Text.strip payload.accountKeyFingerprint
  let deployment := Text.strip payload.deploymentId
  match checkIdentity "account_identity" account c.accountKeyFingerprint with
  | .error err => (c, .error err)
  | .ok () =>
    let c := { c with
      accountKeyFingerprint :=
        if c.accountKeyFingerprint = "" then account else c.accountKeyFingerprint }
    match checkIdentity "deployment_identity" deployment c.observation.equity.deploymentId with
    | .error err => (c, .error err)
    | .ok () =>
      let equity := c.observation.equity
      let c := { c with
        observation := { c.observation with
          equity := { equity with
            deploymentId :=
              if equity.deploymentId = "" then deployment else equity.deploymentId } } }
      (c, checkIdentity "deployment_policy" (Text.strip payload.deploymentPolicyFingerprint)
        st.deploymentPolicyFingerprint)

/-- A truth value of the file; a missing one is false. -/
def boolField (error : String) : Field Bool → Except String Bool
  | .missing => .ok false
  | .wrong => .error error
  | .is value => .ok value

/-- The control fields of a payload: the latch, whether it is quiesced and since when. -/
def controlFields (payload : FilePayload) : Except String (Bool × Bool × ℚ) := do
  let killLatched ← boolField "ValueError:state_kill_latch_invalid" payload.killLatched
  let quiesced ← boolField "ValueError:state_quiesced_invalid" payload.quiesced
  let quiescedAt ← numberField "state.quiesced_at" payload.quiescedAt
  if quiescedAt < 0 then throw "ValueError:state.quiesced_at must be non-negative"
  if quiesced ∧ quiescedAt ≤ 0 then
    throw "ValueError:state.quiesced_at missing for quiesced state"
  return (killLatched, quiesced, quiescedAt)

/-- The header of a record: its checksum, schema and generation. -/
def recordHeader (payload : FilePayload) (sha256 : String) : Except String ℕ :=
  if sha256 ≠ st.checksum payload then .error "ValueError:state_checksum_mismatch"
  else
    match payload.schemaVersion, payload.generation with
    | .is 1, .is generation =>
      if generation < 0 then .error "ValueError:state_generation_invalid"
      else .ok generation.toNat
    | .is 1, .missing => .ok 0
    | .is 1, .wrong => .error "ValueError:invalid literal for int"
    | .wrong, _ => .error "ValueError:invalid literal for int"
    | _, _ => .error "ValueError:state_schema_unsupported"

/-- `load` of a payload, up to the exception if there is one. -/
def loadPayload (c : Core) (payload : FilePayload) (sha256 : String) :
    Core × Except LoadFailure Unit :=
  match recordHeader st payload sha256 with
  | .error err => (c, .error (.corrupt err))
  | .ok generation =>
    match c.loadIdentities st payload with
    | (c, .error err) => (c, .error err)
    | (c, .ok ()) =>
      match controlFields payload with
      | .error err => (c, .error (.corrupt err))
      | .ok (killLatched, quiesced, quiescedAt) =>
        let (equity, numbers) := loadNumbers payload loadedNumbers
          { c.observation.equity with riskDay := payload.riskDay }
        let c := { c with
          stateGeneration := generation
          stateRecovered := true
          control := { c.control with
            killLatched := killLatched
            killReason := payload.killReason
            quiesced := quiesced
            quiesceReason := payload.quiesceReason
            quiescedAt := quiescedAt }
          observation := { c.observation with equity := equity } }
        match numbers.bind fun _ =>
            numberField "state.deployment_loss" payload.deploymentLoss with
        | .error err => (c, .error (.corrupt err))
        | .ok loss =>
          if loss < 0 then
            (c, .error (.corrupt "ValueError:state.deployment_loss must be non-negative"))
          else
            let c := { c with
              observation := { c.observation with
                equity := { c.observation.equity with deploymentLoss := loss } }
              control := { c.control with
                stage :=
                  if quiesced then .quiesced
                  else if killLatched then .flattening else .armed } }
            ({ c with lastPersistedFingerprint := some (c.fingerprint st) }, .ok ())

/-- `load` of a file that is there. -/
def loadContent (c : Core) : FileContent → Core × Except LoadFailure Unit
  | .unreadable reason => (c, .error (.corrupt reason))
  | .notRecord => (c, .error (.corrupt "ValueError:state_record_invalid"))
  | .record none _ => (c, .error (.corrupt "ValueError:state_payload_invalid"))
  | .record (some payload) sha256 => c.loadPayload st payload sha256

/-- `quarantine_corrupt`; `moved` says whether the file could be moved away. -/
def quarantineCorrupt (c : Core) (moved : Bool) : Core :=
  match c.disk.file with
  | some content =>
    if moved then
      { c with
        disk := { c.disk with
          file := none
          quarantined := content :: c.disk.quarantined } }
    else c
  | none => c

/-- What a start meets. -/
structure StartInput where
  now : ℚ
  /-- An error of reading the file. -/
  readError : Option String := none
  /-- Whether a corrupt file can be moved away. -/
  moved : Bool := true
  /-- The files, the fence and the integrity of the store. -/
  available : Except String Unit := .ok ()
  storage : Storage := {}

/-- `load`; `none` when an exception escapes. -/
def loadFile (c : Core) (input : StartInput) : Core × Option Unit :=
  match c.disk.file with
  | none =>
    match c.persistFile st input.storage "state_initialized" true with
    | (c, none) => (c, none)
    | (c, some _) => (c, some ())
  | some content =>
    let read := match input.readError with
      | some reason => .unreadable reason
      | none => content
    match c.loadContent st read with
    | (c, .ok ()) => (c, some ())
    | (c, .error err) =>
      let reason := s!"state_load_failed:{err.error}"
      let c := { c with stateLoadError := reason }
      let c := match err with
        | .identity _ => c
        | .corrupt _ => c.quarantineCorrupt input.moved
      (c.failClosed reason, some ())

/-- `load` without a path. -/
def loadNowhere (c : Core) : Core :=
  if st.stateRequired then
    ({ c with stateLoadError := "state_path_missing" } : Core).failClosed "state_path_missing"
  else c

/-- The numbers `_apply_state_store_payload` reads one after the other, with their places. -/
def restoredNumbers : List (String × (StoredEquity → Field ℚ) × (EquityState → ℚ →
    EquityState)) :=
  [("day_start_equity", StoredEquity.dayStartEquity,
      fun equity value => { equity with dayStartEquity := value }),
   ("day_start_external_cash_flow_total", StoredEquity.dayStartExternalCashFlowTotal,
      fun equity value => { equity with dayStartExternalCashFlowTotal := value }),
   ("peak_adjusted_equity", StoredEquity.peakAdjustedEquity,
      fun equity value => { equity with peakAdjustedEquity := value }),
   ("last_equity", StoredEquity.lastEquity,
      fun equity value => { equity with lastEquity := value }),
   ("deployment_start_equity", StoredEquity.deploymentStartEquity,
      fun equity value => { equity with deploymentStartEquity := value }),
   ("deployment_start_external_cash_flow_total",
      StoredEquity.deploymentStartExternalCashFlowTotal,
      fun equity value => { equity with deploymentStartExternalCashFlowTotal := value }),
   ("deployment_adjusted_equity", StoredEquity.deploymentAdjustedEquity,
      fun equity value => { equity with deploymentAdjustedEquity := value }),
   ("deployment_loss", StoredEquity.deploymentLoss,
      fun equity value => { equity with deploymentLoss := value })]

/-- Set the numbers that are there; a missing one stays as it is. -/
def restoreNumbers (stored : StoredEquity) :
    List (String × (StoredEquity → Field ℚ) × (EquityState → ℚ → EquityState)) →
      EquityState → Except String EquityState
  | [], equity => .ok equity
  | (field, read, set) :: rest, equity =>
    match read stored with
    | .missing => restoreNumbers stored rest equity
    | .wrong => .error s!"state.{field} must be a finite number"
    | .is value => restoreNumbers stored rest (set equity value)

/-- The baselines `_apply_state_store_payload` restores. -/
def restoreEquity (stored : StoredEquity) (equity : EquityState) : Except String EquityState :=
  (restoreNumbers stored restoredNumbers equity).map fun equity =>
    { equity with riskDay := stored.riskDay.getD equity.riskDay }

/-- `last_flat_proof`, where it is an object. -/
def restoreProof : Field FlatProof → Option FlatProof → Except String (Option FlatProof)
  | .missing, proof => .ok proof
  | .wrong, _ => .error "TypeError:last_flat_proof"
  | .is proof, _ => .ok (some proof)

/-- `_apply_state_store_payload`. -/
def applyStateStorePayload (c : Core) (payload : StorePayload) : Except String Core :=
  if payload.schemaVersion ≠ 2 then .error "state_payload_schema_unsupported"
  else
    match payload.killLatched, payload.quiesced, payload.quiescedAt with
    | some killLatched, some quiesced, some quiescedAt =>
      match restoreEquity payload.equity c.observation.equity with
      | .error err => .error err
      | .ok equity =>
        match restoreProof payload.lastFlatProof c.lastFlatProof with
        | .error err => .error err
        | .ok proof =>
          .ok { c with
            control := { c.control with
              killLatched := killLatched
              killReason := payload.killReason
              quiesced := quiesced
              quiesceReason := payload.quiesceReason
              quiescedAt := quiescedAt
              stage :=
                if quiesced then .quiesced
                else payload.stage.getD (if killLatched then .flattening else .armed) }
            observation := { c.observation with equity := equity }
            lastFlatProof := proof }
    | some _, some _, none => .error "state.quiesced_at must be a finite number"
    | _, _, _ => .error "state_payload_boolean_invalid"

/-- What a payload that is applied holds, and what it does. -/
theorem applyStateStorePayload_eq_ok {c c' : Core} {payload : StorePayload}
    (h : c.applyStateStorePayload payload = .ok c') :
    ∃ killLatched quiesced quiescedAt equity proof,
      payload.killLatched = some killLatched ∧ payload.quiesced = some quiesced ∧
      payload.quiescedAt = some quiescedAt ∧
      restoreEquity payload.equity c.observation.equity = .ok equity ∧
      restoreProof payload.lastFlatProof c.lastFlatProof = .ok proof ∧
      c' = { c with
        control := { c.control with
          killLatched := killLatched
          killReason := payload.killReason
          quiesced := quiesced
          quiesceReason := payload.quiesceReason
          quiescedAt := quiescedAt
          stage :=
            if quiesced then .quiesced
            else payload.stage.getD (if killLatched then .flattening else .armed) }
        observation := { c.observation with equity := equity }
        lastFlatProof := proof } := by
  unfold applyStateStorePayload at h
  split at h
  · cases h
  split at h
  · rename_i killLatched quiesced quiescedAt hlatched hquiesced hat
    cases hequity : restoreEquity payload.equity c.observation.equity with
    | error err =>
      rw [hequity] at h
      cases h
    | ok equity =>
      rw [hequity] at h
      dsimp only at h
      cases hproof : restoreProof payload.lastFlatProof c.lastFlatProof with
      | error err =>
        rw [hproof] at h
        cases h
      | ok proof =>
        rw [hproof] at h
        cases h
        exact ⟨_, _, _, _, _, hlatched, hquiesced, hat, rfl, rfl, rfl⟩
  · cases h
  · cases h

theorem restoreEquity_stored (equity before : EquityState) :
    restoreEquity equity.stored before =
      .ok { equity with deploymentId := before.deploymentId } := rfl

/-- `_open_state_store`; a start that fails leaves the disk behind. -/
def openStateStore (c : Core) (input : StartInput) : Except Disk Core :=
  match c.disk.store with
  | none => .error c.disk
  | some store =>
    if st.accountScopeId = "" ∨ st.genesisId = "" ∨ st.seed.deploymentId = "" then .error c.disk
    else
      match store.openRecover st.stateHash
          ⟨st.accountScopeId, st.genesisId, st.seed.deploymentId⟩ input.available
          (input.storage.writeStore "writer_epoch_acquired" store.head.payload) with
      | (store, .error _) => .error { c.disk with store := some store }
      | (store, .ok (payload, version)) =>
        match c.applyStateStorePayload payload with
        | .error _ => .error { c.disk with store := some store }
        | .ok c =>
          .ok { c with
            disk := { c.disk with store := some store }
            stateVersion := version
            stateGeneration := version.generation
            stateRecovered := true
            stateLoadError := "" }

/-- What a store that is opened holds, and what the core has of it. -/
theorem openStateStore_eq_ok {st : Settings} {c c' : Core} {input : StartInput}
    (h : c.openStateStore st input = .ok c') :
    ∃ store next applied, c.disk.store = some store ∧
      store.identity = ⟨st.accountScopeId, st.genesisId, st.seed.deploymentId⟩ ∧
      c.applyStateStorePayload store.head.payload = .ok applied ∧
      c' = { applied with
        disk := { applied.disk with store := some next }
        stateVersion := next.head.version
        stateGeneration := next.head.version.generation
        stateRecovered := true
        stateLoadError := "" } := by
  unfold openStateStore at h
  cases hstore : c.disk.store with
  | none =>
    rw [hstore] at h
    cases h
  | some store =>
    rw [hstore] at h
    dsimp only at h
    split at h
    · cases h
    split at h
    · cases h
    rename_i next payload version hopened
    obtain ⟨-, hchecked, rfl, rfl⟩ := StateStore.openRecover_eq_ok hopened
    split at h
    · cases h
    · rename_i applied happlied
      cases h
      exact ⟨store, next, applied, rfl, StateStore.checkHead_identity hchecked, happlied, rfl⟩

/-- The constructor of the core, up to the durable state. -/
def fresh (disk : Disk) (now : ℚ) : Core where
  observation := { equity := { st.seed with deploymentLoss := max 0 st.seed.deploymentLoss } }
  lastParentHeartbeatAt := now
  accountKeyFingerprint := st.accountKeyFingerprint
  disk := disk

/-- **A start** of the sidecar on a disk. -/
def start (disk : Disk) (input : StartInput) : Except Disk Core :=
  let c := fresh st disk input.now
  match st.backend with
  | .store => c.openStateStore st input
  | .nowhere => .ok (c.loadNowhere st)
  | .file =>
    match c.loadFile st input with
    | (c, none) => .error c.disk
    | (c, some ()) => .ok c

end Core

end ChronosHFT.Sidecar
