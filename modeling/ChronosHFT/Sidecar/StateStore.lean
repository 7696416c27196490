import ChronosHFT.Sidecar.FlatProof

/-!
# The state store

`SidecarStateStore` of `risk/sidecar_state_store.py`: one row of state in a database, and an
anchor file next to it.  A write announces its target in the anchor, commits it to the database
and then marks the anchor as committed; a start refuses an anchor that is not committed or that
does not agree with the database.

How far a write gets is an input.  The store's own errors are `refused` and reported to the
sidecar; the operating system's and the database's errors are not caught there, and the write has
`escaped`.
-/

namespace ChronosHFT.Sidecar

/-- A field of a JSON object: missing, not of its type, or a value. -/
inductive Field (α : Type)
  | missing
  | wrong
  | is (value : α)
  deriving DecidableEq, Repr

/-- The equity baselines of a payload, as they read. -/
structure StoredEquity where
  deploymentId : String
  riskDay : Option String
  dayStartEquity : Field ℚ
  dayStartExternalCashFlowTotal : Field ℚ
  peakAdjustedEquity : Field ℚ
  lastEquity : Field ℚ
  deploymentStartEquity : Field ℚ
  deploymentStartExternalCashFlowTotal : Field ℚ
  deploymentAdjustedEquity : Field ℚ
  deploymentLoss : Field ℚ
  deriving DecidableEq, Repr

/-- The baselines as `_state_store_payload` writes them. -/
def EquityState.stored (equity : EquityState) : StoredEquity where
  deploymentId := equity.deploymentId
  riskDay := some equity.riskDay
  dayStartEquity := .is equity.dayStartEquity
  dayStartExternalCashFlowTotal := .is equity.dayStartExternalCashFlowTotal
  peakAdjustedEquity := .is equity.peakAdjustedEquity
  lastEquity := .is equity.lastEquity
  deploymentStartEquity := .is equity.deploymentStartEquity
  deploymentStartExternalCashFlowTotal := .is equity.deploymentStartExternalCashFlowTotal
  deploymentAdjustedEquity := .is equity.deploymentAdjustedEquity
  deploymentLoss := .is equity.deploymentLoss

/-- The payload of `_state_store_payload`; `none` stands for a field that is missing or not of
its type, where the reader tells these apart from a value. -/
structure StorePayload where
  schemaVersion : ℤ := 2
  killLatched : Option Bool
  killReason : String
  stage : Option Stage
  quiesced : Option Bool
  quiesceReason : String
  quiescedAt : Option ℚ
  equity : StoredEquity
  lastFlatProof : Field FlatProof
  deriving DecidableEq, Repr

/-- A head of the lineage: its revision, its version and its payload. -/
structure StoreHead where
  headRevision : ℕ
  version : StateVersion
  payload : StorePayload
  deriving DecidableEq, Repr

/-- The rollback anchor: its target, and whether its phase is `COMMITTED`. -/
structure StoreAnchor where
  committed : Bool
  target : StoreHead
  deriving DecidableEq, Repr

/-- Whose state it is. -/
structure StoreIdentity where
  accountScopeId : String
  genesisId : String
  deploymentId : String
  deriving DecidableEq, Repr

/-- What is on disk: the identity of the lineage, the database's head and the anchor. -/
structure StateStore where
  identity : StoreIdentity
  head : StoreHead
  anchor : StoreAnchor
  deriving DecidableEq, Repr

/-- How far a write of the store gets.  A file that is replaced may still come with an error. -/
inductive StoreWrite
  | done
  /-- The store refuses: the writer fence is lost, or the database is closed. -/
  | refused (error : String)
  /-- Looking at the fence or at the database raised. -/
  | readFailed
  /-- Writing the anchor raised. -/
  | anchorFailed (replaced : Bool)
  /-- A statement or the commit raised, and the transaction was rolled back. -/
  | commitFailed
  /-- Marking the anchor as committed raised. -/
  | finishFailed (replaced : Bool)
  deriving DecidableEq, Repr

/-- Why a write has no new version. -/
inductive StoreFailure
  | refused (error : String)
  | escaped
  deriving DecidableEq, Repr

/-- `_state_hash`: the digest of the epochs, the generation and the payload. -/
abbrev StateHash := ℕ → ℕ → ℕ → ℕ → StorePayload → String

namespace StateStore

/-- The head a write aims at. -/
def targetHead (stateHash : StateHash) (store : StateStore) (payload : StorePayload)
    (writerEpoch ownerEpoch safetyEpoch : ℕ) : StoreHead :=
  let generation := store.head.version.generation + 1
  { headRevision := store.head.headRevision + 1
    version :=
      { writerEpoch := writerEpoch
        ownerEpoch := ownerEpoch
        safetyEpoch := safetyEpoch
        generation := generation
        stateSha256 := stateHash writerEpoch ownerEpoch safetyEpoch generation payload }
    payload := payload }

/-- `_cas`. -/
def cas (stateHash : StateHash) (store : StateStore) (write : StoreWrite)
    (expected : StateVersion)
    (payload : StorePayload) (writerEpoch ownerEpoch safetyEpoch : ℕ) :
    StateStore × Except StoreFailure StateVersion :=
  let target := store.targetHead stateHash payload writerEpoch ownerEpoch safetyEpoch
  match write with
  | .refused error => (store, .error (.refused error))
  | .readFailed => (store, .error .escaped)
  | write =>
    if store.head.version ≠ expected then
      (store, .error (.refused "SidecarStateCasError:state_cas_conflict"))
    else
      match write with
      | .refused error => (store, .error (.refused error))
      | .readFailed => (store, .error .escaped)
      | .anchorFailed replaced =>
        (if replaced then { store with anchor := { committed := false, target := target } }
          else store, .error .escaped)
      | .commitFailed =>
        ({ store with anchor := { committed := false, target := target } }, .error .escaped)
      | .finishFailed replaced =>
        ({ store with
            head := target
            anchor := { committed := replaced, target := target } }, .error .escaped)
      | .done =>
        ({ store with
            head := target
            anchor := { committed := true, target := target } }, .ok target.version)

/-- `_validate_anchor`. -/
def validateAnchor (store : StateStore) : Except String Unit :=
  if store.anchor.target ≠ store.head then .error "rollback_or_split_brain_suspected"
  else if store.anchor.committed = false then .error "rollback_anchor_not_committed"
  else .ok ()

/-- The checks of the database row in `open_recover`. -/
def checkHead (stateHash : StateHash) (store : StateStore) (identity : StoreIdentity) :
    Except String Unit :=
  let current := store.head.version
  if store.identity.accountScopeId ≠ identity.accountScopeId then
    .error "state_account_scope_mismatch"
  else if store.identity.genesisId ≠ identity.genesisId then .error "state_genesis_mismatch"
  else if store.identity.deploymentId ≠ identity.deploymentId then
    .error "state_deployment_mismatch"
  else if current.stateSha256 ≠ stateHash current.writerEpoch current.ownerEpoch
      current.safetyEpoch current.generation store.head.payload then
    .error "state_checksum_mismatch"
  else store.validateAnchor

/-- `open_recover`: the payload as it was, under a new writer epoch.  Its files, their manifest,
the fence and the integrity of the database are `available` or not. -/
def openRecover (stateHash : StateHash) (store : StateStore) (identity : StoreIdentity)
    (available : Except String Unit) (write : StoreWrite) :
    StateStore × Except StoreFailure (StorePayload × StateVersion) :=
  match available.bind fun _ => store.checkHead stateHash identity with
  | .error error => (store, .error (.refused error))
  | .ok () =>
    let current := store.head.version
    match store.cas stateHash write current store.head.payload (current.writerEpoch + 1)
        current.ownerEpoch current.safetyEpoch with
    | (store, .error err) => (store, .error err)
    | (store, .ok version) => (store, .ok (store.head.payload, version))

variable {stateHash : StateHash} {next store : StateStore} {payload : StorePayload}
  {ownerEpoch safetyEpoch writerEpoch : ℕ}

theorem cas_eq_ok {write : StoreWrite} {expected version : StateVersion}
    (h : store.cas stateHash write expected payload writerEpoch ownerEpoch safetyEpoch =
      (next, .ok version)) : write = .done ∧ store.head.version = expected ∧
      next.head = store.targetHead stateHash payload writerEpoch ownerEpoch safetyEpoch ∧
      next.anchor = { committed := true, target := next.head } ∧
      version = next.head.version := by
  unfold cas at h
  cases write with
  | refused error => cases congrArg Prod.snd h
  | readFailed => cases congrArg Prod.snd h
  | anchorFailed replaced =>
    dsimp only at h
    split at h <;> cases congrArg Prod.snd h
  | commitFailed =>
    dsimp only at h
    split at h <;> cases congrArg Prod.snd h
  | finishFailed replaced =>
    dsimp only at h
    split at h <;> cases congrArg Prod.snd h
  | done =>
    dsimp only at h
    split at h
    · cases congrArg Prod.snd h
    · rename_i hcurrent
      cases h
      exact ⟨rfl, not_not.mp hcurrent, rfl, rfl, rfl⟩

/-- A write that nothing disturbs. -/
theorem cas_done :
    store.cas stateHash .done store.head.version payload writerEpoch ownerEpoch safetyEpoch =
      (let target := store.targetHead stateHash payload writerEpoch ownerEpoch safetyEpoch
       ({ store with
          head := target
          anchor := { committed := true, target := target } }, .ok target.version)) := by
  unfold cas
  exact if_neg (not_not_intro rfl)

/-- What a start that succeeds has read. -/
theorem openRecover_eq_ok
    {identity : StoreIdentity} {available : Except String Unit} {write : StoreWrite}
    {version : StateVersion}
    (h : store.openRecover stateHash identity available write = (next, .ok (payload, version))) :
    available = .ok () ∧ store.checkHead stateHash identity = .ok () ∧
      payload = store.head.payload ∧ version = next.head.version := by
  unfold openRecover at h
  cases hchecked : available.bind fun _ => store.checkHead stateHash identity with
  | error error =>
    rw [hchecked] at h
    cases congrArg Prod.snd h
  | ok u =>
    rw [hchecked] at h
    dsimp only at h
    cases available with
    | error error => cases hchecked
    | ok u =>
      refine ⟨rfl, hchecked, ?_⟩
      split at h
      · cases congrArg Prod.snd h
      rename_i hcas
      cases h
      obtain ⟨-, -, hhead, -, hversion⟩ := cas_eq_ok hcas
      exact ⟨hhead ▸ rfl, hversion⟩

/-- The identity a start that succeeds was asked for. -/
theorem checkHead_identity {identity : StoreIdentity}
    (h : store.checkHead stateHash identity = .ok ()) : store.identity = identity := by
  unfold checkHead at h
  dsimp only at h
  split at h
  · cases h
  rename_i haccount
  split at h
  · cases h
  rename_i hgenesis
  split at h
  · cases h
  rename_i hdeployment
  have heta : store.identity = ⟨store.identity.accountScopeId, store.identity.genesisId,
      store.identity.deploymentId⟩ := rfl
  rw [heta, not_not.mp haccount, not_not.mp hgenesis, not_not.mp hdeployment]

end StateStore

end ChronosHFT.Sidecar
