import ChronosHFT.Sidecar.StoreAtomicity

/-!
# Whose state is restored

A start that comes up unlatched from a persisted state is to have restored a state of its own
account, its own deployment and its own deployment policy, with the state file as with the state
store; so raising the loss limit of a deployment is not to come up unlatched.

The file holds all three and is checked against the configured ones, but one that is not
configured is adopted.  The store checks the account and the deployment; the policy is neither
stored nor checked, so a start with another policy takes the state over
(`raisedLimit_unlatched`). `restored_identity` says that the states that are restored are bound
to their identity exactly where every identity is configured, or with the store, where the
policies agree. -/

namespace ChronosHFT.Sidecar

/-! ## Deployment policies -/

/-- The risk envelope of a deployment. -/
structure DeploymentPolicy where
  deploymentId : String
  symbols : List String
  declaredAccountEquity : ℚ
  maxDeployedCapital : ℚ
  maximumLoss : ℚ
  reduceOnlyFraction : ℚ
  maxEquityFraction : ℚ := 1 / 50
  deriving DecidableEq, Repr

namespace DeploymentPolicy

/-- What of a policy is put into its digest: the symbols are stripped, in upper case and sorted.
-/
def canonical (policy : DeploymentPolicy) : DeploymentPolicy :=
  { policy with
    deploymentId := Text.strip policy.deploymentId
    symbols :=
      (((policy.symbols.map Text.strip).filter (· ≠ "")).map String.toUpper).mergeSort
        fun a b => decide (a ≤ b) }

/-- `deployment_policy_fingerprint`, over the digest of the encoded policy. -/
def fingerprint (digest : DeploymentPolicy → String) (policy : DeploymentPolicy) : String :=
  if Text.strip policy.deploymentId = "" then "" else digest policy.canonical

end DeploymentPolicy

/-! ## Identities -/

/-- The account, the deployment and the fingerprint of the policy. -/
structure StateIdentity where
  account : String
  deployment : String
  policy : String
  deriving DecidableEq, Repr

/-- The identity that is configured: the account is the key with the file, and the scope with the
store. -/
def Settings.identity (st : Settings) : StateIdentity where
  account := Text.strip <| match st.backend with
    | .store => st.accountScopeId
    | _ => st.accountKeyFingerprint
  deployment := Text.strip st.seed.deploymentId
  policy := Text.strip st.deploymentPolicyFingerprint

namespace Core

/-- The identity a sidecar writes its state under.  The store has that of its lineage. -/
def identity (st : Settings) (c : Core) : StateIdentity :=
  match st.backend, c.disk.store with
  | .store, some store =>
    { account := Text.strip store.identity.accountScopeId
      deployment := Text.strip store.identity.deploymentId
      policy := Text.strip st.deploymentPolicyFingerprint }
  | _, _ =>
    { account := Text.strip c.accountKeyFingerprint
      deployment := Text.strip c.observation.equity.deploymentId
      policy := Text.strip st.deploymentPolicyFingerprint }

/-- Whether a stored identity passes: it is the configured one, or none is configured. -/
def Admits (stored configured : String) : Prop :=
  configured = "" ∨ Control.compareDigest stored configured = some true

/-- The pairs of what a state file says and what is configured. -/
def filePairs (st₁ st₂ : Settings) (c : Core) : List (String × String) :=
  [(Text.strip c.accountKeyFingerprint, st₂.accountKeyFingerprint),
   (Text.strip c.observation.equity.deploymentId, st₂.seed.deploymentId),
   (Text.strip st₁.deploymentPolicyFingerprint, st₂.deploymentPolicyFingerprint)]

/-- A file that `c` wrote under `st₁` is read under `st₂`. -/
def Readable (st₁ st₂ : Settings) (c : Core) : Prop :=
  (∀ pair ∈ filePairs st₁ st₂ c, Admits pair.1 pair.2) ∧ 0 ≤ c.control.quiescedAt ∧
    (c.control.quiesced = true → 0 < c.control.quiescedAt) ∧
    0 ≤ c.observation.equity.deploymentLoss

/-- What is asked of a state that `c` wrote under `st₁` for a start under `st₂` to come up
unlatched from it. -/
def Restorable (st₁ st₂ : Settings) (c : Core) (input : StartInput) : Prop :=
  c.control.killLatched = false ∧
    match st₂.backend with
    | .nowhere => False
    | .file =>
      input.readError = none ∧ Readable st₁ st₂ c
    | .store =>
      input.available = .ok () ∧
        input.storage.writeStore "writer_epoch_acquired" c.storePayload = .done ∧
        st₂.accountScopeId ≠ "" ∧ st₂.genesisId ≠ "" ∧ st₂.seed.deploymentId ≠ "" ∧
        ∃ store, c.disk.store = some store ∧
          store.identity = ⟨st₂.accountScopeId, st₂.genesisId, st₂.seed.deploymentId⟩

/-- The state is bound to its identity: a start that comes up unlatched from it is configured for
the identity it was written under. -/
def Bound (st₁ st₂ : Settings) (c : Core) (disk : Disk) (input : StartInput) : Prop :=
  ∀ c', Core.start st₂ disk input = .ok c' → c'.control.killLatched = false →
    c'.stateRecovered = true → c.identity st₁ = st₂.identity

/-- No identity is adopted, and the policies of a store agree. -/
def Covered (st₁ st₂ : Settings) (c : Core) : Prop :=
  match st₂.backend with
  | .nowhere => True
  | .file => ∀ pair ∈ filePairs st₁ st₂ c, pair.2 = "" → pair.1 = ""
  | .store =>
    Text.strip st₁.deploymentPolicyFingerprint = Text.strip st₂.deploymentPolicyFingerprint

/-! ## The state file -/

theorem checkIdentity_eq_ok (name : String) {stored configured : String} :
    checkIdentity name stored configured = .ok () ↔ Admits stored configured := by
  unfold checkIdentity Admits
  by_cases hconfigured : configured = ""
  · simp [hconfigured]
  rw [if_neg hconfigured]
  by_cases hstored : stored = ""
  · rw [if_pos hstored, hstored]
    refine ⟨nofun, fun h => ?_⟩
    rcases h with h | h
    · exact absurd h hconfigured
    unfold Control.compareDigest at h
    split at h
    · simp [Ne.symm hconfigured] at h
    · cases h
  rw [if_neg hstored]
  cases hcompare : Control.compareDigest stored configured with
  | none => simp [hconfigured]
  | some same => cases same <;> simp [hconfigured]

/-- An identity that passes is the configured one. -/
theorem Admits.eq {stored configured : String} (h : Admits stored configured)
    (hconfigured : configured ≠ "") : stored = configured := by
  rcases h with h | h
  · exact absurd h hconfigured
  unfold Control.compareDigest at h
  split at h
  · simpa using h
  · cases h

/-- The identities of a payload pass one by one. -/
theorem loadIdentities_eq_ok {st : Settings} {c : Core} {payload : FilePayload} :
    (c.loadIdentities st payload).2 = .ok () ↔
      Admits (Text.strip payload.accountKeyFingerprint) c.accountKeyFingerprint ∧
        Admits (Text.strip payload.deploymentId) c.observation.equity.deploymentId ∧
        Admits (Text.strip payload.deploymentPolicyFingerprint)
          st.deploymentPolicyFingerprint := by
  rw [← checkIdentity_eq_ok "account_identity", ← checkIdentity_eq_ok "deployment_identity",
    ← checkIdentity_eq_ok "deployment_policy"]
  unfold loadIdentities
  dsimp only
  cases haccount : checkIdentity "account_identity" (Text.strip payload.accountKeyFingerprint)
      c.accountKeyFingerprint with
  | error err => simp
  | ok u =>
    dsimp only
    cases hdeployment : checkIdentity "deployment_identity" (Text.strip payload.deploymentId)
        c.observation.equity.deploymentId with
    | error err => simp
    | ok u => simp

variable {st₁ st₂ : Settings} {c : Core} {event : String}

theorem recordHeader_written (hchecksum : st₂.checksum = st₁.checksum) :
    recordHeader st₂ (c.filePayload st₁ event) (st₁.checksum (c.filePayload st₁ event)) =
      .ok (c.stateGeneration + 1) := by
  unfold recordHeader
  rw [hchecksum, if_neg (not_not_intro rfl)]
  have hnonneg : ¬ ((c.stateGeneration : ℤ) + 1 < 0) := by omega
  exact if_neg hnonneg

theorem controlFields_written :
    controlFields (c.filePayload st₁ event) =
      if c.control.quiescedAt < 0 then
        .error "ValueError:state.quiesced_at must be non-negative"
      else if c.control.quiesced ∧ c.control.quiescedAt ≤ 0 then
        .error "ValueError:state.quiesced_at missing for quiesced state"
      else .ok (c.control.killLatched, c.control.quiesced, c.control.quiescedAt) := by
  unfold controlFields filePayload
  simp only [boolField, numberField, bind, Except.bind, pure, Except.pure, throw, throwThe,
    MonadExceptOf.throw]

/-- **Loading a state that was written**, by what is asked of it. -/
theorem loadPayload_written (event : String) (hchecksum : st₂.checksum = st₁.checksum)
    (c c₀ : Core)
    (haccount : c₀.accountKeyFingerprint = st₂.accountKeyFingerprint)
    (hdeployment : c₀.observation.equity.deploymentId = st₂.seed.deploymentId) :
    (∀ c', c₀.loadPayload st₂ (c.filePayload st₁ event)
        (st₁.checksum (c.filePayload st₁ event)) = (c', .ok ()) →
      c'.control.killLatched = c.control.killLatched ∧ c'.stateRecovered = true ∧
        ∃ deploymentId, c'.observation.equity =
          { c.observation.equity with deploymentId := deploymentId }) ∧
    ((c₀.loadPayload st₂ (c.filePayload st₁ event)
        (st₁.checksum (c.filePayload st₁ event))).2 = .ok () ↔ Readable st₁ st₂ c) := by
  have hpairs : (∀ pair ∈ filePairs st₁ st₂ c, Admits pair.1 pair.2) ↔
      (c₀.loadIdentities st₂ (c.filePayload st₁ event)).2 = .ok () := by
    rw [loadIdentities_eq_ok, haccount, hdeployment]
    simp [filePairs, filePayload]
  have hnumbers : ∀ equity, (loadNumbers (c.filePayload st₁ event) loadedNumbers equity).2 =
      .ok () :=
    fun equity => rfl
  have hfailed : ∀ {loaded : Core} {err : LoadFailure} {P : Core → Prop} {Q : Prop}, ¬ Q →
      (∀ c', (loaded, (.error err : Except LoadFailure Unit)) = (c', .ok ()) → P c') ∧
        ((.error err : Except LoadFailure Unit) = .ok () ↔ Q) := by
    intro loaded err P Q hnot
    refine ⟨fun c' h => ?_, nofun, fun h => absurd h hnot⟩
    cases congrArg Prod.snd h
  unfold Readable
  rw [hpairs]
  unfold loadPayload
  rw [recordHeader_written hchecksum, controlFields_written]
  dsimp only
  cases hidentities : c₀.loadIdentities st₂ (c.filePayload st₁ event) with
  | mk loaded result =>
    cases result with
    | error err => exact hfailed fun h => nomatch h.1
    | ok u =>
      by_cases hnegative : c.control.quiescedAt < 0
      · simp only [if_pos hnegative]
        exact hfailed fun h => absurd hnegative (not_lt.mpr h.2.1)
      simp only [if_neg hnegative]
      by_cases hmissing : c.control.quiesced = true ∧ c.control.quiescedAt ≤ 0
      · simp only [if_pos hmissing]
        exact hfailed fun h => absurd (h.2.2.1 hmissing.1) (not_lt.mpr hmissing.2)
      have hloss : (Except.ok () : Except String Unit).bind (fun _ =>
          numberField "state.deployment_loss" (c.filePayload st₁ event).deploymentLoss) =
            .ok c.observation.equity.deploymentLoss := rfl
      simp only [if_neg hmissing, hnumbers, hloss]
      by_cases hloss : c.observation.equity.deploymentLoss < 0
      · simp only [if_pos hloss]
        exact hfailed fun h => absurd hloss (not_lt.mpr h.2.2.2)
      simp only [if_neg hloss]
      refine ⟨fun c' h => ?_, fun _ => ⟨trivial, not_lt.mp hnegative, ?_, not_lt.mp hloss⟩,
        fun _ => trivial⟩
      · cases h
        exact ⟨rfl, rfl, _, rfl⟩
      · exact fun hquiesced => not_le.mp fun hat => hmissing ⟨hquiesced, hat⟩

/-- **A start on a file that was written.** -/
theorem start_written_file (hbackend : st₂.backend = .file)
    (hchecksum : st₂.checksum = st₁.checksum)
    {disk : Disk} {input : StartInput}
    (hfile : disk.file = some (.record (some (c.filePayload st₁ event))
      (st₁.checksum (c.filePayload st₁ event)))) :
    (∃ c', Core.start st₂ disk input = .ok c' ∧ c'.control.killLatched = false ∧
        c'.stateRecovered = true) ↔ Restorable st₁ st₂ c input := by
  have hdisk : (fresh st₂ disk input.now).disk.file =
      some (.record (some (c.filePayload st₁ event)) (st₁.checksum (c.filePayload st₁ event))) :=
    hfile
  obtain ⟨hloads, hasked⟩ := loadPayload_written event hchecksum c (fresh st₂ disk input.now)
    rfl rfl
  unfold Restorable
  rw [hbackend]
  dsimp only
  rw [← hasked]
  unfold Core.start
  simp only [hbackend]
  unfold loadFile
  simp only [hdisk]
  cases hread : input.readError with
  | some reason =>
    refine ⟨fun ⟨c', hstart, hlatched, _⟩ => ?_, fun h => nomatch h.2.1⟩
    cases hstart
    cases hlatched
  | none =>
    unfold loadContent
    dsimp only
    cases hloaded : (fresh st₂ disk input.now).loadPayload st₂ (c.filePayload st₁ event)
        (st₁.checksum (c.filePayload st₁ event)) with
    | mk loaded result =>
      cases result with
      | error err =>
        refine ⟨fun ⟨c', hstart, hlatched, _⟩ => ?_, fun h => nomatch h.2.2⟩
        cases hstart
        cases hlatched
      | ok u =>
        obtain ⟨hsame, hrecovered, -⟩ := hloads loaded hloaded
        constructor
        · rintro ⟨c', hstart, hlatched, -⟩
          cases hstart
          exact ⟨hsame ▸ hlatched, rfl, rfl⟩
        · rintro ⟨hlatched, -, -⟩
          exact ⟨loaded, rfl, hsame.trans hlatched, hrecovered⟩

/-! ## The state store -/

/-- What `_apply_state_store_payload` makes of a payload that was written. -/
def restored (c₀ c : Core) : Core :=
  { c₀ with
    control := { c₀.control with
      killLatched := c.control.killLatched
      killReason := c.control.killReason
      quiesced := c.control.quiesced
      quiesceReason := c.control.quiesceReason
      quiescedAt := c.control.quiescedAt
      stage := if c.control.quiesced then .quiesced else c.control.stage }
    observation := { c₀.observation with
      equity := { c.observation.equity with
        deploymentId := c₀.observation.equity.deploymentId } }
    lastFlatProof := c.lastFlatProof <|> c₀.lastFlatProof }

theorem apply_storePayload (c₀ c : Core) :
    c₀.applyStateStorePayload c.storePayload = .ok (c₀.restored c) := by
  cases hproof : c.lastFlatProof with
  | none =>
    unfold storePayload restored
    rw [hproof]
    rfl
  | some proof =>
    unfold storePayload restored
    rw [hproof]
    rfl

/-- The store as a write leaves it. -/
structure StoreWritten (st : Settings) (c : Core) (store : StateStore) : Prop where
  payload : store.head.payload = c.storePayload
  clean : store.Clean st.stateHash
  identity : ∃ before, c.disk.store = some before ∧ store.identity = before.identity

/-- What is asked of a start on a clean store, and what it recovers. -/
theorem openRecover_clean {stateHash : StateHash} {store : StateStore}
    (hclean : store.Clean stateHash) (identity : StoreIdentity) (available : Except String Unit)
    (write : StoreWrite) :
    (∃ next version, store.openRecover stateHash identity available write =
        (next, .ok (store.head.payload, version)) ∧
      available = .ok () ∧ write = .done ∧ store.identity = identity) ∨
    ((∃ next failure, store.openRecover stateHash identity available write =
        (next, .error failure)) ∧
      ¬ (available = .ok () ∧ write = .done ∧ store.identity = identity)) := by
  cases available with
  | error unavailable => exact .inr ⟨⟨_, _, rfl⟩, fun h => nomatch h.1⟩
  | ok u =>
    have hvalid : store.validateAnchor = .ok () := by
      unfold StateStore.validateAnchor
      rw [hclean.anchor]
      exact (if_neg (not_not_intro rfl)).trans (if_neg Bool.noConfusion)
    unfold StateStore.openRecover StateStore.checkHead
    simp only [Except.bind, hvalid, ← hclean.checksum, ne_eq, not_true_eq_false, if_false]
    by_cases hidentity : store.identity = identity
    · subst hidentity
      simp only [not_true_eq_false, if_false]
      unfold StateStore.cas
      have hcurrent := not_not_intro (rfl : store.head.version = store.head.version)
      cases write with
      | refused error => exact .inr ⟨⟨_, _, rfl⟩, fun h => nomatch h.2.1⟩
      | readFailed => exact .inr ⟨⟨_, _, rfl⟩, fun h => nomatch h.2.1⟩
      | anchorFailed replaced =>
        simp only [if_neg hcurrent]
        exact .inr ⟨⟨_, _, rfl⟩, fun h => nomatch h.2.1⟩
      | commitFailed =>
        simp only [if_neg hcurrent]
        exact .inr ⟨⟨_, _, rfl⟩, fun h => nomatch h.2.1⟩
      | finishFailed replaced =>
        simp only [if_neg hcurrent]
        exact .inr ⟨⟨_, _, rfl⟩, fun h => nomatch h.2.1⟩
      | done =>
        simp only [if_neg hcurrent]
        exact .inl ⟨_, _, rfl, trivial, trivial, trivial⟩
    · refine .inr ⟨?_, fun h => hidentity h.2.2⟩
      by_cases haccount : store.identity.accountScopeId = identity.accountScopeId
      case neg => exact ⟨_, _, by rw [if_pos haccount]⟩
      by_cases hgenesis : store.identity.genesisId = identity.genesisId
      case neg => exact ⟨_, _, by rw [if_neg (not_not_intro haccount), if_pos hgenesis]⟩
      by_cases hdeployment : store.identity.deploymentId = identity.deploymentId
      case neg =>
        exact ⟨_, _, by
          rw [if_neg (not_not_intro haccount), if_neg (not_not_intro hgenesis),
            if_pos hdeployment]⟩
      refine absurd ?_ hidentity
      cases hstored : store.identity with
      | mk account genesis deployment =>
        rw [hstored] at haccount hgenesis hdeployment
        cases identity
        exact congr (congr (congrArg StoreIdentity.mk haccount) hgenesis) hdeployment

/-- **A start on a store that was written.** -/
theorem start_written_store (hbackend : st₂.backend = .store)
    (hhash : st₂.stateHash = st₁.stateHash)
    {disk : Disk} {input : StartInput} {store : StateStore} (hdisk : disk.store = some store)
    (hwritten : c.StoreWritten st₁ store) :
    (∃ c', Core.start st₂ disk input = .ok c' ∧ c'.control.killLatched = false ∧
        c'.stateRecovered = true) ↔ Restorable st₁ st₂ c input := by
  obtain ⟨hpayload, hclean, before, hbefore, hidentity⟩ := hwritten
  have hstore : ∀ {P : StateStore → Prop}, (∃ store, c.disk.store = some store ∧ P store) ↔
      P before := by
    intro P
    rw [hbefore]
    exact ⟨fun ⟨found, hfound, h⟩ => Option.some.inj hfound ▸ h, fun h => ⟨before, rfl, h⟩⟩
  have hfresh : (fresh st₂ disk input.now).disk.store = some store := hdisk
  unfold Restorable
  rw [hbackend]
  dsimp only
  rw [hstore, ← hidentity, ← hpayload]
  unfold Core.start
  simp only [hbackend]
  unfold openStateStore
  simp only [hfresh]
  by_cases hconfigured : st₂.accountScopeId = "" ∨ st₂.genesisId = "" ∨
    st₂.seed.deploymentId = ""
  · rw [if_pos hconfigured]
    refine ⟨fun ⟨_, hstart, _⟩ => (nomatch hstart), fun h => ?_⟩
    obtain ⟨-, -, -, haccount, hgenesis, hdeployment, -⟩ := h
    rcases hconfigured with h | h | h
    · exact absurd h haccount
    · exact absurd h hgenesis
    · exact absurd h hdeployment
  rw [if_neg hconfigured, ← hhash] at *
  rcases openRecover_clean hclean ⟨st₂.accountScopeId, st₂.genesisId, st₂.seed.deploymentId⟩
      input.available (input.storage.writeStore "writer_epoch_acquired" store.head.payload) with
    ⟨next, version, hopened, havailable, hwrite, hsame⟩ | ⟨⟨next, failure, hopened⟩, hnot⟩
  · rw [hopened]
    have happly : (fresh st₂ disk input.now).applyStateStorePayload store.head.payload =
        .ok ((fresh st₂ disk input.now).restored c) := by
      rw [hpayload, apply_storePayload]
    simp only [happly]
    constructor
    · rintro ⟨c', hstart, hlatched, -⟩
      cases hstart
      have hidle : c.control.killLatched = false := hlatched
      rw [not_or, not_or] at hconfigured
      exact ⟨hidle, havailable, hwrite, hconfigured.1, hconfigured.2.1, hconfigured.2.2, hsame⟩
    · rintro ⟨hlatched, -⟩
      exact ⟨_, rfl, hlatched, rfl⟩
  · rw [hopened]
    refine ⟨fun ⟨_, hstart, _⟩ => (nomatch hstart), fun h => ?_⟩
    obtain ⟨-, havailable, hwrite, -, -, -, hsame⟩ := h
    exact absurd ⟨havailable, hwrite, hsame⟩ hnot

/-! ## The result -/

variable {written : Core} {storage : Storage}

/-- **What persisting leaves in the file**, where it writes. -/
theorem persistFile_written {force : Bool} (hbackend : st₁.backend = .file)
    (hwrites : ¬ (force = false ∧ c.lastPersistedFingerprint = some (c.fingerprint st₁)))
    (h : c.persistDurableState st₁ storage event force = (written, some true)) :
    written.disk.file = some (.record (some (c.filePayload st₁ event))
      (st₁.checksum (c.filePayload st₁ event))) := by
  unfold persistDurableState at h
  simp only [hbackend] at h
  unfold persistFile at h
  rw [if_neg hwrites] at h
  dsimp only at h
  split at h
  · cases congrArg Prod.snd h
  · cases congrArg Prod.snd h
  · cases h
    rfl

/-- **What persisting leaves in the store**, where there is one. -/
theorem persistStore_written {force : Bool} (hbackend : st₁.backend = .store)
    (h : c.persistDurableState st₁ storage event force = (written, some true)) :
    (c.disk.store = none ∧ written.disk.store = none) ∨
      ∃ store, written.disk.store = some store ∧ c.StoreWritten st₁ store := by
  unfold persistDurableState at h
  simp only [hbackend] at h
  cases hdisk : c.disk.store with
  | none =>
    refine .inl ⟨rfl, ?_⟩
    simp only [hdisk] at h
    unfold persistNowhere at h
    split at h
    · cases congrArg Prod.snd h
    · cases h
      exact hdisk
  | some before =>
    refine .inr ?_
    simp only [hdisk] at h
    unfold persistStore at h
    dsimp only at h
    cases hcas : before.cas st₁.stateHash (storage.writeStore event c.storePayload)
        c.stateVersion c.storePayload before.head.version.writerEpoch
        before.head.version.ownerEpoch (max c.stateVersion.safetyEpoch c.pendingSafetyEpoch) with
    | mk next result =>
      simp only [hcas] at h
      cases result with
      | error failure =>
        cases failure with
        | refused error => cases congrArg Prod.snd h
        | escaped => cases congrArg Prod.snd h
      | ok version =>
        obtain ⟨-, -, hhead, hanchor, -⟩ := StateStore.cas_eq_ok hcas
        have hidentity := (StateStore.attempt_head st₁.stateHash before
          ⟨storage.writeStore event c.storePayload, c.stateVersion, c.storePayload,
            before.head.version.writerEpoch, before.head.version.ownerEpoch,
            max c.stateVersion.safetyEpoch c.pendingSafetyEpoch⟩).1
        unfold StateStore.attempt at hidentity
        rw [hcas] at hidentity
        cases h
        refine ⟨next, rfl, ?_, ⟨hanchor, ?_⟩, before, hdisk, hidentity⟩
        · rw [hhead]
          rfl
        · rw [hhead]
          rfl

/-- **A start on what was persisted** comes up unlatched exactly where it is `Restorable`. -/
theorem start_persisted (hbackend : st₂.backend = st₁.backend)
    (hchecksum : st₂.checksum = st₁.checksum) (hhash : st₂.stateHash = st₁.stateHash)
    (h : c.persistDurableState st₁ storage event true = (written, some true))
    (input : StartInput) :
    (∃ c', Core.start st₂ written.disk input = .ok c' ∧ c'.control.killLatched = false ∧
        c'.stateRecovered = true) ↔ Restorable st₁ st₂ c input := by
  cases hkind : st₁.backend with
  | file =>
    exact start_written_file (hbackend.trans hkind) hchecksum
      (persistFile_written hkind (fun hskip => Bool.noConfusion hskip.1) h)
  | nowhere =>
    unfold Restorable Core.start
    simp only [hbackend.trans hkind]
    unfold loadNowhere
    refine ⟨fun ⟨c', hstart, _, hrecovered⟩ => ?_, fun hno => hno.2.elim⟩
    cases hstart
    split at hrecovered <;> cases hrecovered
  | store =>
    rcases persistStore_written hkind h with ⟨hbefore, hafter⟩ | ⟨store, hdisk, hwritten⟩
    · have hfresh : (fresh st₂ written.disk input.now).disk.store = none := hafter
      unfold Restorable Core.start
      simp only [hbackend.trans hkind]
      unfold openStateStore
      simp only [hfresh, hbefore]
      refine ⟨fun ⟨_, hstart, _⟩ => (nomatch hstart), fun hno => ?_⟩
      obtain ⟨-, -, -, -, -, -, store, hsome, -⟩ := hno
      cases hsome
    · exact start_written_store (hbackend.trans hkind) hhash hdisk hwritten

/-- The identities agree where the state is restorable, exactly if they are covered. -/
theorem Restorable.identity_iff {input : StartInput} (hbackend : st₂.backend = st₁.backend)
    (h : Restorable st₁ st₂ c input) : c.identity st₁ = st₂.identity ↔ Covered st₁ st₂ c := by
  unfold Restorable at h
  unfold Covered Core.identity Settings.identity
  cases hkind : st₂.backend with
  | nowhere =>
    simp only [hkind] at h
    exact h.2.elim
  | file =>
    rw [← hbackend, hkind]
    simp only [hkind] at h ⊢
    obtain ⟨-, -, hadmits, -⟩ := h
    -- a stored text that passes is the configured one, or there is none configured
    have hsame : ∀ pair ∈ filePairs st₁ st₂ c,
        (pair.1 = Text.strip pair.2 ↔ (pair.2 = "" → pair.1 = "")) := by
      intro pair hmem
      have hstripped : Text.strip pair.1 = pair.1 := by
        simp only [filePairs, List.mem_cons, List.not_mem_nil, or_false] at hmem
        rcases hmem with rfl | rfl | rfl <;> exact Text.strip_strip _
      by_cases hconfigured : pair.2 = ""
      · have hempty : Text.strip "" = "" := rfl
        simp only [hconfigured, hempty, forall_const]
      · rw [← (hadmits pair hmem).eq hconfigured, hstripped]
        exact ⟨fun _ hnone => hnone, fun _ => rfl⟩
    rw [StateIdentity.mk.injEq]
    have haccount := hsame _ (.head _)
    have hdeployment := hsame _ (.tail _ (.head _))
    have hpolicy := hsame _ (.tail _ (.tail _ (.head _)))
    rw [haccount, hdeployment, hpolicy]
    simp only [filePairs, List.forall_mem_cons]
    exact ⟨fun ⟨h₁, h₂, h₃⟩ => ⟨h₁, h₂, h₃, nofun⟩, fun ⟨h₁, h₂, h₃, _⟩ => ⟨h₁, h₂, h₃⟩⟩
  | store =>
    rw [← hbackend, hkind]
    simp only [hkind] at h ⊢
    obtain ⟨-, -, -, -, -, -, store, hdisk, hidentity⟩ := h
    rw [hdisk]
    simp only [hidentity, StateIdentity.mk.injEq, true_and]

/-- **Whose state is restored.**  A state that was persisted is bound to its identity, for every
start on it, exactly where it cannot come up unlatched at all, or where the identities are
covered: with the file every identity the state has is configured, with the store the policies
agree. -/
theorem restored_identity (hbackend : st₂.backend = st₁.backend)
    (hchecksum : st₂.checksum = st₁.checksum) (hhash : st₂.stateHash = st₁.stateHash)
    (h : c.persistDurableState st₁ storage event true = (written, some true))
    (input : StartInput) :
    Bound st₁ st₂ c written.disk input ↔
      (Restorable st₁ st₂ c input → Covered st₁ st₂ c) := by
  have hstart := start_persisted hbackend hchecksum hhash h input
  constructor
  · intro hbound hrestorable
    obtain ⟨c', hstarted, hlatched, hrecovered⟩ := hstart.mpr hrestorable
    exact (hrestorable.identity_iff hbackend).mp (hbound c' hstarted hlatched hrecovered)
  · intro hcovered c' hstarted hlatched hrecovered
    have hrestorable := hstart.mp ⟨c', hstarted, hlatched, hrecovered⟩
    exact (hrestorable.identity_iff hbackend).mpr (hcovered hrestorable)

end Core

/-! ## A raised loss limit -/

/-- A digest that tells whole loss limits apart. -/
def samplePolicyDigest (policy : DeploymentPolicy) : String :=
  toString policy.maximumLoss.num

/-- Settings with a state store, under a deployment policy. -/
def limitSettings (maximumLoss : ℚ) : Settings :=
  let policy : DeploymentPolicy :=
    { deploymentId := "deployment"
      symbols := ["BTCUSDT"]
      declaredAccountEquity := 1000
      maxDeployedCapital := 500
      maximumLoss := maximumLoss
      reduceOnlyFraction := 1 / 2 }
  { storeSettings with deploymentPolicyFingerprint := policy.fingerprint samplePolicyDigest }

/-- A sidecar that runs with a limit of ten. -/
def limitCore : Core :=
  Core.started (limitSettings 10) (.plain (.plain false .armed)) { now := 100 }

/-- What it persists. -/
def limitWritten : Core :=
  (limitCore.persistDurableState (limitSettings 10) {} "risk_state_transition" true).1

theorem limitWritten_persisted :
    limitCore.persistDurableState (limitSettings 10) {} "risk_state_transition" true =
      (limitWritten, some true) :=
  Prod.ext rfl (by decide +kernel)

/-- A start with the limit it had comes up unlatched, and is bound: the store has the policy it
is started with. -/
theorem restored_identity_limit :
    (Core.started (limitSettings 10) limitWritten.disk { now := 200 }).control.killLatched =
      false ∧
      Core.Bound (limitSettings 10) (limitSettings 10) limitCore limitWritten.disk
      { now := 200 } := by
  refine ⟨by decide +kernel, (Core.restored_identity rfl rfl rfl limitWritten_persisted
    _).mpr fun _ => ?_⟩
  show Text.strip _ = Text.strip _
  rfl

/-- **A start with a raised limit** comes up unlatched, with another policy. -/
theorem raisedLimit_unlatched :
    ¬ Core.Bound (limitSettings 10) (limitSettings 100) limitCore limitWritten.disk
        { now := 200 } ∧
      (limitSettings 10).identity.deployment = (limitSettings 100).identity.deployment ∧
      (limitSettings 10).identity.policy ≠ (limitSettings 100).identity.policy := by
  have hpolicy : (limitSettings 10).identity.policy ≠ (limitSettings 100).identity.policy := by
    decide +kernel
  refine ⟨fun hbound => ?_, rfl, hpolicy⟩
  have hstart : Core.start (limitSettings 100) limitWritten.disk { now := 200 } =
      .ok (Core.started (limitSettings 100) limitWritten.disk { now := 200 }) :=
    Core.start_eq_started (by decide +kernel)
  have hidentity := hbound _ hstart (by decide +kernel) (by decide +kernel)
  exact hpolicy (congrArg StateIdentity.policy hidentity)

end ChronosHFT.Sidecar
