import ChronosHFT.Migration.RuntimeState

/-!
# What a migration of the sidecar keeps

A state file of schema 1 goes through an inspection, a plan and the application of the plan, and
a sidecar starts on the store that comes out (`Migrates`).  Such a sidecar is kill-latched and
quiesced, whatever the file says.

Its baselines are another matter.  A key that the payload lacks is zero to the reader of the file
and the seed of the settings to the reader of the store, so a baseline is the one of the file
just if the key is there or the seed is what the file's reader takes (`Covers`).  And the plan
asks for a new deployment where the history of cash flows is incomplete, but it compares the
argument as it is given and uses it stripped: a blank around the old id makes a new one of it. -/

namespace ChronosHFT.Migration

open Sidecar

variable {L : Language}

/-! ## The readers -/

/-- A number both readers take the same way is zero where it does not count as true. -/
theorem finiteFloat_of_not_truthy {value : Json} {q : ℚ} (h : L.finiteFloat value = some q)
    (hfalse : value.truthy = false) : q = 0 := by
  unfold Language.finiteFloat at h
  cases value with
  | str text =>
    have hempty : text = "" := not_not.mp (of_decide_eq_false hfalse)
    subst hempty
    cases L.float_empty.symm.trans h
  | int n =>
    dsimp only at h
    split at h
    · have hnumber : (Json.int n).number? = some q := h
      exact Json.number?_of_not_truthy hnumber hfalse
    · cases h
  | null => cases h
  | bool b => exact Json.number?_of_not_truthy h hfalse
  | float x => exact Json.number?_of_not_truthy h hfalse
  | arr items => cases h
  | obj entries => cases h

variable {payload : Dict String Json} {deploymentId field : String}
  {flatProofReceipt : Option String} {reference : Option FileReference}

/-- **The two readers agree** on a number that the reader of the store takes. -/
theorem numberField_of_stored {q : ℚ}
    (h : storedNumber L payload field = .is q) (label : String) :
    Core.numberField label (readNumber L payload field) = .ok q := by
  unfold storedNumber at h
  unfold readNumber
  cases hvalue : payload.get? field with
  | none =>
    rw [hvalue] at h
    cases h
  | some value =>
    rw [hvalue] at h
    dsimp only at h ⊢
    cases hread : L.finiteFloat value with
    | none =>
      rw [hread] at h
      cases h
    | some p =>
      rw [hread] at h
      cases h
      split
      · rename_i hfalse
        rw [finiteFloat_of_not_truthy hread hfalse]
        rfl
      · rfl

theorem storedNumber_eq_missing :
    storedNumber L payload field = .missing ↔ payload.get? field = none := by
  unfold storedNumber
  cases payload.get? field with
  | none => exact ⟨fun _ => rfl, fun _ => rfl⟩
  | some value =>
    refine ⟨fun h => ?_, fun h => nomatch h⟩
    dsimp only at h
    split at h <;> cases h

/-! ## The state of the file -/

variable (L) in
/-- The payload of a state file. -/
def sourcePayload (files : Files) (path : String) : Option (Dict String Json) :=
  (L.loadJsonObject files path "sidecar v1 state").toOption.bind fun record =>
    (record.get? "payload").bind asDict

variable (L) in
/-- The deployment of a state file. -/
def sourceDeployment (payload : Dict String Json) : String :=
  Text.strip (L.textOr (payload.get? "deployment_id"))

variable (L) in
/-- **The number of the file** is the value of the field. -/
def KeepsNumber (payload : Dict String Json) (field : String) (value : ℚ) : Prop :=
  Core.numberField s!"state.{field}" (readNumber L payload field) = .ok value

variable (L) in
/-- **The baselines of the day** are those of the file. -/
structure KeepsDay (payload : Dict String Json) (equity : EquityState) : Prop where
  riskDay : equity.riskDay = L.textOr (payload.get? "risk_day")
  startEquity : KeepsNumber L payload "day_start_equity" equity.dayStartEquity
  cashFlow : KeepsNumber L payload "day_start_external_cash_flow_total"
    equity.dayStartExternalCashFlowTotal
  peak : KeepsNumber L payload "peak_adjusted_equity" equity.peakAdjustedEquity

variable (L) in
/-- **The baselines and the loss of the deployment** are those of the file. -/
structure KeepsDeployment (payload : Dict String Json) (equity : EquityState) : Prop where
  startEquity : KeepsNumber L payload "deployment_start_equity" equity.deploymentStartEquity
  cashFlow : KeepsNumber L payload "deployment_start_external_cash_flow_total"
    equity.deploymentStartExternalCashFlowTotal
  loss : KeepsNumber L payload "deployment_loss" equity.deploymentLoss

variable (L) in
/-- **An account-wide flat proof** for an account, unchanged and signed. -/
structure ShowsFlat (files : Files) (accountScopeId : String) (reference : FileReference)
    (proof : Dict String Json) : Prop where
  unchanged : ∃ bytes, files reference.path = some bytes ∧
    Sha256.hexdigest bytes = reference.sha256
  loaded : L.loadJsonObject files reference.path "flat proof receipt" = .ok proof
  scope : proof.get? "scope" = some (.str "ACCOUNT_WIDE")
  account : proof.get? "account_scope_id" = some (.str accountScopeId)
  openOrders : (proof.get? "open_order_count").bind Json.number? = some 0
  positions : (proof.get? "nonzero_position_count").bind Json.number? = some 0
  complete : (proof.get? "complete").bind Json.number? = some 1
  signed : proof.get? "proof_sha256" = some (.str (documentDigest proof "proof_sha256"))

/-- **What a start takes over from the file.**  A number that is missing in the payload counts as
zero there and is left to the seed here. -/
def Covers (payload : Dict String Json) (field : String) (seed : ℚ) : Prop :=
  (payload.get? field).isSome = true ∨ seed = 0

/-- The baselines of the day are taken over. -/
structure CoversDay (payload : Dict String Json) (seed : EquityState) : Prop where
  riskDay : (payload.get? "risk_day").isSome = true ∨ seed.riskDay = ""
  startEquity : Covers payload "day_start_equity" seed.dayStartEquity
  cashFlow : Covers payload "day_start_external_cash_flow_total"
    seed.dayStartExternalCashFlowTotal
  peak : Covers payload "peak_adjusted_equity" seed.peakAdjustedEquity

/-- The baselines and the loss of the deployment are taken over. -/
structure CoversDeployment (payload : Dict String Json) (seed : EquityState) : Prop where
  startEquity : Covers payload "deployment_start_equity" seed.deploymentStartEquity
  cashFlow : Covers payload "deployment_start_external_cash_flow_total"
    seed.deploymentStartExternalCashFlowTotal
  loss : Covers payload "deployment_loss" (max 0 seed.deploymentLoss)

/-! ## What each step of a migration says -/

section Steps

variable {files : Files} {path : String} {request : PlanRequest} {input : ApplyInput}

variable {source : SidecarSource} {action : SidecarAction}

theorem inspectSidecar_eq_ok (h : inspectSidecar L files path = .ok source) :
    ∃ bytes payload, files path = some bytes ∧ sourcePayload L files path = some payload ∧
      source.path = path ∧ source.sha256 = Sha256.hexdigest bytes ∧
      source.deploymentId = L.textOr (payload.get? "deployment_id") := by
  unfold inspectSidecar absoluteExistingFile at h
  cases hbytes : files path with
  | none =>
    rw [hbytes] at h
    cases h
  | some bytes =>
    rw [hbytes] at h
    dsimp only at h
    cases hrecord : L.loadJsonObject files path "sidecar v1 state" with
    | error err =>
      rw [hrecord] at h
      cases h
    | ok record =>
      rw [hrecord] at h
      dsimp only at h
      cases hpayload : (record.get? "payload").bind asDict with
      | none =>
        rw [hpayload] at h
        cases h
      | some payload =>
        rw [hpayload] at h
        dsimp only at h
        split at h
        · cases h
        split at h
        · cases h
        split at h
        · cases h
        cases h
        have hsource : sourcePayload L files path = some payload := by
          unfold sourcePayload
          rw [hrecord]
          exact hpayload
        exact ⟨bytes, payload, rfl, hsource, rfl, rfl, rfl⟩

theorem inspectSources_eq_ok {others : Except String (List (String × Json))}
    {inspection : Inspection} (h : inspectSources L files (some path) others = .ok inspection) :
    ∃ source, inspection.sidecarState = some source ∧
      inspectSidecar L files path = .ok source := by
  unfold inspectSources at h
  cases hsource : inspectSidecar L files path with
  | error err =>
    simp only [hsource] at h
    cases h
  | ok source =>
    simp only [hsource] at h
    cases others with
    | error err => cases h
    | ok others =>
      dsimp only at h
      split at h <;> cases h
      exact ⟨source, rfl, rfl⟩

theorem planSidecar_eq_ok (h : planSidecar files source request = .ok action) :
    action.source = source ∧ action.accountScopeId = Text.strip request.accountScopeId ∧
      action.deploymentId = Text.strip request.deploymentId ∧
      action.cashFlowHistoryComplete = request.cashFlowHistoryComplete ∧
      (request.cashFlowHistoryComplete = false → action.flatProofReceipt ≠ none) := by
  unfold planSidecar at h
  split at h
  · cases h
  cases hproof : planProof files request.flatProofReceipt with
  | error err =>
    rw [hproof] at h
    cases h
  | ok proof =>
    rw [hproof] at h
    dsimp only at h
    split at h
    · cases h
    rename_i hgiven
    split at h
    · cases h
    · cases h
      exact ⟨rfl, rfl, rfl, rfl, fun hincomplete hnone => hgiven ⟨hincomplete, hnone⟩⟩

theorem buildMigrationPlan_eq_ok {inspection : Inspection}
    {others : Except String (List Json)} {plan : MigrationPlan}
    (hsource : inspection.sidecarState = some source)
    (h : buildMigrationPlan files inspection request others = .ok plan) :
    ∃ action, plan.sidecar = some action ∧ planSidecar files source request = .ok action := by
  unfold buildMigrationPlan at h
  simp only [hsource] at h
  split at h
  · cases h
  split at h
  · cases h
  cases haction : planSidecar files source request with
  | error err =>
    rw [haction] at h
    cases h
  | ok action =>
    rw [haction] at h
    cases others with
    | error err => cases h
    | ok others =>
      cases h
      exact ⟨action, rfl, rfl⟩

theorem equals_str {text : String} {value : Option Json} (h : equals (.str text) value = true) :
    value = some (.str text) := of_decide_eq_true h

theorem equals_zero {value : Option Json} (h : equals (.int 0) value = true) :
    value.bind Json.number? = some 0 := by
  have hnumber : value.bind Json.number? = some ((0 : ℤ) : ℚ) := of_decide_eq_true h
  rwa [Int.cast_zero] at hnumber

theorem validateFlatProof_eq_ok {reference : FileReference}
    {result : Option (Dict String Json)} (hreference : action.flatProofReceipt = some reference)
    (h : validateFlatProof L files action = .ok result) :
    ∃ proof, ShowsFlat L files action.accountScopeId reference proof := by
  unfold validateFlatProof absoluteExistingFile at h
  simp only [hreference] at h
  cases hbytes : files reference.path with
  | none =>
    rw [hbytes] at h
    cases h
  | some bytes =>
    simp only [hbytes] at h
    split at h
    · cases h
    rename_i hunchanged
    cases hproof : L.loadJsonObject files reference.path "flat proof receipt" with
    | error err =>
      rw [hproof] at h
      cases h
    | ok proof =>
      simp only [hproof] at h
      cases hrequired : (proofRequirements action.accountScopeId).find? fun required =>
          !equals required.2 (proof.get? required.1) with
      | some required =>
        rw [hrequired] at h
        cases h
      | none =>
        simp only [hrequired] at h
        split at h
        · cases h
        split at h
        · cases h
        rename_i hsigned
        have hmeets : ∀ required ∈ proofRequirements action.accountScopeId,
            equals required.2 (proof.get? required.1) = true := by
          intro required hmem
          have hnot := List.find?_eq_none.mp hrequired _ hmem
          rwa [Bool.not_eq_true, Bool.not_eq_false'] at hnot
        simp only [proofRequirements, List.forall_mem_cons] at hmeets
        obtain ⟨hscope, haccount, horders, hpositions, hcomplete, -⟩ := hmeets
        exact ⟨proof, ⟨bytes, hbytes, not_not.mp hunchanged⟩, hproof, equals_str hscope,
          equals_str haccount, equals_zero horders, equals_zero hpositions,
          of_decide_eq_true hcomplete, not_not.mp hsigned⟩

theorem migrateSidecar_eq_ok {lineage : Lineage}
    (h : migrateSidecar L input action = .ok lineage) :
    ∃ payload proof, sourcePayload L input.files action.source.path = some payload ∧
      validateFlatProof L input.files action = .ok proof ∧
      lineage.accountScopeId = Text.strip action.accountScopeId ∧
      lineage.deploymentId = Text.strip action.deploymentId ∧
      lineage.payload =
        if action.cashFlowHistoryComplete then payload.setAll (migratedFields L action proof)
        else (payload.setAll (migratedFields L action proof)).setAll resetFields := by
  unfold migrateSidecar migratedPayload at h
  cases hrecord : L.loadJsonObject input.files action.source.path "sidecar v1 state" with
  | error err =>
    rw [hrecord] at h
    cases h
  | ok record =>
    simp only [hrecord] at h
    cases hpayload : (record.get? "payload").bind asDict with
    | none =>
      rw [hpayload] at h
      cases h
    | some payload =>
      simp only [hpayload] at h
      have hsource : sourcePayload L input.files action.source.path = some payload := by
        unfold sourcePayload
        rw [hrecord]
        exact hpayload
      by_cases hchecksum : record.get? "sha256" ≠ some (.str (canonicalDigest payload.items))
      · rw [if_pos hchecksum] at h
        cases h
      rw [if_neg hchecksum] at h
      cases hproof : validateFlatProof L input.files action with
      | error err =>
        rw [hproof] at h
        cases h
      | ok proof =>
        rw [hproof] at h
        dsimp only at h
        unfold provision at h
        split at h <;> cases h
        exact ⟨payload, proof, hsource, rfl, rfl, rfl, rfl⟩

theorem applyMigrationPlan_eq_ok {plan : MigrationPlan}
    {result : Option Lineage} (hsidecar : plan.sidecar = some action)
    (h : applyMigrationPlan L plan input = .ok result) :
    checkSource input.files action.source = .ok () ∧
      ∃ lineage, result = some lineage ∧ migrateSidecar L input action = .ok lineage := by
  unfold applyMigrationPlan at h
  split at h
  · cases h
  split at h
  · cases h
  split at h
  · cases h
  split at h
  · cases h
  simp only [hsidecar] at h
  cases hsource : checkSource input.files action.source with
  | error err =>
    rw [hsource] at h
    cases h
  | ok u =>
    rw [hsource] at h
    dsimp only at h
    split at h
    · cases h
    split at h
    · cases h
    cases hlineage : migrateSidecar L input action with
    | error err =>
      rw [hlineage] at h
      cases h
    | ok lineage =>
      rw [hlineage] at h
      dsimp only at h
      cases hdone : input.others.bind fun _ => input.storage with
      | error err =>
        rw [hdone] at h
        cases h
      | ok u =>
        rw [hdone] at h
        cases h
        exact ⟨rfl, lineage, rfl, rfl⟩

/-- The payload of a file is that of its content. -/
theorem sourcePayload_congr {files' : Files} (h : files path = files' path) :
    sourcePayload L files path = sourcePayload L files' path := by
  unfold sourcePayload Language.loadJsonObject
  rw [h]

end Steps

/-! ## The start on a migrated store -/

/-- A number as a start leaves it: that of the payload, or the one from before. -/
def Restores (stored : Sidecar.Field ℚ) (before after : ℚ) : Prop :=
  stored = .missing ∧ after = before ∨ stored = .is after

theorem restoreNumbers_cons {stored : StoredEquity} {label : String}
    {read : StoredEquity → Sidecar.Field ℚ} {set : EquityState → ℚ → EquityState}
    {rest : List (String × (StoredEquity → Sidecar.Field ℚ) × (EquityState → ℚ → EquityState))}
    {before after : EquityState} (get : EquityState → ℚ)
    (hget : set before (get before) = before)
    (h : Core.restoreNumbers stored ((label, read, set) :: rest) before = .ok after) :
    ∃ x, Restores (read stored) (get before) x ∧
      Core.restoreNumbers stored rest (set before x) = .ok after := by
  unfold Core.restoreNumbers at h
  cases hread : read stored with
  | missing =>
    rw [hread] at h
    exact ⟨get before, .inl ⟨rfl, rfl⟩, by rwa [hget]⟩
  | wrong =>
    rw [hread] at h
    cases h
  | is value =>
    rw [hread] at h
    exact ⟨value, .inr rfl, h⟩

/-- **The baselines a start restores**, one by one. -/
theorem restoreEquity_eq_ok {stored : StoredEquity} {before after : EquityState}
    (h : Core.restoreEquity stored before = .ok after) :
    after.deploymentId = before.deploymentId ∧
      after.riskDay = stored.riskDay.getD before.riskDay ∧
      Restores stored.dayStartEquity before.dayStartEquity after.dayStartEquity ∧
      Restores stored.dayStartExternalCashFlowTotal before.dayStartExternalCashFlowTotal
        after.dayStartExternalCashFlowTotal ∧
      Restores stored.peakAdjustedEquity before.peakAdjustedEquity after.peakAdjustedEquity ∧
      Restores stored.deploymentStartEquity before.deploymentStartEquity
        after.deploymentStartEquity ∧
      Restores stored.deploymentStartExternalCashFlowTotal
        before.deploymentStartExternalCashFlowTotal after.deploymentStartExternalCashFlowTotal ∧
      Restores stored.deploymentLoss before.deploymentLoss after.deploymentLoss := by
  unfold Core.restoreEquity at h
  cases hnumbers : Core.restoreNumbers stored Core.restoredNumbers before with
  | error err =>
    rw [hnumbers] at h
    cases h
  | ok restored =>
    rw [hnumbers] at h
    cases h
    unfold Core.restoredNumbers at hnumbers
    obtain ⟨dayStart, hdayStart, hnumbers⟩ :=
      restoreNumbers_cons EquityState.dayStartEquity rfl hnumbers
    obtain ⟨dayFlow, hdayFlow, hnumbers⟩ :=
      restoreNumbers_cons EquityState.dayStartExternalCashFlowTotal rfl hnumbers
    obtain ⟨peak, hpeak, hnumbers⟩ :=
      restoreNumbers_cons EquityState.peakAdjustedEquity rfl hnumbers
    obtain ⟨last, -, hnumbers⟩ := restoreNumbers_cons EquityState.lastEquity rfl hnumbers
    obtain ⟨start, hstart, hnumbers⟩ :=
      restoreNumbers_cons EquityState.deploymentStartEquity rfl hnumbers
    obtain ⟨flow, hflow, hnumbers⟩ :=
      restoreNumbers_cons EquityState.deploymentStartExternalCashFlowTotal rfl hnumbers
    obtain ⟨adjusted, -, hnumbers⟩ :=
      restoreNumbers_cons EquityState.deploymentAdjustedEquity rfl hnumbers
    obtain ⟨loss, hloss, hnumbers⟩ :=
      restoreNumbers_cons EquityState.deploymentLoss rfl hnumbers
    cases hnumbers
    exact ⟨rfl, rfl, hdayStart, hdayFlow, hpeak, hstart, hflow, hloss⟩

/-- **A start on a migrated store** has the latches and the baselines of the payload. -/
theorem start_lineage {st : Settings} {lineage : Lineage} {disk : Disk} {start : Core.StartInput}
    {c : Core} (hbackend : st.backend = .store)
    (hdisk : disk.store = some (lineage.store L st.stateHash))
    (hstart : Core.start st disk start = .ok c) :
    lineage.accountScopeId = st.accountScopeId ∧ lineage.deploymentId = st.seed.deploymentId ∧
      (lineage.payload.get? "kill_latched").bind flag = some c.control.killLatched ∧
      (lineage.payload.get? "quiesced").elim (some false) flag = some c.control.quiesced ∧
      Core.restoreEquity (storePayload L lineage.payload).equity
        { st.seed with deploymentLoss := max 0 st.seed.deploymentLoss } =
          .ok c.observation.equity := by
  unfold Core.start at hstart
  simp only [hbackend] at hstart
  obtain ⟨store, next, applied, hstore, hidentity, happlied, rfl⟩ :=
    Core.openStateStore_eq_ok hstart
  have hsame : store = lineage.store L st.stateHash := Option.some.inj (hstore.symm.trans hdisk)
  subst hsame
  obtain ⟨killLatched, quiesced, quiescedAt, equity, proof, hlatched, hquiesced, -, hequity, -,
    rfl⟩ := Core.applyStateStorePayload_eq_ok happlied
  exact ⟨congrArg StoreIdentity.accountScopeId hidentity,
    congrArg StoreIdentity.deploymentId hidentity, hlatched, hquiesced, hequity⟩

/-- **A number is that of the file** just if it is taken over. -/
theorem keepsNumber_iff {seed value : ℚ}
    (h : Restores (storedNumber L payload field) seed value) :
    KeepsNumber L payload field value ↔ Covers payload field seed := by
  unfold KeepsNumber Covers
  rcases h with ⟨hmissing, rfl⟩ | hvalue
  · have hnone := storedNumber_eq_missing.mp hmissing
    unfold readNumber
    rw [hnone]
    simp only [Core.numberField, Option.isSome_none, Bool.false_eq_true, false_or]
    exact ⟨fun h => (Except.ok.inj h).symm, fun h => congrArg Except.ok h.symm⟩
  · have hsome : (payload.get? field).isSome = true := by
      cases hget : payload.get? field with
      | none =>
        have hmissing : storedNumber L payload field = .missing :=
          storedNumber_eq_missing.mpr hget
        rw [hmissing] at hvalue
        cases hvalue
      | some value => rfl
    exact ⟨fun _ => .inl hsome, fun _ => numberField_of_stored hvalue _⟩

/-! ## The result -/

variable (L) in
/-- **No loss is lost.**  The day is that of the file; so is the deployment, where the history of
cash flows is complete, and otherwise it is a new one of an account that was shown to be flat. -/
structure KeepsLosses (payload : Dict String Json) (request : PlanRequest) (files : Files)
    (st : Settings) (c : Core) : Prop where
  day : KeepsDay L payload c.observation.equity
  deployment : request.cashFlowHistoryComplete = true →
    KeepsDeployment L payload c.observation.equity
  renewed : request.cashFlowHistoryComplete = false →
    c.observation.equity.deploymentId ≠ sourceDeployment L payload ∧
      ∃ reference proof, ShowsFlat L files st.accountScopeId reference proof

variable (L) in
/-- What this takes: the keys of the baselines that are to be taken over, or seeds that say the
same, and an id that is new without its blanks. -/
structure CarriesOver (payload : Dict String Json) (request : PlanRequest) (seed : EquityState) :
    Prop where
  day : CoversDay payload seed
  deployment : request.cashFlowHistoryComplete = true → CoversDeployment payload seed
  renewed : request.cashFlowHistoryComplete = false →
    Text.strip request.deploymentId ≠ sourceDeployment L payload

section Result

variable {files files' : Files} {path : String} {request : PlanRequest} {input : ApplyInput}
  {st : Settings}

theorem keys_migratedFields (action : SidecarAction) (proof : Option (Dict String Json)) :
    (migratedFields L action proof).map Prod.fst =
      ["schema_version", "legacy_source_schema", "legacy_source_sha256", "generation",
        "deployment_id", "account_scope_id", "kill_latched", "kill_reason", "stage", "quiesced",
        "quiesce_reason", "manual_rearm_required", "flat_proof_id"] := rfl

/-- The keys that no step of the migration sets. -/
theorem get?_migrated {payload : Dict String Json} (action : SidecarAction)
    (proof : Option (Dict String Json)) {field : String}
    (h : field ∉ (migratedFields L action proof).map Prod.fst)
    (hreset : action.cashFlowHistoryComplete = true ∨ field ∉ resetFields.map Prod.fst) :
    (if action.cashFlowHistoryComplete then payload.setAll (migratedFields L action proof)
      else (payload.setAll (migratedFields L action proof)).setAll resetFields).get? field =
      payload.get? field := by
  cases hcomplete : action.cashFlowHistoryComplete with
  | true => exact Dict.get?_setAll_of_not_mem h
  | false =>
    rw [hcomplete] at hreset
    have hnot := hreset.resolve_left Bool.false_ne_true
    exact (Dict.get?_setAll_of_not_mem hnot).trans (Dict.get?_setAll_of_not_mem h)

/-- A key every migration sets. -/
theorem get?_migrated_set {payload : Dict String Json} (action : SidecarAction)
    (proof : Option (Dict String Json)) {field : String} {value : Json}
    (h : (field, value) ∈ migratedFields L action proof)
    (hreset : field ∉ resetFields.map Prod.fst) :
    (if action.cashFlowHistoryComplete then payload.setAll (migratedFields L action proof)
      else (payload.setAll (migratedFields L action proof)).setAll resetFields).get? field =
      some value := by
  have hnodup : ((migratedFields L action proof).map Prod.fst).Nodup := by
    rw [keys_migratedFields]
    decide
  cases action.cashFlowHistoryComplete with
  | true => exact Dict.get?_setAll_of_mem hnodup h
  | false =>
    exact (Dict.get?_setAll_of_not_mem hreset).trans (Dict.get?_setAll_of_mem hnodup h)

theorem storedNumber_congr {payload payload' : Dict String Json} {field : String}
    (h : payload.get? field = payload'.get? field) :
    storedNumber L payload field = storedNumber L payload' field := by
  unfold storedNumber
  rw [h]

/-- **A migrated sidecar is locked, and keeps its losses just if they are carried over.** -/
theorem sidecar_migration {otherSources : Except String (List (String × Json))}
    {otherActions : Except String (List Json)} {inspection : Inspection} {plan : MigrationPlan}
    {result : Option Lineage} {disk : Disk} {start : Core.StartInput} {c : Core}
    (hinspect : inspectSources L files (some path) otherSources = .ok inspection)
    (hplan : buildMigrationPlan files' inspection request otherActions = .ok plan)
    (happly : applyMigrationPlan L plan input = .ok result)
    (hcollision : ∀ inspected applied, files path = some inspected →
      input.files path = some applied →
      Sha256.hexdigest applied = Sha256.hexdigest inspected → applied = inspected)
    (hbackend : st.backend = .store)
    (hdisk : disk.store = result.map (Lineage.store L st.stateHash))
    (hstart : Core.start st disk start = .ok c) :
    c.control.killLatched = true ∧ c.control.quiesced = true ∧
      ∃ payload, sourcePayload L files path = some payload ∧
        (KeepsLosses L payload request input.files st c ↔
          CarriesOver L payload request st.seed) := by
  obtain ⟨source, hsource, hinspected⟩ := inspectSources_eq_ok hinspect
  obtain ⟨inspected, payload, hbytes, hpayload, hpath, hsha, hdeployment⟩ :=
    inspectSidecar_eq_ok hinspected
  obtain ⟨action, haction, hplanned⟩ := buildMigrationPlan_eq_ok hsource hplan
  obtain ⟨haction_source, hscope, hid, hcomplete, hproof⟩ := planSidecar_eq_ok hplanned
  obtain ⟨hchecked, lineage, hresult, hmigrated⟩ := applyMigrationPlan_eq_ok haction happly
  obtain ⟨payload', proof, hpayload', hvalidated, haccount, hrenamed, hmigrated⟩ :=
    migrateSidecar_eq_ok hmigrated
  rw [haction_source, hpath] at hpayload'
  -- The file that is migrated is the one that was inspected.
  have hfile : input.files path = files path := by
    unfold checkSource absoluteExistingFile at hchecked
    rw [haction_source, hpath] at hchecked
    cases happlied : input.files path with
    | none =>
      rw [happlied] at hchecked
      cases hchecked
    | some applied =>
      rw [happlied] at hchecked
      dsimp only at hchecked
      split at hchecked
      · cases hchecked
      rename_i hdigest
      rw [hbytes, hcollision inspected applied hbytes happlied (hsha ▸ not_not.mp hdigest)]
  have hsame : payload' = payload :=
    Option.some.inj (hpayload'.symm.trans ((sourcePayload_congr hfile).trans hpayload))
  subst hsame
  rw [hresult] at hdisk
  obtain ⟨haccount', hdeployment', hlatched, hquiesced, hequity⟩ :=
    start_lineage hbackend hdisk hstart
  have hset : ∀ field, (field, Json.bool true) ∈ migratedFields L action proof →
      field ∉ resetFields.map Prod.fst → lineage.payload.get? field = some (.bool true) :=
    fun field hmem hreset => hmigrated ▸ get?_migrated_set action proof hmem hreset
  rw [hset "kill_latched" (by simp [migratedFields]) (by decide)] at hlatched
  rw [hset "quiesced" (by simp [migratedFields]) (by decide)] at hquiesced
  refine ⟨(Option.some.inj hlatched).symm, (Option.some.inj hquiesced).symm, payload', hpayload,
    ?_⟩
  -- The keys of the day are never touched, those of the deployment only without its history.
  have hkept : ∀ field, field ∉ (migratedFields L action proof).map Prod.fst →
      (request.cashFlowHistoryComplete = true ∨ field ∉ resetFields.map Prod.fst) →
      lineage.payload.get? field = payload'.get? field := by
    intro field hfield hreset
    rw [hmigrated]
    exact get?_migrated action proof hfield (hcomplete ▸ hreset)
  have hnumber : ∀ {field before after}, field ∉ (migratedFields L action proof).map Prod.fst →
      (request.cashFlowHistoryComplete = true ∨ field ∉ resetFields.map Prod.fst) →
      Restores (storedNumber L lineage.payload field) before after →
      (KeepsNumber L payload' field after ↔ Covers payload' field before) :=
    fun hfield hreset h =>
      keepsNumber_iff (storedNumber_congr (hkept _ hfield hreset) ▸ h)
  rw [keys_migratedFields] at hkept hnumber
  obtain ⟨hown, hday, hstartEquity, hflow, hpeak, hdeploymentStart, hdeploymentFlow, hloss⟩ :=
    restoreEquity_eq_ok hequity
  have hriskDay : c.observation.equity.riskDay = L.textOr (payload'.get? "risk_day") ↔
      (payload'.get? "risk_day").isSome = true ∨ st.seed.riskDay = "" := by
    have hread : c.observation.equity.riskDay =
        ((payload'.get? "risk_day").map fun value => L.textOr (some value)).getD
          st.seed.riskDay :=
      hkept "risk_day" (by decide) (.inr (by decide)) ▸ hday
    rw [hread]
    cases payload'.get? "risk_day" with
    | none => exact ⟨.inr, fun h => h.resolve_left Bool.false_ne_true⟩
    | some value => exact ⟨fun _ => .inl rfl, fun _ => rfl⟩
  have hkeepsDay : KeepsDay L payload' c.observation.equity ↔ CoversDay payload' st.seed := by
    have hstartEquity := hnumber (by decide) (.inr (by decide)) hstartEquity
    have hflow := hnumber (by decide) (.inr (by decide)) hflow
    have hpeak := hnumber (by decide) (.inr (by decide)) hpeak
    exact ⟨fun h => ⟨hriskDay.mp h.riskDay, hstartEquity.mp h.startEquity, hflow.mp h.cashFlow,
        hpeak.mp h.peak⟩,
      fun h => ⟨hriskDay.mpr h.riskDay, hstartEquity.mpr h.startEquity, hflow.mpr h.cashFlow,
        hpeak.mpr h.peak⟩⟩
  have hkeepsDeployment : request.cashFlowHistoryComplete = true →
      (KeepsDeployment L payload' c.observation.equity ↔ CoversDeployment payload' st.seed) := by
    intro hhistory
    have hstartEquity := hnumber (by decide) (.inl hhistory) hdeploymentStart
    have hflow := hnumber (by decide) (.inl hhistory) hdeploymentFlow
    have hloss := hnumber (by decide) (.inl hhistory) hloss
    exact ⟨fun h => ⟨hstartEquity.mp h.startEquity, hflow.mp h.cashFlow, hloss.mp h.loss⟩,
      fun h => ⟨hstartEquity.mpr h.startEquity, hflow.mpr h.cashFlow, hloss.mpr h.loss⟩⟩
  have hdeploymentId : c.observation.equity.deploymentId = Text.strip request.deploymentId := by
    rw [hown, ← hdeployment', hrenamed, hid, Text.strip_strip]
  have hflat : request.cashFlowHistoryComplete = false →
      ∃ reference proof, ShowsFlat L input.files st.accountScopeId reference proof := by
    intro hincomplete
    obtain ⟨reference, hreference⟩ := Option.ne_none_iff_exists'.mp (hproof hincomplete)
    obtain ⟨shown, hshown⟩ := validateFlatProof_eq_ok hreference hvalidated
    rw [← haccount', haccount, hscope, Text.strip_strip]
    exact ⟨reference, shown, hscope ▸ hshown⟩
  constructor
  · intro h
    exact ⟨hkeepsDay.mp h.day, fun hhistory =>
      (hkeepsDeployment hhistory).mp (h.deployment hhistory),
      fun hincomplete => hdeploymentId ▸ (h.renewed hincomplete).1⟩
  · intro h
    exact ⟨hkeepsDay.mpr h.day,
      fun hhistory => (hkeepsDeployment hhistory).mpr (h.deployment hhistory),
      fun hincomplete => ⟨hdeploymentId ▸ h.renewed hincomplete, hflat hincomplete⟩⟩

end Result

/-! ## Migrations that succeed -/

section Succeeds

variable {files : Files} {path : String} {request : PlanRequest} {input : ApplyInput}
  {source : SidecarSource} {action : SidecarAction}

theorem inspectSidecar_ok {bytes : Bytes} {record payload : Dict String Json} {generation : ℤ}
    (hbytes : files path = some bytes)
    (hrecord : L.loadJsonObject files path "sidecar v1 state" = .ok record)
    (hpayload : (record.get? "payload").bind asDict = some payload)
    (hschema : (payload.get? "schema_version").bind Json.number? = some 1)
    (hsha : record.get? "sha256" = some (.str (canonicalDigest payload.items)))
    (hgeneration : L.intOr (payload.get? "generation") = some generation) :
    inspectSidecar L files path = .ok {
      path := path
      size := bytes.length
      sha256 := Sha256.hexdigest bytes
      sourceFormat := "v1-json"
      generation := generation
      deploymentId := L.textOr (payload.get? "deployment_id") } := by
  unfold inspectSidecar absoluteExistingFile
  simp only [hbytes, hrecord, hpayload, hgeneration]
  rw [if_neg (not_not_intro hschema), if_neg (not_not_intro hsha)]

/-- The inspection of a state file alone. -/
def Inspection.of (source : SidecarSource) : Inspection :=
  ⟨inspectionSchema, some source, [],
    canonicalDigest (Inspection.unsigned ⟨inspectionSchema, some source, [], ""⟩)⟩

theorem inspectSources_ok (h : inspectSidecar L files path = .ok source) :
    inspectSources L files (some path) (.ok []) = .ok (.of source) := by
  unfold inspectSources
  simp only [h]
  rfl

/-- The plan for a state file alone. -/
def MigrationPlan.of (request : PlanRequest) (source : SidecarSource) (action : SidecarAction) :
    MigrationPlan :=
  let plan : MigrationPlan := ⟨planSchema, request.targetRoot,
    (Inspection.of source).inspectionSha256, some action, [], ""⟩
  { plan with planSha256 := plan.digest }

theorem buildMigrationPlan_ok (h : planSidecar files source request = .ok action) :
    buildMigrationPlan files (.of source) request (.ok []) =
      .ok (.of request source action) := by
  have hschema : ¬ (Inspection.of source).schema ≠ inspectionSchema := not_not_intro rfl
  have hunsigned : (Inspection.of source).unsigned =
      Inspection.unsigned ⟨inspectionSchema, some source, [], ""⟩ := by
    simp only [Inspection.unsigned, Inspection.of]
  have hdigest : ¬ (Inspection.of source).inspectionSha256 ≠
      canonicalDigest (Inspection.of source).unsigned := by
    rw [hunsigned]
    exact not_not_intro rfl
  have hsource : (Inspection.of source).sidecarState = some source := rfl
  unfold buildMigrationPlan
  simp only [if_neg hschema, if_neg hdigest, hsource, h]
  rfl

/-- What the application of a plan meets, where nothing fails. -/
def ApplyInput.of (files : Files) (plan : MigrationPlan) (genesisId : String) : ApplyInput where
  files := files
  expectedPlanSha256 := plan.planSha256
  genesisId := genesisId

theorem applyMigrationPlan_ok {bytes : Bytes} {lineage : Lineage} {genesisId : String}
    (hbytes : files action.source.path = some bytes)
    (hsha : Sha256.hexdigest bytes = action.source.sha256)
    (h : migrateSidecar L (.of files (.of request source action) genesisId) action =
      .ok lineage) :
    applyMigrationPlan L (.of request source action)
      (.of files (.of request source action) genesisId) = .ok (some lineage) := by
  generalize hplan : MigrationPlan.of request source action = plan at h ⊢
  have hchecked : checkSource (ApplyInput.of files plan genesisId).files action.source =
      .ok () := by
    have hfile : (ApplyInput.of files plan genesisId).files action.source.path = some bytes :=
      hbytes
    unfold checkSource absoluteExistingFile
    rw [hfile]
    exact if_neg (not_not_intro hsha)
  have hschema : ¬ plan.schema ≠ planSchema := hplan ▸ not_not_intro rfl
  have hdigest : plan.planSha256 = plan.digest := hplan ▸ rfl
  have hexpected : ¬ (ApplyInput.of files plan genesisId).expectedPlanSha256 ≠ plan.digest :=
    not_not_intro hdigest
  have haction : plan.sidecar = some action := hplan ▸ rfl
  have hactions : ¬ (plan.sidecar = none ∧ plan.others = []) := by
    rw [haction]
    exact fun hnone => nomatch hnone.1
  unfold applyMigrationPlan
  rw [if_neg hschema, if_neg (not_not_intro hdigest), if_neg hexpected, if_neg hactions]
  simp only [haction, hchecked, h]
  rfl

theorem validateFlatProof_ok {reference : FileReference} {bytes : Bytes}
    {proof : Dict String Json} (hreference : action.flatProofReceipt = some reference)
    (hbytes : files reference.path = some bytes)
    (hsha : Sha256.hexdigest bytes = reference.sha256)
    (hproof : L.loadJsonObject files reference.path "flat proof receipt" = .ok proof)
    (hrequired : (proofRequirements action.accountScopeId).find? (fun required =>
      !equals required.2 (proof.get? required.1)) = none)
    (hid : L.textOr (proof.get? "proof_id") ≠ "")
    (hsigned : proof.get? "proof_sha256" = some (.str (documentDigest proof "proof_sha256"))) :
    validateFlatProof L files action = .ok (some proof) := by
  have hdigest : L.textOr (proof.get? "proof_sha256") ≠ "" := by
    rw [hsigned]
    intro h
    have hlength := congrArg String.length h
    have hsha := Sha256.length_hexdigest
      (Journal.utf8 (Json.dumps (.obj (proof.erase "proof_sha256").items)))
    cases hsha.symm.trans hlength
  unfold validateFlatProof absoluteExistingFile
  simp only [hreference, hbytes, hproof, hrequired]
  rw [if_neg (not_not_intro hsha), if_neg (not_or_intro hid hdigest),
    if_neg (not_not_intro hsigned)]

theorem migrateSidecar_ok {record payload : Dict String Json}
    {proof : Option (Dict String Json)}
    (hrecord : L.loadJsonObject input.files action.source.path "sidecar v1 state" = .ok record)
    (hpayload : (record.get? "payload").bind asDict = some payload)
    (hsha : record.get? "sha256" = some (.str (canonicalDigest payload.items)))
    (hproof : validateFlatProof L input.files action = .ok proof)
    (haccount : Text.strip action.accountScopeId ≠ "")
    (hdeployment : Text.strip action.deploymentId ≠ "") :
    migrateSidecar L input action = .ok {
      accountScopeId := Text.strip action.accountScopeId
      genesisId := input.genesisId
      deploymentId := Text.strip action.deploymentId
      payload := if action.cashFlowHistoryComplete then
          payload.setAll (migratedFields L action proof)
        else (payload.setAll (migratedFields L action proof)).setAll resetFields } := by
  unfold migrateSidecar migratedPayload
  simp only [hrecord, hpayload]
  rw [if_neg (not_not_intro hsha), hproof]
  dsimp only
  unfold provision
  rw [if_neg (not_or_intro haccount hdeployment)]

end Succeeds

/-! ## A migration -/

/-- A reader of JSON texts, for documents without other values in the place of texts and
numbers. -/
def Language.plain : Language where
  loads bytes := (Journal.ofUtf8? bytes).bind Json.loads
  str := Json.dumps
  float _ := none
  int _ := none
  float_empty := rfl

/-- A file with a document. -/
def fileOf (entries : List (String × Json)) : Bytes :=
  Journal.utf8 (String.ofList (Json.print (.obj entries)))

/-- A document that was written is read. -/
theorem loadJsonObject_fileOf {files : Files} {path : String} {entries : List (String × Json)}
    (hdistinct : (Json.obj entries).Distinct) (hfile : files path = some (fileOf entries))
    (label : String) : Language.plain.loadJsonObject files path label =
      .ok (.ofList entries) := by
  have hloads : Language.plain.loads (fileOf entries) = some (.obj entries) := by
    have hread := Json.loads_print hdistinct (List.forall_mem_nil _)
    rw [List.append_nil] at hread
    show (Journal.ofUtf8? (Journal.utf8 _)).bind Json.loads = _
    rw [Journal.ofUtf8?_utf8]
    exact hread
  unfold Language.loadJsonObject
  rw [hfile, Option.bind_some, hloads]
  rfl

/-- The payload of a state file. -/
def sampleState : List (String × Json) :=
  [("schema_version", .int 1), ("generation", .int 7), ("kill_latched", .bool false),
    ("deployment_id", .str "deployment"), ("risk_day", .str "2026-01-02"),
    ("day_start_equity", .int 1000), ("peak_adjusted_equity", .int 1000),
    ("deployment_start_equity", .int 1000), ("deployment_loss", .int 50)]

/-- The record of a state file. -/
def stateRecord (sha256 : String) : List (String × Json) :=
  [("payload", .obj sampleState), ("sha256", .str sha256)]

/-- A flat proof of the account, without its digest. -/
def sampleProof : List (String × Json) :=
  [("scope", .str "ACCOUNT_WIDE"), ("account_scope_id", .str "account"),
    ("open_order_count", .int 0), ("nonzero_position_count", .int 0), ("complete", .bool true),
    ("proof_id", .str "proof-1")]

/-- The receipt of a flat proof. -/
def proofReceipt (sha256 : String) : List (String × Json) :=
  sampleProof ++ [("proof_sha256", .str sha256)]

/-- The files of a migration. -/
def sampleFiles : Files
  | "state.json" => some (fileOf (stateRecord (canonicalDigest sampleState)))
  | "proof.json" => some (fileOf (proofReceipt (canonicalDigest sampleProof)))
  | _ => none

theorem load_state (label : String) :
    Language.plain.loadJsonObject sampleFiles "state.json" label =
      .ok (.ofList (stateRecord (canonicalDigest sampleState))) := by
  refine loadJsonObject_fileOf ?_ rfl label
  simp [stateRecord, sampleState, Json.Distinct, Json.DistinctEntries]

theorem load_proof (label : String) :
    Language.plain.loadJsonObject sampleFiles "proof.json" label =
      .ok (.ofList (proofReceipt (canonicalDigest sampleProof))) := by
  refine loadJsonObject_fileOf ?_ rfl label
  simp [proofReceipt, sampleProof, Json.Distinct, Json.DistinctEntries]

theorem stateRecord_payload (sha256 : String) :
    ((Dict.ofList (stateRecord sha256)).get? "payload").bind asDict =
      some (.ofList sampleState) := rfl

theorem stateRecord_sha256 :
    (Dict.ofList (stateRecord (canonicalDigest sampleState))).get? "sha256" =
      some (.str (canonicalDigest (Dict.ofList sampleState).items)) := by
  have hitems : (Dict.ofList sampleState).items = sampleState := Dict.items_ofList (by decide)
  rw [hitems]
  generalize canonicalDigest sampleState = digest
  rfl

/-- What the inspection says about the state file. -/
def sampleSource : SidecarSource where
  path := "state.json"
  size := (fileOf (stateRecord (canonicalDigest sampleState))).length
  sha256 := Sha256.hexdigest (fileOf (stateRecord (canonicalDigest sampleState)))
  sourceFormat := "v1-json"
  generation := 7
  deploymentId := "deployment"

theorem inspectSidecar_sample :
    inspectSidecar .plain sampleFiles "state.json" = .ok sampleSource :=
  inspectSidecar_ok rfl (load_state _) (stateRecord_payload _) (by decide +kernel)
    stateRecord_sha256 (by decide +kernel)

/-- The settings of the sidecar that is to use the store. -/
def sampleSettings : Settings := .plain .store 2 (by decide)

/-- A request for the account of the settings. -/
def sampleRequest (deploymentId : String) (flatProofReceipt : Option String) : PlanRequest where
  targetRoot := "/new"
  accountScopeId := "account"
  deploymentId := deploymentId
  cashFlowHistoryComplete := flatProofReceipt.isNone
  flatProofReceipt := flatProofReceipt

/-- The action that is planned for it. -/
def sampleAction (flatProofReceipt : Option FileReference) : SidecarAction where
  source := sampleSource
  targetRelative := "storage/risk/accounts/account"
  accountScopeId := "account"
  deploymentId := "deployment"
  cashFlowHistoryComplete := flatProofReceipt.isNone
  flatProofReceipt := flatProofReceipt

/-- The receipt of the flat proof. -/
def sampleReference : FileReference where
  path := "proof.json"
  sha256 := Sha256.hexdigest (fileOf (proofReceipt (canonicalDigest sampleProof)))

theorem planSidecar_sample (hstrip : Text.strip deploymentId = "deployment")
    (hproof : planProof sampleFiles flatProofReceipt = .ok reference)
    (hsome : reference.isNone = flatProofReceipt.isNone)
    (hrenamed : flatProofReceipt.isNone = false → deploymentId ≠ "deployment") :
    planSidecar sampleFiles sampleSource (sampleRequest deploymentId flatProofReceipt) =
      .ok (sampleAction reference) := by
  have haccount : Text.strip "account" = "account" := by decide +kernel
  have hgiven : ¬ (flatProofReceipt.isNone = false ∧ reference = none) := by
    rintro ⟨hgiven, rfl⟩
    exact Bool.noConfusion (hsome.trans hgiven)
  have hnew : ¬ (flatProofReceipt.isNone = false ∧ deploymentId = sampleSource.deploymentId) :=
    fun h => hrenamed h.1 h.2
  unfold planSidecar sampleRequest
  simp only [haccount, hstrip, hproof, if_neg hgiven, if_neg hnew]
  unfold sampleAction
  rw [hsome]
  exact if_neg (by decide)

theorem validateFlatProof_sample :
    validateFlatProof .plain sampleFiles (sampleAction (some sampleReference)) =
      .ok (some (.ofList (proofReceipt (canonicalDigest sampleProof)))) := by
  have hsigned : (Dict.ofList (proofReceipt (canonicalDigest sampleProof))).get? "proof_sha256" =
      some (.str (documentDigest (Dict.ofList (proofReceipt (canonicalDigest sampleProof)))
        "proof_sha256")) := by
    have herased : ∀ digest, ((Dict.ofList (proofReceipt digest)).erase "proof_sha256").items =
        sampleProof := fun _ => rfl
    unfold documentDigest
    rw [herased]
    generalize canonicalDigest sampleProof = digest
    rfl
  refine validateFlatProof_ok rfl ?_ rfl (load_proof _) (by decide +kernel) ?_ hsigned
  · exact (rfl : sampleFiles "proof.json" = _)
  have hid : ∀ digest, Language.plain.textOr ((Dict.ofList (proofReceipt digest)).get?
      "proof_id") = "proof-1" := fun _ => rfl
  rw [hid]
  decide

/-- The lineage of an action, with the flat proof it was validated by. -/
def sampleLineage (reference : Option FileReference) (proof : Option (Dict String Json)) :
    Lineage where
  accountScopeId := "account"
  genesisId := "genesis"
  deploymentId := "deployment"
  payload :=
    let payload := (Dict.ofList sampleState).setAll
      (migratedFields .plain (sampleAction reference) proof)
    if reference.isNone then payload else payload.setAll resetFields

theorem applyMigrationPlan_sample {proof : Option (Dict String Json)}
    (hproof : validateFlatProof .plain sampleFiles (sampleAction reference) = .ok proof) :
    let plan := MigrationPlan.of (sampleRequest deploymentId flatProofReceipt) sampleSource
      (sampleAction reference)
    applyMigrationPlan .plain plan (.of sampleFiles plan "genesis") =
      .ok (some (sampleLineage reference proof)) := by
  have hstrip : Text.strip "account" = "account" ∧ Text.strip "deployment" = "deployment" := by
    decide +kernel
  intro plan
  have hrecord : Language.plain.loadJsonObject (ApplyInput.of sampleFiles plan "genesis").files
      (sampleAction reference).source.path "sidecar v1 state" =
        .ok (.ofList (stateRecord (canonicalDigest sampleState))) := load_state _
  have haccount : Text.strip (sampleAction reference).accountScopeId = "account" := hstrip.1
  have hdeployment : Text.strip (sampleAction reference).deploymentId = "deployment" := hstrip.2
  have hmigrated : migrateSidecar .plain (.of sampleFiles plan "genesis")
      (sampleAction reference) = .ok (sampleLineage reference proof) := by
    have h := migrateSidecar_ok hrecord (stateRecord_payload _) stateRecord_sha256 hproof
      (by rw [haccount]; decide) (by rw [hdeployment]; decide)
    rw [haccount, hdeployment] at h
    exact h
  exact applyMigrationPlan_ok
    (rfl : sampleFiles "state.json" = some (fileOf (stateRecord (canonicalDigest sampleState))))
    rfl hmigrated

/-- The sidecar that starts on the store. -/
def sampleCore (reference : Option FileReference) (proof : Option (Dict String Json)) : Core :=
  Core.started sampleSettings
    { store := some ((sampleLineage reference proof).store .plain sampleSettings.stateHash) }
    { now := 0 }

/-- The result for a file whose history of cash flows is complete. -/
theorem sidecar_migration_complete :
    let c := sampleCore none none
    c.control.killLatched = true ∧ c.control.quiesced = true ∧
      c.observation.equity.deploymentLoss = 50 ∧
      ∃ payload, sourcePayload .plain sampleFiles "state.json" = some payload ∧
        KeepsLosses .plain payload (sampleRequest "deployment" none) sampleFiles sampleSettings
        c := by
  have hplanned := @planSidecar_sample "deployment" none none (by decide +kernel) rfl rfl nofun
  have hstart : Core.start sampleSettings
      { store := some ((sampleLineage none none).store .plain sampleSettings.stateHash) }
      { now := 0 } = .ok (sampleCore none none) := Core.start_eq_started (by decide +kernel)
  obtain ⟨hlatched, hquiesced, payload, hpayload, hkeeps⟩ :=
    sidecar_migration (inspectSources_ok inspectSidecar_sample) (buildMigrationPlan_ok hplanned)
      (@applyMigrationPlan_sample "deployment" none none none rfl)
      (fun inspected applied hinspected happlied _ =>
        Option.some.inj (happlied.symm.trans hinspected))
      rfl rfl hstart
  refine ⟨hlatched, hquiesced, by decide +kernel, payload, hpayload, hkeeps.mpr ?_⟩
  exact ⟨⟨.inr rfl, .inr rfl, .inr rfl, .inr rfl⟩,
    fun _ => ⟨.inr rfl, .inr rfl, .inr (max_self 0)⟩,
    nofun⟩

/-- **A blank makes a new deployment of the old one**: the losses of the deployment are gone, and
its name is not. -/
theorem migrated_blank :
    let request := sampleRequest "deployment " (some "proof.json")
    ∃ inspection plan result c,
      inspectSources .plain sampleFiles (some "state.json") (.ok []) = .ok inspection ∧
      buildMigrationPlan sampleFiles inspection request (.ok []) = .ok plan ∧
      applyMigrationPlan .plain plan (.of sampleFiles plan "genesis") = .ok result ∧
      Core.start sampleSettings
        { store := result.map (Lineage.store .plain sampleSettings.stateHash) } { now := 0 } =
          .ok c ∧
      c.observation.equity.deploymentLoss = 0 ∧
      ∃ payload, sourcePayload .plain sampleFiles "state.json" = some payload ∧
        payload.get? "deployment_loss" = some (.int 50) ∧
        ¬ KeepsLosses .plain payload request sampleFiles sampleSettings c := by
  have hsource : sourcePayload .plain sampleFiles "state.json" = some (.ofList sampleState) := by
    unfold sourcePayload
    rw [load_state]
    exact stateRecord_payload (canonicalDigest sampleState)
  have hproof : planProof sampleFiles (some "proof.json") = .ok (some sampleReference) := rfl
  have hplanned := @planSidecar_sample "deployment " (some "proof.json") (some sampleReference)
    (by decide +kernel) hproof rfl (fun _ => by decide)
  refine ⟨_, _, _, sampleCore (some sampleReference) _, inspectSources_ok inspectSidecar_sample,
    buildMigrationPlan_ok hplanned, applyMigrationPlan_sample validateFlatProof_sample,
    Core.start_eq_started (by decide +kernel), by decide +kernel, _, hsource, by decide +kernel,
    fun hkeeps => (hkeeps.renewed rfl).1 (by decide +kernel)⟩

end ChronosHFT.Migration
