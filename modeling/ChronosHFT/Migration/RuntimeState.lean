import ChronosHFT.Journal.File
import ChronosHFT.Sidecar.Core

/-!
# Migrating the state of the sidecar

The part of `migration/runtime_state.py` that takes a state file of schema 1 to a state store:
`inspect_sources` looks at the file, `build_migration_plan` decides what becomes of it, and
`apply_migration_plan` provisions the store.  What the plan says about the other sources comes in
as it is; it does not touch the store.

The payload travels as a JSON object.  Only its readers know what a key means, and they do not
agree on a key that is missing: the reader of the file takes a zero, the reader of the store
leaves what the settings of the start say (`readNumber`, `storedNumber`).
-/

namespace ChronosHFT.Migration

open Sidecar

/-! ## Values and documents -/

/-- What the code takes from its language. -/
structure Language where
  /-- `json.loads` of the text of a file.  A `float` is kept by its `repr`; a number out of the
  range of floats is not read. -/
  loads : Bytes → Option Json
  /-- `str(value)`, for a value that is not a text. -/
  str : Json → String
  /-- `float(text)`, where it is finite. -/
  float : String → Option ℚ
  /-- `int(text)`. -/
  int : String → Option ℤ
  float_empty : float "" = none

/-- The files there are. -/
abbrev Files := String → Option Bytes

/-- A `dict`, where the value is one. -/
def asDict : Json → Option (Dict String Json)
  | .obj entries => some (.ofList entries)
  | _ => none

/-- The SHA-256 of `_canonical_bytes`. -/
def canonicalDigest (fields : List (String × Json)) : String :=
  Sha256.hexdigest (Journal.utf8 (Json.dumps (.obj fields)))

/-- `_document_digest`. -/
def documentDigest (document : Dict String Json) (field : String) : String :=
  canonicalDigest (document.erase field).items

/-- `_absolute_existing_file`, with what is in the file. -/
def absoluteExistingFile (files : Files) (path label : String) : Except String Bytes :=
  match files path with
  | some bytes => .ok bytes
  | none => .error s!"{label} is not an existing file: {path}"

namespace Language

variable (L : Language)

/-- `_load_json_object`. -/
def loadJsonObject (files : Files) (path label : String) : Except String (Dict String Json) :=
  match (files path).bind L.loads with
  | none => .error s!"Invalid {label}"
  | some value =>
    match asDict value with
    | none => .error s!"Invalid {label}: expected object"
    | some document => .ok document

/-- `str(value or "")`. -/
def textOr : Option Json → String
  | some (.str text) => text
  | some value => if value.truthy then L.str value else ""
  | none => ""

/-- `int(value or 0)`. -/
def intOr : Option Json → Option ℤ
  | none => some 0
  | some value =>
    if value.truthy = false then some 0
    else
      match value with
      | .str text => L.int text
      | value => value.number?.map fun q => if q < 0 then ⌈q⌉ else ⌊q⌋

/-- `finite_float`. -/
def finiteFloat : Json → Option ℚ
  | .str text => L.float text
  | .int n => if n.natAbs < 2 ^ 1024 - 2 ^ 970 then some n else none
  | value => value.number?

end Language

/-! ## Inspecting -/

/-- What `inspect_sources` says about the state file. -/
structure SidecarSource where
  path : String
  size : ℕ
  sha256 : String
  sourceFormat : String
  generation : ℤ
  deploymentId : String
  deriving DecidableEq

/-- The document of a source. -/
def SidecarSource.json (source : SidecarSource) : Json :=
  .obj [("path", .str source.path), ("size", .int source.size), ("sha256", .str source.sha256),
    ("source_format", .str source.sourceFormat), ("generation", .int source.generation),
    ("deployment_id", .str source.deploymentId)]

/-- An inspection; `others` are the sources besides the state file. -/
structure Inspection where
  schema : String
  sidecarState : Option SidecarSource
  others : List (String × Json)
  inspectionSha256 : String
  deriving DecidableEq

/-- The fields of an inspection without its digest. -/
def Inspection.unsigned (inspection : Inspection) : List (String × Json) :=
  [("schema", .str inspection.schema),
    ("sources", .obj ((inspection.sidecarState.map fun source =>
      ("sidecar_state", source.json)).toList ++ inspection.others))]

/-- The schema of inspections. -/
def inspectionSchema : String := "chronoshft.runtime-migration-inspection.v1"

section Functions

variable (L : Language)

/-- The branch of `inspect_sources` for the state file. -/
def inspectSidecar (files : Files) (path : String) : Except String SidecarSource :=
  match absoluteExistingFile files path "sidecar_state" with
  | .error err => .error err
  | .ok bytes =>
    match L.loadJsonObject files path "sidecar v1 state" with
    | .error err => .error err
    | .ok record =>
      match (record.get? "payload").bind asDict with
      | none => .error "Sidecar source is not schema v1"
      | some payload =>
        if (payload.get? "schema_version").bind Json.number? ≠ some 1 then
          .error "Sidecar source is not schema v1"
        else if record.get? "sha256" ≠ some (.str (canonicalDigest payload.items)) then
          .error "Sidecar v1 checksum mismatch"
        else
          match L.intOr (payload.get? "generation") with
          | none => .error "ValueError:generation"
          | some generation =>
            .ok {
              path := path
              size := bytes.length
              sha256 := Sha256.hexdigest bytes
              sourceFormat := "v1-json"
              generation := generation
              deploymentId := L.textOr (payload.get? "deployment_id") }

/-- `inspect_sources`. -/
def inspectSources (files : Files) (sidecarState : Option String)
    (others : Except String (List (String × Json))) : Except String Inspection :=
  let signed (sidecarState : Option SidecarSource) : Except String Inspection :=
    match others with
    | .error err => .error err
    | .ok others =>
      if sidecarState.isNone ∧ others = [] then
        .error "At least one migration source is required"
      else
        let inspection : Inspection := ⟨inspectionSchema, sidecarState, others, ""⟩
        .ok { inspection with inspectionSha256 := canonicalDigest inspection.unsigned }
  match sidecarState with
  | none => signed none
  | some path =>
    match inspectSidecar L files path with
    | .error err => .error err
    | .ok source => signed (some source)

/-! ## Planning -/

/-- The arguments of `build_migration_plan`. -/
structure PlanRequest where
  targetRoot : String
  accountScopeId : String := ""
  deploymentId : String := ""
  cashFlowHistoryComplete : Bool := false
  flatProofReceipt : Option String := none

/-- A file with its digest. -/
structure FileReference where
  path : String
  sha256 : String
  deriving DecidableEq

/-- The action `sidecar_v1_to_v2`. -/
structure SidecarAction where
  source : SidecarSource
  targetRelative : String
  accountScopeId : String
  deploymentId : String
  cashFlowHistoryComplete : Bool
  flatProofReceipt : Option FileReference
  deriving DecidableEq

/-- The document of the action. -/
def SidecarAction.json (action : SidecarAction) : Json :=
  .obj [("kind", .str "sidecar_v1_to_v2"), ("source", action.source.json),
    ("target_relative", .str action.targetRelative),
    ("account_scope_id", .str action.accountScopeId),
    ("deployment_id", .str action.deploymentId),
    ("cash_flow_history_complete", .bool action.cashFlowHistoryComplete),
    ("flat_proof_receipt", action.flatProofReceipt.elim .null fun reference =>
      .obj [("path", .str reference.path), ("sha256", .str reference.sha256)])]

/-- A plan; `others` are the actions of the other sources. -/
structure MigrationPlan where
  schema : String
  targetRoot : String
  inspectionSha256 : String
  sidecar : Option SidecarAction
  others : List Json
  planSha256 : String
  deriving DecidableEq

/-- The digest of a plan, without the one it carries. -/
def MigrationPlan.digest (plan : MigrationPlan) : String :=
  canonicalDigest [("schema", .str plan.schema), ("target_root", .str plan.targetRoot),
    ("inspection_sha256", .str plan.inspectionSha256),
    ("actions", .arr ((plan.sidecar.map SidecarAction.json).toList ++ plan.others))]

/-- The schema of plans. -/
def planSchema : String := "chronoshft.runtime-migration-plan.v1"

/-- The receipt of a plan, with its digest. -/
def planProof (files : Files) : Option String → Except String (Option FileReference)
  | none => .ok none
  | some path =>
    match absoluteExistingFile files path "flat proof receipt" with
    | .error err => .error err
    | .ok bytes => .ok (some ⟨path, Sha256.hexdigest bytes⟩)

/-- The branch of `build_migration_plan` for the state file. -/
def planSidecar (files : Files) (source : SidecarSource) (request : PlanRequest) :
    Except String SidecarAction :=
  if Text.strip request.accountScopeId = "" ∨ Text.strip request.deploymentId = "" then
    .error "Sidecar migration requires account_scope_id and deployment_id"
  else
    match planProof files request.flatProofReceipt with
    | .error err => .error err
    | .ok proof =>
      if request.cashFlowHistoryComplete = false ∧ proof = none then
        .error "Incomplete cash-flow history requires an account-wide flat proof"
      else if request.cashFlowHistoryComplete = false ∧
          request.deploymentId = source.deploymentId then
        .error "Incomplete cash-flow history requires a new deployment_id"
      else
        .ok {
          source := source
          targetRelative := "storage/risk/accounts/" ++ Text.strip request.accountScopeId
          accountScopeId := Text.strip request.accountScopeId
          deploymentId := Text.strip request.deploymentId
          cashFlowHistoryComplete := request.cashFlowHistoryComplete
          flatProofReceipt := proof }

/-- `build_migration_plan`. -/
def buildMigrationPlan (files : Files) (inspection : Inspection) (request : PlanRequest)
    (others : Except String (List Json)) : Except String MigrationPlan :=
  let signed (sidecar : Option SidecarAction) : Except String MigrationPlan :=
    match others with
    | .error err => .error err
    | .ok others =>
      let plan : MigrationPlan :=
        ⟨planSchema, request.targetRoot, inspection.inspectionSha256, sidecar, others, ""⟩
      .ok { plan with planSha256 := plan.digest }
  if inspection.schema ≠ inspectionSchema then .error "Unknown migration inspection schema"
  else if inspection.inspectionSha256 ≠ canonicalDigest inspection.unsigned then
    .error "Migration inspection digest mismatch"
  else
    match inspection.sidecarState with
    | none => signed none
    | some source =>
      match planSidecar files source request with
      | .error err => .error err
      | .ok action => signed (some action)

/-! ## Applying -/

/-- `proof.get(field) == expected`. -/
def equals (expected : Json) (value : Option Json) : Bool :=
  match expected.number? with
  | some q => value.bind Json.number? = some q
  | none => value = some expected

/-- What `_validate_flat_proof` requires of a receipt. -/
def proofRequirements (accountScopeId : String) : List (String × Json) :=
  [("scope", .str "ACCOUNT_WIDE"), ("account_scope_id", .str accountScopeId),
    ("open_order_count", .int 0), ("nonzero_position_count", .int 0), ("complete", .bool true)]

/-- `_validate_flat_proof`. -/
def validateFlatProof (files : Files) (action : SidecarAction) :
    Except String (Option (Dict String Json)) :=
  match action.flatProofReceipt with
  | none => .ok none
  | some reference =>
    match absoluteExistingFile files reference.path "flat proof receipt" with
    | .error err => .error err
    | .ok bytes =>
      if Sha256.hexdigest bytes ≠ reference.sha256 then
        .error "Flat proof receipt changed after planning"
      else
        match L.loadJsonObject files reference.path "flat proof receipt" with
        | .error err => .error err
        | .ok proof =>
          match (proofRequirements action.accountScopeId).find? fun required =>
              !equals required.2 (proof.get? required.1) with
          | some (field, _) => .error s!"Flat proof receipt has invalid {field}"
          | none =>
            if L.textOr (proof.get? "proof_id") = "" ∨
                L.textOr (proof.get? "proof_sha256") = "" then
              .error "Flat proof receipt is not durable"
            else if proof.get? "proof_sha256" ≠
                some (.str (documentDigest proof "proof_sha256")) then
              .error "Flat proof receipt digest mismatch"
            else .ok (some proof)

/-- `0.0`. -/
def zero : Json := .float ⟨['0', '.', '0'], by decide⟩

/-- The keys `_migrate_sidecar` sets in the payload. -/
def migratedFields (action : SidecarAction) (proof : Option (Dict String Json)) :
    List (String × Json) :=
  [("schema_version", .int 2), ("legacy_source_schema", .int 1),
    ("legacy_source_sha256", .str action.source.sha256), ("generation", .int 0),
    ("deployment_id", .str action.deploymentId),
    ("account_scope_id", .str action.accountScopeId),
    ("kill_latched", .bool true),
    ("kill_reason", .str "offline_migration_requires_flat_proof_and_rearm"),
    ("stage", .str "KILL"), ("quiesced", .bool true),
    ("quiesce_reason", .str "offline_migration_locked"), ("manual_rearm_required", .bool true),
    ("flat_proof_id", .str (L.textOr (proof.bind fun proof => proof.get? "proof_id")))]

/-- The keys it sets where the history of cash flows is incomplete. -/
def resetFields : List (String × Json) :=
  [("deployment_start_equity", zero), ("deployment_start_external_cash_flow_total", zero),
    ("deployment_adjusted_equity", zero), ("deployment_loss", zero),
    ("deployment_baseline_pending", .bool true)]

/-- `_migrate_sidecar`, up to the provisioning. -/
def migratedPayload (files : Files) (action : SidecarAction) :
    Except String (Dict String Json) :=
  match L.loadJsonObject files action.source.path "sidecar v1 state" with
  | .error err => .error err
  | .ok record =>
    match (record.get? "payload").bind asDict with
    | none => .error "TypeError:payload"
    | some payload =>
      if record.get? "sha256" ≠ some (.str (canonicalDigest payload.items)) then
        .error "Sidecar v1 checksum mismatch during apply"
      else
        match validateFlatProof L files action with
        | .error err => .error err
        | .ok proof =>
          let payload := payload.setAll (migratedFields L action proof)
          .ok (if action.cashFlowHistoryComplete then payload
            else payload.setAll resetFields)

/-- A lineage as `SidecarStateStore.provision` creates it. -/
structure Lineage where
  accountScopeId : String
  genesisId : String
  deploymentId : String
  payload : Dict String Json
  deriving DecidableEq

/-- What `apply_migration_plan` meets. -/
structure ApplyInput where
  files : Files
  expectedPlanSha256 : String
  targetExists : Bool := false
  backupIndependent : Bool := true
  /-- An error of the operating system or of the database. -/
  storage : Except String Unit := .ok ()
  /-- `secrets.token_hex(16)`. -/
  genesisId : String
  /-- The actions of the other sources. -/
  others : Except String Unit := .ok ()

/-- `SidecarStateStore.provision`, below a root that is new. -/
def provision (accountScopeId deploymentId genesisId : String) (payload : Dict String Json) :
    Except String Lineage :=
  if Text.strip accountScopeId = "" ∨ Text.strip deploymentId = "" then
    .error "state_identity_missing"
  else .ok ⟨Text.strip accountScopeId, genesisId, Text.strip deploymentId, payload⟩

/-- `_migrate_sidecar`. -/
def migrateSidecar (input : ApplyInput) (action : SidecarAction) : Except String Lineage :=
  match migratedPayload L input.files action with
  | .error err => .error err
  | .ok payload => provision action.accountScopeId action.deploymentId input.genesisId payload

/-- Is the source what it was when the plan was made? -/
def checkSource (files : Files) (source : SidecarSource) : Except String Unit :=
  match absoluteExistingFile files source.path "planned source" with
  | .error err => .error err
  | .ok bytes =>
    if Sha256.hexdigest bytes ≠ source.sha256 then
      .error s!"Migration source changed after planning: {source.path}"
    else .ok ()

/-- `apply_migration_plan`, with the lineage it provisions. -/
def applyMigrationPlan (plan : MigrationPlan) (input : ApplyInput) :
    Except String (Option Lineage) :=
  if plan.schema ≠ planSchema then .error "Unknown migration plan schema"
  else if plan.planSha256 ≠ plan.digest then .error "Migration plan digest is invalid"
  else if input.expectedPlanSha256 ≠ plan.digest then
    .error "Provided plan digest does not match the plan"
  else if plan.sidecar = none ∧ plan.others = [] then .error "Migration plan has no actions"
  else
    let finish (lineage : Option Lineage) : Except String (Option Lineage) :=
      (input.others.bind fun _ => input.storage).map fun _ => lineage
    let switch : Except String (Option Lineage) :=
      if input.targetExists then .error "Migration target root already exists"
      else if input.backupIndependent = false then
        .error "Backup directory must be independent of target root"
      else
        match plan.sidecar with
        | none => finish none
        | some action =>
          match migrateSidecar L input action with
          | .error err => .error err
          | .ok lineage => finish (some lineage)
    match plan.sidecar with
    | none => switch
    | some action =>
      match checkSource input.files action.source with
      | .error err => .error err
      | .ok () => switch

/-! ## Opening the store -/

/-- A number as the reader of the file takes it: a value that does not count as true is as good
as none. -/
def readNumber (payload : Dict String Json) (field : String) : Sidecar.Field ℚ :=
  match payload.get? field with
  | none => .missing
  | some value =>
    if value.truthy = false then .missing
    else
      match L.finiteFloat value with
      | none => .wrong
      | some q => .is q

/-- A number as the reader of the store takes it. -/
def storedNumber (payload : Dict String Json) (field : String) : Sidecar.Field ℚ :=
  match payload.get? field with
  | none => .missing
  | some value =>
    match L.finiteFloat value with
    | none => .wrong
    | some q => .is q

/-- A flag, where it is one. -/
def flag : Json → Option Bool
  | .bool b => some b
  | _ => none

/-- The stage of a name. -/
def stageOf (name : String) : Option Stage :=
  [.armed, .cancelPending, .flattening, .cancelVerified, .flatVerified, .quiesced, .failed,
    .kill].find? fun stage => stage.text = name

/-- `FlatProof(**entries)`, for values as `asdict` writes them. -/
def flatProof (entries : Dict String Json) : Option FlatProof := do
  let text (field : String) : Option String := match entries.get? field with
    | some (.str text) => some text
    | _ => none
  let whole (field : String) : Option ℤ := match entries.get? field with
    | some (.int n) => some n
    | _ => none
  let count (field : String) : Option ℕ := (whole field).map Int.toNat
  let time (field : String) : Option ℚ := (entries.get? field).bind Json.number?
  let proofId ← text "proof_id"
  let purpose ← text "purpose"
  let accountScopeId ← text "account_scope_id"
  let deploymentId ← text "deployment_id"
  let writerEpoch ← count "writer_epoch"
  let ownerEpoch ← count "owner_epoch"
  let safetyEpoch ← count "safety_epoch"
  let firstTruthSequence ← whole "first_truth_sequence"
  let lastTruthSequence ← whole "last_truth_sequence"
  let sampleCount ← count "sample_count"
  let openOrderCount ← count "open_order_count"
  let nonzeroPositionCount ← count "nonzero_position_count"
  let snapshotDigest ← text "snapshot_digest"
  let verifiedMonotonic ← time "verified_monotonic"
  let validUntilMonotonic ← time "valid_until_monotonic"
  if entries.items.length = 15 then
    some ⟨proofId, purpose, accountScopeId, deploymentId, writerEpoch, ownerEpoch, safetyEpoch,
      firstTruthSequence, lastTruthSequence, sampleCount, openOrderCount, nonzeroPositionCount,
      snapshotDigest, verifiedMonotonic, validUntilMonotonic⟩
  else none

/-- `last_flat_proof`, where it is an object. -/
def storedProof (payload : Dict String Json) : Sidecar.Field FlatProof :=
  match (payload.get? "last_flat_proof").bind asDict with
  | none => .missing
  | some entries => (flatProof entries).elim .wrong .is

/-- **The payload as `_apply_state_store_payload` reads it.** -/
def storePayload (payload : Dict String Json) : StorePayload where
  schemaVersion := (L.intOr (payload.get? "schema_version")).getD 0
  killLatched := (payload.get? "kill_latched").bind flag
  killReason := L.textOr (payload.get? "kill_reason")
  stage := (payload.get? "stage").bind fun value =>
    stageOf (orText (L.textOr (some value)) "FAILED")
  quiesced := (payload.get? "quiesced").elim (some false) flag
  quiesceReason := L.textOr (payload.get? "quiesce_reason")
  quiescedAt := match readNumber L payload "quiesced_at" with
    | .missing => some 0
    | .wrong => none
    | .is q => some q
  equity := {
    deploymentId := L.textOr (payload.get? "deployment_id")
    riskDay := (payload.get? "risk_day").map fun value => L.textOr (some value)
    dayStartEquity := storedNumber L payload "day_start_equity"
    dayStartExternalCashFlowTotal := storedNumber L payload "day_start_external_cash_flow_total"
    peakAdjustedEquity := storedNumber L payload "peak_adjusted_equity"
    lastEquity := storedNumber L payload "last_equity"
    deploymentStartEquity := storedNumber L payload "deployment_start_equity"
    deploymentStartExternalCashFlowTotal :=
      storedNumber L payload "deployment_start_external_cash_flow_total"
    deploymentAdjustedEquity := storedNumber L payload "deployment_adjusted_equity"
    deploymentLoss := storedNumber L payload "deployment_loss" }
  lastFlatProof := storedProof payload

/-- A provisioned lineage as a start finds it. -/
def Lineage.store (stateHash : StateHash) (lineage : Lineage) : StateStore :=
  let payload := storePayload L lineage.payload
  let head : StoreHead :=
    { headRevision := 0, version := ⟨0, 0, 0, 0, stateHash 0 0 0 0 payload⟩, payload := payload }
  { identity := ⟨lineage.accountScopeId, lineage.genesisId, lineage.deploymentId⟩
    head := head
    anchor := { committed := true, target := head } }

end Functions

end ChronosHFT.Migration
