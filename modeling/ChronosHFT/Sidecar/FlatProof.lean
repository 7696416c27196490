import ChronosHFT.Sidecar.Observation

/-!
# Account-wide flat proofs

`FlatProofEngine` of `risk/sidecar_flat_proof.py`.  A proof takes several reads of the whole
account, each newer than the one before, none older than a barrier, and all without orders and
positions.  What the exchange answers is an input; `capture` is the loop over the reads.

The digest of a proof and its random identifier come from outside: the digest is a function of
the sequences, the digests of the reads and the epochs.
-/

namespace ChronosHFT.Sidecar

/-- `AccountTruthSnapshot`, as far as a proof looks at it. -/
structure AccountTruth where
  accountScopeId : String
  truthSequence : ℤ
  capturedMonotonic : ℚ
  ordersScope : String
  positionsScope : String
  complete : Bool
  consistencyDigest : String
  positions : List RawFloat
  openOrders : ℕ
  deriving DecidableEq, Repr

/-- `account_wide`. -/
def AccountTruth.accountWide (snapshot : AccountTruth) : Bool :=
  snapshot.ordersScope = "ACCOUNT_WIDE" ∧ snapshot.positionsScope = "ACCOUNT_WIDE"

/-- What `read_account_truth` gives: an exception, something that is not a result, a failure, or
a snapshot. -/
inductive TruthRead
  | raised
  | invalid
  | failed (reason : String)
  | snapshot (s : AccountTruth)
  deriving DecidableEq, Repr

/-- `FlatProof`. -/
structure FlatProof where
  proofId : String
  purpose : String
  accountScopeId : String
  deploymentId : String
  writerEpoch : ℕ
  ownerEpoch : ℕ
  safetyEpoch : ℕ
  firstTruthSequence : ℤ
  lastTruthSequence : ℤ
  sampleCount : ℕ
  openOrderCount : ℕ
  nonzeroPositionCount : ℕ
  snapshotDigest : String
  verifiedMonotonic : ℚ
  validUntilMonotonic : ℚ
  deriving DecidableEq, Repr

/-- Why there is no proof: a `FlatProofError`, or an exception of the exchange. -/
inductive ProofFailure
  | refused (reason : String)
  | raised
  deriving DecidableEq, Repr

/-- The settings of the engine. -/
structure ProofPolicy where
  requiredSamples : ℕ
  proofTtlSec : ℚ
  digest : List ℤ → List String → ℕ → ℕ → ℕ → String
  two_le_samples : 2 ≤ requiredSamples

/-- What a capture meets: the reads in their order, the clock at its end and the identifier of
the proof. -/
structure ProofInput where
  reads : ℕ → TruthRead := fun _ => .raised
  now : ℚ := 0
  proofId : String := ""

/-- The smallest amount that counts as a position. -/
def positionTolerance : ℚ := 1 / 1000000000

/-- `_nonzero_position_count`. -/
def nonzeroPositions : List RawFloat → Except ProofFailure ℕ
  | [] => .ok 0
  | .invalid :: _ => .error (.refused "flat_proof_position_invalid")
  | .nonFinite :: _ => .error (.refused "flat_proof_position_non_finite")
  | .is amount :: rest =>
    match nonzeroPositions rest with
    | .error err => .error err
    | .ok count => .ok (if positionTolerance < |amount| then count + 1 else count)

/-- `_read`. -/
def readTruth : TruthRead → Except ProofFailure AccountTruth
  | .raised => .error .raised
  | .invalid => .error (.refused "flat_proof_result_invalid")
  | .failed reason => .error (.refused (orText reason "flat_proof_exchange_failed"))
  | .snapshot s =>
    if s.complete = false then .error (.refused "flat_proof_snapshot_incomplete")
    else if s.accountWide = false then .error (.refused "flat_proof_scope_not_account_wide")
    else .ok s

/-- One sample of a proof. -/
def readSample (barrier : ℚ) (previous : ℤ) (read : TruthRead) :
    Except ProofFailure AccountTruth :=
  match readTruth read with
  | .error err => .error err
  | .ok s =>
    if s.capturedMonotonic < barrier then .error (.refused "flat_proof_predates_barrier")
    else if s.truthSequence ≤ previous then
      .error (.refused "flat_proof_sequence_not_increasing")
    else if s.openOrders ≠ 0 then .error (.refused "flat_proof_open_orders_remain")
    else
      match nonzeroPositions s.positions with
      | .error err => .error err
      | .ok count =>
        if count ≠ 0 then .error (.refused "flat_proof_positions_remain") else .ok s

/-- The samples of a proof, from the read with number `index` on. -/
def readSamples (barrier : ℚ) (reads : ℕ → TruthRead) :
    ℕ → ℕ → ℤ → Except ProofFailure (List AccountTruth)
  | _, 0, _ => .ok []
  | index, missing + 1, previous =>
    match readSample barrier previous (reads index) with
    | .error err => .error err
    | .ok s =>
      match readSamples barrier reads (index + 1) missing s.truthSequence with
      | .error err => .error err
      | .ok rest => .ok (s :: rest)

/-- `capture`. -/
def ProofPolicy.capture (policy : ProofPolicy) (purpose deploymentId : String)
    (version : StateVersion) (barrier : ℚ) (input : ProofInput) :
    Except ProofFailure FlatProof :=
  match readSamples barrier input.reads 0 policy.requiredSamples 0 with
  | .error err => .error err
  | .ok samples =>
    .ok {
      proofId := input.proofId
      purpose := orText purpose "FLAT_PROOF"
      accountScopeId := (samples.getLast?.map AccountTruth.accountScopeId).getD ""
      deploymentId := deploymentId
      writerEpoch := version.writerEpoch
      ownerEpoch := version.ownerEpoch
      safetyEpoch := version.safetyEpoch
      firstTruthSequence := (samples.head?.map AccountTruth.truthSequence).getD 0
      lastTruthSequence := (samples.getLast?.map AccountTruth.truthSequence).getD 0
      sampleCount := samples.length
      openOrderCount := 0
      nonzeroPositionCount := 0
      snapshotDigest := policy.digest (samples.map AccountTruth.truthSequence)
        (samples.map AccountTruth.consistencyDigest) version.writerEpoch version.ownerEpoch
        version.safetyEpoch
      verifiedMonotonic := input.now
      validUntilMonotonic := input.now + policy.proofTtlSec }

/-- A read of the account that shows it flat, whole and no older than a barrier. -/
structure AccountTruth.ShowsFlat (barrier : ℚ) (s : AccountTruth) : Prop where
  complete : s.complete = true
  accountWide : s.accountWide = true
  fresh : barrier ≤ s.capturedMonotonic
  openOrders : s.openOrders = 0
  positions : nonzeroPositions s.positions = .ok 0

theorem readSample_eq_ok {barrier : ℚ} {previous : ℤ} {read : TruthRead} {s : AccountTruth}
    (h : readSample barrier previous read = .ok s) :
    read = .snapshot s ∧ s.ShowsFlat barrier ∧ previous < s.truthSequence := by
  unfold readSample at h
  cases hread : readTruth read with
  | error err =>
    rw [hread] at h
    cases h
  | ok s' =>
    rw [hread] at h
    simp only at h
    split at h
    · cases h
    rename_i hfresh
    split at h
    · cases h
    rename_i hnewer
    split at h
    · cases h
    rename_i horders
    cases hcount : nonzeroPositions s'.positions with
    | error err =>
      rw [hcount] at h
      cases h
    | ok count =>
      rw [hcount] at h
      simp only at h
      split at h
      · cases h
      rename_i hzero
      cases h
      cases read with
      | raised => cases hread
      | invalid => cases hread
      | failed reason => cases hread
      | snapshot s' =>
        unfold readTruth at hread
        simp only at hread
        split at hread
        · cases hread
        rename_i hcomplete
        split at hread
        · cases hread
        rename_i hwide
        cases hread
        refine ⟨rfl, ⟨by simpa using hcomplete, by simpa using hwide, not_lt.mp hfresh,
          not_not.mp horders, ?_⟩, not_le.mp hnewer⟩
        rw [hcount, not_not.mp hzero]

/-- **The samples of a proof** are reads of a flat account, in increasing order. -/
theorem readSamples_eq_ok {barrier : ℚ} {reads : ℕ → TruthRead} {missing : ℕ} :
    ∀ {index : ℕ} {previous : ℤ} {samples : List AccountTruth},
      readSamples barrier reads index missing previous = .ok samples →
      samples.length = missing ∧ (∀ s ∈ samples, s.ShowsFlat barrier) ∧
        (samples.map AccountTruth.truthSequence).IsChain (· < ·) ∧
        ∀ s ∈ samples.head?, previous < s.truthSequence := by
  induction missing with
  | zero =>
    intro index previous samples h
    cases h
    refine ⟨rfl, ?_, List.isChain_nil, ?_⟩
    · intro s hs
      cases hs
    · intro s hs
      cases hs
  | succ missing ih =>
    intro index previous samples h
    unfold readSamples at h
    cases hsample : readSample barrier previous (reads index) with
    | error err =>
      rw [hsample] at h
      cases h
    | ok s =>
      rw [hsample] at h
      simp only at h
      cases hrest : readSamples barrier reads (index + 1) missing s.truthSequence with
      | error err =>
        rw [hrest] at h
        cases h
      | ok rest =>
        rw [hrest] at h
        cases h
        obtain ⟨-, hflat, hnewer⟩ := readSample_eq_ok hsample
        obtain ⟨hlength, hall, hchain, hhead⟩ := ih hrest
        refine ⟨by rw [List.length_cons, hlength], ?_, ?_, ?_⟩
        · rintro x (_ | ⟨_, hx⟩)
          · exact hflat
          · exact hall x hx
        · rw [List.map_cons]
          refine List.isChain_cons.mpr ⟨?_, hchain⟩
          intro y hy
          rw [List.head?_map] at hy
          obtain ⟨x, hx, rfl⟩ := Option.mem_map.mp hy
          exact hhead x hx
        · rintro x hx
          cases hx
          exact hnewer

/-- **A captured proof** stands on enough reads of a flat account after the barrier, each newer
than the one before; there are at least two. -/
theorem capture_eq_ok {policy : ProofPolicy} {purpose deploymentId : String}
    {version : StateVersion} {barrier : ℚ} {input : ProofInput} {proof : FlatProof}
    (h : policy.capture purpose deploymentId version barrier input = .ok proof) :
    (∃ samples, readSamples barrier input.reads 0 policy.requiredSamples 0 = .ok samples ∧
      samples.length = policy.requiredSamples ∧ (∀ s ∈ samples, s.ShowsFlat barrier) ∧
      (samples.map AccountTruth.truthSequence).IsChain (· < ·)) ∧
    proof.sampleCount = policy.requiredSamples ∧
    0 < proof.firstTruthSequence ∧ proof.firstTruthSequence < proof.lastTruthSequence := by
  unfold ProofPolicy.capture at h
  cases hsamples : readSamples barrier input.reads 0 policy.requiredSamples 0 with
  | error err =>
    rw [hsamples] at h
    cases h
  | ok samples =>
    rw [hsamples] at h
    cases h
    obtain ⟨hlength, hall, hchain, hfirst⟩ := readSamples_eq_ok hsamples
    refine ⟨⟨samples, rfl, hlength, hall, hchain⟩, hlength, ?_⟩
    have htwo := policy.two_le_samples
    cases samples with
    | nil =>
      rw [← hlength] at htwo
      cases htwo
    | cons first rest =>
      have hrest : rest ≠ [] := by
        rintro rfl
        rw [← hlength] at htwo
        exact absurd htwo (Nat.not_succ_le_self 1)
      refine ⟨hfirst first rfl, ?_⟩
      have hlater := (List.pairwise_cons.mp hchain.pairwise).1 (rest.getLast hrest).truthSequence
        (List.mem_map_of_mem (List.getLast_mem hrest))
      simp only [List.getLast?_eq_getLast_of_ne_nil (List.cons_ne_nil first rest),
        List.getLast_cons hrest]
      exact hlater

end ChronosHFT.Sidecar
