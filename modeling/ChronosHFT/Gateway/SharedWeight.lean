import ChronosHFT.Gateway.RateLimitBudget

/-!
# What the shared budget protects

The used weight of a minute is known from the attempts that were admitted and from the exchange's
own count, which also counts other clients.  `acquire` compares the greater of the two with the
limit, and `record_response` keeps the report of one minute.  `Counted` is the condition under
which that is enough, and `acquire_within_limit` says of every run of such transactions that the
largest report of a minute and what was admitted after it stay within the limit. -/

namespace ChronosHFT.RateLimit

open List

namespace Coordinator

variable {s s' : Coordinator}

/-! ## The record -/

def Entry.weightIn (bucket : ℤ) : Entry → ℕ
  | .admitted b weight => if b = bucket then weight else 0
  | .reported .. => 0

/-- The weight that was admitted in a minute. -/
def admittedWeight (bucket : ℤ) (log : List Entry) : ℕ := (log.map (Entry.weightIn bucket)).sum

theorem admittedWeight_append (bucket : ℤ) (before after : List Entry) :
    admittedWeight bucket (before ++ after) =
      admittedWeight bucket before + admittedWeight bucket after := by
  unfold admittedWeight
  rw [map_append, sum_append]

/-- No report of the minute is above this one. -/
def Largest (log : List Entry) (bucket : ℤ) (used : ℕ) : Prop :=
  ∀ e ∈ log, ∀ v, e = .reported bucket v → v ≤ used

/-- **The limit of a minute**: the largest report of the minute, what was admitted after it, and
the weight stay within the limit. -/
def WithinLimit (s : Coordinator) (bucket : ℤ) (weight limit : ℕ) : Prop :=
  (∀ before used after, s.log = before ++ .reported bucket used :: after →
    Largest s.log bucket used → used + admittedWeight bucket after + weight ≤ limit) ∧
  ((∀ used, .reported bucket used ∉ s.log) → admittedWeight bucket s.log + weight ≤ limit)

/-- No minute after this one was reported. -/
def NoLaterReport (s : Coordinator) (bucket : ℤ) : Prop :=
  ∀ e ∈ s.log, ∀ c v, e = .reported c v → c ≤ bucket

/-- **The condition of a transaction.**  Of a report that is committed: that it is of a minute
not before the minutes that were reported.  Of an attempt: that no row of its minute was deleted,
that no later minute was reported when its own was, and that nothing was admitted after the
largest report of its minute, or that this report is at most the weight that was admitted before
it. -/
def Counted (s : Coordinator) : Action → Prop
  | .recordResponse b response now available =>
    b.enabled = true → 0 < now → available = true → response.usedWeight ≠ none →
      bucketOf now ≠ 0 ∧ s.NoLaterReport (bucketOf now)
  | .acquire _ _ _ now _ =>
    s.localUsed (bucketOf now) = admittedWeight (bucketOf now) s.log ∧
    (∀ used, .reported (bucketOf now) used ∈ s.log →
      bucketOf now ≠ 0 ∧ s.NoLaterReport (bucketOf now)) ∧
    ∀ before used after, s.log = before ++ .reported (bucketOf now) used :: after →
      Largest s.log (bucketOf now) used →
        admittedWeight (bucketOf now) after = 0 ∨ used ≤ admittedWeight (bucketOf now) before

/-! ## The report that is kept -/

/-- **The row keeps the largest report of the latest minute.** -/
structure Remembers (s : Coordinator) : Prop where
  ne_zero : s.remoteBucket ≠ 0
  upper : ∀ c v, .reported c v ∈ s.log →
    0 ≤ c ∧ c ≤ s.remoteBucket ∧ (c = s.remoteBucket → v ≤ s.remoteUsed)
  attained : s.remoteBucket = -1 ∨ .reported s.remoteBucket s.remoteUsed ∈ s.log

namespace Remembers

theorem initial : Remembers {} := ⟨by decide, nofun, .inl rfl⟩

/-- Nothing is reported. -/
theorem of_reports_eq (h : Remembers s) (hbucket : s'.remoteBucket = s.remoteBucket)
    (hused : s'.remoteUsed = s.remoteUsed)
    (hreports : ∀ c v, .reported c v ∈ s'.log ↔ .reported c v ∈ s.log) : Remembers s' := by
  refine ⟨hbucket ▸ h.ne_zero, fun c v hmem => ?_, ?_⟩
  · rw [hbucket, hused]
    exact h.upper c v ((hreports c v).mp hmem)
  · rw [hbucket, hused]
    exact h.attained.imp_right (hreports _ _).mpr

/-- The report of a minute after which no later one was reported is what the row has. -/
theorem eq_of_noLater (h : Remembers s) {bucket : ℤ} {used : ℕ}
    (hmem : .reported bucket used ∈ s.log) (hlater : s.NoLaterReport bucket) :
    s.remoteBucket = bucket ∧ used ≤ s.remoteUsed ∧
      .reported bucket s.remoteUsed ∈ s.log := by
  obtain ⟨hnonneg, hle, hused⟩ := h.upper bucket used hmem
  have hattained : .reported s.remoteBucket s.remoteUsed ∈ s.log := by
    refine h.attained.resolve_left fun hnone => ?_
    omega
  have heq : s.remoteBucket = bucket :=
    le_antisymm (hlater _ hattained _ _ rfl) hle
  exact ⟨heq, hused heq.symm, heq ▸ hattained⟩

theorem report (h : Remembers s) {bucket : ℤ} (hbucket : 0 ≤ bucket) {used? : Option ℕ}
    (horder : used? ≠ none → bucket ≠ 0 ∧ s.NoLaterReport bucket) :
    Remembers (s.report bucket used?) := by
  have hstored : orMinusOne s.remoteBucket = s.remoteBucket := if_neg h.ne_zero
  cases used? with
  | none => exact h.of_reports_eq hstored rfl fun _ _ => Iff.rfl
  | some used =>
    obtain ⟨hne, hlater⟩ := horder (Option.some_ne_none used)
    unfold Coordinator.report
    by_cases hsame : s.remoteBucket = bucket
    · simp only [hstored, if_pos hsame]
      refine ⟨h.ne_zero, fun c v hmem => ?_, .inr ?_⟩
      · rcases mem_append.mp hmem with hold | hnew
        · obtain ⟨hnonneg, hle, hused⟩ := h.upper c v hold
          exact ⟨hnonneg, hle, fun heq => (hused heq).trans (le_max_left _ _)⟩
        · cases mem_singleton.mp hnew
          exact ⟨hbucket, hsame.ge, fun _ => le_max_right _ _⟩
      · show .reported s.remoteBucket (max s.remoteUsed used) ∈ s.log ++ [.reported bucket used]
        rcases max_choice s.remoteUsed used with hmax | hmax <;> rw [hmax]
        · refine mem_append_left _ (h.attained.resolve_left fun hnone => ?_)
          omega
        · rw [hsame]
          exact mem_append_right _ (mem_singleton_self _)
    · have hnew : orMinusOne bucket = bucket := if_neg hne
      simp only [hstored, if_neg hsame, hnew]
      refine ⟨hne, fun c v hmem => ?_, .inr ?_⟩
      · rcases mem_append.mp hmem with hold | hnew
        · obtain ⟨hnonneg, hle, -⟩ := h.upper c v hold
          refine ⟨hnonneg, hlater _ hold _ _ rfl, fun heq => ?_⟩
          -- the row would have the minute already
          have hattained : .reported s.remoteBucket s.remoteUsed ∈ s.log := by
            refine h.attained.resolve_left fun hnone => ?_
            omega
          have hback := hlater _ hattained _ _ rfl
          have hsame' : c = bucket := heq
          exact absurd (le_antisymm hback (hsame' ▸ hle)) hsame
        · cases mem_singleton.mp hnew
          exact ⟨hbucket, le_rfl, fun _ => le_rfl⟩
      · exact mem_append_right _ (mem_singleton_self _)

end Remembers

/-! ## Transactions -/

theorem bucketOf_nonneg {now : ℚ} (hnow : 0 < now) : 0 ≤ bucketOf now :=
  Int.floor_nonneg.mpr (div_nonneg hnow.le (by norm_num))

/-- **What the transaction of an attempt does**: it refuses, or it admits below the limit and not
before the time to wait until. -/
theorem acquireTransaction_cases (s : Coordinator) (b : Budget) (weight : ℕ)
    (priority : Priority)
    (now : ℚ) :
    (s.acquireTransaction b weight priority now).1 = s.prune (bucketOf now) ∧
      (s.acquireTransaction b weight priority now).2.allowed = false ∨
    s.acquireTransaction b weight priority now =
      ({ s.prune (bucketOf now) with
          attempts := (s.prune (bucketOf now)).attempts ++ [⟨bucketOf now, weight, priority⟩]
          log := s.log ++ [.admitted (bucketOf now) weight] }, ⟨true, "", 0, false⟩) ∧
      s.blockedUntil ≤ now ∧
      max ((s.prune (bucketOf now)).localUsed (bucketOf now)) (s.observedUsed (bucketOf now)) +
        weight ≤ b.limit priority := by
  unfold acquireTransaction
  dsimp only
  split
  · exact .inl ⟨rfl, rfl⟩
  next hopen =>
    split
    · exact .inl ⟨rfl, rfl⟩
    · next hroom => exact .inr ⟨rfl, not_lt.mp hopen, not_lt.mp hroom⟩

/-- The rows of its minute are not deleted by an attempt. -/
theorem localUsed_prune (s : Coordinator) (bucket : ℤ) :
    (s.prune bucket).localUsed bucket = s.localUsed bucket := by
  unfold localUsed prune
  dsimp only
  rw [filter_filter]
  refine congrArg (fun l => (l.map Attempt.weight).sum) (filter_congr fun a _ => ?_)
  by_cases heq : a.minuteBucket = bucket
  · simp only [heq, decide_true, Bool.true_and, decide_eq_true_eq]
    omega
  · simp only [heq, decide_false, Bool.false_and]

/-- **The transactions of an attempt**: nothing but the rows and the record may change. -/
theorem acquire_state {b : Budget} {weight : ℤ} {priority : String} {now : ℚ}
    {failure : Option String} {d : Decision}
    (hs : s.acquire b weight priority now failure = some (s', d)) :
    s'.remoteBucket = s.remoteBucket ∧ s'.remoteUsed = s.remoteUsed ∧
      s'.blockedUntil = s.blockedUntil ∧
        ∀ c v, .reported c v ∈ s'.log ↔ .reported c v ∈ s.log := by
  have hsame : s' = s → s'.remoteBucket = s.remoteBucket ∧ s'.remoteUsed = s.remoteUsed ∧
      s'.blockedUntil = s.blockedUntil ∧
        ∀ c v, .reported c v ∈ s'.log ↔ .reported c v ∈ s.log := by
    rintro rfl
    exact ⟨rfl, rfl, rfl, fun _ _ => Iff.rfl⟩
  unfold acquire at hs
  dsimp only at hs
  split at hs
  · cases hs
    exact hsame rfl
  split at hs
  · cases hs
    exact hsame rfl
  split at hs
  · cases hs
  split at hs
  · have hpair := Option.some.inj hs
    have hs' : s' = (s.acquireTransaction b weight.toNat (priorityOf priority) now).1 :=
      (congrArg Prod.fst hpair).symm
    rcases s.acquireTransaction_cases b weight.toNat (priorityOf priority) now with
      ⟨hpruned, -⟩ | ⟨hadmitted, -⟩
    · rw [hs', hpruned]
      exact ⟨rfl, rfl, rfl, fun _ _ => Iff.rfl⟩
    rw [hs', hadmitted]
    refine ⟨rfl, rfl, rfl, fun c v => ?_⟩
    exact (mem_append.trans (or_iff_left fun hmem => by
      cases mem_singleton.mp hmem))
  · split at hs <;> cases hs <;> exact hsame rfl

/-- An attempt that the coordinator has admitted. -/
theorem acquire_admitted {b : Budget} {weight : ℤ} {priority : String} {now : ℚ}
    {failure : Option String} {d : Decision}
    (hs : s.acquire b weight priority now failure = some (s', d)) (henabled : b.enabled = true)
    (hweight : 0 < weight) (hallowed : d.allowed = true) (hbypass : d.emergencyBypass = false) :
    s.blockedUntil ≤ now ∧
      max (s.localUsed (bucketOf now)) (s.observedUsed (bucketOf now)) + weight.toNat ≤
        b.limit (priorityOf priority) := by
  unfold acquire at hs
  dsimp only at hs
  split at hs
  · next hfree =>
    rcases hfree with hdisabled | hnone
    · rw [hdisabled] at henabled
      cases henabled
    · omega
  · split at hs
    · cases hs
      cases hallowed
    split at hs
    · cases hs
    split at hs
    · have hd : d = (s.acquireTransaction b weight.toNat (priorityOf priority) now).2 :=
        (congrArg Prod.snd (Option.some.inj hs)).symm
      rcases s.acquireTransaction_cases b weight.toNat (priorityOf priority) now with
        ⟨-, hrefused⟩ | ⟨-, hopen, hroom⟩
      · rw [hd, hrefused] at hallowed
        cases hallowed
      · rw [localUsed_prune] at hroom
        exact ⟨hopen, hroom⟩
    · split at hs
      · cases hs
        cases hbypass
      · cases hs
        cases hallowed

theorem blockedUntil_le_block (s : Coordinator) (status : ℤ) (now wait : ℚ) :
    s.blockedUntil ≤ (s.block status now wait).blockedUntil := by
  unfold block
  split
  · exact le_max_left _ _
  · exact le_rfl

theorem report_blockedUntil (s : Coordinator) (bucket : ℤ) (used? : Option ℕ) :
    (s.report bucket used?).blockedUntil = s.blockedUntil := by
  unfold report
  cases used? with
  | none => rfl
  | some used =>
    dsimp only
    split <;> rfl

/-- **The time to wait until never decreases.** -/
theorem blockedUntil_le_step {a : Action} (hs : Coordinator.step s a = some s') :
    s.blockedUntil ≤ s'.blockedUntil := by
  cases a with
  | acquire b weight priority now failure =>
    simp only [Coordinator.step] at hs
    cases hacquire : s.acquire b weight priority now failure with
    | none =>
      rw [hacquire] at hs
      cases hs
      exact le_rfl
    | some result =>
      rw [hacquire] at hs
      cases hs
      exact (acquire_state (d := result.2) hacquire).2.2.1.ge
  | recordResponse b response now available =>
    simp only [Coordinator.step, recordResponse] at hs
    split at hs
    · cases hs
      exact le_rfl
    split at hs
    · cases hs
      exact le_rfl
    split at hs
    · cases hs
      exact le_rfl
    split at hs
    · cases hs
      exact (s.report_blockedUntil _ _).ge.trans (blockedUntil_le_block _ _ _ _)
    · cases hs
      exact le_rfl

/-- **Every counted transaction keeps the report.** -/
theorem Remembers.step (h : Remembers s) {a : Action} (hcounted : s.Counted a)
    (hs : Coordinator.step s a = some s') : Remembers s' := by
  cases a with
  | acquire b weight priority now failure =>
    simp only [Coordinator.step] at hs
    cases hacquire : s.acquire b weight priority now failure with
    | none =>
      rw [hacquire] at hs
      cases hs
      exact h
    | some result =>
      rw [hacquire] at hs
      cases hs
      obtain ⟨hbucket, hused, -, hreports⟩ := acquire_state (d := result.2) hacquire
      exact h.of_reports_eq hbucket hused hreports
  | recordResponse b response now available =>
    simp only [Coordinator.step, recordResponse] at hs
    split at hs
    · cases hs
      exact h
    next henabled =>
    split at hs
    · cases hs
      exact h
    next hnow =>
      split at hs
      · cases hs
        exact h
      split at hs
      · next havailable =>
        cases hs
        have hreported := h.report (bucketOf_nonneg (not_le.mp hnow))
          (hcounted (Bool.eq_true_of_not_eq_false henabled) (not_le.mp hnow) havailable)
        refine hreported.of_reports_eq ?_ ?_ fun _ _ => ?_ <;>
          · unfold block
            split <;> rfl
      · cases hs
        exact h

/-- **The shared budget.**  In every state of a run of counted transactions, whatever the times
that the clocks have read: an attempt that the coordinator admits keeps its minute within the
limit of its class and does not come before the time to wait until; the attempts of a minute
after which no later one was reported see every report of it; and the time to wait until never
decreases. -/
theorem acquire_within_limit {actions : List Action}
    (hrun : Run.exec Coordinator.step {} actions = some s)
    (hcounted : Run.Along Coordinator.step Counted {} actions) :
    (∀ b weight priority now failure s' d,
      s.acquire b weight priority now failure = some (s', d) → b.enabled = true → 0 < weight →
      d.allowed = true → d.emergencyBypass = false →
      s.Counted (.acquire b weight priority now failure) →
        s.WithinLimit (bucketOf now) weight.toNat (b.limit (priorityOf priority)) ∧
          s.blockedUntil ≤ now) ∧
    (∀ bucket used, .reported bucket used ∈ s.log → s.NoLaterReport bucket →
      used ≤ s.observedUsed bucket) ∧
    ∀ a s', Coordinator.step s a = some s' → s.blockedUntil ≤ s'.blockedUntil := by
  have h : Remembers s := Run.exec_invariant (fun _ _ _ h hcounted hs => h.step hcounted hs)
    Remembers.initial hcounted hrun
  have hobserved : ∀ bucket, s.remoteBucket = bucket → s.observedUsed bucket = s.remoteUsed := by
    rintro bucket rfl
    exact if_pos (if_neg h.ne_zero)
  refine ⟨?_, ?_, fun _ _ hs => blockedUntil_le_step hs⟩
  · intro b weight priority now failure s' d hs henabled hweight hallowed hbypass hcount
    obtain ⟨hopen, hroom⟩ := acquire_admitted hs henabled hweight hallowed hbypass
    obtain ⟨hintact, hlater, hfresh⟩ := hcount
    refine ⟨⟨fun before used after hlog hlargest => ?_, fun _ => ?_⟩, hopen⟩
    · have hmem : .reported (bucketOf now) used ∈ s.log := by
        rw [hlog]
        exact mem_append_right _ mem_cons_self
      obtain ⟨hbucket, hused, hattained⟩ := h.eq_of_noLater hmem (hlater used hmem).2
      have hsplit : admittedWeight (bucketOf now) s.log =
          admittedWeight (bucketOf now) before + admittedWeight (bucketOf now) after := by
        rw [hlog, admittedWeight_append]
        exact congrArg (_ + ·) (zero_add _)
      rw [hobserved _ hbucket, hintact, hsplit] at hroom
      -- the report is the greater of the two, or the attempts before it are
      rcases hfresh before used after hlog hlargest with hnone | hcovered
      · have := le_max_right
          (admittedWeight (bucketOf now) before + admittedWeight (bucketOf now) after)
          s.remoteUsed
        omega
      · have := le_max_left
          (admittedWeight (bucketOf now) before + admittedWeight (bucketOf now) after)
          s.remoteUsed
        omega
    · rw [hintact] at hroom
      have := le_max_left (admittedWeight (bucketOf now) s.log) (s.observedUsed (bucketOf now))
      omega
  · intro bucket used hmem hlater
    obtain ⟨hbucket, hused, -⟩ := h.eq_of_noLater hmem hlater
    rwa [hobserved bucket hbucket]

/-- A limit of 100, with 10 for emergencies and 20 for trading. -/
def smallBudget : Budget := ⟨100, 10, 20, true, by norm_num, by norm_num, by norm_num⟩

/-- After 30 were admitted and reported, 40 more is what a background request may have. -/
theorem acquire_within_limit_counted :
    let s : Coordinator := {
      attempts := [⟨2, 30, .background⟩]
      remoteBucket := 2
      remoteUsed := 30
      log := [.admitted 2 30, .reported 2 30] }
    ((s.acquire smallBudget 40 "normal" (245 / 2) none).map fun r => r.2.allowed) = some true ∧
      s.WithinLimit (bucketOf (245 / 2)) 40 70 := by
  intro s
  have hminute : bucketOf (245 / 2) = 2 := by decide +kernel
  have hminute' : bucketOf 120 = 2 ∧ bucketOf 121 = 2 := by decide +kernel
  have hlimit : smallBudget.limit (priorityOf "normal") = 70 := by decide +kernel
  have hadmitted : (s.acquire smallBudget 40 "normal" (245 / 2) none).isSome = true ∧
      ∀ r ∈ s.acquire smallBudget 40 "normal" (245 / 2) none,
        r.2.allowed = true ∧ r.2.emergencyBypass = false := by decide +kernel
  obtain ⟨⟨s', d⟩, hs⟩ := Option.isSome_iff_exists.mp hadmitted.1
  obtain ⟨hallowed, hbypass⟩ := hadmitted.2 _ hs
  have hrun : Run.exec Coordinator.step {}
      [.acquire smallBudget 30 "normal" 120 none,
        .recordResponse smallBudget { usedWeight := some 30 } 121 true] = some s := by
    decide +kernel
  refine ⟨by rw [hs]; exact congrArg some hallowed, ?_⟩
  rw [← hlimit]
  refine ((acquire_within_limit hrun ?_).1 smallBudget 40 "normal" (245 / 2) none s' d hs rfl
    (by norm_num) hallowed hbypass ?_).1
  · refine ⟨⟨rfl, nofun, fun before used after hlog => ?_⟩,
      fun s₁ hs₁ => ⟨?_, fun _ _ => trivial⟩⟩
    · cases before <;> cases hlog
    intro _ _ _ _
    have hlog : s₁.log = [.admitted 2 30] := by
      have h := Option.some.inj hs₁
      rw [← h]
      decide +kernel
    refine ⟨by rw [hminute'.2]; decide, fun e he c v heq => ?_⟩
    rw [hlog, mem_singleton] at he
    rw [he] at heq
    cases heq
  · rw [Counted, hminute]
    refine ⟨rfl, fun _ _ => ⟨by decide, fun e he c v heq => ?_⟩,
      fun before used after hlog _ => ?_⟩
    · rcases mem_cons.mp he with rfl | he
      · cases heq
      · rw [mem_singleton.mp he] at heq
        cases heq
        exact le_rfl
    · -- the report is the last record
      refine .inl ?_
      rcases before with _ | ⟨_, _ | ⟨_, before⟩⟩
      · cases hlog
      · cases hlog
        rfl
      · simp [s] at hlog

/-- **What the coordinator forgets.**  First a report of 60 in a minute, then two requests of 10
that are both admitted: 60 + 10 + 10 is above the limit of 70.  Then a report of 95, after it a
late one of the minute before, and a request of 70 is admitted in the minute of the first. -/
theorem acquire_ignores_reports :
    (∃ s s' d, Run.exec Coordinator.step {}
        [.recordResponse smallBudget { usedWeight := some 60 } 121 true,
          .acquire smallBudget 10 "normal" 122 none] = some s ∧
      s.acquire smallBudget 10 "normal" 123 none = some (s', d) ∧ d.allowed = true ∧
      d.emergencyBypass = false ∧ ¬s.WithinLimit (bucketOf 123) 10 smallBudget.backgroundLimit) ∧
    ∃ s s' d, Run.exec Coordinator.step {}
        [.recordResponse smallBudget { usedWeight := some 95 } 181 true,
          .recordResponse smallBudget { usedWeight := some 5 } (359 / 2) true] = some s ∧
      s.acquire smallBudget 70 "normal" 182 none = some (s', d) ∧ d.allowed = true ∧
      d.emergencyBypass = false ∧ s.observedUsed (bucketOf 182) = 0 ∧
      ¬s.WithinLimit (bucketOf 182) 70 smallBudget.backgroundLimit := by
  have hminutes : bucketOf 123 = 2 ∧ bucketOf 182 = 3 := by decide +kernel
  constructor
  · have hrun : Run.exec Coordinator.step {}
        [.recordResponse smallBudget { usedWeight := some 60 } 121 true,
          .acquire smallBudget 10 "normal" 122 none] = some {
            attempts := [⟨2, 10, .background⟩]
            remoteBucket := 2
            remoteUsed := 60
            log := [.reported 2 60, .admitted 2 10] } := by
      decide +kernel
    have hacquire : Coordinator.acquire {
            attempts := [⟨2, 10, .background⟩]
            remoteBucket := 2
            remoteUsed := 60
            log := [.reported 2 60, .admitted 2 10] } smallBudget 10 "normal" 123 none =
        some ({
            attempts := [⟨2, 10, .background⟩, ⟨2, 10, .background⟩]
            remoteBucket := 2
            remoteUsed := 60
            log := [.reported 2 60, .admitted 2 10, .admitted 2 10] },
              ⟨true, "", 0, false⟩) := by
      decide +kernel
    refine ⟨_, _, _, hrun, hacquire, rfl, rfl, fun hwithin => ?_⟩
    rw [hminutes.1] at hwithin
    have hlargest : Largest [.reported 2 60, .admitted 2 10] 2 60 := by
      intro e he v heq
      rcases mem_cons.mp he with rfl | he
      · cases heq
        exact le_rfl
      · rw [mem_singleton.mp he] at heq
        cases heq
    have h := hwithin.1 [] 60 [.admitted 2 10] rfl hlargest
    exact absurd h (by decide)
  · have hrun : Run.exec Coordinator.step {}
        [.recordResponse smallBudget { usedWeight := some 95 } 181 true,
          .recordResponse smallBudget { usedWeight := some 5 } (359 / 2) true] = some {
            remoteBucket := 2
            remoteUsed := 5
            log := [.reported 3 95, .reported 2 5] } := by
      decide +kernel
    have hacquire : Coordinator.acquire {
            remoteBucket := 2
            remoteUsed := 5
            log := [.reported 3 95, .reported 2 5] } smallBudget 70 "normal" 182 none =
        some ({
            attempts := [⟨3, 70, .background⟩]
            remoteBucket := 2
            remoteUsed := 5
            log := [.reported 3 95, .reported 2 5, .admitted 3 70] }, ⟨true, "", 0, false⟩) := by
      decide +kernel
    refine ⟨_, _, _, hrun, hacquire, rfl, rfl, by rw [hminutes.2]; rfl, fun hwithin => ?_⟩
    rw [hminutes.2] at hwithin
    have hlargest : Largest [.reported 3 95, .reported 2 5] 3 95 := by
      intro e he v heq
      rcases mem_cons.mp he with rfl | he
      · cases heq
        exact le_rfl
      · rw [mem_singleton.mp he] at heq
        cases heq
    have h := hwithin.1 [] 95 [.reported 2 5] rfl hlargest
    exact absurd h (by decide)

end Coordinator

end ChronosHFT.RateLimit
