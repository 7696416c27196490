import ChronosHFT.Gateway.RequestThrottle

/-!
# When an emergency request is released

An emergency request sleeps for its minimum intervals only, but it has to wait for the lock, and
whoever has the lock may be sleeping for a cooldown.  Where nobody ahead of it does, it waits for
minimum intervals only (`emergency_released_in_time`), and one request that does is enough for
one that comes behind it to be late.

The minimum intervals are kept in every case.
-/

namespace ChronosHFT.Gateway.Rest

open List FifoLock

/-- The minimum intervals of a request are over. -/
def Throttle.intervalsOver (t : Throttle) (r : Request) : ℚ :=
  max (t.lastRequestTs + r.minInterval) (t.endpointLastRequestTs.getD r.throttleKey 0 +
    r.endpointInterval)

/-- **No cooldown keeps it**: when the request takes the lock the cooldown of its endpoint is
over, or it will be before its minimum intervals are. -/
def CooldownOver (events : List CooldownEvent) (taken : ℚ) (before : Throttle) (r : Request) :
    Prop :=
  r.emergency = true ∨ cooldownUntil events taken r.endpoint ≤ max taken (before.intervalsOver r)

section Throttle

variable {events : List CooldownEvent} {now : ℚ} {r : Request} {t : Throttle}

theorem minInterval_pos (r : Request) : 0 < r.minInterval := by
  unfold Request.minInterval minSignedIntervalSec minPublicIntervalSec
  split
  · norm_num
  · norm_num

theorem minInterval_le_endpointInterval (r : Request) : r.minInterval ≤ r.endpointInterval :=
  le_max_left _ _

/-- The time of the release. -/
theorem released_eq :
    (throttle events now r t).1.released
      = now + max (throttle events now r t).1.intervalWait
          (throttle events now r t).1.cooldownWait := rfl

theorem now_le_released : now ≤ (throttle events now r t).1.released := by
  have hwait : 0 ≤ (throttle events now r t).1.intervalWait :=
    le_max_of_le_left (le_max_left _ _)
  rw [released_eq]
  linarith [le_max_left (throttle events now r t).1.intervalWait
    (throttle events now r t).1.cooldownWait]

/-- **The minimum intervals**, to the last request and to the last one with the same key. -/
theorem interval_le_released (events : List CooldownEvent) (now : ℚ) (r : Request)
    (t : Throttle) :
    t.lastRequestTs + r.minInterval ≤ (throttle events now r t).1.released
      ∧ t.endpointLastRequestTs.getD r.throttleKey 0 + r.endpointInterval ≤
        (throttle events now r t).1.released := by
  have hglobal : r.minInterval - (now - t.lastRequestTs) ≤
      (throttle events now r t).1.intervalWait :=
    le_max_of_le_left (le_max_right _ _)
  have hendpoint : r.endpointInterval - (now - t.endpointLastRequestTs.getD r.throttleKey 0)
      ≤ (throttle events now r t).1.intervalWait := le_max_of_le_right (le_max_right _ _)
  have hwait := le_max_left (throttle events now r t).1.intervalWait
    (throttle events now r t).1.cooldownWait
  rw [released_eq]
  constructor
  · linarith
  · linarith

/-- The cooldown the throttle knows of, except in an emergency. -/
theorem cooldown_le_released (hemergency : r.emergency = false) :
    cooldownUntil events now r.endpoint ≤ (throttle events now r t).1.released := by
  have hcooldown : cooldownUntil events now r.endpoint - now ≤
      (throttle events now r t).1.cooldownWait := by
    unfold throttle
    simp only [hemergency, Bool.false_eq_true, if_false]
    exact le_max_right _ _
  have hwait := le_max_right (throttle events now r t).1.intervalWait
    (throttle events now r t).1.cooldownWait
  rw [released_eq]
  linarith

theorem intervalWait_eq : (throttle events now r t).1.intervalWait =
    max now (t.intervalsOver r) - now := by
  unfold throttle Passage.intervalWait Throttle.intervalsOver
  simp only
  rw [← max_sub_sub_right, ← max_sub_sub_right, sub_self, max_max_max_comm, max_self]
  congr 2
  · ring
  · ring

/-- **Exactly when a request sleeps for its minimum intervals only.** -/
theorem cooldownOver_iff :
    CooldownOver events now t r
      ↔ (throttle events now r t).1.cooldownWait ≤ (throttle events now r t).1.intervalWait := by
  rw [intervalWait_eq]
  unfold CooldownOver throttle
  simp only
  cases hemergency : r.emergency with
  | true =>
    simp only [true_or, if_true, true_iff, sub_nonneg]
    exact le_max_left _ _
  | false =>
    simp only [Bool.false_eq_true, false_or, if_false]
    rw [max_le_iff, sub_le_sub_iff_right, sub_nonneg]
    exact ⟨fun h => ⟨le_max_left _ _, h⟩, fun h => h.2⟩

theorem released_of_cooldownOver (h : CooldownOver events now t r) :
    (throttle events now r t).1.released = now + (throttle events now r t).1.intervalWait := by
  rw [released_eq, max_eq_left (cooldownOver_iff.mp h)]

end Throttle

/-! ## Runs -/

section Serve

variable {events : List CooldownEvent} {client : Client} {requests : List Request}

/-- A passage as a job of the lock. -/
def Passage.job (p : Passage) : Job ℚ :=
  { arrival := p.request.arrival, taken := p.taken, released := p.released }

theorem served_serve : Served client.free ((serve events client requests).map Passage.job) := by
  induction requests generalizing client with
  | nil => trivial
  | cons r rest ih => exact ⟨rfl, now_le_released, @ih (pass events client r).2⟩

theorem map_request_serve : (serve events client requests).map Passage.request = requests := by
  induction requests generalizing client with
  | nil => rfl
  | cons r rest ih => exact congrArg (r :: ·) ih

/-- Every passage is one through the throttle. -/
theorem eq_throttle_of_mem {p : Passage} (hp : p ∈ serve events client requests) :
    p = (throttle events p.taken p.request p.before).1 := by
  induction requests generalizing client with
  | nil => cases hp
  | cons r rest ih =>
    rcases mem_cons.mp hp with rfl | hp
    · rfl
    · exact ih hp

/-- What the throttle remembers when a request takes the lock is the release of the request
before. -/
theorem lastRequestTs_eq {front back : List Passage} {p q : Passage}
    (h : serve events client requests = front ++ p :: q :: back) :
    q.before.lastRequestTs = p.released := by
  induction front generalizing client requests with
  | nil =>
    cases requests with
    | nil => cases h
    | cons r rest =>
      obtain ⟨rfl, hrest⟩ := List.cons.inj h
      cases rest with
      | nil => cases hrest
      | cons r' rest =>
        obtain ⟨rfl, _⟩ := List.cons.inj hrest
        rfl
  | cons first front ih =>
    cases requests with
    | nil => cases h
    | cons r rest => exact ih (List.cons.inj h).2

/-- The clock of the throttle starts at zero and runs on. -/
theorem lastRequestTs_nonneg (h : 0 ≤ client.throttle.lastRequestTs) :
    ∀ p ∈ serve events client requests, 0 ≤ p.before.lastRequestTs := by
  induction requests generalizing client with
  | nil => exact nofun
  | cons r rest ih =>
    intro p hp
    rcases mem_cons.mp hp with rfl | hp
    · exact h
    refine ih ?_ p hp
    have hreleased := (interval_le_released events (max r.arrival client.free) r
      client.throttle).1
    have hinterval := minInterval_pos r
    change 0 ≤ (throttle events (max r.arrival client.free) r client.throttle).1.released
    linarith

/-- What is remembered of a key only grows. -/
theorem endpointLast_mono {p : Passage} (hp : p ∈ serve events client requests) (key : String) :
    client.throttle.endpointLastRequestTs.getD key 0 ≤
      p.before.endpointLastRequestTs.getD key 0 := by
  induction requests generalizing client with
  | nil => cases hp
  | cons r rest ih =>
    rcases mem_cons.mp hp with rfl | hp
    · exact le_refl _
    refine le_trans ?_ (ih hp)
    by_cases hkey : key = r.throttleKey
    · have hreleased := (interval_le_released events (max r.arrival client.free) r
        client.throttle).2
      have hinterval := (minInterval_pos r).trans_le (minInterval_le_endpointInterval r)
      have hle : client.throttle.endpointLastRequestTs.getD r.throttleKey 0
          ≤ (throttle events (max r.arrival client.free) r client.throttle).1.released := by
        linarith
      subst hkey
      exact hle.trans (Dict.getD_set_self _ _ _ _).ge
    · exact (Dict.getD_set_of_ne _ _ _ hkey).ge

/-- **The endpoint interval**, between any two requests with the same key. -/
theorem pairwise_endpointInterval : (serve events client requests).Pairwise fun p q =>
    p.request.throttleKey = q.request.throttleKey →
    p.released + q.request.endpointInterval ≤ q.released := by
  induction requests generalizing client with
  | nil => exact List.Pairwise.nil
  | cons r rest ih =>
    refine pairwise_cons.mpr ⟨fun q hq hkey => ?_, ih⟩
    have hq' := eq_throttle_of_mem hq
    have hgrows := endpointLast_mono hq r.throttleKey
    have hstored : (pass events client r).2.throttle.endpointLastRequestTs.getD r.throttleKey 0
        = (pass events client r).1.released := Dict.getD_set_self _ _ _ _
    have hinterval := (interval_le_released events q.taken q.request q.before).2
    rw [hstored] at hgrows
    have hkey' : r.throttleKey = q.request.throttleKey := hkey
    rw [← hq', ← hkey'] at hinterval
    linarith

end Serve

/-! ## Cooldowns in force -/

section Cooldowns

variable {endpoint : String}

variable {events : List CooldownEvent}

/-- Events that are no failures of an endpoint leave its cooldown, or clear it. -/
theorem foldl_apply_of_no_failure {c : ℚ}
    (h : ∀ time attempt, CooldownEvent.failed time endpoint attempt ∉ events) :
    events.foldl (CooldownEvent.apply endpoint) c = c ∨
    events.foldl (CooldownEvent.apply endpoint) c = 0 := by
  induction events generalizing c with
  | nil => exact .inl rfl
  | cons event events ih =>
    have hrest : ∀ time attempt,
        CooldownEvent.failed time endpoint attempt ∉ events := fun time attempt hmem =>
      h time attempt (mem_cons_of_mem _ hmem)
    rw [foldl_cons]
    cases event with
    | failed time failedEndpoint attempt =>
      have hother : failedEndpoint ≠ endpoint := by
        rintro rfl
        exact h time attempt mem_cons_self
      simp only [CooldownEvent.apply, if_neg hother]
      exact ih hrest
    | answered time answeredEndpoint =>
      simp only [CooldownEvent.apply]
      split
      · right
        rcases ih (c := 0) hrest with hzero | hzero
        · exact hzero
        · exact hzero
      · exact ih hrest

/-- Of events in order, those up to a later time are those up to an earlier one and those in
between. -/
theorem filter_time_le (horder : events.Pairwise fun a b => a.time ≤ b.time) {a b : ℚ}
    (hle : a ≤ b) : events.filter (fun event => event.time ≤ b)
      = events.filter (fun event => event.time ≤ a)
        ++ events.filter (fun event => decide (a < event.time ∧ event.time ≤ b)) := by
  induction events with
  | nil => rfl
  | cons event events ih =>
    obtain ⟨hfirst, horder⟩ := pairwise_cons.mp horder
    by_cases hearly : event.time ≤ a
    · have hsecond : ¬(a < event.time ∧ event.time ≤ b) :=
        fun h => absurd hearly (not_le.mpr h.1)
      rw [filter_cons_of_pos (by simpa using hearly.trans hle),
        filter_cons_of_pos (by simpa using hearly),
        filter_cons_of_neg (by simpa using hsecond), ih horder, cons_append]
    · have hnone : (event :: events).filter (fun event => event.time ≤ a) = [] := by
        refine filter_eq_nil_iff.mpr fun later hlater => ?_
        have hlate : a < later.time := by
          rcases mem_cons.mp hlater with rfl | hlater
          · exact not_le.mp hearly
          · exact (not_le.mp hearly).trans_le (hfirst later hlater)
        simpa using hlate
      rw [hnone, nil_append]
      refine filter_congr fun later hlater => ?_
      have hlate : a < later.time := by
        rcases mem_cons.mp hlater with rfl | hlater
        · exact not_le.mp hearly
        · exact (not_le.mp hearly).trans_le (hfirst later hlater)
      simp only [hlate, true_and]

/-- A cooldown that nobody marks meanwhile is no longer than it was. -/
theorem cooldownUntil_of_no_failure
    (horder : events.Pairwise fun a b => a.time ≤ b.time) {a b : ℚ} (hle : a ≤ b)
    (hfailure : ∀ time attempt, CooldownEvent.failed time endpoint attempt ∈ events →
      ¬(a < time ∧ time ≤ b)) :
    cooldownUntil events b endpoint = cooldownUntil events a endpoint ∨
    cooldownUntil events b endpoint = 0 := by
  unfold cooldownUntil
  rw [filter_time_le horder hle, foldl_append]
  refine foldl_apply_of_no_failure fun time attempt hmem => ?_
  obtain ⟨hmem, hbetween⟩ := mem_filter.mp hmem
  exact hfailure time attempt hmem (of_decide_eq_true hbetween)

end Cooldowns

/-! ## Emergencies -/

section Emergency

variable {events : List CooldownEvent}

/-- The requests ahead of this one that still had to be released when it came. -/
def aheadOf (ahead : List Passage) (p : Passage) : List Passage :=
  ahead.filter fun q => p.request.arrival < q.released

/-- **Released in time**: an emergency request waits for the minimum intervals of those ahead of
it and its own, as long as none of those ahead sleeps longer for a cooldown. -/
theorem emergency_released_in_time {created : ℚ} {requests : List Request}
    (hfifo : requests.Pairwise fun a b => a.arrival ≤ b.arrival)
    (hcreated : ∀ r ∈ requests, created ≤ r.arrival)
    {ahead behind : List Passage} {p : Passage}
    (hserve : serve events { free := created } requests = ahead ++ p ::
      behind) (hemergency : p.request.emergency = true)
    (hcooldown : ∀ q ∈ aheadOf ahead p, CooldownOver events q.taken q.before q.request) :
    p.released ≤ p.request.arrival + ((aheadOf ahead p).map Passage.intervalWait).sum +
      p.intervalWait := by
  have hrequests : (ahead ++ p :: behind).map Passage.request = requests := by
    rw [← hserve]
    exact map_request_serve
  have harrival : ∀ other ∈ ahead.map Passage.job, other.arrival ≤ p.job.arrival := by
    intro other hother
    obtain ⟨q, hq, rfl⟩ := mem_map.mp hother
    rw [← hrequests, map_append, pairwise_append] at hfifo
    exact hfifo.2.2 q.request (mem_map_of_mem hq) p.request mem_cons_self
  have hserved : Served created (ahead.map Passage.job ++ p.job :: behind.map Passage.job) := by
    have h : Served created ((serve events { free := created } requests).map Passage.job) :=
      @served_serve events { free := created } requests
    rw [hserve, map_append] at h
    exact h
  have hlock := taken_le hserved harrival
  have hfree : created ≤ p.job.arrival := hcreated p.request (by
    rw [← hrequests]
    exact mem_map_of_mem (mem_append_right _ mem_cons_self))
  have hthrottle : ∀ q ∈ ahead ++ p :: behind,
      q = (throttle events q.taken q.request q.before).1 := fun q hq =>
    eq_throttle_of_mem (hserve ▸ hq)
  have hheld : ((ahead.map Passage.job).filter fun other =>
      p.job.arrival < other.released).map Job.held
      = (aheadOf ahead p).map Passage.intervalWait := by
    rw [filter_map, map_map]
    refine map_congr_left fun q hq => ?_
    have hq' := hthrottle q (mem_append_left _ (mem_filter.mp hq).1)
    have hreleased := released_of_cooldownOver (hcooldown q hq)
    rw [← hq'] at hreleased
    change q.released - q.taken = q.intervalWait
    rw [hreleased]
    ring
  rw [max_eq_left hfree, hheld] at hlock
  have hown : (throttle events p.taken p.request p.before).1.released
      = p.taken + (throttle events p.taken p.request p.before).1.intervalWait :=
    released_of_cooldownOver (.inl hemergency)
  rw [← hthrottle p (mem_append_right _ mem_cons_self)] at hown
  rw [hown]
  change p.taken ≤ p.request.arrival + _ at hlock
  linarith

/-- A cancellation, a mass cancellation, the dead-man switch or a reduce-only order. -/
def Request.EmergencyClass (r : Request) : Prop :=
  (r.endpoint = epOrder ∧ (r.method.toUpper = "DELETE" ∨ r.method.toUpper = "POST" ∧
    r.reduceOnly.toLower = "true"))
    ∨ r.endpoint = epAllOpenOrders ∨ r.endpoint = epCountdownCancelAll

/-- The requests of the emergency class are emergencies, unless the caller gives them another
priority. -/
theorem emergency_of_class {r : Request} (hclass : r.EmergencyClass)
    (hpriority : r.rateLimitPriority = "") :
    r.emergency = true := by
  have hresolved : r.resolvedPriority = "emergency" := by
    unfold Request.resolvedPriority requestPriority
    rw [if_pos hpriority]
    simp only
    split
    · rfl
    rename_i hreduce
    split
    · rfl
    rename_i hmass
    rcases hclass with ⟨horder, hdelete | hpost⟩ | hother
    · rw [if_pos ⟨horder, hdelete⟩]
    · exact absurd ⟨horder, hpost⟩ hreduce
    · exact absurd hother hmass
  unfold Request.emergency
  rw [hresolved]
  decide +kernel

/-- A cancellation. -/
def cancellation (arrival : ℚ) : Request :=
  { arrival := arrival, method := "DELETE", endpoint := epOrder }

theorem emergency_cancellation (arrival : ℚ) : (cancellation arrival).emergency = true := by
  have hmethod : "DELETE".toUpper = "DELETE" := by decide +kernel
  exact emergency_of_class (.inl ⟨rfl, .inl hmethod⟩) rfl

/-- **The next request is late exactly when a cooldown is slept off**: of a request that takes
the lock, the cooldown is over in time if and only if every emergency request that comes next,
once it has the lock, is released within the minimum intervals of both. -/
theorem cooldownOver_iff_next_in_time (client : Client) (r : Request) :
    CooldownOver events (pass events client r).1.taken (pass events client r).1.before r
      ↔ ∀ e : Request, e.emergency = true → (pass events client r).1.taken ≤ e.arrival →
        (pass events (pass events client r).2 e).1.released
          ≤ e.arrival + (if e.arrival < (pass events client r).1.released
              then (pass events client r).1.intervalWait
              else 0)
            + (pass events (pass events client r).2 e).1.intervalWait := by
  have hnext : ∀ e : Request, e.emergency = true →
      (pass events (pass events client r).2 e).1.released
      = max e.arrival (pass events client r).1.released +
        (pass events (pass events client r).2 e).1.intervalWait :=
    fun e he => released_of_cooldownOver (.inl he)
  constructor
  · intro hover e hemergency harrival
    have hown : (pass events client r).1.released
        = (pass events client r).1.taken + (pass events client r).1.intervalWait :=
          released_of_cooldownOver hover
    rw [hnext e hemergency]
    split
    · rename_i hlate
      rw [max_eq_right hlate.le]
      linarith
    · rename_i hlate
      rw [max_eq_left (not_lt.mp hlate)]
      linarith
  · intro hall
    have hwait : (pass events client r).1.taken ≤ (pass events client r).1.released :=
      now_le_released
    have hlast := hall (cancellation (pass events client r).1.taken) (emergency_cancellation _)
      (le_refl _)
    rw [hnext _ (emergency_cancellation _)] at hlast
    have hreleased : (pass events client r).1.released
        ≤ (pass events client r).1.taken + (pass events client r).1.intervalWait := by
      have hmax := le_max_right (cancellation (pass events client r).1.taken).arrival
        (pass events client r).1.released
      have hinterval : 0 ≤ (pass events client r).1.intervalWait :=
        le_max_of_le_left (le_max_left _ _)
      have hif : (if (cancellation (pass events client r).1.taken).arrival <
          (pass events client r).1.released then
          (pass events client r).1.intervalWait else 0) ≤
            (pass events client r).1.intervalWait := by
        split
        · exact le_refl _
        · exact hinterval
      have harrival : (cancellation (pass events client r).1.taken).arrival =
          (pass events client r).1.taken := rfl
      linarith
    refine cooldownOver_iff.mpr ?_
    have hsum : (pass events client r).1.released = (pass events client r).1.taken
        + max (pass events client r).1.intervalWait (pass events client r).1.cooldownWait := rfl
    have hmax := le_max_right (pass events client r).1.intervalWait
      (pass events client r).1.cooldownWait
    have hslept : (pass events client r).1.cooldownWait ≤
        (pass events client r).1.intervalWait := by linarith
    exact hslept

/-- **The throttle**, in every run: emergency requests are released in time unless a request
ahead of them sleeps for a cooldown, which is exactly what makes the next one late; the minimum
intervals are kept; and a request that is no emergency is not released in a cooldown, unless it
is marked while the request sleeps. -/
theorem throttle_releases (events : List CooldownEvent) (created : ℚ) (requests : List Request)
    (hfifo : requests.Pairwise fun a b => a.arrival ≤ b.arrival)
    (hcreated : ∀ r ∈ requests, created ≤ r.arrival)
    (horder : events.Pairwise fun a b => a.time ≤ b.time) :
    (∀ r : Request, r.EmergencyClass → r.rateLimitPriority = "" → r.emergency = true)
      ∧ (∀ ahead p behind, serve events { free := created } requests = ahead ++ p :: behind →
        p.request.emergency = true →
        (∀ q ∈ aheadOf ahead p, CooldownOver events q.taken q.before q.request) →
        p.released ≤ p.request.arrival + ((aheadOf ahead p).map Passage.intervalWait).sum +
        p.intervalWait)
      ∧ (∀ client r, CooldownOver events (pass events client r).1.taken
          (pass events client r).1.before r
        ↔ ∀ e : Request, e.emergency = true → (pass events client r).1.taken ≤ e.arrival →
          (pass events (pass events client r).2 e).1.released
            ≤ e.arrival + (if e.arrival < (pass events client r).1.released
                then (pass events client r).1.intervalWait
                else 0)
              + (pass events (pass events client r).2 e).1.intervalWait)
      ∧ (∀ front p q back, serve events { free := created } requests = front ++ p :: q :: back →
        p.released + q.request.minInterval ≤ q.released)
      ∧ ((serve events { free := created } requests).Pairwise fun p q =>
        p.request.throttleKey = q.request.throttleKey →
          p.released + q.request.endpointInterval ≤ q.released)
      ∧ ∀ p ∈ serve events { free := created } requests, p.request.emergency = false →
        (∀ time attempt, CooldownEvent.failed time p.request.endpoint attempt ∈ events →
          ¬(p.taken < time ∧ time ≤ p.released)) →
        cooldownUntil events p.released p.request.endpoint ≤ p.released := by
  refine ⟨fun r => emergency_of_class, fun ahead p behind =>
    emergency_released_in_time hfifo hcreated,
    cooldownOver_iff_next_in_time, fun front p q back hserve => ?_, pairwise_endpointInterval,
    fun p hp hemergency hfailure => ?_⟩
  · have hq : q ∈ serve events { free := created } requests :=
      hserve ▸ mem_append_right _ (mem_cons_of_mem _ mem_cons_self)
    have hinterval := (interval_le_released events q.taken q.request q.before).1
    rw [← eq_throttle_of_mem hq, lastRequestTs_eq hserve] at hinterval
    exact hinterval
  · have hp' := eq_throttle_of_mem hp
    have hknown : cooldownUntil events p.taken p.request.endpoint ≤ p.released := by
      rw [congrArg Passage.released hp']
      exact cooldown_le_released hemergency
    have hheld : p.taken ≤ p.released := by
      rw [congrArg Passage.released hp']
      exact now_le_released
    rcases cooldownUntil_of_no_failure horder hheld hfailure with hsame | hzero
    · rw [hsame]
      exact hknown
    have hinterval := (interval_le_released events p.taken p.request p.before).1
    rw [← hp'] at hinterval
    have hstart := lastRequestTs_nonneg (le_refl 0) p hp
    have hpositive := minInterval_pos p.request
    rw [hzero]
    linarith

/-- An income request, and a cancellation that comes right behind it. -/
def incomeThenCancel : List Request :=
  [{ arrival := 201 / 2, method := "GET", endpoint := epIncome }, cancellation (503 / 5)]

/-- Without a failure the cancellation is released after a fifth of a second, the minimum
interval. -/
theorem throttle_releases_incomeThenCancel :
    ∃ p q, serve [] { free := 0 } incomeThenCancel = [p, q] ∧ q.released = 1007 / 10
      ∧ q.released ≤ q.request.arrival + ((aheadOf [p] q).map Passage.intervalWait).sum +
        q.intervalWait
      ∧ p.released + q.request.minInterval ≤ q.released := by
  obtain ⟨_, hemergency, _, hinterval, _⟩ :=
    throttle_releases [] 0 incomeThenCancel (by decide +kernel) (by decide +kernel)
      List.Pairwise.nil
  refine ⟨_, _, rfl, by decide +kernel, hemergency [_] _ [] rfl (emergency_cancellation _) (fun q
    hq => ?_),
    hinterval [] _ _ [] rfl⟩
  rw [mem_singleton.mp (mem_filter.mp hq).1]
  exact .inr (by decide +kernel)

/-- **Late**: after a failure of the income endpoint the request in front sleeps off its cooldown
of four seconds with the lock, and the cancellation is released more than three seconds later
than its intervals allow; and of two account requests the second is released in a cooldown that
was marked while it slept. -/
theorem cancellation_waits_for_cooldown :
    ((serve [.failed 100 epIncome 1] { free := 0 } incomeThenCancel).map Passage.released =
      [104, 521 / 5]
      ∧ (serve [.failed 100 epIncome 1] { free := 0 } incomeThenCancel).map
          Passage.intervalWait = [0, 1 / 5]
      ∧ incomeThenCancel.map Request.emergency = [false, true]
      ∧ (104 : ℚ) + 1 / 5 > 503 / 5 + (0 + 1 / 5))
    ∧ (serve [.failed (1003 / 10) epAccount 1] { free := 0 }
        [{ arrival := 100, method := "GET", endpoint := epAccount },
          { arrival := 501 / 5, method := "GET", endpoint := epAccount }]).map Passage.released =
            [100, 101]
      ∧ cooldownUntil [.failed (1003 / 10) epAccount 1] 101 epAccount = 1023 / 10 := by
  decide +kernel

end Emergency

end ChronosHFT.Gateway.Rest
