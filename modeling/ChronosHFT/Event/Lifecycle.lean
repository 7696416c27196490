import ChronosHFT.Event.PendingWork

/-!
# Stopping and starting the event engine

A worker that finds the engine inactive after its `get` has timed out leaves without the sentinel
that `stop` may have put into its queue in between; the worker of the next start finds it and
leaves too.  `Cycle` is the invariant of the runs in which that does not happen;
`stop_start_cycles` reads the answers of `stop` and `start` off it. -/

namespace ChronosHFT.Events

open Function List

namespace EventEngine

variable {st : Setup} {s s' : EventEngine}

/-! ## The states of a cycle -/

/-- The worker of the lane has the sentinel before it, or has left with an empty queue. -/
def Told (s : EventEngine) (lane : Lane) : Prop :=
  s.queues lane = [.stopWorker] ∧ s.alive lane = true ∨ s.queues lane = [] ∧ s.alive lane = false

/-- The worker of the lane has nothing before it, and is there when the engine is active. -/
def Untold (s : EventEngine) (lane : Lane) : Prop :=
  s.queues lane = [] ∧ s.alive lane = s.active

/-- There is no sentinel, and the workers are there when the engine is active. -/
def Regular (s : EventEngine) : Prop :=
  ∀ lane, .stopWorker ∉ s.queues lane ∧ s.alive lane = s.active

/-- Nothing is queued or in flight, and nothing will be. -/
def Quiet (s : EventEngine) : Prop := s.accepting = false ∧ s.pendingWork = 0

/-- What the last answer says of an engine that has not been called since. -/
def AnswerHolds (s : EventEngine) : Answer → Prop
  | .started true => s.active = true
  | .stopped true => s.active = false ∧ s.Quiet
  | .stopRaised => False
  | .started false | .stopped false => True

/-- **The states of a cycle**, by what `start` or `stop` is at. -/
def Cycle (s : EventEngine) : Prop :=
  match s.phase with
  | .idle => s.Regular ∧ ∀ a ∈ s.answers.getLast?, s.AnswerHolds a
  | .starting lanes => s.active = true ∧
      ∀ lane, .stopWorker ∉ s.queues lane ∧ (lane ∉ lanes → s.alive lane = true)
  | .stopping | .waiting => s.accepting = false ∧ s.Regular
  | .draining _ | .handling _ => s.accepting = false ∧ s.Regular ∧ s.active = false
  | .telling lanes => s.Quiet ∧ lanes.Nodup ∧ (∀ lane ∈ lanes, s.Untold lane) ∧
      ∀ lane ∉ lanes, s.Told lane
  | .sentinel lane lanes => s.Quiet ∧ (lane :: lanes).Nodup ∧
      (∀ other ∈ lane :: lanes, s.Untold other) ∧ (∀ other ∉ lane :: lanes, s.Told other) ∧
        s.alive lane = true
  | .deactivating => s.Quiet ∧ ∀ lane, s.Told lane
  | .joining lanes => s.Quiet ∧ s.active = false ∧ (∀ lane, s.Told lane) ∧
      ∀ lane ∉ lanes, s.alive lane = false
  | .closing => s.Quiet ∧ s.active = false ∧ ∀ lane, s.queues lane = [] ∧ s.alive lane = false

theorem queued_nonneg (queues : Lane → List Item) : 0 ≤ queued queues := by
  unfold queued
  refine sum_nonneg fun n hn => ?_
  obtain ⟨lane, -, rfl⟩ := mem_map.mp hn
  exact Int.natCast_nonneg _

theorem mem_all (lane : Lane) : lane ∈ Lane.all := by
  cases lane <;> decide

theorem phase_inFlight_nonneg (phase : Phase) : 0 ≤ phase.inFlight := by
  unfold Phase.inFlight
  split <;> decide

/-- Without pending work there is no dispatch in a queue. -/
theorem no_dispatch (h : Balanced s) (hpending : s.pendingWork = 0) (lane : Lane) (id : ℕ)
    (event : Event) : .dispatch id event ∉ s.queues lane := by
  have hwork := h.work
  unfold EventEngine.work at hwork
  have hqueued := queued_nonneg s.queues
  have hworkers := inFlight_nonneg s.workers
  have hphase := phase_inFlight_nonneg s.phase
  have hnone : queued s.queues = 0 := by omega
  intro hmem
  have hpositive : 0 < (s.queues lane).countP Item.isDispatch :=
    countP_pos_iff.mpr ⟨_, hmem, rfl⟩
  have hone := single_le_sum (l := Lane.all.map fun lane =>
    ((s.queues lane).countP Item.isDispatch : ℤ)) (fun n hn => by
      obtain ⟨other, -, rfl⟩ := mem_map.mp hn
      exact Int.natCast_nonneg _) _ (mem_map_of_mem (mem_all lane))
  unfold queued at hnone
  omega

/-- A quiet engine is inside nothing. -/
theorem Quiet.frames (hquiet : s.Quiet) (h : Balanced s) (t : Thread) : s.frames t = [] := by
  have hwork := h.work
  unfold EventEngine.work at hwork
  have hqueued := queued_nonneg s.queues
  have hworkers := inFlight_nonneg s.workers
  have hphase := phase_inFlight_nonneg s.phase
  by_contra hbusy
  cases t with
  | worker lane =>
    have hworking := h.worker lane hbusy
    have hone := single_le_sum (l := Lane.all.map fun lane =>
      if s.workers lane = .working then (1 : ℤ) else 0) (fun n hn => by
        obtain ⟨other, -, rfl⟩ := mem_map.mp hn
        split <;> decide) _ (mem_map_of_mem (mem_all lane))
    rw [if_pos hworking] at hone
    have hquiet' := hquiet.2
    unfold inFlight at hwork hworkers
    omega
  | controller =>
    obtain ⟨lanes, hlanes⟩ := h.controller hbusy
    rw [hlanes] at hwork
    have hquiet' := hquiet.2
    simp only [Phase.inFlight] at hwork
    omega
  | outside =>
    obtain ⟨f, hf⟩ := Option.isSome_iff_exists.mp (List.getLast?_isSome.mpr hbusy)
    have hput := h.closed hquiet.1 .outside
    refine Bool.eq_false_iff.mp hput ?_
    exact any_eq_true.mpr ⟨f, mem_of_getLast? hf, h.outside f hf⟩

theorem alive_setWorker_self (s : EventEngine) (lane : Lane) (worker : Worker) :
    (s.setWorker lane worker).alive lane = decide (worker ≠ .exited) := by
  show decide (Function.update s.workers lane worker lane ≠ .exited) = _
  rw [update_self]

theorem alive_setWorker_of_ne {lane other : Lane} (hne : other ≠ lane) (worker : Worker) :
    (s.setWorker lane worker).alive other = s.alive other := by
  show decide (Function.update s.workers lane worker other ≠ .exited) = _
  rw [update_of_ne hne]
  rfl

theorem alive_of_worker {lane : Lane} {worker : Worker} (h : s.workers lane = worker)
    (hworker : worker ≠ .exited) : s.alive lane = true :=
  decide_eq_true (h ▸ hworker)

namespace Cycle

theorem initial : Cycle {} :=
  ⟨fun _ => ⟨not_mem_nil, rfl⟩, nofun⟩

/-- A step that `start` and `stop` take no part in: it takes no worker away but one that has
found its sentinel, and nothing is queued when the engine is quiet. -/
theorem of_lanes (h : Cycle s) (hphase : s'.phase = s.phase) (hactive : s'.active = s.active)
    (haccepting : s'.accepting = s.accepting) (hanswers : s'.answers = s.answers)
    (hstops : ∀ lane, .stopWorker ∈ s'.queues lane → .stopWorker ∈ s.queues lane)
    (halive : ∀ lane, .stopWorker ∉ s.queues lane → s.alive lane = s.active ∨ s.active = true →
      s'.alive lane = s.alive lane)
    (hquiet : s.Quiet → s'.pendingWork = 0)
    (hempty : s.Quiet → ∀ lane, s.queues lane = [] → s'.queues lane = [])
    (htold : s.Quiet → ∀ lane, s.Told lane → s'.Told lane ∧
      (s.alive lane = false → s'.alive lane = false)) : Cycle s' := by
  have hregular : s.Regular → s'.Regular := by
    intro hregular lane
    obtain ⟨hnone, hthere⟩ := hregular lane
    refine ⟨fun hmem => hnone (hstops lane hmem), ?_⟩
    rw [halive lane hnone (.inl hthere), hactive]
    exact hthere
  have hquiet' : s.Quiet → s'.Quiet := fun hq => ⟨haccepting.trans hq.1, hquiet hq⟩
  have huntold : s.Quiet → ∀ lane, s.Untold lane → s'.Untold lane := by
    rintro hq lane ⟨hnone, hthere⟩
    refine ⟨hempty hq lane hnone, ?_⟩
    rw [halive lane (hnone ▸ not_mem_nil) (.inl hthere), hactive]
    exact hthere
  have hanswer : ∀ a, s.AnswerHolds a → s'.AnswerHolds a := by
    intro a ha
    unfold AnswerHolds at ha ⊢
    split at ha
    · exact hactive.trans ha
    · exact ⟨hactive.trans ha.1, hquiet' ha.2⟩
    · exact ha
    · trivial
    · trivial
  unfold Cycle at h ⊢
  rw [hphase]
  cases hat : s.phase with
  | idle =>
    rw [hat] at h
    refine ⟨hregular h.1, fun a ha => ?_⟩
    rw [hanswers] at ha
    exact hanswer a (h.2 a ha)
  | starting lanes =>
    rw [hat] at h
    obtain ⟨hthere, hlanes⟩ := h
    refine ⟨hactive.trans hthere, fun lane => ⟨?_, fun hlane => ?_⟩⟩
    · exact fun hmem => (hlanes lane).1 (hstops lane hmem)
    · exact (halive lane (hlanes lane).1 (.inr hthere)).trans ((hlanes lane).2 hlane)
  | stopping | waiting =>
    rw [hat] at h
    exact ⟨haccepting.trans h.1, hregular h.2⟩
  | draining lanes | handling lanes =>
    rw [hat] at h
    exact ⟨haccepting.trans h.1, hregular h.2.1, hactive.trans h.2.2⟩
  | telling lanes =>
    rw [hat] at h
    obtain ⟨hq, hnodup, hun, hto⟩ := h
    exact ⟨hquiet' hq, hnodup, fun lane hlane => huntold hq lane (hun lane hlane),
      fun lane hlane => (htold hq lane (hto lane hlane)).1⟩
  | sentinel lane lanes =>
    rw [hat] at h
    obtain ⟨hq, hnodup, hun, hto, hthere⟩ := h
    have hlane := hun lane mem_cons_self
    refine ⟨hquiet' hq, hnodup, fun other hother => huntold hq other (hun other hother),
      fun other hother => (htold hq other (hto other hother)).1, ?_⟩
    exact (halive lane (hlane.1 ▸ not_mem_nil) (.inl hlane.2)).trans hthere
  | deactivating =>
    rw [hat] at h
    exact ⟨hquiet' h.1, fun lane => (htold h.1 lane (h.2 lane)).1⟩
  | joining lanes =>
    rw [hat] at h
    obtain ⟨hq, hinactive, hto, hleft⟩ := h
    exact ⟨hquiet' hq, hactive.trans hinactive, fun lane => (htold hq lane (hto lane)).1,
      fun lane hlane => (htold hq lane (hto lane)).2 (hleft lane hlane)⟩
  | closing =>
    rw [hat] at h
    obtain ⟨hq, hinactive, hall⟩ := h
    refine ⟨hquiet' hq, hactive.trans hinactive, fun lane => ?_⟩
    have hlane := htold hq lane (.inr (hall lane))
    exact ⟨hempty hq lane (hall lane).1, hlane.2 (hall lane).2⟩

/-- A thread inside the engine. -/
theorem inside (h : Cycle s) (hbalanced : Balanced s) {t : Thread} (hs : Inside t s s') :
    Cycle s' := by
  obtain ⟨hworkers, hphase, hactive, haccepting, -, hanswers⟩ := outer_eq_iff.mp hs.outer
  have halive : ∀ lane, s'.alive lane = s.alive lane := by
    intro lane
    unfold alive
    rw [hworkers]
  have hsame : s.Quiet → s'.queues = s.queues ∧ s'.pendingWork = s.pendingWork := by
    intro hquiet
    rcases hs.work with ⟨hbusy, -⟩ | hsame
    · exact absurd (hquiet.frames hbalanced t) hbusy
    · exact hsame
  refine h.of_lanes hphase hactive haccepting hanswers ?_ (fun lane _ _ => halive lane)
    (fun hquiet => (hsame hquiet).2.trans hquiet.2)
    (fun hquiet lane hempty => (congrFun (hsame hquiet).1 lane).trans hempty) ?_
  · intro lane hmem
    have hadds : Adds s s' := hs.work.elim And.right .inl
    rcases hadds with ⟨hqueues, -⟩ | ⟨other, id, event, hqueues, -⟩
    · rwa [hqueues] at hmem
    rw [hqueues] at hmem
    by_cases heq : lane = other
    · subst heq
      rw [update_self, mem_append, mem_singleton] at hmem
      exact hmem.resolve_right nofun
    · rwa [update_of_ne heq] at hmem
  · intro hquiet lane hlane
    unfold Told at hlane ⊢
    rw [halive, (hsame hquiet).1]
    exact ⟨hlane, id⟩

/-- A worker changes what it is at, and stays. -/
theorem stay (h : Cycle s) {lane : Lane} (worker : Worker) (hthere : s.alive lane = true)
    (hworker : worker ≠ .exited) (hphase : s'.phase = s.phase) (hactive : s'.active = s.active)
    (haccepting : s'.accepting = s.accepting) (hanswers : s'.answers = s.answers)
    (hworkers : s'.workers = Function.update s.workers lane worker)
    (hqueues : s'.queues = s.queues ∨ ∃ id event rest,
      s.queues lane = .dispatch id event :: rest ∧
      s'.queues = Function.update s.queues lane rest)
    (hquiet : s.Quiet → s'.queues = s.queues ∧ s'.pendingWork = 0) : Cycle s' := by
  have halive : ∀ other, s'.alive other = s.alive other := by
    intro other
    unfold alive
    rw [hworkers]
    by_cases heq : other = lane
    · subst heq
      rw [update_self]
      unfold alive at hthere
      rw [hthere]
      exact decide_eq_true hworker
    · rw [update_of_ne heq]
  refine h.of_lanes hphase hactive haccepting hanswers ?_ (fun lane _ _ => halive lane)
    (fun hq => (hquiet hq).2)
    (fun hq other hempty => (congrFun (hquiet hq).1 other).trans hempty) ?_
  · intro other hmem
    rcases hqueues with hqueues | ⟨id, event, rest, hqueue, hqueues⟩
    · rwa [hqueues] at hmem
    rw [hqueues] at hmem
    by_cases heq : other = lane
    · subst heq
      rw [update_self] at hmem
      rw [hqueue]
      exact mem_cons_of_mem _ hmem
    · rwa [update_of_ne heq] at hmem
  · intro hq other hother
    unfold Told at hother ⊢
    rw [halive, (hquiet hq).1]
    exact ⟨hother, id⟩

theorem complete (h : Cycle s) (hbalanced : Balanced s) {t : Thread}
    (hs : s.complete? t = some s') : Cycle s' := by
  have hwork := hbalanced.work
  unfold EventEngine.work at hwork
  have hqueued := queued_nonneg s.queues
  have hphaseNonneg := phase_inFlight_nonneg s.phase
  unfold complete? at hs
  cases t with
  | worker lane =>
    simp only at hs
    split at hs
    · next hworking =>
      cases hs
      have hthere : s.alive lane = true := alive_of_worker hworking nofun
      refine h.stay .getting hthere nofun rfl rfl rfl rfl rfl (.inl rfl) ?_
      intro hquiet
      exfalso
      have hone := single_le_sum (l := Lane.all.map fun lane =>
        if s.workers lane = .working then (1 : ℤ) else 0) (fun n hn => by
          obtain ⟨other, -, rfl⟩ := mem_map.mp hn
          split <;> decide) _ (mem_map_of_mem (mem_all lane))
      rw [if_pos hworking] at hone
      have hquiet' := hquiet.2
      unfold inFlight at hwork
      omega
    · cases hs
  | controller =>
    simp only at hs
    split at hs
    · next lanes hphase =>
      cases hs
      unfold Cycle at h ⊢
      rw [hphase] at h
      exact h
    · cases hs
  | outside => cases hs

theorem get (h : Cycle s) (hbalanced : Balanced s) {lane : Lane}
    (hs : s.get? st lane = some s') : Cycle s' := by
  unfold get? at hs
  split at hs
  · next rest hworker hqueue =>
    cases hs
    have hthere : s.alive lane = true := alive_of_worker hworker nofun
    have hmem : .stopWorker ∈ s.queues lane := hqueue ▸ mem_cons_self
    have halive : ∀ other ≠ lane, ((s.setQueue lane rest).setWorker lane .exited).alive other =
        s.alive other := fun other hother =>
      @alive_setWorker_of_ne (s.setQueue lane rest) lane other hother .exited
    have hqueues : ∀ other ≠ lane, ((s.setQueue lane rest).setWorker lane .exited).queues other =
        s.queues other := fun other hother => update_of_ne hother _ _
    have hleft : ((s.setQueue lane rest).setWorker lane .exited).alive lane = false :=
      (s.setQueue lane rest).alive_setWorker_self lane .exited
    have hrest : ((s.setQueue lane rest).setWorker lane .exited).queues lane = rest :=
      update_self _ _ _
    refine h.of_lanes rfl rfl rfl rfl ?_ ?_ (fun hquiet => hquiet.2) ?_ ?_
    · intro other hother
      by_cases heq : other = lane
      · exact heq ▸ hmem
      · rwa [hqueues other heq] at hother
    · intro other hother _
      exact halive other fun heq => hother (heq ▸ hmem)
    · intro hquiet other hempty
      refine (hqueues other fun heq => ?_).trans hempty
      rw [heq, hqueue] at hempty
      cases hempty
    · intro hquiet other hother
      by_cases heq : other = lane
      · subst heq
        refine ⟨.inr ⟨?_, hleft⟩, fun _ => hleft⟩
        rcases hother with ⟨hone, -⟩ | ⟨hnone, -⟩
        · rw [hqueue] at hone
          rw [hrest]
          exact (List.cons.inj hone).2
        · rw [hqueue] at hnone
          cases hnone
      · unfold Told at hother ⊢
        rw [halive other heq, hqueues other heq]
        exact ⟨hother, id⟩
  · next id event rest hworker hqueue =>
    cases hs
    have hthere : s.alive lane = true := alive_of_worker hworker nofun
    refine h.stay .working hthere nofun rfl rfl rfl rfl rfl
      (.inr ⟨id, event, rest, hqueue, rfl⟩) fun hquiet => ?_
    refine absurd ?_ (no_dispatch hbalanced hquiet.2 lane id event)
    rw [hqueue]
    exact mem_cons_self
  · cases hs

/-- **The check of a worker**, when it does not leave a sentinel behind. -/
theorem check (h : Cycle s) {lane : Lane}
    (hleaves : s.active = false → s.queues lane = []) (hs : s.check? lane = some s') :
    Cycle s' := by
  unfold check? at hs
  split at hs
  · next htimedOut =>
    cases hs
    have hthere : s.alive lane = true := alive_of_worker htimedOut nofun
    by_cases hactive : s.active = true
    · rw [if_pos hactive]
      exact h.stay .getting hthere nofun rfl rfl rfl rfl rfl (.inl rfl)
        fun hquiet => ⟨rfl, hquiet.2⟩
    · rw [if_neg hactive]
      have halive : ∀ other ≠ lane, (s.setWorker lane .exited).alive other = s.alive other :=
        fun other hother => alive_setWorker_of_ne hother .exited
      refine h.of_lanes rfl rfl rfl rfl (fun _ hmem => hmem) ?_ (fun hquiet => hquiet.2)
        (fun _ _ hempty => hempty) ?_
      · intro other _ hother
        refine halive other fun heq => hactive ?_
        rcases hother with hother | hother
        · rw [heq, hthere] at hother
          exact hother.symm
        · exact hother
      · intro hquiet other hother
        by_cases heq : other = lane
        · -- told and there, it had the sentinel before it
          subst heq
          rcases hother with ⟨hone, -⟩ | ⟨-, hleft⟩
          · rw [hleaves (Bool.eq_false_iff.mpr hactive)] at hone
            cases hone
          · rw [hthere] at hleft
            cases hleft
        · unfold Told at hother ⊢
          rw [halive other heq]
          exact ⟨hother, id⟩
  · cases hs

theorem start (h : Cycle s) (hs : s.start? = some s') : Cycle s' := by
  unfold start? at hs
  split at hs
  · cases hs
  next hcalled =>
    rw [not_or, not_not] at hcalled
    unfold Cycle at h ⊢
    rw [hcalled.1] at h
    split at hs
    · next hactive =>
      split at hs <;> cases hs <;> refine ⟨h.1, fun a ha => ?_⟩
      · rw [answer, List.getLast?_append_cons] at ha
        cases ha
        trivial
      · rw [answer, List.getLast?_append_cons] at ha
        cases ha
        exact hactive
    · cases hs
      exact ⟨rfl, fun lane => ⟨(h.1 lane).1, fun hnone => absurd (mem_all lane) hnone⟩⟩

theorem stop (h : Cycle s) (hs : s.stop? = some s') : Cycle s' := by
  unfold stop? at hs
  split at hs
  · cases hs
  next hcalled =>
    rw [not_or, not_not] at hcalled
    unfold Cycle at h ⊢
    rw [hcalled.1] at h
    cases hs
    exact ⟨rfl, h.1⟩

theorem giveUp (h : Cycle s) (hs : s.giveUp? = some s') : Cycle s' := by
  unfold giveUp? at hs
  split at hs
  · next hwaiting =>
    unfold Cycle at h ⊢
    rw [hwaiting.1] at h
    cases hs
    refine ⟨h.2, fun a ha => ?_⟩
    rw [answer, List.getLast?_append_cons] at ha
    cases ha
    trivial
  · cases hs

/-- A regular engine without pending work has empty queues. -/
theorem queue_eq_nil (hbalanced : Balanced s) (hregular : s.Regular)
    (hpending : s.pendingWork = 0)
    (lane : Lane) : s.queues lane = [] := by
  refine eq_nil_iff_forall_not_mem.mpr fun item hitem => ?_
  cases item with
  | dispatch id event => exact no_dispatch hbalanced hpending lane id event hitem
  | stopWorker => exact (hregular lane).1 hitem

variable {lanes : List Lane}

/-- `start` gives a worker to a lane that has none. -/
theorem startWorker (h : Cycle s) {lane : Lane} (hphase : s.phase = .starting (lane :: lanes)) :
    Cycle { s.setWorker lane .getting with phase := .starting lanes } := by
  unfold Cycle at h ⊢
  rw [hphase] at h
  refine ⟨h.1, fun other => ⟨(h.2 other).1, fun hother => ?_⟩⟩
  by_cases heq : other = lane
  · subst heq
    exact s.alive_setWorker_self other .getting
  · refine (alive_setWorker_of_ne heq .getting).trans ((h.2 other).2 ?_)
    exact not_mem_cons_of_ne_of_not_mem heq hother

/-- `process_existing_events` takes a dispatch. -/
theorem handle (h : Cycle s) {lane : Lane} {id : ℕ} {event : Event}
    {rest : List Item} (hphase : s.phase = .draining (lane :: lanes))
    (hqueue : s.queues lane = .dispatch id event :: rest) :
    Cycle ({ s.setQueue lane rest with
      phase := .handling (lane :: lanes) }.process st .controller
      lane id event true) := by
  unfold Cycle at h
  rw [hphase] at h
  obtain ⟨hclosed, hregular, hinactive⟩ := h
  refine ⟨hclosed, fun other => ⟨fun hmem => ?_, (hregular other).2⟩, hinactive⟩
  change .stopWorker ∈ Function.update s.queues lane rest other at hmem
  refine (hregular other).1 ?_
  by_cases heq : other = lane
  · subst heq
    rw [update_self] at hmem
    rw [hqueue]
    exact mem_cons_of_mem _ hmem
  · rwa [update_of_ne heq] at hmem

/-- A lane without a worker gets no sentinel. -/
theorem skip (h : Cycle s) {lane : Lane}
    (hphase : s.phase = .telling (lane :: lanes)) (hgone : ¬s.alive lane = true) :
    Cycle { s with phase := .telling lanes } := by
  unfold Cycle at h ⊢
  rw [hphase] at h
  obtain ⟨hquiet, hnodup, huntold, htold⟩ := h
  refine ⟨hquiet, (nodup_cons.mp hnodup).2,
    fun other hother => huntold other (mem_cons_of_mem _ hother), fun other hother => ?_⟩
  by_cases heq : other = lane
  · subst heq
    exact .inr ⟨(huntold other mem_cons_self).1, Bool.eq_false_iff.mpr hgone⟩
  · exact htold other (not_mem_cons_of_ne_of_not_mem heq hother)

/-- `stop` puts the sentinel into the empty queue of a worker. -/
theorem putSentinel (h : Cycle s) {lane : Lane} (hphase : s.phase = .sentinel lane lanes) :
    Cycle { s.setQueue lane (s.queues lane ++ [.stopWorker]) with phase := .telling lanes } := by
  unfold Cycle at h ⊢
  rw [hphase] at h
  obtain ⟨hquiet, hnodup, huntold, htold, hthere⟩ := h
  obtain ⟨hnew, hrest⟩ := nodup_cons.mp hnodup
  have hqueue : ∀ other ≠ lane,
      Function.update s.queues lane (s.queues lane ++ [.stopWorker]) other = s.queues other :=
    fun other heq => update_of_ne heq _ _
  refine ⟨hquiet, hrest, fun other hother => ?_, fun other hother => ?_⟩
  · have hother' := huntold other (mem_cons_of_mem _ hother)
    exact ⟨(hqueue other fun heq => hnew (heq ▸ hother)).trans hother'.1, hother'.2⟩
  by_cases heq : other = lane
  · subst heq
    refine .inl ⟨(update_self _ _ _).trans ?_, hthere⟩
    rw [(huntold other mem_cons_self).1]
    rfl
  · exact (htold other (not_mem_cons_of_ne_of_not_mem heq hother)).imp
      (And.imp_left (hqueue other heq).trans) (And.imp_left (hqueue other heq).trans)

/-- The answer of a `stop` that has joined every worker. -/
theorem close (h : Cycle s) (hphase : s.phase = .closing) :
    Cycle ({ s with stopping := false }.answer
      (.stopped (Lane.all.all fun lane => !s.alive lane))) := by
  unfold Cycle at h
  rw [hphase] at h
  obtain ⟨hquiet, hinactive, hall⟩ := h
  refine ⟨fun lane => ⟨?_, (hall lane).2.trans hinactive.symm⟩, fun a ha => ?_⟩
  · show .stopWorker ∉ s.queues lane
    rw [(hall lane).1]
    exact not_mem_nil
  · have hgone : (Lane.all.all fun lane => !s.alive lane) = true :=
      all_eq_true.mpr fun lane _ => by rw [(hall lane).2]; rfl
    rw [answer, List.getLast?_append_cons] at ha
    cases ha
    show AnswerHolds _ (.stopped (Lane.all.all fun lane => !s.alive lane))
    rw [hgone]
    exact ⟨hinactive, hquiet⟩

theorem control (h : Cycle s) (hbalanced : Balanced s) (hs : s.control? st = some s') :
    Cycle s' := by
  have hcycle := h
  unfold Cycle at h
  cases control?_controlled hs with
  | started hphase =>
    rw [hphase] at h
    refine ⟨fun lane => ⟨(h.2 lane).1, ((h.2 lane).2 not_mem_nil).trans h.1.symm⟩,
      fun a ha => ?_⟩
    rw [answer, List.getLast?_append_cons] at ha
    cases ha
    exact h.1
  | @there lane _ hphase halive =>
    rw [hphase] at h
    refine ⟨h.1, fun other => ⟨(h.2 other).1, fun hother => ?_⟩⟩
    by_cases heq : other = lane
    · exact heq ▸ halive
    · exact (h.2 other).2 (not_mem_cons_of_ne_of_not_mem heq hother)
  | startWorker hphase => exact hcycle.startWorker hphase
  | wait hphase =>
    rw [hphase] at h
    exact h
  | drain hphase hgone =>
    rw [hphase] at h
    refine ⟨h.1, h.2, Bool.eq_false_iff.mpr fun hactive => hgone ?_⟩
    exact any_eq_true.mpr ⟨.market, mem_all _, (h.2 .market).2.trans hactive⟩
  | drained hphase =>
    rw [hphase] at h
    exact ⟨h.1, h.2.1⟩
  | drainNext hphase =>
    rw [hphase] at h
    exact h
  | handle hphase hqueue => exact hcycle.handle hphase hqueue
  | @unpackRaises lane _ _ hphase hqueue =>
    rw [hphase] at h
    exact absurd (hqueue ▸ mem_cons_self) (h.2.1 lane).1
  | tell hphase hpending =>
    rw [hphase] at h
    exact ⟨⟨h.1, hpending⟩, by decide,
      fun lane _ => ⟨queue_eq_nil hbalanced h.2 hpending lane, (h.2 lane).2⟩,
      fun lane hnone => absurd (mem_all lane) hnone⟩
  | told hphase =>
    rw [hphase] at h
    exact ⟨h.1, fun lane => h.2.2.2 lane not_mem_nil⟩
  | tellNext hphase halive =>
    rw [hphase] at h
    exact ⟨h.1, h.2.1, h.2.2.1, h.2.2.2, halive⟩
  | skip hphase hgone => exact hcycle.skip hphase hgone
  | putSentinel hphase => exact hcycle.putSentinel hphase
  | @sentinelFull lane _ hphase hfull =>
    rw [hphase] at h
    rw [(h.2.2.1 lane mem_cons_self).1] at hfull
    exact absurd (st.capacity_pos lane) hfull
  | deactivate hphase =>
    rw [hphase] at h
    exact ⟨h.1, rfl, h.2, fun lane hnone => absurd (mem_all lane) hnone⟩
  | joined hphase =>
    rw [hphase] at h
    obtain ⟨hquiet, hinactive, htold, hleft⟩ := h
    refine ⟨hquiet, hinactive, fun lane => (htold lane).resolve_left fun hone => ?_⟩
    rw [hleft lane not_mem_nil] at hone
    cases hone.2
  | @joinNext lane _ hphase hgone =>
    rw [hphase] at h
    refine ⟨h.1, h.2.1, h.2.2.1, fun other hother => ?_⟩
    by_cases heq : other = lane
    · exact heq ▸ Bool.eq_false_iff.mpr hgone
    · exact h.2.2.2 other (not_mem_cons_of_ne_of_not_mem heq hother)
  | close hphase => exact hcycle.close hphase

end Cycle

/-- The condition of a run without a sentinel left behind: a worker that finds the engine
inactive, after its `get` has timed out, has an empty queue. -/
def LeavesNothing (s : EventEngine) (a : Action) : Prop :=
  ∀ lane, a = .check lane → s.active = false → s.queues lane = []

instance (s : EventEngine) (a : Action) : Decidable (s.LeavesNothing a) :=
  match a with
  | .check lane =>
    decidable_of_iff (s.active = false → s.queues lane = [])
      ⟨fun h _ heq => by cases heq; exact h, fun h => h lane rfl⟩
  | .put .. | .advance _ | .leave .. | .get _ | .timeOut _ | .start | .stop | .control |
    .giveUp =>
    isTrue fun _ heq => by cases heq

/-- **Every step of such a run keeps the cycle.** -/
theorem Cycle.step (h : Cycle s) (hbalanced : Balanced s) {a : Action}
    (hleaves : s.LeavesNothing a) (hs : EventEngine.step st s a = some s') : Cycle s' := by
  cases a with
  | put t event => exact h.inside hbalanced (Inside.of_put event hs)
  | advance t =>
    by_cases hidle : s.frames t = []
    · refine h.complete hbalanced (t := t) ?_
      simp only [EventEngine.step, advance?, hidle] at hs
      exact hs
    · exact h.inside hbalanced (Inside.of_advance hs hidle)
  | leave t raised => exact h.inside hbalanced (Inside.of_leave hs)
  | get lane => exact h.get hbalanced hs
  | timeOut lane =>
    simp only [EventEngine.step, timeOut?] at hs
    split at hs
    · next hgetting =>
      cases hs
      exact h.stay .timedOut (alive_of_worker hgetting.1 fun h => by cases h)
        (fun h => by cases h) rfl rfl rfl rfl rfl (.inl rfl) fun hquiet => ⟨rfl, hquiet.2⟩
    · cases hs
  | check lane => exact h.check (hleaves lane rfl) hs
  | start => exact h.start hs
  | stop => exact h.stop hs
  | control => exact h.control hbalanced hs
  | giveUp => exact h.giveUp hs

end EventEngine

/-! ## A live worker finishes what is queued -/

/-- The steps a frame needs at most. -/
def Frame.weight : Frame → ℕ
  | .put _ _ lanes _ _ => 1 + 7 * lanes.length
  | .report .. => 2
  | .callback => 1
  | .handoff _ => 4
  | .enqueueCold .. => 3
  | .handlers _ _ _ names => 1 + 2 * names.length
  | .handler .. => 1

/-- The steps a thread needs at most to get out of its frames. -/
def weight (frames : List Frame) : ℕ := (frames.map Frame.weight).sum

theorem weight_cons (f : Frame) (frames : List Frame) :
    weight (f :: frames) = f.weight + weight frames := sum_cons

theorem weight_append (new frames : List Frame) :
    weight (new ++ frames) = weight new + weight frames := by
  unfold weight
  rw [map_append, sum_append]

/-- An action of the worker of a lane. -/
def Action.ofWorker (lane : Lane) : Action → Bool
  | .advance t | .leave t _ => t = .worker lane
  | .get other | .check other => other = lane
  | _ => false

/-- The frame of the processing of a dispatch. -/
def Frame.processes (lane : Lane) (id : ℕ) : Frame → Bool
  | .handlers other i _ _ => other = lane ∧ i = id
  | _ => false

namespace EventEngine

variable {st : Setup} {s s' : EventEngine}

/-- What a worker keeps while it goes on: the workers, the engine active or not, what its queue
holds already, and what is recorded; and the processing it is inside of ends in the record. -/
structure GoesOn (lane : Lane) (s s' : EventEngine) : Prop where
  workers : s'.workers = s.workers
  active : s'.active = s.active
  queue : s.queues lane <+: s'.queues lane
  log : s.log <+: s'.log
  processes : ∀ id, (s.frames (.worker lane)).any (Frame.processes lane id) = true →
    (s'.frames (.worker lane)).any (Frame.processes lane id) = true ∨ .finished lane id ∈ s'.log

variable {lane : Lane}

theorem GoesOn.trans {t : EventEngine} (h : GoesOn lane s s')
    (h' : GoesOn lane s' t) : GoesOn lane s t :=
  ⟨h'.workers.trans h.workers, h'.active.trans h.active, h.queue.trans h'.queue,
    h.log.trans h'.log, fun id hid =>
      (h.processes id hid).elim (h'.processes id) fun hlog => .inr (h'.log.subset hlog)⟩

/-- The innermost frame is replaced by frames of less weight. -/
theorem goesOn_of_top {f : Frame} {rest : List Frame} (new : List Frame)
    (hframes : s.frames (.worker lane) = f :: rest)
    (hnew : s'.frames = Function.update s.frames (.worker lane) (new ++ rest))
    (hworkers : s'.workers = s.workers) (hactive : s'.active = s.active)
    (hqueue : s.queues lane <+: s'.queues lane) (hlog : s.log <+: s'.log)
    (hless : weight new < f.weight) (hprocesses : ∀ id, f.processes lane id = true →
      new.any (Frame.processes lane id) = true ∨ .finished lane id ∈ s'.log) :
    GoesOn lane s s' ∧ weight (s'.frames (.worker lane)) < weight (s.frames (.worker lane)) := by
  have hafter : s'.frames (.worker lane) = new ++ rest := by
    rw [hnew, update_self]
  refine ⟨⟨hworkers, hactive, hqueue, hlog, fun id hid => ?_⟩, ?_⟩
  · rw [hframes, any_cons, Bool.or_eq_true] at hid
    rw [hafter, any_append, Bool.or_eq_true]
    rcases hid with hid | hid
    · exact (hprocesses id hid).imp_left .inl
    · exact .inl (.inr hid)
  · rw [hafter, hframes, weight_append, weight_cons]
    omega

theorem prefix_update_append (queues : Lane → List Item) (lane other : Lane) (item : Item) :
    queues lane <+: Function.update queues other (queues other ++ [item]) lane := by
  by_cases heq : lane = other
  · subst heq
    rw [update_self]
    exact prefix_append _ _
  · rw [update_of_ne heq]

/-- **A worker inside its frames can take a step out of them.** -/
theorem exists_goesOn (hbusy : s.frames (.worker lane) ≠ []) :
    ∃ a s', a.ofWorker lane = true ∧ EventEngine.step st s a = some s' ∧ GoesOn lane s s' ∧
      weight (s'.frames (.worker lane)) < weight (s.frames (.worker lane)) := by
  have hown : decide (Thread.worker lane = .worker lane) = true := decide_eq_true rfl
  cases hframes : s.frames (.worker lane) with
  | nil => exact absurd hframes hbusy
  | cons f rest =>
    rw [← hframes]
    cases f with
    | callback =>
      refine ⟨.leave (.worker lane) false, s.setFrames (.worker lane) rest, hown, ?_, ?_⟩
      · simp only [EventEngine.step, leave?, hframes]
      · exact goesOn_of_top [] hframes rfl rfl rfl (prefix_refl _) (prefix_refl _)
          (by simp [weight, Frame.weight]) fun _ h => by cases h
    | handler other id =>
      refine ⟨.leave (.worker lane) false, s.setFrames (.worker lane) rest, hown, ?_, ?_⟩
      · simp only [EventEngine.step, leave?, hframes, Bool.false_eq_true, if_false]
      · exact goesOn_of_top [] hframes rfl rfl rfl (prefix_refl _) (prefix_refl _)
          (by simp [weight, Frame.weight]) fun _ h => by cases h
    | put id event lanes cold accepted =>
      refine ⟨.advance (.worker lane), s.advancePut st (.worker lane) id event lanes cold
        accepted rest, hown, ?_, ?_⟩
      · simp only [EventEngine.step, advance?, hframes]
      unfold advancePut
      cases lanes with
      | nil =>
        exact goesOn_of_top [] hframes rfl rfl rfl (prefix_refl _)
          (prefix_append _ _) (by simp [weight, Frame.weight]) fun _ h => by cases h
      | cons other lanes =>
        dsimp only
        cases henqueue : s.enqueue? st other id event with
        | some s' =>
          obtain ⟨-, rfl⟩ := enqueue?_eq_some.mp henqueue
          refine goesOn_of_top [.put id event lanes cold accepted] hframes rfl rfl rfl
            (prefix_update_append _ _ _ _) (prefix_append _ _) ?_ fun _ h => by cases h
          simp only [weight, Frame.weight, map_cons, map_nil, sum_cons,
            sum_nil, length_cons]
          omega
        | none =>
          refine goesOn_of_top (.report .queueOverflow other id ::
            ((if cold then [.handoff id] else []) ++ [.put id event lanes cold false]))
              hframes ?_ rfl rfl (prefix_refl _) (prefix_append _ _) ?_ fun _ h => by cases h
          · simp only [cons_append, append_assoc, nil_append]
            rfl
          rw [weight_cons, weight_append]
          cases cold <;>
            simp only [weight, Frame.weight, map_cons, map_nil,
              sum_cons, sum_nil, length_cons, if_true,
              Bool.false_eq_true, if_false] <;>
            omega
    | report kind other id =>
      refine ⟨.advance (.worker lane), s.advanceReport st (.worker lane) kind other id rest,
        hown, ?_, ?_⟩
      · simp only [EventEngine.step, advance?, hframes]
      unfold advanceReport
      split
      · exact goesOn_of_top [] hframes rfl rfl rfl (prefix_refl _)
          (prefix_refl _) (by simp [weight, Frame.weight]) fun _ h => by cases h
      · exact goesOn_of_top [.callback] hframes rfl rfl rfl (prefix_refl _)
          (prefix_append _ _) (by simp [weight, Frame.weight]) fun _ h => by cases h
    | handoff id =>
      refine ⟨.advance (.worker lane), s.advanceHandoff st (.worker lane) id rest, hown, ?_, ?_⟩
      · simp only [EventEngine.step, advance?, hframes]
      unfold advanceHandoff
      split
      · exact goesOn_of_top [] hframes rfl rfl rfl (prefix_refl _)
          (prefix_refl _) (by simp [weight, Frame.weight]) fun _ h => by cases h
      next pending _ =>
        split
        · exact goesOn_of_top [] hframes rfl rfl rfl (prefix_refl _)
            (prefix_refl _) (by simp [weight, Frame.weight]) fun _ h => by cases h
        refine goesOn_of_top (if st.registered .cold pending.event then
          [.enqueueCold id pending.event] else []) hframes rfl rfl rfl
            (prefix_refl _) (prefix_refl _) ?_ fun _ h => by cases h
        split <;> simp [weight, Frame.weight]
    | enqueueCold id event =>
      cases henqueue : s.enqueue? st .cold id event with
      | some queued =>
        refine ⟨.advance (.worker lane), queued.setFrames (.worker lane) rest, hown, ?_, ?_⟩
        · simp only [EventEngine.step, advance?, hframes, henqueue]
        · obtain ⟨-, rfl⟩ := enqueue?_eq_some.mp henqueue
          exact goesOn_of_top [] hframes rfl rfl rfl (prefix_update_append _ _ _ _)
            (prefix_append _ _) (by simp [weight, Frame.weight]) fun _ h => by cases h
      | none =>
        refine ⟨.advance (.worker lane), s.refuse (.worker lane) .cold id rest, hown, ?_, ?_⟩
        · simp only [EventEngine.step, advance?, hframes, henqueue]
        · exact goesOn_of_top [.report .queueOverflow .cold id] hframes rfl rfl rfl
            (prefix_refl _) (prefix_append _ _) (by simp [weight, Frame.weight]) fun _ h => by
            cases h
    | handlers other id event names =>
      cases names with
      | nil =>
        refine ⟨.advance (.worker lane), (s.setFrames (.worker lane) rest).record
          (.finished other id), hown, ?_, ?_⟩
        · simp only [EventEngine.step, advance?, hframes]
        refine goesOn_of_top [] hframes rfl rfl rfl (prefix_refl _)
          (prefix_append _ _) (by simp [weight, Frame.weight]) fun i hi => .inr ?_
        obtain ⟨rfl, rfl⟩ : other = lane ∧ id = i := by
          simpa [Frame.processes] using hi
        exact mem_append_right _ (mem_singleton_self _)
      | cons name names =>
        refine ⟨.advance (.worker lane), (s.setFrames (.worker lane)
          (.handler other id :: .handlers other id event names :: rest)).record
            (.passed other id name), hown, ?_, ?_⟩
        · simp only [EventEngine.step, advance?, hframes]
        refine goesOn_of_top [.handler other id, .handlers other id event names] hframes rfl
          rfl rfl (prefix_refl _) (prefix_append _ _) ?_ fun i hi => .inl ?_
        · simp only [weight, Frame.weight, map_cons, map_nil, sum_cons,
            sum_nil, length_cons]
          omega
        · simpa [Frame.processes] using hi

/-- **A worker gets out of its frames.** -/
theorem exists_out_of_frames (st : Setup) (s : EventEngine) (lane : Lane) :
    ∃ actions t, (∀ a ∈ actions, a.ofWorker lane = true) ∧
      Run.exec (EventEngine.step st) s actions = some t ∧ GoesOn lane s t ∧
        t.frames (.worker lane) = [] := by
  have hrefl : GoesOn lane s s :=
    ⟨rfl, rfl, prefix_refl _, prefix_refl _, fun _ => .inl⟩
  obtain ⟨actions, t, hown, hrun, hgoes, hout⟩ := Run.exec_reaches
    (fun t => weight (t.frames (.worker lane)))
    (fun t (hgoes : GoesOn lane s t) (hbusy : ¬t.frames (.worker lane) = []) => by
      obtain ⟨a, t', hown, hs, hnext, hless⟩ := @exists_goesOn st t lane hbusy
      exact ⟨a, t', hown, hs, hgoes.trans hnext, hless⟩) hrefl
  exact ⟨actions, t, hown, hrun, hgoes, hout⟩

/-- A live worker of an active engine comes back to its `get`. -/
theorem exists_getting (st : Setup) (halive : s.alive lane = true)
    (hactive : s.active = true) : ∃ actions t, (∀ a ∈ actions, a.ofWorker lane = true) ∧
      Run.exec (EventEngine.step st) s actions = some t ∧ t.workers lane = .getting ∧
        t.active = true ∧ s.queues lane <+: t.queues lane := by
  cases hworker : s.workers lane with
  | exited =>
    unfold alive at halive
    rw [hworker] at halive
    cases halive
  | getting => exact ⟨[], s, nofun, rfl, hworker, hactive, prefix_refl _⟩
  | timedOut =>
    refine ⟨[.check lane], s.setWorker lane .getting, ?_, ?_, ?_, hactive, prefix_refl _⟩
    · intro a ha
      rw [mem_singleton.mp ha]
      exact decide_eq_true rfl
    · refine Run.exec_cons_eq_some.mpr ⟨s.setWorker lane .getting, ?_, rfl⟩
      simp only [EventEngine.step, check?, hworker, hactive, if_true]
    · exact update_self _ _ _
  | working =>
    obtain ⟨actions, t, hown, hrun, hgoes, hout⟩ := exists_out_of_frames st s lane
    refine ⟨actions ++ [.advance (.worker lane)],
      ({ t with pendingWork := t.pendingWork - 1 } : EventEngine).setWorker lane .getting, ?_,
      ?_,
      update_self _ _ _, hgoes.active.trans hactive, hgoes.queue⟩
    · intro a ha
      rcases mem_append.mp ha with ha | ha
      · exact hown a ha
      · rw [mem_singleton.mp ha]
        exact decide_eq_true rfl
    · refine Run.exec_append_eq_some.mpr ⟨t, hrun, Run.exec_cons_eq_some.mpr ⟨_, ?_, rfl⟩⟩
      have hworking : t.workers lane = .working := (congrFun hgoes.workers lane).trans hworker
      simp only [EventEngine.step, advance?, hout, complete?, hworking, if_true]

/-- **A live worker of an active engine finishes every dispatch of its queue** that has no
sentinel before it. -/
theorem exists_finished (halive : s.alive lane = true)
    (hactive : s.active = true) {before after : List Item} {id : ℕ} {event : Event}
    (hqueue : s.queues lane = before ++ .dispatch id event :: after)
    (hstops : .stopWorker ∉ before) : ∃ actions t, (∀ a ∈ actions, a.ofWorker lane = true) ∧
      Run.exec (EventEngine.step st) s actions = some t ∧ .finished lane id ∈ t.log := by
  induction before generalizing s after with
  | nil =>
    obtain ⟨actions, t, hown, hrun, hgetting, -, extra, hextra⟩ :=
      exists_getting st halive hactive
    rw [hqueue, nil_append, cons_append] at hextra
    have hget : EventEngine.step st t (.get lane) = some (((t.setQueue lane
        (after ++ extra)).setWorker lane .working).process st (.worker lane) lane id event
          false) := by
      simp only [EventEngine.step, get?, hgetting, ← hextra]
    obtain ⟨others, u, hown', hrun', hgoes, hout⟩ := exists_out_of_frames st
      (((t.setQueue lane (after ++ extra)).setWorker lane .working).process st (.worker lane)
        lane
        id event false) lane
    refine ⟨actions ++ .get lane :: others, u, ?_, ?_, ?_⟩
    · intro a ha
      rcases mem_append.mp ha with ha | ha
      · exact hown a ha
      · rcases mem_cons.mp ha with rfl | ha
        · exact decide_eq_true rfl
        · exact hown' a ha
    · exact Run.exec_append_eq_some.mpr ⟨t, hrun, Run.exec_cons_eq_some.mpr ⟨_, hget, hrun'⟩⟩
    · refine (hgoes.processes id ?_).resolve_left ?_
      · unfold EventEngine.process setFrames
        dsimp only
        rw [update_self, any_cons]
        simp [Frame.processes]
      · rw [hout]
        exact Bool.false_ne_true
  | cons item before ih =>
    cases item with
    | stopWorker => exact absurd mem_cons_self hstops
    | dispatch other payload =>
      obtain ⟨actions, t, hown, hrun, hgetting, hactive', extra, hextra⟩ :=
        exists_getting st halive hactive
      rw [hqueue, cons_append, cons_append] at hextra
      generalize hu : ((t.setQueue lane (before ++ .dispatch id event :: after ++
        extra)).setWorker lane .working).process st (.worker lane) lane other payload false = u
      have hget : EventEngine.step st t (.get lane) = some u := by
        simp only [EventEngine.step, get?, hgetting, ← hextra, ← hu]
      have hthere : u.alive lane = true := by
        rw [← hu]
        exact (t.setQueue lane _).alive_setWorker_self lane .working
      have hrest : u.queues lane = before ++ .dispatch id event :: (after ++ extra) := by
        rw [← hu]
        refine (update_self lane _ t.queues).trans ?_
        rw [append_assoc, cons_append]
      obtain ⟨others, v, hown', hrun', hfinished⟩ := ih hthere (hu ▸ hactive') hrest
        fun hmem => hstops (mem_cons_of_mem _ hmem)
      refine ⟨actions ++ .get lane :: others, v, ?_, ?_, hfinished⟩
      · intro a ha
        rcases mem_append.mp ha with ha | ha
        · exact hown a ha
        · rcases mem_cons.mp ha with rfl | ha
          · exact decide_eq_true rfl
          · exact hown' a ha
      · exact Run.exec_append_eq_some.mpr
          ⟨t, hrun, Run.exec_cons_eq_some.mpr ⟨u, hget, hrun'⟩⟩

/-! ## The cycles of a run -/

/-- **Stopping and starting.**  In a run in which no worker that finds the engine inactive leaves
an item in its queue: while `stop` was the last call and has returned true, every queue is empty
and no worker runs; while `start` was the last call and has returned true, every lane has its
worker and no sentinel, and the worker of a lane can finish every dispatch of its queue. -/
theorem stop_start_cycles {actions : List Action} (hidle : s.phase = .idle)
    (hrun : Run.exec (EventEngine.step st) {} actions = some s)
    (hleaves : Run.Along (EventEngine.step st) LeavesNothing {} actions) :
    (s.answers.getLast? = some (.stopped true) →
      ∀ lane, s.queues lane = [] ∧ s.alive lane = false) ∧
    (s.answers.getLast? = some (.started true) → ∀ lane, s.alive lane = true ∧
      .stopWorker ∉ s.queues lane ∧ ∀ id event, .dispatch id event ∈ s.queues lane →
        ∃ others t, (∀ a ∈ others, a.ofWorker lane = true) ∧
          Run.exec (EventEngine.step st) s others = some t ∧ .finished lane id ∈ t.log) := by
  obtain ⟨hbalanced, hcycle⟩ := Run.exec_invariant (I := fun s => Balanced s ∧ Cycle s)
    (fun _ _ _ h hleaves hs => ⟨h.1.step hs, h.2.step h.1 hleaves hs⟩)
    ⟨Balanced.initial, Cycle.initial⟩ hleaves hrun
  unfold Cycle at hcycle
  rw [hidle] at hcycle
  obtain ⟨hregular, hlast⟩ := hcycle
  refine ⟨fun hstopped lane => ?_, fun hstarted lane => ?_⟩
  · obtain ⟨hinactive, hquiet⟩ : s.active = false ∧ s.Quiet := hlast _ hstopped
    exact ⟨Cycle.queue_eq_nil hbalanced hregular hquiet.2 lane,
      (hregular lane).2.trans hinactive⟩
  have hactive : s.active = true := hlast _ hstarted
  have halive := (hregular lane).2.trans hactive
  refine ⟨halive, (hregular lane).1, fun id event hmem => ?_⟩
  obtain ⟨before, after, hqueue⟩ := append_of_mem hmem
  refine exists_finished halive hactive hqueue fun hstop => (hregular lane).1 ?_
  rw [hqueue]
  exact mem_append_left _ hstop

/-- One handler for ticks in the market lane. -/
def ticks : Setup where
  capacity _ := 4
  handlers lane type := if lane = .market ∧ type = "eTick" then ["on_tick"] else []
  capacity_pos _ := by decide

/-- The engine is started, stopped while every worker waits in its `get`, and started again; a
tick is put. -/
def restart : List Action :=
  .start :: List.replicate 4 .control ++ .stop :: List.replicate 10 .control ++
    [.get .market, .get .execution, .get .cold] ++ List.replicate 5 .control ++
    .start :: List.replicate 4 .control ++
    [.put .outside ⟨"eTick", ""⟩, .advance .outside, .advance .outside]

theorem stop_start_cycles_restarted : ∃ s : EventEngine,
    Run.exec (EventEngine.step ticks) {} restart = some s ∧
    s.answers = [.started true, .stopped true, .started true] ∧
    s.queues .market = [.dispatch 1 ⟨"eTick", ""⟩] ∧ ∀ lane, s.alive lane = true := by
  obtain ⟨s, hs⟩ := Option.isSome_iff_exists.mp
    (show (Run.exec (EventEngine.step ticks) {} restart).isSome = true by decide +kernel)
  have hfacts : (Run.exec (EventEngine.step ticks) {} restart).all (fun s =>
      decide (s.phase = .idle ∧ s.answers = [.started true, .stopped true, .started true] ∧
        s.queues .market = [.dispatch 1 ⟨"eTick", ""⟩])) = true := by decide +kernel
  rw [hs] at hfacts
  obtain ⟨hidle, hanswers, hqueue⟩ := of_decide_eq_true hfacts
  have hcycles := stop_start_cycles hidle hs (by decide +kernel)
  refine ⟨s, hs, hanswers, hqueue, fun lane => (hcycles.2 ?_ lane).1⟩
  rw [hanswers]
  rfl

/-- The `get` of the market worker times out before `stop` puts its sentinel, and it checks after
`stop` has made the engine inactive: `stop` returns true and leaves the sentinel, and after the
next start, which returns true, the worker finds it and leaves, and a tick is put into a queue
without a worker. -/
theorem stop_leaves_sentinel :
    ((Run.exec (EventEngine.step ticks) {} (.start :: List.replicate 4 .control ++
      .timeOut .market :: .stop :: List.replicate 10 .control ++
      [.check .market, .get .execution, .get .cold] ++ List.replicate 5 .control)).any fun s =>
        decide (s.phase = .idle ∧ s.answers = [.started true, .stopped true] ∧
          s.queues .market = [.stopWorker])) = true ∧
    ((Run.exec (EventEngine.step ticks) {} (.start :: List.replicate 4 .control ++
      .timeOut .market :: .stop :: List.replicate 10 .control ++
      [.check .market, .get .execution, .get .cold] ++ List.replicate 5 .control ++
      .start :: List.replicate 4 .control ++ [.get .market, .put .outside ⟨"eTick", ""⟩,
        .advance .outside, .advance .outside])).any fun s =>
        decide (s.phase = .idle ∧ s.answers = [.started true, .stopped true, .started true] ∧
          s.alive .market = false ∧ s.queues .market = [.dispatch 1 ⟨"eTick", ""⟩] ∧
          .returned 1 ⟨"eTick", ""⟩ true ∈ s.log)) = true := by
  constructor
  · decide +kernel
  · decide +kernel

end EventEngine

end ChronosHFT.Events
