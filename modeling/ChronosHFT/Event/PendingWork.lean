import ChronosHFT.Event.Engine

/-!
# The pending work of the event engine

A section of a thread that is inside `put`, a handler or a handoff changes no worker and no phase
of `stop`: `Inside` says what it may change.  `Balanced` is the invariant of the counter: it is
the number of dispatches that are queued or in flight, in every state between two sections. -/

namespace ChronosHFT.Events

open Function List

/-! ## Frames -/

/-- The innermost call that has not returned is a `put`; it is the last of the list. -/
def BottomPut (frames : List Frame) : Prop := ∀ f ∈ frames.getLast?, f.isPut = true

namespace BottomPut

variable {f : Frame} {rest : List Frame}

theorem tail (h : BottomPut (f :: rest)) : BottomPut rest := by
  cases rest with
  | nil => exact nofun
  | cons g rest => exact h

theorem append {new : List Frame} (h : BottomPut rest) (hnew : rest = [] → BottomPut new) :
    BottomPut (new ++ rest) := by
  cases rest with
  | nil =>
    rw [append_nil]
    exact hnew rfl
  | cons g rest =>
    unfold BottomPut
    rw [List.getLast?_append_of_ne_nil _ (cons_ne_nil g rest)]
    exact h

end BottomPut

namespace EventEngine

variable {st : Setup} {s s' : EventEngine}

/-- What no section of a thread inside the engine touches. -/
def outer (s : EventEngine) : (Lane → Worker) × Phase × Bool × Bool × Bool × List Answer :=
  (s.workers, s.phase, s.active, s.accepting, s.stopping, s.answers)

theorem outer_eq_iff : s'.outer = s.outer ↔ s'.workers = s.workers ∧ s'.phase = s.phase ∧
    s'.active = s.active ∧ s'.accepting = s.accepting ∧ s'.stopping = s.stopping ∧
      s'.answers = s.answers := by
  unfold outer
  simp only [Prod.mk.injEq]

/-- The queues and the counter are as before, or have one dispatch more. -/
def Adds (s s' : EventEngine) : Prop :=
  s'.queues = s.queues ∧ s'.pendingWork = s.pendingWork ∨
    ∃ lane id event, s'.queues =
      Function.update s.queues lane (s.queues lane ++ [.dispatch id event]) ∧
        s'.pendingWork = s.pendingWork + 1

/-- **What a section of a thread may change**: its own frames, and, when it has any, one dispatch
more in a queue. -/
structure Inside (t : Thread) (s s' : EventEngine) : Prop where
  outer : s'.outer = s.outer
  frames : ∀ u ≠ t, s'.frames u = s.frames u
  work : s.frames t ≠ [] ∧ Adds s s' ∨ s'.queues = s.queues ∧ s'.pendingWork = s.pendingWork
  within : s.frames t ≠ [] ∨ t = .outside
  putting : s'.putting t = true → s.putting t = true ∨ s.accepting = true
  bottom : t = .outside → BottomPut (s.frames t) → BottomPut (s'.frames t)

theorem enqueue?_eq_some {lane : Lane} {id : ℕ} {event : Event} :
    s.enqueue? st lane id event = some s' ↔ (s.queues lane).length < st.capacity lane ∧
      s' = ({ s.setQueue lane (s.queues lane ++ [.dispatch id event]) with
        pendingWork := s.pendingWork + 1 } : EventEngine).record (.enqueued lane id) := by
  unfold enqueue?
  split
  · next hroom =>
    exact ⟨fun h => ⟨hroom, (Option.some.inj h).symm⟩, fun h => congrArg some h.2.symm⟩
  · next hfull => exact ⟨nofun, fun h => absurd h.1 hfull⟩

namespace Inside

variable {t : Thread} {f : Frame} {rest : List Frame}

/-- The innermost frame is replaced. -/
theorem of_top (new : List Frame) (ht : s.frames t = f :: rest) (houter : s'.outer = s.outer)
    (hwork : Adds s s')
    (hframes : s'.frames = Function.update s.frames t (new ++ rest))
    (hputs : new.any Frame.isPut = true → f.isPut = true)
    (hlast : f.isPut = true → BottomPut new) : Inside t s s' where
  outer := houter
  frames u hu := by rw [hframes, update_of_ne hu]
  work := .inl ⟨ht ▸ cons_ne_nil f rest, hwork⟩
  within := .inl (ht ▸ cons_ne_nil f rest)
  putting h := by
    unfold EventEngine.putting at h ⊢
    rw [hframes, update_self, any_append, Bool.or_eq_true] at h
    rw [ht, any_cons, Bool.or_eq_true]
    exact .inl (h.imp_left hputs)
  bottom := by
    rintro - h
    rw [ht] at h
    rw [hframes, update_self]
    refine h.tail.append fun hrest => hlast ?_
    subst hrest
    exact h f rfl

/-- The thread calls `put`. -/
theorem of_begin (hwithin : s.frames t ≠ [] ∨ t = .outside) (event : Event) :
    Inside t s (s.begin st t event) := by
  have hsame : ∀ s' : EventEngine, s'.outer = s.outer → s'.queues = s.queues →
      s'.pendingWork = s.pendingWork → s'.frames = s.frames → Inside t s s' := by
    intro s' houter hqueues hwork hframes
    refine ⟨houter, fun u _ => congrFun hframes u, .inr ⟨hqueues, hwork⟩, hwithin, ?_, ?_⟩
    · unfold EventEngine.putting
      rw [hframes]
      exact .inl
    · rw [hframes]
      exact fun _ h => h
  unfold begin
  by_cases haccepting : s.accepting = false
  · rw [if_pos haccepting]
    exact hsame _ rfl rfl rfl rfl
  have hpushed : ∀ (s' : EventEngine) (f : Frame), f.isPut = true → s'.outer = s.outer →
      s'.queues = s.queues → s'.pendingWork = s.pendingWork →
      s'.frames = Function.update s.frames t (f :: s.frames t) → Inside t s s' := by
    intro s' f hf houter hqueues hwork hframes
    refine ⟨houter, fun u hu => ?_, .inr ⟨hqueues, hwork⟩, hwithin,
      fun _ => .inr (Bool.eq_true_of_not_eq_false haccepting), fun _ h => ?_⟩
    · rw [hframes, update_of_ne hu]
    rw [hframes, update_self]
    show BottomPut ([f] ++ s.frames t)
    refine h.append fun _ g hg => ?_
    cases hg
    exact hf
  rw [if_neg haccepting]
  dsimp only
  split
  · split
    · exact hpushed _ _ rfl rfl rfl rfl rfl
    · exact hsame _ rfl rfl rfl rfl
  · split <;> exact hpushed _ _ rfl rfl rfl rfl rfl

theorem of_put (event : Event) (hs : s.put? st t event = some s') : Inside t s s' := by
  unfold put? at hs
  split at hs
  · cases hs
  split at hs
  · next hframes =>
    cases hs
    exact of_begin (.inl (hframes ▸ cons_ne_nil _ _)) event
  · next hframes =>
    cases hs
    exact of_begin (.inl (hframes ▸ cons_ne_nil _ _)) event
  · split at hs
    · next houtside =>
      cases hs
      exact of_begin (.inr houtside) event
    · cases hs
  · cases hs

theorem of_leave {raised : Bool} (hs : s.leave? t raised = some s') : Inside t s s' := by
  unfold leave? at hs
  split at hs
  · next lane id rest hframes =>
    cases hs
    cases raised with
    | false =>
      exact of_top [] hframes rfl (.inl ⟨rfl, rfl⟩) rfl nofun nofun
    | true =>
      exact of_top [.report .handlerException lane id] hframes rfl
        (.inl ⟨rfl, rfl⟩) rfl nofun nofun
  · next rest hframes =>
    cases hs
    exact of_top [] hframes rfl (.inl ⟨rfl, rfl⟩) rfl nofun nofun
  · cases hs

theorem of_advancePut {id : ℕ} {event : Event} {lanes : List Lane} {cold accepted : Bool}
    (ht : s.frames t = .put id event lanes cold accepted :: rest) :
    Inside t s (s.advancePut st t id event lanes cold accepted rest) := by
  have hput : ∀ f : Frame, f.isPut = true → BottomPut [f] := by
    intro f hf g hg
    cases hg
    exact hf
  unfold advancePut
  cases lanes with
  | nil => exact of_top [] ht rfl (.inl ⟨rfl, rfl⟩) rfl nofun nofun
  | cons lane lanes =>
    dsimp only
    cases henqueue : s.enqueue? st lane id event with
    | some s' =>
      obtain ⟨-, rfl⟩ := enqueue?_eq_some.mp henqueue
      exact of_top [.put id event lanes cold accepted] ht rfl
        (.inr ⟨lane, id, event, rfl, rfl⟩) rfl (fun _ => rfl) fun _ => hput _ rfl
    | none =>
      refine of_top (.report .queueOverflow lane id ::
        ((if cold then [.handoff id] else []) ++ [.put id event lanes cold false])) ht rfl
          (.inl ⟨rfl, rfl⟩) ?_ (fun _ => rfl) fun _ => ?_
      · simp only [cons_append, append_assoc, nil_append]
        rfl
      · rw [← cons_append]
        exact (hput (.put id event lanes cold false) rfl).append fun h => by cases h

/-- A thread goes on within its frames. -/
theorem of_advance (hs : s.advance? st t = some s') (hbusy : s.frames t ≠ []) :
    Inside t s s' := by
  unfold advance? at hs
  split at hs
  · next hnone => exact absurd hnone hbusy
  · next hframes =>
    cases hs
    exact of_advancePut hframes
  · next kind lane id rest hframes =>
    cases hs
    unfold advanceReport
    split
    · exact of_top [] hframes rfl (.inl ⟨rfl, rfl⟩) rfl nofun nofun
    · exact of_top [.callback] hframes rfl (.inl ⟨rfl, rfl⟩) rfl nofun nofun
  · next id rest hframes =>
    cases hs
    unfold advanceHandoff
    split
    · exact of_top [] hframes rfl (.inl ⟨rfl, rfl⟩) rfl nofun nofun
    next pending _ =>
      split
      · exact of_top [] hframes rfl (.inl ⟨rfl, rfl⟩) rfl nofun nofun
      dsimp only
      refine of_top (if st.registered .cold pending.event then
        [.enqueueCold id pending.event] else []) hframes rfl (.inl ⟨rfl, rfl⟩) rfl ?_ nofun
      split <;> exact nofun
  · next id event rest hframes =>
    split at hs
    · next s' henqueue =>
      cases hs
      obtain ⟨-, rfl⟩ := enqueue?_eq_some.mp henqueue
      exact of_top [] hframes rfl (.inr ⟨.cold, id, event, rfl, rfl⟩) rfl nofun nofun
    · cases hs
      exact of_top [.report .queueOverflow .cold id] hframes rfl (.inl ⟨rfl, rfl⟩) rfl
        nofun nofun
  · next lane id event name names rest hframes =>
    cases hs
    exact of_top [.handler lane id, .handlers lane id event names] hframes rfl
      (.inl ⟨rfl, rfl⟩) rfl nofun nofun
  · next lane id _ rest hframes =>
    cases hs
    exact of_top [] hframes rfl (.inl ⟨rfl, rfl⟩) rfl nofun nofun
  · cases hs
  · cases hs

end Inside

/-! ## The counter -/

theorem putting_of_admits {t u : Thread} (h : s.admits t = true) (hu : u ≠ t) :
    s.putting u = false := by
  have hmem : u ∈ [Thread.worker .market, .worker .execution, .worker .cold, .controller,
      .outside] := by
    cases u with
    | worker lane => cases lane <;> decide
    | controller | outside => decide
  have hfree := all_eq_true.mp h u hmem
  rw [decide_eq_false hu, Bool.false_or] at hfree
  exact (Bool.not_eq_true' _).mp hfree

end EventEngine

def Item.isDispatch : Item → Bool
  | .dispatch .. => true
  | .stopWorker => false

/-- The dispatches in the queues. -/
def queued (queues : Lane → List Item) : ℤ :=
  (Lane.all.map fun lane => ((queues lane).countP Item.isDispatch : ℤ)).sum

/-- The dispatches in flight in the workers. -/
def inFlight (workers : Lane → Worker) : ℤ :=
  (Lane.all.map fun lane => if workers lane = .working then (1 : ℤ) else 0).sum

/-- The dispatch in flight in `process_existing_events`. -/
def Phase.inFlight : Phase → ℤ
  | .handling _ => 1
  | _ => 0

theorem queued_update (queues : Lane → List Item) (lane : Lane) (items : List Item) :
    queued (Function.update queues lane items) + (queues lane).countP Item.isDispatch =
      queued queues + items.countP Item.isDispatch := by
  unfold queued
  cases lane <;>
    simp only [Lane.all, Lane.hot, cons_append, nil_append, map_cons, map_nil,
      sum_cons, sum_nil, update_self, ne_eq, reduceCtorEq, not_false_eq_true,
      update_of_ne] <;>
    omega

theorem inFlight_update (workers : Lane → Worker) (lane : Lane) (worker : Worker) :
    inFlight (Function.update workers lane worker) +
        (if workers lane = .working then (1 : ℤ) else 0) =
      inFlight workers + if worker = .working then 1 else 0 := by
  unfold inFlight
  cases lane <;>
    simp only [Lane.all, Lane.hot, cons_append, nil_append, map_cons, map_nil,
      sum_cons, sum_nil, update_self, ne_eq, reduceCtorEq, not_false_eq_true,
      update_of_ne] <;>
    omega

theorem inFlight_nonneg (workers : Lane → Worker) : 0 ≤ inFlight workers := by
  unfold inFlight
  simp only [Lane.all, Lane.hot, cons_append, nil_append, map_cons, map_nil,
    sum_cons, sum_nil]
  split_ifs <;> omega

namespace EventEngine

variable {st : Setup} {s s' : EventEngine}

/-- The dispatches that are queued or in flight. -/
def work (s : EventEngine) : ℤ := queued s.queues + inFlight s.workers + s.phase.inFlight

/-- **The counter is right**, a thread is inside the engine only while it has something to do
there, and an engine that does not accept events is inside no `put`. -/
structure Balanced (s : EventEngine) : Prop where
  work : s.pendingWork = s.work
  worker : ∀ lane, s.frames (.worker lane) ≠ [] → s.workers lane = .working
  controller : s.frames .controller ≠ [] → ∃ lanes, s.phase = .handling lanes
  outside : BottomPut (s.frames .outside)
  closed : s.accepting = false → ∀ t, s.putting t = false

/-! ## The sections of `start` and `stop` -/

/-- What a section of `start` or `stop` finds and makes, after the first one. -/
inductive Controlled (st : Setup) (s : EventEngine) : EventEngine → Prop
  | started (hphase : s.phase = .starting []) : Controlled st s (s.answer (.started true))
  | there {lane : Lane} {lanes : List Lane} (hphase : s.phase = .starting (lane :: lanes))
      (halive : s.alive lane = true) : Controlled st s { s with phase := .starting lanes }
  | startWorker {lane : Lane} {lanes : List Lane} (hphase : s.phase = .starting (lane :: lanes))
      (hgone : ¬s.alive lane = true) :
      Controlled st s { s.setWorker lane .getting with phase := .starting lanes }
  | wait (hphase : s.phase = .stopping) : Controlled st s { s with phase := .waiting }
  | drain (hphase : s.phase = .stopping) (hgone : ¬Lane.all.any s.alive = true) :
      Controlled st s { s with phase := .draining Lane.all }
  | drained (hphase : s.phase = .draining []) : Controlled st s { s with phase := .waiting }
  | drainNext {lane : Lane} {lanes : List Lane} (hphase : s.phase = .draining (lane :: lanes)) :
      Controlled st s { s with phase := .draining lanes }
  | handle {lane : Lane} {lanes : List Lane} {id : ℕ} {event : Event} {rest : List Item}
      (hphase : s.phase = .draining (lane :: lanes))
      (hqueue : s.queues lane = .dispatch id event :: rest) :
      Controlled st s ({ s.setQueue lane rest with
        phase := .handling (lane :: lanes) }.process st
        .controller lane id event true)
  | unpackRaises {lane : Lane} {lanes : List Lane} {rest : List Item}
      (hphase : s.phase = .draining (lane :: lanes)) (hqueue : s.queues lane = .stopWorker ::
        rest) :
      Controlled st s ((s.setQueue lane rest).answer .stopRaised)
  | tell (hphase : s.phase = .waiting) (hpending : s.pendingWork = 0) :
      Controlled st s { s with phase := .telling Lane.all }
  | told (hphase : s.phase = .telling []) : Controlled st s { s with phase := .deactivating }
  | tellNext {lane : Lane} {lanes : List Lane} (hphase : s.phase = .telling (lane :: lanes))
      (halive : s.alive lane = true) : Controlled st s { s with phase := .sentinel lane lanes }
  | skip {lane : Lane} {lanes : List Lane} (hphase : s.phase = .telling (lane :: lanes))
      (hgone : ¬s.alive lane = true) : Controlled st s { s with phase := .telling lanes }
  | putSentinel {lane : Lane} {lanes : List Lane} (hphase : s.phase = .sentinel lane lanes) :
      Controlled st s
        { s.setQueue lane (s.queues lane ++ [.stopWorker]) with phase := .telling lanes }
  | sentinelFull {lane : Lane} {lanes : List Lane} (hphase : s.phase = .sentinel lane lanes)
      (hfull : ¬(s.queues lane).length < st.capacity lane) :
      Controlled st s (s.answer .stopRaised)
  | deactivate (hphase : s.phase = .deactivating) :
      Controlled st s { s with active := false, phase := .joining Lane.all }
  | joined (hphase : s.phase = .joining []) : Controlled st s { s with phase := .closing }
  | joinNext {lane : Lane} {lanes : List Lane} (hphase : s.phase = .joining (lane :: lanes))
      (hgone : ¬s.alive lane = true) : Controlled st s { s with phase := .joining lanes }
  | close (hphase : s.phase = .closing) :
      Controlled st s
        ({ s with stopping := false }.answer (.stopped (Lane.all.all fun lane => !s.alive lane)))

theorem Controlled.inFlight (h : Controlled st s s') : s.phase.inFlight = 0 := by
  cases h <;> exact congrArg Phase.inFlight ‹s.phase = _›

theorem control?_controlled (hs : s.control? st = some s') : Controlled st s s' := by
  unfold control? at hs
  split at hs <;> (try dsimp only at hs) <;> (try split at hs) <;> cases hs
  · exact .started ‹_›
  · exact .there ‹_› ‹_›
  · exact .startWorker ‹_› ‹_›
  · exact .wait ‹_›
  · exact .drain ‹_› ‹_›
  · exact .drained ‹_›
  · exact .drainNext ‹_›
  · exact .handle ‹_› ‹_›
  · exact .unpackRaises ‹_› ‹_›
  · exact .tell ‹_› ‹_›
  · exact .told ‹_›
  · exact .tellNext ‹_› ‹_›
  · exact .skip ‹_› ‹_›
  · exact .putSentinel ‹_›
  · exact .sentinelFull ‹_› ‹_›
  · exact .deactivate ‹_›
  · exact .joined ‹_›
  · exact .joinNext ‹_› ‹_›
  · exact .close ‹_›

namespace Balanced

theorem initial : Balanced {} :=
  ⟨rfl, fun _ h => absurd rfl h, fun h => absurd rfl h, nofun, nofun⟩

/-- A thread inside the engine. -/
theorem inside (h : Balanced s) {t : Thread} (hs : Inside t s s') : Balanced s' := by
  obtain ⟨hworkers, hphase, hactive, haccepting, hstopping, hanswers⟩ :=
    outer_eq_iff.mp hs.outer
  refine ⟨?_, ?_, ?_, ?_, ?_⟩
  · have hwork := h.work
    unfold EventEngine.work at hwork ⊢
    rw [hworkers, hphase]
    have hadds : Adds s s' := hs.work.elim And.right .inl
    rcases hadds with ⟨hqueues, hpending⟩ | ⟨lane, id, event, hqueues, hpending⟩
    · rw [hqueues, hpending]
      exact hwork
    have hqueued := queued_update s.queues lane (s.queues lane ++ [.dispatch id event])
    rw [countP_append, countP_singleton] at hqueued
    rw [hqueues, hpending]
    simp only [Item.isDispatch, if_true] at hqueued
    push_cast at hqueued
    omega
  · intro lane hframes
    rw [hworkers]
    by_cases ht : Thread.worker lane = t
    · subst ht
      exact h.worker lane (hs.within.resolve_right nofun)
    · rw [hs.frames _ ht] at hframes
      exact h.worker lane hframes
  · intro hframes
    rw [hphase]
    by_cases ht : Thread.controller = t
    · subst ht
      exact h.controller (hs.within.resolve_right nofun)
    · rw [hs.frames _ ht] at hframes
      exact h.controller hframes
  · by_cases ht : Thread.outside = t
    · subst ht
      exact hs.bottom rfl h.outside
    · rw [hs.frames _ ht]
      exact h.outside
  · intro hclosed u
    rw [haccepting] at hclosed
    have hputting := h.closed hclosed u
    by_cases hu : u = t
    · subst hu
      refine Bool.eq_false_iff.mpr fun hput => ?_
      rcases hs.putting hput with hold | hopen
      · rw [hputting] at hold
        cases hold
      · rw [hclosed] at hopen
        cases hopen
    · unfold EventEngine.putting at hputting ⊢
      rwa [hs.frames u hu]

/-- A step of a worker or of the controller that leaves the frames alone. -/
theorem of_frames (h : Balanced s) (hframes : s'.frames = s.frames)
    (hwork : s'.pendingWork = s'.work)
    (hworker : ∀ lane, s.workers lane = .working → s.frames (.worker lane) ≠ [] →
      s'.workers lane = .working)
    (hphase : ∀ lanes, s.phase = .handling lanes → s.frames .controller ≠ [] →
      s'.phase = .handling lanes)
    (hclosed : s'.accepting = false → ∀ t, s.putting t = false) : Balanced s' := by
  refine ⟨hwork, ?_, ?_, ?_, ?_⟩
  · intro lane hlane
    rw [hframes] at hlane
    exact hworker lane (h.worker lane hlane) hlane
  · intro hcontroller
    rw [hframes] at hcontroller
    obtain ⟨lanes, hlanes⟩ := h.controller hcontroller
    exact ⟨lanes, hphase lanes hlanes hcontroller⟩
  · rw [hframes]
    exact h.outside
  · intro haccepting t
    unfold EventEngine.putting
    rw [hframes]
    exact hclosed haccepting t

variable {lane : Lane}

/-- A dispatch is taken from a queue, by its worker or by `process_existing_events`. -/
theorem process (h : Balanced s) {t : Thread} (hidle : s.frames t = []) (ht : t ≠ .outside)
    {id : ℕ}
    {event : Event} {rest : List Item} {frames : List Frame}
    (hqueue : s.queues lane = .dispatch id event :: rest)
    (hqueues : s'.queues = Function.update s.queues lane rest)
    (hpending : s'.pendingWork = s.pendingWork) (haccepting : s'.accepting = s.accepting)
    (hframes : s'.frames = Function.update s.frames t frames)
    (hputs : frames.any Frame.isPut = false) (hflight : inFlight s'.workers + s'.phase.inFlight =
      inFlight s.workers + s.phase.inFlight + 1)
    (hworker : ∀ other, s.workers other = .working ∨ t = .worker other →
      s'.workers other = .working)
    (hphase : t = .controller → ∃ lanes, s'.phase = .handling lanes)
    (hother : t ≠ .controller → s'.phase = s.phase) : Balanced s' := by
  have hputting : ∀ u, s'.putting u = s.putting u := by
    intro u
    unfold EventEngine.putting
    rw [hframes]
    by_cases hu : u = t
    · subst hu
      rw [update_self, hidle, hputs]
      rfl
    · rw [update_of_ne hu]
  refine ⟨?_, ?_, ?_, ?_, ?_⟩
  · have hwork := h.work
    have hqueued := queued_update s.queues lane rest
    rw [hqueue, countP_cons] at hqueued
    simp only [Item.isDispatch, if_true] at hqueued
    push_cast at hqueued
    unfold EventEngine.work at hwork ⊢
    rw [hpending, hqueues]
    omega
  · intro other hbusy
    refine hworker other ?_
    by_cases hsame : Thread.worker other = t
    · exact .inr hsame.symm
    · rw [hframes, update_of_ne hsame] at hbusy
      exact .inl (h.worker other hbusy)
  · intro hbusy
    by_cases hcontroller : t = .controller
    · exact hphase hcontroller
    · rw [hframes, update_of_ne (Ne.symm hcontroller)] at hbusy
      obtain ⟨lanes, hlanes⟩ := h.controller hbusy
      exact ⟨lanes, (hother hcontroller).trans hlanes⟩
  · rw [hframes, update_of_ne (Ne.symm ht)]
    exact h.outside
  · intro hclosed u
    rw [hputting]
    exact h.closed (haccepting ▸ hclosed) u

theorem complete {t : Thread} (h : Balanced s) (hidle : s.frames t = [])
    (hs : s.complete? t = some s') : Balanced s' := by
  have hwork := h.work
  unfold EventEngine.work at hwork
  unfold complete? at hs
  cases t with
  | worker lane =>
    simp only at hs
    split at hs
    · next hworking =>
      cases hs
      refine h.of_frames rfl ?_ ?_ (fun _ hphase _ => hphase) h.closed
      · have hflight := inFlight_update s.workers lane .getting
        simp only [hworking, if_true, reduceCtorEq, if_false] at hflight
        show s.pendingWork - 1 = queued s.queues +
          inFlight (Function.update s.workers lane .getting) + s.phase.inFlight
        omega
      · intro other hother hframes
        have hne : other ≠ lane := by
          rintro rfl
          exact hframes hidle
        exact (update_of_ne hne _ _).trans hother
    · cases hs
  | controller =>
    simp only at hs
    split at hs
    · next lanes hphase =>
      cases hs
      refine h.of_frames rfl ?_ (fun _ hworking _ => hworking)
        (fun _ _ hframes => absurd hidle hframes) h.closed
      rw [hphase] at hwork
      show s.pendingWork - 1 = queued s.queues + inFlight s.workers + 0
      simp only [Phase.inFlight] at hwork
      omega
    · cases hs
  | outside => cases hs

/-- A worker changes what it is at, without a dispatch. -/
theorem setWorker (h : Balanced s) {worker : Worker}
    (hold : s.workers lane ≠ .working) (hnew : worker ≠ .working) :
    Balanced (s.setWorker lane worker) := by
  refine h.of_frames rfl ?_ ?_ (fun _ hphase _ => hphase) h.closed
  · have hwork := h.work
    have hflight := inFlight_update s.workers lane worker
    simp only [if_neg hold, if_neg hnew] at hflight
    unfold EventEngine.work at hwork
    show s.pendingWork = queued s.queues + inFlight (Function.update s.workers lane worker) +
      s.phase.inFlight
    omega
  · intro other hother _
    have hne : other ≠ lane := by
      rintro rfl
      exact hold hother
    exact (update_of_ne hne _ _).trans hother

/-- A sentinel is put into a queue, or taken from it. -/
theorem setQueue (h : Balanced s) {items : List Item}
    (hcount : items.countP Item.isDispatch = (s.queues lane).countP Item.isDispatch) :
    Balanced (s.setQueue lane items) := by
  refine h.of_frames rfl ?_ (fun _ hworking _ => hworking) (fun _ hphase _ => hphase) h.closed
  have hwork := h.work
  have hqueued := queued_update s.queues lane items
  rw [hcount] at hqueued
  unfold EventEngine.work at hwork
  show s.pendingWork = queued (Function.update s.queues lane items) + inFlight s.workers +
    s.phase.inFlight
  omega

/-- The controller goes on, without a dispatch. -/
theorem setPhase (h : Balanced s) (hold : s.phase.inFlight = 0) (hqueues : s'.queues = s.queues)
    (hworkers : s'.workers = s.workers) (hframes : s'.frames = s.frames)
    (hpending : s'.pendingWork = s.pendingWork) (hphase : s'.phase.inFlight = 0)
    (hclosed : s'.accepting = false → ∀ t, s.putting t = false) : Balanced s' := by
  refine h.of_frames hframes ?_ (fun lane hworking _ => ?_) (fun lanes hlanes _ => ?_) hclosed
  · have hwork := h.work
    unfold EventEngine.work at hwork ⊢
    rwa [hqueues, hworkers, hpending, hphase, ← hold]
  · rw [hworkers]
    exact hworking
  · rw [hlanes] at hold
    cases hold

theorem get (h : Balanced s) (hs : s.get? st lane = some s') : Balanced s' := by
  unfold get? at hs
  split at hs
  · next rest hworker hqueue =>
    cases hs
    have hpopped : Balanced (s.setQueue lane rest) := h.setQueue (by rw [hqueue]; rfl)
    refine hpopped.setWorker ?_ nofun
    show s.workers lane ≠ .working
    rw [hworker]
    exact nofun
  · next id event rest hworker hqueue =>
    cases hs
    have hidle : s.frames (.worker lane) = [] := by
      by_contra hbusy
      rw [h.worker lane hbusy] at hworker
      cases hworker
    refine h.process hidle nofun hqueue rfl rfl rfl rfl ?_ ?_ ?_ nofun (fun _ => rfl)
    · simp only [any_cons]
      split <;> rfl
    · have hflight := inFlight_update s.workers lane .working
      simp only [hworker, reduceCtorEq, if_false, if_true] at hflight
      show inFlight (Function.update s.workers lane .working) + s.phase.inFlight = _
      omega
    · intro other hother
      show Function.update s.workers lane .working other = .working
      by_cases heq : other = lane
      · rw [heq, update_self]
      · rw [update_of_ne heq]
        exact hother.resolve_right fun hsame => heq (Thread.worker.inj hsame).symm
  · cases hs

theorem timeOut (h : Balanced s) (hs : s.timeOut? lane = some s') : Balanced s' := by
  unfold timeOut? at hs
  split at hs
  · next hgetting =>
    cases hs
    exact h.setWorker (by rw [hgetting.1]; exact nofun) nofun
  · cases hs

theorem check (h : Balanced s) (hs : s.check? lane = some s') : Balanced s' := by
  unfold check? at hs
  split at hs
  · next htimedOut =>
    cases hs
    refine h.setWorker (by rw [htimedOut]; exact nofun) ?_
    split <;> exact nofun
  · cases hs

theorem call (h : Balanced s) (hs : s.start? = some s' ∨ s.stop? = some s') : Balanced s' := by
  rcases hs with hs | hs
  · unfold start? at hs
    split at hs
    · cases hs
    next hcalled =>
      rw [not_or, not_not] at hcalled
      have hidle : s.phase.inFlight = 0 := by
        rw [hcalled.1]
        rfl
      split at hs
      · split at hs <;> cases hs <;>
          exact h.setPhase hidle rfl rfl rfl rfl rfl h.closed
      · cases hs
        exact h.setPhase hidle rfl rfl rfl rfl rfl nofun
  · unfold stop? at hs
    split at hs
    · cases hs
    next hcalled =>
      rw [not_or, not_not, Bool.not_eq_false] at hcalled
      cases hs
      have hidle : s.phase.inFlight = 0 := by
        rw [hcalled.1]
        rfl
      refine h.setPhase hidle rfl rfl rfl rfl rfl fun _ t => ?_
      by_cases ht : t = .controller
      · subst ht
        have hnone : s.frames .controller = [] := by
          by_contra hbusy
          obtain ⟨lanes, hlanes⟩ := h.controller hbusy
          rw [hlanes] at hidle
          cases hidle
        unfold EventEngine.putting
        rw [hnone]
        rfl
      · exact putting_of_admits hcalled.2 ht

theorem control (h : Balanced s) (hs : s.control? st = some s') : Balanced s' := by
  have hgo : ∀ s' : EventEngine, s.phase.inFlight = 0 → s'.queues = s.queues →
      s'.workers = s.workers → s'.frames = s.frames → s'.pendingWork = s.pendingWork →
      s'.phase.inFlight = 0 → s'.accepting = s.accepting → Balanced s' :=
    fun s' hold h₁ h₂ h₃ h₄ h₅ h₆ =>
      h.setPhase hold h₁ h₂ h₃ h₄ h₅ fun hclosed => h.closed (h₆ ▸ hclosed)
  have hcontrolled := control?_controlled hs
  have hidle := hcontrolled.inFlight
  cases hcontrolled with
  | @startWorker lane _ _ hgone =>
    have hexited : s.workers lane = .exited := not_not.mp fun hne => hgone (decide_eq_true hne)
    have hstarted : Balanced (s.setWorker lane .getting) :=
      h.setWorker (by rw [hexited]; exact nofun) nofun
    exact hstarted.setPhase hidle rfl rfl rfl rfl rfl hstarted.closed
  | handle _ hqueue =>
    have hnone : s.frames .controller = [] := by
      by_contra hbusy
      obtain ⟨lanes, hlanes⟩ := h.controller hbusy
      rw [hlanes] at hidle
      cases hidle
    refine h.process hnone nofun hqueue rfl rfl rfl rfl ?_ ?_ ?_ (fun _ => ⟨_, rfl⟩)
      (fun hne => absurd rfl hne)
    · rw [Bool.or_true]
      rfl
    · show inFlight s.workers + 1 = inFlight s.workers + s.phase.inFlight + 1
      rw [hidle]
      exact congrArg (· + 1) (add_zero _).symm
    · rintro other (hworking | hsame)
      · exact hworking
      · cases hsame
  | @unpackRaises lane _ rest _ hqueue =>
    have hpopped : Balanced (s.setQueue lane rest) := h.setQueue (by rw [hqueue]; rfl)
    exact hpopped.setPhase hidle rfl rfl rfl rfl rfl hpopped.closed
  | @putSentinel lane =>
    have htold : Balanced (s.setQueue lane (s.queues lane ++ [.stopWorker])) :=
      h.setQueue (by rw [countP_append]; rfl)
    exact htold.setPhase hidle rfl rfl rfl rfl rfl htold.closed
  | started | there | wait | drain | drained | drainNext | tell | told | tellNext | skip
    | sentinelFull | deactivate | joined | joinNext | close =>
        exact hgo _ hidle rfl rfl rfl rfl rfl rfl

/-- **Every step keeps the counter right.** -/
theorem step (h : Balanced s) {a : Action} (hs : EventEngine.step st s a = some s') :
    Balanced s' := by
  cases a with
  | put t event => exact h.inside (Inside.of_put event hs)
  | advance t =>
    by_cases hidle : s.frames t = []
    · refine h.complete hidle ?_
      simp only [EventEngine.step, advance?, hidle] at hs
      exact hs
    · exact h.inside (Inside.of_advance hs hidle)
  | leave t raised => exact h.inside (Inside.of_leave hs)
  | get lane => exact h.get hs
  | timeOut lane => exact h.timeOut hs
  | check lane => exact h.check hs
  | start => exact h.call (.inl hs)
  | stop => exact h.call (.inr hs)
  | control => exact h.control hs
  | giveUp =>
    simp only [EventEngine.step, giveUp?] at hs
    split at hs
    · next hwaiting =>
      cases hs
      exact h.setPhase (congrArg Phase.inFlight hwaiting.1) rfl rfl rfl rfl rfl h.closed
    · cases hs

end Balanced

end EventEngine

end ChronosHFT.Events
