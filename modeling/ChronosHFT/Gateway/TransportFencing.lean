import ChronosHFT.Gateway.Transport

/-!
# What `READY` promises

A `READY` gateway has a websocket whose messages are let through.  The generation is what fences
off the others: a fault or a message of an older one does nothing.

**In a spared run** (`ready_fenced`) this holds at every moment the lock is free.  The steps that
are not spared are the four that the transport does not survive: a recovery that begins while the
gateway is `READY`, for it leaves `READY` only after the next section (`recover_while_ready`); an
exception after the recovery has set `READY`; one in the section of `begin_shutdown`; and an
error of a websocket that is logged after the generation it was found current in. -/

namespace ChronosHFT.Transport

open Section

variable {Update : Type}

/-! ## What is promised -/

/-- No call of `begin_shutdown` is underway and the gateway is `READY`: its messages arrive. -/
def ReadySafe (w : System Update) : Prop :=
  w.shutdowns = 0 → w.gateway.state = .ready →
    w.gateway.active = true ∧ w.gateway.closing = false ∧
      (∃ ws, w.gateway.ws = some ws ∧ ws.generation = w.gateway.generation) ∧
      w.gateway.generation ∉ w.faults

/-- The step is a fault or a message of a generation that is not the current one. -/
def Step.Superseded (w : System Update) : Step Update → Prop
  | .fault _ generation keepAlive _ =>
    (∃ expected, generation = some expected ∧ expected ≠ w.gateway.generation) ∨
      ∃ expected, keepAlive = some expected ∧ expected ≠ w.gateway.keepAliveGeneration
  | .message _ generation _ =>
    ∃ expected, generation = some expected ∧ expected ≠ w.gateway.generation
  | .errorChecked _ generation =>
    ∃ expected, generation = some expected ∧ expected ≠ w.gateway.generation
  | .errorLogged index _ =>
    ∃ expected text, w.errors[index]? = some (some expected, text) ∧
      expected ≠ w.gateway.generation
  | _ => False

/-- It puts no event, and the gateway stays what it was. -/
def Fenced (w : System Update) (s : Step Update) (w' : System Update) : Prop :=
  s.Superseded w → w'.gateway = w.gateway

/-- `READY` is not among the states that were set in between. -/
def NotReadied (gateway gateway' : Gateway Update) : Prop :=
  ∃ sets, gateway'.stateSets = gateway.stateSets ++ sets ∧ .ready ∉ sets

/-- Once the gateway closes, it does so for good. -/
def ClosesForGood (w w' : System Update) : Prop :=
  w.gateway.closing = true → w'.gateway.closing = true ∧ NotReadied w.gateway w'.gateway

/-! ## What is spared -/

/-- A step that the transport survives. -/
def Step.Spared (w : System Update) : Step Update → Prop
  | .recover _ replies =>
    w.gateway.state = .ready → w.gateway.closing = true ∨ w.gateway.symbols = [] ∨
      ¬(replies .invalidateUserStream).Returns ∨ replies .beginGeneration = .raises false
  | .advance replies =>
    match w.call with
    | some (.running (.recover context) generation (.committing ws)) =>
      ownsLifecycle w.gateway generation (some ws) = true → w.gateway.state ≠ .error →
        (replies .onLog).Returns ∧ (context.isSome = true → (replies .readContext).Returns) ∧
          (replies .emitHealth).Returns
    | _ => True
  | .beginShutdown replies =>
    w.gateway.state = .ready → w.shutdowns = 0 →
      (replies .invalidateUserStream).Returns ∧ (replies .beginBookShutdown).Returns
  | .errorLogged index _ =>
    match w.errors[index]? with
    | some (some expected, _) => expected = w.gateway.generation
    | _ => True
  | _ => True

instance Step.decidableSpared (w : System Update) : ∀ s : Step Update, Decidable (s.Spared w)
  | .recover _ replies => inferInstanceAs (Decidable (w.gateway.state = .ready → _ ∨ _))
  | .advance replies => by
      unfold Step.Spared
      dsimp only
      split
      · infer_instance
      · infer_instance
  | .beginShutdown replies =>
    inferInstanceAs (Decidable (w.gateway.state = .ready → w.shutdowns = 0 → _ ∧ _))
  | .errorLogged index _ => by
      unfold Step.Spared
      dsimp only
      split
      · infer_instance
      · infer_instance
  | .connect _ | .fault .. | .message .. | .errorChecked .. | .disconnect _ | .release =>
    isTrue trivial

/-! ## What a section leaves -/

section Sections

variable {venue : String} {replies : Replies} {gateway : Gateway Update}

theorem notReadied_refl : NotReadied gateway gateway := ⟨[], by simp, by simp⟩

theorem ends_setState {state : GatewayState} :
    Ends (setState venue replies state) gateway fun answer gateway' =>
      ((replies .onLog).Returns → answer = some ()) ∧ ∃ events, gateway' =
        { gateway with state, stateSets := gateway.stateSets ++ [state], events } := by
  rw [setState, ends_bind, ends_write]
  exact ends_perform (fun _ => ⟨fun _ => rfl, _, rfl⟩) fun hraise =>
    ⟨⟨fun h => absurd h hraise, _, rfl⟩, ⟨fun h => absurd h hraise, _, rfl⟩⟩

theorem generationMatches_some {expected : ℕ} :
    generationMatches gateway (some expected) = true ↔ gateway.generation = expected := by
  simp [generationMatches]

variable {generation : ℕ} {ws : WebSocket}

theorem ownsLifecycle_some : ownsLifecycle gateway generation (some ws) = true ↔
      gateway.closing = false ∧ gateway.active = true ∧ gateway.generation = generation ∧
        gateway.ws = some ws := by
  simp [ownsLifecycle, generationMatches, and_assoc]

/-- What a section of a call leaves that does not begin a generation: the gateway may have become
inactive, its websocket may be another, and `READY` is not set. -/
structure Quiet (gateway gateway' : Gateway Update) : Prop where
  closing : gateway'.closing = gateway.closing
  generation : gateway'.generation = gateway.generation
  active : gateway'.active = true → gateway.active = true
  state : gateway.state ≠ .ready → gateway'.state ≠ .ready
  notReadied : NotReadied gateway gateway'

theorem Quiet.refl : Quiet gateway gateway := ⟨rfl, rfl, id, id, notReadied_refl⟩

/-- Another state is set, the gateway is perhaps inactive, and its websocket perhaps another. -/
theorem Quiet.set {active : Bool} {ws : Option WebSocket} {state : GatewayState}
    {events : List (Event Update)} (hactive : active = true → gateway.active = true)
    (hstate : state ≠ .ready) :
    Quiet gateway
      { gateway with active, ws, state, events, stateSets := gateway.stateSets ++ [state] } :=
  ⟨rfl, rfl, hactive, fun _ => hstate, [state], rfl, by simpa using hstate.symm⟩

theorem ends_connectInstall :
    Ends (connectInstall replies generation ws) gateway fun _ => Quiet gateway := by
  simp only [connectInstall, ends_bind, ends_read, ends_ite, ends_write, ends_pure]
  refine ⟨fun _ => ?_, fun _ => ⟨rfl, rfl, id, id, notReadied_refl⟩⟩
  exact ends_perform (fun _ => .refl) fun _ => ⟨.refl, .refl⟩

theorem ends_recoverInstall :
    Ends (recoverInstall venue replies generation ws) gateway fun _ => Quiet gateway := by
  simp only [recoverInstall, ends_bind, ends_read, ends_ite, ends_write, ends_pure]
  refine ⟨fun _ => ends_perform (fun _ => .refl) fun _ => ⟨.refl, .refl⟩, fun _ => ?_⟩
  refine ends_setState.imp ?_
  rintro answer gateway' ⟨-, events, rfl⟩
  have hquiet : Quiet gateway { gateway with
      ws := some ws, state := .connecting, events
      stateSets := gateway.stateSets ++ [.connecting] } :=
    .set id nofun
  cases answer with
  | none => exact hquiet
  | some _ => exact hquiet

theorem ends_markFailure {ws : Option WebSocket} :
    Ends (markFailureIfCurrent venue replies generation ws) gateway fun _ => Quiet gateway := by
  simp only [markFailureIfCurrent, ends_bind, ends_read, ends_ite, ends_write, ends_pure]
  refine ⟨fun _ => .refl, fun _ => ?_⟩
  refine ends_setState.imp ?_
  rintro answer gateway' ⟨-, events, rfl⟩
  have hquiet : Quiet gateway { gateway with
      active := false, state := .error, events, stateSets := gateway.stateSets ++ [.error] } :=
    .set nofun nofun
  cases answer with
  | none => exact hquiet
  | some _ => exact hquiet

theorem ends_startMarketStream :
    Ends (startMarketStream replies generation) gateway fun _ => Quiet gateway := by
  simp only [startMarketStream, ends_bind, ends_read, ends_ite, ends_pure]
  exact ⟨fun _ => .refl, fun _ => ends_ask (fun _ => .refl) fun _ => .refl⟩

theorem ends_startUserStream :
    Ends (startUserStream replies generation) gateway fun _ => Quiet gateway := by
  simp only [startUserStream, ends_bind, ends_read, ends_ite, ends_pure, ends_write]
  refine ⟨fun _ => .refl, fun _ =>
    ends_ask (fun started => ⟨fun _ => .refl, fun _ => ?_⟩) fun _ => .refl⟩
  have hquiet : Quiet gateway
      { gateway with keepAliveGeneration := gateway.keepAliveGeneration + 1 } :=
    ⟨rfl, rfl, id, id, notReadied_refl⟩
  exact ends_perform (fun _ => hquiet) fun _ => ⟨hquiet, hquiet⟩

theorem ends_recoverRelease : Ends (recoverRelease ws) gateway fun _ => Quiet gateway :=
  ends_write.mpr ⟨rfl, rfl, id, id, notReadied_refl⟩

/-- What the last section leaves: `READY` is set by the owner of the lifecycle. -/
def Commits (gateway : Gateway Update) (generation : ℕ) (ws : WebSocket)
    (gateway' : Gateway Update) : Prop :=
  ownsLifecycle gateway generation (some ws) = true ∧ ∃ events, gateway' =
    { gateway with state := .ready, events, stateSets := gateway.stateSets ++ [.ready] }

theorem ends_connectCommit :
    Ends (connectCommit venue replies generation ws) gateway fun _ gateway' =>
      Quiet gateway gateway' ∨ Commits gateway generation ws gateway' := by
  simp only [connectCommit, ends_bind, ends_read, ends_ite, ends_pure]
  refine ⟨fun _ => ends_perform (fun _ => .inl .refl) fun _ => ⟨.inl .refl, .inl .refl⟩,
    fun howns => ?_⟩
  refine ends_setState.imp ?_
  rintro answer gateway' ⟨-, events, rfl⟩
  have hcommits : Commits gateway generation ws _ := ⟨by simpa using howns, events, rfl⟩
  cases answer with
  | none => exact .inr hcommits
  | some _ => exact .inr hcommits

/-- A recovery that raises nothing once it has set `READY` has committed. -/
theorem ends_recoverCommit {context : Option RecoveryContext}
    (hspared : ownsLifecycle gateway generation (some ws) = true → gateway.state ≠ .error →
      (replies .onLog).Returns ∧ (context.isSome = true → (replies .readContext).Returns) ∧
        (replies .emitHealth).Returns) :
    Ends (recoverCommit venue replies context generation ws) gateway fun answer gateway' =>
      Quiet gateway gateway' ∨ answer = some true ∧ Commits gateway generation ws gateway' := by
  simp only [recoverCommit, ends_bind, ends_read, ends_ite, ends_pure]
  refine ⟨fun _ => ends_perform (fun _ => .inl .refl) fun _ => ⟨.inl .refl, .inl .refl⟩,
    fun howns => ?_⟩
  simp only [Bool.or_eq_true, Bool.not_eq_true', beq_iff_eq, not_or, Bool.not_eq_false] at howns
  obtain ⟨hlog, hcontext, hhealth⟩ := hspared howns.1 howns.2
  refine ends_setState.imp ?_
  rintro answer gateway' ⟨hanswer, events, rfl⟩
  rw [hanswer hlog]
  refine ⟨fun hsome => ends_perform_of_returns (hcontext hsome) ?_, fun _ => ?_⟩
  · exact ends_perform_of_returns hhealth (.inr ⟨trivial, howns.1, _, rfl⟩)
  · exact ends_perform_of_returns hhealth (.inr ⟨trivial, howns.1, _, rfl⟩)

/-- What the first section of a call leaves when the gateway does not close. -/
structure Begins (gateway : Gateway Update) (answer : Option (Option ℕ))
    (gateway' : Gateway Update) : Prop where
  left : ∃ keepAlive generation, gateway' =
    { gateway with active := true, keepAliveGeneration := keepAlive, generation }
  begun : gateway'.generation = gateway.generation ∧ answer = none ∨
    gateway'.generation = gateway.generation + 1 ∧
      (answer = none ∨ answer = some (some gateway'.generation))

theorem ends_beginGeneration {Q : Option ℕ → Gateway Update → Prop}
    (hbefore : replies .beginGeneration = .raises false → Q none gateway)
    (hbegun : replies .beginGeneration ≠ .raises false → ∀ answer, answer = none ∨
      answer = some (gateway.generation + 1) →
        Q answer { gateway with generation := gateway.generation + 1 }) :
    Ends (beginGeneration replies) gateway Q := by
  rw [beginGeneration, ends_bind]
  rcases hreply : replies .beginGeneration with value | done
  · exact hbegun (by rw [hreply]; exact (nomatch ·)) _ (.inr rfl)
  · cases done with
    | false => exact hbefore hreply
    | true => exact hbegun (by rw [hreply]; exact (nomatch ·)) _ (.inl rfl)

theorem ends_connectBegin :
    Ends (connectBegin replies) gateway fun answer gateway' =>
      gateway' = gateway ∧ answer = some none ∨
        gateway.closing = false ∧ Begins gateway answer gateway' := by
  simp only [connectBegin, ends_bind, ends_read, ends_ite, ends_pure, ends_write]
  refine ⟨fun _ => .inl ⟨trivial, trivial⟩, fun hopen => ?_⟩
  have hopen : gateway.closing = false := by simpa using hopen
  refine ends_beginGeneration (fun _ => ?_) fun _ answer hanswer => ?_
  · exact .inr ⟨hopen, ⟨_, _, rfl⟩, .inl ⟨rfl, rfl⟩⟩
  · rcases hanswer with rfl | rfl
    · exact .inr ⟨hopen, ⟨_, _, rfl⟩, .inr ⟨rfl, .inl rfl⟩⟩
    · exact .inr ⟨hopen, ⟨_, _, rfl⟩, .inr ⟨rfl, .inr rfl⟩⟩

/-- The generation of a gateway that closes or has no symbols stays, as it does when the section
raises before it begins one. -/
theorem ends_recoverBegin :
    Ends (recoverBegin replies) gateway fun answer gateway' =>
      gateway' = gateway ∧ answer = some none ∨
        gateway.closing = false ∧ Begins gateway answer gateway' ∧
          (gateway'.generation = gateway.generation + 1 → gateway.symbols ≠ [] ∧
            (replies .invalidateUserStream).Returns ∧
            replies .beginGeneration ≠ .raises false) := by
  simp only [recoverBegin, ends_bind, ends_read, ends_ite, ends_pure, ends_write]
  refine ⟨fun _ => .inl ⟨trivial, trivial⟩, fun hopen => ?_⟩
  simp only [Bool.or_eq_true, not_or, Bool.not_eq_true, List.isEmpty_eq_false_iff] at hopen
  obtain ⟨hopen, hsymbols⟩ := hopen
  by_cases hinvalidated : (replies .invalidateUserStream).Returns
  · refine ends_perform_of_returns hinvalidated ?_
    refine ends_beginGeneration (fun _ => ?_) fun hbegun answer hanswer => ?_
    · exact .inr ⟨hopen, ⟨⟨_, _, rfl⟩, .inl ⟨rfl, rfl⟩⟩, fun h => by simp at h⟩
    rcases hanswer with rfl | rfl
    · exact .inr ⟨hopen, ⟨⟨_, _, rfl⟩, .inr ⟨rfl, .inl rfl⟩⟩,
        fun _ => ⟨hsymbols, hinvalidated, hbegun⟩⟩
    · exact .inr ⟨hopen, ⟨⟨_, _, rfl⟩, .inr ⟨rfl, .inr rfl⟩⟩,
        fun _ => ⟨hsymbols, hinvalidated, hbegun⟩⟩
  · have hraised : ∀ keepAlive, gateway.closing = false ∧
        Begins gateway none
          { gateway with active := true, keepAliveGeneration := keepAlive } ∧
        (gateway.generation = gateway.generation + 1 → gateway.symbols ≠ [] ∧
          (replies .invalidateUserStream).Returns ∧ replies .beginGeneration ≠ .raises false) :=
      fun keepAlive => ⟨hopen, ⟨⟨keepAlive, _, rfl⟩, .inl ⟨rfl, rfl⟩⟩, fun h => by simp at h⟩
    exact ends_perform (absurd · hinvalidated) fun _ => ⟨.inr (hraised _), .inr (hraised _)⟩

/-- What an accepted fault leaves. -/
def Faulted (gateway gateway' : Gateway Update) : Prop :=
  ∃ events sets, gateway' = { gateway with
    active := false, state := .error, events, stateSets := gateway.stateSets ++ sets } ∧
      .ready ∉ sets

theorem Faulted.ends_emitHealth {gateway' : Gateway Update} {text : String}
    (h : Faulted gateway gateway') :
    Ends (emitHealth replies text) gateway' fun _ => Faulted gateway := by
  obtain ⟨events, sets, rfl, hsets⟩ := h
  exact ends_perform (fun _ => ⟨_, sets, rfl, hsets⟩) fun _ =>
    ⟨⟨_, sets, rfl, hsets⟩, ⟨_, sets, rfl, hsets⟩⟩

theorem ends_emitWsFault {message : String} {generation keepAlive : Option ℕ} :
    Ends (emitWsFault venue replies message generation keepAlive) gateway fun answer gateway' =>
      answer = some false ∧ gateway' = gateway ∨
        answer ≠ some false ∧ generationMatches gateway generation = true ∧
          keepAlive.all (gateway.keepAliveGeneration == ·) = true ∧
          Faulted gateway gateway' := by
  simp only [emitWsFault, ends_bind, ends_read, ends_ite, ends_pure, ends_write]
  refine ⟨fun _ => .inl ⟨trivial, trivial⟩, fun hcurrent => ?_⟩
  simp only [Bool.or_eq_true, Bool.not_eq_true', not_or, Bool.not_eq_false] at hcurrent
  have haccepted : ∀ gateway', Faulted gateway gateway' →
      ∀ answer : Option Bool, answer ≠ some false → answer = some false ∧ gateway' = gateway ∨
        answer ≠ some false ∧ generationMatches gateway generation = true ∧
          keepAlive.all (gateway.keepAliveGeneration == ·) = true ∧ Faulted gateway gateway' :=
    fun _ h _ hanswer => .inr ⟨hanswer, hcurrent.1, hcurrent.2, h⟩
  refine ⟨fun _ => ends_setState.imp ?_, fun herror => ?_⟩
  · rintro answer gateway' ⟨-, events, rfl⟩
    have hfaulted : Faulted gateway _ := ⟨events, [.error], rfl, by simp⟩
    cases answer with
    | none => exact haccepted _ hfaulted none nofun
    | some _ =>
      refine hfaulted.ends_emitHealth.imp ?_
      rintro (_ | _) gateway' hreported
      · exact haccepted _ hreported none nofun
      · exact haccepted _ hreported (some true) nofun
  · have herror : gateway.state = .error := by simpa using herror
    have hfaulted : Faulted gateway { gateway with active := false } :=
      ⟨_, [], by rw [← herror, List.append_nil], by simp⟩
    refine hfaulted.ends_emitHealth.imp ?_
    rintro (_ | _) gateway' hreported
    · exact haccepted _ hreported none nofun
    · exact haccepted _ hreported (some true) nofun

theorem ends_dispatch {generation : Option ℕ} {update : Update} :
    Ends (dispatchTransportCallback replies generation update) gateway fun _ gateway' =>
      gateway' = gateway ∨ generationMatches gateway generation = true ∧
        ∃ events, gateway' = { gateway with events } := by
  simp only [dispatchTransportCallback, ends_bind, ends_read, ends_ite, ends_pure]
  refine ⟨fun _ => .inl trivial, fun hcurrent => ?_⟩
  have hcurrent : generationMatches gateway generation = true := by simpa using hcurrent
  exact ends_perform (fun _ => .inr ⟨hcurrent, _, rfl⟩) fun _ =>
    ⟨.inl rfl, .inr ⟨hcurrent, _, rfl⟩⟩

theorem ends_beginShutdown :
    Ends (beginShutdown replies) gateway fun answer gateway' =>
      (∃ keepAlive generation, gateway.generation ≤ generation ∧ gateway' = { gateway with
        closing := true, active := false, keepAliveGeneration := keepAlive, generation }) ∧
      ((replies .invalidateUserStream).Returns → (replies .beginBookShutdown).Returns →
        answer = some ()) := by
  simp only [beginShutdown, ends_bind, ends_write]
  refine ends_perform (fun hinvalidated => ?_) fun hraise => ?_
  · refine ends_perform (fun _ => ?_) fun hraise => ?_
    · exact ⟨⟨_, _, Nat.le_succ _, rfl⟩, fun _ _ => rfl⟩
    · exact ⟨⟨⟨_, _, le_rfl, rfl⟩, fun _ h => absurd h hraise⟩,
        ⟨⟨_, _, Nat.le_succ _, rfl⟩, fun _ h => absurd h hraise⟩⟩
  · exact ⟨⟨⟨_, _, le_rfl, rfl⟩, fun h => absurd h hraise⟩,
      ⟨⟨_, _, le_rfl, rfl⟩, fun h => absurd h hraise⟩⟩

end Sections

/-! ## How a call goes on -/

/-- The websocket that a call works on. -/
def Stage.ws? : Stage → Option WebSocket
  | .configuring | .creating | .reporting _ => none
  | .failing ws _ => ws
  | .installing ws | .replacing ws _ | .marketStream ws | .listenKey ws | .userStream ws
  | .waiting ws | .syncing ws _ | .committing ws | .rejecting ws _ | .unwinding ws
  | .releasing ws => some ws

/-- The call ends, or goes on with the websocket of its generation. -/
def Continues (kind : Kind) (generation : ℕ) (next : Option Call) : Prop :=
  ∀ call, next = some call → ∃ stage, call = .running kind generation stage ∧
    ∀ ws, stage.ws? = some ws → ws.generation = generation

/-- A step of a call that neither begins a generation nor sets `READY`. -/
structure Proceeds (w : System Update) (kind : Kind) (generation : ℕ) (w' : System Update) :
    Prop where
  quiet : Quiet w.gateway w'.gateway
  faults : w'.faults = w.faults
  shutdowns : w'.shutdowns = w.shutdowns
  continues : Continues kind generation w'.call

section Calls

variable {venue : String} {replies : Replies} {w : System Update} {kind : Kind} {generation : ℕ}
  {ws : WebSocket}

theorem continues_none : Continues kind generation none := nofun

theorem continues_running {stage : Stage}
    (hws : ∀ ws, stage.ws? = some ws → ws.generation = generation) :
    Continues kind generation (some (.running kind generation stage)) := by
  rintro _ ⟨⟩
  exact ⟨stage, rfl, hws⟩

theorem continues_with {stage : Stage} (hstage : stage.ws? = some ws)
    (hws : ws.generation = generation) :
    Continues kind generation (some (.running kind generation stage)) := by
  refine continues_running fun ws' h => ?_
  rw [hstage] at h
  cases h
  exact hws

theorem continues_leave (hws : ws.generation = generation) :
    Continues kind generation (System.leave kind generation ws) := by
  cases kind with
  | connect => exact continues_none
  | recover context => exact continues_with rfl hws

theorem continues_rejectStream (hws : ws.generation = generation) :
    Continues kind generation
      (System.advanceRunning.rejectStream venue replies kind generation ws) := by
  unfold System.advanceRunning.rejectStream
  split
  · exact continues_with rfl hws
  · exact continues_leave hws

theorem proceeds_run {α : Type} {section_ : Section (Gateway Update) α} {raised : Option Call}
    {next : α → Option Call} (hends : Ends section_ w.gateway fun _ => Quiet w.gateway)
    (hraised : Continues kind generation raised)
    (hnext : ∀ a, Continues kind generation (next a)) :
    Proceeds w kind generation (w.run section_ raised next) := by
  unfold System.run
  rcases heq : section_ w.gateway with ⟨_ | answer, gateway⟩
  · exact ⟨hends.of_eq heq, rfl, rfl, hraised⟩
  · exact ⟨hends.of_eq heq, rfl, rfl, hnext answer⟩

theorem proceeds_ask {reply : Reply} {raised yes no : Option Call}
    (hraised : Continues kind generation raised) (hyes : Continues kind generation yes)
    (hno : Continues kind generation no) :
    Proceeds w kind generation (w.ask reply raised yes no) := by
  rcases reply with (_ | _) | _
  · exact ⟨.refl, rfl, rfl, hno⟩
  · exact ⟨.refl, rfl, rfl, hyes⟩
  · exact ⟨.refl, rfl, rfl, hraised⟩

/-- The websocket that a step of a call creates carries the generation of the call. -/
theorem proceeds_creating :
    Proceeds w kind generation (w.advanceRunning venue replies kind generation .creating) := by
  have hfailed : Proceeds w kind generation { w with call := none } :=
    ⟨.refl, rfl, rfl, continues_none⟩
  simp only [System.advanceRunning]
  split
  · exact hfailed
  · exact hfailed
  · exact ⟨.refl, rfl, rfl, continues_with rfl rfl⟩

theorem proceeds_installing (hws : ws.generation = generation) :
    Proceeds w kind generation
      (w.advanceRunning venue replies kind generation (.installing ws)) := by
  refine proceeds_run ?_ continues_none fun old => ?_
  · cases kind with
    | connect => exact ends_connectInstall
    | recover context => exact ends_recoverInstall
  · cases old with
    | none => exact continues_none
    | some _ => exact continues_with rfl hws

theorem proceeds_failing {ws : Option WebSocket} {report : String}
    (hws : ∀ ws', ws = some ws' → ws'.generation = generation) :
    Proceeds w kind generation
      (w.advanceRunning venue replies kind generation (.failing ws report)) := by
  have hleft : Continues kind generation (ws.bind (System.leave kind generation)) := by
    cases ws with
    | none => exact continues_none
    | some ws => exact continues_leave (hws ws rfl)
  refine proceeds_run ends_markFailure hleft fun marked => ?_
  cases kind with
  | recover context => exact hleft
  | connect =>
    cases marked with
    | false => exact continues_none
    | true => exact continues_running nofun

/-- A stage other than the last goes on. -/
theorem proceeds_advanceRunning {stage : Stage} (hcommit : ∀ ws, stage ≠ .committing ws)
    (hws : ∀ ws, stage.ws? = some ws → ws.generation = generation) :
    Proceeds w kind generation (w.advanceRunning venue replies kind generation stage) := by
  cases stage with
  | configuring =>
    exact proceeds_ask continues_none (continues_running nofun) (continues_running nofun)
  | creating => exact proceeds_creating
  | installing ws => exact proceeds_installing (hws ws rfl)
  | replacing ws old =>
    cases old with
    | none => exact ⟨.refl, rfl, rfl, continues_with rfl (hws ws rfl)⟩
    | some old =>
      exact proceeds_ask continues_none (continues_with rfl (hws ws rfl))
        (continues_with rfl (hws ws rfl))
  | marketStream ws =>
    refine proceeds_run ends_startMarketStream (continues_leave (hws ws rfl)) fun started => ?_
    cases started with
    | false => exact continues_rejectStream (hws ws rfl)
    | true => exact continues_with rfl (hws ws rfl)
  | listenKey ws =>
    exact proceeds_ask (continues_leave (hws ws rfl)) (continues_with rfl (hws ws rfl))
      (continues_rejectStream (hws ws rfl))
  | userStream ws =>
    refine proceeds_run ends_startUserStream (continues_leave (hws ws rfl)) fun started => ?_
    cases started with
    | false => exact continues_rejectStream (hws ws rfl)
    | true => exact continues_with rfl (hws ws rfl)
  | waiting ws =>
    exact proceeds_ask (continues_leave (hws ws rfl)) (continues_with rfl (hws ws rfl))
      (continues_with rfl (hws ws rfl))
  | syncing ws symbols =>
    cases symbols with
    | nil => exact ⟨.refl, rfl, rfl, continues_with rfl (hws ws rfl)⟩
    | cons symbol rest =>
      exact proceeds_ask (continues_leave (hws ws rfl)) (continues_with rfl (hws ws rfl))
        (continues_with rfl (hws ws rfl))
  | committing ws => exact absurd rfl (hcommit ws)
  | rejecting ws report =>
    exact proceeds_ask (continues_leave (hws ws rfl)) (continues_with rfl (hws ws rfl))
      (continues_with rfl (hws ws rfl))
  | failing ws report => exact proceeds_failing hws
  | reporting report =>
    have hquiet : Ends (emitHealth replies report) w.gateway fun _ => Quiet w.gateway :=
      ends_perform (fun _ => ⟨rfl, rfl, id, id, notReadied_refl⟩) fun _ =>
        ⟨.refl, ⟨rfl, rfl, id, id, notReadied_refl⟩⟩
    exact ⟨hquiet, rfl, rfl, continues_none⟩
  | unwinding ws =>
    exact proceeds_ask continues_none (continues_with rfl (hws ws rfl))
      (continues_with rfl (hws ws rfl))
  | releasing ws => exact proceeds_run ends_recoverRelease continues_none fun _ => continues_none

/-- The last section of a call either goes on, or sets `READY` and ends the call. -/
theorem advanceRunning_committing (hws : ws.generation = generation)
    (hspared : ∀ context, kind = .recover context →
      ownsLifecycle w.gateway generation (some ws) = true → w.gateway.state ≠ .error →
      (replies .onLog).Returns ∧ (context.isSome = true → (replies .readContext).Returns) ∧
        (replies .emitHealth).Returns) :
    Proceeds w kind generation
      (w.advanceRunning venue replies kind generation (.committing ws)) ∨
      ∃ gateway, Commits w.gateway generation ws gateway ∧
        w.advanceRunning venue replies kind generation (.committing ws) =
          { w with gateway, call := none } := by
  cases kind with
  | connect =>
    have hends : Ends (connectCommit venue replies generation ws) w.gateway _ :=
      ends_connectCommit
    simp only [System.advanceRunning, System.run]
    rcases heq : connectCommit venue replies generation ws w.gateway with ⟨_ | answer, gateway⟩
    · rcases hends.of_eq heq with hquiet | hcommits
      · exact .inl ⟨hquiet, rfl, rfl, continues_none⟩
      · exact .inr ⟨gateway, hcommits, rfl⟩
    · rcases hends.of_eq heq with hquiet | hcommits
      · exact .inl ⟨hquiet, rfl, rfl, continues_none⟩
      · exact .inr ⟨gateway, hcommits, rfl⟩
  | recover context =>
    have hends : Ends (recoverCommit venue replies context generation ws) w.gateway _ :=
      ends_recoverCommit (hspared context rfl)
    simp only [System.advanceRunning, System.run]
    rcases heq : recoverCommit venue replies context generation ws w.gateway with
      ⟨_ | answer, gateway⟩
    · rcases hends.of_eq heq with hquiet | ⟨hanswer, -⟩
      · exact .inl ⟨hquiet, rfl, rfl, continues_leave hws⟩
      · cases hanswer
    · rcases hends.of_eq heq with hquiet | ⟨hanswer, hcommits⟩
      · refine .inl ⟨hquiet, rfl, rfl, ?_⟩
        cases answer with
        | false => exact continues_leave hws
        | true => exact continues_none
      · cases hanswer
        exact .inr ⟨gateway, hcommits, rfl⟩

end Calls

/-! ## The invariant -/

/-- What holds between the steps of a spared run. -/
structure Fencing (w : System Update) : Prop where
  /-- No fault of a later generation was accepted. -/
  faults : ∀ generation ∈ w.faults, generation ≤ w.gateway.generation
  /-- The gateway is `READY` with what this promises, or about to be `DISCONNECTED`. -/
  ready : w.gateway.state = .ready →
    w.gateway.closing = true ∧ 0 < w.shutdowns ∨
      w.gateway.active = true ∧ w.gateway.closing = false ∧
        (∃ ws, w.gateway.ws = some ws ∧ ws.generation = w.gateway.generation) ∧
        w.gateway.generation ∉ w.faults
  /-- It is not `READY` during a call. -/
  beginning : w.call = some .beginning → w.gateway.state ≠ .ready
  running : ∀ kind generation stage, w.call = some (.running kind generation stage) →
    w.gateway.state ≠ .ready ∧
      (w.gateway.generation ∈ w.faults → w.gateway.active = false) ∧
      ∀ ws, stage.ws? = some ws → ws.generation = generation

theorem fencing_start : Fencing ({} : System Update) where
  faults := nofun
  ready := nofun
  beginning := nofun
  running := nofun

section Steps

variable {venue : String} {replies : Replies} {w w' : System Update}

theorem Fencing.readySafe (h : Fencing w) : ReadySafe w := by
  intro hnone hready
  rcases h.ready hready with ⟨-, hsome⟩ | hsafe
  · omega
  · exact hsafe

/-- A gateway that closes is `READY` only while a shutdown is underway. -/
theorem Fencing.shutdowns_pos (h : Fencing w) (hclosing : w.gateway.closing = true)
    (hready : w.gateway.state = .ready) : 0 < w.shutdowns := by
  rcases h.ready hready with ⟨-, hsome⟩ | ⟨-, hopen, -⟩
  · exact hsome
  · rw [hclosing] at hopen
    cases hopen

/-- What a step keeps. -/
structure Keeps (w w' : System Update) : Prop where
  fencing : Fencing w'
  closes : ClosesForGood w w'

theorem keeps_refl (h : Fencing w) : Keeps w w :=
  ⟨h, fun hclosing => ⟨hclosing, notReadied_refl⟩⟩

theorem keeps_proceeds {kind : Kind} {generation : ℕ} {stage : Stage} (h : Fencing w)
    (hcall : w.call = some (.running kind generation stage))
    (hproceeds : Proceeds w kind generation w') : Keeps w w' := by
  obtain ⟨⟨hclosing, hgeneration, hactive, hstate, hsets⟩, hfaults, hshutdowns, hnext⟩ :=
    hproceeds
  obtain ⟨hquiet, hfresh, -⟩ := h.running _ _ _ hcall
  have hquiet := hstate hquiet
  refine ⟨⟨?_, fun hready => absurd hready hquiet, fun _ => hquiet, ?_⟩, fun hclosed => ?_⟩
  · rw [hfaults, hgeneration]
    exact h.faults
  · intro kind' generation' stage' hcall'
    obtain ⟨stage'', heq, hws⟩ := hnext _ hcall'
    cases heq
    refine ⟨hquiet, fun hfault => ?_, hws⟩
    rw [hfaults, hgeneration] at hfault
    exact Bool.eq_false_iff.mpr fun hactive' =>
      Bool.eq_false_iff.mp (hfresh hfault) (hactive hactive')
  · exact ⟨hclosing.trans hclosed, hsets⟩

theorem keeps_commits {kind : Kind} {generation : ℕ} {ws : WebSocket} {gateway : Gateway Update}
    (h : Fencing w) (hcall : w.call = some (.running kind generation (.committing ws)))
    (hcommits : Commits w.gateway generation ws gateway) :
    Keeps w { w with gateway, call := none } := by
  obtain ⟨howns, events, rfl⟩ := hcommits
  obtain ⟨hopen, hactive, hgeneration, hws⟩ := ownsLifecycle_some.mp howns
  obtain ⟨-, hfresh, hbuilt⟩ := h.running _ _ _ hcall
  have hfault : w.gateway.generation ∉ w.faults := by
    intro hfault
    rw [hfresh hfault] at hactive
    cases hactive
  refine ⟨⟨h.faults, fun _ => .inr ⟨hactive, hopen, ⟨ws, hws, ?_⟩, hfault⟩, nofun, nofun⟩, ?_⟩
  · exact (hbuilt ws rfl).trans hgeneration.symm
  · intro hclosing
    rw [hopen] at hclosing
    cases hclosing

/-- A section that begins a generation, of which no fault was accepted yet. -/
theorem keeps_begins {answer : Option (Option ℕ)} {gateway : Gateway Update} {next : Option Call}
    (h : Fencing w) (hopen : w.gateway.closing = false)
    (hbegins : Begins w.gateway answer gateway)
    (hready : w.gateway.state = .ready → gateway.generation = w.gateway.generation)
    (hnext : ∀ call, next = some call → ∃ kind stage,
      answer = some (some gateway.generation) ∧ call = .running kind gateway.generation stage ∧
        stage.ws? = none) :
    Keeps w { w with gateway, call := next } := by
  obtain ⟨⟨keepAlive, generation, rfl⟩, hbegun⟩ := hbegins
  have hle : w.gateway.generation ≤ generation := by
    rcases hbegun with ⟨hsame, -⟩ | ⟨hnew, -⟩
    · exact hsame.ge
    · exact (Nat.le_succ _).trans hnew.ge
  refine ⟨⟨fun _ hfault => (h.faults _ hfault).trans hle, fun hstate => ?_, fun hcall => ?_, ?_⟩,
    ?_⟩
  · rcases h.ready hstate with ⟨hclosing, -⟩ | ⟨-, -, hws, hfault⟩
    · rw [hopen] at hclosing
      cases hclosing
    · have hsame : generation = w.gateway.generation := hready hstate
      exact .inr ⟨rfl, hopen, by rwa [hsame], by rwa [hsame]⟩
  · obtain ⟨_, _, -, heq, -⟩ := hnext _ hcall
    cases heq
  · intro kind' generation' stage' hcall
    obtain ⟨kind, stage, hanswer, heq, hws⟩ := hnext _ hcall
    cases heq
    rcases hbegun with ⟨-, hnone⟩ | ⟨hnew, -⟩
    · rw [hnone] at hanswer
      cases hanswer
    refine ⟨fun hstate => ?_, fun hfault => ?_, fun ws hsome => ?_⟩
    · have hsame : generation = w.gateway.generation := hready hstate
      dsimp only at hnew
      omega
    · have := h.faults _ hfault
      dsimp only at hnew this
      omega
    · rw [hws] at hsome
      cases hsome
  · intro hclosing
    rw [hopen] at hclosing
    cases hclosing

theorem keeps_recover {context : Option RecoveryContext} (h : Fencing w)
    (hspared : Step.Spared w (.recover context replies)) :
    Keeps w (w.recover replies context) := by
  have hends : Ends (recoverBegin replies) w.gateway _ := ends_recoverBegin
  unfold System.recover System.run
  rcases heq : recoverBegin replies w.gateway with ⟨answer, gateway⟩
  rcases hends.of_eq heq with ⟨hsame, rfl⟩ | ⟨hopen, hbegins, hnew⟩
  · have hsame : gateway = w.gateway := hsame
    subst hsame
    exact ⟨⟨h.faults, h.ready, nofun, nofun⟩, fun hclosing => ⟨hclosing, notReadied_refl⟩⟩
  · have hready : w.gateway.state = .ready → gateway.generation = w.gateway.generation := by
      intro hready
      rcases hbegins.begun with ⟨hsame, -⟩ | ⟨hbegun, -⟩
      · exact hsame
      obtain ⟨hsymbols, hinvalidated, hnotRaised⟩ := hnew hbegun
      rcases hspared hready with hclosing | hnone | hraised | hraised
      · rw [hopen] at hclosing
        cases hclosing
      · exact absurd hnone hsymbols
      · exact absurd hinvalidated hraised
      · exact absurd hraised hnotRaised
    rcases answer with _ | _ | generation
    · exact keeps_begins h hopen hbegins hready nofun
    · exact keeps_begins h hopen hbegins hready nofun
    refine keeps_begins h hopen hbegins hready ?_
    rintro _ ⟨⟩
    rcases hbegins.begun with ⟨-, hnone⟩ | ⟨-, hnone | hsome⟩
    · cases hnone
    · cases hnone
    · cases hsome
      exact ⟨_, _, rfl, rfl, rfl⟩

theorem keeps_announcing {symbols : List String} (h : Fencing w) :
    Keeps w (w.advance venue replies (.announcing symbols)) := by
  have hends : Ends (setState venue replies .connecting) w.gateway _ := ends_setState
  simp only [System.advance]
  rcases heq : setState venue replies .connecting w.gateway with ⟨_ | _, gateway⟩
  · obtain ⟨-, events, hgateway⟩ := hends.of_eq heq
    subst hgateway
    exact ⟨⟨h.faults, nofun, nofun, nofun⟩, fun hclosing =>
      ⟨hclosing, [.connecting], rfl, by simp⟩⟩
  · obtain ⟨-, events, hgateway⟩ := hends.of_eq heq
    subst hgateway
    exact ⟨⟨h.faults, nofun, fun _ => nofun, nofun⟩,
      fun hclosing => ⟨hclosing, [.connecting], rfl, by simp⟩⟩

theorem keeps_beginning (h : Fencing w) (hcall : w.call = some .beginning) :
    Keeps w (w.advance venue replies .beginning) := by
  have hends : Ends (connectBegin replies) w.gateway _ := ends_connectBegin
  simp only [System.advance, System.run]
  rcases heq : connectBegin replies w.gateway with ⟨answer, gateway⟩
  rcases hends.of_eq heq with ⟨hsame, rfl⟩ | ⟨hopen, hbegins⟩
  · have hsame : gateway = w.gateway := hsame
    subst hsame
    exact ⟨⟨h.faults, h.ready, nofun, nofun⟩, fun hclosing => ⟨hclosing, notReadied_refl⟩⟩
  · have hready : w.gateway.state = .ready → gateway.generation = w.gateway.generation :=
      fun hready => absurd hready (h.beginning hcall)
    rcases answer with _ | _ | generation
    · exact keeps_begins h hopen hbegins hready nofun
    · exact keeps_begins h hopen hbegins hready nofun
    refine keeps_begins h hopen hbegins hready ?_
    rintro _ ⟨⟩
    rcases hbegins.begun with ⟨-, hnone⟩ | ⟨-, hnone | hsome⟩
    · cases hnone
    · cases hnone
    · cases hsome
      exact ⟨_, _, rfl, rfl, rfl⟩

theorem keeps_advance {call : Call} (h : Fencing w) (hcall : w.call = some call)
    (hspared : Step.Spared w (.advance replies)) : Keeps w (w.advance venue replies call) := by
  cases call with
  | announcing symbols => exact keeps_announcing h
  | beginning => exact keeps_beginning h hcall
  | running kind generation stage =>
    obtain ⟨-, -, hbuilt⟩ := h.running _ _ _ hcall
    by_cases hcommit : ∃ ws, stage = .committing ws
    · obtain ⟨ws, rfl⟩ := hcommit
      have hraises : ∀ context, kind = .recover context →
          ownsLifecycle w.gateway generation (some ws) = true → w.gateway.state ≠ .error →
          (replies .onLog).Returns ∧ (context.isSome = true → (replies .readContext).Returns) ∧
            (replies .emitHealth).Returns := by
        rintro context rfl
        simpa only [Step.Spared, hcall] using hspared
      rcases @advanceRunning_committing _ venue _ _ _ _ _ (hbuilt ws rfl) hraises with
        hproceeds | ⟨gateway, hcommits, heq⟩
      · exact keeps_proceeds h hcall hproceeds
      · rw [System.advance, heq]
        exact keeps_commits h hcall hcommits
    · have hcommit : ∀ ws, stage ≠ .committing ws := fun ws heq => hcommit ⟨ws, heq⟩
      exact keeps_proceeds h hcall (proceeds_advanceRunning hcommit hbuilt)

theorem keeps_fault {message : String} {generation keepAlive : Option ℕ} (h : Fencing w) :
    Keeps w (w.fault venue replies message generation keepAlive) := by
  have hends : Ends (emitWsFault venue replies message generation keepAlive) w.gateway _ :=
    ends_emitWsFault
  have haccepted : ∀ gateway, Faulted w.gateway gateway →
      Keeps w { w with gateway, faults := w.faults ++ [gateway.generation] } := by
    rintro gateway ⟨events, sets, rfl, hsets⟩
    refine ⟨⟨?_, nofun, fun _ => nofun, fun kind generation stage hcall => ?_⟩,
      fun hclosing => ⟨hclosing, sets, rfl, hsets⟩⟩
    · intro generation hfault
      rcases List.mem_append.mp hfault with hfault | hfault
      · exact h.faults _ hfault
      · exact (List.mem_singleton.mp hfault).le
    · exact ⟨nofun, fun _ => rfl, (h.running _ _ _ hcall).2.2⟩
  unfold System.fault
  rcases heq : emitWsFault venue replies message generation keepAlive w.gateway with
    ⟨answer, gateway⟩
  rcases hends.of_eq heq with ⟨rfl, hsame⟩ | ⟨hanswer, -, -, hfaulted⟩
  · have hsame : gateway = w.gateway := hsame
    subst hsame
    exact keeps_refl h
  · rcases answer with _ | _ | _
    · exact haccepted gateway hfaulted
    · exact absurd rfl hanswer
    · exact haccepted gateway hfaulted

/-- An event is put. -/
theorem keeps_events {events : List (Event Update)} {errors : List (Option ℕ × String)}
    (h : Fencing w) : Keeps w { w with gateway := { w.gateway with events }, errors } :=
  ⟨⟨h.faults, h.ready, h.beginning, h.running⟩, fun hclosing => ⟨hclosing, notReadied_refl⟩⟩

theorem keeps_beginShutdown (h : Fencing w) (hspared : Step.Spared w (.beginShutdown replies))
    (hstep : step venue w (.beginShutdown replies) = some w') : Keeps w w' := by
  have hends : Ends (beginShutdown replies) w.gateway _ := ends_beginShutdown
  simp only [step] at hstep
  rcases heq : beginShutdown replies w.gateway with ⟨answer, gateway⟩
  obtain ⟨⟨keepAlive, generation, hle, hgateway⟩, hanswer⟩ := hends.of_eq heq
  subst hgateway
  rw [heq] at hstep
  have hcloses : NotReadied w.gateway { w.gateway with
      closing := true, active := false, keepAliveGeneration := keepAlive, generation } :=
    notReadied_refl
  have hfaults : ∀ fault ∈ w.faults, fault ≤ generation :=
    fun _ hfault => (h.faults _ hfault).trans hle
  cases answer with
  | none =>
    cases hstep
    have hunderway : w.gateway.state = .ready → 0 < w.shutdowns := by
      intro hready
      by_contra hnone
      obtain ⟨hinvalidated, hbooks⟩ := hspared hready (by omega)
      cases hanswer hinvalidated hbooks
    exact ⟨⟨hfaults, fun hready => .inl ⟨rfl, hunderway hready⟩, h.beginning,
      fun kind _ stage hcall =>
        ⟨(h.running _ _ _ hcall).1, fun _ => rfl, (h.running _ _ _ hcall).2.2⟩⟩,
      fun _ => ⟨rfl, hcloses⟩⟩
  | some _ =>
    cases hstep
    exact ⟨⟨hfaults, fun _ => .inl ⟨rfl, Nat.succ_pos _⟩, h.beginning, fun kind _ stage hcall =>
      ⟨(h.running _ _ _ hcall).1, fun _ => rfl, (h.running _ _ _ hcall).2.2⟩⟩,
      fun _ => ⟨rfl, hcloses⟩⟩

theorem keeps_disconnect (h : Fencing w) {shutdowns : ℕ} :
    Keeps w { w with
      gateway := (setState venue replies .disconnected w.gateway).2
      shutdowns } := by
  have hends : Ends (setState venue replies .disconnected) w.gateway _ := ends_setState
  rcases heq : setState venue replies .disconnected w.gateway with ⟨answer, gateway⟩
  obtain ⟨-, events, hgateway⟩ := hends.of_eq heq
  subst hgateway
  exact ⟨⟨h.faults, nofun, fun _ => nofun, fun kind _ stage hcall =>
    ⟨nofun, (h.running _ _ _ hcall).2⟩⟩,
    fun hclosing => ⟨hclosing, [.disconnected], rfl, by simp⟩⟩

theorem keeps_release (h : Fencing w) (hclosing : w.gateway.closing = true)
    (hcall : w.call = none) : Keeps w { w with gateway := { w.gateway with ws := none } } := by
  refine ⟨⟨h.faults, fun hready => .inl ⟨hclosing, h.shutdowns_pos hclosing hready⟩,
    fun hcall' => ?_, fun _ _ _ hcall' => ?_⟩, fun hclosing => ⟨hclosing, notReadied_refl⟩⟩
  · rw [show w.call = none from hcall] at hcall'
    cases hcall'
  · rw [show w.call = none from hcall] at hcall'
    cases hcall'

/-- **The step lemma.** -/
theorem keeps_step {s : Step Update} (h : Fencing w) (hspared : s.Spared w)
    (hstep : step venue w s = some w') : Keeps w w' := by
  cases s with
  | connect symbols =>
    simp only [step] at hstep
    split at hstep
    · cases hstep
    split at hstep
    · cases hstep
      exact keeps_refl h
    · cases hstep
      exact ⟨⟨h.faults, h.ready, nofun, nofun⟩, fun hclosing => ⟨hclosing, notReadied_refl⟩⟩
  | recover context replies =>
    simp only [step] at hstep
    split at hstep
    · cases hstep
    · cases hstep
      exact keeps_recover h hspared
  | advance replies =>
    simp only [step, Option.map_eq_some_iff] at hstep
    obtain ⟨call, hcall, rfl⟩ := hstep
    exact keeps_advance h hcall hspared
  | fault message generation keepAlive replies =>
    cases hstep
    exact keeps_fault h
  | message update generation replies =>
    cases hstep
    have hends : Ends (dispatchTransportCallback replies generation update) w.gateway _ :=
      ends_dispatch
    rcases heq : dispatchTransportCallback replies generation update w.gateway with
      ⟨answer, gateway⟩
    rcases hends.of_eq heq with hsame | ⟨-, events, hgateway⟩
    · have hsame : gateway = w.gateway := hsame
      subst hsame
      exact keeps_refl h
    · subst hgateway
      exact keeps_events h
  | errorChecked text generation =>
    simp only [step, Option.some.injEq] at hstep
    subst hstep
    split
    · exact ⟨⟨h.faults, h.ready, h.beginning, h.running⟩,
        fun hclosing => ⟨hclosing, notReadied_refl⟩⟩
    · exact keeps_refl h
  | errorLogged index replies =>
    simp only [step, Option.map_eq_some_iff] at hstep
    obtain ⟨error, -, rfl⟩ := hstep
    have hends : Ends (perform (replies .onLog)
        (emit (.log ("[" ++ venue ++ "] " ++ error.2)))) w.gateway fun _ gateway =>
          ∃ events, gateway = { w.gateway with events } :=
      ends_perform (fun _ => ⟨_, rfl⟩) fun _ => ⟨⟨_, rfl⟩, ⟨_, rfl⟩⟩
    obtain ⟨events, hevents⟩ := hends
    rw [hevents]
    exact keeps_events h
  | beginShutdown replies => exact keeps_beginShutdown h hspared hstep
  | disconnect replies =>
    simp only [step] at hstep
    split at hstep
    · cases hstep
    · cases hstep
      exact keeps_disconnect h
  | release =>
    simp only [step] at hstep
    split at hstep
    · cases hstep
    next hcall =>
      split at hstep
      next hclosing =>
        cases hstep
        exact keeps_release h hclosing hcall
      next => cases hstep

/-- A fault or a message of another generation does nothing. -/
theorem fenced_step {s : Step Update} (hspared : s.Spared w) (hstep : step venue w s = some w') :
    Fenced w s w' := by
  intro hsuperseded
  cases s with
  | fault message generation keepAlive replies =>
    cases hstep
    have hends : Ends (emitWsFault venue replies message generation keepAlive) w.gateway _ :=
      ends_emitWsFault
    unfold System.fault
    rcases heq : emitWsFault venue replies message generation keepAlive w.gateway with
      ⟨answer, gateway⟩
    rcases hends.of_eq heq with ⟨rfl, hsame⟩ | ⟨-, hgeneration, hkeepAlive, -⟩
    · exact hsame
    rcases hsuperseded with ⟨expected, rfl, hne⟩ | ⟨expected, rfl, hne⟩
    · exact absurd (generationMatches_some.mp hgeneration).symm hne
    · have hsame : w.gateway.keepAliveGeneration = expected := by simpa using hkeepAlive
      exact absurd hsame.symm hne
  | message update generation replies =>
    cases hstep
    have hends : Ends (dispatchTransportCallback replies generation update) w.gateway _ :=
      ends_dispatch
    obtain ⟨expected, rfl, hne⟩ := hsuperseded
    rcases hends with hsame | ⟨hgeneration, -⟩
    · exact hsame
    · exact absurd (generationMatches_some.mp hgeneration).symm hne
  | errorChecked text generation =>
    simp only [step, Option.some.injEq] at hstep
    subst hstep
    split
    · rfl
    · rfl
  | errorLogged index replies =>
    obtain ⟨expected, text, herror, hne⟩ := hsuperseded
    simp only [Step.Spared, herror] at hspared
    exact absurd hspared hne
  | connect | recover | advance | beginShutdown | disconnect | release => exact hsuperseded.elim

end Steps

/-! ## Runs -/

/-- **`READY` is fenced.**  Whatever the interleaving of spared steps, a `READY` gateway with no
shutdown underway is active, has the websocket of its generation, and no fault of it was
accepted; superseded faults and messages do nothing; and a gateway that closes is never set
`READY`. -/
theorem ready_fenced (venue : String) {steps : List (Step Update)} {w : System Update}
    (hspared : Run.Along (step venue) (fun w s => s.Spared w) {} steps)
    (hrun : Run.exec (step venue) {} steps = some w) :
    ReadySafe w ∧ Run.Along (step venue) (fun w s => ∀ w', step venue w s = some w' →
      ReadySafe w' ∧ Fenced w s w' ∧ ClosesForGood w w') {} steps := by
  have hkeeps : ∀ (w : System Update) s w', Fencing w → s.Spared w → step venue w s = some w' →
      Fencing w' := fun w s w' h hspared hstep => (keeps_step h hspared hstep).fencing
  refine ⟨(Run.exec_invariant hkeeps fencing_start hspared hrun).readySafe, ?_⟩
  refine Run.along_of_invariant (fun w s h hspared w' hstep => ?_) hkeeps fencing_start hspared
  have hkept := keeps_step h hspared hstep
  exact ⟨hkept.fencing.readySafe, fenced_step hspared hstep, hkept.closes⟩

/-- Every call answers `True`. -/
def obliging : Replies := fun _ => .answers true

/-- A connection to one symbol, from the call to its end. -/
def connecting : List (Step ℕ) := .connect ["btcusdt"] :: List.replicate 13 (.advance obliging)

/-- A recovery after a fault, a message of the old generation and one of the new, and a shutdown.
-/
def session : List (Step ℕ) :=
  connecting ++ [.fault "WS_TRANSPORT_DROP" (some 1) none obliging, .recover none obliging] ++
    List.replicate 10 (.advance obliging) ++
    [.message 0 (some 1) obliging, .message 1 (some 2) obliging,
      .errorChecked "[WS] error" (some 2), .errorLogged 0 obliging,
      .beginShutdown obliging, .disconnect obliging, .release]

/-- The session is spared, so that the theorem applies to it; the gateway was `READY` twice. -/
theorem ready_fenced_session : ∃ w, Run.exec (step "BINANCE") {} session = some w ∧
    w.gateway.stateSets =
      [.connecting, .ready, .error, .connecting, .ready, .disconnected] ∧
    ReadySafe w ∧ Run.Along (step "BINANCE") (fun w s => ∀ w', step "BINANCE" w s = some w' →
      ReadySafe w' ∧ Fenced w s w' ∧ ClosesForGood w w') {} session := by
  have hspared : Run.Along (step "BINANCE") (fun w s => s.Spared w) {} session := by
    decide +kernel
  obtain ⟨w, hw, hsets⟩ : ∃ w, Run.exec (step "BINANCE") {} session = some w ∧
      w.gateway.stateSets =
        [.connecting, .ready, .error, .connecting, .ready, .disconnected] := ⟨_, rfl, rfl⟩
  exact ⟨w, hw, hsets, ready_fenced "BINANCE" hspared hw⟩

/-- A recovery that begins while the gateway is `READY` fences off its websocket. -/
theorem recover_while_ready : ∃ w,
    Run.exec (step "BINANCE") {} (connecting ++ [.recover none obliging]) = some w ∧
      ¬ReadySafe w := by
  obtain ⟨w, hw, hnone, hready, hws⟩ : ∃ w,
      Run.exec (step "BINANCE") {} (connecting ++ [.recover none obliging]) = some w ∧
      w.shutdowns = 0 ∧ w.gateway.state = .ready ∧
      w.gateway.ws.map (·.generation) ≠ some w.gateway.generation :=
    ⟨_, rfl, rfl, rfl, by decide⟩
  refine ⟨w, hw, fun hsafe => ?_⟩
  obtain ⟨-, -, ⟨ws, hsome, hgeneration⟩, -⟩ := hsafe hnone hready
  rw [hsome] at hws
  exact hws (congrArg some hgeneration)

end ChronosHFT.Transport
