import ChronosHFT.Lib.Streak
import ChronosHFT.Oms.ExchangeSnapshot

/-!
# The verified cancel of an account

`cancel_all_account_orders_verified` of `oms/cancellation_manager.py`.  The loop asks the venue
for all open orders; the first answer, and every answer that is not empty, is followed by a
sweep, which cancels every symbol that is known; and enough empty answers after it, with no order
on its way out, prove the account empty.

Everything an iteration meets is its `Iteration`: the answer of the query, what others have
taught the OMS in the meantime, what becomes of the cancels, and the order sends in flight.  The
iterations are those that begin before the deadline.  An answer that is `None` is no list, and is
refused by the normalizer like every other malformed one.

`cancel_verified` is what a true result means, and `restarts` what the counter counts.
-/

namespace ChronosHFT.Oms.CancelVerification

open List

/-! ## The loop -/

/-- What becomes of the cancel of a symbol. -/
inductive CancelAnswer
  /-- The audit raises before the cancel is sent. -/
  | auditRaises
  | acknowledged
  | unacknowledged
  /-- The cancel is sent, and what is done about its outcome raises. -/
  | raises
deriving DecidableEq, Repr

/-- What one iteration meets. -/
structure Iteration where
  openOrders : QueryAnswer (RawList RawOrder)
  /-- The type and the text of the exception of the query. -/
  queryError : String := ""
  /-- The symbols that others have added to the known ones. -/
  learned : List String := []
  configSymbols : List String := []
  activeSymbols : List String := []
  guardSymbols : List String := []
  cancel : String → CancelAnswer := fun _ => .acknowledged
  orderSendsInflight : ℤ := 0
  shutdownRequested : Bool := true
  /-- The audit of a verified account raises. -/
  auditRaises : Bool := false

/-- `str(symbol or "").upper()` of a symbol that is not blank. -/
def upperSymbol (symbol : String) : Option String :=
  if Text.strip symbol = "" then none else some symbol.toUpper

/-- `_normalize_remote_open_orders` of the answer, or what is raised. -/
def Iteration.remoteOrders (i : Iteration) : Except String (List NormalizedOrder) :=
  match i.openOrders with
  | .raises => .error i.queryError
  | .answers none => .error "ValueError:remote open-orders snapshot must be a list"
  | .answers (some orders) => (normalizeOpenOrders orders).mapError ("ValueError:" ++ ·)

/-- The symbols of the account that the OMS knows of besides `known`. -/
def Iteration.symbols (i : Iteration) (remote : List NormalizedOrder) : List String :=
  i.learned ++ (i.configSymbols ++ i.activeSymbols ++ i.guardSymbols).filterMap upperSymbol ++
    remote.map NormalizedOrder.symbol

/-- `_account_cancel_symbols`. -/
def accountCancelSymbols (known : List String) (i : Iteration) (remote : List NormalizedOrder) :
    List String :=
  (known ++ i.symbols remote).dedup.insertionSort (· ≤ ·)

/-- What a sweep has done: the cancels that were sent, and whether none of them raised. -/
structure Sweep where
  issued : List String := []
  lastError : String
  completed : Bool := true
deriving DecidableEq, Repr

/-- The cancels of a sweep, one after the other. -/
def sweep (cancel : String → CancelAnswer) (lastError : String) : List String → Sweep
  | [] => { lastError := lastError }
  | symbol :: rest =>
    match cancel symbol with
    | .auditRaises => { lastError := lastError, completed := false }
    | .raises => { issued := [symbol], lastError := lastError, completed := false }
    | .acknowledged =>
      let others := sweep cancel lastError rest
      { others with issued := symbol :: others.issued }
    | .unacknowledged =>
      let others := sweep cancel ("cancel_unverified:" ++ symbol) rest
      { others with issued := symbol :: others.issued }

/-- What an iteration turned out to be. -/
inductive Kind
  /-- The query failed, or its answer is malformed. -/
  | failed
  | sweep
  /-- An empty answer while an order was on its way out. -/
  | inflight
  | quiet
deriving DecidableEq, Repr

/-- The record of an iteration; nothing in the loop reads it. -/
structure Turn where
  kind : Kind
  seen : Iteration
  /-- The symbols of the account that were known. -/
  known : List String
  issued : List String

/-- The variables of the loop. -/
structure Loop where
  known : List String
  emptySnapshots : ℕ := 0
  cancelSweepCompleted : Bool := false
  lastError : String := ""
  shutdownCancelVerified : Bool
  log : List Turn := []

/-- How an iteration ends. -/
inductive Ending
  | again (s : Loop)
  | verified (s : Loop)
  | raised (s : Loop)

/-- One iteration. -/
def Loop.turn (required : ℕ) (s : Loop) (i : Iteration) : Ending :=
  match i.remoteOrders with
  | .error error =>
    .again { s with
      known := s.known ++ i.learned
      lastError := "open_orders_query:" ++ error
      emptySnapshots := 0
      log := s.log ++ [⟨.failed, i, s.known ++ i.learned, []⟩] }
  | .ok remote =>
    let targets := accountCancelSymbols s.known i remote
    if remote ≠ [] ∨ s.cancelSweepCompleted = false then
      let swept := sweep i.cancel s.lastError targets
      let s := { s with
        known := targets
        lastError := swept.lastError
        log := s.log ++ [⟨.sweep, i, targets, swept.issued⟩] }
      if swept.completed then .again { s with cancelSweepCompleted := true, emptySnapshots := 0 }
      else .raised s
    else if i.orderSendsInflight = 0 then
      let s := { s with
        known := targets
        emptySnapshots := s.emptySnapshots + 1
        log := s.log ++ [⟨.quiet, i, targets, []⟩] }
      if required ≤ s.emptySnapshots then
        let s := { s with shutdownCancelVerified := s.shutdownCancelVerified ||
                            i.shutdownRequested
                            }
        if i.auditRaises then .raised s else .verified s
      else .again s
    else
      .again { s with
        known := targets
        lastError := "outbound_order_send_reappeared"
        emptySnapshots := 0
        log := s.log ++ [⟨.inflight, i, targets, []⟩] }

/-- The iterations until one of them ends the loop. -/
def Loop.run (required : ℕ) (s : Loop) : List Iteration → Ending
  | [] => .again s
  | i :: rest =>
    match s.turn required i with
    | .again s => s.run required rest
    | ending => ending

/-! ## The call -/

/-- `max(2, int(...))` of the argument or the setting. -/
def requiredEmptySnapshots (argument : Option ℤ) (configured : ℤ) : ℕ :=
  (max 2 (argument.getD configured)).toNat

/-- `_wait_for_outbound_order_sends`: the order sends in flight and the submits that settle, at
every reading before the drain times out. -/
def waitForOutboundOrderSends (readings : List (ℤ × ℤ)) : Bool :=
  readings.any fun reading => decide (reading.1 ≤ 0 ∧ reading.2 ≤ 0)

/-- What a call of `cancel_all_account_orders_verified` meets. -/
structure Call where
  queryCallable : Bool := true
  requiredEmptySnapshots : Option ℤ := none
  outbound : List (ℤ × ℤ)
  iterations : List Iteration

/-- How a call ends. -/
inductive Answer
  | returns (verified : Bool) (reason : String)
  | raises
deriving DecidableEq, Repr

/-- `cancel_all_account_orders_verified` of an OMS that knows some symbols: the loop at its end
and the answer. -/
def cancelAllAccountOrdersVerified (configured : ℤ) (known : List String) (verified : Bool)
    (c : Call) :
    Loop × Answer :=
  let start : Loop := { known := known, shutdownCancelVerified := verified }
  if c.queryCallable = false then (start, .returns false "open_orders_query_unavailable")
  else if waitForOutboundOrderSends c.outbound = false then
    (start, .returns false "outbound_order_sends_not_drained")
  else
    match start.run (requiredEmptySnapshots c.requiredEmptySnapshots configured)
      c.iterations with
    | .again s => (s, .returns false (if s.lastError = "" then "verification_timeout"
      else s.lastError))
    | .verified s => (s, .returns true "")
    | .raised s => (s, .raises)

/-! ## What an iteration does -/

section Turns

variable {required : ℕ} {s s' : Loop} {i : Iteration}

/-- The iteration has an empty answer and sees no order on its way out. -/
def Iteration.Quiet (i : Iteration) : Prop := i.remoteOrders = .ok [] ∧ i.orderSendsInflight = 0

/-- A sweep that does not raise sends every cancel. -/
theorem sweep_completed {cancel : String → CancelAnswer} {lastError : String}
    {targets : List String}
    (h : (sweep cancel lastError targets).completed = true) :
    (sweep cancel lastError targets).issued = targets := by
  induction targets generalizing lastError with
  | nil => rfl
  | cons symbol rest ih =>
    unfold sweep at h ⊢
    cases hcancel : cancel symbol with
    | auditRaises =>
      rw [hcancel] at h
      cases h
    | raises =>
      rw [hcancel] at h
      cases h
    | acknowledged =>
      rw [hcancel] at h
      exact congrArg (symbol :: ·) (ih h)
    | unacknowledged =>
      rw [hcancel] at h
      exact congrArg (symbol :: ·) (ih h)

/-- A symbol that the OMS knew at the start, or that some of these iterations have brought up. -/
def Known (start : List String) (seen : List Iteration) (symbol : String) : Prop :=
  symbol ∈ start ∨ ∃ i ∈ seen, symbol ∈ i.learned ∨
    ∃ remote, i.remoteOrders = .ok remote ∧ symbol ∈ i.symbols remote

/-- **What the log of a loop says.**  A turn knows every symbol that was brought up so far; the
turns after the last sweep are not sweeps, and that sweep has sent a cancel for every symbol it
knew; and the counter counts the quiet turns at the end. -/
structure Traced (start : List String) (s : Loop) : Prop where
  known : ∀ symbol, Known start (s.log.map Turn.seen) symbol → symbol ∈ s.known
  turns : ∀ before turn after, s.log = before ++ turn :: after → ∀ symbol,
    Known start ((before ++ [turn]).map Turn.seen) symbol → symbol ∈ turn.known
  count : s.emptySnapshots = trailing .quiet (s.log.map Turn.kind)
  quiet : ∀ turn ∈ s.log, turn.kind = .quiet → turn.seen.Quiet
  swept : s.cancelSweepCompleted = true → ∃ before turn after, s.log = before ++ turn :: after ∧
    turn.kind = .sweep ∧ turn.issued = turn.known ∧ ∀ later ∈ after, later.kind ≠ .sweep

/-- **An account that is verified.**  A sweep has sent a cancel for every symbol that was known
then; no sweep comes after it; and the last turns, as many as are required, are quiet. -/
def Verified (start : List String) (required : ℕ) (log : List Turn) : Prop :=
  ∃ before turn between recent, log = before ++ turn :: (between ++ recent) ∧
    turn.kind = .sweep ∧
    (∀ symbol, Known start ((before ++ [turn]).map Turn.seen) symbol → symbol ∈ turn.issued) ∧
    (∀ later ∈ between ++ recent, later.kind ≠ .sweep) ∧
    recent.length = required ∧ ∀ last ∈ recent, last.seen.Quiet

theorem mem_accountCancelSymbols {known : List String} {remote : List NormalizedOrder}
    {symbol : String} :
    symbol ∈ accountCancelSymbols known i remote ↔
    symbol ∈ known ∨ symbol ∈ i.symbols remote := by
  unfold accountCancelSymbols
  rw [mem_insertionSort, mem_dedup, mem_append]

variable {start : List String}

/-- What is known after one more iteration. -/
theorem known_concat {seen : List Iteration} {symbol : String} :
    Known start (seen ++ [i]) symbol ↔ Known start seen symbol ∨ symbol ∈ i.learned ∨
      ∃ remote, i.remoteOrders = .ok remote ∧ symbol ∈ i.symbols remote := by
  unfold Known
  constructor
  · rintro (hstart | ⟨j, hj, hbrought⟩)
    · exact .inl (.inl hstart)
    rcases mem_append.mp hj with hold | hnew
    · exact .inl (.inr ⟨j, hold, hbrought⟩)
    · rw [mem_singleton.mp hnew] at hbrought
      exact .inr hbrought
  · rintro ((hstart | ⟨j, hj, hbrought⟩) | hbrought)
    · exact .inl hstart
    · exact .inr ⟨j, mem_append_left _ hj, hbrought⟩
    · exact .inr ⟨i, mem_append_right _ (mem_singleton_self i), hbrought⟩

/-- A list that is cut before one of its elements, and has one more at its end. -/
theorem concat_eq_append_cons {α : Type*} {xs before after : List α} {x y : α}
    (h : xs ++ [x] = before ++ y :: after) :
    (before = xs ∧ y = x ∧ after = []) ∨ ∃ rest, after = rest ++ [x] ∧
    xs = before ++ y :: rest := by
  induction after using List.reverseRecOn with
  | nil =>
    obtain ⟨hxs, hx⟩ := append_inj' h rfl
    exact .inl ⟨hxs.symm, (singleton_inj.mp hx).symm, rfl⟩
  | append_singleton rest z _ =>
    rw [← cons_append, ← append_assoc] at h
    obtain ⟨hxs, hx⟩ := append_inj' h rfl
    rw [← singleton_inj.mp hx]
    exact .inr ⟨rest, rfl, hxs⟩

/-- **One more turn**, whatever it is. -/
theorem Traced.concat (h : Traced start s) {t : Turn}
    (hlog : s'.log = s.log ++ [t]) (hknown : s'.known = t.known)
    (hbrought : ∀ symbol, symbol ∈ s.known ∨ symbol ∈ t.seen.learned ∨
      (∃ remote, t.seen.remoteOrders = .ok remote ∧ symbol ∈ t.seen.symbols remote) →
      symbol ∈ t.known)
    (hcount : s'.emptySnapshots = if t.kind = .quiet then s.emptySnapshots + 1 else 0)
    (hquiet : t.kind = .quiet → t.seen.Quiet) (hissued : t.kind = .sweep → t.issued = t.known)
    (hcompleted : s'.cancelSweepCompleted = true →
      t.kind = .sweep ∨ s.cancelSweepCompleted = true) :
    Traced start s' := by
  have hall : ∀ symbol, Known start ((s.log ++ [t]).map Turn.seen) symbol →
      symbol ∈ t.known := by
    intro symbol hsymbol
    rw [map_append, map_singleton, known_concat] at hsymbol
    exact hbrought symbol (hsymbol.imp_left (h.known symbol))
  refine ⟨?_, fun before turn after hcut => ?_, ?_, fun turn hturn => ?_, fun hswept => ?_⟩
  · rw [hlog, hknown]
    exact hall
  · rw [hlog] at hcut
    rcases concat_eq_append_cons hcut with ⟨rfl, rfl, -⟩ | ⟨rest, -, hold⟩
    · exact hall
    · exact h.turns before turn rest hold
  · rw [hcount, hlog, map_append, map_singleton, trailing_concat, h.count]
  · rw [hlog] at hturn
    rcases mem_append.mp hturn with hold | hnew
    · exact h.quiet turn hold
    · rw [mem_singleton.mp hnew]
      exact hquiet
  · rw [hlog]
    by_cases hsweep : t.kind = .sweep
    · exact ⟨s.log, t, [], rfl, hsweep, hissued hsweep, nofun⟩
    obtain ⟨before, turn, after, hcut, hkind, hsent, hlater⟩ :=
      h.swept ((hcompleted hswept).resolve_left hsweep)
    refine ⟨before, turn, after ++ [t], ?_, hkind, hsent, fun later hmem => ?_⟩
    · rw [hcut, append_assoc, cons_append]
    rcases mem_append.mp hmem with hold | hnew
    · exact hlater later hold
    · rw [mem_singleton.mp hnew]
      exact hsweep

/-- What comes after another value bounds how long the end of a sequence is of one kind. -/
theorem trailing_le_length {α : Type} [DecidableEq α] {x y : α} (hne : y ≠ x)
    (before after : List α) :
    trailing x (before ++ y :: after) ≤ after.length := by
  induction after using List.reverseRecOn with
  | nil => rw [trailing_concat, if_neg hne, length_nil]
  | append_singleton rest z ih =>
    rw [← cons_append, ← append_assoc, trailing_concat, length_append,
      length_singleton]
    split
    · exact Nat.succ_le_succ ih
    · exact Nat.zero_le _

/-- **Enough quiet turns after a sweep** verify the account. -/
theorem Traced.verified (h : Traced start s)
    (hswept : s.cancelSweepCompleted = true) (henough : required ≤ s.emptySnapshots) :
    Verified start required s.log := by
  obtain ⟨before, turn, after, hcut, hkind, hsent, hlater⟩ := h.swept hswept
  rw [h.count] at henough
  have hfits : required ≤ after.length := by
    refine henough.trans ?_
    rw [hcut, map_append, map_cons]
    refine (trailing_le_length ?_ _ _).trans (length_map _).le
    rw [hkind]
    decide
  have hsplit : after.take (after.length - required) ++ after.drop (after.length - required) =
      after :=
    take_append_drop _ _
  have hlength : (after.drop (after.length - required)).length = required := by
    rw [length_drop]
    omega
  refine ⟨before, turn, after.take (after.length - required),
    after.drop (after.length - required),
    ?_,
    hkind, ?_, ?_, hlength, ?_⟩
  · rw [hsplit]
    exact hcut
  · rw [hsent]
    exact h.turns before turn after hcut
  · rw [hsplit]
    exact hlater
  intro last hlast
  have hrecent : (after.drop (after.length - required)).map Turn.kind =
      List.replicate required .quiet := by
    have hquiet := (le_trailing_iff _ _ _).mp henough
    have hsuffix : (after.drop (after.length - required)).map Turn.kind <:+ s.log.map
        Turn.kind := by
      rw [hcut]
      refine List.IsSuffix.map _ ((drop_suffix _ after).trans ?_)
      exact (suffix_cons turn after).trans (suffix_append before _)
    have hsame : ((after.drop (after.length - required)).map Turn.kind).length =
        (List.replicate required Kind.quiet).length := by
      rw [length_map, hlength, length_replicate]
    exact (suffix_of_suffix_length_le hsuffix hquiet hsame.le).eq_of_length hsame
  have hmem : last ∈ s.log := by
    rw [hcut, ← hsplit]
    exact mem_append_right _ (mem_cons_of_mem _ (mem_append_right _ hlast))
  refine h.quiet last hmem ?_
  exact eq_of_mem_replicate (hrecent ▸ mem_map_of_mem hlast)

/-- The loop at the end of an iteration. -/
def Ending.loop : Ending → Loop
  | .again s | .verified s | .raised s => s

/-- **One iteration** keeps the log, or ends the loop with a verified account or an exception. -/
theorem Traced.turn (h : Traced start s) (required : ℕ) (i : Iteration) :
    (s.turn required i).loop.log.map Turn.seen = s.log.map Turn.seen ++ [i] ∧
      match s.turn required i with
      | .again s' => Traced start s' ∧ s'.shutdownCancelVerified = s.shutdownCancelVerified
      | .verified s' => Verified start required s'.log
      | .raised s' => s'.shutdownCancelVerified = s.shutdownCancelVerified ∨
          Verified start required s'.log := by
  unfold Loop.turn
  cases hremote : i.remoteOrders with
  | error error =>
    refine ⟨map_append, h.concat rfl rfl (fun symbol hsymbol => ?_) rfl nofun nofun .inr, rfl⟩
    rcases hsymbol with hknown | hlearned | ⟨remote, hok, -⟩
    · exact mem_append_left _ hknown
    · exact mem_append_right _ hlearned
    · rw [hremote] at hok
      cases hok
  | ok remote =>
    dsimp only
    have hbrought : ∀ symbol, symbol ∈ s.known ∨ symbol ∈ i.learned ∨
        (∃ remote, i.remoteOrders = .ok remote ∧ symbol ∈ i.symbols remote) →
        symbol ∈ accountCancelSymbols s.known i remote := by
      rintro symbol (hknown | hlearned | ⟨other, hok, hmem⟩)
      · exact mem_accountCancelSymbols.mpr (.inl hknown)
      · exact mem_accountCancelSymbols.mpr
          (.inr (mem_append_left _ (mem_append_left _ hlearned)))
      · rw [hremote] at hok
        cases hok
        exact mem_accountCancelSymbols.mpr (.inr hmem)
    by_cases hsweep : remote ≠ [] ∨ s.cancelSweepCompleted = false
    · rw [if_pos hsweep]
      by_cases hcompleted :
          (sweep i.cancel s.lastError (accountCancelSymbols s.known i remote)).completed = true
      · rw [if_pos hcompleted]
        exact ⟨map_append, h.concat rfl rfl hbrought rfl nofun
          (fun _ => sweep_completed hcompleted) fun _ => .inl rfl, rfl⟩
      · rw [if_neg hcompleted]
        exact ⟨map_append, .inl rfl⟩
    rw [if_neg hsweep]
    obtain ⟨hempty, hswept⟩ := not_or.mp hsweep
    rw [not_not.mp hempty] at hremote
    by_cases hinflight : i.orderSendsInflight = 0
    · rw [if_pos hinflight]
      have htraced : Traced start { s with
          known := accountCancelSymbols s.known i remote
          emptySnapshots := s.emptySnapshots + 1
          log := s.log ++ [⟨.quiet, i, accountCancelSymbols s.known i remote, []⟩] } :=
        h.concat rfl rfl hbrought rfl (fun _ => ⟨hremote, hinflight⟩) nofun .inr
      by_cases henough : required ≤ s.emptySnapshots + 1
      · have hverified := htraced.verified (Bool.eq_true_of_not_eq_false hswept) henough
        rw [if_pos henough]
        by_cases haudit : i.auditRaises = true
        · rw [if_pos haudit]
          exact ⟨map_append, .inr hverified⟩
        · rw [if_neg haudit]
          exact ⟨map_append, hverified⟩
      · rw [if_neg henough]
        exact ⟨map_append, htraced, rfl⟩
    · rw [if_neg hinflight]
      exact ⟨map_append, h.concat rfl rfl hbrought rfl nofun nofun .inr, rfl⟩

/-- **The iterations until the loop ends.** -/
theorem Traced.run (required : ℕ) (iterations : List Iteration) {s : Loop} (h : Traced start s) :
    ((s.run required iterations).loop.log.map Turn.seen) <+: s.log.map Turn.seen ++ iterations ∧
      match s.run required iterations with
      | .again s' => Traced start s' ∧ s'.shutdownCancelVerified = s.shutdownCancelVerified
      | .verified s' => Verified start required s'.log
      | .raised s' => s'.shutdownCancelVerified = s.shutdownCancelVerified ∨
          Verified start required s'.log := by
  induction iterations generalizing s with
  | nil =>
    refine ⟨?_, h, rfl⟩
    rw [append_nil]
    exact prefix_refl _
  | cons i rest ih =>
    obtain ⟨hlog, hends⟩ := h.turn required i
    unfold Loop.run
    cases hturn : s.turn required i with
    | again next =>
      rw [hturn] at hlog hends
      obtain ⟨hseen, hlater⟩ := ih hends.1
      refine ⟨?_, ?_⟩
      · have hnext : next.log.map Turn.seen = s.log.map Turn.seen ++ [i] := hlog
        rw [hnext, append_assoc] at hseen
        exact hseen
      · dsimp only
        cases hrun : next.run required rest with
        | again s' =>
          rw [hrun] at hlater
          exact ⟨hlater.1, hlater.2.trans hends.2⟩
        | verified s' =>
          rw [hrun] at hlater
          exact hlater
        | raised s' =>
          rw [hrun] at hlater
          exact hlater.imp_left fun h => h.trans hends.2
    | verified s' =>
      rw [hturn] at hlog hends
      refine ⟨?_, hends⟩
      have hnext : s'.log.map Turn.seen = s.log.map Turn.seen ++ [i] := hlog
      show s'.log.map Turn.seen <+: _
      rw [hnext, prefix_append_right_inj]
      exact prefix_append [i] rest
    | raised s' =>
      rw [hturn] at hlog hends
      refine ⟨?_, hends⟩
      have hnext : s'.log.map Turn.seen = s.log.map Turn.seen ++ [i] := hlog
      show s'.log.map Turn.seen <+: _
      rw [hnext, prefix_append_right_inj]
      exact prefix_append [i] rest

end Turns

/-! ## Every call -/

/-- **The verified cancel is sound**, for every sequence of answers, cancels and sends.  It
answers true, and marks the shutdown as verified, only when the outbound sends had drained and
the account is `Verified`: a cancel for every symbol known at the last sweep, and after it, at
the end of the loop, as many quiet iterations in a row as are required.  As long as the loop goes
on, the counter is the number of quiet iterations at the end, so that every other iteration
starts it again. -/
theorem cancel_verified (configured : ℤ) (known : List String) (verified : Bool) (c : Call) :
    let r := cancelAllAccountOrdersVerified configured known verified c
    let required := requiredEmptySnapshots c.requiredEmptySnapshots configured
    (((∃ reason, r.2 = .returns true reason) ∨
      (r.1.shutdownCancelVerified = true ∧ verified = false)) →
      (∃ reading ∈ c.outbound, reading.1 ≤ 0 ∧ reading.2 ≤ 0) ∧
      Verified known required r.1.log) ∧
    r.1.log.map Turn.seen <+: c.iterations ∧
    ∀ (earlier : List Iteration) (s : Loop),
      ({ known := known, shutdownCancelVerified := verified } : Loop).run required earlier =
      .again s →
        s.emptySnapshots = trailing .quiet (s.log.map Turn.kind) := by
  have hstart : Traced known { known := known, shutdownCancelVerified := verified } := by
    refine ⟨fun symbol hsymbol => ?_, fun before turn after hcut => ?_, rfl, nofun, nofun⟩
    · rcases hsymbol with hknown | ⟨i, hi, -⟩
      · exact hknown
      · cases hi
    · exact absurd (congrArg List.length hcut) (by simp)
  have hcount : ∀ (required : ℕ) (earlier : List Iteration) (s : Loop),
      ({ known := known, shutdownCancelVerified := verified } : Loop).run required earlier =
      .again s →
        s.emptySnapshots = trailing .quiet (s.log.map Turn.kind) := by
    intro required earlier s hrun
    have hends := (hstart.run required earlier).2
    rw [hrun] at hends
    exact hends.1.count
  unfold cancelAllAccountOrdersVerified
  dsimp only
  by_cases hcallable : c.queryCallable = false
  · rw [if_pos hcallable]
    refine ⟨?_, nil_prefix, hcount _⟩
    rintro (⟨reason, habsurd⟩ | ⟨hset, hunset⟩)
    · cases habsurd
    · exact absurd (hset.symm.trans hunset) (by decide)
  rw [if_neg hcallable]
  by_cases hdrained : waitForOutboundOrderSends c.outbound = false
  · rw [if_pos hdrained]
    refine ⟨?_, nil_prefix, hcount _⟩
    rintro (⟨reason, habsurd⟩ | ⟨hset, hunset⟩)
    · cases habsurd
    · exact absurd (hset.symm.trans hunset) (by decide)
  rw [if_neg hdrained]
  have hsent : ∃ reading ∈ c.outbound, reading.1 ≤ 0 ∧ reading.2 ≤ 0 := by
    obtain ⟨reading, hmem, hidle⟩ := any_eq_true.mp (Bool.eq_true_of_not_eq_false hdrained)
    exact ⟨reading, hmem, of_decide_eq_true hidle⟩
  obtain ⟨hseen, hends⟩ := hstart.run
    (requiredEmptySnapshots c.requiredEmptySnapshots configured)
    c.iterations
  cases hrun : ({ known := known, shutdownCancelVerified := verified } : Loop).run
      (requiredEmptySnapshots c.requiredEmptySnapshots configured) c.iterations with
  | again s =>
    rw [hrun] at hseen hends
    refine ⟨?_, hseen, hcount _⟩
    rintro (⟨reason, habsurd⟩ | ⟨hset, hunset⟩)
    · cases habsurd
    · exact absurd ((hset.symm.trans hends.2).trans hunset) (by decide)
  | verified s =>
    rw [hrun] at hseen hends
    exact ⟨fun _ => ⟨hsent, hends⟩, hseen, hcount _⟩
  | raised s =>
    rw [hrun] at hseen hends
    refine ⟨?_, hseen, hcount _⟩
    rintro (⟨reason, habsurd⟩ | ⟨hset, hunset⟩)
    · cases habsurd
    · rcases hends with hsame | hverified
      · exact absurd ((hset.symm.trans hsame).trans hunset) (by decide)
      · exact ⟨hsent, hverified⟩

/-- An order of a symbol nobody knew, a query that fails, and then nothing twice. -/
def sweptCall : Call where
  outbound := [(1, 0), (0, 0)]
  iterations :=
    [{ openOrders := .answers (some (some [some { symbol := "ethusdt", orderId := some "7" }]))
         },
      { openOrders := .answers (some (some [])) }, { openOrders := .raises },
      { openOrders := .answers (some (some [])) }, { openOrders := .answers (some (some [])) }]

/-- **A call that answers true**: the sweep cancels both symbols, and the failed query starts the
count again. -/
theorem cancel_verified_swept :
    let r := cancelAllAccountOrdersVerified 2 ["BTCUSDT"] false sweptCall
    r.2 = .returns true "" ∧ r.1.shutdownCancelVerified = true ∧
    r.1.log.map (fun turn => (turn.kind, turn.issued)) =
      [(.sweep, ["BTCUSDT", "ETHUSDT"]), (.quiet, []), (.failed, []), (.quiet, []),
        (.quiet, [])] ∧
    Verified ["BTCUSDT"] 2 r.1.log := by
  intro r
  have hanswer : r.2 = .returns true "" := by decide +kernel
  have hverified := ((cancel_verified 2 ["BTCUSDT"] false sweptCall).1 (.inl ⟨"", hanswer⟩)).2
  exact ⟨hanswer, by decide +kernel, by decide +kernel, hverified⟩

end ChronosHFT.Oms.CancelVerification
