import ChronosHFT.Lib.Run
import ChronosHFT.Strategy.RpiEvidence

/-!
# RPI evidence over a run

The strategy that measures RPI exposure, fed by an OMS.  The OMS moves its orders along their
state machine, books fills, and puts a trade for every fill and a snapshot whenever it likes into
the event queue; the strategy takes the queue in order, and order books at any time between.

The snapshot that acknowledges an order is put before its fills and never again, so an uncensored
sample has counted every trade up to its terminal snapshot and is the only one of its order.  A
fill that is booked after that is missing in the sample: nothing withdraws it. -/

namespace ChronosHFT.Strategy.Rpi

open List Oms

/-! ## The OMS and the event queue -/

/-- What the OMS puts into the event queue. -/
inductive Message where
  | order (snapshot : Snapshot)
  | trade (orderId tradeId : String)
deriving DecidableEq

/-- The order a message is about. -/
def Message.oid : Message → String
  | .order snapshot => snapshot.clientOid
  | .trade orderId _ => orderId

/-- The trade of an order that a message reports. -/
def Message.tradeOf (oid : String) : Message → Option String
  | .order _ => none
  | .trade orderId tradeId => if orderId = oid then some tradeId else none

/-- The distinct trades of an order among some messages. -/
def tradesOf (messages : List Message) (oid : String) : Finset String :=
  (messages.filterMap (Message.tradeOf oid)).toFinset

/-- The statuses an order has before the exchange is known to have it. -/
def unacknowledged : List OrderStatus := [.created, .submitting, .submitUnknown, .pendingAck]

/-- A message that can stand before the acknowledging snapshot of its order. -/
def Message.Early : Message → Prop
  | .order snapshot => snapshot.status ∈ unacknowledged
  | .trade _ _ => False

/-- A terminal snapshot. -/
def Message.Ends (oid : String) : Message → Prop
  | .order snapshot => snapshot.clientOid = oid ∧ snapshot.status ∈ OrderStatus.terminalStatuses
  | .trade _ _ => False

/-- The OMS, everything it has sent, and the strategy. -/
structure World where
  /-- The status of every order. -/
  statuses : Dict String OrderStatus := ∅
  /-- Every message so far, in the order sent. -/
  sent : List Message := []
  /-- How many of them the strategy has taken. -/
  taken : ℕ := 0
  strategy : State := {}

/-- What the strategy has been told. -/
def World.told (w : World) : List Message := w.sent.take w.taken

/-- What can happen. -/
inductive Action where
  /-- An order is created. -/
  | create (oid : String)
  /-- An order changes its status without a fill. -/
  | move (oid : String) (next : OrderStatus)
  /-- A fill is booked (`add_fill`), and its trade is sent. -/
  | fill (oid tradeId : String) (next : OrderStatus)
  /-- A trade is sent again. -/
  | resend (oid tradeId : String)
  /-- A snapshot of an order is sent. -/
  | publish (snapshot : Snapshot)
  /-- The strategy takes the next message. -/
  | deliver
  /-- The strategy takes an order book. -/
  | book (symbol : String) (mid : ℚ) (bookMonotonic : Option ℚ) (callbackMonotonic : ℚ)

variable (settings : Settings) (commits : ℕ → Bool)

/-- The strategy takes a message. -/
def State.take (s : State) : Message → State
  | .order snapshot => s.onOrder settings commits snapshot
  | .trade orderId tradeId => s.onTrade orderId tradeId

/-- One step of the system. -/
def step (w : World) : Action → Option World
  | .create oid =>
    if w.statuses.contains oid then none
    else some { w with statuses := w.statuses.set oid .created }
  | .move oid next =>
    match w.statuses.get? oid with
    | none => none
    | some status =>
      if next ∈ status.allowedTransitions ∧ next ≠ .partiallyFilled then
        some { w with statuses := w.statuses.set oid next }
      else none
  | .fill oid tradeId next =>
    match w.statuses.get? oid with
    | none => none
    | some status =>
      -- a fill that changes nothing about the status is booked as well
      if (next = .partiallyFilled ∨ next = .filled) ∧
          (next = status ∨ next ∈ status.allowedTransitions) ∧
          Text.strip tradeId = tradeId ∧ tradeId ≠ "" then
        some { w with
          statuses := w.statuses.set oid next, sent := w.sent ++ [.trade oid tradeId] }
      else none
  | .resend oid tradeId =>
    if tradeId ∈ tradesOf w.sent oid then
      some { w with sent := w.sent ++ [.trade oid tradeId] }
    else none
  | .publish snapshot =>
    if w.statuses.get? snapshot.clientOid = some snapshot.status then
      some { w with sent := w.sent ++ [.order snapshot] }
    else none
  | .deliver =>
    match w.sent[w.taken]? with
    | none => none
    | some message =>
      some { w with
        taken := w.taken + 1, strategy := w.strategy.take settings commits message }
  | .book symbol mid bookMonotonic callbackMonotonic =>
    some { w with
      strategy :=
        w.strategy.observeOrderbook settings symbol mid bookMonotonic callbackMonotonic }

/-- The committed samples that are not censored. -/
def State.evidence (s : State) : List Sample := s.samples.filter fun sample => !sample.censored

/-- The bins of the evidence of a symbol. -/
def State.evidenceBins (s : State) (symbol : String) : List ExposureBin :=
  (s.evidence.filter fun sample => decide (sample.symbol = symbol)).flatMap Sample.exposureBins

/-! ## Trades of messages -/

section Messages

variable {messages : List Message}

theorem tradesOf_append_order (snapshot : Snapshot) (oid : String) :
    tradesOf (messages ++ [.order snapshot]) oid = tradesOf messages oid := by
  have hnone : [Message.order snapshot].filterMap (Message.tradeOf oid) = [] := rfl
  unfold tradesOf
  rw [filterMap_append, hnone, append_nil]

theorem tradesOf_append_trade (orderId tradeId oid : String) :
    tradesOf (messages ++ [.trade orderId tradeId]) oid =
      if orderId = oid then insert tradeId (tradesOf messages oid)
        else tradesOf messages oid := by
  unfold tradesOf
  rw [filterMap_append, toFinset_append]
  by_cases heq : orderId = oid
  · rw [if_pos heq, Finset.insert_eq, Finset.union_comm]
    simp [Message.tradeOf, heq]
  · rw [if_neg heq]
    simp [Message.tradeOf, heq]

theorem mem_tradesOf {oid tradeId : String} :
    tradeId ∈ tradesOf messages oid ↔ Message.trade oid tradeId ∈ messages := by
  unfold tradesOf
  rw [mem_toFinset, mem_filterMap]
  constructor
  · rintro ⟨message, hmem, htrade⟩
    cases message with
    | order snapshot => cases htrade
    | trade orderId tradeId' =>
      unfold Message.tradeOf at htrade
      dsimp only at htrade
      split at htrade
      · next heq =>
        cases htrade
        exact heq ▸ hmem
      · cases htrade
  · intro hmem
    exact ⟨_, hmem, if_pos rfl⟩

/-- An order all of whose messages come before its acknowledgement has no trades. -/
theorem tradesOf_of_early {oid : String}
    (h : ∀ message ∈ messages, message.oid = oid → message.Early) :
    tradesOf messages oid = ∅ := by
  refine Finset.eq_empty_of_forall_notMem fun tradeId hmem => ?_
  exact h _ (mem_tradesOf.mp hmem) rfl

end Messages

/-! ## What the strategy has measured -/

/-- **The measurements after some messages.**  A quote that is clean has counted the trades of
its order and has no evidence yet; the evidence is exact, there is one piece of it for each
order, and the accumulators hold its bins. -/
structure Measured (told : List Message) (s : State) : Prop where
  fits : ∀ oid quote, s.acknowledged.get? oid = some quote → quote.Fits (tradesOf told oid)
  pending : ∀ oid quote, s.acknowledged.get? oid = some quote → quote.Clean →
    ∀ sample ∈ s.evidence, sample.clientOid ≠ oid
  ended : ∀ sample ∈ s.evidence, ∃ message ∈ told, message.Ends sample.clientOid
  exact : ∀ sample ∈ s.evidence, sample.Exact
  unique : (s.evidence.map Sample.clientOid).Nodup
  accumulated : ∀ symbol depth, ((s.accumulators.getD symbol ∅).getD depth {}).totals =
    totalsAt depth (s.evidenceBins symbol)

/-- The evidence has counted every trade of its order. -/
def Complete (told : List Message) (s : State) : Prop :=
  ∀ sample ∈ s.evidence, sample.fillCount = (tradesOf told sample.clientOid).card

instance (told : List Message) (s : State) : Decidable (Complete told s) :=
  inferInstanceAs (Decidable (∀ sample ∈ s.evidence,
    sample.fillCount = (tradesOf told sample.clientOid).card))

/-- An order with a terminal message has one that does not come before an acknowledgement. -/
theorem Message.Ends.not_early {message : Message} {oid : String} (h : message.Ends oid) :
    message.oid = oid ∧ ¬message.Early := by
  cases message with
  | trade orderId tradeId => exact h.elim
  | order snapshot =>
    refine ⟨h.1, fun hearly => ?_⟩
    have hboth : ∀ status ∈ unacknowledged, status ∉ OrderStatus.terminalStatuses := by decide
    exact hboth _ hearly h.2

namespace Measured

variable {settings : Settings} {commits : ℕ → Bool} {told : List Message} {s : State}

theorem initial : Measured [] {} := by
  refine ⟨?_, ?_, ?_, ?_, nodup_nil, fun _ _ => rfl⟩
  · intro oid quote h
    cases h
  · intro oid quote h
    cases h
  · intro sample h
    exact absurd h not_mem_nil
  · intro sample h
    exact absurd h not_mem_nil

/-- A snapshot alone changes no trades. -/
theorem told_order (h : Measured told s) (snapshot : Snapshot) :
    Measured (told ++ [.order snapshot]) s := by
  refine ⟨?_, h.pending, ?_, h.exact, h.unique, h.accumulated⟩
  · intro oid quote hget
    rw [tradesOf_append_order]
    exact h.fits oid quote hget
  · intro sample hmem
    obtain ⟨message, hin, hends⟩ := h.ended sample hmem
    exact ⟨message, mem_append_left _ hin, hends⟩

/-- Nothing but the quotes has changed, and they are as before or censored. -/
theorem of_acknowledged (h : Measured told s) {s' : State} (hsamples : s'.samples = s.samples)
    (haccumulators : s'.accumulators = s.accumulators)
    (hquotes : ∀ oid quote, s'.acknowledged.get? oid = some quote →
      quote.Fits (tradesOf told oid) ∧
        (quote.Clean → ∀ sample ∈ s.evidence, sample.clientOid ≠ oid)) : Measured told s' := by
  have hevidence : s'.evidence = s.evidence := by rw [State.evidence, hsamples]; rfl
  refine ⟨fun oid quote hget => (hquotes oid quote hget).1, ?_, ?_, ?_, ?_, ?_⟩
  · intro oid quote hget
    rw [hevidence]
    exact (hquotes oid quote hget).2
  · rw [hevidence]
    exact h.ended
  · rw [hevidence]
    exact h.exact
  · rw [hevidence]
    exact h.unique
  · intro symbol depth
    rw [haccumulators, State.evidenceBins, hevidence]
    exact h.accumulated symbol depth

theorem erase (h : Measured told s) (oid : String) :
    Measured told { s with acknowledged := s.acknowledged.erase oid } :=
  h.of_acknowledged rfl rfl fun _ _ hget =>
    ⟨h.fits _ _ (Dict.get?_of_erase hget).2, h.pending _ _ (Dict.get?_of_erase hget).2⟩

/-- **The start of a measurement**: without a reason to censor it, nothing of the order has come
before its acknowledgement. -/
theorem startExposure (h : Measured told s) (snapshot : Snapshot) {reason : String}
    (hearly : reason ≠ "" ∨
      ∀ message ∈ told, message.oid = snapshot.clientOid → message.Early) :
    Measured told (s.startExposure settings snapshot reason) := by
  unfold State.startExposure
  split
  · exact h
  cases hquote : s.newQuote settings snapshot reason with
  | none => exact h
  | some quote =>
    obtain ⟨hfits, hcensored⟩ := newQuote_spec hquote
    refine h.of_acknowledged rfl rfl fun oid quote' hget => ?_
    dsimp only at hget
    rw [Dict.get?_set] at hget
    split at hget
    swap
    · exact ⟨h.fits _ _ hget, h.pending _ _ hget⟩
    next heq =>
    cases hget
    rcases hearly with hreason | hall
    · exact ⟨Quote.fits_of_ne (hcensored hreason), fun hclean =>
        absurd hclean.1 (hcensored hreason)⟩
    rw [heq, tradesOf_of_early hall]
    refine ⟨hfits, fun _ sample hmem hsame => ?_⟩
    obtain ⟨message, hin, hends⟩ := h.ended sample hmem
    obtain ⟨hoid, hlate⟩ := hends.not_early
    exact hlate (hall message hin (hoid.trans hsame))

end Measured

/-- What a commit does to the evidence and to the accumulators. -/
theorem commit_cases (commits : ℕ → Bool) (s : State) (sample : Sample) :
    (s.commit commits sample).acknowledged = s.acknowledged ∧
      ((s.commit commits sample).evidence = s.evidence ∧
          (s.commit commits sample).accumulators = s.accumulators ∨
        sample.censored = false ∧
          (s.commit commits sample).evidence = s.evidence ++ [sample] ∧
          (s.commit commits sample).accumulators =
            s.accumulators.set sample.symbol
              (addBins (s.accumulators.getD sample.symbol ∅) sample.exposureBins)) := by
  unfold State.commit
  dsimp only
  split
  · exact ⟨rfl, Or.inl ⟨rfl, rfl⟩⟩
  split
  · next hcensored =>
    refine ⟨rfl, Or.inl ⟨?_, rfl⟩⟩
    unfold State.evidence
    dsimp only
    rw [filter_append, filter_cons_of_neg (by rw [hcensored]; decide), filter_nil,
      append_nil]
  · next hcensored =>
    have hfalse : sample.censored = false := Bool.eq_false_iff.mpr hcensored
    refine ⟨rfl, Or.inr ⟨hfalse, ?_, rfl⟩⟩
    unfold State.evidence
    dsimp only
    rw [filter_append, filter_cons_of_pos (by rw [hfalse]; rfl), filter_nil]

namespace Measured

variable {settings : Settings} {commits : ℕ → Bool} {told : List Message} {s : State}

/-- **A commit** of a sample that is exact and the first of its order. -/
theorem commit (h : Measured told s) {sample : Sample}
    (hsample : sample.censored = false → sample.Exact ∧
      (∃ message ∈ told, message.Ends sample.clientOid) ∧
      (∀ other ∈ s.evidence, other.clientOid ≠ sample.clientOid) ∧
      s.acknowledged.get? sample.clientOid = none) :
    Measured told (s.commit commits sample) := by
  obtain ⟨hacknowledged, hkept | ⟨huncensored, hevidence, haccumulators⟩⟩ :=
    commit_cases commits s sample
  · obtain ⟨hevidence, haccumulators⟩ := hkept
    refine ⟨?_, ?_, ?_, ?_, ?_, ?_⟩
    · rw [hacknowledged]
      exact h.fits
    · rw [hacknowledged, hevidence]
      exact h.pending
    · rw [hevidence]
      exact h.ended
    · rw [hevidence]
      exact h.exact
    · rw [hevidence]
      exact h.unique
    · intro symbol depth
      rw [haccumulators, State.evidenceBins, hevidence]
      exact h.accumulated symbol depth
  obtain ⟨hexact, hended, hfirst, hnone⟩ := hsample huncensored
  refine ⟨?_, ?_, ?_, ?_, ?_, ?_⟩
  · rw [hacknowledged]
    exact h.fits
  · intro oid quote hget hclean other hmem
    rw [hacknowledged] at hget
    rw [hevidence] at hmem
    rcases mem_append.mp hmem with hold | hnew
    · exact h.pending oid quote hget hclean other hold
    rw [mem_singleton.mp hnew]
    rintro rfl
    rw [hnone] at hget
    cases hget
  · rw [hevidence]
    exact forall_mem_append.mpr ⟨h.ended, forall_mem_singleton.mpr hended⟩
  · rw [hevidence]
    exact forall_mem_append.mpr ⟨h.exact, forall_mem_singleton.mpr hexact⟩
  · rw [hevidence, map_append, map_singleton, nodup_append]
    refine ⟨h.unique, nodup_singleton _, ?_⟩
    intro oid hmem other hother
    obtain ⟨old, hold, rfl⟩ := mem_map.mp hmem
    rw [mem_singleton.mp hother]
    exact hfirst old hold
  · intro symbol depth
    rw [haccumulators, State.evidenceBins, hevidence, filter_append, flatMap_append,
      totalsAt_append, Dict.getD_set]
    by_cases hsymbol : symbol = sample.symbol
    · subst hsymbol
      rw [if_pos rfl, addBins_totals hexact.bins, h.accumulated,
        filter_cons_of_pos (by simp), filter_nil, flatMap_singleton]
      rfl
    · rw [if_neg hsymbol, filter_cons_of_neg (by simpa using Ne.symm hsymbol),
        filter_nil, h.accumulated]
      exact (add_zero _).symm

/-- **The end of a measurement**: the sample is evidence only when the quote was clean. -/
theorem terminalExposure (h : Measured told s) {snapshot : Snapshot}
    (hended : ∃ message ∈ told, message.Ends snapshot.clientOid) :
    Measured told (s.terminalExposure settings commits snapshot) := by
  unfold State.terminalExposure
  cases hget : s.acknowledged.get? snapshot.clientOid with
  | some quote =>
    refine (h.erase snapshot.clientOid).commit fun huncensored => ?_
    obtain ⟨hclean, -, hexact⟩ := Quote.sample_spec (h.fits _ _ hget) huncensored
    exact ⟨hexact, hended, h.pending _ _ hget hclean, Dict.get?_erase_self _ _⟩
  | none =>
    dsimp only
    cases hquote : s.newQuote settings snapshot "missing_pending_ack_snapshot" with
    | none => exact h
    | some quote =>
      obtain ⟨hfits, hcensored⟩ := newQuote_spec hquote
      refine h.commit fun huncensored => ?_
      obtain ⟨hclean, -⟩ := Quote.sample_spec hfits huncensored
      exact absurd hclean.1 (hcensored (by decide))

/-- A quote that a later snapshot starts is censored. -/
theorem restart (h : Measured told s) (snapshot : Snapshot) :
    Measured told
      (if snapshot.status = .new ∨ snapshot.status = .partiallyFilled then
        s.startExposure settings snapshot "missing_pending_ack_snapshot" else s) := by
  split
  · exact h.startExposure snapshot (Or.inl (by decide))
  · exact h

/-- **A snapshot** that acknowledges an order comes before everything else of it. -/
theorem onOrder (h : Measured told s) (snapshot : Snapshot)
    (hack : snapshot.status = .pendingAck →
      ∀ message ∈ told, message.oid = snapshot.clientOid → message.Early) :
    Measured (told ++ [.order snapshot]) (s.onOrder settings commits snapshot) := by
  unfold State.onOrder
  split
  · next hstatus =>
    exact (h.startExposure snapshot (Or.inr (hack hstatus))).told_order snapshot
  have hstarted := @restart settings _ _ (h.told_order snapshot) snapshot
  dsimp only
  generalize (if snapshot.status = .new ∨ snapshot.status = .partiallyFilled then
    s.startExposure settings snapshot "missing_pending_ack_snapshot" else s) =
      started at hstarted ⊢
  split
  · next hterminal =>
    refine hstarted.terminalExposure ⟨_, mem_append_right _ mem_cons_self, rfl, ?_⟩
    have hsub : ∀ status ∈ [OrderStatus.filled, .cancelled, .rejected, .expired],
        status ∈ OrderStatus.terminalStatuses := by decide
    exact hsub _ hterminal
  split
  · exact hstarted.erase _
  · exact hstarted

/-- **A trade** is counted by the quote of its order. -/
theorem onTrade (h : Measured told s) {orderId tradeId : String}
    (hstrip : Text.strip tradeId = tradeId) (hne : tradeId ≠ "") :
    Measured (told ++ [.trade orderId tradeId]) (s.onTrade orderId tradeId) := by
  have hended : ∀ sample ∈ s.evidence,
      ∃ message ∈ told ++ [.trade orderId tradeId], message.Ends sample.clientOid := by
    intro sample hmem
    obtain ⟨message, hin, hends⟩ := h.ended sample hmem
    exact ⟨message, mem_append_left _ hin, hends⟩
  unfold State.onTrade
  cases hget : s.acknowledged.get? orderId with
  | none =>
    refine ⟨?_, h.pending, hended, h.exact, h.unique, h.accumulated⟩
    intro oid quote hquote
    rw [tradesOf_append_trade, if_neg]
    · exact h.fits oid quote hquote
    rintro rfl
    dsimp only at hquote
    rw [hget] at hquote
    cases hquote
  | some quote =>
    dsimp only
    rw [hstrip, if_neg hne]
    refine ⟨?_, ?_, hended, h.exact, h.unique, h.accumulated⟩
    · intro oid quote' hquote
      dsimp only at hquote
      rw [Dict.get?_set] at hquote
      rw [tradesOf_append_trade]
      split at hquote
      · next heq =>
        cases hquote
        rw [if_pos heq.symm, heq]
        exact (h.fits _ _ hget).recordFill hstrip hne
      · next hother =>
        rw [if_neg (Ne.symm hother)]
        exact h.fits _ _ hquote
    · intro oid quote' hquote hclean
      dsimp only at hquote
      rw [Dict.get?_set] at hquote
      split at hquote
      · next heq =>
        cases hquote
        rw [heq]
        exact h.pending _ _ hget hclean.recordFill
      · exact h.pending _ _ hquote hclean

/-- A change of quotes that counts no trades and cleans none. -/
theorem mapQuotes (h : Measured told s) (symbol : String) {f : Quote → Quote}
    (hfits : ∀ quote trades, quote.Fits trades → (f quote).Fits trades)
    (hclean : ∀ quote, (f quote).Clean → quote.Clean) :
    Measured told (s.mapQuotes symbol f) := by
  refine h.of_acknowledged rfl rfl fun oid quote' hget => ?_
  unfold State.mapQuotes at hget
  dsimp only at hget
  rw [Dict.get?_mapValues] at hget
  obtain ⟨quote, hquote, rfl⟩ := Option.map_eq_some_iff.mp hget
  split
  · exact ⟨hfits _ _ (h.fits _ _ hquote), fun hc => h.pending _ _ hquote (hclean _ hc)⟩
  · exact ⟨h.fits _ _ hquote, h.pending _ _ hquote⟩

/-- **A book** counts no trades. -/
theorem observeOrderbook (h : Measured told s) (symbol : String) (mid : ℚ)
    (bookMonotonic : Option ℚ) (callbackMonotonic : ℚ) :
    Measured told
      (s.observeOrderbook settings symbol mid bookMonotonic callbackMonotonic) := by
  have hcensor : ∀ reason : String, reason ≠ "" →
      Measured told (s.mapQuotes symbol fun quote => quote.markCensored reason) :=
    fun reason hreason => h.mapQuotes symbol
      (fun _ _ _ => Quote.fits_of_ne (Quote.markCensored_ne hreason))
      fun _ hclean => absurd hclean.1 (Quote.markCensored_ne hreason)
  unfold State.observeOrderbook
  cases bookMonotonic with
  | none => exact hcensor _ (by decide)
  | some book =>
    dsimp only
    split
    · exact hcensor _ (by decide)
    split
    · exact hcensor _ (by decide)
    have hobserved : Measured told (s.mapQuotes symbol fun quote =>
        { quote with
          exposure := quote.exposure.map fun e =>
            e.observeDepth settings book (depthBps settings quote.side quote.price mid) }) :=
      h.mapQuotes symbol (fun _ _ hfits => hfits.observeDepth _ _)
        fun _ hclean => hclean.observeDepth
    exact hobserved.of_acknowledged rfl rfl fun oid quote hget =>
      ⟨hobserved.fits oid quote hget, hobserved.pending oid quote hget⟩

end Measured

/-! ## The count of the evidence -/

section Complete

variable {settings : Settings} {commits : ℕ → Bool} {told : List Message} {s : State}

/-- A measurement that starts is no evidence. -/
theorem startExposure_evidence (s : State) (snapshot : Snapshot) (reason : String) :
    (s.startExposure settings snapshot reason).evidence = s.evidence := by
  unfold State.startExposure
  split
  · rfl
  cases s.newQuote settings snapshot reason <;> rfl

/-- Evidence is the sample of a quote that has counted the trades. -/
theorem terminalExposure_evidence (h : Measured told s) (snapshot : Snapshot) :
    (s.terminalExposure settings commits snapshot).evidence = s.evidence ∨
      ∃ sample, (s.terminalExposure settings commits snapshot).evidence = s.evidence ++
        [sample] ∧
        sample.fillCount = (tradesOf told sample.clientOid).card := by
  unfold State.terminalExposure
  cases hget : s.acknowledged.get? snapshot.clientOid with
  | some quote =>
    dsimp only
    obtain ⟨-, ⟨hevidence, -⟩ | ⟨huncensored, hevidence, -⟩⟩ := commit_cases commits
      { s with acknowledged := s.acknowledged.erase snapshot.clientOid } (quote.sample snapshot)
    · exact Or.inl hevidence
    · obtain ⟨-, hcount, -⟩ := Quote.sample_spec (h.fits _ _ hget) huncensored
      exact Or.inr ⟨_, hevidence, hcount⟩
  | none =>
    dsimp only
    cases hquote : s.newQuote settings snapshot "missing_pending_ack_snapshot" with
    | none => exact Or.inl rfl
    | some quote =>
      obtain ⟨hfits, hcensored⟩ := newQuote_spec hquote
      obtain ⟨-, ⟨hevidence, -⟩ | ⟨huncensored, -, -⟩⟩ :=
        commit_cases commits s (quote.sample snapshot)
      · exact Or.inl hevidence
      · obtain ⟨hclean, -⟩ := Quote.sample_spec hfits huncensored
        exact absurd hclean.1 (hcensored (by decide))

/-- **A snapshot** leaves the evidence complete. -/
theorem complete_onOrder (hmeasured : Measured told s) (h : Complete told s)
    (snapshot : Snapshot) :
    Complete (told ++ [.order snapshot]) (s.onOrder settings commits snapshot) := by
  have hsame : ∀ {s' : State}, s'.evidence = s.evidence →
      Complete (told ++ [.order snapshot]) s' := by
    intro s' hevidence sample hmem
    rw [tradesOf_append_order]
    exact h sample (hevidence ▸ hmem)
  unfold State.onOrder
  split
  · exact hsame (startExposure_evidence s snapshot "")
  have hrestart := @Measured.restart settings _ _ hmeasured snapshot
  have hevidence : (if snapshot.status = .new ∨ snapshot.status = .partiallyFilled then
      s.startExposure settings snapshot "missing_pending_ack_snapshot" else s).evidence =
        s.evidence := by
    split
    · exact startExposure_evidence s snapshot _
    · rfl
  dsimp only
  generalize (if snapshot.status = .new ∨ snapshot.status = .partiallyFilled then
    s.startExposure settings snapshot "missing_pending_ack_snapshot" else s) = started
    at hrestart hevidence ⊢
  split
  · rcases @terminalExposure_evidence settings commits _ _ hrestart snapshot with
      hold | ⟨sample, hnew, hcount⟩
    · exact hsame (hold.trans hevidence)
    intro other hmem
    rw [hnew, hevidence] at hmem
    rw [tradesOf_append_order]
    rcases mem_append.mp hmem with hin | hlast
    · exact h other hin
    · rw [mem_singleton.mp hlast]
      exact hcount
  split
  · exact hsame hevidence
  · exact hsame hevidence

theorem complete_of_evidence (h : Complete told s) {s' : State}
    (hevidence : s'.evidence = s.evidence) :
    Complete told s' := by
  unfold Complete
  rw [hevidence]
  exact h

/-- A book is no evidence. -/
theorem observeOrderbook_evidence (s : State) (symbol : String) (mid : ℚ)
    (bookMonotonic : Option ℚ) (callbackMonotonic : ℚ) :
    (s.observeOrderbook settings symbol mid bookMonotonic callbackMonotonic).evidence =
      s.evidence := by
  unfold State.observeOrderbook
  cases bookMonotonic with
  | none => rfl
  | some book =>
    dsimp only
    split_ifs <;> rfl

/-- A trade alone changes no evidence. -/
theorem onTrade_evidence (s : State) (orderId tradeId : String) :
    (s.onTrade orderId tradeId).evidence = s.evidence := by
  unfold State.onTrade
  cases s.acknowledged.get? orderId <;> rfl

/-- **A trade** leaves the evidence complete exactly when it is not new to evidence of its order.
-/
theorem complete_onTrade_iff (h : Complete told s) (orderId tradeId : String) :
    Complete (told ++ [.trade orderId tradeId]) (s.onTrade orderId tradeId) ↔
      ((∃ sample ∈ s.evidence, sample.clientOid = orderId) →
        tradeId ∈ tradesOf told orderId) := by
  unfold Complete
  rw [onTrade_evidence]
  constructor
  · rintro hcomplete ⟨sample, hmem, rfl⟩
    have hcount := hcomplete sample hmem
    rw [tradesOf_append_trade, if_pos rfl, h sample hmem] at hcount
    by_contra hnew
    rw [Finset.card_insert_of_notMem hnew] at hcount
    omega
  · intro hkept sample hmem
    rw [tradesOf_append_trade, h sample hmem]
    split
    · next heq =>
      have hknown : tradeId ∈ tradesOf told sample.clientOid :=
        heq ▸ hkept ⟨sample, hmem, heq.symm⟩
      rw [Finset.insert_eq_of_mem hknown]
    · rfl

end Complete

/-! ## The order of the messages -/

/-- The snapshot that acknowledges an order. -/
def Message.Acknowledges : Message → Prop
  | .order snapshot => snapshot.status = .pendingAck
  | .trade _ _ => False

theorem Message.Acknowledges.early {message : Message} (h : message.Acknowledges) :
    message.Early := by
  cases message with
  | trade orderId tradeId => exact h.elim
  | order snapshot =>
    show snapshot.status ∈ unacknowledged
    rw [show snapshot.status = .pendingAck from h]
    decide

/-- **The messages of the OMS.**  An order that is not acknowledged yet has sent nothing but
snapshots from before its acknowledgement, and an acknowledging snapshot has no other messages of
its order before it. -/
structure Recorded (w : World) : Prop where
  bounded : w.taken ≤ w.sent.length
  ordered : w.sent.Pairwise fun earlier later =>
    later.Acknowledges → earlier.oid = later.oid → earlier.Early
  filed : ∀ message ∈ w.sent, ∃ status, w.statuses.get? message.oid = some status ∧
    (status ∈ unacknowledged → message.Early)
  named : ∀ orderId tradeId, Message.trade orderId tradeId ∈ w.sent →
    Text.strip tradeId = tradeId ∧ tradeId ≠ ""

namespace Recorded

variable {w : World}

/-- The status of an order changes, and never back to one before its acknowledgement. -/
theorem set_status (h : Recorded w) {oid : String} {status next : OrderStatus}
    (hget : w.statuses.get? oid = some status)
    (hnext : next ∈ unacknowledged → status ∈ unacknowledged) :
    Recorded { w with statuses := w.statuses.set oid next } := by
  refine ⟨h.bounded, h.ordered, ?_, h.named⟩
  intro message hmem
  obtain ⟨old, hold, hearly⟩ := h.filed message hmem
  dsimp only
  rw [Dict.get?_set]
  split
  · next heq =>
    rw [heq, hget] at hold
    cases hold
    exact ⟨next, rfl, fun hin => hearly (hnext hin)⟩
  · exact ⟨old, hold, hearly⟩

/-- **A message is sent** that its order's status allows. -/
theorem send (h : Recorded w) {message : Message} {status : OrderStatus}
    (hget : w.statuses.get? message.oid = some status)
    (hstatus : status ∈ unacknowledged → message.Early)
    (hack : message.Acknowledges → status ∈ unacknowledged)
    (hnamed : ∀ orderId tradeId, message = .trade orderId tradeId →
      Text.strip tradeId = tradeId ∧ tradeId ≠ "") :
    Recorded { w with sent := w.sent ++ [message] } := by
  refine ⟨?_, ?_, ?_, ?_⟩
  · dsimp only
    rw [length_append]
    exact h.bounded.trans (Nat.le_add_right _ _)
  · refine pairwise_append.mpr ⟨h.ordered, pairwise_singleton _ _, ?_⟩
    intro earlier hearlier later hlater hacknowledges hsame
    rw [mem_singleton.mp hlater] at hacknowledges hsame
    obtain ⟨old, hold, hearly⟩ := h.filed earlier hearlier
    rw [hsame, hget] at hold
    cases hold
    exact hearly (hack hacknowledges)
  · exact forall_mem_append.mpr
      ⟨h.filed, forall_mem_singleton.mpr ⟨status, hget, hstatus⟩⟩
  · intro orderId tradeId hmem
    rcases mem_append.mp hmem with hold | hnew
    · exact h.named orderId tradeId hold
    · exact hnamed orderId tradeId (mem_singleton.mp hnew).symm

/-- What has been taken stays when more is sent. -/
theorem told_send (h : Recorded w) (message : Message) :
    World.told { w with sent := w.sent ++ [message] } = w.told :=
  take_append_of_le_length h.bounded

/-- The next message, and what precedes it when it acknowledges its order. -/
theorem next (h : Recorded w) {message : Message} (hnext : w.sent[w.taken]? = some message) :
    w.sent.take (w.taken + 1) = w.told ++ [message] ∧ message ∈ w.sent ∧
      w.taken + 1 ≤ w.sent.length ∧
      (message.Acknowledges → ∀ earlier ∈ w.told, earlier.oid = message.oid →
        earlier.Early) := by
  have htake : w.sent.take (w.taken + 1) = w.told ++ [message] := by
    rw [take_add_one, hnext]
    rfl
  obtain ⟨hlt, -⟩ := List.getElem?_eq_some_iff.mp hnext
  refine ⟨htake, mem_of_getElem? hnext, hlt, ?_⟩
  intro hack earlier hmem hsame
  have hpairwise := h.ordered.sublist (take_sublist (w.taken + 1) w.sent)
  rw [htake] at hpairwise
  exact (pairwise_append.mp hpairwise).2.2 earlier hmem message mem_cons_self hack hsame

end Recorded

/-! ## One step -/

/-- No message is delivered that brings a trade new to evidence of its order. -/
def Message.Timely (w : World) : Message → Prop
  | .order _ => True
  | .trade orderId tradeId => (∃ sample ∈ w.strategy.evidence, sample.clientOid = orderId) →
      tradeId ∈ tradesOf w.told orderId

instance (w : World) : (message : Message) → Decidable (message.Timely w)
  | .order _ => isTrue trivial
  | .trade orderId tradeId => inferInstanceAs (Decidable
      ((∃ sample ∈ w.strategy.evidence, sample.clientOid = orderId) →
        tradeId ∈ tradesOf w.told orderId))

/-- No trade of an order is delivered after evidence of the order that has not counted it. -/
def Kept (w : World) : Action → Prop
  | .deliver => ∀ message ∈ w.sent[w.taken]?, message.Timely w
  | _ => True

instance (w : World) : (action : Action) → Decidable (Kept w action)
  | .deliver => inferInstanceAs (Decidable (∀ message ∈ w.sent[w.taken]?, message.Timely w))
  | .create _ | .move _ _ | .fill _ _ _ | .resend _ _ | .publish _ | .book _ _ _ _ =>
      isTrue trivial

section Step

variable {settings : Settings} {commits : ℕ → Bool} {w w' : World} {action : Action}

/-- No status goes back to one before the acknowledgement. -/
theorem unacknowledged_of_move {status next : OrderStatus}
    (hnext : next ∈ status.allowedTransitions) (h : next ∈ unacknowledged) :
    status ∈ unacknowledged := by
  have hall : ∀ status ∈ OrderStatus.all, ∀ next ∈ status.allowedTransitions,
      next ∈ unacknowledged → status ∈ unacknowledged := by decide
  exact hall status (by cases status <;> decide) next hnext h

/-- What a step can be. -/
theorem step_cases (h : step settings commits w action = some w') :
    (∃ oid, action = .create oid ∧ w.statuses.get? oid = none ∧
      w' = { w with statuses := w.statuses.set oid .created }) ∨
    (∃ oid next status, action = .move oid next ∧ w.statuses.get? oid = some status ∧
      next ∈ status.allowedTransitions ∧ next ≠ .partiallyFilled ∧
      w' = { w with statuses := w.statuses.set oid next }) ∨
    (∃ oid tradeId next status, action = .fill oid tradeId next ∧
      w.statuses.get? oid = some status ∧ (next = .partiallyFilled ∨ next = .filled) ∧
      (Text.strip tradeId = tradeId ∧ tradeId ≠ "") ∧
      w' = { w with
        statuses := w.statuses.set oid next, sent := w.sent ++ [.trade oid tradeId] }) ∨
    (∃ oid tradeId, action = .resend oid tradeId ∧ Message.trade oid tradeId ∈ w.sent ∧
      w' = { w with sent := w.sent ++ [.trade oid tradeId] }) ∨
    (∃ snapshot, action = .publish snapshot ∧
      w.statuses.get? snapshot.clientOid = some snapshot.status ∧
      w' = { w with sent := w.sent ++ [.order snapshot] }) ∨
    (∃ message, action = .deliver ∧ w.sent[w.taken]? = some message ∧
      w' = { w with
        taken := w.taken + 1, strategy := w.strategy.take settings commits message }) ∨
    (∃ symbol mid bookMonotonic callbackMonotonic,
      action = .book symbol mid bookMonotonic callbackMonotonic ∧
      w' = { w with
        strategy :=
          w.strategy.observeOrderbook settings symbol mid bookMonotonic callbackMonotonic
            }) := by
  unfold step at h
  cases action with
  | create oid =>
    dsimp only at h
    split at h
    · cases h
    next hnew =>
      cases h
      refine Or.inl ⟨oid, rfl, ?_, rfl⟩
      rw [Dict.contains] at hnew
      exact Option.not_isSome_iff_eq_none.mp hnew
  | move oid next =>
    dsimp only at h
    split at h
    · cases h
    next status hget =>
    split at h
    · next hmove =>
      cases h
      exact Or.inr (Or.inl ⟨oid, next, status, rfl, hget, hmove.1, hmove.2, rfl⟩)
    · cases h
  | fill oid tradeId next =>
    dsimp only at h
    split at h
    · cases h
    next status hget =>
    split at h
    · next hfill =>
      cases h
      exact Or.inr (Or.inr (Or.inl
        ⟨oid, tradeId, next, status, rfl, hget, hfill.1, hfill.2.2, rfl⟩))
    · cases h
  | resend oid tradeId =>
    dsimp only at h
    split at h
    · next hmem =>
      cases h
      exact Or.inr (Or.inr (Or.inr (Or.inl ⟨oid, tradeId, rfl, mem_tradesOf.mp hmem, rfl⟩)))
    · cases h
  | publish snapshot =>
    dsimp only at h
    split at h
    · next hget =>
      cases h
      exact Or.inr (Or.inr (Or.inr (Or.inr (Or.inl ⟨snapshot, rfl, hget, rfl⟩))))
    · cases h
  | deliver =>
    dsimp only at h
    split at h
    · cases h
    · next message hnext =>
      cases h
      exact Or.inr (Or.inr (Or.inr (Or.inr (Or.inr (Or.inl ⟨message, rfl, hnext, rfl⟩)))))
  | book symbol mid bookMonotonic callbackMonotonic =>
    cases h
    exact Or.inr (Or.inr (Or.inr (Or.inr (Or.inr (Or.inr ⟨_, _, _, _, rfl, rfl⟩)))))

theorem recorded_step (h : Recorded w) (hstep : step settings commits w action = some w') :
    Recorded w' := by
  rcases step_cases hstep with ⟨oid, -, hnew, rfl⟩ |
    ⟨oid, next, status, -, hget, hnext, -, rfl⟩ |
    ⟨oid, tradeId, next, status, -, hget, hnext, hnamed, rfl⟩ | ⟨oid, tradeId, -, hsent, rfl⟩ |
    ⟨snapshot, -, hget, rfl⟩ | ⟨message, -, hnext, rfl⟩ | ⟨symbol, mid, book, callback, -, rfl⟩
  · refine ⟨h.bounded, h.ordered, ?_, h.named⟩
    intro message hmem
    obtain ⟨status, hget, hearly⟩ := h.filed message hmem
    refine ⟨status, (Dict.get?_set_of_ne _ _ ?_).trans hget, hearly⟩
    rintro rfl
    rw [hnew] at hget
    cases hget
  · exact h.set_status hget (unacknowledged_of_move hnext)
  · have hlate : next ∉ unacknowledged := by
      rcases hnext with rfl | rfl <;> decide
    refine (h.set_status hget fun hin => absurd hin hlate).send (Dict.get?_set_self _ _ _)
      (fun hin => absurd hin hlate) (fun hack => hack.elim) ?_
    intro orderId tradeId' heq
    cases heq
    exact hnamed
  · obtain ⟨status, hget, hearly⟩ := h.filed _ hsent
    refine h.send hget hearly (fun hack => hack.elim) ?_
    intro orderId tradeId' heq
    cases heq
    exact h.named _ _ hsent
  · refine h.send hget (fun hin => hin) (fun hack => hack.early) ?_
    intro orderId tradeId heq
    cases heq
  · exact ⟨(h.next hnext).2.2.1, h.ordered, h.filed, h.named⟩
  · exact ⟨h.bounded, h.ordered, h.filed, h.named⟩

/-- **Every step** keeps the measurements, and it keeps complete evidence complete exactly when
it is `Kept`. -/
theorem measured_step (h : Recorded w) (hmeasured : Measured w.told w.strategy)
    (hstep : step settings commits w action = some w') :
    Measured w'.told w'.strategy ∧
      (Complete w.told w.strategy → (Complete w'.told w'.strategy ↔ Kept w action)) := by
  -- the strategy takes nothing
  have hquiet : ∀ {w'' : World}, w''.told = w.told → w''.strategy = w.strategy →
      Measured w''.told w''.strategy ∧
        (Complete w.told w.strategy → (Complete w''.told w''.strategy ↔ True)) := by
    intro w'' htold hstrategy
    rw [htold, hstrategy]
    exact ⟨hmeasured, fun hcomplete => iff_true_intro hcomplete⟩
  rcases step_cases hstep with ⟨oid, rfl, -, rfl⟩ | ⟨oid, next, status, rfl, -, -, -, rfl⟩ |
    ⟨oid, tradeId, next, status, rfl, -, -, -, rfl⟩ | ⟨oid, tradeId, rfl, -, rfl⟩ |
    ⟨snapshot, rfl, -, rfl⟩ | ⟨message, rfl, hnext, rfl⟩ |
      ⟨symbol, mid, book, callback, rfl, rfl⟩
  · exact hquiet rfl rfl
  · exact hquiet rfl rfl
  · exact hquiet (h.told_send _) rfl
  · exact hquiet (h.told_send _) rfl
  · exact hquiet (h.told_send _) rfl
  · obtain ⟨htake, hmem, -, hack⟩ := h.next hnext
    have hkept : Kept w .deliver ↔ message.Timely w := by
      unfold Kept
      rw [hnext]
      exact ⟨fun hall => hall message rfl, fun htimely _ heq => Option.some.inj heq ▸ htimely⟩
    rw [hkept]
    unfold World.told
    dsimp only
    rw [htake]
    cases message with
    | order snapshot =>
      refine ⟨hmeasured.onOrder snapshot hack, fun hcomplete => ?_⟩
      exact iff_of_true (complete_onOrder hmeasured hcomplete snapshot) trivial
    | trade orderId tradeId =>
      obtain ⟨hstrip, hne⟩ := h.named orderId tradeId hmem
      exact ⟨hmeasured.onTrade hstrip hne, fun hcomplete =>
        complete_onTrade_iff hcomplete orderId tradeId⟩
  · refine ⟨hmeasured.observeOrderbook symbol mid book callback, fun hcomplete => ?_⟩
    exact iff_of_true
      (complete_of_evidence hcomplete (observeOrderbook_evidence _ _ _ _ _)) trivial

end Step

/-! ## Orders that have ended -/

/-- No fill is booked for an order that has ended: none is reopened. -/
def EndsStay (w : World) : Action → Prop
  | .fill oid _ _ => ∀ status ∈ w.statuses.get? oid, status ∉ OrderStatus.terminalStatuses
  | _ => True

/-- **Orders that end have ended**: the status of an order with a terminal snapshot is terminal,
and every trade after such a snapshot was sent before. -/
structure Final (w : World) : Prop where
  ended : ∀ oid, ∀ message ∈ w.sent, message.Ends oid →
    ∃ status, w.statuses.get? oid = some status ∧ status ∈ OrderStatus.terminalStatuses
  counted : ∀ n orderId tradeId, w.sent[n]? = some (.trade orderId tradeId) →
    (∃ message ∈ w.sent.take n, message.Ends orderId) →
      tradeId ∈ tradesOf (w.sent.take n) orderId

namespace Final

variable {w : World}

/-- The status of an order changes, from a terminal one to a terminal one only. -/
theorem set_status (h : Final w) {oid : String} {status next : OrderStatus}
    (hget : w.statuses.get? oid = some status)
    (hnext : status ∈ OrderStatus.terminalStatuses → next ∈ OrderStatus.terminalStatuses) :
    Final { w with statuses := w.statuses.set oid next } := by
  refine ⟨?_, h.counted⟩
  intro other message hmem hends
  obtain ⟨old, hold, hterminal⟩ := h.ended other message hmem hends
  dsimp only
  rw [Dict.get?_set]
  split
  · next heq =>
    rw [heq, hget] at hold
    cases hold
    exact ⟨next, rfl, hnext hterminal⟩
  · exact ⟨old, hold, hterminal⟩

/-- **A message is sent**: a terminal snapshot of an order that has ended, or a trade that is not
new to an order that has. -/
theorem send (h : Final w) {message : Message}
    (hends : ∀ oid, message.Ends oid →
      ∃ status, w.statuses.get? oid = some status ∧ status ∈ OrderStatus.terminalStatuses)
    (htrade : ∀ orderId tradeId, message = .trade orderId tradeId →
      (∃ earlier ∈ w.sent, earlier.Ends orderId) → tradeId ∈ tradesOf w.sent orderId) :
    Final { w with sent := w.sent ++ [message] } := by
  constructor
  · intro oid other hmem hother
    rcases mem_append.mp hmem with hold | hnew
    · exact h.ended oid other hold hother
    · exact hends oid (mem_singleton.mp hnew ▸ hother)
  · intro n orderId tradeId hnext
    dsimp only at hnext ⊢
    rcases lt_trichotomy n w.sent.length with hlt | heq | hgt
    · rw [List.getElem?_append_left hlt] at hnext
      rw [take_append_of_le_length hlt.le]
      exact h.counted n orderId tradeId hnext
    · subst heq
      rw [List.getElem?_concat_length] at hnext
      rw [take_left']
      · exact htrade orderId tradeId (Option.some.inj hnext)
      · rfl
    · rw [List.getElem?_eq_none] at hnext
      · cases hnext
      · rw [length_append, length_singleton]
        exact hgt

end Final

/-- A terminal status changes to a terminal one, unless a fill is booked. -/
theorem terminal_of_move {status next : OrderStatus} (hnext : next ∈ status.allowedTransitions)
    (hne : next ≠ .partiallyFilled) (h : status ∈ OrderStatus.terminalStatuses) :
    next ∈ OrderStatus.terminalStatuses := by
  have hall : ∀ status ∈ OrderStatus.terminalStatuses, ∀ next ∈ status.allowedTransitions,
      next ≠ .partiallyFilled → next ∈ OrderStatus.terminalStatuses := by decide
  exact hall status h next hnext hne

section Step

variable {settings : Settings} {commits : ℕ → Bool} {w w' : World} {action : Action}

theorem final_step (h : Final w) (hstays : EndsStay w action)
    (hstep : step settings commits w action = some w') : Final w' := by
  rcases step_cases hstep with ⟨oid, -, hnew, rfl⟩ |
    ⟨oid, next, status, -, hget, hnext, hne, rfl⟩ |
    ⟨oid, tradeId, next, status, rfl, hget, -, -, rfl⟩ | ⟨oid, tradeId, -, hsent, rfl⟩ |
    ⟨snapshot, -, hget, rfl⟩ | ⟨message, -, -, rfl⟩ | ⟨symbol, mid, book, callback, -, rfl⟩
  · refine ⟨?_, h.counted⟩
    intro other message hmem hends
    obtain ⟨status, hget, hterminal⟩ := h.ended other message hmem hends
    refine ⟨status, (Dict.get?_set_of_ne _ _ ?_).trans hget, hterminal⟩
    rintro rfl
    rw [hnew] at hget
    cases hget
  · exact h.set_status hget (terminal_of_move hnext hne)
  · have hlive : status ∉ OrderStatus.terminalStatuses := hstays status hget
    refine (h.set_status hget fun hterminal => absurd hterminal hlive).send
      (fun _ hends => hends.elim) ?_
    intro orderId tradeId' heq
    cases heq
    rintro ⟨earlier, hmem, hends⟩
    obtain ⟨old, hold, hterminal⟩ := h.ended oid earlier hmem hends
    rw [hget] at hold
    cases hold
    exact absurd hterminal hlive
  · refine h.send (fun _ hends => hends.elim) ?_
    intro orderId tradeId' heq _
    cases heq
    exact mem_tradesOf.mpr hsent
  · refine h.send ?_ ?_
    · rintro oid ⟨rfl, hterminal⟩
      exact ⟨snapshot.status, hget, hterminal⟩
    · intro orderId tradeId heq
      cases heq
  · exact ⟨h.ended, h.counted⟩
  · exact ⟨h.ended, h.counted⟩

/-- A trade of an order that has ended is not new to its evidence. -/
theorem Final.kept (h : Final w) (hmeasured : Measured w.told w.strategy) : Kept w action := by
  cases action with
  | deliver =>
    intro message hnext
    cases message with
    | order snapshot => trivial
    | trade orderId tradeId =>
      rintro ⟨sample, hmem, rfl⟩
      exact h.counted w.taken _ tradeId hnext (hmeasured.ended sample hmem)
  | create oid => trivial
  | move oid next => trivial
  | fill oid tradeId next => trivial
  | resend oid tradeId => trivial
  | publish snapshot => trivial
  | book symbol mid book callback => trivial

end Step

/-! ## Every run -/

theorem initial_recorded : Recorded {} := by
  refine ⟨le_rfl, List.Pairwise.nil, ?_, ?_⟩
  · intro message hmem
    exact absurd hmem not_mem_nil
  · intro orderId tradeId hmem
    exact absurd hmem not_mem_nil

theorem initial_final : Final {} := by
  constructor
  · intro oid message hmem
    exact absurd hmem not_mem_nil
  · intro n orderId tradeId hnext
    cases hnext

theorem initial_complete : Complete [] {} := by
  intro sample hmem
  exact absurd hmem not_mem_nil

/-- **RPI evidence, over every run.**  There is one uncensored sample of an order at most, its
bins hold its fills and the time from the acknowledgement to the end, and the accumulators hold
the bins of the uncensored samples.  In every state each of these samples has counted every trade
of its order exactly when no trade is delivered that is new to one, which is so when no fill is
booked for an order that has ended. -/
theorem rpi_evidence_exact_iff {settings : Settings} {commits : ℕ → Bool} {actions : List Action}
    {w : World} (hrun : Run.exec (step settings commits) {} actions = some w) :
    (w.strategy.evidence.map Sample.clientOid).Nodup ∧
      (∀ sample ∈ w.strategy.evidence,
        (sample.exposureBins.map ExposureBin.fillCount).sum = sample.fillCount ∧
          (sample.exposureBins.map ExposureBin.exposureSeconds).sum =
            sample.terminalMonotonic - sample.ackMonotonic) ∧
      (∀ symbol depth, ((w.strategy.accumulators.getD symbol ∅).getD depth {}).totals =
        totalsAt depth (w.strategy.evidenceBins symbol)) ∧
      ((∀ before w₁, before <+: actions → Run.exec (step settings commits) {} before = some w₁ →
          Complete w₁.told w₁.strategy) ↔
        Run.Along (step settings commits) Kept {} actions) ∧
      (Run.Along (step settings commits) EndsStay {} actions →
        Run.Along (step settings commits) Kept {} actions) := by
  have hstart : Recorded {} ∧ Measured (World.told {}) (World.strategy {}) :=
    ⟨initial_recorded, Measured.initial⟩
  have hkeeps : ∀ (w₁ : World) (action : Action) (w₂ : World),
      Recorded w₁ ∧ Measured w₁.told w₁.strategy → step settings commits w₁ action = some w₂ →
      Recorded w₂ ∧ Measured w₂.told w₂.strategy := fun _ _ _ h hstep =>
    ⟨recorded_step h.1 hstep, (measured_step h.1 h.2 hstep).1⟩
  have hmeasured : ∀ {before w₁}, Run.exec (step settings commits) {} before = some w₁ →
      Recorded w₁ ∧ Measured w₁.told w₁.strategy := Run.exec_preserves hkeeps hstart
  obtain ⟨-, hmeasures⟩ := hmeasured hrun
  refine ⟨hmeasures.unique, fun sample hmem => ?_, hmeasures.accumulated, ⟨?_, ?_⟩, ?_⟩
  · exact ⟨(hmeasures.exact sample hmem).fills, (hmeasures.exact sample hmem).exposure⟩
  · intro hcomplete
    refine Run.along_of_forall fun first action rest w₁ heq hfirst => ?_
    subst heq
    obtain ⟨w₁', hfirst', hrest⟩ := Run.exec_append_eq_some.mp hrun
    obtain rfl := Option.some.inj (hfirst.symm.trans hfirst')
    obtain ⟨w₂, hstep, -⟩ := Run.exec_cons_eq_some.mp hrest
    obtain ⟨hrecorded, hmeasured₁⟩ := hmeasured hfirst
    have hnext : Run.exec (step settings commits) {} (first ++ [action]) = some w₂ :=
      Run.exec_append_eq_some.mpr
        ⟨w₁, hfirst, Run.exec_cons_eq_some.mpr ⟨w₂, hstep, rfl⟩⟩
    exact ((measured_step hrecorded hmeasured₁ hstep).2
      (hcomplete first w₁ ⟨action :: rest, rfl⟩ hfirst)).mp
        (hcomplete (first ++ [action]) w₂ ⟨rest, by simp⟩ hnext)
  · rintro halong before w₁ ⟨rest, rfl⟩ hbefore
    have hcomplete := Run.exec_invariant
      (P := Kept) (I := fun w => (Recorded w ∧ Measured w.told w.strategy) ∧
        Complete w.told w.strategy)
      (fun w₁ action w₂ h hkept hstep => ⟨hkeeps w₁ action w₂ h.1 hstep,
        ((measured_step h.1.1 h.1.2 hstep).2 h.2).mpr hkept⟩)
      ⟨hstart, initial_complete⟩ (Run.along_append.mp halong).1 hbefore
    exact hcomplete.2
  · refine Run.along_of_invariant
      (I := fun w => (Recorded w ∧ Measured w.told w.strategy) ∧ Final w) ?_ ?_
      ⟨hstart, initial_final⟩
    · exact fun w₁ action h _ => h.2.kept h.1.2
    · exact fun w₁ action w₂ h hstays hstep =>
        ⟨hkeeps w₁ action w₂ h.1 hstep, final_step h.2 hstays hstep⟩

section Runs

/-- Quotes at the mid price, whose depth is zero. -/
def sampleSettings : Settings := { logBps := fun _ _ => 0 }

/-- A snapshot of an order at the mid price. -/
def sampleSnapshot (status : OrderStatus) (filled time : ℚ) : Snapshot :=
  { clientOid := "a", exchangeOid := "7", symbol := "BTCUSDT", status := status, price := 100,
    volume := 2, filledVolume := filled, updateTime := time, updatedMonotonic := time }

/-- An order is acknowledged a second after a book, and cancelled two seconds later. -/
def cancelledQuote : List Action :=
  [.book "BTCUSDT" 100 (some 1) 1,
    .create "a", .move "a" .submitting, .move "a" .pendingAck,
    .publish (sampleSnapshot .pendingAck 0 2), .deliver,
    .move "a" .cancelling, .move "a" .cancelled,
    .publish (sampleSnapshot .cancelled 0 4), .deliver]

theorem rpi_evidence_exact_iff_cancelled :
    ∃ w, Run.exec (step sampleSettings fun _ => true) {} cancelledQuote = some w ∧
      Run.Along (step sampleSettings fun _ => true) Kept {} cancelledQuote ∧
      w.strategy.evidence ≠ [] ∧ Complete w.told w.strategy := by
  have hsome : (Run.exec (step sampleSettings fun _ => true) {} cancelledQuote).any
      (fun w => decide (w.strategy.evidence ≠ [])) = true := by
    decide +kernel
  obtain ⟨w, hrun, hevidence⟩ := (Option.any_eq_true _ _).mp hsome
  have halong : Run.Along (step sampleSettings fun _ => true) Kept {} cancelledQuote := by
    decide +kernel
  exact ⟨w, hrun, halong, of_decide_eq_true hevidence,
    (rpi_evidence_exact_iff hrun).2.2.2.1.mpr halong cancelledQuote w prefix_rfl hrun⟩

/-- A fill that the cancel has overtaken reopens the order and ends it again.  The second sample
is censored, and the first stays in the evidence and in the accumulator: an exposure of two
seconds without the fill. -/
theorem late_fill_missing_in_evidence :
    ∃ w, Run.exec (step sampleSettings fun _ => true) {}
        (cancelledQuote ++ [.fill "a" "9" .partiallyFilled, .deliver,
          .publish (sampleSnapshot .partiallyFilled 1 5), .deliver,
          .move "a" .cancelled, .publish (sampleSnapshot .cancelled 1 6), .deliver]) = some w ∧
      ¬Complete w.told w.strategy ∧ tradesOf w.told "a" = {"9"} ∧
      w.strategy.samples.map (fun sample => (sample.fillCount, sample.censorReason)) =
        [(0, ""), (0, "missing_pending_ack_snapshot")] ∧
      (w.strategy.evidenceBins "BTCUSDT").map ExposureBin.totals = [(2, 0, 1)] := by
  have hrun : ((Run.exec (step sampleSettings fun _ => true) {}
        (cancelledQuote ++ [.fill "a" "9" .partiallyFilled, .deliver,
          .publish (sampleSnapshot .partiallyFilled 1 5), .deliver,
          .move "a" .cancelled, .publish (sampleSnapshot .cancelled 1 6), .deliver])).any
      fun w => decide (¬Complete w.told w.strategy ∧ tradesOf w.told "a" = {"9"} ∧
        w.strategy.samples.map (fun sample => (sample.fillCount, sample.censorReason)) =
          [(0, ""), (0, "missing_pending_ack_snapshot")] ∧
        (w.strategy.evidenceBins "BTCUSDT").map ExposureBin.totals = [(2, 0, 1)])) = true := by
    decide +kernel
  obtain ⟨w, hexec, hw⟩ := (Option.any_eq_true _ _).mp hrun
  exact ⟨w, hexec, of_decide_eq_true hw⟩

end Runs

end ChronosHFT.Strategy.Rpi
