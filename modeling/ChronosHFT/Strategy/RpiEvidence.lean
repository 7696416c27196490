import ChronosHFT.Strategy.RpiExposure

/-!
# What a measurement knows

One RPI quote from its first snapshot to its sample, and the accumulators the samples are added
to.

A measurement that is not censored has counted every trade it was given once, at a depth, and its
depths hold all the time since the acknowledgement (`OrderExposure.Sound`).  A quote is clean
only when it was started by the snapshot that acknowledges the order, and a sample is uncensored
only when its quote was clean to the end: then its bins hold all of its fills and all of its
time. -/

namespace ChronosHFT.Strategy.Rpi

open List Oms

/-! ## One order's measurement -/

variable {id reason text : String} {settings : Settings} {quote : Quote} {trades : Finset String}
  {snapshot : Snapshot}

theorem note_eq_empty {condition : Bool}
    (htext : text ≠ "") : note reason condition text = "" ↔ reason = "" ∧ condition = false := by
  unfold note
  by_cases hreason : reason = ""
  · subst hreason
    cases condition with
    | true => simp [htext]
    | false => simp
  · simp [hreason]

theorem note_eq_empty_left {condition : Bool}
    (h : note reason condition text = "") : reason = "" := by
  by_contra hreason
  rw [note, if_neg fun hand => hreason hand.2] at h
  exact hreason h

namespace OrderExposure

/-- **A measurement that has not been censored**: the trades are counted once each, and the
exposure of all depths together is the time since the acknowledgement. -/
structure Sound (e : OrderExposure) (trades : Finset String) : Prop where
  seen : e.seenTradeIds = trades
  count : e.fillCount = trades.card
  fills : e.bins.sumBy (fun _ bucket => (bucket.fillCount : ℤ)) = e.fillCount
  exposure : e.bins.sumBy (fun _ bucket => bucket.exposureSeconds) =
    e.lastObservation - e.acknowledgedAt
  buckets : ∀ depth bucket, e.bins.get? depth = some bucket → 0 ≤ depth ∧
    0 ≤ bucket.exposureSeconds ∧ (0 < bucket.exposureSeconds → 0 < bucket.sampleCount)
  depth : ∀ depth, e.currentDepthBin = some depth → 0 ≤ depth

end OrderExposure

theorem quantizedDepth_nonneg {raw : Option ℚ} {depth : ℚ}
    (h : quantizedDepth settings raw = some depth) : 0 ≤ depth := by
  unfold quantizedDepth at h
  cases raw with
  | none => cases h
  | some value =>
    dsimp only at h
    split at h
    · cases h
    split at h
    · cases h
    next hquantized =>
    cases h
    exact settings.twelveDigits_nonneg _ (not_lt.mp hquantized)

namespace OrderExposure

variable {settings : Settings}

theorem init_sound {ack : ℚ} {raw : Option ℚ} {reason : String} :
    (init settings ack raw reason).Sound ∅ := by
  refine ⟨rfl, rfl, rfl, ?_, ?_, ?_⟩
  · show (0 : ℚ) = ack - ack
    rw [sub_self]
  · intro depth bucket h
    cases h
  · intro depth h
    exact quantizedDepth_nonneg h

/-- The total of the depths after one bucket changed. -/
theorem sumBy_set_getD {M : Type*} [AddCommGroup M] (bins : Dict ℚ Bucket) (f : Bucket → M)
    (hzero : f {} = 0) (depth : ℚ) (bucket : Bucket) :
    (bins.set depth bucket).sumBy (fun _ => f) =
      bins.sumBy (fun _ => f) + (f bucket - f (bins.getD depth {})) := by
  rw [Dict.sumBy_set, Dict.contribution, Dict.getD]
  cases bins.get? depth with
  | none =>
    dsimp only
    rw [Option.getD_none, hzero, sub_zero, sub_zero]
  | some old =>
    dsimp only
    rw [Option.getD_some]
    abel

variable {e : OrderExposure} {terminalAt : ℚ}

/-- The bucket of a depth, missing or not, is as every bucket is. -/
theorem Sound.getD {trades : Finset String} (h : e.Sound trades) (depth : ℚ) :
    0 ≤ (e.bins.getD depth {}).exposureSeconds ∧
      (0 < (e.bins.getD depth {}).exposureSeconds → 0 < (e.bins.getD depth {}).sampleCount) := by
  rw [Dict.getD]
  cases hget : e.bins.get? depth with
  | none => exact ⟨le_rfl, fun hpos => absurd hpos (lt_irrefl _)⟩
  | some bucket => exact (h.buckets depth bucket hget).2

theorem markCensored_ne {reason : String} (hreason : reason ≠ "") :
    (e.markCensored reason).censorReason ≠ "" :=
  fun heq => Bool.noConfusion ((note_eq_empty hreason).mp heq).2

/-- A censored measurement takes no books any more. -/
theorem observeDepth_of_ne (hcensored : e.censorReason ≠ "") (observedAt : ℚ)
    (raw : Option ℚ) : e.observeDepth settings observedAt raw = e := by
  unfold observeDepth
  rw [if_pos hcensored]

/-- A censored measurement takes no trades any more. -/
theorem recordFill_of_ne (hcensored : e.censorReason ≠ "") (id : String) :
    e.recordFill id = e := by
  unfold recordFill
  dsimp only
  rw [if_pos hcensored]

/-- Time that is accrued goes to the depth the quote has. -/
theorem accrue_spec {e' : OrderExposure} {trades : Finset String} {observedAt : ℚ} {ok : Bool}
    (h : e.Sound trades) (hstep : e.accrue observedAt = (e', ok)) :
    e'.acknowledgedAt = e.acknowledgedAt ∧
      (e'.censorReason = "" → e.censorReason = "" ∧ e'.Sound trades ∧
        e'.lastObservation = observedAt) := by
  unfold accrue at hstep
  cases hdepth : e.currentDepthBin with
  | none =>
    rw [hdepth] at hstep
    cases hstep
    exact ⟨rfl, fun hclean => absurd hclean (markCensored_ne (by decide))⟩
  | some depth =>
    rw [hdepth] at hstep
    dsimp only at hstep
    split at hstep
    · cases hstep
      exact ⟨rfl, fun hclean => absurd hclean (markCensored_ne (by decide))⟩
    next hclean =>
    split at hstep
    · cases hstep
      exact ⟨rfl, fun hclean => absurd hclean (markCensored_ne (by decide))⟩
    next hduration =>
    cases hstep
    obtain ⟨hnonneg, -⟩ := h.getD depth
    refine ⟨rfl, fun _ => ⟨not_not.mp hclean, ?_, rfl⟩⟩
    refine ⟨h.seen, h.count, ?_, ?_, ?_, ?_⟩
    · dsimp only
      rw [sumBy_set_getD e.bins (fun b => (b.fillCount : ℤ)) rfl, sub_self, add_zero]
      exact h.fills
    · dsimp only
      rw [sumBy_set_getD e.bins Bucket.exposureSeconds rfl, h.exposure]
      dsimp only
      ring
    · intro depth' bucket hget
      dsimp only at hget
      rw [Dict.get?_set] at hget
      split at hget
      · next heq =>
        cases hget
        rw [heq]
        push Not at hduration
        exact ⟨h.depth depth hdepth, add_nonneg hnonneg hduration.le, fun _ => Nat.succ_pos _⟩
      · exact h.buckets depth' bucket hget
    · intro depth' hdepth'
      exact h.depth depth' (hdepth.trans hdepth')

/-- A book that leaves the measurement uncensored keeps it sound. -/
theorem observeDepth_spec {trades : Finset String} (h : e.Sound trades)
    (observedAt : ℚ) (raw : Option ℚ) :
    (e.observeDepth settings observedAt raw).acknowledgedAt = e.acknowledgedAt ∧
      ((e.observeDepth settings observedAt raw).censorReason = "" → e.censorReason = "" ∧
        (e.observeDepth settings observedAt raw).Sound trades) := by
  unfold observeDepth
  split
  · next hcensored => exact ⟨rfl, fun hclean => absurd hclean hcensored⟩
  next hcensored =>
  have hclean₀ : e.censorReason = "" := not_not.mp hcensored
  split
  · exact ⟨rfl, fun hclean => absurd hclean (markCensored_ne (by decide))⟩
  split
  · exact ⟨rfl, fun hclean => absurd hclean (markCensored_ne (by decide))⟩
  -- what the book found accrued
  have haccrued : ∀ {e' : OrderExposure} {ok : Bool},
      (if e.lastObservation < observedAt then e.accrue observedAt else (e, true)) = (e', ok) →
      e'.acknowledgedAt = e.acknowledgedAt ∧ (e'.censorReason = "" → e'.Sound trades) := by
    intro e' ok heq
    split at heq
    · obtain ⟨hack, hsound⟩ := accrue_spec h heq
      exact ⟨hack, fun hclean => (hsound hclean).2.1⟩
    · cases heq
      exact ⟨rfl, fun _ => h⟩
  cases hif : (if e.lastObservation < observedAt then e.accrue observedAt else (e, true)) with
  | mk accrued ok =>
    obtain ⟨hack, hsound⟩ := haccrued hif
    cases ok with
    | false => exact ⟨hack, fun hclean => ⟨hclean₀, hsound hclean⟩⟩
    | true =>
      dsimp only
      cases hnext : quantizedDepth settings raw with
      | none => exact ⟨hack, fun hclean => absurd hclean (markCensored_ne (by decide))⟩
      | some next =>
        refine ⟨hack, fun hclean => ⟨hclean₀, ?_⟩⟩
        obtain ⟨hseen, hcount, hfills, hexposure, hbuckets, -⟩ := hsound hclean
        refine ⟨hseen, hcount, hfills, hexposure, hbuckets, ?_⟩
        intro depth hdepth
        cases hdepth
        exact quantizedDepth_nonneg hnext

/-- A trade that leaves the measurement uncensored is counted. -/
theorem recordFill_spec {trades : Finset String} (h : e.Sound trades)
    {id : String} (hid : Text.strip id = id) (hne : id ≠ "") (hnew : id ∉ trades) :
    (e.recordFill id).acknowledgedAt = e.acknowledgedAt ∧
      ((e.recordFill id).censorReason = "" → e.censorReason = "" ∧
        (e.recordFill id).Sound (insert id trades)) := by
  unfold recordFill
  dsimp only
  rw [hid]
  by_cases hcensored : e.censorReason = ""
  swap
  · rw [if_pos hcensored]
    exact ⟨rfl, fun hclean => absurd hclean hcensored⟩
  rw [if_neg (not_not.mpr hcensored), if_neg hne, if_neg (by rw [h.seen]; exact hnew)]
  cases hdepth : e.currentDepthBin with
  | none => exact ⟨rfl, fun hclean => absurd hclean (markCensored_ne (by decide))⟩
  | some depth =>
    refine ⟨rfl, fun _ => ⟨hcensored, ?_⟩⟩
    obtain ⟨hnonneg, hsamples⟩ := h.getD depth
    refine ⟨?_, ?_, ?_, ?_, ?_, ?_⟩
    · dsimp only
      rw [h.seen]
    · dsimp only
      rw [h.count, Finset.card_insert_of_notMem hnew]
    · dsimp only
      rw [sumBy_set_getD e.bins (fun b => (b.fillCount : ℤ)) rfl, h.fills]
      push_cast
      ring
    · dsimp only
      rw [sumBy_set_getD e.bins Bucket.exposureSeconds rfl, sub_self, add_zero]
      exact h.exposure
    · intro depth' bucket hget
      dsimp only at hget
      rw [Dict.get?_set] at hget
      split at hget
      · next heq =>
        cases hget
        rw [heq]
        exact ⟨h.depth depth hdepth, hnonneg, hsamples⟩
      · exact h.buckets depth' bucket hget
    · intro depth' hdepth'
      exact h.depth depth' (hdepth.trans hdepth')

/-- Depths without exposure add nothing to a total. -/
theorem sum_positive_exposure {items : List (ℚ × Bucket)}
    (h : ∀ item ∈ items, 0 ≤ item.2.exposureSeconds) :
    ((items.filter fun item => decide (0 < item.2.exposureSeconds)).map
      fun item => item.2.exposureSeconds).sum =
        (items.map fun item => item.2.exposureSeconds).sum := by
  induction items with
  | nil => rfl
  | cons item rest ih =>
    obtain ⟨hitem, hrest⟩ := forall_mem_cons.mp h
    by_cases hpos : 0 < item.2.exposureSeconds
    · rw [filter_cons_of_pos (by simpa using hpos), map_cons, map_cons,
        sum_cons, sum_cons, ih hrest]
    · have hzero : item.2.exposureSeconds = 0 := le_antisymm (not_lt.mp hpos) hitem
      rw [filter_cons_of_neg (by simpa using hpos), map_cons, sum_cons, hzero,
        zero_add, ih hrest]

/-- The bins of a sound measurement carry all of its exposure, and the accumulator takes each of
them. -/
theorem Sound.exposureBins {trades : Finset String} (h : e.Sound trades) :
    (e.exposureBins.map ExposureBin.exposureSeconds).sum = e.lastObservation - e.acknowledgedAt ∧
      ∀ bin ∈ e.exposureBins, 0 ≤ bin.depthBps ∧ 0 < bin.exposureSeconds ∧
      0 < bin.sampleCount := by
  have hbuckets : ∀ item ∈ e.bins.items, 0 ≤ item.1 ∧ 0 ≤ item.2.exposureSeconds ∧
      (0 < item.2.exposureSeconds → 0 < item.2.sampleCount) :=
    fun item hmem => h.buckets item.1 item.2 (Dict.get?_eq_some_iff.mpr hmem)
  have hperm := perm_insertionSort (fun a b : ExposureBin => a.depthBps ≤ b.depthBps)
    ((e.bins.items.filter fun item => decide (0 < item.2.exposureSeconds)).map fun item =>
      (⟨item.1, item.2.exposureSeconds, item.2.fillCount, item.2.sampleCount⟩ : ExposureBin))
  constructor
  · rw [← h.exposure]
    refine ((hperm.map ExposureBin.exposureSeconds).sum_eq).trans ?_
    rw [map_map]
    exact sum_positive_exposure fun item hmem => (hbuckets item hmem).2.1
  · intro bin hmem
    obtain ⟨item, hitem, rfl⟩ := mem_map.mp (hperm.subset hmem)
    obtain ⟨hin, hpos⟩ := mem_filter.mp hitem
    obtain ⟨hdepth, -, hsamples⟩ := hbuckets item hin
    exact ⟨hdepth, of_decide_eq_true hpos, hsamples (of_decide_eq_true hpos)⟩

theorem endAt_spec {trades : Finset String} (h : e.Sound trades)
    (hclean : (e.endAt terminalAt).1.censorReason = "") :
    e.censorReason = "" ∧ (e.endAt terminalAt).1.Sound trades ∧
      (e.endAt terminalAt).1.acknowledgedAt = e.acknowledgedAt ∧
      (e.endAt terminalAt).1.lastObservation = terminalAt := by
  unfold endAt at hclean ⊢
  split_ifs at hclean ⊢ with hpos hbefore hafter
  · exact absurd hclean (markCensored_ne (by decide))
  · exact absurd hclean (markCensored_ne (by decide))
  · obtain ⟨hack, hsound⟩ := accrue_spec h (Prod.mk.eta (p := e.accrue terminalAt)).symm
    obtain ⟨hfirst, hended, hlast⟩ := hsound hclean
    exact ⟨hfirst, hended, hack, hlast⟩
  · exact ⟨hclean, h, rfl, le_antisymm (not_lt.mp hbefore) (not_lt.mp hafter)⟩

theorem clean_of_finish
    (hclean : (e.finish terminalAt).censorReason = "") : e.censorReason = "" := by
  obtain ⟨hnonempty, -⟩ := (note_eq_empty (by decide)).mp hclean
  obtain ⟨hended, -⟩ := (note_eq_empty (by decide)).mp hnonempty
  unfold endAt at hended
  split_ifs at hended
  · exact ((note_eq_empty (by decide)).mp hended).1
  · exact ((note_eq_empty (by decide)).mp hended).1
  · by_contra hcensored
    unfold accrue at hended
    cases hdepth : e.currentDepthBin with
    | none =>
      rw [hdepth] at hended
      exact markCensored_ne (by decide) hended
    | some depth =>
      rw [hdepth] at hended
      dsimp only at hended
      rw [if_pos hcensored] at hended
      exact markCensored_ne (by decide) hended
  · exact hended

/-- **A measurement that ends uncensored** has counted every trade in a bin with exposure, and
its exposure is the time from the acknowledgement to the end. -/
theorem finish_spec {trades : Finset String} (h : e.Sound trades)
    (hclean : (e.finish terminalAt).censorReason = "") :
    e.censorReason = "" ∧ (e.finish terminalAt).fillCount = trades.card ∧
      ((e.finish terminalAt).bins.map ExposureBin.fillCount).sum = trades.card ∧
      ((e.finish terminalAt).bins.map ExposureBin.exposureSeconds).sum =
        terminalAt - e.acknowledgedAt ∧
      ∀ bin ∈ (e.finish terminalAt).bins,
        0 ≤ bin.depthBps ∧ 0 < bin.exposureSeconds ∧ 0 < bin.sampleCount := by
  unfold finish at hclean ⊢
  dsimp only at hclean ⊢
  rw [if_pos hclean]
  obtain ⟨hnonempty, hfills⟩ := (note_eq_empty (by decide)).mp hclean
  obtain ⟨hended, -⟩ := (note_eq_empty (by decide)).mp hnonempty
  obtain ⟨hfirst, hsound, hack, hlast⟩ := endAt_spec h hended
  obtain ⟨hexposure, hbins⟩ := hsound.exposureBins
  rw [not_not.mp (of_decide_eq_false hfills), hexposure, hlast, hack]
  exact ⟨hfirst, hsound.count, hsound.count, rfl, hbins⟩

end OrderExposure

/-! ## One acknowledged quote -/

namespace Quote

/-- Nothing has made the measurement doubtful. -/
def Clean (quote : Quote) : Prop :=
  quote.censorReason = "" ∧ ∃ e, quote.exposure = some e ∧ e.censorReason = ""

/-- A quote that is clean has counted the trades. -/
def Fits (quote : Quote) (trades : Finset String) : Prop :=
  quote.censorReason = "" → ∀ e, quote.exposure = some e → e.censorReason = "" →
    quote.seenTradeIds = trades ∧ e.Sound trades ∧
      e.acknowledgedAt = quote.acknowledgedAtMonotonic

theorem markCensored_ne {quote : Quote} {reason : String} (hreason : reason ≠ "") :
    (quote.markCensored reason).censorReason ≠ "" :=
  fun heq => Bool.noConfusion ((note_eq_empty hreason).mp heq).2

theorem fits_of_ne {quote : Quote} {trades : Finset String} (h : quote.censorReason ≠ "") :
    quote.Fits trades := fun hclean => absurd hclean h

/-- A condition that leaves a quote uncensored has not changed it. -/
theorem markIf_eq {quote : Quote} {condition : Bool} {reason : String} (hreason : reason ≠ "")
    (h : (quote.markIf condition reason).censorReason = "") :
    quote.markIf condition reason = quote := by
  unfold markIf at h ⊢
  cases condition with
  | true => exact absurd h (markCensored_ne hreason)
  | false => rfl

theorem atTerminal_eq {quote : Quote} {snapshot : Snapshot}
    (h : (quote.atTerminal snapshot).censorReason = "") : quote.atTerminal snapshot = quote := by
  unfold atTerminal at h ⊢
  dsimp only at h ⊢
  have h₅ := markIf_eq (by decide) h
  rw [h₅] at h ⊢
  have h₄ := markIf_eq (by decide) h
  rw [h₄] at h ⊢
  have h₃ := markIf_eq (by decide) h
  rw [h₃] at h ⊢
  have h₂ := markIf_eq (by decide) h
  rw [h₂] at h ⊢
  exact markIf_eq (by decide) h

end Quote

/-- **An exact sample**: its bins hold all of its fills and all of its time. -/
structure Sample.Exact (sample : Sample) : Prop where
  fills : (sample.exposureBins.map ExposureBin.fillCount).sum = sample.fillCount
  exposure : (sample.exposureBins.map ExposureBin.exposureSeconds).sum =
    sample.terminalMonotonic - sample.ackMonotonic
  bins : ∀ bin ∈ sample.exposureBins,
    0 ≤ bin.depthBps ∧ 0 < bin.exposureSeconds ∧ 0 < bin.sampleCount

theorem Quote.finish_eq {terminalMonotonic : ℚ} (h : (quote.finish terminalMonotonic).2 = "") :
    quote.censorReason = "" ∧ ∃ e, quote.exposure = some e ∧
      (e.finish terminalMonotonic).censorReason = "" ∧
      (quote.finish terminalMonotonic).1 = (e.finish terminalMonotonic).bins := by
  unfold Quote.finish at h ⊢
  cases hexposure : quote.exposure with
  | none =>
    rw [hexposure] at h
    exact absurd ((note_eq_empty (by decide)).mp h).2 (by decide)
  | some e =>
    rw [hexposure] at h
    dsimp only at h ⊢
    by_cases hquote : quote.censorReason = ""
    swap
    · rw [if_neg fun hand => hquote (note_eq_empty_left hand.1)] at h
      exact absurd (note_eq_empty_left h) hquote
    simp only [if_pos hquote] at h ⊢
    split at h
    · exact absurd h (by decide)
    next hcount =>
    rw [if_neg hcount]
    refine ⟨hquote, e, rfl, ?_, rfl⟩
    by_contra hresult
    rw [hquote, note, if_pos ⟨decide_eq_true hresult, rfl⟩] at h
    exact hresult h

/-- **The sample of a quote**: uncensored only when the quote was clean to the end, and then the
trades are those the quote has counted. -/
theorem Quote.sample_spec (h : quote.Fits trades)
    (huncensored : (quote.sample snapshot).censored = false) :
    quote.Clean ∧ (quote.sample snapshot).fillCount = trades.card ∧
      (quote.sample snapshot).Exact := by
  have hreason : ((quote.atTerminal snapshot).finish (positive snapshot.updatedMonotonic)).2 =
      "" :=
    not_not.mp (of_decide_eq_false huncensored)
  obtain ⟨hclean, e, hexposure, hfinish, hbins⟩ := Quote.finish_eq hreason
  have hsame := Quote.atTerminal_eq hclean
  rw [hsame] at hclean hexposure hbins
  obtain ⟨hseen, hsound, hack⟩ := h hclean e hexposure (OrderExposure.clean_of_finish hfinish)
  obtain ⟨hfirst, -, hfills, hseconds, haccepted⟩ := OrderExposure.finish_spec hsound hfinish
  have hcount : (quote.sample snapshot).fillCount = trades.card := by
    show (quote.atTerminal snapshot).seenTradeIds.card = _
    rw [hsame, hseen]
  have hsample : (quote.sample snapshot).exposureBins =
      (e.finish (positive snapshot.updatedMonotonic)).bins := by
    show ((quote.atTerminal snapshot).finish (positive snapshot.updatedMonotonic)).1 = _
    rw [hsame]
    exact hbins
  refine ⟨⟨hclean, e, hexposure, hfirst⟩, hcount, ?_, ?_, ?_⟩
  · rw [hsample, hcount]
    exact hfills
  · rw [hsample, hseconds, hack]
    show _ = positive snapshot.updatedMonotonic -
      (quote.atTerminal snapshot).acknowledgedAtMonotonic
    rw [hsame]
  · rw [hsample]
    exact haccepted

/-- A reason a snapshot brings along stays. -/
theorem startReason_ne {s : State}
    (hreason : reason ≠ "") : s.startReason settings snapshot reason ≠ "" := by
  have hkeep : ∀ {old : String} (condition : Bool) (text : String), old ≠ "" →
      note old condition text ≠ "" := fun _ _ hold heq => hold (note_eq_empty_left heq)
  have hnoted := hkeep (decide (positive snapshot.updatedMonotonic = 0))
    "missing_oms_ack_monotonic"
    (hkeep (decide (positive snapshot.price = 0 ∨ positive snapshot.volume = 0))
      "invalid_order_price_or_quantity"
      (hkeep (decide (Text.strip snapshot.exchangeOid = "")) "missing_exchange_oid_at_rest_ack"
        (hkeep snapshot.recoveredFromJournal "recovered_order_clock_domain" hreason)))
  unfold State.startReason
  dsimp only
  split
  · exact hkeep true _ hnoted
  split_ifs
  · exact hkeep true _ hnoted
  · exact hkeep true _ hnoted
  · exact hkeep true _ hnoted
  · exact hnoted

/-- **A new quote** has counted nothing, and is clean only without a reason from its snapshot. -/
theorem newQuote_spec {s : State} (h : s.newQuote settings snapshot reason = some quote) :
    quote.Fits ∅ ∧ (reason ≠ "" → quote.censorReason ≠ "") := by
  unfold State.newQuote at h
  split at h
  · cases h
  split at h
  · cases h
  next side hside =>
  cases h
  constructor
  · intro _ e hexposure _
    dsimp only at hexposure
    split at hexposure
    · cases hexposure
    · cases hexposure
      exact ⟨rfl, OrderExposure.init_sound, rfl⟩
  · intro hreason
    dsimp only
    have hstart : s.startReason settings snapshot reason ≠ "" := startReason_ne hreason
    split
    · exact hstart
    · exact fun heq => hstart (note_eq_empty_left heq)

/-- **A trade** that is new to the quote is counted by it. -/
theorem Quote.Fits.recordFill (h : quote.Fits trades) (hid : Text.strip id = id)
    (hne : id ≠ "") :
    Quote.Fits
      (if id ∈ quote.seenTradeIds then quote
        else
          { quote with
            seenTradeIds := insert id quote.seenTradeIds
            exposure := quote.exposure.map fun e => e.recordFill id }) (insert id trades) := by
  split
  · next hseen =>
    intro hclean e hexposure hfree
    obtain ⟨heq, hsound, hack⟩ := h hclean e hexposure hfree
    have hsame : insert id trades = trades := Finset.insert_eq_of_mem (heq ▸ hseen)
    rw [hsame]
    exact ⟨heq, hsound, hack⟩
  · next hnew =>
    intro hclean e' hexposure hfree
    obtain ⟨e, he, rfl⟩ := Option.map_eq_some_iff.mp hexposure
    have hcensor : e.censorReason = "" := by
      by_contra hcensored
      rw [OrderExposure.recordFill_of_ne hcensored] at hfree
      exact hcensored hfree
    obtain ⟨heq, hsound, hack⟩ := h hclean e he hcensor
    obtain ⟨hack', hsound'⟩ := OrderExposure.recordFill_spec hsound hid hne (heq ▸ hnew)
    exact ⟨by dsimp only; rw [heq], (hsound' hfree).2, hack'.trans hack⟩

/-- **A book** leaves the trades a quote has counted alone. -/
theorem Quote.Fits.observeDepth (h : quote.Fits trades) (observedAt : ℚ) (raw : Option ℚ) :
    Quote.Fits
      { quote with exposure := quote.exposure.map fun e =>
                     e.observeDepth settings observedAt raw }
      trades := by
  intro hclean e' hexposure hfree
  obtain ⟨e, he, rfl⟩ := Option.map_eq_some_iff.mp hexposure
  have hcensor : e.censorReason = "" := by
    by_contra hcensored
    rw [OrderExposure.observeDepth_of_ne hcensored] at hfree
    exact hcensored hfree
  obtain ⟨heq, hsound, hack⟩ := h hclean e he hcensor
  obtain ⟨hack', hsound'⟩ := OrderExposure.observeDepth_spec hsound observedAt raw
  exact ⟨heq, (hsound' hfree).2, hack'.trans hack⟩

/-- A quote that is clean after a trade was clean before. -/
theorem Quote.Clean.recordFill (h : Quote.Clean
      (if id ∈ quote.seenTradeIds then quote
        else
          { quote with
            seenTradeIds := insert id quote.seenTradeIds
            exposure := quote.exposure.map fun e => e.recordFill id })) : quote.Clean := by
  split at h
  · exact h
  obtain ⟨hclean, e', hexposure, hfree⟩ := h
  obtain ⟨e, he, rfl⟩ := Option.map_eq_some_iff.mp hexposure
  refine ⟨hclean, e, he, ?_⟩
  by_contra hcensored
  rw [OrderExposure.recordFill_of_ne hcensored] at hfree
  exact hcensored hfree

/-- A quote that is clean after a book was clean before. -/
theorem Quote.Clean.observeDepth {observedAt : ℚ} {raw : Option ℚ} (h : Quote.Clean
      { quote with exposure := quote.exposure.map fun e =>
                     e.observeDepth settings observedAt raw }) :
    quote.Clean := by
  obtain ⟨hclean, e', hexposure, hfree⟩ := h
  obtain ⟨e, he, rfl⟩ := Option.map_eq_some_iff.mp hexposure
  refine ⟨hclean, e, he, ?_⟩
  by_contra hcensored
  rw [OrderExposure.observeDepth_of_ne hcensored] at hfree
  exact hcensored hfree

/-! ## The accumulators -/

/-- Exposure, fills and samples of a bucket. -/
def Bucket.totals (bucket : Bucket) : ℚ × ℕ × ℕ :=
  (bucket.exposureSeconds, bucket.fillCount, bucket.sampleCount)

/-- Exposure, fills and samples of a bin. -/
def ExposureBin.totals (bin : ExposureBin) : ℚ × ℕ × ℕ :=
  (bin.exposureSeconds, bin.fillCount, bin.sampleCount)

/-- The sum of the bins of a depth. -/
def totalsAt (depth : ℚ) (bins : List ExposureBin) : ℚ × ℕ × ℕ :=
  ((bins.filter fun bin => bin.depthBps = depth).map ExposureBin.totals).sum

theorem totalsAt_append (depth : ℚ) (first second : List ExposureBin) :
    totalsAt depth (first ++ second) = totalsAt depth first + totalsAt depth second := by
  rw [totalsAt, filter_append, map_append, sum_append]
  rfl

/-- Bins that are fit for the accumulator are all added. -/
theorem addBins_totals {bins : List ExposureBin}
    (h : ∀ bin ∈ bins, 0 ≤ bin.depthBps ∧ 0 < bin.exposureSeconds ∧ 0 < bin.sampleCount)
    (acc : Dict ℚ Bucket) (depth : ℚ) :
    ((addBins acc bins).getD depth {}).totals =
      (acc.getD depth {}).totals + totalsAt depth bins := by
  induction bins generalizing acc with
  | nil => exact (add_zero _).symm
  | cons bin rest ih =>
    obtain ⟨⟨hdepth, hexposure, hsamples⟩, hrest⟩ := forall_mem_cons.mp h
    have hadded : addAckedBin acc bin = some (acc.set bin.depthBps
        { exposureSeconds := (acc.getD bin.depthBps {}).exposureSeconds + bin.exposureSeconds
          fillCount := (acc.getD bin.depthBps {}).fillCount + bin.fillCount
          sampleCount := (acc.getD bin.depthBps {}).sampleCount + bin.sampleCount }) := by
      unfold addAckedBin
      rw [if_neg]
      rintro (hneg | hnone | hzero)
      · exact absurd hdepth (not_le.mpr hneg)
      · exact absurd hexposure (not_lt.mpr hnone)
      · exact absurd hsamples (by omega)
    rw [addBins, hadded]
    dsimp only
    rw [ih hrest, Dict.getD_set, ← singleton_append, totalsAt_append, ← add_assoc]
    congr 1
    by_cases hsame : depth = bin.depthBps
    · subst hsame
      rw [if_pos rfl, totalsAt, filter_cons_of_pos (by simp), filter_nil,
        map_singleton, sum_singleton]
      rfl
    · rw [if_neg hsame, totalsAt, filter_cons_of_neg (by simpa using Ne.symm hsame),
        filter_nil, map_nil, sum_nil, add_zero]

end ChronosHFT.Strategy.Rpi
