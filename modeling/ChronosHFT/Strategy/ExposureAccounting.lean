import ChronosHFT.Strategy.RpiEvidence

/-!
# Where the exposure of an order goes

One `RPIOrderExposure` from its acknowledgement to `finish`, under any calls of `observe_depth`,
`record_fill` and `mark_censored` in between.

An instant belongs to the depth that was observed last at or before it (`depthAt`), a trade to
the depth that was observed last when it was recorded first (`recorded`).  A result that is not
censored accounts for both (`exposure_accounted`): its bins are the depths the instants of its
lifetime belong to, the exposure of a bin is the length of the instants of its depth, and its
fills are the trades of its depth.  The length is the Lebesgue measure, so that nothing is said
about how the lifetime is cut into pieces. -/

namespace ChronosHFT.Strategy.Rpi

open List MeasureTheory

/-! ## Calls -/

/-- A call on a measurement; a time or a depth that is no number is `none`. -/
inductive ExposureCall
  | observeDepth (observedAt depth : Option ℚ)
  | recordFill (tradeId : String)
  | markCensored (reason : String)
deriving DecidableEq, Repr

namespace OrderExposure

variable (settings : Settings)

/-- One call.  A time that is no number is refused for the reason that 0 is. -/
def call (e : OrderExposure) : ExposureCall → OrderExposure
  | .observeDepth observedAt depth => e.observeDepth settings (observedAt.getD 0) depth
  | .recordFill tradeId => e.recordFill tradeId
  | .markCensored reason =>
    e.markCensored (Text.strip (if reason = "" then "unspecified_censor" else reason))

/-- The measurement after some calls. -/
def after (e : OrderExposure) (calls : List ExposureCall) : OrderExposure :=
  calls.foldl (call settings) e

/-- What `finish` leaves of the measurement. -/
def finished (e : OrderExposure) (terminalAt : Option ℚ) : OrderExposure :=
  { (e.endAt (terminalAt.getD 0)).1 with
    censorReason := (e.finish (terminalAt.getD 0)).censorReason }

end OrderExposure

/-! ## What the calls say -/

section Spec

variable (settings : Settings) (initialDepth : Option ℚ)

/-- **The depth of an instant**: the one that was observed last at or before it. -/
noncomputable def depthAt (calls : List ExposureCall) (instant : ℝ) : Option ℚ :=
  calls.foldl (fun found c =>
    match c with
    | .observeDepth (some observedAt) depth =>
      if (observedAt : ℝ) ≤ instant then quantizedDepth settings depth else found
    | _ => found) (quantizedDepth settings initialDepth)

/-- The trade that a call records. -/
def ExposureCall.trade : ExposureCall → Option String
  | .recordFill tradeId => if Text.strip tradeId = "" then none else some (Text.strip tradeId)
  | _ => none

/-- The trades that are recorded, each once. -/
def tradeIds (calls : List ExposureCall) : Finset String :=
  (calls.filterMap ExposureCall.trade).toFinset

/-- The depth that was observed last, and every trade with the depth it was recorded at first. -/
structure Told where
  current : Option ℚ
  trades : List (String × Option ℚ) := []

def Told.next (told : Told) (c : ExposureCall) : Told :=
  match c with
  | .observeDepth _ depth => { told with current := quantizedDepth settings depth }
  | .recordFill _ =>
    match c.trade with
    | none => told
    | some trade =>
      if trade ∈ told.trades.map Prod.fst then told
      else { told with trades := told.trades ++ [(trade, told.current)] }
  | .markCensored _ => told

/-- What the calls have told. -/
def tell (calls : List ExposureCall) : Told :=
  calls.foldl (Told.next settings) { current := quantizedDepth settings initialDepth }

end Spec

section Steps

variable {settings : Settings} {initialDepth : Option ℚ}

theorem depthAt_concat (calls : List ExposureCall) (c : ExposureCall) (instant : ℝ) :
    depthAt settings initialDepth (calls ++ [c]) instant =
      match c with
      | .observeDepth (some observedAt) depth =>
        if (observedAt : ℝ) ≤ instant then quantizedDepth settings depth
        else depthAt settings initialDepth calls instant
      | _ => depthAt settings initialDepth calls instant := by
  unfold depthAt
  rw [foldl_append]
  rfl

theorem tell_concat (calls : List ExposureCall) (c : ExposureCall) :
    tell settings initialDepth (calls ++ [c]) =
      (tell settings initialDepth calls).next settings c := by
  unfold tell
  rw [foldl_append]
  rfl

theorem after_concat (e : OrderExposure) (calls : List ExposureCall) (c : ExposureCall) :
    e.after settings (calls ++ [c]) = (e.after settings calls).call settings c := by
  unfold OrderExposure.after
  rw [foldl_append]
  rfl

/-- The trades that were told are the ones that are recorded, each once. -/
theorem tell_trades (calls : List ExposureCall) :
    ((tell settings initialDepth calls).trades.map Prod.fst).Nodup ∧
      ((tell settings initialDepth calls).trades.map Prod.fst).toFinset = tradeIds calls := by
  induction calls using List.reverseRecOn with
  | nil => exact ⟨nodup_nil, rfl⟩
  | append_singleton calls c ih =>
    obtain ⟨hnodup, hset⟩ := ih
    have hids : tradeIds (calls ++ [c]) = tradeIds calls ∪ (c.trade.toList).toFinset := by
      unfold tradeIds
      rw [filterMap_append, toFinset_append]
      rfl
    rw [tell_concat, hids]
    cases c with
    | observeDepth observedAt depth =>
        exact ⟨hnodup, by rw [← hset]; exact (Finset.union_empty _).symm⟩
    | markCensored reason => exact ⟨hnodup, by rw [← hset]; exact (Finset.union_empty _).symm⟩
    | recordFill id =>
      unfold Told.next
      dsimp only
      cases htrade : (ExposureCall.recordFill id).trade with
      | none => exact ⟨hnodup, by rw [← hset]; exact (Finset.union_empty _).symm⟩
      | some trade =>
        dsimp only
        by_cases hseen : trade ∈ (tell settings initialDepth calls).trades.map Prod.fst
        · rw [if_pos hseen]
          refine ⟨hnodup, ?_⟩
          rw [hset]
          have hmem : trade ∈ tradeIds calls := by
            rw [← hset]
            exact mem_toFinset.mpr hseen
          exact (Finset.union_eq_left.mpr (by simpa using hmem)).symm
        · rw [if_neg hseen]
          dsimp only
          rw [map_append, map_singleton, toFinset_append, hset]
          refine ⟨?_, rfl⟩
          exact nodup_append.mpr ⟨hnodup, nodup_singleton _, fun a ha b hb => by
            rw [mem_singleton.mp hb]
            rintro rfl
            exact hseen ha⟩

end Steps

/-! ## Length of time -/

/-- The instants of a depth, when an interval of one depth is added. -/
theorem volume_extend {f : ℝ → Option ℚ} {ack last s x d : ℚ} {current : Option ℚ}
    (hack : ack ≤ last) (hle : last ≤ s)
    (hlate : ∀ t : ℝ, last ≤ t → t < s → f t = current) (hx : 0 ≤ x)
    (h : volume {t : ℝ | ack ≤ t ∧ t < last ∧ f t = some d} = ENNReal.ofReal x) :
    volume {t : ℝ | ack ≤ t ∧ t < s ∧ f t = some d} =
      ENNReal.ofReal (x + if current = some d then s - last else 0 : ℚ) := by
  have hack' : (ack : ℝ) ≤ last := by exact_mod_cast hack
  have hle' : (last : ℝ) ≤ s := by exact_mod_cast hle
  by_cases hcurrent : current = some d
  · have hset : {t : ℝ | ack ≤ t ∧ t < s ∧ f t = some d} =
        {t : ℝ | ack ≤ t ∧ t < last ∧ f t = some d} ∪ Set.Ico (last : ℝ) s := by
      ext t
      constructor
      · rintro ⟨hfrom, hto, hd⟩
        rcases lt_or_ge t (last : ℝ) with hbefore | hafter
        · exact .inl ⟨hfrom, hbefore, hd⟩
        · exact .inr ⟨hafter, hto⟩
      · rintro (⟨hfrom, hto, hd⟩ | ⟨hfrom, hto⟩)
        · exact ⟨hfrom, hto.trans_le hle', hd⟩
        · exact ⟨hack'.trans hfrom, hto, (hlate t hfrom hto).trans hcurrent⟩
    have hdisjoint : Disjoint {t : ℝ | ack ≤ t ∧ t < last ∧
        f t = some d} (Set.Ico (last : ℝ) s) :=
      Set.disjoint_left.mpr fun t hold hnew => absurd hold.2.1 (not_lt.mpr hnew.1)
    rw [hset, measure_union hdisjoint measurableSet_Ico, h, Real.volume_Ico, if_pos hcurrent,
      ← ENNReal.ofReal_add (by exact_mod_cast hx) (sub_nonneg.mpr hle')]
    push_cast
    rfl
  · have hset : {t : ℝ | ack ≤ t ∧ t < s ∧ f t = some d} =
        {t : ℝ | ack ≤ t ∧ t < last ∧ f t = some d} := by
      ext t
      constructor
      · rintro ⟨hfrom, hto, hd⟩
        refine ⟨hfrom, lt_of_not_ge fun hafter => hcurrent ?_, hd⟩
        exact (hlate t hafter hto).symm.trans hd
      · rintro ⟨hfrom, hto, hd⟩
        exact ⟨hfrom, hto.trans_le hle', hd⟩
    rw [hset, h, if_neg hcurrent, add_zero]

/-! ## What a clean measurement accounts for -/

namespace OrderExposure

variable {settings : Settings} {initialDepth : Option ℚ} {ack : ℚ}

/-- **Time.**  Until the last book, the instants of each depth are in its bucket; from there on
the depth is the current one. -/
structure Timed (start : ℚ) (f : ℝ → Option ℚ) (e : OrderExposure) : Prop where
  ack : e.acknowledgedAt = start
  le : start ≤ e.lastObservation
  late : ∀ t : ℝ, e.lastObservation ≤ t → f t = e.currentDepthBin
  nonneg : ∀ depth, 0 ≤ (e.bins.getD depth {}).exposureSeconds
  length : ∀ depth, volume {t : ℝ | start ≤ t ∧ t < e.lastObservation ∧ f t = some depth} =
    ENNReal.ofReal ((e.bins.getD depth {}).exposureSeconds)
  reached : ∀ t : ℝ, start ≤ t → t < e.lastObservation →
    ∃ depth, f t = some depth ∧ 0 < (e.bins.getD depth {}).exposureSeconds
  total : e.bins.sumBy (fun _ bucket => bucket.exposureSeconds) = e.lastObservation - start

/-- **Trades.**  Every trade is in the bucket of its depth. -/
structure Counted (told : Told) (e : OrderExposure) : Prop where
  current : told.current = e.currentDepthBin
  seen : ∀ trade, trade ∈ e.seenTradeIds ↔ trade ∈ told.trades.map Prod.fst
  count : e.fillCount = told.trades.length
  depths : ∀ fill ∈ told.trades, fill.2.isSome = true
  fills : ∀ depth, (e.bins.getD depth {}).fillCount = told.trades.countP fun fill =>
    fill.2 = some depth
  total : e.bins.sumBy (fun _ bucket => (bucket.fillCount : ℤ)) = e.fillCount

/-- The measurement with the time since the last book in the bucket of a depth. -/
def withTime (e : OrderExposure) (depth observedAt : ℚ) : OrderExposure :=
  { e with
    bins := e.bins.set depth
      { e.bins.getD depth {} with
        exposureSeconds := (e.bins.getD depth {}).exposureSeconds +
        (observedAt - e.lastObservation)
        sampleCount := (e.bins.getD depth {}).sampleCount + 1 }
    lastObservation := observedAt }

variable {e : OrderExposure} {calls : List ExposureCall}

theorem accrue_eq {depth observedAt : ℚ} (hclean : e.censorReason = "")
    (hdepth : e.currentDepthBin = some depth) (hlater : e.lastObservation < observedAt) :
    e.accrue observedAt = (e.withTime depth observedAt, true) := by
  unfold accrue
  split
  · next hnone =>
    rw [hdepth] at hnone
    cases hnone
  · next found hfound =>
    rw [hdepth] at hfound
    cases hfound
    rw [if_neg (not_not.mpr hclean)]
    dsimp only
    rw [if_neg (not_le.mpr (sub_pos.mpr hlater))]
    rfl

theorem withTime_exposure (e : OrderExposure) (depth observedAt other : ℚ) :
    ((e.withTime depth observedAt).bins.getD other {}).exposureSeconds =
      (e.bins.getD other {}).exposureSeconds +
        if some depth = some other then observedAt - e.lastObservation else 0 := by
  unfold withTime
  dsimp only
  rw [Dict.getD_set]
  by_cases heq : other = depth
  · subst heq
    rw [if_pos rfl, if_pos rfl]
  · rw [if_neg heq, if_neg (fun h => heq (Option.some.inj h).symm), add_zero]

theorem withTime_fills (e : OrderExposure) (depth observedAt other : ℚ) :
    ((e.withTime depth observedAt).bins.getD other {}).fillCount =
      (e.bins.getD other {}).fillCount := by
  unfold withTime
  dsimp only
  rw [Dict.getD_set]
  by_cases heq : other = depth
  · subst heq
    rw [if_pos rfl]
  · rw [if_neg heq]

/-- **The time up to a book** goes to the depth there was. -/
theorem Timed.withTime {f f' : ℝ → Option ℚ} (h : Timed ack f e)
    {depth observedAt : ℚ} {next : Option ℚ} (hdepth : e.currentDepthBin = some depth)
    (hlater : e.lastObservation < observedAt) (hbefore : ∀ t : ℝ, t < observedAt → f' t = f t)
    (hafter : ∀ t : ℝ, observedAt ≤ t → f' t = next) :
    Timed ack f' { e.withTime depth observedAt with currentDepthBin := next } := by
  have hlater' : (e.lastObservation : ℝ) < observedAt := by exact_mod_cast hlater
  have hlate : ∀ t : ℝ, e.lastObservation ≤ t → t < observedAt → f' t = some depth :=
    fun t hfrom hto => (hbefore t hto).trans ((h.late t hfrom).trans hdepth)
  have hgrows : ∀ other, (e.bins.getD other {}).exposureSeconds ≤
      ((e.withTime depth observedAt).bins.getD other {}).exposureSeconds := by
    intro other
    rw [withTime_exposure]
    split
    · linarith
    · exact (add_zero _).ge
  refine ⟨h.ack, h.le.trans hlater.le, hafter, fun other =>
    (h.nonneg other).trans (hgrows other),
    fun other => ?_, fun t hfrom hto => ?_, ?_⟩
  · have hlength : volume {t : ℝ | ack ≤ t ∧ t < e.lastObservation ∧ f' t = some other} =
        ENNReal.ofReal ((e.bins.getD other {}).exposureSeconds) := by
      rw [← h.length other]
      congr 1
      ext t
      constructor
      · rintro ⟨hfrom, hto, hd⟩
        exact ⟨hfrom, hto, (hbefore t (hto.trans hlater')).symm.trans hd⟩
      · rintro ⟨hfrom, hto, hd⟩
        exact ⟨hfrom, hto, (hbefore t (hto.trans hlater')).trans hd⟩
    refine (volume_extend h.le hlater.le hlate (h.nonneg other) hlength).trans ?_
    rw [← withTime_exposure]
  · rcases lt_or_ge t (e.lastObservation : ℝ) with hold | hnew
    · obtain ⟨other, hother, hpos⟩ := h.reached t hfrom hold
      exact ⟨other, (hbefore t hto).trans hother, hpos.trans_le (hgrows other)⟩
    refine ⟨depth, hlate t hnew hto, ?_⟩
    have hadded := withTime_exposure e depth observedAt depth
    rw [if_pos rfl] at hadded
    have hnonneg := h.nonneg depth
    show 0 < ((e.withTime depth observedAt).bins.getD depth {}).exposureSeconds
    rw [hadded]
    linarith
  · show (e.bins.set depth _).sumBy _ = observedAt - ack
    rw [sumBy_set_getD e.bins Bucket.exposureSeconds rfl, h.total]
    dsimp only
    ring

/-- A book at the time of the last one changes the depth only. -/
theorem Timed.turn {f f' : ℝ → Option ℚ} (h : Timed ack f e) {next : Option ℚ}
    (hbefore : ∀ t : ℝ, t < e.lastObservation → f' t = f t)
    (hafter : ∀ t : ℝ, e.lastObservation ≤ t → f' t = next) :
    Timed ack f' { e with currentDepthBin := next } := by
  refine ⟨h.ack, h.le, hafter, h.nonneg, fun depth => ?_, fun t hfrom hto => ?_, h.total⟩
  · rw [← h.length depth]
    congr 1
    ext t
    constructor
    · rintro ⟨hfrom, hto, hd⟩
      exact ⟨hfrom, hto, (hbefore t hto).symm.trans hd⟩
    · rintro ⟨hfrom, hto, hd⟩
      exact ⟨hfrom, hto, (hbefore t hto).trans hd⟩
  · obtain ⟨depth, hdepth, hpos⟩ := h.reached t hfrom hto
    exact ⟨depth, (hbefore t hto).trans hdepth, hpos⟩

theorem Counted.withTime {told : Told} (h : Counted told e) (depth observedAt : ℚ)
    (next : Option ℚ) : Counted { told with current := next }
      { e.withTime depth observedAt with currentDepthBin := next } := by
  refine ⟨rfl, h.seen, h.count, h.depths, fun other =>
    (withTime_fills e depth observedAt other).trans
    (h.fills other), ?_⟩
  show (e.bins.set depth _).sumBy _ = (e.fillCount : ℤ)
  rw [sumBy_set_getD e.bins (fun b => (b.fillCount : ℤ)) rfl, h.total]
  dsimp only
  ring

/-- **What a clean measurement accounts for**: it has a depth, its time and its trades. -/
structure Accounts (settings : Settings) (initialDepth : Option ℚ) (start : ℚ)
    (calls : List ExposureCall) (e : OrderExposure) : Prop where
  depth : e.currentDepthBin.isSome = true
  timed : Timed start (depthAt settings initialDepth calls) e
  counted : Counted (tell settings initialDepth calls) e

/-- A new measurement. -/
theorem accounts_init {reason : String}
    (hclean : (init settings ack initialDepth reason).censorReason = "") :
    Accounts settings initialDepth ack [] (init settings ack initialDepth reason) := by
  obtain ⟨-, hmissing⟩ := (note_eq_empty (by decide)).mp hclean
  have hdepth : (quantizedDepth settings initialDepth).isSome = true := by
    simpa using hmissing
  refine ⟨hdepth, ⟨rfl, le_rfl, fun _ _ => rfl, fun _ => le_rfl, fun depth => ?_,
    fun t hfrom hto => absurd hto (not_lt.mpr hfrom), (sub_self ack).symm⟩,
    ⟨rfl, fun trade => ?_, rfl, nofun, fun _ => rfl, rfl⟩⟩
  · have hempty : {t : ℝ | ack ≤ t ∧
        t < (init settings ack initialDepth reason).lastObservation ∧
        depthAt settings initialDepth [] t = some depth} = ∅ :=
      Set.eq_empty_of_forall_notMem fun t ht => absurd ht.2.1 (not_lt.mpr ht.1)
    rw [hempty, measure_empty]
    exact ENNReal.ofReal_zero.symm.trans (by norm_num [init])
  · simp [init, tell]

/-- **A book** that leaves the measurement clean. -/
theorem Accounts.observeDepth
    (h : Accounts settings initialDepth ack calls e) {observedAt depth : Option ℚ}
    (hclean : (e.observeDepth settings (observedAt.getD 0) depth).censorReason = "") :
    Accounts settings initialDepth ack (calls ++ [.observeDepth observedAt depth])
      (e.observeDepth settings (observedAt.getD 0) depth) := by
  obtain ⟨before, hbefore⟩ := Option.isSome_iff_exists.mp h.depth
  unfold OrderExposure.observeDepth at hclean ⊢
  by_cases hcensored : e.censorReason = ""
  swap
  · rw [if_pos hcensored] at hclean
    exact absurd hclean hcensored
  rw [if_neg (not_not.mpr hcensored)] at hclean ⊢
  by_cases hpositive : observedAt.getD 0 ≤ 0
  · rw [if_pos hpositive] at hclean
    exact absurd hclean (markCensored_ne (by decide))
  rw [if_neg hpositive] at hclean ⊢
  obtain ⟨at', rfl⟩ : ∃ at', observedAt = some at' := by
    cases observedAt with
    | none => exact absurd le_rfl hpositive
    | some at' => exact ⟨at', rfl⟩
  rw [Option.getD_some] at hclean ⊢
  by_cases hearlier : at' < e.lastObservation
  · rw [if_pos hearlier] at hclean
    exact absurd hclean (markCensored_ne (by decide))
  rw [if_neg hearlier] at hclean ⊢
  have hspecBefore : ∀ t : ℝ, t < at' → depthAt settings initialDepth
      (calls ++ [.observeDepth (some at') depth]) t = depthAt settings initialDepth calls t := by
    intro t ht
    rw [depthAt_concat]
    exact if_neg (not_le.mpr ht)
  have hspecAfter : ∀ t : ℝ, at' ≤ t → depthAt settings initialDepth
      (calls ++ [.observeDepth (some at') depth]) t = quantizedDepth settings depth := by
    intro t ht
    rw [depthAt_concat]
    exact if_pos ht
  have htold : tell settings initialDepth (calls ++ [.observeDepth (some at') depth]) =
      { tell settings initialDepth calls with current := quantizedDepth settings depth } :=
    tell_concat calls _
  rcases lt_or_eq_of_le (not_lt.mp hearlier) with hlater | hsame
  · rw [if_pos hlater, accrue_eq hcensored hbefore hlater] at hclean ⊢
    dsimp only at hclean ⊢
    cases hnext : quantizedDepth settings depth with
    | none =>
      rw [hnext] at hclean
      exact absurd hclean (markCensored_ne (by decide))
    | some next =>
      rw [hnext] at hspecAfter htold
      refine ⟨rfl, h.timed.withTime hbefore hlater hspecBefore hspecAfter, ?_⟩
      rw [htold]
      exact h.counted.withTime before at' (some next)
  · subst hsame
    rw [if_neg (lt_irrefl _)] at hclean ⊢
    dsimp only at hclean ⊢
    cases hnext : quantizedDepth settings depth with
    | none =>
      rw [hnext] at hclean
      exact absurd hclean (markCensored_ne (by decide))
    | some next =>
      rw [hnext] at hspecAfter htold
      refine ⟨rfl, h.timed.turn hspecBefore hspecAfter, ?_⟩
      rw [htold]
      exact ⟨rfl, h.counted.seen, h.counted.count, h.counted.depths, h.counted.fills,
        h.counted.total⟩

/-- A call that is no book changes no time. -/
theorem depthAt_concat_of_not_book (calls : List ExposureCall) {c : ExposureCall}
    (hc : ∀ observedAt depth, c ≠ .observeDepth observedAt depth) :
    depthAt settings initialDepth (calls ++ [c]) = depthAt settings initialDepth calls := by
  funext t
  rw [depthAt_concat]
  cases c with
  | observeDepth observedAt depth => exact absurd rfl (hc observedAt depth)
  | recordFill tradeId => rfl
  | markCensored reason => rfl

/-- **A trade** that leaves the measurement clean. -/
theorem Accounts.recordFill (h : Accounts settings initialDepth ack calls e) {tradeId : String}
    (hclean : (e.recordFill tradeId).censorReason = "") :
    Accounts settings initialDepth ack (calls ++
      [.recordFill tradeId]) (e.recordFill tradeId) := by
  obtain ⟨before, hbefore⟩ := Option.isSome_iff_exists.mp h.depth
  have htime := @depthAt_concat_of_not_book settings initialDepth calls (.recordFill tradeId)
    nofun
  unfold OrderExposure.recordFill at hclean ⊢
  dsimp only at hclean ⊢
  by_cases hcensored : e.censorReason = ""
  swap
  · rw [if_pos hcensored] at hclean
    exact absurd hclean hcensored
  rw [if_neg (not_not.mpr hcensored)] at hclean ⊢
  by_cases hblank : Text.strip tradeId = ""
  · rw [if_pos hblank] at hclean
    exact absurd hclean (markCensored_ne (by decide))
  rw [if_neg hblank] at hclean ⊢
  have htrade : (ExposureCall.recordFill tradeId).trade = some (Text.strip tradeId) :=
    if_neg hblank
  have htold := @tell_concat settings initialDepth calls (.recordFill tradeId)
  unfold Told.next at htold
  dsimp only at htold
  rw [htrade] at htold
  dsimp only at htold
  by_cases hseen : Text.strip tradeId ∈ e.seenTradeIds
  · rw [if_pos hseen]
    rw [if_pos ((h.counted.seen _).mp hseen)] at htold
    exact ⟨h.depth, htime ▸ h.timed, htold ▸ h.counted⟩
  rw [if_neg hseen] at hclean ⊢
  rw [if_neg fun hmem => hseen ((h.counted.seen _).mpr hmem), h.counted.current, hbefore]
    at htold
  split
  · next hnone =>
    rw [hbefore] at hnone
    cases hnone
  next depth hdepth =>
  rw [hbefore] at hdepth
  cases hdepth
  refine ⟨h.depth, ?_, ?_⟩
  · rw [htime]
    have hexposure : ∀ other, ((e.bins.set before { e.bins.getD before {} with
        fillCount := (e.bins.getD before {}).fillCount + 1 }).getD other {}).exposureSeconds =
        (e.bins.getD other {}).exposureSeconds := by
      intro other
      rw [Dict.getD_set]
      by_cases heq : other = before
      · subst heq
        rw [if_pos rfl]
      · rw [if_neg heq]
    refine ⟨h.timed.ack, h.timed.le, h.timed.late, fun other => (h.timed.nonneg other).trans
      (hexposure other).ge, fun other => (h.timed.length other).trans ?_, fun t hfrom hto => ?_,
      ?_⟩
    · dsimp only
      rw [hexposure]
    · obtain ⟨other, hother, hpos⟩ := h.timed.reached t hfrom hto
      exact ⟨other, hother, hpos.trans_le (hexposure other).ge⟩
    · dsimp only
      rw [sumBy_set_getD e.bins Bucket.exposureSeconds rfl, sub_self, add_zero]
      exact h.timed.total
  · rw [htold]
    refine ⟨hbefore.symm, fun trade => ?_, ?_, fun fill hfill => ?_, fun other => ?_, ?_⟩
    · dsimp only
      rw [Finset.mem_insert, map_append, map_singleton, mem_append, h.counted.seen,
        mem_singleton, or_comm]
    · dsimp only
      rw [length_append, length_singleton, h.counted.count]
    · rcases mem_append.mp hfill with hold | hnew
      · exact h.counted.depths fill hold
      · rw [mem_singleton.mp hnew]
        rfl
    · dsimp only
      rw [Dict.getD_set, countP_append, countP_singleton, ← h.counted.fills other]
      by_cases heq : other = before
      · subst heq
        rw [if_pos rfl, if_pos (decide_eq_true rfl)]
      · rw [if_neg heq, if_neg (by simpa using Ne.symm heq), add_zero]
    · dsimp only
      rw [sumBy_set_getD e.bins (fun b => (b.fillCount : ℤ)) rfl, h.counted.total]
      push_cast
      ring

/-- **One call** that leaves the measurement clean. -/
theorem Accounts.call (h : Accounts settings initialDepth ack calls e) {c : ExposureCall}
    (hclean : (e.call settings c).censorReason = "") :
    Accounts settings initialDepth ack (calls ++ [c]) (e.call settings c) := by
  cases c with
  | observeDepth observedAt depth => exact h.observeDepth hclean
  | recordFill tradeId => exact h.recordFill hclean
  | markCensored reason =>
    -- a reason that is blank is none
    have hsame : ∀ text, (e.markCensored text).censorReason = "" → e.markCensored text = e := by
      intro text htext
      have hnone := note_eq_empty_left htext
      have hblank : text = "" := by
        by_contra hne
        exact absurd htext (markCensored_ne hne)
      rw [OrderExposure.markCensored, hblank, hnone]
      show { e with censorReason := "" } = e
      rw [← hnone]
    have heq : e.call settings (.markCensored reason) = e := hsame _ hclean
    have htime := @depthAt_concat_of_not_book settings initialDepth calls (.markCensored reason)
      nofun
    rw [heq]
    exact ⟨h.depth, htime ▸ h.timed, (tell_concat calls (.markCensored reason)).symm ▸ h.counted⟩

/-- **Once censored, always censored.** -/
theorem censored_call (h : e.censorReason ≠ "") (c : ExposureCall) :
    (e.call settings c).censorReason = e.censorReason := by
  cases c with
  | observeDepth observedAt depth =>
    show (e.observeDepth settings (observedAt.getD 0) depth).censorReason = _
    rw [observeDepth_of_ne h]
  | recordFill tradeId =>
    show (e.recordFill tradeId).censorReason = _
    rw [recordFill_of_ne h]
  | markCensored reason => exact if_neg fun hand => h hand.2

theorem censored_after (h : e.censorReason ≠ "") (calls : List ExposureCall) :
    (e.after settings calls).censorReason = e.censorReason := by
  induction calls using List.reverseRecOn with
  | nil => rfl
  | append_singleton calls c ih =>
    rw [after_concat, censored_call (ih.symm ▸ h), ih]

/-- **A measurement that is clean after some calls** accounts for them. -/
theorem accounts_after {reason : String}
    (hclean : ((init settings ack initialDepth reason).after settings calls).censorReason = "") :
    Accounts settings initialDepth ack calls
      ((init settings ack initialDepth reason).after settings calls) := by
  induction calls using List.reverseRecOn with
  | nil => exact accounts_init hclean
  | append_singleton calls c ih =>
    rw [after_concat] at hclean ⊢
    have hbefore : ((init settings ack initialDepth reason).after settings calls).censorReason =
        "" := by
      by_contra hne
      exact hne ((censored_call hne c).symm.trans hclean)
    exact (ih hbefore).call hclean

/-! ## The result -/

/-- The bins of a measurement are its buckets with exposure. -/
theorem mem_exposureBins {bin : ExposureBin} :
    bin ∈ e.exposureBins ↔ ∃ bucket, e.bins.get? bin.depthBps = some bucket ∧
      0 < bucket.exposureSeconds ∧
      bin = ⟨bin.depthBps, bucket.exposureSeconds, bucket.fillCount, bucket.sampleCount⟩ := by
  unfold exposureBins
  rw [mem_insertionSort, mem_map]
  constructor
  · rintro ⟨⟨depth, bucket⟩, hitem, rfl⟩
    obtain ⟨hin, hpos⟩ := mem_filter.mp hitem
    exact ⟨bucket, Dict.get?_eq_some_iff.mpr hin, of_decide_eq_true hpos, rfl⟩
  · rintro ⟨bucket, hget, hpos, heq⟩
    exact ⟨(bin.depthBps, bucket), mem_filter.mpr ⟨Dict.get?_eq_some_iff.mp hget,
      decide_eq_true hpos⟩, heq.symm⟩

theorem nodup_exposureBins (e : OrderExposure) :
    (e.exposureBins.map ExposureBin.depthBps).Nodup := by
  have hperm := perm_insertionSort (fun a b : ExposureBin => a.depthBps ≤ b.depthBps)
    ((e.bins.items.filter fun item => decide (0 < item.2.exposureSeconds)).map fun item =>
      (⟨item.1, item.2.exposureSeconds, item.2.fillCount, item.2.sampleCount⟩ : ExposureBin))
  refine (hperm.map ExposureBin.depthBps).nodup_iff.mpr ?_
  rw [map_map]
  exact e.bins.nodup.sublist (filter_sublist.map Prod.fst)

/-- **The end** of a clean measurement. -/
theorem Accounts.endAt
    (h : Accounts settings initialDepth ack calls e) (hclean : e.censorReason = "")
    {terminalAt : ℚ}
    (hended : (e.endAt terminalAt).1.censorReason = "") :
    Accounts settings initialDepth ack calls (e.endAt terminalAt).1 ∧
      (e.endAt terminalAt).1.lastObservation = terminalAt ∧ (e.endAt terminalAt).2 = terminalAt ∧
      0 < terminalAt := by
  obtain ⟨depth, hdepth⟩ := Option.isSome_iff_exists.mp h.depth
  unfold OrderExposure.endAt at hended ⊢
  by_cases hpositive : terminalAt ≤ 0
  · rw [if_pos hpositive] at hended
    exact absurd hended (markCensored_ne (by decide))
  rw [if_neg hpositive] at hended ⊢
  by_cases hearlier : terminalAt < e.lastObservation
  · rw [if_pos hearlier] at hended
    exact absurd hended (markCensored_ne (by decide))
  rw [if_neg hearlier] at hended ⊢
  rcases lt_or_eq_of_le (not_lt.mp hearlier) with hlater | hsame
  · rw [if_pos hlater, accrue_eq hclean hdepth hlater]
    have hlater' : (e.lastObservation : ℝ) < terminalAt := by exact_mod_cast hlater
    have hsame : { e.withTime depth terminalAt with currentDepthBin := some depth } =
        e.withTime depth terminalAt := by
      rw [← hdepth]
      rfl
    have htimed := h.timed.withTime hdepth hlater (fun _ _ => rfl)
      (fun t ht => (h.timed.late t (hlater'.le.trans ht)).trans hdepth)
    have hcounted := h.counted.withTime depth terminalAt (some depth)
    rw [hsame] at htimed hcounted
    have htold : { tell settings initialDepth calls with current := some depth } =
        tell settings initialDepth calls := by
      rw [← hdepth, ← h.counted.current]
    rw [htold] at hcounted
    exact ⟨⟨h.depth, htimed, hcounted⟩, rfl, rfl, not_le.mp hpositive⟩
  · rw [if_neg hsame.not_lt]
    exact ⟨h, hsame, rfl, not_le.mp hpositive⟩

end OrderExposure

/-- **What the bins of a result account for**: every instant of the lifetime and every trade. -/
structure Accounted (settings : Settings) (initialDepth : Option ℚ) (start terminal : ℚ)
    (calls : List ExposureCall) (bins : List ExposureBin) : Prop where
  exposure : (bins.map ExposureBin.exposureSeconds).sum = terminal - start
  depths : (bins.map ExposureBin.depthBps).Nodup
  instants : ∀ t : ℝ, start ≤ t → t < terminal →
    ∃ bin ∈ bins, depthAt settings initialDepth calls t = some bin.depthBps
  length : ∀ bin ∈ bins,
    volume {t : ℝ | start ≤ t ∧ t < terminal ∧
      depthAt settings initialDepth calls t = some bin.depthBps} =
        ENNReal.ofReal bin.exposureSeconds
  fills : (bins.map ExposureBin.fillCount).sum = (tradeIds calls).card
  trades : ∀ fill ∈ (tell settings initialDepth calls).trades, ∃ bin ∈ bins,
    fill.2 = some bin.depthBps
  counted : ∀ bin ∈ bins, bin.fillCount =
    (tell settings initialDepth calls).trades.countP fun fill => fill.2 = some bin.depthBps

/-- Buckets that together hold more fills than those of them with exposure: one without has some.
-/
theorem fills_of_no_exposure {items : List (ℚ × Bucket)}
    (h : ((items.filter fun item => decide (0 < item.2.exposureSeconds)).map
      fun item => item.2.fillCount).sum = (items.map fun item => item.2.fillCount).sum)
    {item : ℚ × Bucket} (hitem : item ∈ items) (hnone : ¬0 < item.2.exposureSeconds) :
    item.2.fillCount = 0 := by
  induction items with
  | nil => cases hitem
  | cons first rest ih =>
    have hle : ((rest.filter fun item => decide (0 < item.2.exposureSeconds)).map
        fun item => item.2.fillCount).sum ≤ (rest.map fun item => item.2.fillCount).sum :=
      (filter_sublist.map _).sum_le_sum (by simp)
    by_cases hpos : 0 < first.2.exposureSeconds
    · rw [filter_cons_of_pos (by simpa using hpos), map_cons, map_cons,
        sum_cons, sum_cons] at h
      rcases mem_cons.mp hitem with rfl | hrest
      · exact absurd hpos hnone
      · exact ih (by omega) hrest
    · rw [filter_cons_of_neg (by simpa using hpos), map_cons, sum_cons] at h
      rcases mem_cons.mp hitem with rfl | hrest
      · omega
      · exact ih (by omega) hrest

/-- The bins of a measurement hold all its fills if their sum is the number of fills. -/
theorem fillCount_sums {e : OrderExposure}
    (hbins : (e.exposureBins.map ExposureBin.fillCount).sum = e.fillCount)
    (htotal : e.bins.sumBy (fun _ bucket => (bucket.fillCount : ℤ)) = e.fillCount) :
    ((e.bins.items.filter fun item => decide (0 < item.2.exposureSeconds)).map
      fun item => item.2.fillCount).sum =
        (e.bins.items.map fun item => item.2.fillCount).sum := by
  have hperm := perm_insertionSort (fun a b : ExposureBin => a.depthBps ≤ b.depthBps)
    ((e.bins.items.filter fun item => decide (0 < item.2.exposureSeconds)).map fun item =>
      (⟨item.1, item.2.exposureSeconds, item.2.fillCount, item.2.sampleCount⟩ : ExposureBin))
  have hfiltered := (hperm.map ExposureBin.fillCount).sum_eq
  rw [map_map] at hfiltered
  have hall : (e.bins.items.map fun item => item.2.fillCount).sum = e.fillCount := by
    have hcast := Nat.cast_list_sum (R := ℤ) (e.bins.items.map fun item => item.2.fillCount)
    rw [map_map] at hcast
    exact Nat.cast_injective (hcast.trans htotal)
  have hbins' : (e.exposureBins.map ExposureBin.fillCount).sum =
      ((e.bins.items.filter fun item => decide (0 < item.2.exposureSeconds)).map
        fun item => item.2.fillCount).sum := hfiltered
  exact hbins'.symm.trans (hbins.trans hall.symm)

open OrderExposure in
/-- **A result that is not censored** accounts for the calls. -/
theorem accounted_of_clean {settings : Settings} {initialDepth : Option ℚ} {ack : ℚ}
    {reason : String}
    {calls : List ExposureCall} {terminalAt : ℚ}
    (hclean : (((init settings ack initialDepth reason).after settings calls).finish
      terminalAt).censorReason = "") :
    Accounted settings initialDepth ack terminalAt calls
        (((init settings ack initialDepth reason).after settings calls).finish terminalAt).bins ∧
      (((init settings ack initialDepth reason).after settings calls).finish
        terminalAt).terminalAt =
        terminalAt ∧ 0 < terminalAt := by
  have hafter := clean_of_finish hclean
  have haccounts := accounts_after hafter
  unfold finish at hclean ⊢
  dsimp only at hclean ⊢
  rw [if_pos hclean]
  obtain ⟨hnonempty, hfills⟩ := (note_eq_empty (by decide)).mp hclean
  obtain ⟨hended, -⟩ := (note_eq_empty (by decide)).mp hnonempty
  obtain ⟨hend, hlast, hterminal, hpositive⟩ := haccounts.endAt hafter hended
  refine ⟨?_, hterminal, hpositive⟩
  generalize (((init settings ack initialDepth reason).after settings calls).endAt
    terminalAt).1 = e
    at *
  have hsum : (e.exposureBins.map ExposureBin.fillCount).sum = e.fillCount :=
    not_not.mp (of_decide_eq_false hfills)
  have hperm := perm_insertionSort (fun a b : ExposureBin => a.depthBps ≤ b.depthBps)
    ((e.bins.items.filter fun item => decide (0 < item.2.exposureSeconds)).map fun item =>
      (⟨item.1, item.2.exposureSeconds, item.2.fillCount, item.2.sampleCount⟩ : ExposureBin))
  have hget : ∀ {depth : ℚ} {bucket : Bucket}, e.bins.get? depth = some bucket →
      e.bins.getD depth {} = bucket := by
    intro depth bucket h
    rw [Dict.getD, h, Option.getD_some]
  refine ⟨?_, nodup_exposureBins e, fun t hfrom hto => ?_, fun bin hbin => ?_, ?_,
    fun fill hfill => ?_,
    fun bin hbin => ?_⟩
  · refine ((hperm.map ExposureBin.exposureSeconds).sum_eq).trans ?_
    rw [map_map]
    refine (sum_positive_exposure fun item hitem => ?_).trans ?_
    · rw [← hget (Dict.get?_eq_some_iff.mpr hitem)]
      exact hend.timed.nonneg item.1
    · rw [← hlast]
      exact hend.timed.total
  · rw [← hlast] at hto
    obtain ⟨depth, hdepth, hpos⟩ := hend.timed.reached t hfrom hto
    cases hstored : e.bins.get? depth with
    | none =>
      rw [Dict.getD, hstored] at hpos
      exact absurd hpos (lt_irrefl _)
    | some bucket =>
      rw [hget hstored] at hpos
      exact ⟨⟨depth, bucket.exposureSeconds, bucket.fillCount, bucket.sampleCount⟩,
        mem_exposureBins.mpr ⟨bucket, hstored, hpos, rfl⟩, hdepth⟩
  · obtain ⟨bucket, hstored, hpos, heq⟩ := mem_exposureBins.mp hbin
    have hlength := hend.timed.length bin.depthBps
    rw [hlast, hget hstored] at hlength
    rw [hlength, heq]
  · obtain ⟨hnodup, hset⟩ := @tell_trades settings initialDepth calls
    rw [hsum, hend.counted.count, ← hset, toFinset_card_of_nodup hnodup, length_map]
  · -- a trade in a bucket without exposure would be missing from the bins
    obtain ⟨depth, hdepth⟩ := Option.isSome_iff_exists.mp (hend.counted.depths fill hfill)
    have hcounted : 0 < (e.bins.getD depth {}).fillCount := by
      rw [hend.counted.fills]
      exact countP_pos_iff.mpr ⟨fill, hfill, decide_eq_true hdepth⟩
    cases hstored : e.bins.get? depth with
    | none =>
      rw [Dict.getD, hstored] at hcounted
      exact absurd hcounted (lt_irrefl _)
    | some bucket =>
      rw [hget hstored] at hcounted
      have hpos : 0 < bucket.exposureSeconds := by
        by_contra hnone
        have htotal := hend.counted.total
        exact hcounted.ne' (fills_of_no_exposure (fillCount_sums hsum htotal)
          (Dict.get?_eq_some_iff.mp hstored) hnone)
      exact ⟨⟨depth, bucket.exposureSeconds, bucket.fillCount, bucket.sampleCount⟩,
        mem_exposureBins.mpr ⟨bucket, hstored, hpos, rfl⟩, hdepth⟩
  · obtain ⟨bucket, hstored, hpos, heq⟩ := mem_exposureBins.mp hbin
    have hcount := hend.counted.fills bin.depthBps
    rw [hget hstored] at hcount
    rw [← hcount, heq]

open OrderExposure in
/-- **Exposure accounting**, for every measurement from its acknowledgement to its end.  A result
that is not censored has a terminal time, and its bins account for the whole lifetime and for
every trade; a result that is censored has no bins; and a measurement that is censored stays so
under every call and at its end. -/
theorem exposure_accounted (settings : Settings) (ack : ℚ) (initialDepth : Option ℚ)
    (reason : String)
    (calls : List ExposureCall) (terminalAt : Option ℚ) :
    let e := (init settings ack initialDepth (Text.strip reason)).after settings calls
    let result := e.finish (terminalAt.getD 0)
    (result.censorReason = "" → ∃ terminal, terminalAt = some terminal ∧
      result.terminalAt = terminal ∧
      Accounted settings initialDepth ack terminal calls result.bins) ∧
    (result.censorReason ≠ "" → result.bins = []) ∧
    ∀ s : OrderExposure, s.censorReason ≠ "" →
    ∀ (later : List ExposureCall) (endedAt : Option ℚ),
      (s.after settings later).censorReason ≠ "" ∧
      (s.finish (endedAt.getD 0)).censorReason ≠ "" ∧
      (s.finished endedAt).censorReason ≠ "" := by
  intro e result
  refine ⟨fun hclean => ?_, fun hcensored => if_neg hcensored, fun s hs later endedAt => ?_⟩
  · obtain ⟨haccounted, hterminal, hpositive⟩ := accounted_of_clean hclean
    cases terminalAt with
    | none => exact absurd hpositive (lt_irrefl _)
    | some terminal => exact ⟨terminal, rfl, hterminal, haccounted⟩
  · have hfinish : (s.finish (endedAt.getD 0)).censorReason ≠ "" :=
      fun h => hs (clean_of_finish h)
    refine ⟨?_, hfinish, hfinish⟩
    rw [censored_after hs]
    exact hs

def unrounded : Settings := { logBps := fun _ _ => 0 }

/-- Two depths, the first of them twice, and a trade at each; the trade at the second is reported
twice. -/
def twoDepths : List ExposureCall :=
  [.observeDepth (some 2) (some 1), .recordFill "a", .recordFill "a",
    .observeDepth (some 4) (some (1 / 2)),
    .recordFill "b"]

/-- **A result that is not censored**: its two bins account for the lifetime and for both trades.
-/
theorem exposure_accounted_twoDepths :
    let e := (OrderExposure.init unrounded 1 (some (1 / 2)) "").after unrounded twoDepths
    e.finish 5 = ⟨"", 5, 2, [⟨1 / 2, 2, 1, 2⟩, ⟨1, 2, 1, 1⟩]⟩ ∧
    Accounted unrounded (some (1 / 2)) 1 5 twoDepths [⟨1 / 2, 2, 1, 2⟩, ⟨1, 2, 1, 1⟩] := by
  intro e
  have hfinish : e.finish 5 = ⟨"", 5, 2, [⟨1 / 2, 2, 1, 2⟩, ⟨1, 2, 1, 1⟩]⟩ := by decide +kernel
  obtain ⟨terminal, hterminal, _, haccounted⟩ :=
    (exposure_accounted unrounded 1 (some (1 / 2)) "" twoDepths (some 5)).1
      (congrArg ExposureResult.censorReason hfinish)
  cases hterminal
  have hbins : (e.finish 5).bins = [⟨1 / 2, 2, 1, 2⟩, ⟨1, 2, 1, 1⟩] :=
    congrArg ExposureResult.bins hfinish
  exact ⟨hfinish, hbins ▸ haccounted⟩

end ChronosHFT.Strategy.Rpi
