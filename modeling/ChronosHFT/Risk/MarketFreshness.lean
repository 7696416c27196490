import ChronosHFT.Lib.Calendar
import ChronosHFT.Lib.Run
import ChronosHFT.Oms.Submission

/-!
# Two readers of the market data

The freshness of a symbol is judged twice: by `OrderValidator` of `oms/validator.py`, which
refuses an order that may add risk, and by `MarketRiskController` of `risk/market_risk.py`, which
freezes the symbol. Both read the section `market_data_freshness` of the configuration, and the
snapshot of `data/cache.py`.

The two are hand-written copies of each other.  They agree but for one branch that the validator
lacks: a book whose bid is not below its ask is unusable to the controller, and is nothing to the
validator (`freshness_agrees_iff`).  What the controller calls crossed is admitted at any spread,
too, for the check of the spread asks for a book that is not crossed.

Numbers are exact; the cache and its readers turn every number that is not finite into 0.
-/

namespace ChronosHFT.Risk.MarketFreshness

open Oms (MarketData OrderIntent ContractInfo SubmitRejection ValidatorEnv)

/-! ## The cache -/

/-- The prices of an `OrderBook`.  The best prices are 0 where they were not set. -/
structure OrderBook where
  bestBidPrice : ℚ := 0
  bestAskPrice : ℚ := 0
  topBids : List (ℚ × ℚ) := []
  topAsks : List (ℚ × ℚ) := []
  bids : Dict ℚ ℚ := ∅
  asks : Dict ℚ ℚ := ∅
deriving DecidableEq

namespace OrderBook

/-- The price of `get_best_bid`. -/
def getBestBid (book : OrderBook) : ℚ :=
  if 0 < book.bestBidPrice then book.bestBidPrice
  else match book.topBids with
    | (price, _) :: _ => price
    | [] => book.bids.keys.max?.getD 0

/-- The price of `get_best_ask`. -/
def getBestAsk (book : OrderBook) : ℚ :=
  if 0 < book.bestAskPrice then book.bestAskPrice
  else match book.topAsks with
    | (price, _) :: _ => price
    | [] => book.asks.keys.min?.getD 0

end OrderBook

/-- What `LiveDataCache` knows of books and mark prices.  A time is a reading of the monotonic
clock; 0 is none. -/
structure LiveDataCache where
  books : Dict String OrderBook := ∅
  markPrices : Dict String ℚ := ∅
  bookUpdateTimes : Dict String ℚ := ∅
  markUpdateTimes : Dict String ℚ := ∅

/-- The prices of a risk snapshot and their ages in milliseconds. -/
structure RiskSnapshot where
  markPrice : ℚ
  bidPrice : ℚ
  askPrice : ℚ
  markAgeMs : Option ℚ
  bookAgeMs : Option ℚ
  mark_nonneg : ∀ age ∈ markAgeMs, 0 ≤ age
  book_nonneg : ∀ age ∈ bookAgeMs, 0 ≤ age

/-- The age of an update time. -/
def ageMs (now updateTime : ℚ) : Option ℚ :=
  if updateTime = 0 then none else some (max 0 ((now - updateTime) * 1000))

theorem ageMs_nonneg (now updateTime : ℚ) : ∀ age ∈ ageMs now updateTime, 0 ≤ age := by
  intro age hage
  unfold ageMs at hage
  split at hage
  · cases hage
  · rw [← Option.some.inj hage]
    exact le_max_left _ _

namespace LiveDataCache

/-- `get_mark_price`. -/
def getMarkPrice (cache : LiveDataCache) (symbol : String) : ℚ :=
  let mark := cache.markPrices.getD symbol 0
  if 0 < mark then mark
  else match cache.books.get? symbol with
    | some book =>
      if 0 < book.getBestBid ∧ 0 < book.getBestAsk then (book.getBestBid + book.getBestAsk) / 2
        else 0
    | none => 0

/-- `get_best_quote`. -/
def getBestQuote (cache : LiveDataCache) (symbol : String) : ℚ × ℚ :=
  match cache.books.get? symbol with
  | some book => (book.getBestBid, book.getBestAsk)
  | none => (0, 0)

/-- `get_risk_snapshot`, of which the freshness checks read prices and ages. -/
def getRiskSnapshot (cache : LiveDataCache) (symbol : String) (now : ℚ) : RiskSnapshot where
  markPrice := cache.markPrices.getD symbol 0
  bidPrice := (cache.getBestQuote symbol).1
  askPrice := (cache.getBestQuote symbol).2
  markAgeMs := ageMs now (cache.markUpdateTimes.getD symbol 0)
  bookAgeMs := ageMs now (cache.bookUpdateTimes.getD symbol 0)
  mark_nonneg := ageMs_nonneg _ _
  book_nonneg := ageMs_nonneg _ _

/-- What the checks of the orders read of the cache. -/
def marketData (cache : LiveDataCache) : MarketData := ⟨cache.getMarkPrice, cache.getBestQuote⟩

end LiveDataCache

/-! ## The configuration -/

/-- A number of the configuration. -/
inductive Number
  | finite (value : ℚ)
  | infinite (positive : Bool)
  | notANumber
deriving DecidableEq, Repr

/-- `max(0.0, number)`, whose first argument stays where the second is not a number. -/
def Number.limit : Number → WithTop ℚ
  | .finite value => ((max 0 value : ℚ) : WithTop ℚ)
  | .infinite true => ⊤
  | .infinite false | .notANumber => ((0 : ℚ) : WithTop ℚ)

/-- The section `market_data_freshness`.  A key that is missing is `none`, and a number that is
`null` or empty is 0. -/
structure FreshnessConfig where
  enabled : Option Bool := none
  requireMarkPrice : Option Bool := none
  requireBook : Option Bool := none
  maxMarkAgeMs : Option Number := none
  maxBookAgeMs : Option Number := none
deriving DecidableEq, Repr

/-- What a reader keeps of the section.  An age limit of 0 is none. -/
structure Freshness where
  enabled : Bool
  requireMarkPrice : Bool
  requireBook : Bool
  maxMarkAgeMs : WithTop ℚ
  maxBookAgeMs : WithTop ℚ
deriving DecidableEq

/-- The section as a reader takes it; the readers differ in the default of `enabled`. -/
def FreshnessConfig.read (c : FreshnessConfig) (enabledDefault : Bool) : Freshness where
  enabled := c.enabled.getD enabledDefault
  requireMarkPrice := c.requireMarkPrice.getD true
  requireBook := c.requireBook.getD true
  maxMarkAgeMs := (c.maxMarkAgeMs.getD (.finite 3000)).limit
  maxBookAgeMs := (c.maxBookAgeMs.getD (.finite 1500)).limit

/-! ## The faults of a snapshot -/

/-- What is wrong with the age of something that is quoted. -/
inductive AgeFault
  | timestampMissing
  | timestampInvalid
  | stale (age limit : ℚ)
deriving DecidableEq, Repr

/-- Why a snapshot is not used. -/
inductive FreshnessFault
  | markUnavailable
  | mark (fault : AgeFault)
  | bookUnavailable
  | bookCrossed (bid ask : ℚ)
  | book (fault : AgeFault)
deriving DecidableEq, Repr

/-- The checks of an age. -/
def ageFault (quoted : Prop) [Decidable quoted] (limit : WithTop ℚ) (age : Option ℚ) :
    Option AgeFault :=
  match age with
  | none => if quoted then some .timestampMissing else none
  | some age =>
    if age < 0 then some .timestampInvalid
    else if quoted ∧ 0 < limit ∧ limit < age then some (.stale age (limit.untopD 0)) else none

/-- `_validate_market_data_freshness` of the validator. -/
def validateMarketDataFreshness (f : Freshness) (s : RiskSnapshot) : Option FreshnessFault :=
  if f.requireMarkPrice ∧ s.markPrice ≤ 0 then some .markUnavailable
  else match ageFault (0 < s.markPrice) f.maxMarkAgeMs s.markAgeMs with
    | some fault => some (.mark fault)
    | none =>
      if f.requireBook ∧ (s.bidPrice ≤ 0 ∨ s.askPrice ≤ 0) then some .bookUnavailable
      else match ageFault (0 < s.bidPrice ∨ 0 < s.askPrice) f.maxBookAgeMs s.bookAgeMs with
        | some fault => some (.book fault)
        | none => none

/-- `_freshness_failure_reason` of the controller. -/
def freshnessFailureReason (f : Freshness) (s : RiskSnapshot) : Option FreshnessFault :=
  if f.requireMarkPrice ∧ s.markPrice ≤ 0 then some .markUnavailable
  else match ageFault (0 < s.markPrice) f.maxMarkAgeMs s.markAgeMs with
    | some fault => some (.mark fault)
    | none =>
      if f.requireBook ∧ (s.bidPrice ≤ 0 ∨ s.askPrice ≤ 0) then some .bookUnavailable
      else if 0 < s.bidPrice ∧ 0 < s.askPrice ∧ s.askPrice ≤ s.bidPrice then
        some (.bookCrossed s.bidPrice s.askPrice)
      else match ageFault (0 < s.bidPrice ∨ 0 < s.askPrice) f.maxBookAgeMs s.bookAgeMs with
        | some fault => some (.book fault)
        | none => none

/-! ## The validator -/

/-- The fixed-point format with so many decimals. -/
def fixedPoint (decimals : ℕ) (x : ℚ) : String :=
  let units := (Calendar.roundHalfEven (|x| * 10 ^ decimals)).toNat
  let fraction := toString (units % 10 ^ decimals)
  (if x < 0 then "-" else "") ++ toString (units / 10 ^ decimals) ++ "." ++
    String.ofList (List.replicate (decimals - fraction.length) '0') ++ fraction

/-- The text of an age that is refused. -/
def AgeFault.text (name : String) : AgeFault → String
  | .timestampMissing => "market_data_timestamp_missing:" ++ name
  | .timestampInvalid => "market_data_timestamp_invalid:" ++ name
  | .stale age limit =>
    "market_data_stale:" ++ name ++ ":" ++ fixedPoint 1 age ++ "ms>" ++ fixedPoint 1 limit ++
      "ms"

/-- The text with which the validator refuses; it never refuses a crossed book. -/
def FreshnessFault.text : FreshnessFault → String
  | .markUnavailable => "market_data_unavailable:mark_price"
  | .mark fault => fault.text "mark_price"
  | .bookUnavailable => "market_data_unavailable:book"
  | .bookCrossed _ _ => ""
  | .book fault => fault.text "book"

/-- The limits of the validator, with the defaults of the configuration. -/
structure OrderLimits where
  maxOrderQty : ℚ := 1000
  maxOrderNotional : ℚ := 5000
  maxDeviationPct : ℚ := 5 / 100
  maxSpreadPct : ℚ := 15 / 1000
  maxOrdersPerSec : ℕ := 20
  maxReduceOrdersPerSec : ℕ := maxOrdersPerSec

/-- `OrderValidator`. -/
structure OrderValidator extends OrderLimits where
  freshness : Freshness
  orderTimestamps : List ℚ := []
  reduceOrderTimestamps : List ℚ := []

namespace OrderValidator

/-- `__init__`. -/
def init (limits : OrderLimits) (c : FreshnessConfig) : OrderValidator :=
  { limits with freshness := c.read false }

/-- `_check_rate_limit`: the orders of the last second, oldest first, are counted. -/
def checkRateLimit (v : OrderValidator) (reduceOnly : Bool) (now : ℚ) :
    OrderValidator × String :=
  let timestamps := if reduceOnly then v.reduceOrderTimestamps else v.orderTimestamps
  let limit := if reduceOnly then v.maxReduceOrdersPerSec else v.maxOrdersPerSec
  let recent := timestamps.dropWhile fun timestamp => decide (timestamp < now - 1)
  let kept (timestamps : List ℚ) : OrderValidator :=
    if reduceOnly then { v with reduceOrderTimestamps := timestamps }
    else { v with orderTimestamps := timestamps }
  if limit ≤ recent.length then
    (kept recent, "rate_limit:" ++ (if reduceOnly then "reduce_only" else "risk") ++ ":" ++
      toString recent.length ++ ">=" ++ toString limit ++ "/s")
  else (kept (recent ++ [now]), "")

/-- What the checks of an order read when they are made on a snapshot. -/
def env (v : OrderValidator) (s : RiskSnapshot) (rateLimit : String) : ValidatorEnv where
  maxOrderQty := v.maxOrderQty
  maxOrderNotional := v.maxOrderNotional
  maxDeviationPct := v.maxDeviationPct
  maxSpreadPct := v.maxSpreadPct
  freshnessEnabled := v.freshness.enabled
  freshnessError := (validateMarketDataFreshness v.freshness s).elim "" FreshnessFault.text
  snapshotMark := s.markPrice
  snapshotBid := s.bidPrice
  snapshotAsk := s.askPrice
  rateLimit := rateLimit

/-- `validate_params`.  The order counts for the rate limit when every other check is passed. -/
def validateParams (v : OrderValidator) (cache : LiveDataCache) (now : ℚ) (intent : OrderIntent)
    (info : Option ContractInfo) : OrderValidator × Except SubmitRejection Unit :=
  let s := cache.getRiskSnapshot intent.symbol now
  match Oms.validateParams (v.env s "") cache.marketData intent info with
  | .error rejection => (v, .error rejection)
  | .ok () =>
    let (v', rateLimit) := v.checkRateLimit intent.reduceOnly now
    (v', Oms.verdict rateLimit)

/-- **The market data check of an order**: the fault for which `validate_params` refuses it. -/
def marketDataFault (v : OrderValidator) (s : RiskSnapshot) (reduceOnly : Bool) :
    Option FreshnessFault :=
  if v.freshness.enabled ∧ reduceOnly = false then validateMarketDataFreshness v.freshness s
    else none

end OrderValidator

/-- What `MarketRiskController` keeps of the configuration. -/
def marketRiskController (c : FreshnessConfig) : Freshness := c.read true

/-! ## What a usable snapshot is -/

/-- **Fresh**: what is quoted has an age within the limit. -/
def Fresh (quoted : Prop) (limit : WithTop ℚ) (age : Option ℚ) : Prop :=
  quoted → ∃ a : ℚ, age = some a ∧ (0 < limit → (a : WithTop ℚ) ≤ limit)

/-- **A usable mark price.** -/
structure MarkUsable (f : Freshness) (s : RiskSnapshot) : Prop where
  available : f.requireMarkPrice = true → 0 < s.markPrice
  fresh : Fresh (0 < s.markPrice) f.maxMarkAgeMs s.markAgeMs

/-- **A usable book**, as far as its two prices are not compared. -/
structure BookUsable (f : Freshness) (s : RiskSnapshot) : Prop where
  available : f.requireBook = true → 0 < s.bidPrice ∧ 0 < s.askPrice
  fresh : Fresh (0 < s.bidPrice ∨ 0 < s.askPrice) f.maxBookAgeMs s.bookAgeMs

/-- **A locked or crossed book.** -/
def RiskSnapshot.Crossed (s : RiskSnapshot) : Prop :=
  0 < s.bidPrice ∧ 0 < s.askPrice ∧ s.askPrice ≤ s.bidPrice

instance (s : RiskSnapshot) : Decidable s.Crossed := by
  unfold RiskSnapshot.Crossed
  infer_instance

/-- The checks of an age that is not negative. -/
theorem ageFault_eq_none_iff {quoted : Prop} [Decidable quoted] {limit : WithTop ℚ}
    {age : Option ℚ}
    (hnonneg : ∀ a ∈ age, 0 ≤ a) : ageFault quoted limit age = none ↔
    Fresh quoted limit age := by
  unfold ageFault Fresh
  cases age with
  | none =>
    dsimp only
    by_cases hquoted : quoted
    · rw [if_pos hquoted]
      constructor
      · intro h
        cases h
      · intro h
        obtain ⟨a, ha, -⟩ := h hquoted
        cases ha
    · rw [if_neg hquoted]
      exact ⟨fun _ h => absurd h hquoted, fun _ => rfl⟩
  | some a =>
    dsimp only
    rw [if_neg (not_lt.mpr (hnonneg a rfl))]
    by_cases hstale : quoted ∧ 0 < limit ∧ limit < a
    · rw [if_pos hstale]
      constructor
      · intro h
        cases h
      intro h
      obtain ⟨b, hb, hle⟩ := h hstale.1
      cases hb
      exact absurd (hle hstale.2.1) (not_le.mpr hstale.2.2)
    · rw [if_neg hstale]
      refine ⟨fun _ hquoted => ⟨a, rfl, fun hlimit => ?_⟩, fun _ => rfl⟩
      exact not_lt.mp fun hlate => hstale ⟨hquoted, hlimit, hlate⟩

/-- The checks of the mark price, which both readers make alike. -/
theorem mark_faults_iff (f : Freshness) (s : RiskSnapshot) :
    (¬(f.requireMarkPrice = true ∧ s.markPrice ≤ 0) ∧
      ageFault (0 < s.markPrice) f.maxMarkAgeMs s.markAgeMs = none) ↔ MarkUsable f s := by
  rw [ageFault_eq_none_iff s.mark_nonneg, not_and, not_le]
  exact ⟨fun h => ⟨h.1, h.2⟩, fun h => ⟨h.available, h.fresh⟩⟩

/-- The checks of the book that both readers make. -/
theorem book_faults_iff (f : Freshness) (s : RiskSnapshot) :
    (¬(f.requireBook = true ∧ (s.bidPrice ≤ 0 ∨ s.askPrice ≤ 0)) ∧
      ageFault (0 < s.bidPrice ∨ 0 < s.askPrice) f.maxBookAgeMs s.bookAgeMs = none) ↔
        BookUsable f s := by
  rw [ageFault_eq_none_iff s.book_nonneg, not_and, not_or, not_le, not_le]
  exact ⟨fun h => ⟨h.1, h.2⟩, fun h => ⟨h.available, h.fresh⟩⟩

/-- **What the validator accepts.** -/
theorem validate_eq_none_iff (f : Freshness) (s : RiskSnapshot) :
    validateMarketDataFreshness f s = none ↔ MarkUsable f s ∧ BookUsable f s := by
  rw [← mark_faults_iff, ← book_faults_iff]
  unfold validateMarketDataFreshness
  by_cases hmark : f.requireMarkPrice ∧ s.markPrice ≤ 0
  · rw [if_pos hmark]
    exact ⟨nofun, fun h => absurd hmark h.1.1⟩
  rw [if_neg hmark]
  cases hmarkAge : ageFault (0 < s.markPrice) f.maxMarkAgeMs s.markAgeMs with
  | some fault => exact ⟨nofun, fun h => nomatch h.1.2⟩
  | none =>
    dsimp only
    by_cases hbook : f.requireBook ∧ (s.bidPrice ≤ 0 ∨ s.askPrice ≤ 0)
    · rw [if_pos hbook]
      exact ⟨nofun, fun h => absurd hbook h.2.1⟩
    rw [if_neg hbook]
    cases hbookAge : ageFault (0 < s.bidPrice ∨ 0 < s.askPrice) f.maxBookAgeMs s.bookAgeMs with
    | some fault => exact ⟨nofun, fun h => nomatch h.2.2⟩
    | none => exact ⟨fun _ => ⟨⟨hmark, rfl⟩, hbook, rfl⟩, fun _ => rfl⟩

/-- **The controller's copy** goes on as the validator's where the book is not crossed. -/
theorem freshnessFailureReason_eq (f : Freshness) (s : RiskSnapshot) (hcrossed : ¬s.Crossed) :
    freshnessFailureReason f s = validateMarketDataFreshness f s := by
  unfold RiskSnapshot.Crossed at hcrossed
  unfold freshnessFailureReason validateMarketDataFreshness
  rw [if_neg hcrossed]

/-- **A crossed book is a fault to the controller**, whatever else is wrong. -/
theorem freshnessFailureReason_of_crossed (f : Freshness) (s : RiskSnapshot)
    (hcrossed : s.Crossed) :
    freshnessFailureReason f s ≠ none := by
  unfold RiskSnapshot.Crossed at hcrossed
  unfold freshnessFailureReason
  by_cases hmark : f.requireMarkPrice ∧ s.markPrice ≤ 0
  · rw [if_pos hmark]
    exact Option.some_ne_none _
  rw [if_neg hmark]
  cases ageFault (0 < s.markPrice) f.maxMarkAgeMs s.markAgeMs with
  | some fault => exact Option.some_ne_none _
  | none =>
    dsimp only
    by_cases hbook : f.requireBook ∧ (s.bidPrice ≤ 0 ∨ s.askPrice ≤ 0)
    · rw [if_pos hbook]
      exact Option.some_ne_none _
    · rw [if_neg hbook, if_pos hcrossed]
      exact Option.some_ne_none _

/-- **What the controller accepts.** -/
theorem freshnessFailureReason_eq_none_iff (f : Freshness) (s : RiskSnapshot) :
    freshnessFailureReason f s = none ↔ MarkUsable f s ∧ BookUsable f s ∧ ¬s.Crossed := by
  by_cases hcrossed : s.Crossed
  · exact ⟨fun h => absurd h (freshnessFailureReason_of_crossed f s hcrossed),
      fun h => absurd hcrossed h.2.2⟩
  · rw [freshnessFailureReason_eq f s hcrossed, validate_eq_none_iff]
    exact ⟨fun h => ⟨h.1, h.2, hcrossed⟩, fun h => ⟨h.1, h.2.1⟩⟩

/-! ## Admission -/

/-- Every text of an age has a first word. -/
theorem AgeFault.text_ne_empty (name : String) (fault : AgeFault) : fault.text name ≠ "" := by
  intro hempty
  unfold AgeFault.text at hempty
  cases fault with
  | timestampMissing => exact absurd (String.append_eq_empty_iff.mp hempty).1 (by decide)
  | timestampInvalid => exact absurd (String.append_eq_empty_iff.mp hempty).1 (by decide)
  | stale age limit => exact absurd (String.append_eq_empty_iff.mp hempty).2 (by decide)

/-- Every fault of the validator has a text. -/
theorem text_ne_empty {f : Freshness} {s : RiskSnapshot} {fault : FreshnessFault}
    (h : validateMarketDataFreshness f s = some fault) : fault.text ≠ "" := by
  unfold validateMarketDataFreshness at h
  split at h
  · cases h
    decide
  split at h
  · cases h
    exact AgeFault.text_ne_empty _ _
  split at h
  · cases h
    decide
  split at h
  · cases h
    exact AgeFault.text_ne_empty _ _
  · cases h

/-- The market checks refuse an order that may add risk for a fault of the snapshot. -/
theorem freshnessError_of_validateMarket {v : ValidatorEnv} {market : MarketData}
    {intent : OrderIntent}
    (henabled : v.freshnessEnabled = true) (hrisk : intent.reduceOnly = false)
    (h : Oms.validateMarket v market intent = .ok ()) : v.freshnessError = "" := by
  by_contra hfault
  unfold Oms.validateMarket at h
  dsimp only at h
  rw [if_neg (by rw [hrisk]; decide), if_pos ⟨henabled, hfault⟩] at h
  cases h

/-- **An order that may add risk is admitted** only when the validator's check finds nothing. -/
theorem marketDataFault_of_admitted {v v' : OrderValidator} {cache : LiveDataCache} {now : ℚ}
    {intent : OrderIntent} {info : Option ContractInfo} (hrisk : intent.reduceOnly = false)
    (h : v.validateParams cache now intent info = (v', .ok ())) :
    v.marketDataFault (cache.getRiskSnapshot intent.symbol now) false = none := by
  unfold OrderValidator.marketDataFault
  by_cases henabled : v.freshness.enabled = true
  swap
  · exact if_neg fun hand => henabled hand.1
  rw [if_pos ⟨henabled, rfl⟩]
  unfold OrderValidator.validateParams at h
  dsimp only at h
  split at h
  · cases h
  next hparams =>
  unfold Oms.validateParams at hparams
  obtain ⟨_, -, hparams⟩ := Run.except_bind_eq_ok.mp hparams
  obtain ⟨_, -, hparams⟩ := Run.except_bind_eq_ok.mp hparams
  obtain ⟨_, hmarket, -⟩ := Run.except_bind_eq_ok.mp hparams
  have herror := freshnessError_of_validateMarket (v := v.env _ "") henabled hrisk hmarket
  cases hfault : validateMarketDataFreshness v.freshness
    (cache.getRiskSnapshot intent.symbol now) with
  | none => rfl
  | some fault =>
    dsimp only [OrderValidator.env] at herror
    rw [hfault] at herror
    exact absurd herror (text_ne_empty hfault)

/-- The readers take the same checks from the section. -/
theorem usable_read (c : FreshnessConfig) (s : RiskSnapshot) :
    (MarkUsable (c.read false) s ↔ MarkUsable (c.read true) s) ∧
      (BookUsable (c.read false) s ↔ BookUsable (c.read true) s) :=
  ⟨⟨fun h => ⟨h.available, h.fresh⟩, fun h => ⟨h.available, h.fresh⟩⟩,
    ⟨fun h => ⟨h.available, h.fresh⟩, fun h => ⟨h.available, h.fresh⟩⟩⟩

/-- **When the two readers agree**, for every configuration and every snapshot of the cache.
Where the section is enabled they do but for a locked or crossed book that is usable otherwise;
where it is not, the validator refuses nothing, and they agree on a snapshot without any fault.
Where it is enabled and the book is neither locked nor crossed, no order that may add risk is
admitted on a snapshot that the controller finds a fault in. -/
theorem freshness_agrees_iff (limits : OrderLimits) (config : FreshnessConfig)
    (cache : LiveDataCache)
    (symbol : String) (now : ℚ) :
    let f := marketRiskController config
    let s := cache.getRiskSnapshot symbol now
    ((((OrderValidator.init limits config).marketDataFault s false ≠ none) ↔
        freshnessFailureReason f s ≠ none) ↔
      if config.enabled = some true then ¬(MarkUsable f s ∧ BookUsable f s ∧ s.Crossed)
      else MarkUsable f s ∧ BookUsable f s ∧ ¬s.Crossed) ∧
    (config.enabled = some true → ¬s.Crossed →
      ∀ (v v' : OrderValidator) (intent : OrderIntent) (info : Option ContractInfo),
        v.freshness = (OrderValidator.init limits config).freshness → intent.symbol = symbol →
        intent.reduceOnly = false → v.validateParams cache now intent info = (v', .ok ()) →
        freshnessFailureReason f s = none) := by
  intro f s
  have haccepts : validateMarketDataFreshness (config.read false) s = none ↔
      MarkUsable f s ∧ BookUsable f s := by
    rw [validate_eq_none_iff, (usable_read config s).1, (usable_read config s).2]
    exact Iff.rfl
  have hreason := freshnessFailureReason_eq_none_iff f s
  refine ⟨?_, fun henabled hcrossed v v' intent info hv hsymbol hrisk hadmitted => ?_⟩
  · by_cases henabled : config.enabled = some true
    · have hcheck : (OrderValidator.init limits config).marketDataFault s false =
          validateMarketDataFreshness (config.read false) s := by
        refine if_pos ⟨?_, rfl⟩
        show config.enabled.getD false = true
        rw [henabled, Option.getD_some]
      rw [if_pos henabled, hcheck, not_iff_not, haccepts, hreason]
      tauto
    · have hcheck : (OrderValidator.init limits config).marketDataFault s false = none := by
        refine if_neg fun hand => henabled ?_
        have hread : config.enabled.getD false = true := hand.1
        cases hset : config.enabled with
        | none =>
          rw [hset] at hread
          cases hread
        | some enabled =>
          rw [hset, Option.getD_some] at hread
          rw [hread]
      rw [if_neg henabled, hcheck, not_iff_not, hreason]
      exact ⟨fun h => h.mp rfl, fun h => ⟨fun _ => h, fun _ => rfl⟩⟩
  · have hnone := marketDataFault_of_admitted hrisk hadmitted
    rw [hsymbol] at hnone
    unfold OrderValidator.marketDataFault at hnone
    rw [hv, if_pos] at hnone
    swap
    · refine ⟨?_, rfl⟩
      show config.enabled.getD false = true
      rw [henabled, Option.getD_some]
    obtain ⟨hmark, hbook⟩ := haccepts.mp hnone
    exact hreason.mpr ⟨hmark, hbook, hcrossed⟩

/-- A book of one second whose bid is above its ask. -/
def crossedCache : LiveDataCache where
  books := (∅ : Dict String OrderBook).set "BTCUSDT" { bestBidPrice := 101, bestAskPrice := 100 }
  markPrices := (∅ : Dict String ℚ).set "BTCUSDT" 100
  bookUpdateTimes := (∅ : Dict String ℚ).set "BTCUSDT" 9
  markUpdateTimes := (∅ : Dict String ℚ).set "BTCUSDT" 9

/-- An order is admitted on a crossed book that the controller freezes the symbol for. -/
theorem freshness_disagrees_crossedCache :
    let config : FreshnessConfig := { enabled := some true }
    let v := OrderValidator.init {} config
    let s := crossedCache.getRiskSnapshot "BTCUSDT" 10
    let intent : OrderIntent :=
      { strategyId := "mm", symbol := "BTCUSDT", side := .buy, price := 100, volume := 1 }
    v.marketDataFault s false = none ∧
      freshnessFailureReason (marketRiskController config) s = some (.bookCrossed 101 100) ∧
      (v.validateParams crossedCache 10 intent none).2 = .ok () := by
  decide +kernel

end ChronosHFT.Risk.MarketFreshness
