import ChronosHFT.Lib.Calendar
import ChronosHFT.Lib.Checksums
import ChronosHFT.Lib.Run
import ChronosHFT.Sidecar.Control

/-!
# External cash flows

`get_external_cash_flow_total`, `get_daily_external_cash_flow` and
`get_cached_external_cash_flow_truth` of `risk/binance_sidecar_truth.py`.  The venue lists the
incomes of an interval in pages.  Those of a few types are flows from and to the outside; their
amounts are added, each identity once.

The total of the day is asked for at most once in an interval of time and kept.  The total of the
deployment is asked for as well when the settings say when it began; otherwise it is the total of
the day and what was carried over from earlier days, in memory.

**One query is exact** (`getExternalCashFlowTotal_eq`): where the pages list the incomes of the
interval, the total is the sum of its flows.
-/

namespace ChronosHFT.Sidecar

open List Calendar

/-! ## Incomes -/

/-- One row of the income history; a text that is missing or null is empty. -/
structure IncomeRow where
  incomeType : String
  tranId : String
  time : ℤ
  asset : String
  incomeText : String
  /-- `float(income or 0)`. -/
  income : RawFloat
  symbol : String
  info : String
  deriving DecidableEq

/-- `income_identity`. -/
def IncomeRow.identity (row : IncomeRow) : String :=
  if row.tranId ≠ "" then s!"{row.incomeType.toUpper}:{row.tranId}"
  else
    let time := if row.time = 0 then "" else toString row.time
    let fingerprint := "|".intercalate [time, row.asset, row.incomeText, row.symbol, row.info]
    Sha256.hexdigest fingerprint.toUTF8.data.toList

/-- The number of a row. -/
def IncomeRow.amount (row : IncomeRow) : ℚ :=
  match row.income with
  | .is amount => amount
  | _ => 0

/-- A row as it comes; `other` is not an object. -/
inductive IncomeItem
  | row (row : IncomeRow)
  | other
  deriving DecidableEq

/-- The settings of the exchange that are about cash flows. -/
structure CashFlowSettings where
  incomeTypes : List String := ["TRANSFER"]
  assets : List String := ["USDT", "USDC", "BUSD", "FDUSD"]
  maxPages : ℕ := 5
  pollIntervalSec : ℚ := 30
  deploymentStartMs : ℕ := 0
  seedDeploymentCashFlowTotal : ℚ := 0

/-- Why there is no total. -/
inductive CashFlowError
  | reason (text : String)
  /-- An exception that the caller of the poll turns into a failed snapshot. -/
  | raises
  deriving DecidableEq

/-- The answers of the venue: first and last millisecond, and the page. -/
abbrev Venue := ℤ → ℤ → ℕ → Except String (List IncomeItem)

/-- `limit`. -/
def pageLimit : ℕ := 1000

section Query

variable (o : CashFlowSettings)

/-- Does a row count? -/
def IncomeRow.External (row : IncomeRow) : Prop := row.incomeType.toUpper ∈ o.incomeTypes

instance (row : IncomeRow) : Decidable (row.External o) :=
  inferInstanceAs (Decidable (row.incomeType.toUpper ∈ o.incomeTypes))

/-- One row of a page: the total so far and the identities seen. -/
def addIncome (found : ℚ × List String) : IncomeItem → Except CashFlowError (ℚ × List String)
  | .other => .error (.reason "income_history_row_invalid")
  | .row row =>
    if ¬row.External o then .ok found
    else if row.asset.toUpper ∉ o.assets then
      .error (.reason ("cash_flow_asset_unsupported:" ++ orText row.asset.toUpper "empty"))
    else if row.identity ∈ found.2 then .ok found
    else
      match row.income with
      | .invalid => .error (.reason "cash_flow_amount_invalid")
      | .nonFinite => .error (.reason "cash_flow_amount_non_finite")
      | .is amount => .ok (found.1 + amount, row.identity :: found.2)

/-- The rows of a page. -/
def addIncomes : ℚ × List String → List IncomeItem → Except CashFlowError (ℚ × List String)
  | found, [] => .ok found
  | found, item :: rest => (addIncome o found item).bind fun next => addIncomes next rest

/-- The pages from one on. -/
def addPages (pages : ℕ → Except String (List IncomeItem)) :
    ℕ → ℕ → ℚ × List String → Except CashFlowError ℚ
  | 0, _, _ => .error (.reason "income_history_page_limit_exceeded")
  | left + 1, page, found =>
    match pages page with
    | .error text => .error (.reason text)
    | .ok items =>
      match addIncomes o found items with
      | .error err => .error err
      | .ok next =>
        if items.length < pageLimit then .ok next.1 else addPages pages left (page + 1) next

/-- `get_external_cash_flow_total`. -/
def getExternalCashFlowTotal (venue : Venue) (startTimeMs endTimeMs : ℤ) :
    Except CashFlowError ℚ :=
  addPages o (venue startTimeMs endTimeMs) o.maxPages 1 (0, [])

end Query

/-! ## Polls -/

/-- A reading of the clocks that is used: the corrected time is a positive number. -/
structure ClockReading where
  monotonic : ℚ
  epoch : ℚ
  positive : 0 < epoch

/-- `CashFlowTruth`. -/
structure CashFlowTruth where
  riskDay : String
  dailyExternalCashFlowTotal : ℚ
  deploymentExternalCashFlowTotal : ℚ
  ledgerGeneration : ℕ
  completeThroughMs : ℤ
  capturedMonotonic : ℚ
  deriving DecidableEq

/-- `__post_init__`. -/
def CashFlowTruth.checked (truth : CashFlowTruth) : Except CashFlowError CashFlowTruth :=
  if truth.riskDay = "" ∨ truth.completeThroughMs ≤ 0 ∨ truth.capturedMonotonic < 0 then
    .error .raises
  else .ok truth

/-- What the exchange remembers of its polls. -/
structure CashFlowCache where
  lastPollMonotonic : ℚ := 0
  dailyTotal : ℚ := 0
  deploymentTotal : ℚ
  carry : ℚ
  day : String := ""
  generation : ℕ := 0
  completeThroughMs : ℤ := 0
  initialized : Bool := false

/-- `initialize_owner`: the memory of a process that has just started. -/
def CashFlowCache.fresh (o : CashFlowSettings) : CashFlowCache where
  deploymentTotal := o.seedDeploymentCashFlowTotal
  carry := o.seedDeploymentCashFlowTotal

/-- What a poll meets: the clock is read at its start and once more for the total of the day, and
the venue is asked up to two times. -/
structure CashFlowPoll where
  first : Option ClockReading
  second : Option ClockReading
  dailyVenue : Venue
  deploymentVenue : Venue

section Poll

variable (o : CashFlowSettings)

/-- `get_daily_external_cash_flow`. -/
def getDailyExternalCashFlow (venue : Venue) (now : Option ClockReading) :
    Except CashFlowError ℚ :=
  match now with
  | none => .error (.reason "cash_flow_clock_timestamp_unavailable")
  | some now =>
    match utcDate now.epoch with
    | none => .error .raises
    | some _ => getExternalCashFlowTotal o venue (dayStartMs now.epoch) (roundedMs now.epoch)

/-- `interval`. -/
def CashFlowSettings.interval : ℚ :=
  max 1 (if o.pollIntervalSec = 0 then 30 else o.pollIntervalSec)

/-- Is the kept total still good? -/
def CashFlowCache.current (c : CashFlowCache) (riskDay : String) (nowMonotonic : ℚ) : Bool :=
  c.initialized ∧ c.day = riskDay ∧ nowMonotonic - c.lastPollMonotonic < o.interval

/-- The kept totals. -/
def CashFlowCache.truth (c : CashFlowCache) (riskDay : String) (endTimeMs : ℤ)
    (nowMonotonic : ℚ) :
    CashFlowTruth where
  riskDay := riskDay
  dailyExternalCashFlowTotal := c.dailyTotal
  deploymentExternalCashFlowTotal := c.deploymentTotal
  ledgerGeneration := c.generation
  completeThroughMs := if c.completeThroughMs = 0 then endTimeMs else c.completeThroughMs
  capturedMonotonic := nowMonotonic

/-- What is carried over to a day: at a rollover, what was kept of the day before as well. -/
def CashFlowCache.carried (c : CashFlowCache) (riskDay : String) : ℚ :=
  if c.initialized ∧ c.day ≠ "" ∧ c.day ≠ riskDay then c.carry + c.dailyTotal else c.carry

/-- What a query that succeeded leaves behind. -/
def CashFlowCache.keep (c : CashFlowCache) (now : ClockReading) (riskDay : String)
    (dailyTotal deploymentTotal : ℚ) : CashFlowCache where
  lastPollMonotonic := now.monotonic
  dailyTotal := dailyTotal
  deploymentTotal := deploymentTotal
  carry := c.carried riskDay
  day := riskDay
  generation := c.generation + 1
  completeThroughMs := ⌊now.epoch * 1000⌋
  initialized := true

/-- The total of the deployment. -/
def deploymentCashFlowTotal (c : CashFlowCache) (venue : Venue) (riskDay : String)
    (endTimeMs : ℤ)
    (dailyTotal : ℚ) : Except CashFlowError ℚ :=
  if 0 < o.deploymentStartMs then getExternalCashFlowTotal o venue o.deploymentStartMs endTimeMs
  else .ok (c.carried riskDay + dailyTotal)

/-- `get_cached_external_cash_flow_truth`. -/
def getCachedExternalCashFlowTruth (c : CashFlowCache) (p : CashFlowPoll) :
    CashFlowCache × Except CashFlowError CashFlowTruth :=
  match p.first with
  | none => (c, .error (.reason "cash_flow_clock_timestamp_unavailable"))
  | some now =>
    match utcDate now.epoch with
    | none => (c, .error .raises)
    | some riskDay =>
      let endTimeMs := ⌊now.epoch * 1000⌋
      if c.current o riskDay now.monotonic then
        (c, (c.truth riskDay endTimeMs now.monotonic).checked)
      else
        match getDailyExternalCashFlow o p.dailyVenue p.second with
        | .error err => (c, .error err)
        | .ok dailyTotal =>
          match deploymentCashFlowTotal o c p.deploymentVenue riskDay endTimeMs dailyTotal with
          | .error err => (c, .error err)
          | .ok deploymentTotal =>
            -- the totals are kept before the truth is checked
            let next := c.keep now riskDay dailyTotal deploymentTotal
            (next, (next.truth riskDay endTimeMs now.monotonic).checked)

end Poll

/-! ## What the venue has -/

/-- The incomes of an account; an identity names one of them. -/
structure IncomeHistory where
  rows : List IncomeRow
  unique : (rows.map IncomeRow.identity).Nodup

/-- The rows of the pages from one on, up to the first that is not full. -/
inductive Listing (pages : ℕ → Except String (List IncomeItem)) : ℕ → List IncomeItem → Prop
  | last {page : ℕ} {items : List IncomeItem} (hpage : pages page = .ok items)
      (hshort : items.length < pageLimit) : Listing pages page items
  | more {page : ℕ} {items rest : List IncomeItem} (hpage : pages page = .ok items)
      (hfull : ¬items.length < pageLimit) (hrest : Listing pages (page + 1) rest) :
      Listing pages page (items ++ rest)

/-- **The venue lists its incomes**: the pages of an interval have the rows of that interval. -/
def Venue.Lists (venue : Venue) (history : IncomeHistory) : Prop :=
  ∀ startTimeMs endTimeMs items, Listing (venue startTimeMs endTimeMs) 1 items →
    ∀ item, item ∈ items ↔
      ∃ row ∈ history.rows, item = .row row ∧ startTimeMs ≤ row.time ∧ row.time ≤ endTimeMs

section Flows

variable (o : CashFlowSettings) (history : IncomeHistory)

/-- The flows at some times, added up. -/
def flowsAt (during : ℤ → Prop) [DecidablePred during] : ℚ :=
  ((history.rows.filter fun row => row.External o ∧ during row.time).map IncomeRow.amount).sum

/-- The flows after one time and not after another. -/
def flowsBetween (after upTo : ℤ) : ℚ := flowsAt o history fun time => after < time ∧ time ≤ upTo

/-- The flows of a date, up to a time. -/
def flowsOfDay (riskDay : String) (upTo : ℤ) : ℚ :=
  flowsAt o history fun time => utcDate ((time : ℚ) / 1000) = some riskDay ∧ time ≤ upTo

variable {o history}

theorem flowsAt_congr {p q : ℤ → Prop} [DecidablePred p] [DecidablePred q]
    (h : ∀ time, p time ↔ q time) : flowsAt o history p = flowsAt o history q := by
  unfold flowsAt
  simp only [h]

theorem flowsAt_add {p q r : ℤ → Prop} [DecidablePred p] [DecidablePred q] [DecidablePred r]
    (hsplit : ∀ time, r time ↔ p time ∨ q time) (hdisjoint : ∀ time, ¬(p time ∧ q time)) :
    flowsAt o history p + flowsAt o history q = flowsAt o history r := by
  unfold flowsAt
  induction history.rows with
  | nil => simp
  | cons row rest ih =>
    have hnever := hdisjoint row.time
    simp only [filter_cons, decide_eq_true_eq, hsplit row.time]
    by_cases hexternal : row.External o
    · by_cases hp : p row.time
      · have hq : ¬q row.time := fun hq => hnever ⟨hp, hq⟩
        simp only [hexternal, hp, hq, or_false, and_true, and_false, if_true, if_false,
          map_cons, sum_cons, ← ih]
        ring
      · by_cases hq : q row.time
        · simp only [hexternal, hp, hq, or_true, and_true, and_false, if_true, if_false,
            map_cons, sum_cons, ← ih]
          ring
        · simp only [hp, hq, or_false, and_false, if_false, ← ih]
    · simp only [hexternal, false_and, if_false, ← ih]

theorem flowsAt_empty {p : ℤ → Prop} [DecidablePred p] (h : ∀ time, ¬p time) :
    flowsAt o history p = 0 := by
  unfold flowsAt
  simp [h]

/-- Intervals one after the other. -/
theorem flowsBetween_add {a b c : ℤ} (hab : a ≤ b) (hbc : b ≤ c) :
    flowsBetween o history a b + flowsBetween o history b c = flowsBetween o history a c := by
  unfold flowsBetween
  apply flowsAt_add
  · intro time
    omega
  · intro time
    omega

theorem flowsBetween_empty {a b : ℤ} (h : b ≤ a) : flowsBetween o history a b = 0 :=
  flowsAt_empty fun time => by omega

/-- The flows of the date of an instant, up to it. -/
theorem flowsOfDay_eq {instant : ℚ} {riskDay : String} (h : utcDate instant = some riskDay) :
    flowsOfDay o history riskDay (roundedMs instant) =
      flowsBetween o history (dayStartMs instant - 1) (roundedMs instant) := by
  apply flowsAt_congr
  intro time
  constructor
  · rintro ⟨hdate, hle⟩
    have hstart := (utcDate_ms_iff h hle).mp hdate
    omega
  · rintro ⟨hlt, hle⟩
    exact ⟨(utcDate_ms_iff h hle).mpr (by omega), hle⟩

end Flows

/-! ## One query -/

section Exact

variable {o : CashFlowSettings} {history : IncomeHistory}

/-- The rows that were added to a total: each identity once, and none that was seen before. -/
structure Adds (o : CashFlowSettings) (found next : ℚ × List String) (items : List IncomeItem)
    (rows : List IncomeRow) : Prop where
  nodup : (rows.map IncomeRow.identity).Nodup
  unseen : ∀ row ∈ rows, row.identity ∉ found.2
  listed : ∀ row ∈ rows, IncomeItem.row row ∈ items ∧ row.External o
  all : ∀ row, IncomeItem.row row ∈ items → row.External o →
    row.identity ∈ found.2 ∨ row.identity ∈ rows.map IncomeRow.identity
  total : next.1 = found.1 + (rows.map IncomeRow.amount).sum
  seen : ∀ identity, identity ∈ next.2 ↔ identity ∈ found.2 ∨
    identity ∈ rows.map IncomeRow.identity

variable {found next : ℚ × List String}

/-- What one row adds. -/
theorem addIncome_eq_ok {item : IncomeItem} (h : addIncome o found item = .ok next) :
    (next = found ∧ ∀ row, item = .row row → row.External o → row.identity ∈ found.2) ∨
      ∃ row, item = .row row ∧ row.External o ∧ row.identity ∉ found.2 ∧
        next = (found.1 + row.amount, row.identity :: found.2) := by
  cases item with
  | other => cases h
  | row row =>
    unfold addIncome at h
    simp only at h
    split at h
    · next hinternal =>
      cases h
      refine .inl ⟨rfl, ?_⟩
      rintro _ ⟨⟩ hexternal
      exact absurd hexternal hinternal
    next hexternal =>
      split at h
      · cases h
      split at h
      · next hseen =>
        cases h
        refine .inl ⟨rfl, ?_⟩
        rintro _ ⟨⟩ _
        exact hseen
      next hnew =>
        split at h
        · cases h
        · cases h
        next amount hincome =>
          cases h
          refine .inr ⟨row, rfl, not_not.mp hexternal, hnew, ?_⟩
          unfold IncomeRow.amount
          rw [hincome]

/-- **What some rows add.** -/
theorem addIncomes_adds {items : List IncomeItem}
    (h : addIncomes o found items = .ok next) : ∃ rows, Adds o found next items rows := by
  induction items generalizing found with
  | nil =>
    cases h
    exact ⟨[], nodup_nil, by simp, by simp, by simp, by simp, by simp⟩
  | cons item rest ih =>
    obtain ⟨middle, hitem, hrest⟩ := Run.except_bind_eq_ok.mp h
    obtain ⟨rows, hadds⟩ := ih hrest
    rcases addIncome_eq_ok hitem with ⟨rfl, hskipped⟩ | ⟨row, rfl, hexternal, hnew, rfl⟩
    · refine ⟨rows, hadds.nodup, hadds.unseen, ?_, ?_, hadds.total, hadds.seen⟩
      · intro row hrow
        exact ⟨mem_cons_of_mem _ (hadds.listed row hrow).1, (hadds.listed row hrow).2⟩
      intro row hrow hexternal
      rcases mem_cons.mp hrow with rfl | hmem
      · exact .inl (hskipped row rfl hexternal)
      · exact hadds.all row hmem hexternal
    · refine ⟨row :: rows, ?_, ?_, ?_, ?_, ?_, ?_⟩
      · rw [map_cons, nodup_cons]
        refine ⟨?_, hadds.nodup⟩
        rintro hmem
        obtain ⟨other, hother, hsame⟩ := mem_map.mp hmem
        exact hadds.unseen other hother (hsame ▸ mem_cons_self)
      · rintro other (_ | ⟨_, hother⟩)
        · exact hnew
        · exact fun hseen => hadds.unseen other hother (mem_cons_of_mem _ hseen)
      · rintro other (_ | ⟨_, hother⟩)
        · exact ⟨mem_cons_self, hexternal⟩
        · exact ⟨mem_cons_of_mem _ (hadds.listed other hother).1,
            (hadds.listed other hother).2⟩
      · intro other hother hcounts
        rcases mem_cons.mp hother with heq | hmem
        · cases heq
          exact .inr mem_cons_self
        rcases hadds.all other hmem hcounts with hseen | hadded
        · rcases mem_cons.mp hseen with heq | hbefore
          · exact .inr (heq ▸ mem_cons_self)
          · exact .inl hbefore
        · exact .inr (mem_cons_of_mem _ hadded)
      · rw [hadds.total, map_cons, sum_cons]
        ring
      · intro identity
        rw [hadds.seen identity, map_cons]
        simp only [mem_cons]
        tauto

/-- Rows of two pages. -/
theorem addIncomes_append {items rest : List IncomeItem} {middle : ℚ × List String}
    (h : addIncomes o found items = .ok middle) (h' : addIncomes o middle rest = .ok next) :
    addIncomes o found (items ++ rest) = .ok next := by
  induction items generalizing found with
  | nil =>
    cases h
    exact h'
  | cons item more ih =>
    obtain ⟨after, hitem, hmore⟩ := Run.except_bind_eq_ok.mp h
    exact Run.except_bind_eq_ok.mpr ⟨after, hitem, ih hmore⟩

/-- The pages that were read. -/
theorem addPages_eq_ok {pages : ℕ → Except String (List IncomeItem)} {left page : ℕ} {total : ℚ}
    (h : addPages o pages left page found = .ok total) :
    ∃ items next, Listing pages page items ∧ addIncomes o found items = .ok next ∧
      next.1 = total := by
  induction left generalizing page found with
  | zero => cases h
  | succ left ih =>
    unfold addPages at h
    split at h
    · cases h
    next items hpage =>
      split at h
      · cases h
      next next hadded =>
        split at h
        · next hshort =>
          cases h
          exact ⟨items, next, .last hpage hshort, hadded, rfl⟩
        · next hfull =>
          obtain ⟨rest, final, hlisting, hrest, htotal⟩ := ih h
          exact ⟨items ++ rest, final, .more hpage hfull hlisting,
            addIncomes_append hadded hrest, htotal⟩

/-- **One query is exact.** -/
theorem getExternalCashFlowTotal_eq {venue : Venue} (hlists : venue.Lists history)
    {startTimeMs endTimeMs : ℤ} {total : ℚ}
    (h : getExternalCashFlowTotal o venue startTimeMs endTimeMs = .ok total) :
    total = flowsBetween o history (startTimeMs - 1) endTimeMs := by
  obtain ⟨items, next, hlisting, hadded, rfl⟩ := addPages_eq_ok h
  obtain ⟨rows, hadds⟩ := addIncomes_adds hadded
  have hitems := hlists startTimeMs endTimeMs items hlisting
  have hperm : rows.Perm (history.rows.filter fun row =>
      row.External o ∧ startTimeMs - 1 < row.time ∧ row.time ≤ endTimeMs) := by
    refine (perm_ext_iff_of_nodup hadds.nodup.of_map
      (history.unique.of_map.filter _)).mpr fun row => ?_
    rw [mem_filter, decide_eq_true_eq]
    constructor
    · intro hrow
      obtain ⟨hlisted, hexternal⟩ := hadds.listed row hrow
      obtain ⟨there, hmem, heq, hstart, hend⟩ := (hitems _).mp hlisted
      cases heq
      exact ⟨hmem, hexternal, by omega, hend⟩
    · rintro ⟨hmem, hexternal, hstart, hend⟩
      have hlisted := (hitems _).mpr ⟨row, hmem, rfl, by omega, hend⟩
      rcases hadds.all row hlisted hexternal with hseen | hadded
      · cases hseen
      obtain ⟨other, hother, hsame⟩ := mem_map.mp hadded
      obtain ⟨there, hthere, heq, -⟩ := (hitems _).mp (hadds.listed other hother).1
      cases heq
      -- an identity names one row
      rw [inj_on_of_nodup_map history.unique hthere hmem hsame] at hother
      exact hother
  rw [hadds.total, zero_add]
  exact (hperm.map IncomeRow.amount).sum_eq

end Exact

/-! ## A venue with a history -/

/-- The pages of a history. -/
def Venue.ofHistory (history : IncomeHistory) : Venue := fun startTimeMs endTimeMs page =>
  let rows := history.rows.filter fun row => startTimeMs ≤ row.time ∧ row.time ≤ endTimeMs
  .ok (((rows.map IncomeItem.row).drop ((page - 1) * pageLimit)).take pageLimit)

theorem listing_ofHistory {history : IncomeHistory} {startTimeMs endTimeMs : ℤ} {page : ℕ}
    {items : List IncomeItem}
    (h : Listing (Venue.ofHistory history startTimeMs endTimeMs) page items) (hpage : 1 ≤ page) :
    items = ((history.rows.filter fun row => startTimeMs ≤ row.time ∧ row.time ≤ endTimeMs).map
      IncomeItem.row).drop ((page - 1) * pageLimit) := by
  induction h with
  | last hread hshort =>
    cases hread
    rw [length_take] at hshort
    apply take_of_length_le
    omega
  | @more page items rest hread hfull hrest ih =>
    cases hread
    have hnext : (page + 1 - 1) * pageLimit = (page - 1) * pageLimit + pageLimit := by
      unfold pageLimit
      omega
    rw [ih (by omega), hnext, ← drop_drop]
    exact take_append_drop _ _

/-- A venue that pages through its history lists it. -/
theorem lists_ofHistory (history : IncomeHistory) : (Venue.ofHistory history).Lists history := by
  intro startTimeMs endTimeMs items hlisting item
  rw [listing_ofHistory hlisting (le_refl 1)]
  simp only [Nat.sub_self, Nat.zero_mul, drop_zero, mem_map, mem_filter,
    decide_eq_true_eq]
  constructor
  · rintro ⟨row, ⟨hmem, hbounds⟩, rfl⟩
    exact ⟨row, hmem, rfl, hbounds⟩
  · rintro ⟨row, hmem, rfl, hbounds⟩
    exact ⟨row, ⟨hmem, hbounds⟩, rfl⟩

end ChronosHFT.Sidecar
