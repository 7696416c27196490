import ChronosHFT.Lib.Text
import ChronosHFT.Oms.TruthSpec

/-!
# The trade backfill

`oms/account_truth.py`, `_backfill_trade_history`: the pages of the venue's trade history that
are read for a symbol, and the trades of a page that are applied one after the other.

The first page is addressed by trade id when the symbol has a cursor, and by a window of time
when it has none; every later page starts behind the largest id of the page before.  A page with
fewer rows than its limit is the last one.

The history of the venue may grow between two pages.  `Faithful` says what a page is a page of:
the trades that match the query, lowest id first, at most as many as the limit.  Under it a
backfill that reports success has applied, in order and once, every trade above the cursor
(`backfill_complete`).  Trades at or below the cursor are read again by the overlap and passed
over, and without a cursor only the window is read.
-/

namespace ChronosHFT.Oms

open List

/-! ## Pages -/

/-- A row of a page: it may be no object, or have an id that is no integer. -/
inductive TradeRow where
  | notObject
  | badId
  | trade (trade : ExchangeTrade)
deriving DecidableEq, Repr

/-- The arguments of `get_user_trades`, the limit apart. -/
inductive TradeQuery where
  | fromId (id : ℤ)
  | window (startTime endTime : ℤ)
deriving DecidableEq, Repr

/-- `limit`, the rows of a full page. -/
def pageLimit : ℕ := 1000

/-- The pages of one symbol. -/
def maxPages : ℕ := 20

/-- The settings of the backfill; the initializer keeps them from being negative. -/
structure BackfillPolicy where
  /-- `trade_recovery_id_overlap` -/
  idOverlap : ℕ := 100
  /-- `trade_recovery_lookback_ms` -/
  lookbackMs : ℕ := 86400000
  /-- `trade_recovery_overlap_ms` -/
  overlapMs : ℕ := 60000
deriving DecidableEq, Repr

/-- What applying a trade reads besides the state: the clock and the fees, and the answer of
`query_order`. -/
structure TradeContext where
  env : EventEnv
  remote : Option RemoteOrder

/-- What the backfill reads and writes. -/
structure Scan where
  oms : OmsState
  /-- `trade_scan_end_ms` -/
  tradeScanEndMs : Dict String ℤ := ∅
  /-- Queries sent so far. -/
  asked : ℕ := 0

/-- The checks on one row. -/
def readTradeRow (symbol : String) : TradeRow → Option ExchangeTrade
  | .notObject => none
  | .badId => none
  | .trade trade =>
    let tradeSymbol := if trade.symbol = "" then symbol else trade.symbol
    if trade.id < 0 ∨ tradeSymbol.toUpper ≠ symbol.toUpper then none else some trade

/-- The checked rows, sorted by id. -/
def readTradePage (symbol : String) (rows : List TradeRow) : Option (List ExchangeTrade) :=
  (rows.mapM (readTradeRow symbol)).map
    fun trades => trades.insertionSort fun a b => a.id ≤ b.id

/-- Apply the trades of a page up to the first that fails. -/
def applyTrades (context : ExchangeTrade → TradeContext) (s : OmsState) :
    List ExchangeTrade → OmsState × Bool
  | [] => (s, true)
  | trade :: rest =>
    match s.applyExchangeTrade (context trade).env trade (context trade).remote with
    | (next, true) => applyTrades context next rest
    | (next, false) => (next, false)

/-- The largest id of a page. -/
def pageMaxId (trades : List ExchangeTrade) : ℤ := (trades.map ExchangeTrade.id).max?.getD (-1)

/-- The page was addressed by an id it does not reach. -/
def TradeQuery.behind (pageMax : ℤ) : TradeQuery → Bool
  | .fromId id => decide (pageMax < id)
  | .window _ _ => false

section Loop

variable (answer : ℕ → String → TradeQuery → Option (List TradeRow))
  (context : ℕ → ExchangeTrade → TradeContext)

/-- The pages of one symbol, with the pages that are left; no answer, or one that is no list, is
`none`. -/
def scanPages (symbol : String) : ℕ → TradeQuery → Scan → Scan × Bool
  | 0, _, scan => (scan, false)
  | pages + 1, query, scan =>
    let asked := { scan with asked := scan.asked + 1 }
    match (answer scan.asked symbol query).bind (readTradePage symbol) with
    | none => (asked, false)
    | some trades =>
      match applyTrades (context scan.asked) scan.oms trades with
      | (oms, false) => ({ asked with oms := oms }, false)
      | (oms, true) =>
        if trades.length < pageLimit then ({ asked with oms := oms }, true)
        else if query.behind (pageMaxId trades) then ({ asked with oms := oms }, false)
        else
          scanPages symbol pages (.fromId (pageMaxId trades + 1)) { asked with oms := oms }

/-- The first query of a symbol. -/
def firstQuery (policy : BackfillPolicy) (scan : Scan) (symbol : String) (endTimeMs : ℤ) :
    TradeQuery :=
  let cursor := cursorOf scan.oms.tradeCursors symbol
  if 0 ≤ cursor then .fromId (max 0 (cursor - policy.idOverlap + 1))
  else
    let priorScan := scan.tradeScanEndMs.getD symbol 0
    .window
      (max 0 ((if priorScan = 0 then endTimeMs - policy.lookbackMs else priorScan) -
        policy.overlapMs))
      endTimeMs

/-- A symbol's pages have been read to the end. -/
def Scan.completed (scan : Scan) (symbol : String) (endTimeMs : ℤ) : Scan :=
  { scan with
    oms := scan.oms.audit "trade_scan_completed"
    tradeScanEndMs := scan.tradeScanEndMs.set symbol endTimeMs }

/-- The symbols in their order, up to the first that fails. -/
def scanSymbols (policy : BackfillPolicy) (endTimeMs : ℤ) : List String → Scan → Scan × Bool
  | [], scan => (scan, true)
  | symbol :: rest, scan =>
    match scanPages answer context symbol maxPages (firstQuery policy scan symbol endTimeMs)
        scan with
    | (scanned, false) => (scanned, false)
    | (scanned, true) => scanSymbols policy endTimeMs rest (scanned.completed symbol endTimeMs)

end Loop

/-- `_backfill_trade_history`; a gateway without `get_user_trades` has nothing to read. -/
def backfillTradeHistory (policy : BackfillPolicy)
    (getUserTrades : Option (ℕ → String → TradeQuery → Option (List TradeRow)))
    (context : ℕ → ExchangeTrade → TradeContext) (symbols : List String) (endTimeMs : ℤ)
    (scan : Scan) : Scan × Bool :=
  match getUserTrades with
  | none => (scan, true)
  | some answer =>
    scanSymbols answer context policy endTimeMs (symbols.dedup.insertionSort (· ≤ ·)) scan

/-! ## The venue -/

/-- The trades a query asks for. -/
def TradeQuery.covers (trade : ExchangeTrade) : TradeQuery → Bool
  | .fromId id => decide (id ≤ trade.id)
  | .window startTime endTime =>
    match trade.time with
    | .finite time => decide ((startTime : ℚ) ≤ time ∧ time ≤ endTime)
    | _ => false

/-- The trades a page holds when the symbol's history is `history`. -/
def TradeQuery.page (query : TradeQuery) (history : List ExchangeTrade) : List ExchangeTrade :=
  (history.filter fun trade => query.covers trade).take pageLimit

/-- The answers come from a history: `histories n symbol` is the symbol's trades when query `n`
is answered, in the order of their ids, and later histories only add trades at the end.  A query
may stay unanswered; an answer is the page, its rows in any order. -/
structure Faithful (histories : ℕ → String → List ExchangeTrade)
    (answer : ℕ → String → TradeQuery → Option (List TradeRow)) : Prop where
  grows : ∀ {n m : ℕ} (symbol : String), n ≤ m → histories n symbol <+: histories m symbol
  ascending : ∀ n symbol, (histories n symbol).Pairwise fun a b => a.id < b.id
  numbered : ∀ {n symbol trade}, trade ∈ histories n symbol → 0 ≤ trade.id
  named : ∀ {n symbol trade}, trade ∈ histories n symbol → trade.symbol = symbol
  page : ∀ {n symbol query rows}, answer n symbol query = some rows →
    rows.Perm ((query.page (histories n symbol)).map TradeRow.trade)

/-- A venue that answers every query with its page. -/
def pagesOf (histories : ℕ → String → List ExchangeTrade) (n : ℕ) (symbol : String)
    (query : TradeQuery) : Option (List TradeRow) :=
  some ((query.page (histories n symbol)).map TradeRow.trade)

/-- A symbol's trades, when they do not grow. -/
theorem pagesOf_faithful {symbol : String} {trades : List ExchangeTrade}
    (hascending : trades.Pairwise fun a b => a.id < b.id)
    (htrades : ∀ trade ∈ trades, 0 ≤ trade.id ∧ trade.symbol = symbol) :
    Faithful (fun _ name => if name = symbol then trades else [])
      (pagesOf fun _ name => if name = symbol then trades else []) := by
  refine ⟨fun _ _ => prefix_rfl, ?_, ?_, ?_, ?_⟩
  · intro _ name
    split
    · exact hascending
    · exact List.Pairwise.nil
  · intro _ name trade hmem
    split at hmem
    · exact (htrades trade hmem).1
    · exact absurd hmem not_mem_nil
  · intro _ name trade hmem
    split at hmem
    · next heq => exact (htrades trade hmem).2.trans heq.symm
    · exact absurd hmem not_mem_nil
  · intro _ _ _ rows hrows
    cases hrows
    exact List.Perm.rfl

/-! ## One trade -/

theorem cursorOf_set (cursors : Dict String ℤ) (symbol : String) (id : ℤ) (other : String) :
    cursorOf (cursors.set symbol id) other = if other = symbol then id
      else cursorOf cursors other :=
  Dict.getD_set cursors symbol id other (-1)

namespace OmsState

/-- An event leaves the cursors alone. -/
theorem applyEvent_tradeCursors (env : EventEnv) (s : OmsState) (raw : RawOrderUpdate) :
    (s.applyEvent env raw).tradeCursors = s.tradeCursors := by
  rcases applyEvent_cases env s raw with hsame | ⟨u, key, order, status, -, -, happlied⟩
  · exact hsame.tradeCursors
  · exact happlied.tradeCursors

theorem restoreTerminal_tradeCursors (s : OmsState) (key : String) (before : Order)
    (now time : ℚ) : (s.restoreTerminal key before now time).tradeCursors = s.tradeCursors := by
  rcases restoreTerminal_cases s key before now time with hsame | ⟨_, _, -, -, hrecorded⟩
  · rw [hsame]
  · exact hrecorded.tradeCursors

/-- A REST source moves the cursor to every id above it. -/
theorem advanceTradeCursor_tradeCursors {s : OmsState} {symbol : String} {tradeId : ℤ}
    {source : String} (hid : 0 ≤ tradeId) (hsource : source ≠ "user_stream")
    (habove : cursorOf s.tradeCursors symbol.toUpper < tradeId) :
    (s.advanceTradeCursor symbol tradeId source).tradeCursors =
      s.tradeCursors.set symbol.toUpper tradeId := by
  unfold advanceTradeCursor
  simp only
  rw [if_neg (by rintro (h | h); exacts [absurd hid (not_le.mpr h), hsource h]),
    if_neg (not_le.mpr habove)]

/-- What a trade above the cursor does to the cursors: applied, it is the cursor; failed, the
cursors stay. -/
theorem applyTradeTo_tradeCursors (env : EventEnv) (s : OmsState) (key : String)
    {trade : ExchangeTrade} (qty price timeMs commission pnl : ℚ) (hid : 0 ≤ trade.id)
    (habove : cursorOf s.tradeCursors trade.symbol.toUpper < trade.id) :
    (s.applyTradeTo env key trade qty price timeMs commission pnl).1.tradeCursors =
      if (s.applyTradeTo env key trade qty price timeMs commission pnl).2 then
        s.tradeCursors.set trade.symbol.toUpper trade.id
      else s.tradeCursors := by
  have hmoved : ∀ {t : OmsState} {source : String}, source ≠ "user_stream" →
      t.tradeCursors = s.tradeCursors →
      (t.advanceTradeCursor trade.symbol.toUpper trade.id source).tradeCursors =
        s.tradeCursors.set trade.symbol.toUpper trade.id := by
    intro t source hsource hsame
    have habove' : cursorOf t.tradeCursors trade.symbol.toUpper.toUpper < trade.id := by
      rw [hsame, Text.toUpper_toUpper]
      exact habove
    rw [advanceTradeCursor_tradeCursors hid hsource habove', hsame, Text.toUpper_toUpper]
  unfold applyTradeTo
  dsimp only
  cases s.orders.get? key with
  | none => rfl
  | some order =>
    dsimp only
    split
    · exact hmoved (by decide) rfl
    have happlied := applyEvent_tradeCursors env s
      (tradeUpdate order trade qty price timeMs commission pnl)
    generalize s.applyEvent env (tradeUpdate order trade qty price timeMs commission pnl) =
      applied at happlied ⊢
    cases applied.orders.get? key with
    | none => exact happlied
    | some after =>
      dsimp only
      split
      · exact happlied
      refine hmoved (by decide) ?_
      show (applied.restoreTerminal key order env.now (timeMs / 1000)).tradeCursors = _
      rw [restoreTerminal_tradeCursors]
      exact happlied

/-- **One trade**: it is at or below the cursor and passed over, or it is above and becomes the
cursor when it is applied; a trade that fails leaves the cursors alone. -/
theorem applyExchangeTrade_spec (env : EventEnv) (s : OmsState) (trade : ExchangeTrade)
    (remote : Option RemoteOrder) {s' : OmsState} {ok : Bool}
    (h : s.applyExchangeTrade env trade remote = (s', ok)) :
    (s' = s ∧ (ok = true → trade.id ≤ cursorOf s.tradeCursors trade.symbol.toUpper)) ∨
      (0 ≤ trade.id ∧ cursorOf s.tradeCursors trade.symbol.toUpper < trade.id ∧
        s'.tradeCursors =
          if ok then s.tradeCursors.set trade.symbol.toUpper trade.id else s.tradeCursors) := by
  unfold applyExchangeTrade at h
  dsimp only at h
  split at h
  · cases h
    exact Or.inl ⟨rfl, fun h => Bool.noConfusion h⟩
  next hvalid =>
  push Not at hvalid
  split at h
  · next hbelow =>
    cases h
    exact Or.inl ⟨rfl, fun _ => hbelow⟩
  next habove =>
  have habove' := not_le.mp habove
  have hfailed : (s, false) = (s', ok) → (s' = s ∧
      (ok = true → trade.id ≤ cursorOf s.tradeCursors trade.symbol.toUpper)) := by
    intro heq
    cases heq
    exact ⟨rfl, fun h => Bool.noConfusion h⟩
  split at h
  · next qty price timeMs commission pnl _ _ _ _ _ =>
    split at h
    · exact Or.inl (hfailed h)
    split at h
    · next key hkey =>
      have hcursors := applyTradeTo_tradeCursors env s key qty price timeMs commission pnl
        hvalid.2 habove'
      rw [h] at hcursors
      exact Or.inr ⟨hvalid.2, habove', hcursors⟩
    split at h
    · exact Or.inl (hfailed h)
    next r =>
    split at h
    · exact Or.inl (hfailed h)
    next created hcreated =>
    obtain ⟨-, -, -, -, hsame, -⟩ := createRecoveredOrder_ok hcreated
    have hcursors := applyTradeTo_tradeCursors env created r.clientOid qty price timeMs
      commission pnl hvalid.2 (by rw [hsame]; exact habove')
    rw [h, hsame] at hcursors
    exact Or.inr ⟨hvalid.2, habove', hcursors⟩
  · exact Or.inl (hfailed h)

end OmsState

open OmsState

/-! ## Trades in order -/

/-- The trades of a symbol were applied one after the other, each of them above the cursor it
found. -/
inductive AppliedInOrder (symbol : String) : OmsState → List ExchangeTrade → OmsState → Prop
  | nil (s : OmsState) : AppliedInOrder symbol s [] s
  | cons {s next s' : OmsState} {trade : ExchangeTrade} {rest : List ExchangeTrade}
      (context : TradeContext) (named : trade.symbol.toUpper = symbol)
      (above : cursorOf s.tradeCursors symbol < trade.id)
      (applied : s.applyExchangeTrade context.env trade context.remote = (next, true))
      (more : AppliedInOrder symbol next rest s') : AppliedInOrder symbol s (trade :: rest) s'

namespace AppliedInOrder

variable {symbol : String} {s s' s'' : OmsState} {trades more : List ExchangeTrade}

theorem append (h : AppliedInOrder symbol s trades s') (h' : AppliedInOrder symbol s' more s'') :
    AppliedInOrder symbol s (trades ++ more) s'' := by
  induction h with
  | nil => exact h'
  | cons context named above applied _ ih => exact .cons context named above applied (ih h')

/-- An applied trade is the cursor of its symbol. -/
theorem tradeCursors_of_applied {next : OmsState} {trade : ExchangeTrade}
    {context : TradeContext}
    (named : trade.symbol.toUpper = symbol) (above : cursorOf s.tradeCursors symbol < trade.id)
    (applied : s.applyExchangeTrade context.env trade context.remote = (next, true)) :
    next.tradeCursors = s.tradeCursors.set symbol trade.id := by
  rcases applyExchangeTrade_spec _ _ _ _ applied with ⟨-, hbelow⟩ | ⟨-, -, hset⟩
  · have := hbelow rfl
    rw [named] at this
    exact absurd above (not_lt.mpr this)
  · rw [if_pos rfl, named] at hset
    exact hset

/-- The cursor ends at the last trade. -/
theorem cursor (h : AppliedInOrder symbol s trades s') :
    cursorOf s'.tradeCursors symbol =
      (trades.map ExchangeTrade.id).getLast?.getD (cursorOf s.tradeCursors symbol) := by
  induction h with
  | nil => rfl
  | @cons s next s' trade rest context named above applied _ ih =>
    have hnext : cursorOf next.tradeCursors symbol = trade.id := by
      rw [tradeCursors_of_applied named above applied, cursorOf_set, if_pos rfl]
    rw [ih, hnext, map_cons, List.getLast?_cons, Option.getD_some]

/-- The other cursors stay. -/
theorem others (h : AppliedInOrder symbol s trades s') {other : String}
    (hother : other ≠ symbol) :
    cursorOf s'.tradeCursors other = cursorOf s.tradeCursors other := by
  induction h with
  | nil => rfl
  | cons context named above applied _ ih =>
    rw [ih, tradeCursors_of_applied named above applied, cursorOf_set, if_neg hother]

/-- The trades are above the cursor, in the order of their ids. -/
theorem ascending (h : AppliedInOrder symbol s trades s') :
    (∀ trade ∈ trades, cursorOf s.tradeCursors symbol < trade.id) ∧
      trades.Pairwise fun a b => a.id < b.id := by
  induction h with
  | nil => exact ⟨fun _ hmem => absurd hmem not_mem_nil, List.Pairwise.nil⟩
  | @cons s next s' trade rest context named above applied _ ih =>
    obtain ⟨habove, hpairwise⟩ := ih
    have hnext : cursorOf next.tradeCursors symbol = trade.id := by
      rw [tradeCursors_of_applied named above applied, cursorOf_set, if_pos rfl]
    rw [hnext] at habove
    refine ⟨?_, pairwise_cons.mpr ⟨habove, hpairwise⟩⟩
    intro other hmem
    rcases mem_cons.mp hmem with rfl | hrest
    · exact above
    · exact above.trans (habove other hrest)

/-- No applied trade is above the cursor that is left, and the cursor has not moved back. -/
theorem le_cursor (h : AppliedInOrder symbol s trades s') :
    cursorOf s.tradeCursors symbol ≤ cursorOf s'.tradeCursors symbol ∧
      ∀ trade ∈ trades, trade.id ≤ cursorOf s'.tradeCursors symbol := by
  induction h with
  | nil => exact ⟨le_rfl, fun _ hmem => absurd hmem not_mem_nil⟩
  | @cons s next s' trade rest context named above applied _ ih =>
    obtain ⟨hcursor, hrest⟩ := ih
    rw [tradeCursors_of_applied named above applied, cursorOf_set, if_pos rfl] at hcursor
    refine ⟨above.le.trans hcursor, ?_⟩
    intro other hmem
    rcases mem_cons.mp hmem with rfl | hmem
    · exact hcursor
    · exact hrest other hmem

/-- The cursor is where it was, or at an applied trade. -/
theorem cursor_mem (h : AppliedInOrder symbol s trades s') :
    cursorOf s'.tradeCursors symbol = cursorOf s.tradeCursors symbol ∨
      ∃ trade ∈ trades, trade.id = cursorOf s'.tradeCursors symbol := by
  rw [h.cursor]
  cases hlast : (trades.map ExchangeTrade.id).getLast? with
  | none => exact Or.inl rfl
  | some id => exact Or.inr (mem_map.mp (mem_of_getLast? hlast))

end AppliedInOrder

/-- **A page**: when every trade succeeds, those above the cursor were applied in order. -/
theorem applyTrades_applied {context : ExchangeTrade → TradeContext} {symbol : String}
    {s s' : OmsState} {trades : List ExchangeTrade}
    (h : applyTrades context s trades = (s', true))
    (hascending : trades.Pairwise fun a b => a.id < b.id)
    (hnamed : ∀ trade ∈ trades, trade.symbol.toUpper = symbol) :
    AppliedInOrder symbol s
      (trades.filter fun trade => decide (cursorOf s.tradeCursors symbol < trade.id)) s' := by
  induction trades generalizing s with
  | nil =>
    cases h
    exact .nil _
  | cons trade rest ih =>
    obtain ⟨hfirst, hrest⟩ := pairwise_cons.mp hascending
    have hname := hnamed trade mem_cons_self
    have hnamed' : ∀ t ∈ rest, t.symbol.toUpper = symbol :=
      fun t hmem => hnamed t (mem_cons_of_mem _ hmem)
    rw [applyTrades] at h
    cases happly : s.applyExchangeTrade (context trade).env trade (context trade).remote with
    | mk next ok =>
      rw [happly] at h
      cases ok with
      | false => cases h
      | true =>
        dsimp only at h
        have happlied := ih h hrest hnamed'
        rcases applyExchangeTrade_spec _ _ _ _ happly with ⟨hsame, hbelow⟩ | ⟨-, habove, -⟩
        · have hbelow := hbelow rfl
          rw [hname] at hbelow
          rw [hsame] at happlied
          rw [filter_cons_of_neg (by simpa using hbelow)]
          exact happlied
        · rw [hname] at habove
          -- the rest of the page is above the new cursor, hence above the old one
          have hnext : cursorOf next.tradeCursors symbol = trade.id := by
            rw [AppliedInOrder.tradeCursors_of_applied hname habove happly,
              cursorOf_set, if_pos rfl]
          have hall : ∀ c, c ≤ trade.id → (rest.filter fun t => decide (c < t.id)) = rest :=
            fun c hc => filter_eq_self.mpr
              fun t hmem => decide_eq_true (lt_of_le_of_lt hc (hfirst t hmem))
          rw [hnext, hall _ le_rfl] at happlied
          rw [filter_cons_of_pos (by simpa using habove), hall _ habove.le]
          exact .cons (context trade) hname habove happly happlied

/-- A page never moves a cursor back. -/
theorem applyTrades_cursor_le (context : ExchangeTrade → TradeContext) (s : OmsState)
    (trades : List ExchangeTrade) (symbol : String) :
    cursorOf s.tradeCursors symbol ≤
      cursorOf (applyTrades context s trades).1.tradeCursors symbol := by
  induction trades generalizing s with
  | nil => exact le_rfl
  | cons trade rest ih =>
    rw [applyTrades]
    cases happly : s.applyExchangeTrade (context trade).env trade (context trade).remote with
    | mk next ok =>
      have hnext : cursorOf s.tradeCursors symbol ≤ cursorOf next.tradeCursors symbol := by
        rcases applyExchangeTrade_spec _ _ _ _ happly with ⟨hsame, -⟩ | ⟨-, habove, hset⟩
        · rw [hsame]
        rw [hset]
        cases ok with
        | false => exact le_rfl
        | true =>
          rw [if_pos rfl, cursorOf_set]
          split
          · next heq =>
            rw [heq]
            exact habove.le
          · exact le_rfl
      cases ok with
      | false => exact hnext
      | true => exact hnext.trans (ih next)

/-! ## One page -/

section Page

variable {history : List ExchangeTrade} {trade : ExchangeTrade}

/-- In an ascending list the elements up to an element of a head segment are in it. -/
theorem mem_of_le_of_head {segment : List ExchangeTrade} (hhead : segment <+: history)
    (hascending : history.Pairwise fun a b => a.id < b.id) {last : ExchangeTrade}
    (hmem : trade ∈ history) (hlast : last ∈ segment) (hle : trade.id ≤ last.id) :
    trade ∈ segment := by
  obtain ⟨rest, rfl⟩ := hhead
  rcases mem_append.mp hmem with hin | hrest
  · exact hin
  · have hbehind := (pairwise_append.mp hascending).2.2 last hlast trade hrest
    exact absurd hle (not_le.mpr hbehind)

theorem readTradeRows_eq_some {symbol : String} {rows : List TradeRow}
    {trades : List ExchangeTrade} (h : rows.mapM (readTradeRow symbol) = some trades) :
    rows = trades.map TradeRow.trade := by
  induction rows generalizing trades with
  | nil =>
    cases h
    rfl
  | cons row rest ih =>
    rw [mapM_cons] at h
    obtain ⟨trade, htrade, h⟩ := Option.bind_eq_some_iff.mp h
    obtain ⟨more, hmore, h⟩ := Option.bind_eq_some_iff.mp h
    cases h
    rw [map_cons, ← ih hmore]
    cases row with
    | notObject => cases htrade
    | badId => cases htrade
    | trade raw =>
      simp only [readTradeRow] at htrade
      split_ifs at htrade
      all_goals
        cases htrade
        rfl

/-- A page that passes its checks is read in the order of its ids. -/
theorem readTradePage_eq {symbol : String} {rows : List TradeRow}
    {page trades : List ExchangeTrade} (h : readTradePage symbol rows = some trades)
    (hperm : rows.Perm (page.map TradeRow.trade))
    (hascending : page.Pairwise fun a b => a.id < b.id) : trades = page := by
  obtain ⟨read, hread, rfl⟩ := Option.map_eq_some_iff.mp h
  rw [readTradeRows_eq_some hread] at hperm
  have hrows : read.Perm page :=
    (map_perm_map_iff fun a b heq => by cases heq; rfl).mp hperm
  have hsorted := (perm_insertionSort (fun a b : ExchangeTrade => a.id ≤ b.id) read).trans hrows
  refine List.Perm.eq_of_pairwise ?_ (pairwise_insertionSort _ _)
    (hascending.imp fun h => h.le) hsorted
  intro a b ha hb hab hba
  -- two trades of the page with one id are one trade
  have hids : (page.map ExchangeTrade.id).Nodup :=
    pairwise_map.mpr (hascending.imp fun h => h.ne)
  exact inj_on_of_nodup_map hids (hsorted.subset ha) hb (le_antisymm hab hba)

/-- The largest id of a page that is not empty is a trade's. -/
theorem pageMaxId_spec {trades : List ExchangeTrade} (hne : trades ≠ []) :
    (∃ trade ∈ trades, trade.id = pageMaxId trades) ∧
      ∀ trade ∈ trades, trade.id ≤ pageMaxId trades := by
  obtain ⟨m, hm⟩ := Option.isSome_iff_exists.mp
    (List.isSome_max?_of_ne_nil (mt map_eq_nil_iff.mp hne) :
      (trades.map ExchangeTrade.id).max?.isSome = true)
  have heq : pageMaxId trades = m := by
    rw [pageMaxId, hm, Option.getD_some]
  obtain ⟨hmem, hle⟩ := List.max?_eq_some_iff.mp hm
  rw [heq]
  refine ⟨mem_map.mp hmem, ?_⟩
  intro trade htrade
  exact hle _ (mem_map_of_mem htrade)

/-- The page of a query, sorted, is made of trades of the history that the query covers. -/
theorem TradeQuery.page_head (query : TradeQuery)
    (hascending : history.Pairwise fun a b => a.id < b.id) :
    query.page history <+: (history.filter fun trade => query.covers trade) ∧
      (history.filter fun trade => query.covers trade).Pairwise fun a b => a.id < b.id :=
  ⟨List.take_prefix _ _, hascending.sublist filter_sublist⟩

theorem TradeQuery.mem_page {query : TradeQuery} (h : trade ∈ query.page history) :
    trade ∈ history ∧ query.covers trade = true :=
  mem_filter.mp (mem_of_mem_take h)

/-- A page that is not full is the whole answer. -/
theorem TradeQuery.mem_page_of_short {query : TradeQuery}
    (hshort : (query.page history).length < pageLimit)
    (hmem : trade ∈ history) (hcovers : query.covers trade = true) :
    trade ∈ query.page history := by
  rw [page, length_take] at hshort
  rw [page, take_of_length_le (by omega)]
  exact mem_filter.mpr ⟨hmem, hcovers⟩

end Page

/-! ## The pages of a symbol -/

section Pages

variable {answer : ℕ → String → TradeQuery → Option (List TradeRow)}
  {context : ℕ → ExchangeTrade → TradeContext} {histories : ℕ → String → List ExchangeTrade}
  {symbol : String}

/-- A page that is read is the page of its query. -/
theorem Faithful.read (hfaithful : Faithful histories answer) {n : ℕ} {query : TradeQuery}
    {trades : List ExchangeTrade}
    (h : (answer n symbol query).bind (readTradePage symbol) = some trades) :
    trades = query.page (histories n symbol) := by
  obtain ⟨rows, hanswer, hread⟩ := Option.bind_eq_some_iff.mp h
  obtain ⟨hhead, hpairwise⟩ := query.page_head (hfaithful.ascending n symbol)
  exact readTradePage_eq hread (hfaithful.page hanswer) (hpairwise.sublist hhead.sublist)

/-- A trade of a later history that is not behind a page's trade is on the page, if the query
covers it. -/
theorem Faithful.mem_page_of_le (hfaithful : Faithful histories answer) {n m : ℕ} (hnm : n ≤ m)
    {query : TradeQuery} {trade last : ExchangeTrade}
    (hlast : last ∈ query.page (histories n symbol)) (hmem : trade ∈ histories m symbol)
    (hle : trade.id ≤ last.id) (hcovers : query.covers trade = true) :
    trade ∈ query.page (histories n symbol) := by
  have hthen : trade ∈ histories n symbol :=
    mem_of_le_of_head (hfaithful.grows symbol hnm) (hfaithful.ascending m symbol) hmem
      (TradeQuery.mem_page hlast).1 hle
  obtain ⟨hhead, hpairwise⟩ := query.page_head (hfaithful.ascending n symbol)
  exact mem_of_le_of_head hhead hpairwise (mem_filter.mpr ⟨hthen, hcovers⟩) hlast hle

/-- **The pages of a symbol**: on success every trade that is needed and above the cursor was
applied, up to the end of the history at the last query. -/
theorem scanPages_complete (hfaithful : Faithful histories answer)
    (hsymbol : symbol.toUpper = symbol) (needed : ExchangeTrade → Prop) {pages : ℕ}
    {query : TradeQuery} {scan scan' : Scan}
    (h : scanPages answer context symbol pages query scan = (scan', true))
    (hquery : ∀ trade, cursorOf scan.oms.tradeCursors symbol < trade.id → needed trade →
      query.covers trade = true) :
    ∃ applied last, AppliedInOrder symbol scan.oms applied scan'.oms ∧
      scan.asked ≤ last ∧ scan'.asked = last + 1 ∧
      (∀ trade ∈ applied, trade ∈ histories last symbol) ∧
      ∀ trade ∈ histories last symbol, cursorOf scan.oms.tradeCursors symbol < trade.id →
        needed trade → trade ∈ applied := by
  induction pages generalizing query scan with
  | zero => cases h
  | succ pages ih =>
    rw [scanPages] at h
    dsimp only at h
    cases hread : (answer scan.asked symbol query).bind (readTradePage symbol) with
    | none =>
      rw [hread] at h
      cases h
    | some trades =>
      have hpage := hfaithful.read hread
      rw [hread] at h
      dsimp only at h
      obtain ⟨hhead, hpairwise⟩ := query.page_head (hfaithful.ascending scan.asked symbol)
      have hmem : ∀ trade ∈ trades, trade ∈ histories scan.asked symbol := by
        intro trade htrade
        exact (TradeQuery.mem_page (hpage ▸ htrade)).1
      cases happly : applyTrades (context scan.asked) scan.oms trades with
      | mk oms ok =>
        rw [happly] at h
        cases ok with
        | false => cases h
        | true =>
          dsimp only at h
          have hnamed : ∀ trade ∈ trades, trade.symbol.toUpper = symbol := by
            intro trade htrade
            rw [hfaithful.named (hmem trade htrade), hsymbol]
          have happlied := applyTrades_applied happly
            (hpage ▸ hpairwise.sublist hhead.sublist) hnamed
          split at h
          · next hshort =>
            cases h
            refine ⟨_, scan.asked, happlied, le_rfl, rfl, ?_, ?_⟩
            · intro trade htrade
              exact hmem trade (mem_filter.mp htrade).1
            intro trade htrade habove hneeded
            refine mem_filter.mpr ⟨?_, decide_eq_true habove⟩
            rw [hpage] at hshort ⊢
            exact TradeQuery.mem_page_of_short hshort htrade
              (hquery trade habove hneeded)
          next hfull =>
          split at h
          · cases h
          have hne : trades ≠ [] := by
            rintro rfl
            exact hfull (by decide)
          obtain ⟨⟨last, hlast, hmax⟩, hle⟩ := pageMaxId_spec hne
          obtain ⟨hcursor, hpassed⟩ := happlied.le_cursor
          -- the next query starts at or below the first id behind the new cursor
          have hcovered : pageMaxId trades ≤ cursorOf oms.tradeCursors symbol := by
            rw [← hmax]
            by_cases habove : cursorOf scan.oms.tradeCursors symbol < last.id
            · exact hpassed last (mem_filter.mpr ⟨hlast, decide_eq_true habove⟩)
            · exact (not_lt.mp habove).trans hcursor
          obtain ⟨more, final, hmore, hasked, hcount, hin, hall⟩ := ih h (by
            intro trade habove _
            exact decide_eq_true (lt_of_le_of_lt hcovered habove))
          have hn : scan.asked ≤ final := (Nat.le_succ _).trans hasked
          refine ⟨_, final, happlied.append hmore, hn, hcount, ?_, ?_⟩
          · intro trade htrade
            rcases mem_append.mp htrade with hfirst | hlater
            · exact (hfaithful.grows symbol hn).subset
                (hmem trade (mem_filter.mp hfirst).1)
            · exact hin trade hlater
          · intro trade htrade habove hneeded
            by_cases hnew : cursorOf oms.tradeCursors symbol < trade.id
            · exact mem_append_right _ (hall trade htrade hnew hneeded)
            -- the new cursor is a trade of the page, and this trade is not behind it
            have hbelow : trade.id ≤ last.id := by
              rcases happlied.cursor_mem with hsame | ⟨top, htop, hid⟩
              · rw [hsame] at hnew
                exact absurd habove hnew
              rw [hmax]
              refine (not_lt.mp hnew).trans ?_
              rw [← hid]
              exact hle top (mem_filter.mp htop).1
            refine mem_append_left _ (mem_filter.mpr
              ⟨?_, decide_eq_true habove⟩)
            rw [hpage] at hlast ⊢
            exact hfaithful.mem_page_of_le hn hlast htrade hbelow
              (hquery trade habove hneeded)

/-- The pages of a symbol stay within their number, and no cursor moves back. -/
theorem scanPages_bounds (answer : ℕ → String → TradeQuery → Option (List TradeRow))
    (context : ℕ → ExchangeTrade → TradeContext) (symbol : String) (pages : ℕ)
    (query : TradeQuery) (scan : Scan) :
    (scanPages answer context symbol pages query scan).1.asked ≤ scan.asked + pages ∧
      (scanPages answer context symbol pages query scan).1.tradeScanEndMs = scan.tradeScanEndMs ∧
      ∀ other, cursorOf scan.oms.tradeCursors other ≤
        cursorOf (scanPages answer context symbol pages query scan).1.oms.tradeCursors
          other := by
  induction pages generalizing query scan with
  | zero => exact ⟨Nat.le_add_right _ _, rfl, fun _ => le_rfl⟩
  | succ pages ih =>
    rw [scanPages]
    dsimp only
    cases (answer scan.asked symbol query).bind (readTradePage symbol) with
    | none =>
      dsimp only
      exact ⟨by omega, rfl, fun _ => le_rfl⟩
    | some trades =>
      have hcursor := applyTrades_cursor_le (context scan.asked) scan.oms trades
      dsimp only
      generalize applyTrades (context scan.asked) scan.oms trades = outcome at hcursor ⊢
      obtain ⟨oms, ok⟩ := outcome
      cases ok with
      | false =>
        dsimp only
        exact ⟨by omega, rfl, hcursor⟩
      | true =>
        dsimp only
        split
        · exact ⟨by dsimp only; omega, rfl, hcursor⟩
        split
        · exact ⟨by dsimp only; omega, rfl, hcursor⟩
        obtain ⟨hasked, hends, hle⟩ := ih (.fromId (pageMaxId trades + 1))
          { scan with asked := scan.asked + 1, oms := oms }
        exact ⟨by dsimp only at hasked ⊢; omega, hends, fun other =>
          (hcursor other).trans (hle other)⟩

end Pages

/-! ## A backfill -/

/-- What a successful backfill has done about one symbol: `applied` are the trades that were
applied, and `last` is the symbol's last query. -/
structure SymbolComplete (policy : BackfillPolicy)
    (histories : ℕ → String → List ExchangeTrade) (endTimeMs : ℤ) (scan scan' : Scan)
    (symbol : String) (applied : List ExchangeTrade) (last : ℕ) : Prop where
  asked : scan.asked ≤ last ∧ last < scan'.asked
  /-- Every trade at most once, lowest id first. -/
  ascending : applied.Pairwise fun a b => a.id < b.id
  fromHistory : ∀ trade ∈ applied,
    trade ∈ histories last symbol ∧ cursorOf scan.oms.tradeCursors symbol < trade.id
  /-- With a cursor no trade above it is left out. -/
  aboveCursor : 0 ≤ cursorOf scan.oms.tradeCursors symbol → ∀ trade ∈ histories last symbol,
    cursorOf scan.oms.tradeCursors symbol < trade.id → trade ∈ applied
  /-- Without one no trade of the first query's window is left out. -/
  inWindow : cursorOf scan.oms.tradeCursors symbol < 0 → ∀ trade ∈ histories last symbol,
    (firstQuery policy scan symbol endTimeMs).covers trade = true → trade ∈ applied
  /-- The cursor is the highest applied id. -/
  cursor : cursorOf scan'.oms.tradeCursors symbol =
    (applied.map ExchangeTrade.id).getLast?.getD (cursorOf scan.oms.tradeCursors symbol)

/-- A run through the symbols, each of them complete and its trades applied to the state the
symbols before left. -/
inductive Backfilled (policy : BackfillPolicy) (histories : ℕ → String → List ExchangeTrade)
    (endTimeMs : ℤ) : Scan → List String → Scan → Prop
  | nil (scan : Scan) : Backfilled policy histories endTimeMs scan [] scan
  | cons {scan scanned scan' : Scan} {symbol : String} {rest : List String}
      (applied : List ExchangeTrade) (last : ℕ)
      (inOrder : AppliedInOrder symbol scan.oms applied scanned.oms)
      (ends : scanned.tradeScanEndMs = scan.tradeScanEndMs)
      (complete : SymbolComplete policy histories endTimeMs scan scanned symbol applied last)
      (more : Backfilled policy histories endTimeMs (scanned.completed symbol endTimeMs) rest
        scan') :
      Backfilled policy histories endTimeMs scan (symbol :: rest) scan'

section Summary

variable {policy : BackfillPolicy} {histories : ℕ → String → List ExchangeTrade} {endTimeMs : ℤ}

/-- Completeness reads only the symbol's cursors and its last scan, and when the queries were
sent. -/
theorem SymbolComplete.widen {first first' final final' : Scan} {symbol : String}
    {applied : List ExchangeTrade} {last : ℕ}
    (h : SymbolComplete policy histories endTimeMs first final symbol applied last)
    (hcursor : cursorOf first'.oms.tradeCursors symbol = cursorOf first.oms.tradeCursors symbol)
    (hends : first'.tradeScanEndMs.getD symbol 0 = first.tradeScanEndMs.getD symbol 0)
    (hasked : first'.asked ≤ first.asked)
    (hcursor' : cursorOf final'.oms.tradeCursors symbol = cursorOf final.oms.tradeCursors symbol)
    (hasked' : final.asked ≤ final'.asked) :
    SymbolComplete policy histories endTimeMs first' final' symbol applied last := by
  have hquery : firstQuery policy first' symbol endTimeMs =
      firstQuery policy first symbol endTimeMs := by
    unfold firstQuery
    rw [hcursor, hends]
  refine ⟨⟨hasked.trans h.asked.1, h.asked.2.trans_le hasked'⟩, h.ascending, ?_, ?_, ?_, ?_⟩
  · rw [hcursor]
    exact h.fromHistory
  · rw [hcursor]
    exact h.aboveCursor
  · rw [hcursor, hquery]
    exact h.inWindow
  · rw [hcursor, hcursor']
    exact h.cursor

namespace Backfilled

variable {scan scan' : Scan} {symbols : List String}

/-- A symbol that is not scanned keeps its cursor and its last scan. -/
theorem others (h : Backfilled policy histories endTimeMs scan symbols scan') {other : String}
    (hother : other ∉ symbols) :
    cursorOf scan'.oms.tradeCursors other = cursorOf scan.oms.tradeCursors other ∧
      scan'.tradeScanEndMs.getD other 0 = scan.tradeScanEndMs.getD other 0 := by
  induction h with
  | nil => exact ⟨rfl, rfl⟩
  | @cons scan scanned scan' symbol rest applied last inOrder ends complete _ ih =>
    obtain ⟨hne, hrest⟩ := not_or.mp (mt mem_cons.mpr hother)
    obtain ⟨hcursor, hends⟩ := ih hrest
    constructor
    · rw [hcursor]
      exact inOrder.others hne
    · rw [hends]
      show (scanned.tradeScanEndMs.set symbol endTimeMs).getD other 0 = _
      rw [Dict.getD_set_of_ne _ _ _ hne, ends]

theorem asked_le
    (h : Backfilled policy histories endTimeMs scan symbols scan') :
    scan.asked ≤ scan'.asked := by
  induction h with
  | nil => exact le_rfl
  | cons applied last _ _ complete _ ih =>
    exact (complete.asked.1.trans complete.asked.2.le).trans ih

/-- Every symbol is complete between the first state and the last. -/
theorem complete
    (h : Backfilled policy histories endTimeMs scan symbols scan') (hnodup : symbols.Nodup) :
    ∀ symbol ∈ symbols, ∃ applied last,
      SymbolComplete policy histories endTimeMs scan scan' symbol applied last := by
  induction h with
  | nil => exact fun _ hmem => absurd hmem not_mem_nil
  | @cons scan scanned scan' symbol rest applied last inOrder ends complete more ih =>
    obtain ⟨hfresh, hrest⟩ := nodup_cons.mp hnodup
    intro name hmem
    rcases mem_cons.mp hmem with rfl | hmem
    · exact ⟨applied, last, complete.widen rfl rfl le_rfl (more.others hfresh).1 more.asked_le⟩
    have hne : name ≠ symbol := fun heq => hfresh (heq ▸ hmem)
    obtain ⟨applied', last', hcomplete⟩ := ih hrest name hmem
    refine ⟨applied', last', hcomplete.widen ?_ ?_ ?_ rfl le_rfl⟩
    · exact (inOrder.others hne).symm
    · show _ = (scanned.tradeScanEndMs.set symbol endTimeMs).getD name 0
      rw [Dict.getD_set_of_ne _ _ _ hne, ends]
    · exact complete.asked.1.trans complete.asked.2.le

end Backfilled

end Summary

section Backfill

variable {answer : ℕ → String → TradeQuery → Option (List TradeRow)}
  {context : ℕ → ExchangeTrade → TradeContext} {histories : ℕ → String → List ExchangeTrade}
  {policy : BackfillPolicy} {endTimeMs : ℤ}

/-- **One symbol** whose pages were read to the end is complete. -/
theorem scanPages_symbolComplete (hfaithful : Faithful histories answer) {symbol : String}
    (hsymbol : symbol.toUpper = symbol) {scan scan' : Scan}
    (h : scanPages answer context symbol maxPages (firstQuery policy scan symbol endTimeMs)
      scan =
      (scan', true)) :
    ∃ applied last, AppliedInOrder symbol scan.oms applied scan'.oms ∧
      SymbolComplete policy histories endTimeMs scan scan' symbol applied last := by
  let needed : ExchangeTrade → Prop := fun trade =>
    0 ≤ cursorOf scan.oms.tradeCursors symbol ∨
      (firstQuery policy scan symbol endTimeMs).covers trade = true
  have hquery : ∀ trade, cursorOf scan.oms.tradeCursors symbol < trade.id → needed trade →
      (firstQuery policy scan symbol endTimeMs).covers trade = true := by
    intro trade habove hneeded
    rcases hneeded with hcursor | hcovers
    · rw [firstQuery, if_pos hcursor]
      refine decide_eq_true (max_le (by omega) ?_)
      omega
    · exact hcovers
  obtain ⟨applied, last, hinOrder, hasked, hcount, hin, hall⟩ :=
    scanPages_complete hfaithful hsymbol needed h hquery
  obtain ⟨habove, hascending⟩ := hinOrder.ascending
  refine ⟨applied, last, hinOrder, ⟨hasked, by omega⟩, hascending, ?_, ?_, ?_, hinOrder.cursor⟩
  · intro trade htrade
    exact ⟨hin trade htrade, habove trade htrade⟩
  · intro hcursor trade htrade hbehind
    exact hall trade htrade hbehind (Or.inl hcursor)
  · intro hcursor trade htrade hcovers
    have hid := hfaithful.numbered htrade
    exact hall trade htrade (by omega) (Or.inr hcovers)

theorem scanSymbols_backfilled (hfaithful : Faithful histories answer) {symbols : List String}
    (hsymbols : ∀ symbol ∈ symbols, symbol.toUpper = symbol) {scan scan' : Scan}
    (h : scanSymbols answer context policy endTimeMs symbols scan = (scan', true)) :
    Backfilled policy histories endTimeMs scan symbols scan' := by
  induction symbols generalizing scan with
  | nil =>
    cases h
    exact .nil _
  | cons symbol rest ih =>
    rw [scanSymbols] at h
    have hends := (scanPages_bounds answer context symbol maxPages
      (firstQuery policy scan symbol endTimeMs) scan).2.1
    cases hpages : scanPages answer context symbol maxPages
        (firstQuery policy scan symbol endTimeMs) scan with
    | mk scanned ok =>
      rw [hpages] at h hends
      cases ok with
      | false => cases h
      | true =>
        obtain ⟨applied, last, hinOrder, hcomplete⟩ :=
          scanPages_symbolComplete hfaithful (hsymbols symbol mem_cons_self) hpages
        exact .cons applied last hinOrder hends hcomplete
          (ih (fun s hmem => hsymbols s (mem_cons_of_mem _ hmem)) h)

theorem scanSymbols_bounds (answer : ℕ → String → TradeQuery → Option (List TradeRow))
    (context : ℕ → ExchangeTrade → TradeContext) (policy : BackfillPolicy) (endTimeMs : ℤ)
    (symbols : List String) (scan : Scan) :
    (scanSymbols answer context policy endTimeMs symbols scan).1.asked ≤
        scan.asked + symbols.length * maxPages ∧
      ∀ other, cursorOf scan.oms.tradeCursors other ≤
        cursorOf (scanSymbols answer context policy endTimeMs symbols scan).1.oms.tradeCursors
          other := by
  induction symbols generalizing scan with
  | nil => exact ⟨Nat.le_add_right _ _, fun _ => le_rfl⟩
  | cons symbol rest ih =>
    rw [scanSymbols]
    obtain ⟨hasked, -, hcursor⟩ := scanPages_bounds answer context symbol maxPages
      (firstQuery policy scan symbol endTimeMs) scan
    generalize scanPages answer context symbol maxPages
      (firstQuery policy scan symbol endTimeMs) scan = outcome at hasked hcursor ⊢
    obtain ⟨scanned, ok⟩ := outcome
    rw [length_cons, Nat.succ_mul]
    cases ok with
    | false =>
      dsimp only at hasked ⊢
      exact ⟨by omega, hcursor⟩
    | true =>
      obtain ⟨hmore, hlater⟩ := ih (scanned.completed symbol endTimeMs)
      dsimp only at hasked ⊢
      have hsame : (scanned.completed symbol endTimeMs).asked = scanned.asked := rfl
      rw [hsame] at hmore
      exact ⟨by omega, fun other => (hcursor other).trans (hlater other)⟩

/-- **A backfill that reports success has applied the trade history.**  The symbols are read in
their order; of each of them the trades above its cursor were applied in order, none skipped and
none twice, up to the end of the history at its last query, and the cursor is the highest id that
was applied.  A symbol without a cursor is read from the first query's window on.  Whatever is
reported, each symbol takes at most `maxPages` queries and no cursor moves back. -/
theorem backfill_complete (hfaithful : Faithful histories answer) {symbols : List String}
    (hsymbols : ∀ symbol ∈ symbols, symbol.toUpper = symbol) (scan : Scan) :
    ((backfillTradeHistory policy (some answer) context symbols endTimeMs scan).2 = true →
      Backfilled policy histories endTimeMs scan (symbols.dedup.insertionSort (· ≤ ·))
          (backfillTradeHistory policy (some answer) context symbols endTimeMs scan).1 ∧
        ∀ symbol ∈ symbols, ∃ applied last, SymbolComplete policy histories endTimeMs scan
          (backfillTradeHistory policy (some answer) context symbols endTimeMs scan).1 symbol
          applied last) ∧
      (backfillTradeHistory policy (some answer) context symbols endTimeMs scan).1.asked ≤
        scan.asked + symbols.dedup.length * maxPages ∧
      ∀ symbol, cursorOf scan.oms.tradeCursors symbol ≤ cursorOf
        (backfillTradeHistory policy (some answer) context symbols endTimeMs
          scan).1.oms.tradeCursors symbol := by
  unfold backfillTradeHistory
  dsimp only
  have hperm := perm_insertionSort (fun a b : String => a ≤ b) symbols.dedup
  obtain ⟨hasked, hcursor⟩ := scanSymbols_bounds answer context policy endTimeMs
    (symbols.dedup.insertionSort (· ≤ ·)) scan
  rw [hperm.length_eq] at hasked
  refine ⟨?_, hasked, hcursor⟩
  intro hsuccess
  have hsymbols' : ∀ symbol ∈ symbols.dedup.insertionSort (· ≤ ·), symbol.toUpper = symbol :=
    fun symbol hmem => hsymbols symbol (mem_dedup.mp (hperm.subset hmem))
  have hbackfilled := scanSymbols_backfilled hfaithful hsymbols'
    (Prod.ext rfl hsuccess : scanSymbols answer context policy endTimeMs
      (symbols.dedup.insertionSort (· ≤ ·)) scan = (_, true))
  refine ⟨hbackfilled, fun symbol hmem => ?_⟩
  exact hbackfilled.complete (hperm.symm.nodup (nodup_dedup symbols)) symbol
    (hperm.symm.subset (mem_dedup.mpr hmem))

end Backfill

section Runs

/-- One trade of one unit at 100. -/
def sampleTrade (id : ℤ) (time : ℚ) : ExchangeTrade :=
  { symbol := "BTCUSDT", id := id, orderId := "1", qty := .finite 1, price := .finite 100
    time := .finite time }

/-- The venue knows the order of the trades. -/
def sampleContext (_ : ℕ) (_ : ExchangeTrade) : TradeContext :=
  { env := { now := 1, feeRate := fun _ _ => 0, quoteAsset := fun _ => "USDT" }
    remote := some { symbol := "BTCUSDT", orderId := "1", clientOrderId := "c", side := .buy
                     volume := 5, price := 100 } }

/-- A backfill of one symbol over a history that does not grow. -/
def sampleBackfill (cursors : Dict String ℤ) (trades : List ExchangeTrade) : Scan × Bool :=
  backfillTradeHistory {}
    (some (pagesOf fun _ name => if name = "BTCUSDT" then trades else [])) sampleContext
    ["BTCUSDT"] 200000000
    { oms := { venue := "BINANCE", tradeCursors := cursors } }

theorem backfill_complete_new_trade :
    (sampleBackfill (Dict.ofList [("BTCUSDT", 9)]) [sampleTrade 9 1, sampleTrade 10 2]).2 =
      true ∧
      ∃ applied last, SymbolComplete {}
        (fun _ name => if name = "BTCUSDT" then [sampleTrade 9 1, sampleTrade 10 2] else [])
        200000000
        { oms := { venue := "BINANCE", tradeCursors := Dict.ofList [("BTCUSDT", 9)] } }
        (sampleBackfill (Dict.ofList [("BTCUSDT", 9)]) [sampleTrade 9 1, sampleTrade 10 2]).1
        "BTCUSDT" applied last := by
  have hsuccess : (sampleBackfill (Dict.ofList [("BTCUSDT", 9)])
      [sampleTrade 9 1, sampleTrade 10 2]).2 = true := by
    decide +kernel
  refine ⟨hsuccess, ?_⟩
  exact ((@backfill_complete _ sampleContext _ _ _ (pagesOf_faithful (by decide) (by decide)) _
    (by decide +kernel) _).1 hsuccess).2 "BTCUSDT" mem_cons_self

/-- Success with trades left out: without a cursor a trade from before the window, with one a
trade of the overlap that was never booked. -/
theorem backfill_leaves_trades_out :
    Faithful (fun _ name => if name = "BTCUSDT" then [sampleTrade 5 1000] else [])
        (pagesOf fun _ name => if name = "BTCUSDT" then [sampleTrade 5 1000] else []) ∧
      (sampleBackfill ∅ [sampleTrade 5 1000]).2 = true ∧
      (sampleBackfill ∅ [sampleTrade 5 1000]).1.oms.orders.isEmpty = true ∧
      cursorOf (sampleBackfill ∅ [sampleTrade 5 1000]).1.oms.tradeCursors "BTCUSDT" = -1 ∧
    Faithful (fun _ name => if name = "BTCUSDT" then [sampleTrade 8 1000] else [])
        (pagesOf fun _ name => if name = "BTCUSDT" then [sampleTrade 8 1000] else []) ∧
      (sampleBackfill (Dict.ofList [("BTCUSDT", 9)]) [sampleTrade 8 1000]).2 = true ∧
      (sampleBackfill (Dict.ofList [("BTCUSDT", 9)]) [sampleTrade 8 1000]).1.oms.orders.isEmpty =
        true := by
  refine ⟨pagesOf_faithful (by decide) (by decide), by decide +kernel, by decide +kernel,
    by decide +kernel, pagesOf_faithful (by decide) (by decide), by decide +kernel,
    by decide +kernel⟩

end Runs

end ChronosHFT.Oms
