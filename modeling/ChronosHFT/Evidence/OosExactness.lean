import ChronosHFT.Lib.Chronicle
import ChronosHFT.Lib.Drawdown
import ChronosHFT.Lib.Run
import ChronosHFT.Evidence.OosPerformance

/-!
# The reconstruction is exact

What evidence that is accepted says, in terms of the raw evidence alone: `Exact`.  The profit is
the cash of the window; the drawdown is the largest drop of the equity after each event; each
markout uses the first mark that is due; and every execution, funding flow and mark of the window
counts once (`reconstruction_is_exact`).

The last mark of each symbol at or before the start of the window is what its position is worth
at first.  A mark at the very moment of the start is one of these, and comes before an execution
at that moment. -/

namespace ChronosHFT.Evidence

open Run List

open Oms (Side)

/-! ## The events of a window -/

section Selections

variable (raw : RawEvidence) (symbols : List String) (started ended : ℚ)

/-- The executions of the window. -/
def RawEvidence.fillsIn : List Execution :=
  raw.executions.filter fun execution => started ≤ execution.exchangeTime ∧
    execution.exchangeTime ≤ ended

/-- The funding flows of the window. -/
def RawEvidence.fundingIn : List FundingCashFlow :=
  raw.fundingCashFlows.filter fun flow => started ≤ flow.eventTime ∧ flow.eventTime ≤ ended

/-- The marks of the window after its start. -/
def RawEvidence.marksAfterStart : List MarkObservation :=
  raw.marks.filter fun mark => mark.symbol ∈ symbols ∧ started < mark.exchangeTime ∧
    mark.exchangeTime ≤ ended

/-- The last mark of a symbol at or before the start. -/
def RawEvidence.startMark (symbol : String) : Option MarkObservation :=
  (raw.marks.filter fun mark => mark.symbol = symbol ∧ mark.exchangeTime ≤ started).getLast?

/-- What that mark is. -/
def RawEvidence.startPrice (symbol : String) : ℚ :=
  ((raw.startMark started symbol).map MarkObservation.markPrice).getD 0

/-- The events of the window. -/
def RawEvidence.windowEvents : List CurveEvent :=
  (raw.fillsIn started ended).map CurveEvent.execution ++
    (raw.fundingIn started ended).map CurveEvent.funding ++
    (raw.marksAfterStart symbols started ended).map CurveEvent.mark

end Selections

/-! ## The equity after some events -/

namespace CurveEvent

/-- What an event adds to the cash. -/
def cash : CurveEvent → ℚ
  | funding flow => flow.amount
  | execution fill => -(fill.signedQuantity * fill.price) - fill.commission
  | mark _ => 0

/-- What an event adds to the position of a symbol. -/
def quantity (symbol : String) : CurveEvent → ℚ
  | execution fill => if fill.symbol = symbol then fill.signedQuantity else 0
  | _ => 0

/-- The mark of a symbol an event brings. -/
def markOf (symbol : String) : CurveEvent → Option ℚ
  | mark observation => if observation.symbol = symbol then some observation.markPrice else none
  | _ => none

end CurveEvent

/-- The latest mark of a symbol after some events. -/
def latestPrice (first : String → ℚ) (events : List CurveEvent) (symbol : String) : ℚ :=
  ((events.filterMap (CurveEvent.markOf symbol)).getLast?).getD (first symbol)

/-- The position of a symbol after some events. -/
def positionAfter (events : List CurveEvent) (symbol : String) : ℚ :=
  (events.map (CurveEvent.quantity symbol)).sum

/-- The cash plus the positions at the latest marks, after some events. -/
def equityAfter (symbols : List String) (first : String → ℚ) (events : List CurveEvent) : ℚ :=
  (events.map CurveEvent.cash).sum +
    (symbols.map fun symbol => positionAfter events symbol * latestPrice first events symbol).sum

@[simp] theorem equityAfter_nil (symbols : List String) (first : String → ℚ) :
    equityAfter symbols first [] = 0 := by
  unfold equityAfter positionAfter
  simp

section Append

variable (first : String → ℚ) (events : List CurveEvent) (event : CurveEvent) (symbol : String)

theorem positionAfter_append :
    positionAfter (events ++ [event]) symbol = positionAfter events symbol +
      event.quantity symbol := by
  unfold positionAfter
  rw [map_append, sum_append, map_singleton, sum_singleton]

theorem latestPrice_append :
    latestPrice first (events ++ [event]) symbol =
      (event.markOf symbol).getD (latestPrice first events symbol) := by
  unfold latestPrice
  rw [filterMap_append]
  cases h : event.markOf symbol with
  | none => rw [filterMap_cons_none h, filterMap_nil, append_nil, Option.getD_none]
  | some price =>
    rw [filterMap_cons_some h, filterMap_nil, List.getLast?_append_of_ne_nil _ (cons_ne_nil _ _)]
    rfl

theorem cash_append :
    ((events ++ [event]).map CurveEvent.cash).sum =
      (events.map CurveEvent.cash).sum + event.cash := by
  rw [map_append, sum_append, map_singleton, sum_singleton]

end Append

/-- A sum over the entries of a map, through a list that has all its keys. -/
theorem sumBy_eq_sum_map {κ α : Type*} [DecidableEq κ] {d : Dict κ α} {f : κ → α → ℚ} {g : κ → ℚ}
    {keys : List κ}
    (hnodup : keys.Nodup) (hkeys : ∀ k ∈ d.keys, k ∈ keys)
    (hvalue : ∀ k a, d.get? k = some a → f k a = g k)
    (hnone : ∀ k, d.get? k = none → g k = 0) : d.sumBy f = (keys.map g).sum := by
  have hitems : d.items.map (fun p => f p.1 p.2) = d.keys.map g := by
    unfold Dict.keys
    rw [map_map]
    exact map_congr_left fun p hp => hvalue p.1 p.2 (Dict.get?_eq_some_iff.mpr hp)
  unfold Dict.sumBy
  rw [hitems, ← sum_toFinset _ d.keys_nodup, ← sum_toFinset _ hnodup]
  refine Finset.sum_subset (fun k hk => ?_) fun k _ hk => ?_
  · exact mem_toFinset.mpr (hkeys k (mem_toFinset.mp hk))
  · exact hnone k (Dict.get?_eq_none_iff.mpr fun hmem => hk (mem_toFinset.mpr hmem))

/-! ## The loop -/

/-- The cash, the positions and the marks are those after the events so far. -/
structure Tracks (symbols : List String) (first : String → ℚ) (events : List CurveEvent)
    (c : Curve) : Prop where
  cash : c.cash = (events.map CurveEvent.cash).sum
  position : ∀ symbol, c.positions.getD symbol 0 = positionAfter events symbol
  keys : ∀ symbol ∈ c.positions.keys, symbol ∈ symbols
  price : ∀ symbol ∈ symbols, c.latestMarks.get? symbol = some (latestPrice first events symbol)

section Loop

variable {symbols : List String} {first : String → ℚ} {events : List CurveEvent} {c c' : Curve}

theorem Tracks.equity (h : Tracks symbols first events c) (hnodup : symbols.Nodup) :
    c.equity = equityAfter symbols first events := by
  unfold Curve.equity equityAfter
  rw [h.cash]
  congr 1
  refine sumBy_eq_sum_map hnodup h.keys ?_ ?_
  · intro symbol quantity hget
    have hmem : symbol ∈ symbols := h.keys symbol (Dict.mem_keys_iff.mpr ⟨quantity, hget⟩)
    have hposition := h.position symbol
    unfold Dict.getD at hposition
    rw [hget, Option.getD_some] at hposition
    rw [h.price symbol hmem, hposition]
  · intro symbol hget
    have hposition := h.position symbol
    unfold Dict.getD at hposition
    rw [hget, Option.getD_none] at hposition
    rw [← hposition, zero_mul]

/-- The symbol of an event is configured. -/
def CurveEvent.Configured (symbols : List String) : CurveEvent → Prop
  | execution fill => fill.symbol ∈ symbols
  | _ => True

/-- An event keeps the account. -/
theorem Tracks.apply (h : Tracks symbols first events c) {event : CurveEvent}
    (hevent : event.Configured symbols) :
    Tracks symbols first (events ++ [event]) (c.apply event) := by
  cases event with
  | funding flow =>
    refine ⟨?_, fun symbol => ?_, h.keys, fun symbol hmem => ?_⟩
    · rw [cash_append, ← h.cash]
      rfl
    · rw [positionAfter_append, ← h.position]
      exact (add_zero _).symm
    · rw [latestPrice_append]
      exact h.price symbol hmem
  | execution fill =>
    refine ⟨?_, fun symbol => ?_, fun symbol hmem => ?_, fun symbol hmem => ?_⟩
    · rw [cash_append, ← h.cash]
      unfold Curve.apply CurveEvent.cash
      ring
    · rw [positionAfter_append, ← h.position]
      change (c.positions.set fill.symbol _).getD symbol 0 = _ + if fill.symbol = symbol then _
        else 0
      rw [Dict.getD_set]
      by_cases heq : fill.symbol = symbol
      · rw [if_pos heq.symm, if_pos heq, heq]
      · rw [if_neg (Ne.symm heq), if_neg heq, add_zero]
    · obtain rfl | hold := Dict.mem_keys_set.mp hmem
      · exact hevent
      · exact h.keys symbol hold
    · rw [latestPrice_append]
      exact h.price symbol hmem
  | mark observation =>
    refine ⟨?_, fun symbol => ?_, h.keys, fun symbol hmem => ?_⟩
    · rw [cash_append, ← h.cash]
      exact (add_zero _).symm
    · rw [positionAfter_append, ← h.position]
      exact (add_zero _).symm
    rw [latestPrice_append]
    change (c.latestMarks.set observation.symbol observation.markPrice).get? symbol =
      some ((if observation.symbol = symbol then some observation.markPrice else none).getD _)
    rw [Dict.get?_set]
    by_cases heq : observation.symbol = symbol
    · rw [if_pos heq.symm, if_pos heq, Option.getD_some]
    · rw [if_neg (Ne.symm heq), if_neg heq, Option.getD_none]
      exact h.price symbol hmem

/-- What one turn of the loop does. -/
theorem step_eq_ok {event : CurveEvent} (h : c.step event = .ok c') :
    c'.cash = (c.apply event).cash ∧ c'.positions = (c.apply event).positions ∧
      c'.latestMarks = (c.apply event).latestMarks ∧
      (⟨c'.peak, c'.maxDrawdown⟩ : Drawdown ℚ) =
        Drawdown.add ⟨c.peak, c.maxDrawdown⟩ (c.apply event).equity := by
  unfold Curve.step at h
  dsimp only at h
  split at h
  · cases h
  · cases h
    refine ⟨rfl, rfl, rfl, ?_⟩
    cases event <;> rfl

/-- **The loop.**  After the events the account is theirs, and the peak and the drawdown are
those of the equity after each of them. -/
theorem foldlM_step_eq_ok (hnodup : symbols.Nodup) {c₀ : Curve}
    (hstart : Tracks symbols first [] c₀)
    (hpeak : c₀.peak = 0) (hdrop : c₀.maxDrawdown = 0)
    (hconfigured : ∀ event ∈ events, event.Configured symbols)
    (h : events.foldlM Curve.step c₀ = .ok c) :
    Tracks symbols first events c ∧ (⟨c.peak, c.maxDrawdown⟩ : Drawdown ℚ) =
      Drawdown.along (fun n => equityAfter symbols first (events.take n)) events.length := by
  induction events using List.reverseRecOn generalizing c with
  | nil =>
    cases h
    refine ⟨hstart, ?_⟩
    rw [hpeak, hdrop, length_nil, Drawdown.along_zero, take_nil, equityAfter_nil]
    rfl
  | append_singleton events event ih =>
    rw [foldlM_append] at h
    obtain ⟨before, hbefore, h⟩ := except_bind_eq_ok.mp h
    rw [foldlM_cons] at h
    obtain ⟨after, hstep, hpure⟩ := except_bind_eq_ok.mp h
    cases hpure
    obtain ⟨htracks, hdrawdown⟩ := ih (fun e he => hconfigured e (mem_append_left _ he)) hbefore
    have hevent := htracks.apply (hconfigured event (mem_append_right _ mem_cons_self))
    obtain ⟨hcash, hpositions, hmarks, hadd⟩ := step_eq_ok hstep
    constructor
    · refine ⟨hcash.trans hevent.cash, fun symbol => ?_, ?_, fun symbol hmem => ?_⟩
      · rw [hpositions]
        exact hevent.position symbol
      · rw [hpositions]
        exact hevent.keys
      · rw [hmarks]
        exact hevent.price symbol hmem
    · have hearlier : Drawdown.along (fun n =>
          equityAfter symbols first ((events ++ [event]).take n)) events.length =
          Drawdown.along (fun n => equityAfter symbols first (events.take n)) events.length :=
        Drawdown.along_congr fun k hk => by rw [take_append_of_le_length hk]
      have hlast : (events ++ [event]).take (events.length + 1) = events ++ [event] :=
        take_of_length_le (by rw [length_append, length_singleton])
      rw [hadd, hdrawdown, hevent.equity hnodup, length_append, length_singleton,
        Drawdown.along_succ,
        hearlier, hlast]

end Loop

/-! ## The selections -/

instance : Std.Total CurveEvent.Before :=
  Window.stampedBefore_total CurveEvent.time CurveEvent.rank

instance : IsTrans CurveEvent CurveEvent.Before :=
  Window.stampedBefore_trans CurveEvent.time CurveEvent.rank

/-- The elements of a list that is read in full, one by one. -/
theorem forall₂_of_mapM {ε α β : Type} {f : α → Except ε β} :
    ∀ {xs : List α} {ys : List β}, xs.mapM f = .ok ys →
    List.Forall₂ (fun x y => f x = .ok y) xs ys := by
  intro xs
  induction xs with
  | nil =>
    intro ys h
    cases h
    exact .nil
  | cons x xs ih =>
    intro ys h
    rw [mapM_cons] at h
    obtain ⟨y, hy, h⟩ := except_bind_eq_ok.mp h
    obtain ⟨ys, hys, h⟩ := except_bind_eq_ok.mp h
    cases h
    exact .cons hy (ih hys)

section Curve

variable {raw : RawEvidence} {symbols : List String} {started ended : ℚ}
  {before curve : List MarkObservation}

variable {symbol : String} {mark : MarkObservation}

theorem startMark_spec (h : raw.startMark started symbol = some mark) :
    mark.symbol = symbol ∧ mark.exchangeTime ≤ started := by
  have hmem := mem_filter.mp (mem_of_getLast? h)
  exact of_decide_eq_true hmem.2

theorem mem_marksAfterStart (h : mark ∈ raw.marksAfterStart symbols started ended) :
    mark.symbol ∈ symbols ∧ started < mark.exchangeTime ∧ mark.exchangeTime ≤ ended :=
  of_decide_eq_true (mem_filter.mp h).2

/-- The marks of the curve are the start marks of the symbols, and the marks of the window after
its start. -/
theorem curveMarks_eq_ok (h : curveMarks raw.marks symbols started ended = .ok curve) :
    ∃ before, List.Forall₂ (fun symbol mark =>
      raw.startMark started symbol = some mark) symbols before ∧
      curve.Perm (before ++ raw.marksAfterStart symbols started ended) ∧
      Window.Chronological MarkObservation.exchangeTime curve := by
  unfold curveMarks at h
  obtain ⟨before, hbefore, h⟩ := except_bind_eq_ok.mp h
  cases h
  refine ⟨before, ?_, perm_insertionSort _ _, ?_⟩
  · refine (forall₂_of_mapM hbefore).imp fun symbol mark hmark => ?_
    unfold RawEvidence.startMark
    split at hmark
    · cases hmark
    · rename_i found hfound
      cases hmark
      exact hfound
  · exact (pairwise_insertionSort
      (Window.StampedBefore MarkObservation.exchangeTime MarkObservation.symbol) _).imp
        Window.StampedBefore.le

variable (hbefore : List.Forall₂ (fun symbol mark =>
  raw.startMark started symbol = some mark) symbols before)
include hbefore

theorem start_le (hmem : mark ∈ before) : mark.exchangeTime ≤ started := by
  induction hbefore with
  | nil => cases hmem
  | cons hmark _ ih =>
    obtain rfl | hmem := mem_cons.mp hmem
    · exact (startMark_spec hmark).2
    · exact ih hmem

theorem map_symbol_start : before.map MarkObservation.symbol = symbols := by
  induction hbefore with
  | nil => rfl
  | cons hmark _ ih => rw [map_cons, ih, (startMark_spec hmark).1]

theorem mem_start (hmem : symbol ∈ symbols) :
    ∃ mark ∈ before, raw.startMark started symbol = some mark := by
  induction hbefore with
  | nil => cases hmem
  | cons hmark _ ih =>
    obtain rfl | hmem := mem_cons.mp hmem
    · exact ⟨_, mem_cons_self, hmark⟩
    · obtain ⟨mark, hmark, hstart⟩ := ih hmem
      exact ⟨mark, mem_cons_of_mem _ hmark, hstart⟩

variable (hcurve : curve.Perm (before ++ raw.marksAfterStart symbols started ended))
include hcurve

/-- The marks of the curve after the start are those of the window. -/
theorem filter_curve_perm :
    (curve.filter fun mark => started < mark.exchangeTime ∧ mark.exchangeTime ≤ ended).Perm
      (raw.marksAfterStart symbols started ended) := by
  refine (hcurve.filter _).trans (List.Perm.of_eq ?_)
  rw [filter_append, filter_eq_nil_iff.mpr, nil_append, filter_eq_self.mpr]
  · intro mark hmem
    exact decide_eq_true (mem_marksAfterStart hmem).2
  · intro mark hmem hin
    exact absurd (of_decide_eq_true hin).1 (not_lt_of_ge (start_le hbefore hmem))

/-- The curve starts with the start marks. -/
theorem marksAtStart_spec (hnodup : symbols.Nodup)
    (hsorted : Window.Chronological MarkObservation.exchangeTime curve)
    (hmem : symbol ∈ symbols) :
    (marksAtStart curve started).get? symbol = some (raw.startPrice started symbol) := by
  have hfilter : (curve.filter fun mark =>
      decide (mark.exchangeTime ≤ started)).Perm before := by
    refine (hcurve.filter _).trans (List.Perm.of_eq ?_)
    rw [filter_append, filter_eq_self.mpr, filter_eq_nil_iff.mpr, append_nil]
    · intro mark hmem hle
      exact absurd (of_decide_eq_true hle) (not_le_of_gt (mem_marksAfterStart hmem).2.1)
    · intro mark hmem
      exact decide_eq_true (start_le hbefore hmem)
  obtain ⟨mark, hmark, hstart⟩ := mem_start hbefore hmem
  unfold marksAtStart
  rw [hsorted.takeWhile_le, RawEvidence.startPrice, hstart, Option.map_some, Option.getD_some]
  have hentries : (curve.filter fun mark => decide (mark.exchangeTime ≤ started)).foldl
      (fun (latest : Dict String ℚ) mark => latest.set mark.symbol mark.markPrice) ∅ =
        Dict.setAll ∅ ((curve.filter fun mark => decide (mark.exchangeTime ≤ started)).map
          fun mark => (mark.symbol, mark.markPrice)) := by
    unfold Dict.setAll
    rw [foldl_map]
  rw [hentries]
  refine Dict.get?_setAll_of_mem ?_ ?_
  · rw [map_map]
    refine (List.Perm.nodup_iff (hfilter.map _)).mpr ?_
    change (before.map MarkObservation.symbol).Nodup
    rw [map_symbol_start hbefore]
    exact hnodup
  · refine mem_map.mpr ⟨mark, hfilter.mem_iff.mpr hmark, ?_⟩
    rw [(startMark_spec hstart).1]

/-- **The equity curve** goes through the events of the window in order. -/
theorem equityCurve_eq_ok (hnodup : symbols.Nodup)
    (hsorted : Window.Chronological MarkObservation.exchangeTime curve)
    (hconfigured : ∀ fill ∈ raw.fillsIn started ended, fill.symbol ∈ symbols) {pnl drawdown : ℚ}
    (h : equityCurve (raw.fillsIn started ended) curve (raw.fundingIn started ended) symbols
      started ended =
      .ok (pnl, drawdown)) :
    ∃ events : List CurveEvent, events.Perm (raw.windowEvents symbols started ended) ∧
      events.Pairwise CurveEvent.Before ∧ pnl = (events.map CurveEvent.cash).sum ∧
      drawdown = (Drawdown.along (fun n =>
        equityAfter symbols (raw.startPrice started) (events.take n))
        events.length).drop := by
  unfold equityCurve at h
  obtain ⟨_, hmissing, h⟩ := except_bind_eq_ok.mp h
  obtain ⟨c, hloop, h⟩ := except_bind_eq_ok.mp h
  cases h
  have hperm : (curveEvents (raw.fillsIn started ended) curve (raw.fundingIn started ended)
      started ended).Perm
      (raw.windowEvents symbols started ended) :=
    (perm_insertionSort _ _).trans (((filter_curve_perm hbefore hcurve).map _).append_left _)
  have htracks : Tracks symbols (raw.startPrice started) [] ⟨marksAtStart curve started, ∅, 0, 0,
      0⟩ := by
    refine ⟨rfl, fun _ => rfl, fun _ hmem => absurd hmem not_mem_nil, fun symbol hmem => ?_⟩
    exact marksAtStart_spec hbefore hcurve hnodup hsorted hmem
  have hevents : ∀ event ∈ curveEvents (raw.fillsIn started ended) curve
      (raw.fundingIn started ended) started ended,
      event.Configured symbols := by
    intro event hmem
    have hwindow := hperm.mem_iff.mp hmem
    cases event with
    | execution fill =>
      refine hconfigured fill ?_
      simpa [RawEvidence.windowEvents] using hwindow
    | funding flow => exact trivial
    | mark observation => exact trivial
  obtain ⟨hend, hdrawdown⟩ := foldlM_step_eq_ok hnodup htracks rfl rfl hevents hloop
  exact ⟨_, hperm, pairwise_insertionSort _ _, hend.cash, congrArg Drawdown.drop hdrawdown⟩

end Curve

/-! ## Sums -/

/-- The notional of the executions on a side. -/
def notionalOf (side : Side) (executions : List Execution) : ℚ :=
  ((executions.filter fun execution => execution.side = side).map Execution.notional).sum

/-- What executions add to the position of a symbol. -/
def netQuantity (executions : List Execution) (symbol : String) : ℚ :=
  ((executions.filter fun execution => execution.symbol =
    symbol).map Execution.signedQuantity).sum

theorem notionalOf_cons (side : Side) (fill : Execution) (fills : List Execution) :
    notionalOf side (fill :: fills) = (if fill.side = side then fill.notional else 0) +
      notionalOf side fills := by
  unfold notionalOf
  rw [filter_cons]
  by_cases hside : fill.side = side
  · simp [hside]
  · simp [hside]

theorem cash_execution (fill : Execution) :
    (CurveEvent.execution fill).cash = (if fill.side = .sell then fill.notional else 0) -
      (if fill.side = .buy then fill.notional else 0) - fill.commission := by
  unfold CurveEvent.cash Execution.signedQuantity Execution.notional
  cases hside : fill.side <;> simp [hside]

/-- Executions bring what is sold, less what is bought, less the commissions. -/
theorem sum_cash_executions (fills : List Execution) :
    (fills.map fun fill => (CurveEvent.execution fill).cash).sum =
      notionalOf .sell fills - notionalOf .buy fills - (fills.map Execution.commission).sum := by
  induction fills with
  | nil => simp [notionalOf]
  | cons fill fills ih =>
    rw [map_cons, sum_cons, ih, notionalOf_cons, notionalOf_cons, map_cons, sum_cons,
      cash_execution]
    ring

theorem getD_foldl_addExecution (executions : List Execution) (positions : Dict String ℚ)
    (symbol : String) :
    (executions.foldl addExecution positions).getD symbol 0 =
      positions.getD symbol 0 + netQuantity executions symbol := by
  induction executions generalizing positions with
  | nil => exact (add_zero _).symm
  | cons fill rest ih =>
    rw [foldl_cons, ih]
    unfold addExecution netQuantity
    rw [Dict.getD_set]
    by_cases heq : fill.symbol = symbol
    · rw [if_pos heq.symm, heq, filter_cons_of_pos (by simpa using heq), map_cons, sum_cons]
      ring
    · rw [if_neg (Ne.symm heq), filter_cons_of_neg (by simpa using heq)]

theorem sum_cash_window (raw : RawEvidence) (symbols : List String) (started ended : ℚ) :
    ((raw.windowEvents symbols started ended).map CurveEvent.cash).sum =
      notionalOf .sell (raw.fillsIn started ended) -
        notionalOf .buy (raw.fillsIn started ended) -
        ((raw.fillsIn started ended).map Execution.commission).sum +
        ((raw.fundingIn started ended).map FundingCashFlow.amount).sum := by
  unfold RawEvidence.windowEvents
  have hfills := sum_cash_executions (raw.fillsIn started ended)
  simp only [map_append, map_map, sum_append]
  have hmarks : ((raw.marksAfterStart symbols started ended).map
      (CurveEvent.cash ∘ CurveEvent.mark)).sum = 0 :=
    sum_eq_zero fun x hx => by
      obtain ⟨mark, -, rfl⟩ := mem_map.mp hx
      rfl
  rw [hmarks, add_zero]
  exact congrArg (· + _) hfills

/-! ## What accepted evidence says -/

theorem of_ensure {condition : Prop} {_ : Decidable condition} {text : String} {u : Unit}
    (h : ensure condition text = .ok u) : condition := by
  unfold ensure at h
  split at h
  · assumption
  · cases h

theorem of_requireFlat {N : Numerics} {positions : Dict String ℚ} {symbols : List String}
    {tolerance : ℚ}
    {boundary : String} {u : Unit}
    (h : requireFlat N positions symbols tolerance boundary = .ok u) :
    ∀ symbol ∈ symbols, |positions.getD symbol 0| ≤ tolerance := by
  intro symbol hmem
  have hnone := filter_eq_nil_iff.mp (of_ensure h) symbol hmem
  rw [decide_eq_true_eq] at hnone
  exact le_of_not_gt hnone

section Markouts

variable {N : Numerics}

/-- A time that is not before another is not before it some milliseconds later. -/
theorem Numerics.le_round_add {x y : ℚ} {milliseconds : ℕ} (h : N.round x ≤ y) :
    N.round x ≤ N.round (y + N.round (milliseconds / 1000)) := by
  have hlater : 0 ≤ N.round ((milliseconds : ℚ) / 1000) := by
    rw [← N.round_zero]
    exact N.round_mono (by positivity)
  calc N.round x = N.round (N.round x) := (N.round_round x).symm
    _ ≤ N.round (y + N.round ((milliseconds : ℚ) / 1000)) :=
      N.round_mono (h.trans (le_add_of_nonneg_right hlater))

/-- The mark of the markout of an execution, in the raw evidence. -/
def IsMarkout (N : Numerics) (raw : RawEvidence) (horizonMs maxLagMs : ℕ) (execution : Execution)
    (mark : MarkObservation) : Prop :=
  (raw.marks.find? fun candidate => candidate.symbol = execution.symbol ∧
      markoutTarget N execution horizonMs ≤ candidate.exchangeTime) = some mark ∧
    N.round (mark.exchangeTime - markoutTarget N execution horizonMs) ≤ N.round (maxLagMs / 1000)

/-- A mark that is found among those kept for markouts is the first one that is due. -/
theorem isMarkout_of_markoutMark {raw : RawEvidence} {symbols : List String} {started latest : ℚ}
    {horizonMs maxLagMs : ℕ} {execution : Execution} {mark : MarkObservation}
    (hsorted : Window.Chronological MarkObservation.exchangeTime raw.marks)
    (hsymbol : execution.symbol ∈ symbols) (htime : N.round started ≤ execution.exchangeTime)
    (h : markoutMark N (raw.marks.filter fun mark => mark.symbol ∈ symbols ∧
      N.round started ≤ mark.exchangeTime ∧
      mark.exchangeTime ≤ latest) horizonMs maxLagMs execution = .ok mark) :
    IsMarkout N raw horizonMs maxLagMs execution mark := by
  unfold markoutMark bisectLeft at h
  dsimp only at h
  rw [Window.getElem?_bisect, List.find?_filter] at h
  split at h
  · cases h
  rename_i found hfound
  split at h
  · cases h
  rename_i hlag
  cases h
  refine ⟨?_, le_of_not_gt hlag⟩
  have hkept := of_decide_eq_true (mem_filter.mp (List.mem_of_find?_eq_some hfound)).2
  refine hsorted.find?_filter (p := fun mark => mark.symbol ∈ symbols ∧
    N.round started ≤ mark.exchangeTime ∧
    mark.exchangeTime ≤ latest) ?_ ?_
  · rw [← hfound]
    congr 1
    funext candidate
    simp only [Bool.decide_and, Bool.decide_eq_true]
  · intro candidate hle hdue
    obtain ⟨hown, hdue⟩ := of_decide_eq_true hdue
    exact decide_eq_true ⟨hown ▸ hsymbol, (Numerics.le_round_add htime).trans hdue,
      hle.trans hkept.2.2⟩

end Markouts

/-- What accepted evidence says about a window, in terms of the raw evidence. -/
structure Exact (N : Numerics) (raw : RawEvidence) (symbols : List String) (started ended : ℚ)
    (requirements : Requirements) (evidence : OosEvidence) : Prop where
  /-- Every execution is in a configured symbol. -/
  configured : ∀ execution ∈ raw.executions, execution.symbol ∈ symbols
  /-- The executions before the window leave every symbol flat, and so do those up to its end. -/
  flat : ∀ symbol ∈ symbols,
    let before := netQuantity (raw.executions.filter fun execution =>
      execution.exchangeTime < started) symbol
    |before| ≤ requirements.flatTolerance ∧
      |before + netQuantity (raw.fillsIn started ended) symbol| ≤ requirements.flatTolerance
  /-- The profit is what is sold, less what is bought and the commissions, with the funding. -/
  netPnl : evidence.netPnlUsdt =
    notionalOf .sell (raw.fillsIn started ended) - notionalOf .buy (raw.fillsIn started ended) -
      ((raw.fillsIn started ended).map Execution.commission).sum +
      ((raw.fundingIn started ended).map FundingCashFlow.amount).sum
  /-- It is close to the profit the exchange has realized. -/
  crosscheck : |evidence.netPnlUsdt -
    (((raw.fillsIn started ended).map Execution.realizedPnl).sum -
      ((raw.fillsIn started ended).map Execution.commission).sum +
      ((raw.fundingIn started ended).map FundingCashFlow.amount).sum)| ≤
        requirements.pnlCrosscheckToleranceUsdt
  /-- Every symbol has a mark at or before the start. -/
  startMark : ∀ symbol ∈ symbols, ∃ mark, raw.startMark started symbol = some mark
  /-- The drawdown is the largest drop of the equity, over the events in order. -/
  drawdown : ∃ events : List CurveEvent, events.Perm (raw.windowEvents symbols started ended) ∧
    events.Pairwise CurveEvent.Before ∧
    IsGreatest {x | ∃ i j, i ≤ j ∧ j ≤ events.length ∧
      x = equityAfter symbols (raw.startPrice started) (events.take i) -
        equityAfter symbols (raw.startPrice started) (events.take j)} evidence.maxDrawdownUsdt
  /-- The markouts of each horizon are those of the first marks that are due. -/
  markout : List.Forall₂ (fun horizonMs entry => entry.1 = horizonMs ∧
    ∃ marks : List MarkObservation,
      List.Forall₂ (IsMarkout N raw horizonMs requirements.maxMarkoutLagMs)
      (raw.fillsIn started ended) marks ∧
      horizonMetrics N (raw.fillsIn started ended) marks requirements.maxMarkoutLagMs
        requirements.minUtcDayClusters = .ok entry.2)
    requirements.markoutHorizonsMs evidence.markout
  /-- Every execution, flow and mark of the window counts once. -/
  fillCount : evidence.fillCount = (raw.fillsIn started ended).length
  funding : evidence.fundingPnlUsdt =
    ((raw.fundingIn started ended).map FundingCashFlow.amount).sum
  sampleCount : evidence.sampleCount = raw.marks.countP fun mark =>
    mark.symbol ∈ symbols ∧ started ≤ mark.exchangeTime ∧ mark.exchangeTime ≤ ended

/-- **The reconstruction is exact.** -/
theorem reconstruction_is_exact {N : Numerics} {raw : RawEvidence}
    {deploymentId configSha256 : String}
    {symbols : List String} {trainingEnded started ended : ℚ} {requirements : Requirements}
    {evidence : OosEvidence}
    (hexecutions : Window.Chronological Execution.exchangeTime raw.executions)
    (hmarks : Window.Chronological MarkObservation.exchangeTime raw.marks)
    (haccepted : reconstructOosEvidence N raw deploymentId configSha256 symbols trainingEnded
      started ended
      requirements = .ok evidence) :
    Exact N raw (symbols.map fun symbol =>
      (Text.strip symbol).toUpper) (N.round started) (N.round ended)
      requirements evidence := by
  unfold reconstructOosEvidence at haccepted
  obtain ⟨_, hsymbols, haccepted⟩ := except_bind_eq_ok.mp haccepted
  obtain ⟨_, htimes, haccepted⟩ := except_bind_eq_ok.mp haccepted
  obtain ⟨_, hconfig, haccepted⟩ := except_bind_eq_ok.mp haccepted
  obtain ⟨_, hstart, haccepted⟩ := except_bind_eq_ok.mp haccepted
  obtain ⟨_, hsome, haccepted⟩ := except_bind_eq_ok.mp haccepted
  obtain ⟨_, hend, haccepted⟩ := except_bind_eq_ok.mp haccepted
  obtain ⟨_, hflows, haccepted⟩ := except_bind_eq_ok.mp haccepted
  obtain ⟨_, hsample, haccepted⟩ := except_bind_eq_ok.mp haccepted
  obtain ⟨_, hmaker, haccepted⟩ := except_bind_eq_ok.mp haccepted
  obtain ⟨_, hrpi, haccepted⟩ := except_bind_eq_ok.mp haccepted
  obtain ⟨_, hnotional, haccepted⟩ := except_bind_eq_ok.mp haccepted
  obtain ⟨_, hfees, haccepted⟩ := except_bind_eq_ok.mp haccepted
  obtain ⟨_, hzero, haccepted⟩ := except_bind_eq_ok.mp haccepted
  obtain ⟨curve, hcurve, haccepted⟩ := except_bind_eq_ok.mp haccepted
  obtain ⟨⟨pnl, drawdown⟩, hequity, haccepted⟩ := except_bind_eq_ok.mp haccepted
  obtain ⟨_, hcrosscheck, haccepted⟩ := except_bind_eq_ok.mp haccepted
  obtain ⟨markout, hmarkout, haccepted⟩ := except_bind_eq_ok.mp haccepted
  cases haccepted
  have hnodup := (of_ensure hsymbols).2
  -- every execution is configured
  have hconfigured : ∀ execution ∈ raw.executions,
      execution.symbol ∈ symbols.map fun symbol => (Text.strip symbol).toUpper := by
    intro execution hmem
    by_contra hoff
    refine not_mem_nil (a := execution.symbol) ?_
    rw [← of_ensure hconfig, mem_dedup]
    exact mem_filter.mpr ⟨mem_map_of_mem hmem, decide_eq_true hoff⟩
  have hfills : ∀ fill ∈ raw.fillsIn (N.round started) (N.round ended),
      fill.symbol ∈ symbols.map (fun symbol => (Text.strip symbol).toUpper) ∧
        N.round started ≤ fill.exchangeTime := by
    intro fill hmem
    obtain ⟨hraw, hin⟩ := mem_filter.mp hmem
    exact ⟨hconfigured fill hraw, (of_decide_eq_true hin).1⟩
  obtain ⟨before, hbefore, hperm, hsorted⟩ := curveMarks_eq_ok hcurve
  obtain ⟨events, hevents, hpairwise, hpnl, hdrawdown⟩ :=
    equityCurve_eq_ok hbefore hperm hnodup hsorted (fun fill hmem =>
      (hfills fill hmem).1) hequity
  have hnet := hpnl.trans ((hevents.map CurveEvent.cash).sum_eq.trans
    (sum_cash_window raw _ _ _))
  constructor
  case configured => exact hconfigured
  case flat =>
    intro symbol hmem before
    have hposition : (positionAt raw.executions (N.round started)).getD symbol 0 = before := by
      unfold positionAt
      rw [Window.Chronological.takeWhile_lt hexecutions, getD_foldl_addExecution,
        Dict.getD_empty, zero_add]
    have hfinal := of_requireFlat hend symbol hmem
    rw [getD_foldl_addExecution, hposition] at hfinal
    exact ⟨hposition ▸ of_requireFlat hstart symbol hmem, hfinal⟩
  case netPnl => exact hnet
  case crosscheck => exact of_ensure hcrosscheck
  case startMark =>
    intro symbol hmem
    obtain ⟨mark, -, hmark⟩ := mem_start hbefore hmem
    exact ⟨mark, hmark⟩
  case drawdown =>
    refine ⟨events, hevents, hpairwise, ?_⟩
    dsimp only
    rw [hdrawdown]
    exact Drawdown.isGreatest_drop _ _
  case markout =>
    refine (forall₂_of_mapM hmarkout).imp fun horizonMs entry hentry => ?_
    obtain ⟨marks, hfirst, hentry⟩ := except_bind_eq_ok.mp hentry
    obtain ⟨metrics, hmetrics, hentry⟩ := except_bind_eq_ok.mp hentry
    cases hentry
    refine ⟨rfl, marks, ?_, hmetrics⟩
    refine ((forall₂_and_left _ _).mpr ⟨hfills, forall₂_of_mapM hfirst⟩).imp fun fill mark
      hfill => ?_
    exact isMarkout_of_markoutMark hmarks hfill.1.1 hfill.1.2 hfill.2
  case fillCount => rfl
  case funding => rfl
  case sampleCount =>
    dsimp only
    rw [countP_filter]
    refine countP_congr fun mark _ => ?_
    simp only [Bool.and_eq_true, decide_eq_true_eq]
    constructor
    · rintro ⟨hin, hsymbol, -⟩
      exact ⟨hsymbol, hin⟩
    · rintro ⟨hsymbol, hin⟩
      exact ⟨hin, hsymbol, hin.1,
        hin.2.trans (Numerics.le_round_add (Numerics.le_round_add le_rfl))⟩

/-! ## A mark at the start of the window -/

namespace MarkAtStart

/-- Times that are their own floats, in the first two days. -/
def numerics : Numerics where
  round := id
  round_mono := monotone_id
  round_round := fun _ => rfl
  round_zero := rfl
  str := fun _ => ""
  date := fun time => if time < 86400 then "1970-01-01" else "1970-01-02"
  fmean := fun values => values.sum / values.length
  -- the daily means below are equal
  stdev := fun _ => 0
  sqrt := fun _ => 1.4142135623730951

def requirements : Requirements where
  markoutHorizonsMs := [1000]
  maxMarkoutLagMs := 5000
  minUtcDayClusters := 2
  flatTolerance := 1e-9
  pnlCrosscheckToleranceUsdt := 1
  horizons_ne_nil := by decide
  horizons_pos := by decide
  horizons_nodup := by decide
  lag_pos := by decide
  two_le_clusters := by decide
  flatTolerance_pos := by decide +kernel
  pnlTolerance_pos := by decide +kernel

/-- One contract at 100, a maker fill of an RPI order. -/
def fill (executionId : String) (side : Side) (exchangeTime : ℚ) : Execution where
  executionId := executionId
  symbol := "BTCUSDT"
  side := side
  quantity := 1
  price := 100
  exchangeTime := exchangeTime
  commission := 0
  bookedFee := 0
  commissionAsset := "USDT"
  realizedPnl := 0
  isMaker := true
  orderType := "LIMIT"
  timeInForce := "RPI"
  isRpi := true
  reduceOnly := false

/-- The contract is bought at the start of the window, when the mark goes from 50 to 100, and
sold the next day. -/
def raw : RawEvidence where
  omsIdentity := ⟨"", "", 2, 1, 2, "", "CLEAN_STOP"⟩
  executions := [fill "1" .buy 1000, fill "2" .sell 90000]
  externalCashFlowTimes := []
  marketJournal := ⟨"", 5, "", 4, 0⟩
  marks := [⟨"BTCUSDT", 999, 50⟩, ⟨"BTCUSDT", 1000, 100⟩, ⟨"BTCUSDT", 1001, 100⟩,
    ⟨"BTCUSDT", 90001, 100⟩]
  fundingCashFlows := []

/-- What is reconstructed for the window from 1000 to 100000. -/
def evidence? : Except String OosEvidence :=
  reconstructOosEvidence numerics raw "paper" "00" ["BTCUSDT"] 0 1000 100000 requirements

theorem evidence_accepted : ∃ evidence, evidence? = .ok evidence ∧
    evidence.maxDrawdownUsdt = 0 := by
  have haccepted : evidence?.toOption.any (fun evidence =>
      decide (evidence.maxDrawdownUsdt = 0)) = true := by
    decide +kernel
  cases h : evidence? with
  | error text =>
    rw [h] at haccepted
    cases haccepted
  | ok evidence =>
    rw [h] at haccepted
    exact ⟨evidence, rfl, of_decide_eq_true haccepted⟩

end MarkAtStart

theorem reconstruction_is_exact_at_start : ∃ evidence, MarkAtStart.evidence? = .ok evidence ∧
    Exact MarkAtStart.numerics MarkAtStart.raw
    ["BTCUSDT"] 1000 100000 MarkAtStart.requirements evidence := by
  obtain ⟨evidence, haccepted, -⟩ := MarkAtStart.evidence_accepted
  have hexact := reconstruction_is_exact (by unfold Window.Chronological; decide +kernel)
    (by unfold Window.Chronological; decide +kernel) haccepted
  have hsymbols : (["BTCUSDT"].map fun symbol => (Text.strip symbol).toUpper) = ["BTCUSDT"] := by
    decide +kernel
  rw [hsymbols] at hexact
  exact ⟨evidence, haccepted, hexact⟩

/-- The events of the window with every mark in it, in order. -/
def RawEvidence.allEvents (raw : RawEvidence) (symbols : List String) (started ended : ℚ) :
    List CurveEvent :=
  ((raw.fillsIn started ended).map CurveEvent.execution ++
    (raw.fundingIn started ended).map CurveEvent.funding ++
    (raw.marks.filter fun mark => mark.symbol ∈ symbols ∧ started ≤ mark.exchangeTime ∧
      mark.exchangeTime ≤ ended).map CurveEvent.mark).insertionSort CurveEvent.Before

/-- The last mark of a symbol before the window. -/
def RawEvidence.priceBefore (raw : RawEvidence) (started : ℚ) (symbol : String) : ℚ :=
  (((raw.marks.filter fun mark => mark.symbol = symbol ∧
    mark.exchangeTime < started).getLast?).map
    MarkObservation.markPrice).getD 0

/-- A mark at the start of the window is not taken after an execution at that time: accepted
evidence says that the equity never drops, and in the order of all events it drops by 50. -/
theorem mark_at_start_precedes_execution : ∃ evidence, MarkAtStart.evidence? = .ok evidence ∧
    Window.Chronological Execution.exchangeTime MarkAtStart.raw.executions ∧
    Window.Chronological MarkObservation.exchangeTime MarkAtStart.raw.marks ∧
    ¬IsGreatest {x | ∃ i j, i ≤ j ∧
      j ≤ (MarkAtStart.raw.allEvents ["BTCUSDT"] 1000 100000).length ∧
      x = equityAfter ["BTCUSDT"] (MarkAtStart.raw.priceBefore 1000)
          ((MarkAtStart.raw.allEvents ["BTCUSDT"] 1000 100000).take i) -
        equityAfter ["BTCUSDT"] (MarkAtStart.raw.priceBefore 1000)
          ((MarkAtStart.raw.allEvents ["BTCUSDT"] 1000 100000).take j)}
            evidence.maxDrawdownUsdt := by
  obtain ⟨evidence, haccepted, hdrawdown⟩ := MarkAtStart.evidence_accepted
  refine ⟨evidence, haccepted, by unfold Window.Chronological; decide +kernel,
    by unfold Window.Chronological; decide +kernel, fun hgreatest => ?_⟩
  have hdrop : (50 : ℚ) ≤ evidence.maxDrawdownUsdt :=
    hgreatest.2 ⟨0, 1, Nat.zero_le 1, by decide +kernel, by decide +kernel⟩
  rw [hdrawdown] at hdrop
  exact absurd hdrop (by norm_num)

end ChronosHFT.Evidence
