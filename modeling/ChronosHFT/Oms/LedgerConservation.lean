import ChronosHFT.Oms.Exposure

/-!
# Conservation in the exposure ledgers

`_apply_fill_to_ledger` books one fill in five ways: it opens a position, adds to it, reduces
it, closes it or turns it over, on either side.  Only some of them realise profit, and the
average price is blended, kept, forgotten or replaced.  What ties them together is that no
money appears: the realised profit of a key is what was sold less what was bought, plus what
the open position is carried at.

An `Account` is a ledger together with the fills it has booked.  The law is an equation between
two readings of it, kept by every booking (`Account.Conserved.record`).  Quantities are on a
step of at least `qtyEps`, so that the rule which reads a tiny position as flat never applies
to a position that is not.
-/

namespace ChronosHFT.Oms

open List

namespace Ledger

variable {κ : Type} [DecidableEq κ]

/-! ## One fill -/

variable {p q s x : ℚ}

/-- On a step of at least `qtyEps` only the flat position is tiny. -/
theorem eq_zero_of_abs_lt {δ : ℚ} (hδ : qtyEps ≤ δ) (hx : ∃ n : ℤ, x = n * δ)
    (hsmall : |x| < qtyEps) : x = 0 := by
  obtain ⟨n, rfl⟩ := hx
  have hpos : 0 < δ := lt_of_lt_of_le (by norm_num [qtyEps]) hδ
  have hlt : |(n : ℚ)| * δ < 1 * δ := by
    rw [one_mul, ← abs_of_pos hpos, ← abs_mul, abs_of_pos hpos]
    exact lt_of_lt_of_le hsmall hδ
  have hone : |(n : ℚ)| < 1 := lt_of_mul_lt_mul_right hlt hpos.le
  have hn : n = 0 := by
    rw [← Int.cast_abs] at hone
    exact Int.abs_lt_one_iff.mp (by exact_mod_cast hone)
  rw [hn, Int.cast_zero, zero_mul]

theorem snap_of_step {δ : ℚ} (hδ : qtyEps ≤ δ) (hx : ∃ n : ℤ, x = n * δ) : snap x = x := by
  unfold snap
  split
  · next hsmall => exact (eq_zero_of_abs_lt hδ hx hsmall).symm
  · rfl

/-- A step apart, `nextPrice` forgets the price exactly when the position is closed. -/
theorem nextPrice_of_step {δ : ℚ} (hδ : qtyEps ≤ δ) (hx : ∃ n : ℤ, p + s = n * δ) (a q x : ℚ) :
    nextPrice p a s q x =
      if p + s = 0 then 0
      else if (0 < p ∧ p + s < 0) ∨ (p < 0 ∧ 0 < p + s) then x
      else blendedPrice p a s q x := by
  have htiny : |p + s| < qtyEps ↔ p + s = 0 := by
    constructor
    · exact eq_zero_of_abs_lt hδ hx
    · intro hzero
      rw [hzero, abs_zero]
      norm_num [qtyEps]
  unfold nextPrice
  simp only [htiny]

theorem isIncreasing_of_side (hq : 0 < q) (hs : s = q ∧ 0 ≤ p ∨ s = -q ∧ p ≤ 0) :
    isIncreasing p s = true := by
  unfold isIncreasing
  rw [decide_eq_true_eq]
  obtain ⟨rfl, hp⟩ | ⟨rfl, hp⟩ := hs
  · exact hp.eq_or_lt.imp Eq.symm fun hpos => Or.inl ⟨hpos, hq⟩
  · exact hp.eq_or_lt.imp id fun hneg => Or.inr ⟨hneg, neg_neg_of_pos hq⟩

theorem isIncreasing_of_opposite (hq : 0 < q) (hs : s = q ∧ p < 0 ∨ s = -q ∧ 0 < p) :
    isIncreasing p s = false := by
  unfold isIncreasing
  rw [decide_eq_false_iff_not]
  obtain ⟨rfl, hp⟩ | ⟨rfl, hp⟩ := hs <;> rintro (h | h | h) <;> linarith

/-- Opening and adding: the position is carried at its old value plus the cost of the
fill. -/
theorem blendedPrice_carries {a : ℚ} (hq : 0 < q) (hs : s = q ∧ 0 ≤ p ∨ s = -q ∧ p ≤ 0) :
    (p + s) * blendedPrice p a s q x = p * a + s * x := by
  have hden : 0 < |p| + q := by positivity
  unfold blendedPrice
  rw [if_pos (isIncreasing_of_side hq hs), if_pos hden]
  obtain ⟨rfl, hp⟩ | ⟨rfl, hp⟩ := hs
  · rw [abs_of_nonneg hp] at hden ⊢
    field_simp
  · rw [abs_of_nonpos hp] at hden ⊢
    field_simp
    ring

/-- What a fill realises is the money it brings in, less what the position is carried at
before it, plus what it is carried at after it. -/
def Conserves (p a s q x : ℚ) : Prop :=
  realizedPnl p a s q x = -(s * x) + (p + s) * nextPrice p a s q x - p * a

theorem conserves_of_side {δ : ℚ} (a x : ℚ) (hδ : qtyEps ≤ δ) (hq : 0 < q)
    (hx : ∃ n : ℤ, p + s = n * δ) (hs : s = q ∧ 0 ≤ p ∨ s = -q ∧ p ≤ 0) :
    Conserves p a s q x := by
  have hcarried := blendedPrice_carries (a := a) (x := x) hq hs
  have hopen : p + s ≠ 0 := by
    obtain ⟨rfl, hp⟩ | ⟨rfl, hp⟩ := hs <;> intro hzero <;> linarith
  have hsame : ¬((0 < p ∧ p + s < 0) ∨ (p < 0 ∧ 0 < p + s)) := by
    obtain ⟨rfl, hp⟩ | ⟨rfl, hp⟩ := hs <;> rintro (h | h) <;> linarith
  unfold Conserves realizedPnl
  rw [nextPrice_of_step hδ hx, if_pos (isIncreasing_of_side hq hs), if_neg hopen, if_neg hsame,
    hcarried]
  ring

/-- Against the position: part of it is closed, all of it, or it is turned over. -/
theorem conserves_of_opposite {δ : ℚ} (a x : ℚ) (hδ : qtyEps ≤ δ) (hq : 0 < q)
    (hx : ∃ n : ℤ, p + s = n * δ) (hs : s = q ∧ p < 0 ∨ s = -q ∧ 0 < p) :
    Conserves p a s q x := by
  have hdec := isIncreasing_of_opposite hq hs
  unfold Conserves realizedPnl
  rw [nextPrice_of_step hδ hx, hdec, if_neg Bool.false_ne_true]
  unfold blendedPrice
  rw [hdec, if_neg Bool.false_ne_true]
  obtain ⟨rfl, hp⟩ | ⟨rfl, hp⟩ := hs
  · rw [if_neg hp.not_gt, abs_of_neg hp]
    obtain hlt | heq | hgt := lt_trichotomy (p + s) 0
    · rw [min_eq_right (by linarith), if_neg hlt.ne, if_neg (by rintro (h | h) <;> linarith)]
      ring
    · rw [min_eq_right (by linarith), if_pos heq, show p = -s by linarith]
      ring
    · rw [min_eq_left (by linarith), if_neg hgt.ne', if_pos (Or.inr ⟨hp, hgt⟩)]
      ring
  · rw [if_pos hp, abs_of_pos hp]
    obtain hlt | heq | hgt := lt_trichotomy (p + -q) 0
    · rw [min_eq_left (by linarith), if_neg hlt.ne, if_pos (Or.inl ⟨hp, hlt⟩)]
      ring
    · rw [min_eq_right (by linarith), if_pos heq, show p = q by linarith]
      ring
    · rw [min_eq_right (by linarith), if_neg hgt.ne', if_neg (by rintro (h | h) <;> linarith)]
      ring

/-- **One fill conserves**, whichever of its branches is taken. -/
theorem realizedPnl_conserves {δ : ℚ} (side : Side) (a x : ℚ) (hδ : qtyEps ≤ δ) (hq : 0 < q)
    (hx : ∃ n : ℤ, p + side.signed q = n * δ) : Conserves p a (side.signed q) q x := by
  cases side with
  | buy =>
    obtain hp | hp := le_or_gt 0 p
    · exact conserves_of_side a x hδ hq hx (Or.inl ⟨rfl, hp⟩)
    · exact conserves_of_opposite a x hδ hq hx (Or.inl ⟨rfl, hp⟩)
  | sell =>
    obtain hp | hp := le_or_gt p 0
    · exact conserves_of_side a x hδ hq hx (Or.inr ⟨rfl, hp⟩)
    · exact conserves_of_opposite a x hδ hq hx (Or.inr ⟨rfl, hp⟩)

/-! ## Accounts -/

/-- The arguments of one booking. -/
structure Fill (κ : Type) where
  key : κ
  side : Side
  qty : ℚ
  price : ℚ
deriving DecidableEq

/-- A fill that is booked. -/
def Fill.Positive (fill : Fill κ) : Prop := 0 < fill.qty ∧ 0 < fill.price

instance (fill : Fill κ) : Decidable fill.Positive := inferInstanceAs (Decidable (_ ∧ _))

/-- A ledger and the fills it has booked, each with the profit it realised. -/
structure Account (κ : Type) where
  ledger : Ledger κ
  booked : List (Fill κ × ℚ)

namespace Account

def position (a : Account κ) (key : κ) : ℚ := a.ledger.positions.getD key 0

def averagePrice (a : Account κ) (key : κ) : ℚ := a.ledger.averagePrices.getD key 0

/-- The sum of an amount over the fills booked to a key. -/
def total (a : Account κ) (amount : Fill κ → ℚ → ℚ) (key : κ) : ℚ :=
  (a.booked.map fun b => if b.1.key = key then amount b.1 b.2 else 0).sum

/-- The sum of the realised profits. -/
def realized (a : Account κ) (key : κ) : ℚ := a.total (fun _ pnl => pnl) key

/-- The sum of the signed quantities. -/
def signedQty (a : Account κ) (key : κ) : ℚ :=
  a.total (fun fill _ => fill.side.signed fill.qty) key

/-- What was bought or sold, at the prices of the fills. -/
def notional (a : Account κ) (side : Side) (key : κ) : ℚ :=
  a.total (fun fill _ => if fill.side = side then fill.qty * fill.price else 0) key

/-- A booking; a refused one leaves no trace. -/
def record (a : Account κ) (fill : Fill κ) : Account κ :=
  match a.ledger.applyFill fill.key fill.side fill.qty fill.price with
  | .ok (ledger, pnl) => ⟨ledger, a.booked ++ [(fill, pnl)]⟩
  | .error _ => a

/-- The position of a key was turned over from one account to the next. -/
def Flipped (before after : Account κ) (key : κ) : Prop :=
  (0 < before.position key ∧ after.position key < 0) ∨
    (before.position key < 0 ∧ 0 < after.position key)

/-- The two readings of an account agree, and its positions are on the step. -/
structure Conserved (δ : ℚ) (a : Account κ) : Prop where
  onStep : ∀ key, ∃ n : ℤ, a.position key = n * δ
  position_eq : ∀ key, a.position key = a.signedQty key
  realized_eq : ∀ key,
    a.realized key =
      a.notional .sell key - a.notional .buy key + a.position key * a.averagePrice key

theorem Conserved.of_flat {δ : ℚ} {ledger : Ledger κ}
    (hflat : ∀ key, ledger.positions.getD key 0 = 0) : Conserved δ ⟨ledger, []⟩ where
  onStep key := ⟨0, by rw [position, hflat, Int.cast_zero, zero_mul]⟩
  position_eq key := hflat key
  realized_eq key := by
    show (0 : ℚ) = 0 - 0 + ledger.positions.getD key 0 * _
    rw [hflat, zero_mul, sub_zero, add_zero]

variable {a : Account κ} {fill : Fill κ}

theorem total_of_booked {b : Account κ} {pnl : ℚ}
    (hbooked : b.booked = a.booked ++ [(fill, pnl)]) (amount : Fill κ → ℚ → ℚ) (key : κ) :
    b.total amount key = a.total amount key + if fill.key = key then amount fill pnl else 0 := by
  unfold total
  rw [hbooked, map_append, sum_append, map_singleton, sum_singleton]

/-- **What a booking does.**  A refused fill changes nothing; a booked one moves its own
key by its signed quantity and realises what `realizedPnl` says. -/
theorem record_cases (a : Account κ) (fill : Fill κ) :
    ¬fill.Positive ∧ a.record fill = a ∨
      fill.Positive ∧
        (a.record fill).booked =
          a.booked ++ [(fill, realizedPnl (a.position fill.key) (a.averagePrice fill.key)
            (fill.side.signed fill.qty) fill.qty fill.price)] ∧
        (∀ key, (a.record fill).position key =
          if key = fill.key then snap (a.position key + fill.side.signed fill.qty)
          else a.position key) ∧
        ∀ key, (a.record fill).averagePrice key =
          if key = fill.key then
            nextPrice (a.position key) (a.averagePrice key) (fill.side.signed fill.qty) fill.qty
              fill.price
          else a.averagePrice key := by
  unfold record applyFill
  by_cases hbad : fill.qty ≤ 0 ∨ fill.price ≤ 0
  · rw [if_pos hbad]
    refine Or.inl ⟨fun hpositive => ?_, rfl⟩
    exact hbad.elim hpositive.1.not_ge hpositive.2.not_ge
  · rw [if_neg hbad]
    obtain ⟨hqty, hprice⟩ := not_or.mp hbad
    refine Or.inr ⟨⟨lt_of_not_ge hqty, lt_of_not_ge hprice⟩, rfl, fun key => ?_, fun key => ?_⟩
    · by_cases hkey : key = fill.key
      · rw [if_pos hkey, hkey]
        exact Dict.getD_set_self ..
      · rw [if_neg hkey]
        exact Dict.getD_set_of_ne _ _ _ hkey
    · by_cases hkey : key = fill.key
      · rw [if_pos hkey, hkey]
        exact Dict.getD_set_self ..
      · rw [if_neg hkey]
        exact Dict.getD_set_of_ne _ _ _ hkey

theorem booked_record (a : Account κ) (fill : Fill κ) :
    (a.record fill).booked.map Prod.fst =
      a.booked.map Prod.fst ++ if fill.Positive then [fill] else [] := by
  obtain ⟨hrefused, hsame⟩ | ⟨hpositive, hbooked, -⟩ := a.record_cases fill
  · rw [if_neg hrefused, hsame, append_nil]
  · rw [if_pos hpositive, hbooked, map_append]
    rfl

/-- **The step.**  A fill on the step keeps the account conserved. -/
theorem Conserved.record {δ : ℚ} (ha : a.Conserved δ) (hδ : qtyEps ≤ δ)
    (hfill : ∃ n : ℤ, fill.qty = n * δ) : (a.record fill).Conserved δ := by
  obtain ⟨-, hsame⟩ | ⟨⟨hq, -⟩, hbooked, hposition, haverage⟩ := a.record_cases fill
  · rw [hsame]
    exact ha
  have htotal := total_of_booked hbooked
  have hnext : ∃ n : ℤ, a.position fill.key + fill.side.signed fill.qty = n * δ := by
    obtain ⟨m, hm⟩ := ha.onStep fill.key
    obtain ⟨n, hn⟩ := hfill
    cases hside : fill.side with
    | buy => exact ⟨m + n, by rw [Side.signed, hm, hn]; push_cast; ring⟩
    | sell => exact ⟨m - n, by rw [Side.signed, hm, hn]; push_cast; ring⟩
  have hmoved : (a.record fill).position fill.key =
      a.position fill.key + fill.side.signed fill.qty := by
    rw [hposition, if_pos rfl, snap_of_step hδ hnext]
  refine ⟨fun key => ?_, fun key => ?_, fun key => ?_⟩
  · by_cases hkey : key = fill.key
    · rw [hkey, hmoved]
      exact hnext
    · rw [hposition, if_neg hkey]
      exact ha.onStep key
  · unfold signedQty
    rw [htotal]
    by_cases hkey : key = fill.key
    · rw [hkey, if_pos rfl, hmoved, ha.position_eq]
      rfl
    · rw [if_neg (Ne.symm hkey), hposition, if_neg hkey, add_zero]
      exact ha.position_eq key
  · unfold realized notional
    rw [htotal, htotal, htotal]
    have hbefore := ha.realized_eq key
    unfold realized notional at hbefore
    by_cases hkey : key = fill.key
    · subst hkey
      have hone := realizedPnl_conserves fill.side (a.averagePrice fill.key) fill.price hδ hq
        hnext
      unfold Conserves at hone
      rw [if_pos rfl, if_pos rfl, if_pos rfl, hmoved, haverage, if_pos rfl, hbefore, hone]
      cases fill.side with
      | buy =>
        rw [if_neg nofun, if_pos rfl]
        simp only [Side.signed]
        ring
      | sell =>
        rw [if_pos rfl, if_neg nofun]
        simp only [Side.signed]
        ring
    · rw [if_neg (Ne.symm hkey), if_neg (Ne.symm hkey), if_neg (Ne.symm hkey), hposition,
        if_neg hkey, haverage, if_neg hkey, hbefore]
      ring

/-- A fill that turns a position over leaves it at its own price. -/
theorem averagePrice_of_flipped {key : κ}
    (hflip : Flipped a (a.record fill) key) : (a.record fill).averagePrice key = fill.price := by
  obtain ⟨-, hsame⟩ | ⟨-, -, hposition, haverage⟩ := a.record_cases fill
  · rw [hsame] at hflip
    obtain ⟨h, h'⟩ | ⟨h, h'⟩ := hflip <;> linarith
  unfold Flipped at hflip
  rw [hposition] at hflip
  by_cases hkey : key = fill.key
  · rw [if_pos hkey] at hflip
    rw [haverage, if_pos hkey]
    unfold snap at hflip
    unfold nextPrice
    by_cases htiny : |a.position key + fill.side.signed fill.qty| < qtyEps
    · rw [if_pos htiny] at hflip
      obtain ⟨-, h⟩ | ⟨-, h⟩ := hflip <;> exact absurd h (lt_irrefl 0)
    · rw [if_neg htiny] at hflip
      dsimp only
      rw [if_neg htiny, if_pos hflip]
  · rw [if_neg hkey] at hflip
    obtain ⟨h, h'⟩ | ⟨h, h'⟩ := hflip <;> linarith

end Account

end Ledger

namespace Exposure

/-! ## The two ledgers of the manager -/

/-- A call that books a fill. -/
inductive FillCall where
  /-- `on_fill`. -/
  | account (symbol : String) (side : Side) (qty price : ℚ)
  /-- `on_strategy_fill`. -/
  | strategy (strategyId symbol : String) (side : Side) (qty price : ℚ)

namespace FillCall

def qty : FillCall → ℚ
  | .account _ _ qty _ => qty
  | .strategy _ _ _ qty _ => qty

def price : FillCall → ℚ
  | .account _ _ _ price => price
  | .strategy _ _ _ _ price => price

/-- What the call books to the account, when it is positive. -/
def accountFills : FillCall → List (Ledger.Fill String)
  | .account symbol side qty price => [⟨symbol, side, qty, price⟩]
  | .strategy .. => []

/-- What it books to the strategies. -/
def strategyFills : FillCall → List (Ledger.Fill (String × String))
  | .account .. => []
  | .strategy strategyId symbol side qty price =>
      [⟨strategyKey strategyId symbol, side, qty, price⟩]

end FillCall

/-- The manager with the fills booked in each of its ledgers. -/
structure Books where
  exposure : Exposure
  accountFills : List (Ledger.Fill String × ℚ) := []
  strategyFills : List (Ledger.Fill (String × String) × ℚ) := []

namespace Books

/-- The positions of the account, by symbol. -/
def account (b : Books) : Ledger.Account String :=
  ⟨⟨b.exposure.netPositions, b.exposure.avgPrices⟩, b.accountFills⟩

/-- The positions of the strategies, by strategy and symbol. -/
def strategies (b : Books) : Ledger.Account (String × String) :=
  ⟨⟨b.exposure.strategyNetPositions, b.exposure.strategyAvgPrices⟩, b.strategyFills⟩

/-- One call; a call that raises changes nothing. -/
def book (b : Books) : FillCall → Books
  | .account symbol side qty price =>
    match b.exposure.onFill symbol side qty price with
    | .ok (exposure, pnl) =>
      { b with
        exposure := exposure
        accountFills := b.accountFills ++ [(⟨symbol, side, qty, price⟩, pnl)] }
    | .error _ => b
  | .strategy strategyId symbol side qty price =>
    match b.exposure.onStrategyFill strategyId symbol side qty price with
    | .ok (exposure, pnl) =>
      { b with
        exposure := exposure
        strategyFills := b.strategyFills ++
          [(⟨strategyKey strategyId symbol, side, qty, price⟩, pnl)] }
    | .error _ => b

/-- The calls one after the other, from a manager no fill was booked in. -/
def run (e : Exposure) (calls : List FillCall) : Books := calls.foldl book { exposure := e }

theorem run_append_singleton (e : Exposure) (calls : List FillCall) (call : FillCall) :
    run e (calls ++ [call]) = (run e calls).book call := by
  unfold run
  rw [foldl_append, foldl_cons, foldl_nil]

/-- `on_fill` books to the account and leaves the strategies alone. -/
theorem book_account (b : Books) (symbol : String) (side : Side) (qty price : ℚ) :
    (b.book (.account symbol side qty price)).account =
        b.account.record ⟨symbol, side, qty, price⟩ ∧
      (b.book (.account symbol side qty price)).strategies = b.strategies := by
  unfold book onFill Ledger.Account.record account
  dsimp only
  cases Ledger.applyFill ⟨b.exposure.netPositions,
    b.exposure.avgPrices⟩ symbol side qty price with
  | ok result => exact ⟨rfl, rfl⟩
  | error e => exact ⟨rfl, rfl⟩

/-- `on_strategy_fill` books to the strategies and leaves the account alone. -/
theorem book_strategy (b : Books) (strategyId symbol : String) (side : Side) (qty price : ℚ) :
    (b.book (.strategy strategyId symbol side qty price)).strategies =
        b.strategies.record ⟨strategyKey strategyId symbol, side, qty, price⟩ ∧
      (b.book (.strategy strategyId symbol side qty price)).account = b.account := by
  unfold book onStrategyFill Ledger.Account.record strategies
  dsimp only
  cases Ledger.applyFill ⟨b.exposure.strategyNetPositions, b.exposure.strategyAvgPrices⟩
      (strategyKey strategyId symbol) side qty price with
  | ok result => exact ⟨rfl, rfl⟩
  | error e => exact ⟨rfl, rfl⟩

/-- Both ledgers are conserved. -/
def Conserved (δ : ℚ) (b : Books) : Prop := b.account.Conserved δ ∧ b.strategies.Conserved δ

theorem Conserved.book {δ : ℚ} {b : Books} (hb : b.Conserved δ) (hδ : qtyEps ≤ δ)
    {call : FillCall}
    (hcall : ∃ n : ℤ, call.qty = n * δ) : (b.book call).Conserved δ := by
  cases call with
  | account symbol side qty price =>
    obtain ⟨haccount, hstrategies⟩ := b.book_account symbol side qty price
    refine ⟨?_, ?_⟩
    · rw [haccount]
      exact hb.1.record hδ hcall
    · rw [hstrategies]
      exact hb.2
  | strategy strategyId symbol side qty price =>
    obtain ⟨hstrategies, haccount⟩ := b.book_strategy strategyId symbol side qty price
    refine ⟨?_, ?_⟩
    · rw [haccount]
      exact hb.1
    · rw [hstrategies]
      exact hb.2.record hδ hcall

/-- No position is open. -/
def Flat (e : Exposure) : Prop :=
  (∀ symbol, e.netPositions.getD symbol 0 = 0) ∧ ∀ key, e.strategyNetPositions.getD key 0 = 0

theorem Conserved.run {δ : ℚ} {e : Exposure} (hflat : Flat e) (hδ : qtyEps ≤ δ)
    (calls : List FillCall) (hcalls : ∀ call ∈ calls, ∃ n : ℤ, call.qty = n * δ) :
    (run e calls).Conserved δ := by
  induction calls using List.reverseRecOn with
  | nil => exact ⟨.of_flat hflat.1, .of_flat hflat.2⟩
  | append_singleton calls call ih =>
    rw [run_append_singleton]
    have hbefore := ih fun c hc => hcalls c (mem_append_left _ hc)
    exact hbefore.book hδ (hcalls call (mem_append_right _ mem_cons_self))

/-- **Every positive fill is booked**, and no other. -/
theorem booked_run (e : Exposure) (calls : List FillCall) :
    (run e calls).account.booked.map Prod.fst =
        (calls.flatMap FillCall.accountFills).filter (Ledger.Fill.Positive ·) ∧
      (run e calls).strategies.booked.map Prod.fst =
        (calls.flatMap FillCall.strategyFills).filter (Ledger.Fill.Positive ·) := by
  induction calls using List.reverseRecOn with
  | nil => exact ⟨rfl, rfl⟩
  | append_singleton calls call ih =>
    rw [run_append_singleton, flatMap_append, flatMap_append, filter_append,
      filter_append, ← ih.1, ← ih.2]
    cases call with
    | account symbol side qty price =>
      obtain ⟨haccount, hstrategies⟩ := (run e calls).book_account symbol side qty price
      rw [haccount, hstrategies, Ledger.Account.booked_record]
      refine ⟨congrArg _ ?_, (append_nil _).symm⟩
      simp [FillCall.accountFills, filter_cons]
    | strategy strategyId symbol side qty price =>
      obtain ⟨hstrategies, haccount⟩ :=
        (run e calls).book_strategy strategyId symbol side qty price
      rw [haccount, hstrategies, Ledger.Account.booked_record]
      refine ⟨(append_nil _).symm, congrArg _ ?_⟩
      simp [FillCall.strategyFills, filter_cons]

/-- A position turned over by a call is carried at the price of the call. -/
theorem averagePrice_of_flipped_account {b : Books} {call : FillCall} {symbol : String}
    (hflip : Ledger.Account.Flipped b.account (b.book call).account symbol) :
    (b.book call).account.averagePrice symbol = call.price := by
  cases call with
  | account symbol' side qty price =>
    rw [(b.book_account symbol' side qty price).1] at hflip ⊢
    exact Ledger.Account.averagePrice_of_flipped hflip
  | strategy strategyId symbol' side qty price =>
    rw [(b.book_strategy strategyId symbol' side qty price).2] at hflip
    obtain ⟨h, h'⟩ | ⟨h, h'⟩ := hflip <;> linarith

theorem averagePrice_of_flipped_strategies {b : Books} {call : FillCall} {key : String × String}
    (hflip : Ledger.Account.Flipped b.strategies (b.book call).strategies key) :
    (b.book call).strategies.averagePrice key = call.price := by
  cases call with
  | account symbol side qty price =>
    rw [(b.book_account symbol side qty price).2] at hflip
    obtain ⟨h, h'⟩ | ⟨h, h'⟩ := hflip <;> linarith
  | strategy strategyId symbol side qty price =>
    rw [(b.book_strategy strategyId symbol side qty price).1] at hflip ⊢
    exact Ledger.Account.averagePrice_of_flipped hflip

/-- **Conservation.**  From flat, over any calls whose quantities are on a step of at least
`qtyEps`: every positive fill is booked; in either ledger, and for every key, the position is the
signed sum of the booked quantities, and the realised profit is what was sold less what was
bought, plus what the position is carried at.  A call that turns a position over leaves it at its
own price. -/
theorem fills_conserve {δ : ℚ} (hδ : qtyEps ≤ δ) {e : Exposure} (hflat : Flat e)
    (calls : List FillCall) (hcalls : ∀ call ∈ calls, ∃ n : ℤ, call.qty = n * δ) :
    ((run e calls).account.booked.map Prod.fst =
        (calls.flatMap FillCall.accountFills).filter (Ledger.Fill.Positive ·) ∧
      (run e calls).strategies.booked.map Prod.fst =
        (calls.flatMap FillCall.strategyFills).filter (Ledger.Fill.Positive ·)) ∧
    (∀ symbol,
      (run e calls).account.position symbol = (run e calls).account.signedQty symbol ∧
      (run e calls).account.realized symbol =
        (run e calls).account.notional .sell symbol -
          (run e calls).account.notional .buy symbol +
          (run e calls).account.position symbol * (run e calls).account.averagePrice symbol) ∧
    (∀ key,
      (run e calls).strategies.position key = (run e calls).strategies.signedQty key ∧
      (run e calls).strategies.realized key =
        (run e calls).strategies.notional .sell key -
          (run e calls).strategies.notional .buy key +
          (run e calls).strategies.position key * (run e calls).strategies.averagePrice key) ∧
    ∀ before call after, calls = before ++ call :: after →
      (∀ symbol,
        Ledger.Account.Flipped (run e before).account (run e (before ++ [call])).account symbol →
          (run e (before ++ [call])).account.averagePrice symbol = call.price) ∧
      ∀ key,
        Ledger.Account.Flipped (run e before).strategies (run e (before ++ [call])).strategies
            key →
          (run e (before ++ [call])).strategies.averagePrice key = call.price := by
  have hrun := Conserved.run hflat hδ calls hcalls
  refine ⟨booked_run e calls, fun symbol =>
    ⟨hrun.1.position_eq symbol, hrun.1.realized_eq symbol⟩,
    fun key => ⟨hrun.2.position_eq key, hrun.2.realized_eq key⟩, ?_⟩
  intro before call after _
  rw [run_append_singleton]
  exact ⟨fun _ => averagePrice_of_flipped_account, fun _ => averagePrice_of_flipped_strategies⟩

/-- Open long, add, sell past the position and buy some back. -/
def overFlip : List FillCall :=
  [.account "BTCUSDT" .buy 1 100, .strategy "glft" "BTCUSDT" .buy 1 100,
    .account "BTCUSDT" .buy 1 110, .account "BTCUSDT" .sell 3 120,
    .account "BTCUSDT" .buy (1 / 2) 90]

theorem fills_conserve_over_flip :
    (run {} overFlip).account.booked.length = 4 ∧
    (run {} overFlip).account.position "BTCUSDT" = -(1 / 2) ∧
    (run {} overFlip).account.realized "BTCUSDT" = 45 ∧
    (run {} overFlip).strategies.position ("glft", "BTCUSDT") = 1 ∧
    (run {} (overFlip.take 4)).account.averagePrice "BTCUSDT" = 120 := by
  obtain ⟨⟨hbooked, -⟩, haccount, hstrategies, hflipped⟩ := fills_conserve (δ := 1 / 2)
    (by norm_num [qtyEps]) (e := {}) ⟨fun _ => rfl, fun _ => rfl⟩ overFlip (by
      intro call hcall
      simp only [overFlip, mem_cons, not_mem_nil, or_false] at hcall
      obtain rfl | rfl | rfl | rfl | rfl := hcall
      · exact ⟨2, by norm_num [FillCall.qty]⟩
      · exact ⟨2, by norm_num [FillCall.qty]⟩
      · exact ⟨2, by norm_num [FillCall.qty]⟩
      · exact ⟨6, by norm_num [FillCall.qty]⟩
      · exact ⟨1, by norm_num [FillCall.qty]⟩)
  refine ⟨?_, ?_, ?_, ?_, ?_⟩
  · rw [← length_map Prod.fst, hbooked]
    decide +kernel
  · rw [(haccount "BTCUSDT").1]
    decide +kernel
  · rw [(haccount "BTCUSDT").2]
    decide +kernel
  · rw [(hstrategies ("glft", "BTCUSDT")).1]
    decide +kernel
  · exact (hflipped (overFlip.take 3) (.account "BTCUSDT" .sell 3 120) _ rfl).1 "BTCUSDT"
      (Or.inl (by decide +kernel))

end Books

end Exposure

end ChronosHFT.Oms
