import ChronosHFT.Lib.Dict
import ChronosHFT.Lib.Text

/-!
# Execution identities

`oms/execution_identity.py`.  A booked trade is remembered by the text
`VENUE:SYMBOL:TRADE_ID`.  Once the REST trade cursor of a symbol has passed a
trade, the identity is dropped (`discardCursorCovered`) and the cursor alone
stands for it; the same rule is applied to the identities read back at a restart
(`retainCursorUncovered`).

An identity that does not have this shape is never dropped.
-/

namespace ChronosHFT.Oms

open List

/-- `int(text)` for a text that is the decimal form of its own value. -/
def decimal? (chars : List Char) : Option ℕ :=
  let n := Nat.ofDigitChars 10 chars 0
  if Nat.toDigits 10 n = chars then some n else none

/-- `f"{venue}:{symbol}:{trade_id}"`. -/
def executionIdOf (venue symbol : String) (tradeId : ℕ) : String :=
  String.ofList ([':'].intercalate [venue.toList, symbol.toList, Nat.toDigits 10 tradeId])

/-- `canonical_execution_trade_key`. -/
def canonicalExecutionTradeKey (executionId : String) : Option (String × ℕ) :=
  match executionId.toList.splitOn ':' with
  | [venue, symbol, rawTradeId] =>
    let venue := String.ofList (Text.stripChars venue)
    let symbol := (String.ofList (Text.stripChars symbol)).toUpper
    if venue = "" ∨ symbol = "" then none
    else (decimal? rawTradeId).map fun tradeId => (symbol, tradeId)
  | _ => none

/-- The cursor of a symbol; `-1` before the first REST trade. -/
def cursorOf (tradeCursors : Dict String ℤ) (symbol : String) : ℤ :=
  tradeCursors.getD symbol (-1)

/-- The identity belongs to a trade of `symbol` at or below `tradeId`. -/
def coveredBy (symbol : String) (tradeId : ℤ) (executionId : String) : Bool :=
  match canonicalExecutionTradeKey executionId with
  | none => false
  | some key => decide (key.1 = symbol ∧ (key.2 : ℤ) ≤ tradeId)

/-- `discard_cursor_covered_execution_ids`. -/
def discardCursorCovered (executionIds : Finset String) (symbol : String) (tradeId : ℤ) :
    Finset String :=
  let symbol := (Text.strip symbol).toUpper
  if symbol = "" ∨ tradeId < 0 then executionIds
  else executionIds.filter fun executionId => coveredBy symbol tradeId executionId = false

/-- The identity is not replaced by the cursor of its symbol. -/
def uncovered (tradeCursors : Dict String ℤ) (executionId : String) : Bool :=
  match canonicalExecutionTradeKey executionId with
  | none => true
  | some key => decide (cursorOf tradeCursors key.1 < key.2)

/-- `retain_cursor_uncovered_execution_ids`. -/
def retainCursorUncovered (executionIds : Finset String) (tradeCursors : Dict String ℤ) :
    Finset String :=
  executionIds.filter fun executionId => uncovered tradeCursors executionId = true

/-- `str(symbol or "").strip().upper()`. -/
def canonicalSymbol (symbol : String) : String := (Text.strip symbol).toUpper

/-- **A legible identity**: neither the venue nor the symbol contains the separator or is blank.
-/
structure Legible (venue symbol : String) : Prop where
  venue_plain : ':' ∉ venue.toList
  symbol_plain : ':' ∉ symbol.toList
  venue_named : Text.strip venue ≠ ""
  symbol_named : canonicalSymbol symbol ≠ ""

end ChronosHFT.Oms
