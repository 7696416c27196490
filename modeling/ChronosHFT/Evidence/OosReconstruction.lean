import ChronosHFT.Lib.Text
import ChronosHFT.Journal.File
import ChronosHFT.Oms.Order

/-!
# Reading the OMS journal for out-of-sample evidence

`_read_oms_journal` and `_extract_oms_evidence` of `data/oos_reconstruction.py`.  The journal is
read as a text of lines, each of which is a record of version 2: seven fields, a sequence number
that counts the lines, the hash of the record before it and its own hash over the canonical text
of the others.  Executions and the times of external cash flows are then taken from the payloads.

Every refusal is an `OOSReconstructionError` with its text; the text of the exception it was
raised from is left out.  Floats are the numbers they spell.
-/

namespace ChronosHFT.Evidence

open Journal (Digests hashOf ofUtf8?)
open Oms (Side)

/-- The conversions of the language that a record goes through. -/
structure Conversions where
  /-- `str(value)`, for a value that is not a text. -/
  str : Json → String
  /-- `repr(value)`; a text is quoted. -/
  repr : Json → String := str
  /-- `Decimal(text)`, where it is a finite number. -/
  decimal : String → Option ℚ
  /-- `float(text)`, where it is finite. -/
  float : String → Option ℚ
  /-- `datetime.fromisoformat(text)`, where it has an offset: the instant. -/
  fromIsoformat : String → Option ℚ

namespace Conversions

variable (C : Conversions)

/-- `str(value or "")` of a field. -/
def textOr : Option Json → String
  | some (.str text) => text
  | some value => if value.truthy then C.str value else ""
  | none => ""

/-- `str(value)` of a field. -/
def text : Option Json → String
  | some (.str text) => text
  | some value => C.str value
  | none => C.str .null

/-- `float(value)` of a field, where it is finite; a truth value is refused. -/
def finite : Option Json → Option ℚ
  | some (.str text) => C.float text
  | some (.int n) => if |(n : ℚ)| < 2 ^ 1024 - 2 ^ 970 then some n else none
  | some (.float x) =>
    if |Json.floatValue x| < 2 ^ 1024 - 2 ^ 970 then some (Json.floatValue x) else none
  | _ => none

/-- `_parse_utc`. -/
def parseUtc (value : Option Json) (field : String) : Except String ℚ :=
  let text := Text.strip (C.textOr value)
  if text = "" then .error s!"{field} is required"
  else
    let normalized :=
      if text.toList.getLast? = some 'Z' then String.ofList text.toList.dropLast ++ "+00:00"
      else text
    match C.fromIsoformat normalized with
    | none => .error s!"{field} must be ISO-8601"
    | some instant => .ok instant

/-- `_decimal`. -/
def decimalField (value : Option Json) (field : String) (positive nonnegative : Bool) :
    Except String ℚ :=
  match value with
  | some (.bool _) => .error s!"{field} must be a finite decimal"
  | value =>
    match C.decimal (C.text value) with
    | none => .error s!"{field} must be a finite decimal"
    | some parsed =>
      if positive ∧ parsed ≤ 0 then .error s!"{field} must be positive"
      else if nonnegative ∧ parsed < 0 then .error s!"{field} must be nonnegative"
      else .ok parsed

/-- `_finite_float` with `positive`. -/
def positiveFloat (value : Option Json) (field : String) : Except String ℚ :=
  match C.finite value with
  | none => .error s!"{field} must be numeric"
  | some parsed => if parsed ≤ 0 then .error s!"{field} must be positive" else .ok parsed

end Conversions

/-! ## Lines -/

/-- The lines of a file, each with its end. -/
def fileLines : Bytes → List Bytes
  | [] => []
  | byte :: rest =>
    if byte = 10 then [byte] :: fileLines rest
    else
      match fileLines rest with
      | [] => [[byte]]
      | line :: more => (byte :: line) :: more

/-- The mark some editors put before a text. -/
def byteOrderMark : Bytes := [0xEF, 0xBB, 0xBF]

/-- The text of a line; the first one may start with a mark. -/
def decodeLine (lineNumber : ℕ) (raw : Bytes) : Option String :=
  if lineNumber = 1 ∧ raw.take 3 = byteOrderMark then ofUtf8? (raw.drop 3) else ofUtf8? raw

/-- `_parse_json_line`. -/
def parseJsonLine (raw source : String) (lineNumber : ℕ) : Except String Json :=
  match Json.loadsUnique raw with
  | none => .error s!"invalid {source} JSON at line {lineNumber}"
  | some (.obj entries) => .ok (.obj entries)
  | some _ => .error s!"{source} line {lineNumber} must be a JSON object"

/-! ## The journal -/

/-- `OMS_JOURNAL_RECORD_VERSION`. -/
def recordVersion : ℚ := 2

/-- `expected_keys`. -/
def expectedKeys : List String :=
  ["version", "seq", "ts", "kind", "payload", "prev_hash", "hash"]

/-- Is it an object? -/
def isObject : Option Json → Bool
  | some (.obj _) => true
  | _ => false

/-- A text of 64 hexadecimal digits. -/
def isSha256 (text : String) : Bool :=
  text.length = 64 ∧ text.toList.all fun c => decide (c ∈ "0123456789abcdef".toList)

/-- `OMSJournalIdentity`. -/
structure OmsJournalIdentity where
  path : String
  sha256 : String
  recordCount : ℕ
  firstSeq : ℕ
  lastSeq : ℕ
  finalHash : String
  lastKind : String
deriving DecidableEq

section Reader

variable (H : Digests) (C : Conversions)

/-- The checks of one record of `_read_oms_journal`, with its kind and its hash.  The sequence
number that is expected is the number of the line. -/
def checkRecord (lineNumber : ℕ) (previousHash : String) (record : Json) :
    Except String (String × String) :=
  if ¬(record.keys ⊆ expectedKeys ∧ expectedKeys ⊆ record.keys) then
    .error s!"OMS journal record keys are invalid at line {lineNumber}"
  else if (record.get? "version").bind Json.number? ≠ some recordVersion then
    .error "OOS reconstruction accepts only a fresh v2 OMS journal"
  else if record.get? "seq" ≠ some (.int lineNumber) then
    .error (s!"OMS journal sequence gap at line {lineNumber}: expected {lineNumber}, got " ++
      C.repr ((record.get? "seq").getD .null))
  else
    match C.parseUtc (record.get? "ts") s!"OMS line {lineNumber} ts" with
    | .error err => .error err
    | .ok _ =>
      let kind := C.textOr (record.get? "kind")
      let storedHash := (C.textOr (record.get? "hash")).toLower
      if kind = "" ∨ isObject (record.get? "payload") = false then
        .error s!"OMS journal kind/payload is invalid at line {lineNumber}"
      else if C.textOr (record.get? "prev_hash") ≠ previousHash then
        .error s!"OMS journal previous-hash mismatch at line {lineNumber}"
      else if isSha256 storedHash = false then
        .error s!"OMS journal hash is invalid at line {lineNumber}"
      else if hashOf H (record.without "hash") ≠ storedHash then
        .error s!"OMS journal hash mismatch at line {lineNumber}"
      else .ok (kind, storedHash)

/-- One line of `_read_oms_journal`: its record, its kind and its hash. -/
def readLine (lineNumber : ℕ) (previousHash : String) (raw : Bytes) :
    Except String (Json × String × String) :=
  match decodeLine lineNumber raw with
  | none => .error s!"OMS journal is not UTF-8 at line {lineNumber}"
  | some text =>
    if Text.strip text = "" then .error s!"blank OMS journal record at line {lineNumber}"
    else
      match parseJsonLine text "OMS journal" lineNumber with
      | .error err => .error err
      | .ok record =>
        (checkRecord H C lineNumber previousHash record).map fun checked => (record, checked)

/-- The loop of `_read_oms_journal` over the lines from a line on. -/
def readLines : ℕ → String → List Bytes → Except String (List (Json × String × String))
  | _, _, [] => .ok []
  | lineNumber, previousHash, raw :: rest =>
    match readLine H C lineNumber previousHash raw with
    | .error err => .error err
    | .ok checked =>
      (readLines (lineNumber + 1) checked.2.2 rest).map fun more => checked :: more

/-- `_read_oms_journal`; `none` is a file that is not there. -/
def readOmsJournal (path : String) (file : Option Bytes) :
    Except String (OmsJournalIdentity × List Json) :=
  match file with
  | none => .error s!"cannot read OMS journal {path}"
  | some bytes =>
    match readLines H C 1 "" (fileLines bytes) with
    | .error err => .error err
    | .ok checked =>
      match checked.getLast? with
      | none => .error "OMS journal is empty"
      | some (_, lastKind, finalHash) =>
        if lastKind ≠ "oms_stopped" then
          .error "OMS journal is not cleanly stopped; raw OOS evidence is censored"
        else
          .ok ({
            path := path
            sha256 := H.sha256 bytes
            recordCount := checked.length
            firstSeq := 1
            lastSeq := checked.length
            finalHash := finalHash
            lastKind := lastKind }, checked.map Prod.fst)

end Reader

/-! ## Executions and cash flows -/

/-- `Execution`. -/
structure Execution where
  executionId : String
  symbol : String
  side : Side
  quantity : ℚ
  price : ℚ
  exchangeTime : ℚ
  commission : ℚ
  bookedFee : ℚ
  commissionAsset : String
  realizedPnl : ℚ
  isMaker : Bool
  orderType : String
  timeInForce : String
  isRpi : Bool
  reduceOnly : Bool
deriving DecidableEq

/-- `required`, in the order of the texts. -/
def requiredFields : List String :=
  ["booked_fee", "commission", "commission_asset", "exchange_time", "execution_id", "fill_price",
   "fill_qty", "is_maker", "is_rpi", "order_type", "realized_pnl", "reduce_only", "side",
   "symbol",
   "time_in_force"]

/-- The side a text names. -/
def sideOf? (text : String) : Option Side :=
  if text = "BUY" then some .buy else if text = "SELL" then some .sell else none

section Extraction

variable (C : Conversions)

/-- A text of a payload, trimmed and in capitals. -/
def upperField (payload : Json) (field : String) : String :=
  (Text.strip (C.textOr (payload.get? field))).toUpper

/-- `_execution_from_payload`. -/
def executionFromPayload (payload : Json) : Except String Execution :=
  let missing := requiredFields.filter fun field => (payload.get? field).isNone
  if missing ≠ [] then
    .error ("execution_record lacks raw OOS fields: " ++ ",".intercalate missing)
  else
    let id := Text.strip (C.textOr (payload.get? "execution_id"))
    let symbol := upperField C payload "symbol"
    match sideOf? (upperField C payload "side"), payload.get? "is_maker", payload.get? "is_rpi",
        payload.get? "reduce_only" with
    | none, _, _, _ => .error "execution identity/side is invalid"
    | some side, some (.bool isMaker), some (.bool isRpi), some (.bool reduceOnly) =>
      if id = "" ∨ symbol = "" then .error "execution identity/side is invalid"
      else if payload.get? "commission" = some .null ∨
          payload.get? "realized_pnl" = some .null then
        .error s!"execution {id} lacks exchange commission/PnL truth"
      else do
        let quantity ← C.decimalField (payload.get? "fill_qty") s!"{id}.fill_qty" true false
        let price ← C.decimalField (payload.get? "fill_price") s!"{id}.fill_price" true false
        let exchangeTime ← C.positiveFloat (payload.get? "exchange_time") s!"{id}.exchange_time"
        let commission ←
          C.decimalField (payload.get? "commission") s!"{id}.commission" false true
        let bookedFee ← C.decimalField (payload.get? "booked_fee") s!"{id}.booked_fee" false true
        let realizedPnl ←
          C.decimalField (payload.get? "realized_pnl") s!"{id}.realized_pnl" false false
        return {
          executionId := id
          symbol := symbol
          side := side
          quantity := quantity
          price := price
          exchangeTime := exchangeTime
          commission := commission
          bookedFee := bookedFee
          commissionAsset := upperField C payload "commission_asset"
          realizedPnl := realizedPnl
          isMaker := isMaker
          orderType := upperField C payload "order_type"
          timeInForce := upperField C payload "time_in_force"
          isRpi := isRpi
          reduceOnly := reduceOnly }
    | some _, some (.bool _), _, _ =>
      .error (if id = "" ∨ symbol = "" then "execution identity/side is invalid"
        else s!"execution {id} lacks RPI/reduce-only truth")
    | some _, _, _, _ =>
      .error (if id = "" ∨ symbol = "" then "execution identity/side is invalid"
        else s!"execution {id} lacks maker truth")

/-- The loop of `_extract_oms_evidence`: what was taken so far, oldest first. -/
def extractLoop : List Execution × List ℚ → List Json → Except String (List Execution × List ℚ)
  | found, [] => .ok found
  | (executions, times), record :: rest =>
    let payload := (record.get? "payload").getD (.obj [])
    if record.get? "kind" = some (.str "execution_record") then
      match executionFromPayload C payload with
      | .error err => .error err
      | .ok execution =>
        if execution.executionId ∈ executions.map Execution.executionId then
          .error s!"duplicate execution_id: {execution.executionId}"
        else extractLoop (executions ++ [execution], times) rest
    else if record.get? "kind" = some (.str "external_cash_flow_record") then
      match C.positiveFloat (payload.get? "income_time_ms")
        "external cash-flow income_time_ms" with
      | .error err => .error err
      | .ok eventMs => extractLoop (executions, times ++ [eventMs / 1000]) rest
    else extractLoop (executions, times) rest

/-- `_extract_oms_evidence`. -/
def extractOmsEvidence (records : List Json) : Except String (List Execution × List ℚ) :=
  (extractLoop C ([], []) records).map fun found =>
    (found.1.mergeSort fun a b => decide (a.exchangeTime < b.exchangeTime ∨
        (a.exchangeTime = b.exchangeTime ∧ a.executionId ≤ b.executionId)),
      found.2.mergeSort fun a b => decide (a ≤ b))

end Extraction

end ChronosHFT.Evidence
