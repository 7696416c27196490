import ChronosHFT.Journal.Payload
import ChronosHFT.Lib.Checksums

/-!
# Segment files

The files of `oms/journal.py`, format version 3.  A segment is a magic text followed by
frames; every frame is one JSON object.  The first object is the header of the segment,
the others are records.  Every record carries its sequence number, the hash of the
record before it, and its own hash; the header of a segment names the hash before its
first record, so the chain runs through all segments.

`scanSegments` is the check a start makes, `iterRecords` the reading of all records.  Both
read the objects of a segment one after the other, so a frame that cannot be read counts
only after everything before it has been accepted.

A number field is compared with an integer of the file; Python would also take `3.0` or
`True` for `3` or `1`.  Likewise a hash field is a text.  The writer writes nothing else.
-/

namespace ChronosHFT.Journal

open Frames

/-- The functions of `hashlib` and `zlib`. -/
structure Digests where
  /-- `hashlib.sha256(..).hexdigest()`. -/
  sha256 : Bytes → String
  length_sha256 : ∀ bytes, (sha256 bytes).length = 64
  hex_sha256 : ∀ bytes, ∀ c ∈ (sha256 bytes).toList, c ∈ "0123456789abcdef".toList
  /-- `zlib.crc32`. -/
  crc32 : Bytes → UInt32

/-- The functions as they are. -/
def hashlib : Digests where
  sha256 := Sha256.hexdigest
  length_sha256 := Sha256.length_hexdigest
  hex_sha256 := Sha256.hexdigest_hex
  crc32 := Crc32.crc32

/-- A text in UTF-8. -/
def utf8 (text : String) : Bytes := text.toUTF8.data.toList

/-- The text of UTF-8 bytes. -/
def ofUtf8? (bytes : Bytes) : Option String := String.fromUTF8? ⟨bytes.toArray⟩

theorem ofUtf8?_utf8 (text : String) : ofUtf8? (utf8 text) = some text := by
  have hbytes : (⟨(utf8 text).toArray⟩ : ByteArray) = text.toUTF8 := by
    unfold utf8
    rw [Array.toArray_toList]
  have hvalid : text.toUTF8.IsValidUTF8 := text.isValidUTF8
  unfold ofUtf8? String.fromUTF8?
  rw [hbytes, dif_pos hvalid]
  rfl

/-- What a file is found to be wrong with (`JournalCorruptionError`). -/
inductive Corruption where
  /-- `Invalid OMS journal segment magic` -/
  | magic
  /-- `Torn frame length`, `Invalid frame length`, `Torn frame payload`, `frame CRC mismatch` -/
  | frame (error : FrameError)
  /-- `Invalid framed JSON` -/
  | framedJson
  /-- `Non-object frame` -/
  | nonObject
  /-- `Empty OMS journal segment` -/
  | emptySegment
  /-- `Invalid segment header field {field} in segment {index}` -/
  | headerField (field : String) (index : ℕ)
  /-- `Invalid start_seq in segment {index}` -/
  | startSeq (index : ℕ)
  /-- `Segment hash linkage mismatch at segment {index}` -/
  | linkage (index : ℕ)
  /-- `Unknown segment header fields in segment {index}` -/
  | headerFields (index : ℕ)
  /-- `Segment start sequence mismatch at segment {index}` -/
  | segmentStart (index : ℕ)
  /-- `Malformed OMS journal v3 record` -/
  | malformedRecord
  /-- `Unsupported OMS journal version` -/
  | version
  /-- `OMS journal record identity mismatch` -/
  | identity
  /-- `Unknown OMS journal record kind` -/
  | recordKind
  /-- `Unsupported OMS journal event record version` -/
  | recordVersion
  /-- `OMS journal sequence gap: expected {expected}` -/
  | sequenceGap (expected : ℕ)
  /-- `Invalid OMS journal event kind` -/
  | eventKind
  /-- `Unknown payload schema for OMS journal event {kind}` -/
  | payloadSchema (kind : String)
  /-- `Unsupported payload version for OMS journal event {kind}` -/
  | payloadVersion (kind : String)
  /-- `OMS journal payload must be an object` -/
  | payload
  /-- `Invalid OMS journal record hash` -/
  | recordHash
  /-- `OMS journal hash-chain mismatch` -/
  | hashChain
  /-- `OMS journal record hash mismatch` -/
  | hashMismatch
  /-- `OMS checkpoint references missing journal segments` -/
  | missingSegments
  /-- `OMS checkpoint segment is missing` -/
  | missingSegment
  /-- `OMS checkpoint anchor hash mismatch` -/
  | anchorHash
  /-- `OMS checkpoint anchor sequence is missing` -/
  | anchorMissing
  /-- `Invalid {label}`: a document that is not a JSON object. -/
  | document (label : String)
  /-- `Unknown OMS checkpoint pointer version` -/
  | pointerVersion
  /-- `OMS checkpoint pointer identity mismatch` -/
  | pointerIdentity
  /-- `OMS checkpoint pointer digest mismatch` -/
  | pointerDigest
  /-- `Invalid OMS checkpoint filename` -/
  | checkpointName
  /-- `Unknown OMS checkpoint version` -/
  | checkpointVersion
  /-- `OMS checkpoint identity mismatch` -/
  | checkpointIdentity
  /-- `OMS checkpoint digest mismatch` -/
  | checkpointDigest
  /-- `OMS checkpoint pointer target mismatch` -/
  | pointerTarget
  /-- `Invalid OMS checkpoint anchor` -/
  | anchor
  /-- `OMS checkpoint has no committed journal marker` -/
  | noMarker
  /-- `OMS checkpoint was not committed by the journal tail` -/
  | notCommitted
  /-- `OMS checkpoint filename collision` -/
  | collision
deriving DecidableEq, Repr

/-! ## Documents -/

/-- `FORMAT_VERSION`. -/
def formatVersion : ℤ := 3

/-- `RECORD_KIND`. -/
def recordKind : String := "oms_event"

/-- `PAYLOAD_SCHEMA_PREFIX`. -/
def payloadSchemaHead : String := "chronoshft.oms.event."

/-- `SEGMENT_MAGIC`. -/
def segmentMagic : Bytes := utf8 "CHRONOSHFT-OMS-JOURNAL-V3\n"

/-- What a segment starts with. -/
structure SegmentHeader where
  journalId : String
  segmentIndex : ℕ
  startSeq : ℕ
  previousSegmentHash : String
  createdAtUtc : String
deriving DecidableEq

/-- The header as it is written. -/
def SegmentHeader.toJson (header : SegmentHeader) : Json :=
  .obj
    [("frame_kind", .str "segment_header"),
     ("header_version", .int 1),
     ("journal_format_version", .int formatVersion),
     ("journal_id", .str header.journalId),
     ("segment_index", .int header.segmentIndex),
     ("start_seq", .int header.startSeq),
     ("previous_segment_hash", .str header.previousSegmentHash),
     ("created_at_utc", .str header.createdAtUtc)]

/-- An event before it is hashed. -/
structure Event where
  journalId : String
  seq : ℕ
  ts : String
  kind : String
  /-- The normalised payload. -/
  payload : PyValue
  prevHash : String

namespace Event

/-- `unsigned`. -/
def unsigned (event : Event) : List (PyKey × PyValue) :=
  [(.str "version", .int formatVersion),
   (.str "journal_id", .str event.journalId),
   (.str "record_kind", .str recordKind),
   (.str "record_version", .int 1),
   (.str "seq", .int event.seq),
   (.str "ts", .str event.ts),
   (.str "kind", .str event.kind),
   (.str "payload_schema", .str (payloadSchemaHead ++ event.kind)),
   (.str "payload_version", .int 1),
   (.str "payload", event.payload),
   (.str "prev_hash", .str event.prevHash)]

/-- `record`. -/
def signed (event : Event) (hash : String) : List (PyKey × PyValue) :=
  event.unsigned ++ [(.str "hash", .str hash)]

end Event

/-- `_canonical_bytes`; `none` when `json.dumps` raises. -/
def canonicalBytes (doc : PyValue) : Option Bytes :=
  doc.encode.map fun j => utf8 (String.ofList j.print)

/-- `_calculate_hash`. -/
def calculateHash (H : Digests) (doc : PyValue) : Option String :=
  (canonicalBytes doc).map H.sha256

/-- `_calculate_hash` of what was read. -/
def hashOf (H : Digests) (doc : Json) : String := H.sha256 (utf8 doc.dumps)

/-! ## Frames -/

/-- The object of a frame. -/
def decodeFrame (payload : Bytes) : Except Corruption Json :=
  match (ofUtf8? payload).bind Json.loads with
  | none => .error .framedJson
  | some (.obj entries) => .ok (.obj entries)
  | some _ => .error .nonObject

/-- The objects of frames, and what ended the reading early. -/
def decodeFrames (failure : Option Corruption) : List Bytes → List Json × Option Corruption
  | [] => ([], failure)
  | payload :: rest =>
    match decodeFrame payload with
    | .error err => ([], some err)
    | .ok doc =>
      let more := decodeFrames failure rest
      (doc :: more.1, more.2)

/-- `_iter_frames`: the objects of a segment, and what ended the reading early. -/
def iterFrames (H : Digests) (maxFrameBytes : ℕ) (file : Bytes) :
    List Json × Option Corruption :=
  if file.take segmentMagic.length ≠ segmentMagic then ([], some .magic)
  else
    let frames := readFrames H.crc32 maxFrameBytes (file.drop segmentMagic.length)
    decodeFrames (frames.2.map .frame) frames.1

/-! ## Validation -/

/-- The fields of a header. -/
def headerFields : List String :=
  ["frame_kind", "header_version", "journal_format_version", "journal_id", "segment_index",
    "start_seq", "previous_segment_hash", "created_at_utc"]

/-- `set(doc) == set(fields)`. -/
def hasFields (doc : Json) (fields : List String) : Bool :=
  doc.keys.all (fun key => key ∈ fields) && fields.all (fun key => key ∈ doc.keys)

/-- `_validate_segment_header`: the start sequence and the previous hash. -/
def validateSegmentHeader (journalId : String) (doc : Json) (segmentIndex : ℕ)
    (previousSegmentHash : Option String) : Except Corruption (ℕ × String) :=
  if doc.get? "frame_kind" ≠ some (.str "segment_header") then
    .error (.headerField "frame_kind" segmentIndex)
  else if doc.get? "header_version" ≠ some (.int 1) then
    .error (.headerField "header_version" segmentIndex)
  else if doc.get? "journal_format_version" ≠ some (.int formatVersion) then
    .error (.headerField "journal_format_version" segmentIndex)
  else if doc.get? "journal_id" ≠ some (.str journalId) then
    .error (.headerField "journal_id" segmentIndex)
  else if doc.get? "segment_index" ≠ some (.int segmentIndex) then
    .error (.headerField "segment_index" segmentIndex)
  else
    match doc.get? "start_seq" with
    | some (.int startSeq) =>
      if startSeq ≤ 0 then .error (.startSeq segmentIndex)
      else
        let previous :=
          match doc.get? "previous_segment_hash" with
          | some (.str previous) => previous
          | _ => ""
        if previousSegmentHash.any (fun expected => previous ≠ expected) then
          .error (.linkage segmentIndex)
        else if hasFields doc headerFields then .ok (startSeq.toNat, previous)
        else .error (.headerFields segmentIndex)
    | _ => .error (.startSeq segmentIndex)

/-- The fields of a record. -/
def recordFields : List String :=
  ["version", "journal_id", "record_kind", "record_version", "seq", "ts", "kind",
    "payload_schema", "payload_version", "payload", "prev_hash", "hash"]

/-- The event kind of a record. -/
def eventKind? (doc : Json) : Option String :=
  match doc.get? "kind" with
  | some (.str kind) => if kind ≠ "" ∧ kind.length ≤ 128 then some kind else none
  | _ => none

/-- The checks of `_validate_record` on the event itself. -/
def validateEvent (doc : Json) : Except Corruption Unit :=
  match eventKind? doc with
  | none => .error .eventKind
  | some kind =>
    if doc.get? "payload_schema" ≠ some (.str (payloadSchemaHead ++ kind)) then
      .error (.payloadSchema kind)
    else if doc.get? "payload_version" ≠ some (.int 1) then .error (.payloadVersion kind)
    else
      match doc.get? "payload" with
      | some (.obj _) => .ok ()
      | _ => .error .payload

/-- `_validate_record`: the sequence number is the expected one; the answer is the
hash. -/
def validateRecord (H : Digests) (journalId : String) (doc : Json) (expectedSeq : ℕ)
    (previousHash : String) : Except Corruption String :=
  if hasFields doc recordFields = false then .error .malformedRecord
  else if doc.get? "version" ≠ some (.int formatVersion) then .error .version
  else if doc.get? "journal_id" ≠ some (.str journalId) then .error .identity
  else if doc.get? "record_kind" ≠ some (.str recordKind) then .error .recordKind
  else if doc.get? "record_version" ≠ some (.int 1) then .error .recordVersion
  else if doc.get? "seq" ≠ some (.int expectedSeq) then .error (.sequenceGap expectedSeq)
  else
    match validateEvent doc with
    | .error err => .error err
    | .ok () =>
      match doc.get? "hash" with
      | some (.str hash) =>
        if hash.length ≠ 64 then .error .recordHash
        else if doc.get? "prev_hash" ≠ some (.str previousHash) then .error .hashChain
        else if hashOf H (doc.without "hash") ≠ hash then .error .hashMismatch
        else .ok hash
      | _ => .error .recordHash

/-! ## Reading segments -/

/-- Where a reader stands: the next sequence number and the hash before it. -/
structure Position where
  expectedSeq : ℕ
  previousHash : String
deriving DecidableEq, Repr

/-- The records of a segment, one after the other; `check` looks at each accepted one. -/
def readRecords (H : Digests) (journalId : String)
    (check : ℕ → String → Except Corruption Unit) :
    Position → List Json → Except Corruption Position
  | position, [] => .ok position
  | position, doc :: rest =>
    match validateRecord H journalId doc position.expectedSeq position.previousHash with
    | .error err => .error err
    | .ok hash =>
      match check position.expectedSeq hash with
      | .error err => .error err
      | .ok () => readRecords H journalId check ⟨position.expectedSeq + 1, hash⟩ rest

/-- What `_scan_segments` is asked to trust. -/
structure Anchor where
  segmentIndex : ℕ := 1
  seq : ℕ := 0
  hash : String := ""
deriving DecidableEq, Repr

/-- The anchor has to be met with its hash. -/
def Anchor.check (anchor : Anchor) (seq : ℕ) (hash : String) : Except Corruption Unit :=
  if seq = anchor.seq ∧ hash ≠ anchor.hash then .error .anchorHash else .ok ()

/-- An entry of `segment_metadata`. -/
structure SegmentInfo where
  index : ℕ
  startSeq : ℕ
  recordCount : ℕ
  size : ℕ
  lastHash : String
deriving DecidableEq, Repr

/-- The state of the loop of `_scan_segments`. -/
structure Scan where
  position : Position := ⟨1, ""⟩
  /-- `previous_segment_hash`; unknown before the first segment that is read. -/
  linkage : Option String := some ""
  anchorSeen : Bool
  collected : List Json := []
  segments : List SegmentInfo := []

/-- One segment of `_scan_segments`. -/
def scanSegment (H : Digests) (maxFrameBytes : ℕ) (journalId : String) (anchor : Anchor)
    (scan : Scan) (index : ℕ) (file : Bytes) : Except Corruption Scan :=
  match iterFrames H maxFrameBytes file with
  | ([], failure) => .error (failure.getD .emptySegment)
  | (header :: records, failure) =>
    match validateSegmentHeader journalId header index
      (if anchor.segmentIndex ≤ index then scan.linkage else none) with
    | .error err => .error err
    | .ok (startSeq, previous) =>
      if index < anchor.segmentIndex then .ok { scan with linkage := none }
      else
        let trusted := decide (index = anchor.segmentIndex ∧ anchor.seq ≠ 0)
        if trusted = false ∧ startSeq ≠ scan.position.expectedSeq then
          .error (.segmentStart index)
        else
          let start := if trusted then ⟨startSeq, previous⟩ else scan.position
          match readRecords H journalId anchor.check start records with
          | .error err => .error err
          | .ok position =>
            match failure with
            | some err => .error err
            | none =>
              .ok
                { position := position
                  linkage := some position.previousHash
                  anchorSeen := scan.anchorSeen ||
                    decide (start.expectedSeq ≤ anchor.seq ∧
                      anchor.seq < position.expectedSeq)
                  collected := scan.collected ++
                    records.drop (anchor.seq + 1 - start.expectedSeq)
                  segments := scan.segments ++
                    [{ index := index, startSeq := startSeq
                       recordCount := records.length, size := file.length
                       lastHash := position.previousHash }] }

/-- The segments of `_scan_segments`, in their order. -/
def scanLoop (H : Digests) (maxFrameBytes : ℕ) (journalId : String) (anchor : Anchor) :
    Scan → ℕ → List Bytes → Except Corruption Scan
  | scan, _, [] => .ok scan
  | scan, index, file :: rest =>
    match scanSegment H maxFrameBytes journalId anchor scan index file with
    | .error err => .error err
    | .ok next => scanLoop H maxFrameBytes journalId anchor next (index + 1) rest

/-- `_scan_segments`: the last sequence number, the last hash, the segments that were
read and the records after the anchor. -/
def scanSegments (H : Digests) (maxFrameBytes : ℕ) (journalId : String) (files : List Bytes)
    (anchor : Anchor) : Except Corruption Scan :=
  if files = [] then
    if anchor.seq ≠ 0 then .error .missingSegments
    else .ok { anchorSeen := true }
  else if anchor.segmentIndex < 1 ∨ files.length < anchor.segmentIndex
    then .error .missingSegment
  else
    match scanLoop H maxFrameBytes journalId anchor { anchorSeen := decide (anchor.seq = 0) } 1
      files with
    | .error err => .error err
    | .ok scan => if scan.anchorSeen then .ok scan else .error .anchorMissing

/-- One segment of `iter_records`: its records and where the reader stands then. -/
def iterSegment (H : Digests) (maxFrameBytes : ℕ) (journalId : String) (position : Position)
    (index : ℕ) (file : Bytes) : Except Corruption (List Json × Position) :=
  match iterFrames H maxFrameBytes file with
  | ([], failure) => .error (failure.getD .emptySegment)
  | (header :: records, failure) =>
    match validateSegmentHeader journalId header index (some position.previousHash) with
    | .error err => .error err
    | .ok (startSeq, _) =>
      if startSeq ≠ position.expectedSeq then .error (.segmentStart index)
      else
        match readRecords H journalId (fun _ _ => .ok ()) position records with
        | .error err => .error err
        | .ok next =>
          match failure with
          | some err => .error err
          | none => .ok (records, next)

/-- The segments of `iter_records`. -/
def iterLoop (H : Digests) (maxFrameBytes : ℕ) (journalId : String) :
    Position → ℕ → List Bytes → Except Corruption (List Json)
  | _, _, [] => .ok []
  | position, index, file :: rest =>
    match iterSegment H maxFrameBytes journalId position index file with
    | .error err => .error err
    | .ok (records, next) =>
      (iterLoop H maxFrameBytes journalId next (index + 1) rest).map (records ++ ·)

/-- `iter_records` from the first record, read to the end. -/
def iterRecords (H : Digests) (maxFrameBytes : ℕ) (journalId : String) (files : List Bytes) :
    Except Corruption (List Json) :=
  iterLoop H maxFrameBytes journalId ⟨1, ""⟩ 1 files

end ChronosHFT.Journal
