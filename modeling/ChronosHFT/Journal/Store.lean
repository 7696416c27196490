import ChronosHFT.Journal.File

/-!
# The journal

The state of `OMSJournal` and the files it writes, with its operations.

Whatever may go wrong outside the journal is an argument of the operation: the answer of
the disk space check, and how a write ends.  A write that fails may have left any part of
its bytes in the file, the whole of them included (an `fsync` that fails); a segment that
cannot be created may have left a file.  Nothing is rolled back, and the counters advance
only after a write that succeeded.

The segment files are numbered from one and none is ever removed, so the list of their contents
stands for the directory.  Their names have twenty digits; no file system holds as many files as
would need more (`directoryLimit`).  A journal that is switched off writes nothing and answers
`0` for every event. -/

namespace ChronosHFT.Journal

open Frames

/-- The `oms` section of the configuration, as far as the journal reads it. -/
structure Config where
  enabled : Bool := true
  segmentMaxRecords : ℕ+ := 100000
  segmentMaxBytes : ℕ+ := 268435456
  maxFrameBytes : ℕ+ := 67108864

/-- How the creation of a file ends. -/
inductive Creation where
  | done
  /-- The file could not be opened. -/
  | notCreated
  /-- An `OSError` of `write` after this many bytes. -/
  | failed (written : ℕ)
  /-- An `OSError` of `fsync`: all bytes are in the file. -/
  | notSynced
deriving DecidableEq, Repr

/-- How an append to a file ends. -/
inductive Writing where
  | done
  /-- An `OSError` of `write` after this many bytes. -/
  | failed (written : ℕ)
  /-- An `OSError` of `fsync`: all bytes are in the file. -/
  | notSynced
deriving DecidableEq, Repr

/-- What `_utc_now()` returns: `YYYY-MM-DDTHH:MM:SS.mmmZ`. -/
structure Timestamp where
  text : String
  length_text : text.length = 24
  /-- No character needs an escape. -/
  plain : text.toList.all (fun c => c.isAlphanum || c ∈ ['-', ':', '.']) = true

/-- What an append meets outside the journal. -/
structure AppendEnv where
  /-- `_utc_now()` for the events of the batch. -/
  ts : ℕ → Timestamp
  /-- `_utc_now()` for a segment header. -/
  createdAtUtc : Timestamp
  /-- `_ensure_disk_space` before a new segment. -/
  createReserve : Bool := true
  create : Creation := .done
  /-- `_ensure_disk_space` before the batch. -/
  reserve : Bool := true
  write : Writing := .done

/-- The messages of `JournalWriteError`, and what else an append may raise. -/
inductive WriteError where
  /-- `event kind must be 1..128 characters` -/
  | eventKind
  /-- `event payload must be an object` -/
  | payload
  /-- A `TypeError` or `ValueError` of `json.dumps`. -/
  | notSerializable
  /-- `event frame exceeds configured maximum` -/
  | frameTooLarge
  /-- The `struct.error` of a length that has no four bytes. -/
  | lengthField
  /-- `disk free space would fall below the reserve` -/
  | reserve
  /-- `Failed to create OMS journal segment` -/
  | createFailed
  /-- `Failed to persist OMS journal batch` -/
  | writeFailed
  /-- `Cannot checkpoint a disabled OMS journal` -/
  | checkpointDisabled
  /-- `Cannot checkpoint an OMS journal without durable records` -/
  | nothingDurable
  /-- The `OSError` of `_atomic_write`. -/
  | documentWrite
  /-- `OMS checkpoint filename collision`, or a file that cannot be read. -/
  | corruption (error : Corruption)
deriving DecidableEq, Repr

/-- The files. -/
structure Disk where
  segments : List Bytes := []
  /-- The checkpoint directory: name and text. -/
  checkpoints : Dict String String := ∅
  /-- `checkpoint-head.json`. -/
  head : Option String := none

/-- More files than a directory can hold: `open` fails. -/
def directoryLimit : ℕ := 10 ^ 20

/-- `OMSJournal` and its files. -/
structure Store where
  journalId : String
  nextSeq : ℕ := 1
  lastHash : String := ""
  activeSegmentIndex : ℕ := 0
  activeSegmentRecordCount : ℕ := 0
  activeSegmentSize : ℕ := 0
  disk : Disk := {}

/-- One event of a batch: its kind and its payload. -/
abbrev Entry := String × PyValue

/-! ## Encoding a batch -/

/-- What `append_batch` keeps of an encoded event. -/
structure EncodedEvent where
  event : Event
  hash : String
  frame : Bytes

/-- The bytes of `_encode_frame`. -/
def frameOf (H : Digests) (payload : Bytes) : Except WriteError Bytes :=
  if 4294967296 ≤ payload.length then .error .lengthField else .ok (frame H.crc32 payload)

/-- One event of `append_batch`. -/
def encodeEvent (H : Digests) (cfg : Config) (event : Event) : Except WriteError EncodedEvent :=
  if event.kind = "" ∨ 128 < event.kind.length then .error .eventKind
  else
    match event.payload with
    | .dict _ =>
      match calculateHash H (.dict event.unsigned) with
      | none => .error .notSerializable
      | some hash =>
        match canonicalBytes (.dict (event.signed hash)) with
        | none => .error .notSerializable
        | some bytes =>
          match frameOf H bytes with
          | .error err => .error err
          | .ok frame =>
            if cfg.maxFrameBytes + 8 < frame.length then .error .frameTooLarge
            else .ok { event := event, hash := hash, frame := frame }
    | _ => .error .payload

/-- The events of a batch, numbered and chained from where the journal stands. -/
def encodeBatch (H : Digests) (cfg : Config) (journalId : String) (ts : ℕ → Timestamp) :
    Position → ℕ → List Entry → Except WriteError (List EncodedEvent)
  | _, _, [] => .ok []
  | position, i, (kind, payload) :: rest =>
    match encodeEvent H cfg
        { journalId := journalId, seq := position.expectedSeq, ts := (ts i).text, kind := kind
          payload := payload.normalize, prevHash := position.previousHash } with
    | .error err => .error err
    | .ok encoded =>
      (encodeBatch H cfg journalId ts ⟨position.expectedSeq + 1, encoded.hash⟩ (i + 1) rest).map
        (encoded :: ·)

namespace Store

/-- Where the next record goes. -/
def position (s : Store) : Position := ⟨s.nextSeq, s.lastHash⟩

/-! ## Segments -/

/-- The content of a new segment. -/
def segmentStart (H : Digests) (header : SegmentHeader) : Bytes :=
  segmentMagic ++ frame H.crc32 (utf8 header.toJson.dumps)

/-- The header the next segment would get. -/
def nextHeader (s : Store) (createdAtUtc : String) : SegmentHeader where
  journalId := s.journalId
  segmentIndex := s.activeSegmentIndex + 1
  startSeq := s.nextSeq
  previousSegmentHash := s.lastHash
  createdAtUtc := createdAtUtc

/-- `_create_segment`.  The file is opened with `"xb"`, which refuses a file that is
there. -/
def createSegment (H : Digests) (s : Store) (env : AppendEnv) : Store × Except WriteError Unit :=
  let content := segmentStart H (s.nextHeader env.createdAtUtc.text)
  if env.createReserve = false then (s, .error .reserve)
  else if s.activeSegmentIndex < s.disk.segments.length then (s, .error .createFailed)
  else if directoryLimit ≤ s.activeSegmentIndex + 1 then (s, .error .createFailed)
  else
    match env.create with
    | .notCreated => (s, .error .createFailed)
    | .failed written =>
      ({ s with disk :=
          { s.disk with segments := s.disk.segments ++ [content.take written] } },
        .error .createFailed)
    | .notSynced =>
      ({ s with disk := { s.disk with segments := s.disk.segments ++ [content] } },
        .error .createFailed)
    | .done =>
      ({ s with
          activeSegmentIndex := s.activeSegmentIndex + 1
          activeSegmentRecordCount := 0
          activeSegmentSize := content.length
          disk := { s.disk with segments := s.disk.segments ++ [content] } }, .ok ())

/-- `rotate`. -/
def rotates (cfg : Config) (s : Store) (estimatedBytes records : ℕ) : Bool :=
  s.activeSegmentIndex = 0 ∨
    (0 < s.activeSegmentRecordCount ∧
      ((cfg.segmentMaxRecords : ℕ) < s.activeSegmentRecordCount + records ∨
        (cfg.segmentMaxBytes : ℕ) < s.activeSegmentSize + estimatedBytes))

/-- `_ensure_append_segment`. -/
def ensureAppendSegment (H : Digests) (cfg : Config) (s : Store) (env : AppendEnv)
    (estimatedBytes records : ℕ) : Store × Except WriteError Unit :=
  if s.rotates cfg estimatedBytes records then s.createSegment H env else (s, .ok ())

/-- Bytes at the end of the active segment. -/
def appendBytes (s : Store) (bytes : Bytes) : Store :=
  { s with disk :=
      { s.disk with
        segments := s.disk.segments.modify (s.activeSegmentIndex - 1) (· ++ bytes) } }

/-- The counters after a batch that is durable. -/
def advance (s : Store) (batch : List EncodedEvent) : Store :=
  { s with
    nextSeq := s.nextSeq + batch.length
    lastHash := (batch.getLast?.map EncodedEvent.hash).getD s.lastHash
    activeSegmentRecordCount := s.activeSegmentRecordCount + batch.length
    activeSegmentSize := s.activeSegmentSize + (batch.flatMap EncodedEvent.frame).length }

/-- The batch is written; nothing takes back what a failed write has left. -/
def writeBatch (s : Store) (env : AppendEnv) (batch : List EncodedEvent) :
    Store × Except WriteError (List ℕ) :=
  let bytes := batch.flatMap EncodedEvent.frame
  if env.reserve = false then (s, .error .reserve)
  else
    match env.write with
    | .failed written => (s.appendBytes (bytes.take written), .error .writeFailed)
    | .notSynced => (s.appendBytes bytes, .error .writeFailed)
    | .done =>
      ((s.appendBytes bytes).advance batch, .ok (batch.map fun encoded => encoded.event.seq))

/-- `append_batch`. -/
def appendBatch (H : Digests) (cfg : Config) (s : Store) (env : AppendEnv)
    (entries : List Entry) : Store × Except WriteError (List ℕ) :=
  if cfg.enabled = false then (s, .ok (entries.map fun _ => 0))
  else if entries = [] then (s, .ok [])
  else
    match encodeBatch H cfg s.journalId env.ts s.position 0 entries with
    | .error err => (s, .error err)
    | .ok batch =>
      match s.ensureAppendSegment H cfg env (batch.flatMap EncodedEvent.frame).length
          batch.length with
      | (next, .error err) => (next, .error err)
      | (next, .ok ()) => next.writeBatch env batch

/-! ## Reading -/

/-- `iter_records`, from the first record to the end. -/
def iterRecords (H : Digests) (cfg : Config) (s : Store) : Except Corruption (List Json) :=
  if cfg.enabled = false then .ok []
  else Journal.iterRecords H cfg.maxFrameBytes s.journalId s.disk.segments

end Store

/-! ## Checkpoints -/

/-- A document with its digest in the named field, as it is written. -/
def sealDocument (H : Digests) (field : String) (entries : List (PyKey × PyValue)) :
    Option (List (PyKey × PyValue) × String) :=
  (calculateHash H (.dict entries)).map fun digest =>
    (entries ++ [(.str field, .str digest)], digest)

/-- `_document_digest` of what was read. -/
def documentDigest (H : Digests) (doc : Json) (field : String) : String :=
  hashOf H (doc.without field)

/-- `_load_json_document`. -/
def loadDocument (label text : String) : Except Corruption Json :=
  match Json.loads text with
  | some (.obj entries) => .ok (.obj entries)
  | _ => .error (.document label)

/-- The number of a field, when it is an integer. -/
def natField? (doc : Json) (field : String) : Option ℕ :=
  match doc.get? field with
  | some (.int n) => if 0 ≤ n then some n.toNat else none
  | _ => none

/-- `str(doc.get(field, "") or "")` of a text field. -/
def textField (doc : Json) (field : String) : String :=
  match doc.get? field with
  | some (.str text) => text
  | _ => ""

/-- `n` in at least twenty digits. -/
def twentyDigits (n : ℕ) : String :=
  let digits := Nat.toDigits 10 n
  String.ofList (List.replicate (20 - digits.length) '0' ++ digits)

/-- `checkpoint_name`. -/
def checkpointName (anchorSeq : ℕ) (digest : String) : String :=
  "checkpoint-" ++ twentyDigits anchorSeq ++ "-" ++ digest ++ ".json"

/-- How `_atomic_write` ends: the file is replaced or left alone, and either may come with
an error. -/
inductive Replacing where
  | done
  /-- An `OSError`; the flag says whether the file had been replaced by then. -/
  | failed (replaced : Bool)
deriving DecidableEq, Repr

/-- What `commit_checkpoint` meets outside the journal. -/
structure CommitEnv where
  createdAtUtc : Timestamp
  document : Replacing := .done
  marker : AppendEnv
  pointer : Replacing := .done

namespace Store

/-- The checkpoint document before it is sealed. -/
def checkpointFields (s : Store) (summary : PyValue) (createdAtUtc : String) :
    List (PyKey × PyValue) :=
  [(.str "checkpoint_version", .int 1),
   (.str "journal_format_version", .int formatVersion),
   (.str "journal_id", .str s.journalId),
   (.str "anchor_seq", .int (s.nextSeq - 1 : ℕ)),
   (.str "anchor_hash", .str s.lastHash),
   (.str "anchor_segment_index", .int s.activeSegmentIndex),
   (.str "summary_schema", .str "chronoshft.oms.rebuild-summary"),
   (.str "summary_version", .int 1),
   (.str "summary", summary.normalize),
   (.str "created_at_utc", .str createdAtUtc)]

/-- The payload of the marker. -/
def markerPayload (s : Store) (digest name : String) : PyValue :=
  .dict
    [(.str "checkpoint_sha256", .str digest),
     (.str "checkpoint_file", .str name),
     (.str "anchor_seq", .int (s.nextSeq - 1 : ℕ)),
     (.str "anchor_hash", .str s.lastHash)]

/-- The pointer document before it is sealed. -/
def pointerFields (s : Store) (digest name : String) (markerSeq : ℕ) (markerHash : String)
    (markerSegment : ℕ) : List (PyKey × PyValue) :=
  [(.str "pointer_version", .int 1),
   (.str "journal_id", .str s.journalId),
   (.str "checkpoint_file", .str name),
   (.str "checkpoint_sha256", .str digest),
   (.str "marker_seq", .int markerSeq),
   (.str "marker_hash", .str markerHash),
   (.str "marker_segment_index", .int markerSegment)]

/-- A document file: the canonical text and a line end. -/
def documentText (doc : PyValue) : Option String :=
  doc.encode.map fun j => String.ofList (j.print ++ ['\n'])

/-- The checkpoint file is written, or compared with the one that is there. -/
def writeCheckpoint (s : Store) (outcome : Replacing) (name : String) (doc : PyValue) :
    Store × Except WriteError Unit :=
  match documentText doc with
  | none => (s, .error .notSerializable)
  | some text =>
    let replaced :=
      { s with disk := { s.disk with checkpoints := s.disk.checkpoints.set name text } }
    match s.disk.checkpoints.get? name with
    | some existing =>
      match loadDocument "OMS recovery checkpoint" existing with
      | .error err => (s, .error (.corruption err))
      | .ok found =>
        if doc.toJson?.map Json.sortKeys = some found.sortKeys then (s, .ok ())
        else (s, .error (.corruption .collision))
    | none =>
      match outcome with
      | .done => (replaced, .ok ())
      | .failed true => (replaced, .error .documentWrite)
      | .failed false => (s, .error .documentWrite)

/-- The head file is replaced. -/
def writePointer (s : Store) (outcome : Replacing) (doc : PyValue) :
    Store × Except WriteError Unit :=
  match documentText doc with
  | none => (s, .error .notSerializable)
  | some text =>
    let replaced := { s with disk := { s.disk with head := some text } }
    match outcome with
    | .done => (replaced, .ok ())
    | .failed true => (replaced, .error .documentWrite)
    | .failed false => (s, .error .documentWrite)

/-- `commit_checkpoint`.  The marker is the first record after the anchor, and after it was
appended the journal stands at its number and hash. -/
def commitCheckpoint (H : Digests) (cfg : Config) (s : Store) (env : CommitEnv)
    (summary : List (PyKey × PyValue)) : Store × Except WriteError Unit :=
  if cfg.enabled = false then (s, .error .checkpointDisabled)
  else if s.nextSeq ≤ 1 ∨ s.activeSegmentIndex = 0 then (s, .error .nothingDurable)
  else
    match sealDocument H "checkpoint_sha256"
        (s.checkpointFields (.dict summary) env.createdAtUtc.text) with
    | none => (s, .error .notSerializable)
    | some (doc, digest) =>
      let name := checkpointName (s.nextSeq - 1) digest
      match s.writeCheckpoint env.document name (.dict doc) with
      | (written, .error err) => (written, .error err)
      | (written, .ok ()) =>
        match written.appendBatch H cfg env.marker
            [("checkpoint_committed", s.markerPayload digest name)] with
        | (marked, .error err) => (marked, .error err)
        | (marked, .ok _) =>
          match sealDocument H "pointer_sha256"
              (marked.pointerFields digest name (marked.nextSeq - 1) marked.lastHash
                marked.activeSegmentIndex) with
          | none => (marked, .error .notSerializable)
          | some (pointer, _) => marked.writePointer env.pointer (.dict pointer)

end Store

/-! ## Opening -/

/-- `_load_checkpoint`: the pointer and the checkpoint it names. -/
def loadCheckpoint (H : Digests) (journalId : String) (disk : Disk) :
    Except Corruption (Option (Json × Json)) :=
  match disk.head with
  | none => .ok none
  | some text =>
    match loadDocument "OMS checkpoint head" text with
    | .error err => .error err
    | .ok pointer =>
      if pointer.get? "pointer_version" ≠ some (.int 1) then .error .pointerVersion
      else if pointer.get? "journal_id" ≠ some (.str journalId) then .error .pointerIdentity
      else if pointer.get? "pointer_sha256" ≠
          some (.str (documentDigest H pointer "pointer_sha256")) then .error .pointerDigest
      else
        let name := textField pointer "checkpoint_file"
        if name = "" ∨ name = "." ∨ name.toList.any (fun c => c = '/') = true
          then .error .checkpointName
        else
          match (disk.checkpoints.get? name).map (loadDocument "OMS recovery checkpoint") with
          | none => .error (.document "OMS recovery checkpoint")
          | some (.error err) => .error err
          | some (.ok checkpoint) =>
            let digest := documentDigest H checkpoint "checkpoint_sha256"
            if checkpoint.get? "checkpoint_version" ≠ some (.int 1) then
              .error .checkpointVersion
            else if checkpoint.get? "journal_id" ≠ some (.str journalId) then
              .error .checkpointIdentity
            else if checkpoint.get? "checkpoint_sha256" ≠ some (.str digest) then
              .error .checkpointDigest
            else if pointer.get? "checkpoint_sha256" ≠ some (.str digest) then
              .error .pointerTarget
            else .ok (some (pointer, checkpoint))

/-- The anchor a checkpoint names. -/
def anchorOf? (checkpoint : Json) : Option Anchor :=
  match natField? checkpoint "anchor_seq", natField? checkpoint "anchor_segment_index" with
  | some seq, some (segment + 1) =>
    some { segmentIndex := segment + 1, seq := seq, hash := textField checkpoint "anchor_hash" }
  | _, _ => none

/-- The marker in the tail is the one the pointer and the checkpoint speak of. -/
def isMarkerOf (pointer checkpoint marker : Json) : Bool :=
  let payload := (marker.get? "payload").getD .null
  marker.get? "seq" = pointer.get? "marker_seq" ∧
    marker.get? "hash" = pointer.get? "marker_hash" ∧
    marker.get? "kind" = some (.str "checkpoint_committed") ∧
    payload.get? "checkpoint_sha256" = checkpoint.get? "checkpoint_sha256" ∧
    payload.get? "anchor_seq" = checkpoint.get? "anchor_seq" ∧
    payload.get? "anchor_hash" = checkpoint.get? "anchor_hash"

/-- The part of `_initialize_tail` that reads the files. -/
def scanTail (H : Digests) (cfg : Config) (journalId : String) (disk : Disk) :
    Except Corruption Scan :=
  match loadCheckpoint H journalId disk with
  | .error err => .error err
  | .ok none => scanSegments H cfg.maxFrameBytes journalId disk.segments {}
  | .ok (some (pointer, checkpoint)) =>
    match anchorOf? checkpoint with
    | none => .error .anchor
    | some anchor =>
      match scanSegments H cfg.maxFrameBytes journalId disk.segments anchor with
      | .error err => .error err
      | .ok scan =>
        match scan.collected with
        | [] => .error .noMarker
        | marker :: _ =>
          if isMarkerOf pointer checkpoint marker then .ok scan else .error .notCommitted

/-- `OMSJournal(..)` on existing files. -/
def Store.reopen (H : Digests) (cfg : Config) (journalId : String) (disk : Disk) :
    Except Corruption Store :=
  if cfg.enabled = false then .ok { journalId := journalId, disk := disk }
  else
    match scanTail H cfg journalId disk with
    | .error err => .error err
    | .ok scan =>
      let active := scan.segments.getLast?
      .ok
        { journalId := journalId
          nextSeq := scan.position.expectedSeq
          lastHash := scan.position.previousHash
          activeSegmentIndex := (active.map SegmentInfo.index).getD 0
          activeSegmentRecordCount := (active.map SegmentInfo.recordCount).getD 0
          activeSegmentSize := (active.map SegmentInfo.size).getD 0
          disk := disk }

end ChronosHFT.Journal
