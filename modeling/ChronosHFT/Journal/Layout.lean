import ChronosHFT.Journal.Store

/-!
# What intact files hold

A journal is intact when its files are those of some list of segments, each a list of
stored records.  This module writes such files down (`files`) and shows what the readers
of `Journal/File` make of them: every record is accepted in its place
(`Stored.validateRecord_doc`), the check of a start ends where the last record ends
(`scanSegments_files`), and `iterRecords` returns the records of all segments
(`iterRecords_files`).

A stored record carries the proof that it is one the writer accepts, so the readers'
checks on kinds and payloads need no hypothesis.  What a file needs besides is that every
frame fits the configured maximum (`Readable`).
-/

namespace ChronosHFT.Journal

open List Frames

/-! ## Documents -/

/-- The fields of a document do not depend on their order. -/
theorem hasFields_sortKeys (j : Json) (names : List String) :
    hasFields j.sortKeys names = hasFields j names := by
  have hperm := Json.keys_sortKeys j
  unfold hasFields
  congr 1
  · exact hperm.all_eq
  · congr 1
    ext key
    rw [decide_eq_decide, hperm.mem_iff]

/-- The text of an object is a frame of it. -/
theorem decodeFrame_dumps {entries : List (String × Json)} (h : (Json.obj entries).Distinct) :
    decodeFrame (utf8 (Json.obj entries).dumps) = .ok (Json.obj entries).sortKeys := by
  have hread := @Json.loads_dumps _ h "" (by simp)
  rw [String.append_empty] at hread
  unfold decodeFrame
  rw [ofUtf8?_utf8, Option.bind_some, hread]
  rfl

/-! ## Records -/

/-- A record as it is stored, without its place. -/
structure Stored where
  ts : String
  kind : String
  payload : List (String × Json)
  kind_ne : kind ≠ ""
  kind_length : kind.length ≤ 128
  distinct : (Json.obj payload).Distinct

namespace Stored

variable (H : Digests) (journalId : String) (pos : Position) (r : Stored)

/-- The fields of a record before it is hashed. -/
def fields : List (String × Json) :=
  [("version", .int formatVersion),
   ("journal_id", .str journalId),
   ("record_kind", .str recordKind),
   ("record_version", .int 1),
   ("seq", .int pos.expectedSeq),
   ("ts", .str r.ts),
   ("kind", .str r.kind),
   ("payload_schema", .str (payloadSchemaHead ++ r.kind)),
   ("payload_version", .int 1),
   ("payload", .obj r.payload),
   ("prev_hash", .str pos.previousHash)]

/-- The hash of a record in its place. -/
def hash : String := hashOf H (.obj (r.fields journalId pos))

/-- A record in its place. -/
def signed : Json := .obj (r.fields journalId pos ++ [("hash", .str (r.hash H journalId pos))])

/-- A record in its place as it is read: its keys are in order. -/
def doc : Json := (r.signed H journalId pos).sortKeys

/-- The place after a record. -/
def after : Position := ⟨pos.expectedSeq + 1, r.hash H journalId pos⟩

/-- The bytes of a record without their frame. -/
def bytes : Bytes := utf8 (r.signed H journalId pos).dumps

/-- The event a record comes from. -/
def event : Event where
  journalId := journalId
  seq := pos.expectedSeq
  ts := r.ts
  kind := r.kind
  payload := PyValue.ofJson (.obj r.payload)
  prevHash := pos.previousHash

@[simp] theorem expectedSeq_after :
    (r.after H journalId pos).expectedSeq = pos.expectedSeq + 1 := rfl

@[simp] theorem previousHash_after :
    (r.after H journalId pos).previousHash = r.hash H journalId pos := rfl

theorem length_hash : (r.hash H journalId pos).length = 64 := H.length_sha256 _

theorem unsigned_event :
    PyValue.dict (r.event journalId pos).unsigned =
      PyValue.ofJson (.obj (r.fields journalId pos)) := rfl

theorem signed_event :
    PyValue.dict ((r.event journalId pos).signed (r.hash H journalId pos)) =
      PyValue.ofJson (r.signed H journalId pos) := rfl

theorem distinct_fields : (Json.obj (r.fields journalId pos)).Distinct := by
  refine ⟨?_, Json.distinctEntries_iff.mpr ?_⟩
  · show List.Nodup ["version", "journal_id", "record_kind", "record_version", "seq", "ts",
      "kind",
      "payload_schema", "payload_version", "payload", "prev_hash"]
    decide
  · intro entry hentry
    simp only [fields, mem_cons, not_mem_nil, or_false] at hentry
    rcases hentry with rfl | rfl | rfl | rfl | rfl | rfl | rfl | rfl | rfl | rfl | rfl
    all_goals first | exact r.distinct | exact trivial

theorem distinct_signed : (r.signed H journalId pos).Distinct := by
  refine ⟨?_, Json.distinctEntries_iff.mpr ?_⟩
  · show List.Nodup ["version", "journal_id", "record_kind", "record_version", "seq", "ts",
      "kind",
      "payload_schema", "payload_version", "payload", "prev_hash", "hash"]
    decide
  · intro entry hentry
    rcases mem_append.mp hentry with hfield | hhash
    · exact Json.distinctEntries_iff.mp (r.distinct_fields journalId pos).2 entry hfield
    · rw [mem_singleton.mp hhash]
      trivial

/-- A field of a record as it is read. -/
theorem get?_doc (key : String) :
    (r.doc H journalId pos).get? key = ((r.signed H journalId pos).get? key).map Json.sortKeys :=
  Json.get?_sortKeys (r.distinct_signed H journalId pos) key

/-- A field without nested keys. -/
theorem get?_doc_of_sorted {key : String} {j : Json}
    (hget : (r.signed H journalId pos).get? key = some j)
    (hsorted : j.sortKeys = j) : (r.doc H journalId pos).get? key = some j := by
  rw [get?_doc, hget, Option.map_some, hsorted]

/-- The hash covers a record without its hash. -/
theorem hashOf_doc_without :
    hashOf H ((r.doc H journalId pos).without "hash") = r.hash H journalId pos := by
  have hwithout : (r.signed H journalId pos).without "hash" = .obj (r.fields journalId pos) :=
    rfl
  unfold hashOf doc
  rw [← Json.dumps_sortKeys, Json.sortKeys_without (r.distinct_signed H journalId pos), hwithout,
    Json.dumps_sortKeys]
  rfl

theorem hasFields_doc : hasFields (r.doc H journalId pos) recordFields = true := by
  rw [doc, hasFields_sortKeys]
  show hasFields (.obj (r.fields journalId pos ++ [("hash", .str (r.hash H journalId pos))]))
    recordFields = true
  unfold hasFields Json.keys
  show (recordFields.all (fun key => decide (key ∈ recordFields)) &&
    recordFields.all (fun key => decide (key ∈ recordFields))) = true
  rw [Bool.and_self, all_eq_true]
  exact fun key hkey => decide_eq_true hkey

theorem validateEvent_doc : validateEvent (r.doc H journalId pos) = .ok () := by
  have hkind : eventKind? (r.doc H journalId pos) = some r.kind := by
    unfold eventKind?
    rw [get?_doc]
    show (if r.kind ≠ "" ∧ r.kind.length ≤ 128 then some r.kind else none) = some r.kind
    rw [if_pos ⟨r.kind_ne, r.kind_length⟩]
  have hschema : (r.doc H journalId pos).get? "payload_schema" =
      some (.str (payloadSchemaHead ++ r.kind)) := get?_doc H journalId pos r _
  have hversion : (r.doc H journalId pos).get? "payload_version" = some (.int 1) :=
    get?_doc H journalId pos r _
  have hpayload : (r.doc H journalId pos).get? "payload" =
      some (Json.sortKeys (.obj r.payload)) := get?_doc H journalId pos r _
  unfold validateEvent
  simp only [hkind, hschema, hversion, hpayload, Json.sortKeys]
  rw [if_neg (not_not_intro rfl), if_neg (not_not_intro rfl)]

/-- **A record is accepted in its place**, and the answer is its hash. -/
theorem validateRecord_doc :
    validateRecord H journalId (r.doc H journalId pos) pos.expectedSeq pos.previousHash =
      .ok (r.hash H journalId pos) := by
  have hfield : ∀ key j, (r.signed H journalId pos).get? key = some j → j.sortKeys = j →
      (r.doc H journalId pos).get? key = some j :=
    fun key j => r.get?_doc_of_sorted H journalId pos
  have hversion := hfield "version" (.int formatVersion) rfl rfl
  have hidentity := hfield "journal_id" (.str journalId) rfl rfl
  have hrecordKind := hfield "record_kind" (.str recordKind) rfl rfl
  have hrecordVersion := hfield "record_version" (.int 1) rfl rfl
  have hseq := hfield "seq" (.int pos.expectedSeq) rfl rfl
  have hhash := hfield "hash" (.str (r.hash H journalId pos)) rfl rfl
  have hprevious := hfield "prev_hash" (.str pos.previousHash) rfl rfl
  unfold validateRecord
  rw [if_neg (by rw [hasFields_doc]; decide), if_neg (not_not_intro hversion),
    if_neg (not_not_intro hidentity), if_neg (not_not_intro hrecordKind),
    if_neg (not_not_intro hrecordVersion), if_neg (not_not_intro hseq)]
  simp only [validateEvent_doc, hhash]
  rw [if_neg (not_not_intro (r.length_hash H journalId pos)), if_neg (not_not_intro hprevious),
    if_neg (not_not_intro (r.hashOf_doc_without H journalId pos))]

/-- A record in another place is refused. -/
theorem validateRecord_gap {seq : ℕ} (hseq : pos.expectedSeq ≠ seq) (previousHash : String) :
    validateRecord H journalId (r.doc H journalId pos) seq previousHash =
      .error (.sequenceGap seq) := by
  have hfield : ∀ key j, (r.signed H journalId pos).get? key = some j → j.sortKeys = j →
      (r.doc H journalId pos).get? key = some j :=
    fun key j => r.get?_doc_of_sorted H journalId pos
  have hversion := hfield "version" (.int formatVersion) rfl rfl
  have hidentity := hfield "journal_id" (.str journalId) rfl rfl
  have hrecordKind := hfield "record_kind" (.str recordKind) rfl rfl
  have hrecordVersion := hfield "record_version" (.int 1) rfl rfl
  have hplace := hfield "seq" (.int pos.expectedSeq) rfl rfl
  unfold validateRecord
  rw [if_neg (by rw [hasFields_doc]; decide), if_neg (not_not_intro hversion),
    if_neg (not_not_intro hidentity), if_neg (not_not_intro hrecordKind),
    if_neg (not_not_intro hrecordVersion), if_pos]
  rw [hplace]
  intro heq
  exact hseq (by simpa using heq)

/-- The frame of a record is decoded to it. -/
theorem decodeFrame_bytes :
    decodeFrame (r.bytes H journalId pos) = .ok (r.doc H journalId pos) :=
  decodeFrame_dumps (r.distinct_signed H journalId pos)

end Stored

/-! ## Segments -/

section Records

variable (H : Digests) (journalId : String)

/-- The place after some records. -/
def endOf : Position → List Stored → Position
  | pos, [] => pos
  | pos, r :: rest => endOf (r.after H journalId pos) rest

/-- Records in their places as they are read. -/
def docs : Position → List Stored → List Json
  | _, [] => []
  | pos, r :: rest => r.doc H journalId pos :: docs (r.after H journalId pos) rest

/-- The bytes of records in their places, without their frames. -/
def payloads : Position → List Stored → List Bytes
  | _, [] => []
  | pos, r :: rest => r.bytes H journalId pos :: payloads (r.after H journalId pos) rest

/-- The bytes of records in their places. -/
def recordBytes (pos : Position) (records : List Stored) : Bytes :=
  (payloads H journalId pos records).flatMap (frame H.crc32)

theorem endOf_append (first second : List Stored) (pos : Position) :
    endOf H journalId pos (first ++ second) =
      endOf H journalId (endOf H journalId pos first) second := by
  induction first generalizing pos with
  | nil => rfl
  | cons r rest ih => exact ih _

theorem docs_append (first second : List Stored) (pos : Position) :
    docs H journalId pos (first ++ second) =
      docs H journalId pos first ++ docs H journalId (endOf H journalId pos first) second := by
  induction first generalizing pos with
  | nil => rfl
  | cons r rest ih => exact congrArg (r.doc H journalId pos :: ·) (ih _)

theorem payloads_append (first second : List Stored) (pos : Position) :
    payloads H journalId pos (first ++ second) =
      payloads H journalId pos first ++
        payloads H journalId (endOf H journalId pos first) second := by
  induction first generalizing pos with
  | nil => rfl
  | cons r rest ih => exact congrArg (r.bytes H journalId pos :: ·) (ih _)

theorem recordBytes_append (first second : List Stored) (pos : Position) :
    recordBytes H journalId pos (first ++ second) =
      recordBytes H journalId pos first ++
        recordBytes H journalId (endOf H journalId pos first) second := by
  unfold recordBytes
  rw [payloads_append, flatMap_append]

@[simp] theorem expectedSeq_endOf (records : List Stored) (pos : Position) :
    (endOf H journalId pos records).expectedSeq = pos.expectedSeq + records.length := by
  induction records generalizing pos with
  | nil => rfl
  | cons r rest ih =>
    rw [endOf, ih, Stored.expectedSeq_after, length_cons]
    omega

@[simp] theorem length_docs (records : List Stored) (pos : Position) :
    (docs H journalId pos records).length = records.length := by
  induction records generalizing pos with
  | nil => rfl
  | cons r rest ih => rw [docs, length_cons, ih, length_cons]

/-- Frames of records, whatever follows them. -/
theorem decodeFrames_payloads (failure : Option Corruption) (records : List Stored)
    (pos : Position) (rest : List Bytes) :
    decodeFrames failure (payloads H journalId pos records ++ rest) =
      (docs H journalId pos records ++ (decodeFrames failure rest).1,
        (decodeFrames failure rest).2) := by
  induction records generalizing pos with
  | nil => rfl
  | cons r more ih =>
    rw [payloads, cons_append, decodeFrames, Stored.decodeFrame_bytes]
    simp only [ih]
    rfl

/-- A check that accepts every record. -/
def Passes (check : ℕ → String → Except Corruption Unit) : Position → List Stored → Prop
  | _, [] => True
  | pos, r :: rest =>
    check pos.expectedSeq (r.hash H journalId pos) = .ok () ∧
      Passes check (r.after H journalId pos) rest

variable {check : ℕ → String → Except Corruption Unit} {first records second : List Stored}
  {pos : Position}

/-- **Records are read to their end**, whatever follows them. -/
theorem readRecords_append (h : Passes H journalId check pos records) (rest : List Json) :
    readRecords H journalId check pos (docs H journalId pos records ++ rest) =
      readRecords H journalId check (endOf H journalId pos records) rest := by
  induction records generalizing pos with
  | nil => rfl
  | cons r more ih =>
    rw [docs, cons_append, readRecords, Stored.validateRecord_doc]
    simp only [h.1]
    exact ih h.2

theorem readRecords_docs (h : Passes H journalId check pos records) :
    readRecords H journalId check pos (docs H journalId pos records) =
      .ok (endOf H journalId pos records) := by
  have hread := readRecords_append H journalId h []
  rw [append_nil] at hread
  exact hread

theorem passes_append : Passes H journalId check pos (first ++ second) ↔
      Passes H journalId check pos first ∧
        Passes H journalId check (endOf H journalId pos first) second := by
  induction first generalizing pos with
  | nil => exact ⟨fun h => ⟨trivial, h⟩, fun h => h.2⟩
  | cons r rest ih =>
    show _ ∧ Passes H journalId check _ (rest ++ second) ↔ _
    rw [ih, ← and_assoc]
    rfl

/-- An anchor outside the records lets them pass. -/
theorem passes_anchor_of_outside {anchor : Anchor}
    (h : anchor.seq < pos.expectedSeq ∨ pos.expectedSeq + records.length ≤ anchor.seq) :
    Passes H journalId anchor.check pos records := by
  induction records generalizing pos with
  | nil => trivial
  | cons r rest ih =>
    simp only [length_cons] at h
    refine ⟨if_neg ?_, ih ?_⟩
    · rintro ⟨hseq, -⟩
      omega
    · simp only [Stored.expectedSeq_after]
      omega

/-- **An anchor that names a record by its hash** lets all records pass. -/
theorem passes_anchor {anchor : Anchor} (hfirst : first ≠ [])
    (hseq : anchor.seq + 1 = pos.expectedSeq + first.length)
    (hhash : anchor.hash = (endOf H journalId pos first).previousHash) :
    Passes H journalId anchor.check pos (first ++ second) := by
  obtain ⟨init, last, rfl⟩ := (eq_nil_or_concat' first).resolve_left hfirst
  rw [length_append, length_singleton] at hseq
  rw [endOf_append] at hhash
  refine (passes_append H journalId).mpr ⟨(passes_append H journalId).mpr ⟨?_, ?_⟩, ?_⟩
  · exact passes_anchor_of_outside H journalId (Or.inr (by omega))
  · refine ⟨if_neg ?_, trivial⟩
    rintro ⟨-, hne⟩
    exact hne hhash.symm
  · refine passes_anchor_of_outside H journalId (Or.inl ?_)
    rw [expectedSeq_endOf, length_append, length_singleton]
    omega

theorem passes_of_forall
    (h : ∀ seq hash, check seq hash = .ok ()) (records : List Stored) (pos : Position) :
    Passes H journalId check pos records := by
  induction records generalizing pos with
  | nil => trivial
  | cons r rest ih => exact ⟨h _ _, ih _⟩

end Records

/-- A segment: the time of its header and its records. -/
structure Segment where
  createdAtUtc : String
  records : List Stored

namespace Segment

variable (H : Digests) (journalId : String) (index : ℕ) (pos : Position) (segment : Segment)

/-- The header of a segment in its place. -/
def header : SegmentHeader where
  journalId := journalId
  segmentIndex := index
  startSeq := pos.expectedSeq
  previousSegmentHash := pos.previousHash
  createdAtUtc := segment.createdAtUtc

/-- The file of a segment in its place. -/
def file : Bytes :=
  Store.segmentStart H (segment.header journalId index pos) ++
    recordBytes H journalId pos segment.records

/-- Every frame of the segment may be read. -/
structure Readable (maxFrameBytes : ℕ) : Prop where
  header : Fits maxFrameBytes (utf8 (segment.header journalId index pos).toJson.dumps)
  records : ∀ payload ∈ payloads H journalId pos segment.records, Fits maxFrameBytes payload

theorem distinct_header : (segment.header journalId index pos).toJson.Distinct := by
  refine ⟨?_, Json.distinctEntries_iff.mpr ?_⟩
  · show List.Nodup headerFields
    decide
  intro entry hentry
  simp only [mem_cons, not_mem_nil, or_false] at hentry
  rcases hentry with rfl | rfl | rfl | rfl | rfl | rfl | rfl | rfl
  all_goals trivial

/-- **The objects of a segment file**: its header, its records, and what follows them. -/
theorem iterFrames_append {maxFrameBytes : ℕ}
    (h : segment.Readable H journalId index pos maxFrameBytes) {more : List Bytes}
    (hmore : ∀ payload ∈ more, Fits maxFrameBytes payload) :
    iterFrames H maxFrameBytes (segment.file H journalId index pos ++
      more.flatMap (frame H.crc32)) =
      ((segment.header journalId index pos).toJson.sortKeys ::
        (docs H journalId pos segment.records ++ (decodeFrames none more).1),
        (decodeFrames none more).2) := by
  let head := utf8 (segment.header journalId index pos).toJson.dumps
  have hfile : segment.file H journalId index pos ++ more.flatMap (frame H.crc32) =
      segmentMagic ++
      (head :: (payloads H journalId pos segment.records ++ more)).flatMap (frame H.crc32) := by
    unfold file Store.segmentStart recordBytes
    rw [append_assoc, append_assoc, flatMap_cons, flatMap_append]
  have hframes := readFrames_frames H.crc32
    (forall_mem_cons.mpr ⟨h.header, forall_mem_append.mpr ⟨h.records, hmore⟩⟩)
  have hhead : decodeFrame head = .ok (segment.header journalId index pos).toJson.sortKeys :=
    decodeFrame_dumps (segment.distinct_header journalId index pos)
  unfold iterFrames
  rw [hfile, take_left, if_neg (not_not_intro rfl), drop_left]
  simp only [head] at hhead hframes ⊢
  simp only [hframes, Option.map_none, decodeFrames, hhead, decodeFrames_payloads]

theorem iterFrames_file {maxFrameBytes : ℕ}
    (h : segment.Readable H journalId index pos maxFrameBytes) :
    iterFrames H maxFrameBytes (segment.file H journalId index pos) =
      ((segment.header journalId index pos).toJson.sortKeys ::
        docs H journalId pos segment.records, none) := by
  have hread := @iterFrames_append H journalId index pos segment maxFrameBytes h [] (by simp)
  simp only [flatMap_nil, append_nil, decodeFrames] at hread
  exact hread

/-- **The header is accepted** when the hash before it is the expected one, or none is
expected. -/
theorem validateSegmentHeader_header (hstart : 0 < pos.expectedSeq) {linkage : Option String}
    (hlinkage : ∀ expected, linkage = some expected → expected = pos.previousHash) :
    validateSegmentHeader journalId (segment.header journalId index pos).toJson.sortKeys index
      linkage = .ok (pos.expectedSeq, pos.previousHash) := by
  have hfield : ∀ key j, (segment.header journalId index pos).toJson.get? key = some j →
      j.sortKeys = j →
      (segment.header journalId index pos).toJson.sortKeys.get? key = some j := by
    intro key j hget hsorted
    rw [Json.get?_sortKeys (segment.distinct_header journalId index pos), hget, Option.map_some,
      hsorted]
  have hkind := hfield "frame_kind" (.str "segment_header") rfl rfl
  have hversion := hfield "header_version" (.int 1) rfl rfl
  have hformat := hfield "journal_format_version" (.int formatVersion) rfl rfl
  have hidentity := hfield "journal_id" (.str journalId) rfl rfl
  have hindex := hfield "segment_index" (.int index) rfl rfl
  have hseq := hfield "start_seq" (.int pos.expectedSeq) rfl rfl
  have hprevious := hfield "previous_segment_hash" (.str pos.previousHash) rfl rfl
  have hfields : hasFields (segment.header journalId index pos).toJson.sortKeys headerFields =
      true := by
    rw [hasFields_sortKeys]
    rfl
  have hlinked : linkage.any (fun expected => decide (pos.previousHash ≠ expected)) = false := by
    cases linkage with
    | none => rfl
    | some expected =>
      rw [hlinkage expected rfl]
      exact decide_eq_false (not_not_intro rfl)
  unfold validateSegmentHeader
  rw [if_neg (not_not_intro hkind), if_neg (not_not_intro hversion),
    if_neg (not_not_intro hformat), if_neg (not_not_intro hidentity),
    if_neg (not_not_intro hindex)]
  simp only [hseq, hprevious, hlinked, hfields, if_true]
  rw [if_neg (by omega), if_neg (by decide)]
  rfl

end Segment

/-! ## Files -/

section Files

variable (H : Digests) (journalId : String)

/-- The records of segments. -/
def recordsOf (segments : List Segment) : List Stored := segments.flatMap Segment.records

theorem recordsOf_cons (segment : Segment) (rest : List Segment) :
    recordsOf (segment :: rest) = segment.records ++ recordsOf rest := flatMap_cons

theorem recordsOf_append (first second : List Segment) :
    recordsOf (first ++ second) = recordsOf first ++ recordsOf second := flatMap_append

/-- The files of segments, from a place on. -/
def files : ℕ → Position → List Segment → List Bytes
  | _, _, [] => []
  | index, pos, segment :: rest =>
    segment.file H journalId index pos ::
      files (index + 1) (endOf H journalId pos segment.records) rest

/-- Every frame of every segment may be read. -/
def Readable (maxFrameBytes : ℕ) : ℕ → Position → List Segment → Prop
  | _, _, [] => True
  | index, pos, segment :: rest =>
    segment.Readable H journalId index pos maxFrameBytes ∧
      Readable maxFrameBytes (index + 1) (endOf H journalId pos segment.records) rest

/-- What a start notes about segments. -/
def infos : ℕ → Position → List Segment → List SegmentInfo
  | _, _, [] => []
  | index, pos, segment :: rest =>
    { index := index
      startSeq := pos.expectedSeq
      recordCount := segment.records.length
      size := (segment.file H journalId index pos).length
      lastHash := (endOf H journalId pos segment.records).previousHash } ::
      infos (index + 1) (endOf H journalId pos segment.records) rest

theorem files_append (first second : List Segment) (index : ℕ) (pos : Position) :
    files H journalId index pos (first ++ second) =
      files H journalId index pos first ++
        files H journalId (index + first.length) (endOf H journalId pos (recordsOf first))
          second := by
  induction first generalizing index pos with
  | nil => rfl
  | cons segment rest ih =>
    rw [cons_append, files, ih, recordsOf_cons, endOf_append,
      length_cons, Nat.add_right_comm, Nat.add_assoc]
    rfl

variable {index : ℕ} {pos : Position} {segments : List Segment} {anchor : Anchor}

theorem readable_append {maxFrameBytes : ℕ} {first second : List Segment} :
    Readable H journalId maxFrameBytes index pos (first ++ second) ↔
      Readable H journalId maxFrameBytes index pos first ∧
        Readable H journalId maxFrameBytes (index + first.length)
          (endOf H journalId pos (recordsOf first)) second := by
  induction first generalizing index pos with
  | nil => exact ⟨fun h => ⟨trivial, h⟩, fun h => h.2⟩
  | cons segment rest ih =>
    rw [cons_append, Readable, ih, recordsOf_cons, endOf_append,
      length_cons, Nat.add_right_comm, Nat.add_assoc, ← and_assoc]
    rfl

theorem infos_append (first second : List Segment) (index : ℕ) (pos : Position) :
    infos H journalId index pos (first ++ second) =
      infos H journalId index pos first ++
        infos H journalId (index + first.length) (endOf H journalId pos (recordsOf first))
          second := by
  induction first generalizing index pos with
  | nil => rfl
  | cons segment rest ih =>
    rw [cons_append, infos, ih, recordsOf_cons, endOf_append,
      length_cons, Nat.add_right_comm, Nat.add_assoc]
    rfl

@[simp] theorem length_files (segments : List Segment) (index : ℕ) (pos : Position) :
    (files H journalId index pos segments).length = segments.length := by
  induction segments generalizing index pos with
  | nil => rfl
  | cons segment rest ih => rw [files, length_cons, ih, length_cons]

variable {H journalId} {maxFrameBytes : ℕ}

/-- **All records are read**, over all segments. -/
theorem iterLoop_files (hstart : 0 < pos.expectedSeq)
    (h : Readable H journalId maxFrameBytes index pos segments) :
    iterLoop H maxFrameBytes journalId pos index (files H journalId index pos segments) =
      .ok (docs H journalId pos (recordsOf segments)) := by
  induction segments generalizing index pos with
  | nil => rfl
  | cons segment rest ih =>
    have hread : iterSegment H maxFrameBytes journalId pos index
        (segment.file H journalId index pos) =
          .ok (docs H journalId pos segment.records,
            endOf H journalId pos segment.records) := by
      unfold iterSegment
      rw [segment.iterFrames_file H journalId index pos h.1]
      simp only
      rw [segment.validateSegmentHeader_header journalId index pos hstart
        (fun expected heq => (Option.some.inj heq).symm)]
      simp only
      rw [if_neg (not_not_intro rfl), readRecords_docs H journalId
        (passes_of_forall H journalId (fun _ _ => rfl) _ _)]
    have hnext : 0 < (endOf H journalId pos segment.records).expectedSeq := by
      rw [expectedSeq_endOf]
      omega
    have hrest := ih hnext h.2
    rw [files, iterLoop, hread]
    simp only [hrest]
    rw [recordsOf_cons, docs_append]
    rfl

/-- What the check of a start knows after one more segment. -/
def scanPast (H : Digests) (journalId : String) (anchor : Anchor) (scan : Scan) (index : ℕ)
    (pos : Position) (segment : Segment) : Scan where
  position := endOf H journalId pos segment.records
  linkage := some (endOf H journalId pos segment.records).previousHash
  anchorSeen := scan.anchorSeen ||
    decide (pos.expectedSeq ≤ anchor.seq ∧
      anchor.seq < (endOf H journalId pos segment.records).expectedSeq)
  collected := scan.collected ++
    (docs H journalId pos segment.records).drop (anchor.seq + 1 - pos.expectedSeq)
  segments := scan.segments ++ infos H journalId index pos [segment]

/-- One segment of the check at a start.  The place is known from the segment before it, or
the header of the anchor's segment is trusted. -/
theorem scanSegment_file {scan : Scan} {segment : Segment} (hstart : 0 < pos.expectedSeq)
    (hindex : anchor.segmentIndex ≤ index)
    (hplace : (index = anchor.segmentIndex ∧ anchor.seq ≠ 0) ∨ scan.position = pos)
    (hlinkage : ∀ expected, scan.linkage = some expected → expected = pos.previousHash)
    (hpasses : Passes H journalId anchor.check pos segment.records)
    (h : segment.Readable H journalId index pos maxFrameBytes) :
    scanSegment H maxFrameBytes journalId anchor scan index
      (segment.file H journalId index pos) =
      .ok (scanPast H journalId anchor scan index pos segment) := by
  have hhere : (if decide (index = anchor.segmentIndex ∧ anchor.seq ≠ 0) = true then
      ⟨pos.expectedSeq, pos.previousHash⟩ else scan.position) = pos := by
    rcases hplace with htrusted | hposition
    · rw [if_pos (decide_eq_true htrusted)]
    · rw [hposition]
      exact ite_self pos
  have hknown : ¬(decide (index = anchor.segmentIndex ∧ anchor.seq ≠ 0) = false ∧
      pos.expectedSeq ≠ scan.position.expectedSeq) := by
    rintro ⟨huntrusted, hne⟩
    rcases hplace with htrusted | hposition
    · exact of_decide_eq_false huntrusted htrusted
    · exact hne (by rw [hposition])
  unfold scanSegment
  rw [segment.iterFrames_file H journalId index pos h]
  simp only
  rw [if_pos hindex, segment.validateSegmentHeader_header journalId index pos hstart hlinkage]
  simp only
  rw [if_neg (Nat.not_lt.mpr hindex), if_neg hknown]
  rw [hhere, readRecords_docs H journalId hpasses]
  simp only [length_docs]
  rfl

/-- What the check of a start knows after some segments. -/
structure Scanned (H : Digests) (journalId : String) (anchor : Anchor) (before after : Scan)
    (index : ℕ) (pos : Position) (segments : List Segment) : Prop where
  position : after.position = endOf H journalId pos (recordsOf segments)
  linkage : ∀ expected, after.linkage = some expected →
    expected = (endOf H journalId pos (recordsOf segments)).previousHash
  anchorSeen : after.anchorSeen = (before.anchorSeen ||
    decide (pos.expectedSeq ≤ anchor.seq ∧
      anchor.seq < pos.expectedSeq + (recordsOf segments).length))
  collected : after.collected = before.collected ++
    (docs H journalId pos (recordsOf segments)).drop (anchor.seq + 1 - pos.expectedSeq)
  segments : after.segments = before.segments ++ infos H journalId index pos segments

/-- The segments from the anchor's on, when the place before them is known or trusted. -/
theorem scanLoop_files {scan : Scan} (hstart : 0 < pos.expectedSeq)
    (hindex : anchor.segmentIndex ≤ index)
    (hplace : (index = anchor.segmentIndex ∧ anchor.seq ≠ 0 ∧ segments ≠ []) ∨
      scan.position = pos)
    (hlinkage : ∀ expected, scan.linkage = some expected → expected = pos.previousHash)
    (hpasses : Passes H journalId anchor.check pos (recordsOf segments))
    (h : Readable H journalId maxFrameBytes index pos segments) :
    ∃ after, scanLoop H maxFrameBytes journalId anchor scan index
        (files H journalId index pos segments) = .ok after ∧
      Scanned H journalId anchor scan after index pos segments := by
  induction segments generalizing scan index pos with
  | nil =>
    have hposition : scan.position = pos := hplace.resolve_left fun htrusted => htrusted.2.2 rfl
    refine ⟨scan, rfl, hposition, hlinkage, ?_, ?_, (append_nil _).symm⟩
    · rw [decide_eq_false, Bool.or_false]
      rintro ⟨hle, hlt⟩
      exact Nat.not_lt.mpr hle hlt
    · show scan.collected = scan.collected ++ List.drop _ []
      rw [drop_nil, append_nil]
  | cons segment rest ih =>
    rw [recordsOf_cons, passes_append] at hpasses
    have hfile := scanSegment_file hstart hindex
      (hplace.imp_left fun htrusted => ⟨htrusted.1, htrusted.2.1⟩) hlinkage hpasses.1 h.1
    obtain ⟨after, hafter, hposition, hlinked, hseen, hcollected, hsegments⟩ :=
      @ih (index + 1) (endOf H journalId pos segment.records)
        (scanPast H journalId anchor scan index pos segment) (by rw [expectedSeq_endOf]; omega)
        (Nat.le_succ_of_le hindex) (Or.inr rfl)
        (fun expected heq => (Option.some.inj heq).symm) hpasses.2 h.2
    refine ⟨after, ?_, ?_⟩
    · rw [files, scanLoop, hfile]
      exact hafter
    constructor
    · rw [hposition, recordsOf_cons, endOf_append]
    · rw [recordsOf_cons, endOf_append]
      exact hlinked
    · rw [hseen, scanPast, Bool.or_assoc, ← Bool.decide_or, recordsOf_cons, length_append]
      simp only [expectedSeq_endOf]
      refine congrArg (scan.anchorSeen || ·) (decide_eq_decide.mpr ?_)
      omega
    · rw [hcollected, scanPast, recordsOf_cons, docs_append, drop_append, length_docs,
        append_assoc]
      simp only [expectedSeq_endOf]
      rw [Nat.sub_sub]
    · rw [hsegments, scanPast, append_assoc]
      rfl

/-- The segments before the anchor's: only their headers are looked at. -/
theorem scanLoop_skip {scan : Scan} (hstart : 0 < pos.expectedSeq)
    (hindex : index + segments.length ≤ anchor.segmentIndex)
    (h : Readable H journalId maxFrameBytes index pos segments) (rest : List Bytes) :
    scanLoop H maxFrameBytes journalId anchor scan index
        (files H journalId index pos segments ++ rest) =
      scanLoop H maxFrameBytes journalId anchor
        (if segments = [] then scan else { scan with linkage := none })
        (index + segments.length) rest := by
  induction segments generalizing scan index pos with
  | nil => rfl
  | cons segment more ih =>
    rw [length_cons] at hindex
    have hskip : scanSegment H maxFrameBytes journalId anchor scan index
        (segment.file H journalId index pos) = .ok { scan with linkage := none } := by
      unfold scanSegment
      rw [segment.iterFrames_file H journalId index pos h.1]
      simp only
      rw [if_neg (by omega), segment.validateSegmentHeader_header journalId index pos hstart
        (fun expected heq => by cases heq)]
      simp only
      rw [if_pos (by omega)]
    rw [files, cons_append, scanLoop, hskip]
    simp only
    rw [ih (by rw [expectedSeq_endOf]; omega) (by omega) h.2, ite_self, if_neg (by simp),
      length_cons, Nat.add_right_comm, Nat.add_assoc]

/-- The place before the first record. -/
def origin : Position := ⟨1, ""⟩

/-- An anchor that can be resolved: it names the last of some records, by its number and
hash, and the segment it is in. -/
structure Resolves (H : Digests) (journalId : String) (segments : List Segment)
    (anchor : Anchor) : Prop where
  exists_segment : ∃ before segment rest first second,
    segments = before ++ segment :: rest ∧ segment.records = first ++ second ∧ first ≠ [] ∧
      anchor.segmentIndex = before.length + 1 ∧
      anchor.seq = (recordsOf before).length + first.length ∧
      anchor.hash = (endOf H journalId origin (recordsOf before ++ first)).previousHash

/-- The check of a start with an anchor: it reads from the anchor's segment on, and the anchor
has to be there. -/
theorem scanSegments_from {before rest : List Segment} {segment : Segment}
    (h : Readable H journalId maxFrameBytes 1 origin (before ++ segment :: rest))
    (hindex : anchor.segmentIndex = before.length + 1) (hseq : anchor.seq ≠ 0)
    (hpasses : Passes H journalId anchor.check (endOf H journalId origin (recordsOf before))
      (recordsOf (segment :: rest))) : ∃ scan, scanSegments H maxFrameBytes journalId
        (files H journalId 1 origin (before ++ segment :: rest)) anchor =
          (if (recordsOf before).length < anchor.seq ∧
              anchor.seq ≤ (recordsOf (before ++ segment :: rest)).length then .ok scan
            else .error .anchorMissing) ∧
      scan.position = endOf H journalId origin (recordsOf (before ++ segment :: rest)) ∧
      scan.segments.getLast? = (infos H journalId 1 origin
        (before ++ segment :: rest)).getLast? ∧
      scan.collected = (docs H journalId (endOf H journalId origin (recordsOf before))
        (recordsOf (segment :: rest))).drop (anchor.seq - (recordsOf before).length) := by
  obtain ⟨hbefore, hreadable⟩ := (readable_append H journalId).mp h
  let start := endOf H journalId origin (recordsOf before)
  have hstart : start.expectedSeq = 1 + (recordsOf before).length := expectedSeq_endOf ..
  let trusted : Scan := if before = [] then { anchorSeen := decide (anchor.seq = 0) }
    else { anchorSeen := decide (anchor.seq = 0), linkage := none }
  have hlinkage : ∀ expected, trusted.linkage = some expected →
      expected = start.previousHash := by
    intro expected heq
    cases before with
    | nil => exact (Option.some.inj heq).symm
    | cons other more => cases heq
  have hnone : trusted.collected = [] ∧ trusted.segments = [] ∧ trusted.anchorSeen = false := by
    simp only [trusted]
    split <;> exact ⟨rfl, rfl, decide_eq_false hseq⟩
  obtain ⟨scan, hscan, hscanned⟩ := scanLoop_files (by omega) (by omega)
    (Or.inl ⟨by omega, hseq, cons_ne_nil _ _⟩) hlinkage hpasses hreadable
  refine ⟨scan, ?_, ?_, ?_, ?_⟩
  · unfold scanSegments
    rw [if_neg (by rw [files_append]; simp [files]),
      if_neg (by rw [length_files, length_append, length_cons]; omega),
      files_append, scanLoop_skip Nat.one_pos (by omega) hbefore]
    simp only [trusted, start] at hscan
    rw [hscan]
    simp only
    refine if_congr ?_ rfl rfl
    rw [hscanned.anchorSeen, hnone.2.2, Bool.false_or, decide_eq_true_iff, recordsOf_append,
      length_append]
    omega
  · rw [hscanned.position, recordsOf_append, endOf_append]
  · rw [hscanned.segments, hnone.2.1, infos_append, nil_append]
    exact (List.getLast?_append_of_ne_nil _ (cons_ne_nil _ _)).symm
  · rw [hscanned.collected, hnone.1, nil_append,
      show anchor.seq + 1 - start.expectedSeq = anchor.seq - (recordsOf before).length by omega]

/-- **The check of a start** accepts intact files, with no anchor or with one that can be
resolved, and ends where the records end. -/
theorem scanSegments_files (h : Readable H journalId maxFrameBytes 1 origin segments)
    (hanchor : anchor = {} ∨ Resolves H journalId segments anchor) :
    ∃ scan, scanSegments H maxFrameBytes journalId (files H journalId 1 origin segments) anchor =
        .ok scan ∧
      scan.position = endOf H journalId origin (recordsOf segments) ∧
      scan.segments.getLast? = (infos H journalId 1 origin segments).getLast? ∧
      scan.collected = (docs H journalId origin (recordsOf segments)).drop anchor.seq := by
  rcases hanchor with rfl | hresolves
  · cases hsegments : segments with
    | nil => exact ⟨_, rfl, rfl, rfl, rfl⟩
    | cons segment rest =>
      rw [← hsegments]
      obtain ⟨scan, hscan, hscanned⟩ :=
        @scanLoop_files H journalId 1 origin segments {} maxFrameBytes
        { anchorSeen := true } Nat.one_pos le_rfl (Or.inr rfl)
        (fun expected heq => (Option.some.inj heq).symm)
        (passes_anchor_of_outside H journalId (Or.inl Nat.one_pos)) h
      refine ⟨scan, ?_, hscanned.position, ?_, ?_⟩
      · have hfiles : files H journalId 1 origin segments ≠ [] := by
          rw [hsegments]
          exact cons_ne_nil _ _
        unfold scanSegments
        rw [if_neg hfiles, if_neg (by
          rw [length_files, hsegments, length_cons]; simp only; omega)]
        simp only [decide_true, hscan]
        rw [if_pos (by rw [hscanned.anchorSeen]; rfl)]
      · rw [hscanned.segments]
        rfl
      · rw [hscanned.collected]
        rfl
  · obtain ⟨before, segment, rest, first, second, rfl, hrecords, hfirst, hindex, hseq, hhash⟩ :=
      hresolves.exists_segment
    have hpositive := length_pos_of_ne_nil hfirst
    have hpasses : Passes H journalId anchor.check (endOf H journalId origin (recordsOf before))
        (recordsOf (segment :: rest)) := by
      rw [recordsOf_cons, hrecords, append_assoc]
      refine passes_anchor H journalId hfirst ?_ ?_
      · rw [expectedSeq_endOf]
        show _ = 1 + _ + _
        omega
      · rw [hhash, endOf_append]
    obtain ⟨scan, hscan, hposition, hlast, hcollected⟩ :=
      scanSegments_from h hindex (by omega) hpasses
    refine ⟨scan, ?_, hposition, hlast, ?_⟩
    · rw [hscan, if_pos]
      rw [recordsOf_append, recordsOf_cons, hrecords]
      simp only [length_append]
      omega
    · have hskipped : (docs H journalId origin (recordsOf before)).drop anchor.seq = [] :=
        drop_eq_nil_of_le (by rw [length_docs]; omega)
      rw [hcollected, recordsOf_append, docs_append, drop_append, length_docs, hskipped,
        nil_append]

end Files

end ChronosHFT.Journal
