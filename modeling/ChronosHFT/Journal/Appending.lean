import ChronosHFT.Journal.Layout

/-!
# Appending to an intact journal

A store is in sync with its files when the files are intact and the counters stand where
the last record ends (`InSync`).  A batch of plain payloads is encoded to the records it
stands for (`encodeBatch_plain`), and each way an append can end is described on a store
in sync: nothing is written, the batch is there and the store is in sync again, or bytes
are there that the counters do not know of.

One length matters.  A header is written without a check of its size, but only after a
record for the same place was found to fit, and that record is the longer of the two
(`header_size_le`).
-/

namespace ChronosHFT.Journal

open List Frames

/-! ## Sizes -/

theorem length_utf8 (text : String) : (utf8 text).length = text.utf8ByteSize := by
  unfold utf8
  rw [Array.length_toList]
  rfl

theorem utf8_dumps_ne_nil {entries : List (String × Json)} (h : entries ≠ []) :
    utf8 (Json.obj entries).dumps ≠ [] := by
  intro hnil
  have hsize := Json.utf8ByteSize_dumps_obj h
  rw [← length_utf8, hnil, length_nil] at hsize
  omega

/-- The time of a header takes no escapes. -/
theorem Timestamp.size_text (ts : Timestamp) : Json.size (Json.printString ts.text) = 26 := by
  rw [Json.size_printString, ts.length_text]
  intro c hc
  have hplain : (32 ≤ c.toNat ∧ c.toNat ≤ 126) ∧ c.toNat ≠ 34 ∧ c.toNat ≠ 92 := by
    have hchar := all_eq_true.mp ts.plain c hc
    rw [Bool.or_eq_true, decide_eq_true_eq] at hchar
    rcases hchar with halnum | hmem
    · have hval : c.val.toNat = c.toNat := rfl
      have hletters : 'A'.val.toNat = 65 ∧ 'Z'.val.toNat = 90 ∧ 'a'.val.toNat = 97 ∧
          'z'.val.toNat = 122 ∧ '0'.val.toNat = 48 ∧ '9'.val.toNat = 57 := by decide
      simp only [Char.isAlphanum, Char.isAlpha, Char.isUpper, Char.isLower, Char.isDigit,
        Bool.or_eq_true, Bool.and_eq_true, decide_eq_true_eq, ge_iff_le,
        UInt32.le_iff_toNat_le] at halnum
      omega
    · simp only [mem_cons, not_mem_nil, or_false] at hmem
      rcases hmem with rfl | rfl | rfl <;> decide
  exact Json.escapeChar_plain hplain.1 (fun heq => hplain.2.1 (by rw [heq]; rfl))
    (fun heq => hplain.2.2 (by rw [heq]; rfl))

/-- A digest takes no escapes. -/
theorem Digests.size_sha256 (H : Digests) (bytes : Bytes) :
    Json.size (Json.printString (H.sha256 bytes)) = 66 := by
  have hdigits : "0123456789abcdef".toList.all
      (fun c => decide (Json.escapeChar c = [c] ∧ c.utf8Size = 1)) = true := by decide +kernel
  rw [Json.size_printString, H.length_sha256]
  intro c hc
  exact of_decide_eq_true (all_eq_true.mp hdigits c (H.hex_sha256 bytes c hc))

/-- The bytes of a record. -/
theorem Stored.length_bytes (H : Digests) (journalId : String) (pos : Position) (r : Stored) :
    (r.bytes H journalId pos).length =
      229 + Json.size (Json.printString journalId) +
        Json.size (Json.print (.int pos.expectedSeq)) +
        Json.size (Json.printString r.ts) + Json.size (Json.printString r.kind) +
        Json.size (Json.printString (payloadSchemaHead ++ r.kind)) +
        Json.size (Json.print (Json.obj r.payload).sortKeys) +
        Json.size (Json.printString pos.previousHash) := by
  have hkeys : ["version", "journal_id", "record_kind", "record_version", "seq", "ts", "kind",
      "payload_schema", "payload_version", "payload", "prev_hash", "hash", recordKind].map
        (fun key => Json.size (Json.printString key)) =
      [9, 12, 13, 16, 5, 4, 6, 16, 17, 9, 11, 6, 11] := by
    decide +kernel
  simp only [map_cons, map_nil, List.cons.injEq, and_true] at hkeys
  have hdigit : Json.size (Json.print (.int 1)) = 1 ∧
      Json.size (Json.print (.int formatVersion)) = 1 := by decide +kernel
  have hhash : Json.size (Json.printString (r.hash H journalId pos)) = 66 := H.size_sha256 _
  unfold Stored.bytes
  rw [length_utf8, Stored.signed, Json.utf8ByteSize_dumps_obj (by simp [Stored.fields])]
  simp only [Stored.fields, cons_append, nil_append, map_cons, map_nil,
    sum_cons, sum_nil, Json.entrySize, Json.sortKeys, Json.print] at *
  omega

variable {H : Digests} {journalId : String} {cfg : Config} {s t u : Store}
  {first second segments third : List Segment}

/-- **A header is no longer than a record for the same place.** -/
theorem header_size_le {index : ℕ} {pos : Position}
    (createdAtUtc : Timestamp) (records : List Stored) (r : Stored)
    (hindex : index < directoryLimit) :
    (utf8 ((Segment.mk createdAtUtc.text records).header journalId index
      pos).toJson.dumps).length ≤
      (r.bytes H journalId pos).length := by
  have hkeys : ["frame_kind", "header_version", "journal_format_version", "journal_id",
      "segment_index", "start_seq", "previous_segment_hash", "created_at_utc", "version",
      "record_kind", "record_version", "seq", "ts", "kind", "payload_schema", "payload_version",
      "payload", "prev_hash", "hash", "segment_header", recordKind].map
        (fun key => Json.size (Json.printString key)) =
      [12, 16, 24, 12, 15, 11, 23, 16, 9, 13, 16, 5, 4, 6, 16, 17, 9, 11, 6, 16, 11] := by
    decide +kernel
  simp only [map_cons, map_nil, List.cons.injEq, and_true] at hkeys
  have hdigit : Json.size (Json.print (.int 1)) = 1 ∧
      Json.size (Json.print (.int formatVersion)) = 1 := by decide +kernel
  have hdigits : Json.size (Json.print (.int index)) ≤ 20 := by
    show Json.size (Nat.toDigits 10 index) ≤ 20
    rw [Json.size_toDigits]
    exact Nat.toDigits_length 10 index 20 (by decide) hindex
  have hcreated := createdAtUtc.size_text
  have hhash := Json.length_le_printString (r.hash H journalId pos)
  have hschema := Json.length_le_printString (payloadSchemaHead ++ r.kind)
  have hhead : payloadSchemaHead.length = 21 := by decide
  rw [r.length_hash] at hhash
  rw [String.length_append, hhead] at hschema
  unfold Stored.bytes
  rw [length_utf8, length_utf8, SegmentHeader.toJson,
    Json.utf8ByteSize_dumps_obj (cons_ne_nil _ _), Stored.signed,
    Json.utf8ByteSize_dumps_obj (by simp [Stored.fields])]
  simp only [Stored.fields, cons_append, nil_append, map_cons, map_nil,
    sum_cons, sum_nil, Json.entrySize, Json.sortKeys, Json.print, Segment.header] at *
  omega

/-! ## What a record says -/

/-- The time, the kind and the normalised payload of an event. -/
abbrev Line := String × String × PyValue

/-- The lines of a batch, the first at this index of the times. -/
def linesFrom (ts : ℕ → Timestamp) : ℕ → List Entry → List Line
  | _, [] => []
  | i, (kind, payload) :: rest =>
    ((ts i).text, kind, payload.normalize) :: linesFrom ts (i + 1) rest

/-- The lines of a batch. -/
def linesOf (ts : ℕ → Timestamp) (entries : List Entry) : List Line := linesFrom ts 0 entries

/-- The line of a stored record. -/
def Stored.line (r : Stored) : Line := (r.ts, r.kind, PyValue.ofJson (.obj r.payload))

/-- **Reading back.**  The objects are the records of the lines, in their order, numbered from
a place on; every record is read as it was encoded, carries the hash of the record before it,
and its own hash covers the rest of it. -/
def ReadBack (H : Digests) (journalId : String) : Position → List Line → List Json → Prop
  | _, [], read => read = []
  | pos, (ts, kind, payload) :: rest, read =>
    ∃ hash doc more, read = doc :: more ∧
      PyValue.IsReadAs
        (.dict (Event.signed
          { journalId := journalId, seq := pos.expectedSeq, ts := ts, kind := kind
            payload := payload, prevHash := pos.previousHash } hash)) doc ∧
      hash = hashOf H (doc.without "hash") ∧
      ReadBack H journalId ⟨pos.expectedSeq + 1, hash⟩ rest more

theorem readBack_docs (H : Digests) (journalId : String) (records : List Stored)
    (pos : Position) :
    ReadBack H journalId pos (records.map Stored.line) (docs H journalId pos records) := by
  induction records generalizing pos with
  | nil => rfl
  | cons r rest ih =>
    refine ⟨r.hash H journalId pos, r.doc H journalId pos, _, rfl, ?_, ?_, ih _⟩
    · refine ⟨r.signed H journalId pos, r.signed_event H journalId pos,
        r.distinct_signed H journalId pos, ?_⟩
      rw [Stored.doc, Json.sortKeys_sortKeys]
    · exact (r.hashOf_doc_without H journalId pos).symm

/-- Only plain payloads are read back. -/
theorem plain_of_readBack {said : List Line} {pos : Position}
    {read : List Json} (h : ReadBack H journalId pos said read) :
    ∀ line ∈ said, line.2.2.IsPlain := by
  induction said generalizing pos read with
  | nil =>
    intro line hline
    cases hline
  | cons first rest ih =>
    obtain ⟨ts, kind, payload⟩ := first
    obtain ⟨hash, doc, more, -, ⟨same, hsame, hdistinct, -⟩, -, hrest⟩ := h
    intro line hline
    rcases mem_cons.mp hline with rfl | hmem
    · cases same with
      | obj entries =>
        have hentries := PyValue.dict.inj hsame
        have hpayload : ((PyKey.str "payload", payload) : PyKey × PyValue) ∈
            PyValue.ofJsonEntries entries := by
          rw [← hentries]
          simp [Event.signed, Event.unsigned]
        rw [PyValue.ofJsonEntries_eq] at hpayload
        obtain ⟨entry, hentry, heq⟩ := mem_map.mp hpayload
        refine PyValue.isPlain_iff.mpr ⟨entry.2, (Prod.mk.inj heq).2.symm, ?_⟩
        exact Json.distinctEntries_iff.mp hdistinct.2 entry hentry
      | null => cases hsame
      | bool _ => cases hsame
      | int _ => cases hsame
      | float _ => cases hsame
      | str _ => cases hsame
      | arr _ => cases hsame
    · exact ih hrest line hmem

/-! ## Encoding -/

section Encoding

variable {H : Digests} {cfg : Config} {journalId : String}

theorem canonicalBytes_ofJson (j : Json) :
    canonicalBytes (PyValue.ofJson j) = some (utf8 j.dumps) := by
  unfold canonicalBytes
  rw [PyValue.encode_ofJson]
  rfl

/-- **A plain event is encoded to the record it stands for**, which fits. -/
theorem encodeEvent_plain {event : Event} {encoded : EncodedEvent} {pos : Position}
    (hplain : event.payload.IsPlain) (hidentity : event.journalId = journalId)
    (hseq : event.seq = pos.expectedSeq) (hprev : event.prevHash = pos.previousHash)
    (h : encodeEvent H cfg event = .ok encoded) :
    ∃ r : Stored, r.line = (event.ts, event.kind, event.payload) ∧
      encoded.event.seq = pos.expectedSeq ∧
      encoded.hash = r.hash H journalId pos ∧
      encoded.frame = frame H.crc32 (r.bytes H journalId pos) ∧
      Fits cfg.maxFrameBytes (r.bytes H journalId pos) := by
  unfold encodeEvent at h
  split at h
  · cases h
  next hkind =>
    obtain ⟨hne, hlong⟩ := not_or.mp hkind
    split at h
    · next entries hdict =>
      obtain ⟨j, hj, hdistinct⟩ := PyValue.isPlain_iff.mp hplain
      obtain ⟨payload, rfl⟩ : ∃ payload, j = .obj payload := by
        rw [hdict] at hj
        cases j with
        | obj payload => exact ⟨payload, rfl⟩
        | null => cases hj
        | bool _ => cases hj
        | int _ => cases hj
        | float _ => cases hj
        | str _ => cases hj
        | arr _ => cases hj
      let r : Stored :=
        { ts := event.ts, kind := event.kind, payload := payload, kind_ne := hne
          kind_length := Nat.not_lt.mp hlong, distinct := hdistinct }
      have hevent : event = r.event journalId pos := by
        cases event
        simp only at hidentity hseq hprev hj
        subst hidentity hseq hprev hj
        rfl
      have hhash : calculateHash H (.dict event.unsigned) = some (r.hash H journalId pos) := by
        unfold calculateHash
        rw [hevent, r.unsigned_event journalId pos, canonicalBytes_ofJson]
        rfl
      have hbytes : canonicalBytes (.dict (event.signed (r.hash H journalId pos))) =
          some (r.bytes H journalId pos) := by
        rw [hevent, r.signed_event H journalId pos, canonicalBytes_ofJson]
        rfl
      simp only [hhash, hbytes] at h
      unfold frameOf at h
      split at h
      · cases h
      next bytes hframe =>
        split at hframe
        · cases hframe
        next hshort =>
          cases hframe
          rw [length_frame] at h
          split at h
          · cases h
          next hfits =>
            cases h
            refine ⟨r, by rw [hj]; rfl, hseq, rfl, rfl, ?_, by omega, by omega⟩
            exact utf8_dumps_ne_nil (by simp [Stored.fields])
    · cases h

/-- A batch that is encoded to records. -/
structure Encodes (H : Digests) (cfg : Config) (journalId : String) (pos : Position)
    (batch : List EncodedEvent) (records : List Stored) : Prop where
  length : batch.length = records.length
  frames : batch.flatMap EncodedEvent.frame = recordBytes H journalId pos records
  fits : ∀ payload ∈ payloads H journalId pos records, Fits cfg.maxFrameBytes payload
  lastHash : (batch.getLast?.map EncodedEvent.hash).getD pos.previousHash =
    (endOf H journalId pos records).previousHash

/-- **A plain batch is encoded to the records it stands for.** -/
theorem encodeBatch_plain {ts : ℕ → Timestamp} {entries : List Entry} {pos : Position} {i : ℕ}
    {batch : List EncodedEvent} (hplain : ∀ entry ∈ entries, entry.2.normalize.IsPlain)
    (h : encodeBatch H cfg journalId ts pos i entries = .ok batch) :
    ∃ records : List Stored, records.map Stored.line = linesFrom ts i entries ∧
      Encodes H cfg journalId pos batch records := by
  induction entries generalizing pos i batch with
  | nil =>
    cases h
    refine ⟨[], rfl, rfl, rfl, ?_, rfl⟩
    intro payload hmem
    cases hmem
  | cons entry rest ih =>
    obtain ⟨kind, payload⟩ := entry
    rw [encodeBatch] at h
    split at h
    · cases h
    next encoded hencoded =>
      obtain ⟨r, hline, -, hhash, hframe, hfits⟩ :=
        encodeEvent_plain (hplain _ mem_cons_self) rfl rfl rfl hencoded
      cases hrest : encodeBatch H cfg journalId ts ⟨pos.expectedSeq + 1, encoded.hash⟩ (i + 1)
          rest with
      | error err =>
        rw [hrest] at h
        cases h
      | ok more =>
        rw [hrest] at h
        cases h
        obtain ⟨records, hlines, hlength, hframes, hall, hlast⟩ :=
          ih (fun e he => hplain e (mem_cons_of_mem _ he)) hrest
        rw [hhash] at hframes hall hlast
        refine ⟨r :: records, ?_, ?_, ?_, ?_, ?_⟩
        · rw [map_cons, hlines, hline]
          rfl
        · rw [length_cons, hlength, length_cons]
        · rw [flatMap_cons, hframes, hframe]
          rfl
        · exact forall_mem_cons.mpr ⟨hfits, hall⟩
        rw [List.getLast?_cons, Option.map_some, Option.getD_some, endOf, Stored.after,
          ← hlast]
        cases more.getLast? with
        | none => exact hhash
        | some last => rfl

/-- **A record that fits is encoded.** -/
theorem encodeEvent_ok {pos : Position} (r : Stored)
    (hfits : (r.bytes H journalId pos).length ≤ cfg.maxFrameBytes)
    (hshort : (r.bytes H journalId pos).length < 4294967296) :
    encodeEvent H cfg (r.event journalId pos) =
      .ok { event := r.event journalId pos, hash := r.hash H journalId pos
            frame := frame H.crc32 (r.bytes H journalId pos) } := by
  have hhash : calculateHash H (.dict (r.event journalId pos).unsigned) =
      some (r.hash H journalId pos) := by
    unfold calculateHash
    rw [r.unsigned_event journalId pos, canonicalBytes_ofJson]
    rfl
  have hbytes : canonicalBytes
      (.dict ((r.event journalId pos).signed (r.hash H journalId pos))) =
      some (r.bytes H journalId pos) := by
    rw [r.signed_event H journalId pos, canonicalBytes_ofJson]
    rfl
  have hkind : ¬((r.event journalId pos).kind = "" ∨
      128 < (r.event journalId pos).kind.length) :=
    not_or.mpr ⟨r.kind_ne, Nat.not_lt.mpr r.kind_length⟩
  unfold encodeEvent
  rw [if_neg hkind, hhash]
  simp only [hbytes]
  unfold frameOf
  rw [if_neg (Nat.not_le.mpr hshort)]
  simp only
  rw [length_frame, if_neg (by omega)]
  rfl

/-- A batch of one event that fits is encoded. -/
theorem encodeBatch_single {pos : Position} {ts : ℕ → Timestamp} {kind : String}
    {payload : PyValue}
    (r : Stored)
    (hline : ((ts 0).text, kind, payload.normalize) = r.line)
    (hfits : (r.bytes H journalId pos).length ≤ cfg.maxFrameBytes)
    (hshort : (r.bytes H journalId pos).length < 4294967296) :
    encodeBatch H cfg journalId ts pos 0 [(kind, payload)] =
      .ok [{ event := r.event journalId pos, hash := r.hash H journalId pos
             frame := frame H.crc32 (r.bytes H journalId pos) }] := by
  have hevent : ({ journalId := journalId, seq := pos.expectedSeq, ts := (ts 0).text,
                   kind := kind
                   payload := payload.normalize, prevHash := pos.previousHash } : Event) =
      r.event journalId pos := by
    have hts : (ts 0).text = r.ts := congrArg Prod.fst hline
    have hkind : kind = r.kind := congrArg (fun line : Line => line.2.1) hline
    have hpayload : payload.normalize = PyValue.ofJson (.obj r.payload) :=
      congrArg (fun line : Line => line.2.2) hline
    rw [hts, hkind, hpayload]
    rfl
  rw [encodeBatch, hevent, encodeEvent_ok r hfits hshort]
  rfl

end Encoding

/-! ## Stores in sync -/

/-- Files that hold segments, all of which may be read. -/
structure Intact (H : Digests) (cfg : Config) (journalId : String) (disk : Disk)
    (segments : List Segment) : Prop where
  files : disk.segments = files H journalId 1 origin segments
  readable : Readable H journalId cfg.maxFrameBytes 1 origin segments

/-- The size of the last file. -/
def Disk.lastSize (disk : Disk) : ℕ := (disk.segments.getLast?.map List.length).getD 0

/-- No bytes are in the files that the counters do not know of. -/
def Store.Settled (s : Store) : Prop :=
  s.disk.segments.length = s.activeSegmentIndex ∧ s.disk.lastSize = s.activeSegmentSize

instance (s : Store) : Decidable s.Settled := inferInstanceAs (Decidable (_ ∧ _))

/-- The counters stand where the last record ends. -/
structure InSync (H : Digests) (cfg : Config) (s : Store) (segments : List Segment) : Prop where
  intact : Intact H cfg s.journalId s.disk segments
  settled : s.Settled
  position : s.position = endOf H s.journalId origin (recordsOf segments)
  count : s.activeSegmentRecordCount =
    (segments.getLast?.map fun segment => segment.records.length).getD 0

theorem InSync.index (h : InSync H cfg s segments) : s.activeSegmentIndex = segments.length := by
  rw [← h.settled.1, h.intact.files, length_files]

/-- Segments grow: a header is added, or records at the end. -/
inductive Grows (segments : List Segment) : List Segment → Prop
  | refl : Grows segments segments
  | header {mid : List Segment} (h : Grows segments mid) (createdAtUtc : String) :
      Grows segments (mid ++ [⟨createdAtUtc, []⟩])
  | records {init : List Segment} {segment : Segment} (h : Grows segments (init ++ [segment]))
      (more : List Stored) :
      Grows segments (init ++ [⟨segment.createdAtUtc, segment.records ++ more⟩])

theorem Grows.trans (h : Grows first second) (h' : Grows second third) : Grows first third := by
  induction h' with
  | refl => exact h
  | header _ createdAtUtc ih => exact ih.header createdAtUtc
  | records _ more ih => exact ih.records more

theorem intact_header {disk : Disk} (h : Intact H cfg journalId disk segments)
    {createdAtUtc : String}
    (hfits : Fits cfg.maxFrameBytes (utf8 ((Segment.mk createdAtUtc []).header journalId
      (segments.length + 1) (endOf H journalId origin (recordsOf segments))).toJson.dumps))
    {file : Bytes} (hfile : file =
      Store.segmentStart H ((Segment.mk createdAtUtc []).header journalId
      (segments.length + 1) (endOf H journalId origin (recordsOf segments)))) :
    Intact H cfg journalId { disk with segments := disk.segments ++ [file] }
      (segments ++ [⟨createdAtUtc, []⟩]) := by
  constructor
  · show disk.segments ++ [file] = _
    rw [h.files, files_append, hfile, Nat.add_comm]
    refine congrArg (files H journalId 1 origin segments ++ ·) ?_
    show _ = [_ ++ []]
    rw [append_nil]
  · rw [readable_append]
    refine ⟨h.readable, ⟨?_, ?_⟩, trivial⟩
    · rw [Nat.add_comm]
      exact hfits
    · intro payload hmem
      cases hmem

theorem intact_records {disk : Disk} {init : List Segment} {segment : Segment}
    (h : Intact H cfg journalId disk (init ++ [segment])) {more : List Stored}
    (hfits : ∀ payload ∈ payloads H journalId
      (endOf H journalId origin (recordsOf (init ++ [segment]))) more,
      Fits cfg.maxFrameBytes payload) {bytes : Bytes} (hbytes : bytes = recordBytes H journalId
      (endOf H journalId origin (recordsOf (init ++ [segment]))) more) : Intact H cfg journalId
      { disk with segments := disk.segments.modify init.length (· ++ bytes) }
      (init ++ [⟨segment.createdAtUtc, segment.records ++ more⟩]) := by
  have hend : endOf H journalId origin (recordsOf (init ++ [segment])) =
      endOf H journalId (endOf H journalId origin (recordsOf init)) segment.records := by
    rw [recordsOf_append, endOf_append, recordsOf_cons]
    simp [recordsOf]
  obtain ⟨hinit, hlast, -⟩ := (readable_append H journalId).mp h.readable
  constructor
  · show disk.segments.modify init.length (· ++ bytes) = _
    have hlength : (files H journalId 1 origin init).length = init.length := length_files ..
    rw [h.files, files_append, files_append, ← hlength]
    refine (modifyTailIdx_add _ 0 _ _).trans (congrArg (files H journalId 1 origin init ++ ·) ?_)
    show [segment.file H journalId _ _ ++ bytes] = [_]
    rw [hbytes, hend, Segment.file, Segment.file, recordBytes_append, append_assoc]
    rfl
  · rw [readable_append]
    refine ⟨hinit, ⟨hlast.header, ?_⟩, trivial⟩
    intro payload hmem
    rw [payloads_append, mem_append] at hmem
    rcases hmem with hold | hnew
    · exact hlast.records payload hold
    · rw [← hend] at hnew
      exact hfits payload hnew

/-! ## Operations in sync -/

/-- A header is created completely or not at all. -/
def Creation.Whole : Creation → Prop
  | .failed _ => False
  | _ => True

/-- A batch is written completely or not at all. -/
def Writing.Whole : Writing → Prop
  | .failed written => written = 0
  | _ => True

/-- What an append leaves alone. -/
structure SameDocuments (s next : Store) : Prop where
  journalId : next.journalId = s.journalId
  head : next.disk.head = s.disk.head
  checkpoints : next.disk.checkpoints = s.disk.checkpoints

theorem SameDocuments.refl (s : Store) : SameDocuments s s := ⟨rfl, rfl, rfl⟩

theorem SameDocuments.trans (h : SameDocuments s t) (h' : SameDocuments t u) :
    SameDocuments s u :=
  ⟨h'.journalId.trans h.journalId, h'.head.trans h.head, h'.checkpoints.trans h.checkpoints⟩

/-- A step to files that hold grown segments; the counters stand where the last record ends
unless bytes are there that they do not know of. -/
structure Leads (H : Digests) (cfg : Config) (s next : Store)
    (segments segments' : List Segment) :
    Prop where
  grows : Grows segments segments'
  documents : SameDocuments s next
  intact : Intact H cfg next.journalId next.disk segments'
  inSync : next.Settled → InSync H cfg next segments'

theorem Leads.refl (h : InSync H cfg s segments) : Leads H cfg s s segments segments :=
  ⟨.refl, SameDocuments.refl s, h.intact, fun _ => h⟩

theorem Leads.trans (h : Leads H cfg s t first second)
    (h' : Leads H cfg t u second third) : Leads H cfg s u first third :=
  ⟨h.grows.trans h'.grows, h.documents.trans h'.documents, h'.intact, h'.inSync⟩

section InSyncOperations

variable {H : Digests} {cfg : Config} {s next : Store} {segments : List Segment}
  {env : AppendEnv}

theorem InSync.nextHeader_eq (h : InSync H cfg s segments) (createdAtUtc : String) :
    s.nextHeader createdAtUtc = (Segment.mk createdAtUtc []).header s.journalId
      (segments.length + 1) (endOf H s.journalId origin (recordsOf segments)) := by
  rw [← h.position, ← h.index]
  rfl

theorem recordsOf_header (segments : List Segment) (createdAtUtc : String) :
    recordsOf (segments ++ [⟨createdAtUtc, []⟩]) = recordsOf segments := by
  rw [recordsOf_append]
  exact append_nil _

theorem recordsOf_records (init : List Segment) (segment : Segment) (more : List Stored) :
    recordsOf (init ++ [⟨segment.createdAtUtc, segment.records ++ more⟩]) =
      recordsOf (init ++ [segment]) ++ more := by
  simp only [recordsOf, flatMap_append, flatMap_cons, flatMap_nil, append_nil,
    append_assoc]

variable {result : Except WriteError Unit} {err : WriteError}

/-- The end of `_create_segment`, in each way it can end. -/
theorem createSegment_inSync (h : InSync H cfg s segments) (hcreate : env.create.Whole)
    (hfits : s.activeSegmentIndex + 1 < directoryLimit →
      Fits cfg.maxFrameBytes (utf8 (s.nextHeader env.createdAtUtc.text).toJson.dumps))
    (heq : s.createSegment H env = (next, result)) :
    ∃ segments', Leads H cfg s next segments segments' ∧
      recordsOf segments' = recordsOf segments ∧
      (result = .ok () → next.Settled ∧ segments' ≠ []) := by
  have hunchanged : ∀ err : WriteError, (s, Except.error err) = (next, result) →
      ∃ segments', Leads H cfg s next segments segments' ∧
        recordsOf segments' = recordsOf segments ∧
        (result = .ok () → next.Settled ∧ segments' ≠ []) := by
    rintro err heq
    cases heq
    exact ⟨segments, .refl h, rfl, fun herr => by cases herr⟩
  unfold Store.createSegment at heq
  split at heq
  · exact hunchanged _ heq
  split at heq
  · exact hunchanged _ heq
  split at heq
  · exact hunchanged _ heq
  next hlimit =>
    rw [h.nextHeader_eq] at heq hfits
    have hintact := intact_header h.intact (hfits (Nat.lt_of_not_le hlimit)) rfl
    have hgrows : Grows segments (segments ++ [⟨env.createdAtUtc.text, []⟩]) :=
      Grows.refl.header env.createdAtUtc.text
    have hrecords := recordsOf_header segments env.createdAtUtc.text
    cases henv : env.create with
    | notCreated =>
      rw [henv] at heq
      exact hunchanged _ heq
    | failed written =>
      rw [henv] at hcreate
      exact absurd hcreate id
    | notSynced =>
      rw [henv] at heq
      cases heq
      refine ⟨_, ⟨hgrows, ⟨rfl, rfl, rfl⟩, hintact, fun hsettled => ?_⟩, hrecords,
        fun herr => by cases herr⟩
      -- the header is a file that the counters do not know of
      have hlength := hsettled.1
      simp only [length_append, length_singleton, h.settled.1] at hlength
      omega
    | done =>
      rw [henv] at heq
      cases heq
      refine ⟨_, ⟨hgrows, ⟨rfl, rfl, rfl⟩, hintact, fun hsettled => ?_⟩, hrecords,
        fun _ => ⟨?_, ?_⟩⟩
      · refine ⟨hintact, hsettled, ?_, ?_⟩
        · rw [hrecords]
          exact h.position
        · rw [List.getLast?_append_of_ne_nil _ (cons_ne_nil _ _)]
          rfl
      · constructor
        · simp only [length_append, length_singleton, h.settled.1]
        · simp only [Disk.lastSize, List.getLast?_append_of_ne_nil _ (cons_ne_nil _ _),
            List.getLast?_singleton, Option.map_some, Option.getD_some]
      · simp

/-- `_ensure_append_segment`, when the header of a new segment would fit. -/
theorem ensureAppendSegment_inSync {estimatedBytes records : ℕ}
    (h : InSync H cfg s segments) (hcreate : env.create.Whole)
    (hfits : s.activeSegmentIndex + 1 < directoryLimit →
      Fits cfg.maxFrameBytes (utf8 (s.nextHeader env.createdAtUtc.text).toJson.dumps))
    (heq : s.ensureAppendSegment H cfg env estimatedBytes records = (next, result)) :
    ∃ segments', Leads H cfg s next segments segments' ∧
      recordsOf segments' = recordsOf segments ∧
      (result = .ok () → next.Settled ∧ segments' ≠ []) := by
  unfold Store.ensureAppendSegment at heq
  split at heq
  · exact createSegment_inSync h hcreate hfits heq
  next hstays =>
    cases heq
    refine ⟨segments, .refl h, rfl, fun _ => ⟨h.settled, ?_⟩⟩
    rintro rfl
    refine hstays (decide_eq_true (Or.inl ?_))
    rw [h.index]
    rfl

theorem lastSize_appendBytes (hindex : s.disk.segments.length = s.activeSegmentIndex)
    (hne : s.disk.segments ≠ []) (bytes : Bytes) :
    (s.appendBytes bytes).disk.lastSize = s.disk.lastSize + bytes.length := by
  obtain ⟨init, last, hsegments⟩ := (eq_nil_or_concat' _).resolve_left hne
  have hinit : init.length = s.activeSegmentIndex - 1 := by
    rw [← hindex, hsegments, length_append, length_singleton]
    omega
  have hmodified : s.disk.segments.modify (s.activeSegmentIndex - 1) (· ++ bytes) =
      init ++ [last ++ bytes] := by
    rw [← hinit, hsegments]
    exact modifyTailIdx_add _ 0 _ _
  unfold Disk.lastSize Store.appendBytes
  rw [hmodified, hsegments, List.getLast?_append_of_ne_nil _ (cons_ne_nil _ _),
    List.getLast?_append_of_ne_nil _ (cons_ne_nil _ _)]
  exact length_append

theorem appendBytes_nil (s : Store) : s.appendBytes [] = s := by
  have hid : (fun bytes : Bytes => bytes ++ []) = id := funext append_nil
  unfold Store.appendBytes
  rw [hid, modify_id]

theorem recordBytes_length_pos {H : Digests} {journalId : String} {pos : Position}
    {records : List Stored} (h : records ≠ []) :
    0 < (recordBytes H journalId pos records).length := by
  obtain ⟨r, rest, rfl⟩ := exists_cons_of_ne_nil h
  rw [recordBytes, payloads, flatMap_cons, length_append, length_frame]
  omega

/-- How an append counts: its records are there and were reported, are there although it
failed, or are not there. -/
inductive Outcome where
  | reported
  | written
  | lost
deriving DecidableEq, Repr

/-- The outcome of an append that ended so. -/
def outcomeOf (env : AppendEnv) : Except WriteError (List ℕ) → Outcome
  | .ok _ => .reported
  | .error .writeFailed => if env.write = .notSynced then .written else .lost
  | .error _ => .lost

theorem outcomeOf_error (hne : err ≠ .writeFailed) : outcomeOf env (.error err) = .lost := by
  cases err with
  | writeFailed => exact absurd rfl hne
  | _ => rfl

/-- The batch is written, in each way that can end. -/
theorem writeBatch_inSync {init : List Segment} {segment : Segment} {batch : List EncodedEvent}
    {records : List Stored} {result : Except WriteError (List ℕ)}
    (h : InSync H cfg s (init ++ [segment])) (hwrite : env.write.Whole)
    (hbatch : Encodes H cfg s.journalId s.position batch records) (hrecords : records ≠ [])
    (heq : s.writeBatch env batch = (next, result)) :
    ∃ segments', Leads H cfg s next (init ++ [segment]) segments' ∧
      recordsOf segments' = recordsOf (init ++ [segment]) ++
        (if outcomeOf env result = .lost then [] else records) ∧
      (∀ seqs, result = .ok seqs → next.Settled) := by
  have hindex : s.activeSegmentIndex - 1 = init.length := by
    rw [h.index, length_append, length_singleton]
    omega
  have hne : s.disk.segments ≠ [] := by
    rw [h.intact.files]
    intro hnil
    have hlength := congrArg List.length hnil
    rw [length_files, length_append, length_singleton, length_nil] at hlength
    omega
  have hfits := hbatch.fits
  have hframes := hbatch.frames
  rw [h.position] at hfits hframes
  have hintact : Intact H cfg s.journalId (s.appendBytes (batch.flatMap EncodedEvent.frame)).disk
      (init ++ [⟨segment.createdAtUtc, segment.records ++ records⟩]) := by
    have hadded := intact_records h.intact hfits hframes
    rw [← hindex] at hadded
    exact hadded
  have hgrows : Grows (init ++ [segment])
      (init ++ [⟨segment.createdAtUtc, segment.records ++ records⟩]) :=
      Grows.refl.records records
  have hsize := lastSize_appendBytes h.settled.1 hne (batch.flatMap EncodedEvent.frame)
  have hunchanged : ∀ err : WriteError, (s, Except.error err) = (next, result) →
      outcomeOf env result = .lost →
      ∃ segments', Leads H cfg s next (init ++ [segment]) segments' ∧
        recordsOf segments' = recordsOf (init ++ [segment]) ++
          (if outcomeOf env result = .lost then [] else records) ∧
        (∀ seqs, result = .ok seqs → next.Settled) := by
    intro err heq hlost
    cases heq
    refine ⟨_, .refl h, ?_, fun seqs herr => by cases herr⟩
    rw [if_pos hlost, append_nil]
  unfold Store.writeBatch at heq
  simp only at heq
  split at heq
  · exact hunchanged _ heq (by cases heq; rfl)
  cases henv : env.write with
  | failed written =>
    rw [henv] at heq hwrite
    have hnothing : s.appendBytes ((batch.flatMap EncodedEvent.frame).take written) = s := by
      rw [show written = 0 from hwrite, take_zero, appendBytes_nil]
    simp only [hnothing] at heq
    refine hunchanged _ heq ?_
    cases heq
    simp [outcomeOf, henv]
  | notSynced =>
    rw [henv] at heq
    cases heq
    refine ⟨_, ⟨hgrows, ⟨rfl, rfl, rfl⟩, hintact, fun hsettled => ?_⟩, ?_,
      fun seqs herr => by cases herr⟩
    · -- the batch takes room that the counters do not know of
      have hsame : _ = s.activeSegmentSize := hsettled.2
      have hroom := @recordBytes_length_pos H s.journalId s.position _ hrecords
      rw [hsize, h.settled.2, hbatch.frames] at hsame
      omega
    · rw [recordsOf_records, if_neg (by simp [outcomeOf, henv])]
  | done =>
    rw [henv] at heq
    cases heq
    have hsettled : ((s.appendBytes (batch.flatMap EncodedEvent.frame)).advance
        batch).Settled := by
      constructor
      · show (s.disk.segments.modify _ _).length = s.activeSegmentIndex
        rw [length_modify, h.settled.1]
      · show (s.appendBytes (batch.flatMap EncodedEvent.frame)).disk.lastSize = _
        rw [hsize, h.settled.2]
        rfl
    refine ⟨_, ⟨hgrows, ⟨rfl, rfl, rfl⟩, hintact, fun _ => ⟨hintact, hsettled, ?_, ?_⟩⟩, ?_,
      fun _ _ => hsettled⟩
    · have hseq := expectedSeq_endOf H s.journalId records s.position
      rw [← hbatch.length] at hseq
      rw [recordsOf_records, endOf_append]
      show _ = endOf H s.journalId (endOf H s.journalId origin (recordsOf (init ++ [segment]))) _
      rw [← h.position]
      exact congrArg₂ Position.mk hseq.symm hbatch.lastHash
    · have hcount := h.count
      rw [List.getLast?_append_of_ne_nil _ (cons_ne_nil _ _)] at hcount ⊢
      show s.activeSegmentRecordCount + batch.length = (segment.records ++ records).length
      rw [hcount, hbatch.length, length_append]
      rfl
    · rw [recordsOf_records, if_neg (by simp [outcomeOf])]

theorem encodeEvent_error {event : Event}
    (h : encodeEvent H cfg event = .error err) : err ≠ .writeFailed := by
  rintro rfl
  unfold encodeEvent frameOf at h
  repeat' split at h
  all_goals try cases h
  all_goals
    next hframe =>
      split at hframe <;> cases hframe

theorem encodeBatch_error {journalId : String} {ts : ℕ → Timestamp} {entries : List Entry}
    {pos : Position} {i : ℕ}
    (h : encodeBatch H cfg journalId ts pos i entries = .error err) : err ≠ .writeFailed := by
  induction entries generalizing pos i with
  | nil => cases h
  | cons entry rest ih =>
    obtain ⟨kind, payload⟩ := entry
    rw [encodeBatch] at h
    split at h
    · next encoded hencoded =>
      cases h
      exact encodeEvent_error hencoded
    · next encoded hencoded =>
      cases hrest : encodeBatch H cfg journalId ts ⟨pos.expectedSeq + 1, encoded.hash⟩ (i + 1)
          rest with
      | error other =>
        rw [hrest] at h
        cases h
        exact ih hrest
      | ok more =>
        rw [hrest] at h
        cases h

theorem ensureAppendSegment_error {estimatedBytes records : ℕ}
    (h : s.ensureAppendSegment H cfg env estimatedBytes records = (next, .error err)) :
    err ≠ .writeFailed := by
  rintro rfl
  unfold Store.ensureAppendSegment Store.createSegment at h
  repeat' split at h
  all_goals cases h

/-- **An append on a store in sync.**  Its records are in the files exactly when it was
reported, or its write was complete and only `fsync` failed. -/
theorem appendBatch_inSync {entries : List Entry} {result : Except WriteError (List ℕ)}
    (henabled : cfg.enabled = true) (h : InSync H cfg s segments)
    (hplain : ∀ entry ∈ entries, entry.2.normalize.IsPlain) (hcreate : env.create.Whole)
    (hwrite : env.write.Whole) (heq : s.appendBatch H cfg env entries = (next, result)) :
    ∃ segments' records, Leads H cfg s next segments segments' ∧
      recordsOf segments' = recordsOf segments ++ records ∧
      records.map Stored.line =
        (if outcomeOf env result = .lost then [] else linesOf env.ts entries) ∧
      (∀ seqs, result = .ok seqs → next.Settled) := by
  unfold Store.appendBatch at heq
  rw [henabled, if_neg (by decide)] at heq
  split at heq
  next hempty =>
    cases heq
    refine ⟨segments, [], .refl h, (append_nil _).symm, ?_, fun _ _ => h.settled⟩
    rw [hempty, if_neg (by simp [outcomeOf])]
    rfl
  next hentries =>
    cases hbatch : encodeBatch H cfg s.journalId env.ts s.position 0 entries with
    | error err =>
      rw [hbatch] at heq
      cases heq
      refine ⟨segments, [], .refl h, (append_nil _).symm, ?_, fun _ herr => by cases herr⟩
      rw [if_pos (outcomeOf_error (encodeBatch_error hbatch))]
      rfl
    | ok batch =>
      rw [hbatch] at heq
      obtain ⟨records, hlines, hencodes⟩ := encodeBatch_plain hplain hbatch
      have hrecords : records ≠ [] := by
        rintro rfl
        obtain ⟨⟨kind, payload⟩, rest, rfl⟩ := exists_cons_of_ne_nil hentries
        cases hlines
      have hheader : s.activeSegmentIndex + 1 < directoryLimit →
          Fits cfg.maxFrameBytes (utf8 (s.nextHeader env.createdAtUtc.text).toJson.dumps) := by
        intro hlimit
        obtain ⟨r, rest, rfl⟩ := exists_cons_of_ne_nil hrecords
        have hfirst := hencodes.fits _ mem_cons_self
        have hsize := @header_size_le H s.journalId (s.activeSegmentIndex + 1) s.position
          env.createdAtUtc [] r hlimit
        exact ⟨utf8_dumps_ne_nil (cons_ne_nil _ _), le_trans hsize hfirst.length_le,
          lt_of_le_of_lt hsize hfirst.length_lt⟩
      cases hensure : s.ensureAppendSegment H cfg env
          (batch.flatMap EncodedEvent.frame).length batch.length with
      | mk ready created =>
        obtain ⟨segments₁, hleads, hsame, hready⟩ :=
          ensureAppendSegment_inSync h hcreate hheader hensure
        cases created with
        | error err =>
          simp only [hensure] at heq
          cases heq
          refine ⟨segments₁, [], hleads, by rw [hsame, append_nil], ?_,
            fun _ herr => by cases herr⟩
          rw [if_pos (outcomeOf_error (ensureAppendSegment_error hensure))]
          rfl
        | ok _ =>
          simp only [hensure] at heq
          obtain ⟨hsettled, hne⟩ := hready rfl
          obtain ⟨init, segment, rfl⟩ := (eq_nil_or_concat' segments₁).resolve_left hne
          have hsync := hleads.inSync hsettled
          have hposition : ready.position = s.position := by
            rw [hsync.position, hsame, hleads.documents.journalId, h.position]
          rw [← hposition, ← hleads.documents.journalId] at hencodes
          obtain ⟨segments', hwritten, hadded, hdone⟩ :=
            writeBatch_inSync hsync hwrite hencodes hrecords heq
          refine ⟨segments', _, hleads.trans hwritten, by rw [hadded, hsame], ?_, hdone⟩
          split
          · rfl
          · exact hlines

end InSyncOperations

end ChronosHFT.Journal
