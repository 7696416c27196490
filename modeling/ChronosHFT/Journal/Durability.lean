import ChronosHFT.Journal.Appending
import ChronosHFT.Lib.Run

/-!
# What a journal keeps

Two results on runs of a journal that starts empty.

**Appends that all succeed** (`appends_readBack_iff`).  What was appended is read back, in
its order, numbered from one and with its hash chain, exactly when every payload is plain:
an enumeration member with a tuple, or with anything else that is not a JSON value, is
written as something that is read differently.

**Appends that may fail** (`run_durable`).  A failed append may leave bytes behind while
the counters stay where they were, and the next append then repeats the sequence
number.  As long as nothing is appended before the files have been read again, and nothing
is written in part, every start finds the records of the appends that were reported, and
those of appends whose write was complete.
-/

namespace ChronosHFT.Journal

open List Frames

/-- The journal of an empty directory. -/
def Store.fresh (journalId : String) : Store := { journalId := journalId }

theorem reopen_empty (H : Digests) (cfg : Config) (journalId : String) :
    Store.reopen H cfg journalId {} = .ok (Store.fresh journalId) := by
  unfold Store.reopen
  split
  · rfl
  · rfl

/-- A new start reads these lines. -/
def ReadsBack (H : Digests) (cfg : Config) (s : Store) (said : List Line) : Prop :=
  ∃ reopened read, Store.reopen H cfg s.journalId s.disk = .ok reopened ∧
    reopened.iterRecords H cfg = .ok read ∧ ReadBack H s.journalId origin said read

/-! ## Reopening intact files -/

/-- The checkpoint the head names can be resolved, and its marker is the record after its
anchor. -/
structure HeadResolves (H : Digests) (journalId : String) (disk : Disk) (segments : List Segment)
    (pointer checkpoint : Json) (anchor : Anchor) : Prop where
  loads : loadCheckpoint H journalId disk = .ok (some (pointer, checkpoint))
  anchor_eq : anchorOf? checkpoint = some anchor
  resolves : Resolves H journalId segments anchor
  marked : ∃ marker rest, (docs H journalId origin (recordsOf segments)).drop anchor.seq =
    marker :: rest ∧ isMarkerOf pointer checkpoint marker = true

/-- There is no checkpoint, or it can be resolved. -/
def HeadOk (H : Digests) (journalId : String) (disk : Disk) (segments : List Segment) : Prop :=
  disk.head = none ∨ ∃ pointer checkpoint anchor,
    HeadResolves H journalId disk segments pointer checkpoint anchor

section Reopening

variable {H : Digests} {cfg : Config} {journalId : String} {disk : Disk}
  {segments : List Segment}

theorem getLast?_infos (init : List Segment) (segment : Segment) (index : ℕ) (pos : Position) :
    (infos H journalId index pos (init ++ [segment])).getLast? =
      some
        { index := index + init.length
          startSeq := (endOf H journalId pos (recordsOf init)).expectedSeq
          recordCount := segment.records.length
          size := (segment.file H journalId (index + init.length)
            (endOf H journalId pos (recordsOf init))).length
          lastHash := (endOf H journalId (endOf H journalId pos (recordsOf init))
            segment.records).previousHash } := by
  rw [infos_append]
  exact List.getLast?_concat

/-- The scan of a start accepts intact files. -/
theorem scanTail_intact (h : Intact H cfg journalId disk segments)
    (hhead : HeadOk H journalId disk segments) :
    ∃ scan, scanTail H cfg journalId disk = .ok scan ∧
      scan.position = endOf H journalId origin (recordsOf segments) ∧
      scan.segments.getLast? = (infos H journalId 1 origin segments).getLast? := by
  unfold scanTail
  rcases hhead with hnone |
    ⟨pointer, checkpoint, anchor, hloads, hanchor, hresolves, marker, rest,
    hdrop, hmarker⟩
  · obtain ⟨scan, hscan, hposition, hlast, -⟩ := scanSegments_files h.readable (Or.inl rfl)
    have hload : loadCheckpoint H journalId disk = .ok none := by
      unfold loadCheckpoint
      rw [hnone]
    refine ⟨scan, ?_, hposition, hlast⟩
    rw [hload, h.files]
    exact hscan
  · obtain ⟨scan, hscan, hposition, hlast, hcollected⟩ :=
      scanSegments_files h.readable (Or.inr hresolves)
    refine ⟨scan, ?_, hposition, hlast⟩
    simp only [hloads, hanchor, h.files, hscan]
    rw [hcollected, hdrop]
    exact if_pos hmarker

/-- **A start on intact files** succeeds and is in sync with them. -/
theorem reopen_intact (henabled : cfg.enabled = true) (h : Intact H cfg journalId disk segments)
    (hhead : HeadOk H journalId disk segments) :
    ∃ s, Store.reopen H cfg journalId disk = .ok s ∧ s.journalId = journalId ∧ s.disk = disk ∧
      InSync H cfg s segments := by
  obtain ⟨scan, hscan, hposition, hlast⟩ := scanTail_intact h hhead
  unfold Store.reopen
  rw [henabled, if_neg (by decide), hscan]
  refine ⟨_, rfl, rfl, rfl, h, ?_, hposition, ?_⟩
  · rcases eq_nil_or_concat' segments with rfl | ⟨init, segment, rfl⟩
    · have hfiles : disk.segments = [] := h.files
      simp only [infos, List.getLast?_nil] at hlast
      constructor
      · simp only [hfiles, hlast, length_nil, Option.map_none, Option.getD_none]
      · simp only [Disk.lastSize, hfiles, hlast, List.getLast?_nil, Option.map_none,
          Option.getD_none]
    · rw [getLast?_infos] at hlast
      constructor
      · simp only [h.files, length_files, length_append, length_singleton, hlast,
          Option.map_some, Option.getD_some]
        omega
      · simp only [Disk.lastSize, h.files, files_append, hlast, Option.map_some,
          Option.getD_some]
        rw [show files H journalId (1 + init.length) (endOf H journalId origin (recordsOf init))
          [segment] = [segment.file H journalId (1 + init.length)
            (endOf H journalId origin (recordsOf init))] from rfl, List.getLast?_concat]
        rfl
  · rcases eq_nil_or_concat' segments with rfl | ⟨init, segment, rfl⟩
    · simp only [infos, List.getLast?_nil] at hlast
      simp only [hlast, Option.map_none, List.getLast?_nil]
    · rw [getLast?_infos] at hlast
      simp only [hlast, Option.map_some, List.getLast?_concat]

/-- **The lines of intact files are read back.** -/
theorem readsBack_intact {s : Store} (henabled : cfg.enabled = true)
    (h : Intact H cfg s.journalId s.disk segments)
    (hhead : HeadOk H s.journalId s.disk segments) :
    ReadsBack H cfg s ((recordsOf segments).map Stored.line) := by
  obtain ⟨reopened, hreopen, hidentity, hdisk, -⟩ := reopen_intact henabled h hhead
  refine ⟨reopened, _, hreopen, ?_, readBack_docs H s.journalId _ _⟩
  unfold Store.iterRecords Journal.iterRecords
  rw [henabled, if_neg (by decide), hidentity, hdisk, h.files]
  exact iterLoop_files Nat.one_pos h.readable

end Reopening

/-! ## Appends that succeed -/

section Successful

variable {H : Digests} {cfg : Config}

/-- One call of `append_batch` that has to succeed. -/
def appendCall (H : Digests) (cfg : Config) (s : Store) (call : AppendEnv × List Entry) :
    Option Store :=
  match s.appendBatch H cfg call.1 call.2 with
  | (next, .ok _) => some next
  | (_, .error _) => none

variable {next s t : Store} {call : AppendEnv × List Entry} {env : AppendEnv}
  {batch : List EncodedEvent} {entries : List Entry} {calls : List (AppendEnv × List Entry)}

theorem appendCall_eq_some : appendCall H cfg s call = some next ↔
      ∃ seqs, s.appendBatch H cfg call.1 call.2 = (next, .ok seqs) := by
  unfold appendCall
  constructor
  · intro h
    cases hcall : s.appendBatch H cfg call.1 call.2 with
    | mk after result =>
      rw [hcall] at h
      cases result with
      | error err => cases h
      | ok seqs =>
        cases h
        exact ⟨seqs, rfl⟩
  · rintro ⟨seqs, h⟩
    rw [h]

/-- The environment without failures of files. -/
def AppendEnv.sound (env : AppendEnv) : AppendEnv := { env with create := .done, write := .done }

theorem createSegment_of_ok
    (h : s.createSegment H env = (next, .ok ())) :
    s.createSegment H env.sound = (next, .ok ()) := by
  unfold Store.createSegment at h ⊢
  cases hcreate : env.create with
  | done =>
    rw [hcreate] at h
    exact h
  | notCreated | failed | notSynced =>
    rw [hcreate] at h
    simp only at h
    repeat' split at h
    all_goals cases h

theorem ensureAppendSegment_of_ok {estimatedBytes records : ℕ}
    (h : s.ensureAppendSegment H cfg env estimatedBytes records = (next, .ok ())) :
    s.ensureAppendSegment H cfg env.sound estimatedBytes records = (next, .ok ()) := by
  unfold Store.ensureAppendSegment at h ⊢
  split at h
  · next hrotates =>
    rw [if_pos hrotates]
    exact createSegment_of_ok h
  · next hstays =>
    rw [if_neg hstays]
    exact h

theorem writeBatch_of_ok {seqs : List ℕ} (h : s.writeBatch env batch = (next, .ok seqs)) :
    s.writeBatch env.sound batch = (next, .ok seqs) := by
  unfold Store.writeBatch at h ⊢
  cases hwrite : env.write with
  | done =>
    rw [hwrite] at h
    exact h
  | failed | notSynced =>
    rw [hwrite] at h
    simp only at h
    split at h <;> cases h

/-- An append that succeeded met no failure. -/
theorem appendBatch_of_ok {seqs : List ℕ}
    (h : s.appendBatch H cfg env entries = (next, .ok seqs)) :
    s.appendBatch H cfg env.sound entries = (next, .ok seqs) := by
  unfold Store.appendBatch at h ⊢
  split at h
  · next hoff =>
    rw [if_pos hoff]
    exact h
  next hon =>
    rw [if_neg hon]
    split at h
    · next hempty =>
      rw [if_pos hempty]
      exact h
    next hentries =>
      rw [if_neg hentries]
      rw [show env.sound.ts = env.ts from rfl]
      cases hbatch : encodeBatch H cfg s.journalId env.ts s.position 0 entries with
      | error err =>
        rw [hbatch] at h
        cases h
      | ok batch =>
        rw [hbatch] at h
        simp only at h ⊢
        cases hensure : s.ensureAppendSegment H cfg env
            (batch.flatMap EncodedEvent.frame).length batch.length with
        | mk ready created =>
          rw [hensure] at h
          cases created with
          | error err => cases h
          | ok _ =>
            rw [ensureAppendSegment_of_ok hensure]
            exact writeBatch_of_ok h

/-- The lines of calls. -/
def linesOfCalls (calls : List (AppendEnv × List Entry)) : List Line :=
  calls.flatMap fun call => linesOf call.1.ts call.2

/-- One successful call on a store in sync. -/
theorem appendCall_inSync {segments : List Segment} (henabled : cfg.enabled = true)
    (h : InSync H cfg s segments) (hplain : ∀ entry ∈ call.2, entry.2.normalize.IsPlain)
    (hcall : appendCall H cfg s call = some next) :
    ∃ segments', InSync H cfg next segments' ∧ SameDocuments s next ∧
      (recordsOf segments').map Stored.line =
        (recordsOf segments).map Stored.line ++ linesOf call.1.ts call.2 := by
  obtain ⟨seqs, hresult⟩ := appendCall_eq_some.mp hcall
  obtain ⟨segments', records, hleads, hrecords, hlines, hsettled⟩ :=
    appendBatch_inSync henabled h hplain (show call.1.sound.create.Whole from trivial)
      (show call.1.sound.write.Whole from trivial) (appendBatch_of_ok hresult)
  refine ⟨segments', hleads.inSync (hsettled seqs rfl), hleads.documents, ?_⟩
  rw [hrecords, map_append, hlines, if_neg (by simp [outcomeOf])]
  rfl

/-- A run of successful calls with plain payloads. -/
theorem appendCalls_inSync
    {segments : List Segment} (henabled : cfg.enabled = true) (h : InSync H cfg s segments)
    (hplain : ∀ call ∈ calls, ∀ entry ∈ call.2, entry.2.normalize.IsPlain)
    (hrun : Run.exec (appendCall H cfg) s calls = some t) :
    ∃ segments', InSync H cfg t segments' ∧ SameDocuments s t ∧
      (recordsOf segments').map Stored.line =
        (recordsOf segments).map Stored.line ++ linesOfCalls calls := by
  induction calls generalizing s segments with
  | nil =>
    cases hrun
    exact ⟨segments, h, SameDocuments.refl _, (append_nil _).symm⟩
  | cons call rest ih =>
    obtain ⟨next, hcall, hrest⟩ := Run.exec_cons_eq_some.mp hrun
    obtain ⟨segments₁, hnext, hsame, hlines⟩ :=
      appendCall_inSync henabled h (hplain call mem_cons_self) hcall
    obtain ⟨segments', ht, hsame', hlines'⟩ :=
      ih hnext (fun c hc => hplain c (mem_cons_of_mem _ hc)) hrest
    refine ⟨segments', ht, hsame.trans hsame', ?_⟩
    rw [hlines', hlines, append_assoc]
    rfl

/-- A journal that is switched off never changes. -/
theorem appendCalls_disabled
    (hdisabled : cfg.enabled = false) (hrun : Run.exec (appendCall H cfg) s calls = some t) :
    t = s := by
  induction calls with
  | nil =>
    cases hrun
    rfl
  | cons call rest ih =>
    obtain ⟨next, hcall, hrest⟩ := Run.exec_cons_eq_some.mp hrun
    have hsame : next = s := by
      unfold appendCall Store.appendBatch at hcall
      rw [if_pos hdisabled] at hcall
      exact (Option.some.inj hcall).symm
    rw [hsame] at hrest
    exact ih hrest

theorem inSync_fresh (H : Digests) (cfg : Config) (journalId : String) :
    InSync H cfg (Store.fresh journalId) [] :=
  ⟨⟨rfl, trivial⟩, ⟨rfl, rfl⟩, rfl, rfl⟩

theorem mem_linesFrom {ts : ℕ → Timestamp} {i : ℕ} {entry : Entry}
    (h : entry ∈ entries) : ∃ line ∈ linesFrom ts i entries, line.2.2 = entry.2.normalize := by
  induction entries generalizing i with
  | nil => cases h
  | cons first rest ih =>
    rcases mem_cons.mp h with rfl | hrest
    · exact ⟨_, mem_cons_self, rfl⟩
    · obtain ⟨line, hline, heq⟩ := @ih (i + 1) hrest
      exact ⟨line, mem_cons_of_mem _ hline, heq⟩

/-- The journal with a new segment. -/
def Store.withSegment (H : Digests) (s : Store) (createdAtUtc : String) : Store :=
  let content := Store.segmentStart H (s.nextHeader createdAtUtc)
  { s with
      activeSegmentIndex := s.activeSegmentIndex + 1
      activeSegmentRecordCount := 0
      activeSegmentSize := content.length
      disk := { s.disk with segments := s.disk.segments ++ [content] } }

section Single

variable {s : Store} {env : AppendEnv} {entries : List Entry} {batch : List EncodedEvent}

theorem createSegment_done (hsettled : s.Settled)
    (hroom : s.activeSegmentIndex + 1 < directoryLimit)
    (hsound : env.createReserve = true ∧ env.create = .done) :
    s.createSegment H env = (s.withSegment H env.createdAtUtc.text, .ok ()) := by
  have hthere : ¬s.activeSegmentIndex < s.disk.segments.length := by
    rw [hsettled.1]
    exact Nat.lt_irrefl _
  unfold Store.createSegment
  rw [hsound.1, hsound.2, if_neg (by decide), if_neg hthere, if_neg (Nat.not_le.mpr hroom)]
  rfl

theorem settled_withSegment (h : s.Settled) (createdAtUtc : String) :
    (s.withSegment H createdAtUtc).Settled := by
  constructor
  · exact length_append.trans (congrArg (· + 1) h.1)
  · unfold Disk.lastSize Store.withSegment
    rw [List.getLast?_concat]
    rfl

/-- A batch that needs a new segment. -/
theorem appendBatch_rotated (henabled : cfg.enabled = true) (hentries : entries ≠ [])
    (hbatch : encodeBatch H cfg s.journalId env.ts s.position 0 entries = .ok batch)
    (hrotates : s.rotates cfg (batch.flatMap EncodedEvent.frame).length batch.length = true)
    (hsettled : s.Settled) (hroom : s.activeSegmentIndex + 1 < directoryLimit)
    (hsound : env.createReserve = true ∧ env.create = .done) :
    s.appendBatch H cfg env entries =
      (s.withSegment H env.createdAtUtc.text).writeBatch env batch := by
  unfold Store.appendBatch Store.ensureAppendSegment
  rw [henabled, if_neg (by decide), if_neg hentries, hbatch]
  simp only [if_pos hrotates, createSegment_done hsettled hroom hsound]

/-- A batch that needs none. -/
theorem appendBatch_stays (henabled : cfg.enabled = true) (hentries : entries ≠ [])
    (hbatch : encodeBatch H cfg s.journalId env.ts s.position 0 entries = .ok batch)
    (hstays : s.rotates cfg (batch.flatMap EncodedEvent.frame).length batch.length = false) :
    s.appendBatch H cfg env entries = s.writeBatch env batch := by
  unfold Store.appendBatch Store.ensureAppendSegment
  rw [henabled, if_neg (by decide), if_neg hentries, hbatch]
  simp only [hstays]
  rfl

theorem writeBatch_done (hreserve : env.reserve = true) (hwrite : env.write = .done) :
    s.writeBatch env batch = ((s.appendBytes (batch.flatMap EncodedEvent.frame)).advance batch,
      .ok (batch.map fun encoded => encoded.event.seq)) := by
  unfold Store.writeBatch
  rw [hreserve, hwrite, if_neg (by decide)]

end Single

/-- The journal with the header of its first segment, and bytes the counters do not know of. -/
def Store.opened (H : Digests) (journalId createdAtUtc : String) (bytes : Bytes) : Store :=
  let content := Store.segmentStart H ((Store.fresh journalId).nextHeader createdAtUtc)
  { journalId := journalId, activeSegmentIndex := 1, activeSegmentSize := content.length
    disk := { segments := [content ++ bytes] } }

theorem appendBatch_fresh (henabled : cfg.enabled = true) (hentries : entries ≠ [])
    (hsound : env.createReserve = true ∧ env.create = .done)
    (hbatch : encodeBatch H cfg journalId env.ts origin 0 entries = .ok batch) :
    (Store.fresh journalId).appendBatch H cfg env entries =
      (Store.opened H journalId env.createdAtUtc.text []).writeBatch env batch := by
  refine (appendBatch_rotated henabled hentries hbatch (decide_eq_true (Or.inl rfl)) ⟨rfl, rfl⟩
    (show 0 + 1 < directoryLimit by decide) hsound).trans ?_
  simp only [Store.opened, append_nil]
  rfl

theorem writeBatch_opened_notSynced {createdAtUtc : String} {bytes : Bytes}
    (hreserve : env.reserve = true) (hwrite : env.write = .notSynced) :
    (Store.opened H journalId createdAtUtc bytes).writeBatch env batch =
      (Store.opened H journalId createdAtUtc (bytes ++ batch.flatMap EncodedEvent.frame),
        .error .writeFailed) := by
  unfold Store.writeBatch Store.appendBytes Store.opened
  rw [hreserve, hwrite, if_neg (by decide)]
  simp

theorem writeBatch_opened_done {createdAtUtc : String} {bytes : Bytes}
    (hreserve : env.reserve = true) (hwrite : env.write = .done) :
    (Store.opened H journalId createdAtUtc bytes).writeBatch env batch =
      ((Store.opened H journalId createdAtUtc (bytes ++
        batch.flatMap EncodedEvent.frame)).advance
        batch,
        .ok (batch.map fun encoded => encoded.event.seq)) := by
  unfold Store.writeBatch Store.appendBytes Store.opened
  rw [hreserve, hwrite, if_neg (by decide)]
  simp

/-- **Appends that all succeed** are read back exactly when every payload is plain (and the
journal is switched on, if there is anything to read). -/
theorem appends_readBack_iff {journalId : String} {calls : List (AppendEnv × List Entry)}
    {s : Store}
    (hrun : Run.exec (appendCall H cfg) (Store.fresh journalId) calls = some s) :
    ReadsBack H cfg s (linesOfCalls calls) ↔
      (cfg.enabled = true ∨ linesOfCalls calls = []) ∧
        ∀ call ∈ calls, ∀ entry ∈ call.2, entry.2.normalize.IsPlain := by
  constructor
  · rintro ⟨reopened, read, hreopen, hread, hback⟩
    constructor
    · cases henabled : cfg.enabled with
      | true => exact Or.inl rfl
      | false =>
        unfold Store.iterRecords at hread
        rw [if_pos henabled] at hread
        cases hread
        cases hlines : linesOfCalls calls with
        | nil => exact Or.inr rfl
        | cons line rest =>
          rw [hlines] at hback
          obtain ⟨hash, doc, more, hnil, -⟩ := hback
          cases hnil
    · intro call hcall entry hentry
      obtain ⟨line, hline, heq⟩ := mem_linesFrom hentry
      rw [← heq]
      exact plain_of_readBack hback line (mem_flatMap.mpr ⟨call, hcall, hline⟩)
  · rintro ⟨hon, hplain⟩
    cases henabled : cfg.enabled with
    | true =>
      obtain ⟨segments, hsync, hsame, hlines⟩ :=
        appendCalls_inSync henabled (inSync_fresh H cfg journalId) hplain hrun
      have hread := readsBack_intact henabled hsync.intact (Or.inl hsame.head)
      rw [hlines] at hread
      exact hread
    | false =>
      have hnone : linesOfCalls calls = [] := hon.resolve_left (by rw [henabled]; decide)
      rw [hnone, appendCalls_disabled henabled hrun]
      refine ⟨Store.fresh journalId, [], ?_, ?_, rfl⟩
      · exact reopen_empty H cfg journalId
      · unfold Store.iterRecords
        rw [if_pos henabled]

/-- `2026-01-05T12:00:00.000Z`. -/
def noon : Timestamp := ⟨"2026-01-05T12:00:00.000Z", rfl, by decide +kernel⟩

/-- An append at noon that meets no failure. -/
def atNoon : AppendEnv := { ts := fun _ => noon, createdAtUtc := noon }

/-- The start of the engine. -/
def started : List Entry := [("oms_started", .dict [(.str "rpi", .bool true)])]

/-- The start of the engine, as it is stored. -/
def startedRecord : Stored where
  ts := noon.text
  kind := "oms_started"
  payload := [("rpi", .bool true)]
  kind_ne := by decide
  kind_length := by decide
  distinct := by refine ⟨by decide, trivial, trivial⟩

theorem startedRecord_length (H : Digests) (pos : Position) :
    (startedRecord.bytes H "journal" pos).length =
      323 + Json.size (Json.print (.int pos.expectedSeq)) +
        Json.size (Json.printString pos.previousHash) := by
  have hsizes : Json.size (Json.printString "journal") = 9 ∧
      Json.size (Json.printString noon.text) = 26 ∧
      Json.size (Json.printString "oms_started") = 13 ∧
      Json.size (Json.printString (payloadSchemaHead ++ "oms_started")) = 34 ∧
      Json.size (Json.print (Json.obj [("rpi", .bool true)]).sortKeys) = 12 := by decide +kernel
  rw [Stored.length_bytes]
  show 229 + Json.size (Json.printString "journal") +
    Json.size (Json.print (.int pos.expectedSeq)) +
    Json.size (Json.printString noon.text) + Json.size (Json.printString "oms_started") +
    Json.size (Json.printString (payloadSchemaHead ++ "oms_started")) +
    Json.size (Json.print (Json.obj [("rpi", .bool true)]).sortKeys) +
    Json.size (Json.printString pos.previousHash) = _
  omega

theorem started_encodes (H : Digests) {cfg : Config} {ts : ℕ → Timestamp} {pos : Position}
    (hts : ts 0 = noon) (hseq : Json.size (Json.print (.int pos.expectedSeq)) ≤ 20)
    (hhash : pos.previousHash.length ≤ 64) (hmax : 4000 ≤ (cfg.maxFrameBytes : ℕ)) :
    ∃ encoded, encodeBatch H cfg "journal" ts pos 0 started = .ok [encoded] ∧
      encoded.hash = startedRecord.hash H "journal" pos := by
  have hlength := startedRecord_length H pos
  have hprinted := Json.size_printString_le pos.previousHash
  refine ⟨_, encodeBatch_single startedRecord ?_ (by omega) (by omega), rfl⟩
  rw [hts]
  rfl

/-- One record to a segment. -/
def oneRecord : Config := { segmentMaxRecords := 1 }

/-- A journal in sync with a segment for each of its records, all of them with short digests. -/
structure Stands (H : Digests) (s : Store) (n : ℕ) : Prop where
  sync : ∃ segments, InSync H oneRecord s segments
  journalId : s.journalId = "journal"
  nextSeq : s.nextSeq = n + 1
  lastHash : s.lastHash.length ≤ 64
  index : s.activeSegmentIndex = n
  count : 0 < n → 0 < s.activeSegmentRecordCount

theorem stands_fresh (H : Digests) : Stands H (Store.fresh "journal") 0 :=
  ⟨⟨[], inSync_fresh H oneRecord "journal"⟩, rfl, rfl, Nat.zero_le _, rfl, fun h => h⟩

/-- The digits of a small number. -/
theorem size_print_small {n : ℕ} (hn : n < 10) : Json.size (Json.print (.int n)) = 1 := by
  have hdigits : ∀ n < 10, Json.size (Json.print (.int ((n : ℕ) : ℤ))) = 1 := by decide +kernel
  exact hdigits n hn

section Stands

variable {H : Digests} {s : Store} {n : ℕ}

/-- The next record needs a new segment, and there is room for it. -/
theorem Stands.rotates (h : Stands H s n) (hn : n < 9) (bytes : ℕ) :
    s.rotates oneRecord bytes 1 = true ∧ s.activeSegmentIndex + 1 < directoryLimit := by
  rw [h.index]
  refine ⟨decide_eq_true ?_, lt_trans (Nat.succ_lt_succ hn) (by decide)⟩
  rcases Nat.eq_zero_or_pos n with rfl | hpos
  · exact Or.inl h.index
  have hcount := h.count hpos
  refine Or.inr ⟨hcount, Or.inl ?_⟩
  show 1 < s.activeSegmentRecordCount + 1
  omega

/-- One record more, in a segment of its own. -/
theorem Stands.append (h : Stands H s n) (hn : n < 9) {entry : Entry} {encoded : EncodedEvent}
    (hplain : entry.2.normalize.IsPlain)
    (hbatch : encodeBatch H oneRecord s.journalId atNoon.ts s.position 0 [entry] = .ok [encoded])
    (hhash : encoded.hash.length = 64) :
    ∃ t, s.appendBatch H oneRecord atNoon [entry] = (t, .ok [encoded.event.seq]) ∧
      Stands H t (n + 1) ∧ SameDocuments s t := by
  obtain ⟨segments, hsync⟩ := h.sync
  obtain ⟨hrotates, hroom⟩ := h.rotates hn (List.flatMap EncodedEvent.frame [encoded]).length
  have happend : s.appendBatch H oneRecord atNoon [entry] = (_, .ok [encoded.event.seq]) :=
    (appendBatch_rotated rfl (cons_ne_nil _ _) hbatch hrotates hsync.settled hroom
      ⟨rfl, rfl⟩).trans (writeBatch_done rfl rfl)
  have hcall : appendCall H oneRecord s (atNoon, [entry]) = some _ :=
    appendCall_eq_some.mpr ⟨_, happend⟩
  obtain ⟨segments', hsync', hsame, -⟩ := appendCall_inSync rfl hsync
    (fun other hother => by rwa [mem_singleton.mp hother]) hcall
  refine ⟨_, happend, ⟨⟨segments', hsync'⟩, h.journalId, ?_, hhash.le, ?_, fun _ => Nat.one_pos⟩,
    hsame⟩
  · exact congrArg (· + 1) h.nextSeq
  · exact congrArg (· + 1) h.index

theorem Stands.encodes (h : Stands H s n) (hn : n < 9) :
    ∃ encoded, encodeBatch H oneRecord s.journalId atNoon.ts s.position 0 started =
      .ok [encoded] ∧
      encoded.hash.length = 64 := by
  have hsize : Json.size (Json.print (.int s.position.expectedSeq)) ≤ 20 := by
    show Json.size (Json.print (.int s.nextSeq)) ≤ 20
    rw [h.nextSeq, size_print_small (Nat.succ_lt_succ hn)]
    decide
  obtain ⟨encoded, hbatch, hhash⟩ :=
    @started_encodes H oneRecord atNoon.ts s.position rfl hsize h.lastHash (by decide)
  rw [← h.journalId] at hbatch
  exact ⟨encoded, hbatch, by rw [hhash, Stored.length_hash]⟩

theorem Stands.started (h : Stands H s n) (hn : n < 9) :
    ∃ t seqs, s.appendBatch H oneRecord atNoon started = (t, .ok seqs) ∧ Stands H t (n + 1) ∧
      SameDocuments s t := by
  obtain ⟨encoded, hbatch, hhash⟩ := h.encodes hn
  obtain ⟨t, happend, hstands, hsame⟩ := h.append hn (by decide) hbatch hhash
  exact ⟨t, _, happend, hstands, hsame⟩

end Stands

theorem appends_readBack_iff_started :
    ∃ s, Run.exec (appendCall hashlib oneRecord) (Store.fresh "journal")
        [(atNoon, started), (atNoon, started), (atNoon, started)] = some s ∧
      s.activeSegmentIndex = 3 ∧ ReadsBack hashlib oneRecord s
        (linesOfCalls [(atNoon, started), (atNoon, started), (atNoon, started)]) := by
  obtain ⟨s₁, _, hfirst, hs₁, -⟩ := (stands_fresh hashlib).started (by decide)
  obtain ⟨s₂, _, hsecond, hs₂, -⟩ := hs₁.started (by decide)
  obtain ⟨s₃, _, hthird, hs₃, -⟩ := hs₂.started (by decide)
  have hrun : Run.exec (appendCall hashlib oneRecord) (Store.fresh "journal")
      [(atNoon, started), (atNoon, started), (atNoon, started)] = some s₃ :=
    Run.exec_cons_eq_some.mpr ⟨s₁, appendCall_eq_some.mpr ⟨_, hfirst⟩,
      Run.exec_cons_eq_some.mpr ⟨s₂, appendCall_eq_some.mpr ⟨_, hsecond⟩,
        Run.exec_cons_eq_some.mpr ⟨s₃, appendCall_eq_some.mpr ⟨_, hthird⟩, rfl⟩⟩⟩
  exact ⟨s₃, hrun, hs₃.index, (appends_readBack_iff hrun).mpr ⟨Or.inl rfl, by decide⟩⟩

/-- **An enumeration member with a tuple** is read as a list. -/
theorem enum_tuple_not_readBack :
    ∃ s, Run.exec (appendCall hashlib {}) (Store.fresh "journal")
        [(atNoon, [("mode", .dict [(.str "mode", .enum (.tuple [.int 1, .int 2]))])])] = some s ∧
      ¬ReadsBack hashlib {} s
        (linesOfCalls [(atNoon, [("mode",
          .dict [(.str "mode", .enum (.tuple [.int 1, .int 2]))])])]) := by
  obtain ⟨s, hrun⟩ := Option.isSome_iff_exists.mp
    (show (Run.exec (appendCall hashlib {}) (Store.fresh "journal")
      [(atNoon, [("mode", .dict [(.str "mode", .enum (.tuple [.int 1, .int 2]))])])]).isSome =
        true by
      decide +kernel)
  refine ⟨s, hrun, ?_⟩
  rintro ⟨reopened, read, -, -, hback⟩
  have hplain := plain_of_readBack hback _ mem_cons_self
  revert hplain
  decide

end Successful

/-! ## Appends that may fail -/

/-- A call and how it counts. -/
structure Batch where
  outcome : Outcome
  lines : List Line

/-- The lines that may be found after some calls: those of every reported one, of a call that
was written but failed perhaps, and none of the others. -/
inductive Keeps : List Batch → List Line → Prop
  | nil : Keeps [] []
  | keep {batch : Batch} {rest : List Batch} {said : List Line} (h : batch.outcome ≠ .lost) :
      Keeps rest said → Keeps (batch :: rest) (batch.lines ++ said)
  | drop {batch : Batch} {rest : List Batch} {said : List Line} (h : batch.outcome ≠ .reported) :
      Keeps rest said → Keeps (batch :: rest) said

theorem Keeps.append {first second : List Batch} {said said' : List Line} (h : Keeps first said)
    (h' : Keeps second said') : Keeps (first ++ second) (said ++ said') := by
  induction h with
  | nil => exact h'
  | keep hkept _ ih =>
    rw [append_assoc]
    exact ih.keep hkept
  | drop hdropped _ ih => exact ih.drop hdropped

theorem keeps_single (batch : Batch) :
    Keeps [batch] (if batch.outcome = .lost then [] else batch.lines) := by
  split
  next hlost =>
    refine Keeps.nil.drop ?_
    rw [hlost]
    decide
  next hkept =>
    have hlast := Keeps.nil.keep hkept
    rw [append_nil] at hlast
    exact hlast

/-- A journal and the calls made on it. -/
structure Session where
  store : Store
  batches : List Batch := []

/-- What may happen to a journal: `append_batch`, or the process ends and a new one starts. -/
inductive Action where
  | append (env : AppendEnv) (entries : List Entry)
  | restart

/-- A session in an empty directory. -/
def Session.fresh (journalId : String) : Session := { store := Store.fresh journalId }

/-- One step of a session; a start that is refused ends it. -/
def Session.step (H : Digests) (cfg : Config) (x : Session) : Action → Option Session
  | .append env entries =>
    let ended := x.store.appendBatch H cfg env entries
    some
      { store := ended.1
        batches := x.batches ++ [⟨outcomeOf env ended.2, linesOf env.ts entries⟩] }
  | .restart =>
    match Store.reopen H cfg x.store.journalId x.store.disk with
    | .error _ => none
    | .ok s => some { x with store := s }

/-- **Nothing is lost and nothing is added**: a start reads the lines that may be found. -/
def Session.Durable (H : Digests) (cfg : Config) (x : Session) : Prop :=
  ∃ said, Keeps x.batches said ∧ ReadsBack H cfg x.store said

/-- The batch would need the segment file that is already there. -/
def Store.Blocked (H : Digests) (cfg : Config) (s : Store) (env : AppendEnv)
    (entries : List Entry) : Prop :=
  s.activeSegmentIndex < s.disk.segments.length ∧
    match encodeBatch H cfg s.journalId env.ts s.position 0 entries with
    | .error _ => True
    | .ok batch =>
      s.rotates cfg (batch.flatMap EncodedEvent.frame).length batch.length = true

/-- When an action is safe: payloads are plain, files are written completely or not at all,
and nothing is appended while the files hold bytes the counters do not know of. -/
def Session.Safe (H : Digests) (cfg : Config) (x : Session) : Action → Prop
  | .append env entries =>
    (∀ entry ∈ entries, entry.2.normalize.IsPlain) ∧ env.create.Whole ∧ env.write.Whole ∧
      (x.store.Settled ∨ x.store.Blocked H cfg env entries)
  | .restart => True

section Failing

variable {H : Digests} {cfg : Config}

/-- An append that needs a file which is there changes nothing. -/
theorem appendBatch_blocked {s next : Store} {env : AppendEnv} {entries : List Entry}
    {result : Except WriteError (List ℕ)} (henabled : cfg.enabled = true)
    (h : s.Blocked H cfg env entries) (heq : s.appendBatch H cfg env entries = (next, result)) :
    next = s ∧ (outcomeOf env result = .lost ∨ entries = []) := by
  obtain ⟨hthere, hrotates⟩ := h
  unfold Store.appendBatch at heq
  rw [henabled, if_neg (by decide)] at heq
  split at heq
  next hempty =>
    cases heq
    exact ⟨rfl, Or.inr hempty⟩
  cases hbatch : encodeBatch H cfg s.journalId env.ts s.position 0 entries with
  | error err =>
    rw [hbatch] at heq
    cases heq
    exact ⟨rfl, Or.inl (outcomeOf_error (encodeBatch_error hbatch))⟩
  | ok batch =>
    rw [hbatch] at heq hrotates
    have hrefused : ∃ err, s.ensureAppendSegment H cfg env
        (batch.flatMap EncodedEvent.frame).length batch.length = (s, .error err) := by
      unfold Store.ensureAppendSegment Store.createSegment
      rw [if_pos hrotates]
      simp only
      split
      · exact ⟨_, rfl⟩
      · exact ⟨_, rfl⟩
    obtain ⟨err, hrefused⟩ := hrefused
    simp only [hrefused] at heq
    cases heq
    exact ⟨rfl, Or.inl (outcomeOf_error (ensureAppendSegment_error hrefused))⟩

/-- What safe actions keep. -/
structure Session.Kept (H : Digests) (cfg : Config) (x : Session) (segments : List Segment) :
    Prop where
  intact : Intact H cfg x.store.journalId x.store.disk segments
  inSync : x.store.Settled → InSync H cfg x.store segments
  head : x.store.disk.head = none
  keeps : Keeps x.batches ((recordsOf segments).map Stored.line)

theorem Session.Kept.durable {x : Session} {segments : List Segment}
    (henabled : cfg.enabled = true)
    (h : x.Kept H cfg segments) : x.Durable H cfg :=
  ⟨_, h.keeps, readsBack_intact henabled h.intact (Or.inl h.head)⟩

/-- **One safe action.** -/
theorem step_kept {x : Session} {action : Action} (henabled : cfg.enabled = true)
    (h : ∃ segments, x.Kept H cfg segments) (hsafe : x.Safe H cfg action) :
    ∃ y, x.step H cfg action = some y ∧ ∃ segments, y.Kept H cfg segments := by
  obtain ⟨segments, h⟩ := h
  cases action with
  | restart =>
    obtain ⟨s, hreopen, hidentity, hdisk, hsync⟩ :=
      reopen_intact henabled h.intact (Or.inl h.head)
    refine ⟨{ x with store := s }, ?_, segments, hsync.intact, fun _ => hsync, ?_, h.keeps⟩
    · unfold Session.step
      rw [hreopen]
    · show s.disk.head = none
      rw [hdisk, h.head]
  | append env entries =>
    obtain ⟨hplain, hcreate, hwrite, hready⟩ := hsafe
    cases hended : x.store.appendBatch H cfg env entries with
    | mk next result =>
      refine ⟨_, rfl, ?_⟩
      simp only [hended]
      rcases hready with hsettled | hblocked
      · obtain ⟨segments', records, hleads, hrecords, hlines, -⟩ :=
          appendBatch_inSync henabled (h.inSync hsettled) hplain hcreate hwrite hended
        refine ⟨segments', hleads.intact, hleads.inSync, ?_, ?_⟩
        · exact hleads.documents.head.trans h.head
        · rw [hrecords, map_append, hlines]
          exact h.keeps.append (keeps_single ⟨outcomeOf env result, linesOf env.ts entries⟩)
      · obtain ⟨rfl, hnone⟩ := appendBatch_blocked henabled hblocked hended
        refine ⟨segments, h.intact, h.inSync, h.head, ?_⟩
        have hlast := keeps_single ⟨outcomeOf env result, linesOf env.ts entries⟩
        have hnothing : (if outcomeOf env result = .lost then [] else linesOf env.ts entries) =
            [] := by
          rcases hnone with hlost | rfl
          · exact if_pos hlost
          · exact ite_self _
        simp only [hnothing] at hlast
        have hkeeps := h.keeps.append hlast
        rw [append_nil] at hkeeps
        exact hkeeps

/-- **Appends that may fail**: after safe actions a start succeeds and finds exactly the records
of the calls that were reported, and of those whose write was complete. -/
theorem run_durable {journalId : String} {actions : List Action} (henabled : cfg.enabled = true)
    (hsafe : Run.Along (Session.step H cfg) (Session.Safe H cfg) (Session.fresh journalId)
      actions) :
    ∃ x, Run.exec (Session.step H cfg) (Session.fresh journalId) actions = some x ∧
      x.Durable H cfg := by
  have hfresh := inSync_fresh H cfg journalId
  obtain ⟨x, hexec, segments, hkept⟩ := Run.exec_progress
    (fun x action h hsafe => step_kept henabled h hsafe)
    ⟨[], hfresh.intact, fun _ => hfresh, rfl, Keeps.nil⟩ hsafe
  exact ⟨x, hexec, hkept.durable henabled⟩

/-- **A repeated sequence number** stops every start. -/
theorem reopen_repeated {disk : Disk} {createdAtUtc : String} {records more : List Stored}
    (henabled : cfg.enabled = true) (hhead : disk.head = none)
    (hfiles : disk.segments = [(Segment.mk createdAtUtc records).file H journalId 1 origin ++
      recordBytes H journalId origin more])
    (hreadable : (Segment.mk createdAtUtc records).Readable H journalId 1 origin
      cfg.maxFrameBytes)
    (hmore : ∀ payload ∈ payloads H journalId origin more, Fits cfg.maxFrameBytes payload)
    (hrecords : records ≠ []) (hne : more ≠ []) :
    ∃ err, Store.reopen H cfg journalId disk = .error err := by
  have hplace : origin.expectedSeq ≠ (endOf H journalId origin records).expectedSeq := by
    have hlength := length_pos_of_ne_nil hrecords
    rw [expectedSeq_endOf]
    omega
  obtain ⟨r, rest, rfl⟩ := exists_cons_of_ne_nil hne
  have hdecoded := decodeFrames_payloads H journalId none (r :: rest) origin []
  rw [append_nil] at hdecoded
  have hpasses : Passes H journalId (Anchor.check {}) origin records :=
    passes_anchor_of_outside H journalId (Or.inl Nat.one_pos)
  have hrefused : readRecords H journalId (Anchor.check {}) origin
      (docs H journalId origin records ++ docs H journalId origin (r :: rest)) =
        .error (.sequenceGap (endOf H journalId origin records).expectedSeq) := by
    rw [readRecords_append H journalId hpasses, docs, readRecords,
      r.validateRecord_gap _ _ _ hplace]
  have hheader : validateSegmentHeader journalId
      ((Segment.mk createdAtUtc records).header journalId 1 origin).toJson.sortKeys 1 (some "") =
        .ok (1, "") :=
    Segment.validateSegmentHeader_header journalId 1 origin _ Nat.one_pos
      (fun expected heq => (Option.some.inj heq).symm)
  have hsegment : scanSegment H cfg.maxFrameBytes journalId {} { anchorSeen := true } 1
      ((Segment.mk createdAtUtc records).file H journalId 1 origin ++
        recordBytes H journalId origin (r :: rest)) =
        .error (.sequenceGap (endOf H journalId origin records).expectedSeq) := by
    unfold origin at hrefused
    unfold scanSegment recordBytes
    rw [Segment.iterFrames_append H journalId 1 origin _ hreadable hmore]
    simp only [hdecoded, decodeFrames, append_nil, le_refl, if_true, hheader, lt_irrefl,
      if_false,
      ne_eq, not_true_eq_false, and_false, decide_false]
    simp only [Bool.false_eq_true, if_false]
    exact hrefused ▸ rfl
  refine ⟨.sequenceGap (endOf H journalId origin records).expectedSeq, ?_⟩
  unfold Store.reopen scanTail loadCheckpoint
  rw [henabled, if_neg (by decide), hhead]
  simp only [hfiles]
  unfold scanSegments
  rw [if_neg (cons_ne_nil _ _), if_neg (by simp)]
  simp only [scanLoop, decide_true, hsegment]

end Failing

/-- An append at noon whose `fsync` fails. -/
def notSyncedAtNoon : AppendEnv :=
  { ts := fun _ => noon, createdAtUtc := noon, write := .notSynced }

theorem run_durable_notSynced :
    ∃ x, Run.exec (Session.step hashlib {}) (Session.fresh "journal")
        [.append notSyncedAtNoon started, .restart] = some x ∧
      x.Durable hashlib {} :=
  run_durable rfl
    ⟨⟨by decide, trivial, trivial, Or.inl (by decide)⟩, fun _ _ => ⟨trivial, fun _ _ => trivial⟩⟩

/-- A batch is written but not synced, and the next one is written. -/
def retryAfterFsync : List Action :=
  [.append notSyncedAtNoon started, .append atNoon started]

/-- **An append after a failed `fsync`** repeats a sequence number. -/
theorem retryAfterFsync_not_durable :
    ∃ x, Run.exec (Session.step hashlib {}) (Session.fresh "journal") retryAfterFsync = some x ∧
      ¬x.Durable hashlib {} := by
  obtain ⟨encoded, hbatch, -⟩ := @started_encodes hashlib {} (fun _ => noon) origin rfl
    (by decide +kernel) (by decide) (by decide)
  let batch := [encoded]
  obtain ⟨records, hlines, hencodes⟩ := encodeBatch_plain (by decide) hbatch
  obtain ⟨r, rest, rfl⟩ : ∃ r rest, records = r :: rest := by
    cases records with
    | nil => cases hlines
    | cons r rest => exact ⟨r, rest, rfl⟩
  let bytes := batch.flatMap EncodedEvent.frame
  let unsynced : Session :=
    { store := Store.opened hashlib "journal" noon.text ([] ++ bytes)
      batches := [⟨.written, linesOf notSyncedAtNoon.ts started⟩] }
  let repeated : Session :=
    { store := (Store.opened hashlib "journal" noon.text ([] ++ bytes ++ bytes)).advance batch
      batches := unsynced.batches ++ [⟨.reported, linesOf atNoon.ts started⟩] }
  have hfirst : (Session.fresh "journal").step hashlib {} (.append notSyncedAtNoon started) =
      some unsynced := by
    have happend := (@appendBatch_fresh hashlib {} notSyncedAtNoon _ started "journal" rfl
      (by decide) ⟨rfl, rfl⟩ hbatch).trans (writeBatch_opened_notSynced rfl rfl)
    unfold Session.step Session.fresh
    simp only [happend]
    rfl
  have hsecond : unsynced.step hashlib {} (.append atNoon started) = some repeated := by
    have happend := (@appendBatch_stays hashlib {} (Store.opened hashlib "journal" noon.text
      ([] ++ bytes)) atNoon started _ rfl (by decide) hbatch rfl).trans
        (writeBatch_opened_done rfl rfl)
    unfold Session.step
    simp only [unsynced, happend]
    rfl
  refine ⟨repeated, ?_, ?_⟩
  · exact Run.exec_cons_eq_some.mpr ⟨unsynced, hfirst,
      Run.exec_cons_eq_some.mpr ⟨repeated, hsecond, rfl⟩⟩
  rintro ⟨said, -, reopened, read, hreopen, -⟩
  have hheader := @header_size_le hashlib "journal" 1 origin noon [] r (by decide)
  have hfits := hencodes.fits _ mem_cons_self
  have hfile : repeated.store.disk.segments =
      [(Segment.mk noon.text (r :: rest)).file hashlib "journal" 1 origin ++
        recordBytes hashlib "journal" origin (r :: rest)] := by
    have hstart : Store.segmentStart hashlib ((Store.fresh "journal").nextHeader noon.text) =
        Store.segmentStart hashlib
          ((Segment.mk noon.text (r :: rest)).header "journal" 1 origin) := rfl
    rw [Segment.file, append_assoc, ← hencodes.frames, ← hstart]
    rfl
  obtain ⟨err, hrefused⟩ := @reopen_repeated hashlib {} "journal" repeated.store.disk noon.text
    (r :: rest) (r :: rest) rfl rfl hfile
    ⟨⟨utf8_dumps_ne_nil (cons_ne_nil _ _), le_trans hheader hfits.length_le,
      lt_of_le_of_lt hheader hfits.length_lt⟩, hencodes.fits⟩ hencodes.fits
    (cons_ne_nil _ _) (cons_ne_nil _ _)
  have hsame : Store.reopen hashlib {} repeated.store.journalId repeated.store.disk =
    .error err := hrefused
  rw [hsame] at hreopen
  cases hreopen

end ChronosHFT.Journal
